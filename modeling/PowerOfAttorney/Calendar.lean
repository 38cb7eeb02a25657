/-!
Days of the proleptic Gregorian calendar in the years -9999 to 9999, with a year 0.

A day is also named by its place in its year, which is how days are stored.
-/

namespace PowerOfAttorney

namespace Calendar

/-- Whether a year has a 29 February. -/
def isLeap (year : Int) : Bool := year % 4 == 0 && (year % 100 != 0 || year % 400 == 0)

/-- The number of days in a month; none for a number that names no month. -/
def daysIn (year : Int) : Nat → Nat
  | 1 => 31
  | 2 => if isLeap year then 29 else 28
  | 3 => 31
  | 4 => 30
  | 5 => 31
  | 6 => 30
  | 7 => 31
  | 8 => 31
  | 9 => 30
  | 10 => 31
  | 11 => 30
  | 12 => 31
  | _ => 0

/-- The number of days in the months before a month. -/
def daysBefore (year : Int) : Nat → Nat
  | 0 => 0
  | month + 1 => daysBefore year month + daysIn year month

/-- The month, from the given ones in order, and the day of it that a count of days falls on. -/
def locate (year : Int) (n : Nat) : List Nat → Option (Nat × Nat)
  | [] => none
  | month :: later => if n ≤ daysIn year month then some (month, n) else locate year (n - daysIn year month) later

/-- Whether the three numbers name a day. -/
def IsDay (year : Int) (month day : Nat) : Prop := -9999 ≤ year ∧ year ≤ 9999 ∧ 1 ≤ day ∧ day ≤ daysIn year month

instance (year : Int) (month day : Nat) : Decidable (IsDay year month day) := by
  unfold IsDay; infer_instance

/-! ### The place of a day in its year -/

theorem daysIn_le (year : Int) (month : Nat) : daysIn year month ≤ 31 := by
  unfold daysIn
  split <;> (try split) <;> omega

theorem daysBefore_le (year : Int) (month : Nat) : daysBefore year month ≤ 31 * month := by
  induction month with
  | zero => exact Nat.le_refl 0
  | succ month ih =>
    have hmonth := daysIn_le year month
    rw [daysBefore]
    omega

theorem daysBefore_mono (year : Int) {first month : Nat} (h : first ≤ month) :
    daysBefore year first ≤ daysBefore year month := by
  induction h with
  | refl => exact Nat.le_refl _
  | step _ ih => exact Nat.le_trans ih (Nat.le_add_right _ _)

/-- A month that has days is one of the twelve. -/
theorem IsDay.month_le {year : Int} {month day : Nat} (h : IsDay year month day) : 1 ≤ month ∧ month ≤ 12 := by
  obtain ⟨-, -, hfirst, hlast⟩ := h
  unfold daysIn at hlast
  split at hlast <;> omega

/-- Counted from the beginning of a month, the days of a later one come after those of all months in between. -/
theorem locate_range {year : Int} {first count month day : Nat} (hfirst : first ≤ month) (hcount : month < first + count)
    (hday : 1 ≤ day) (hlast : day ≤ daysIn year month) :
    locate year (daysBefore year month - daysBefore year first + day) (List.range' first count) = some (month, day) := by
  induction count generalizing first with
  | zero => omega
  | succ count ih =>
    rw [List.range'_succ, locate]
    rcases Nat.eq_or_lt_of_le hfirst with rfl | hlt
    · rw [Nat.sub_self, Nat.zero_add, if_pos hlast]
    · have later := daysBefore_mono year (Nat.succ_le_of_lt hlt)
      have next := ih hlt (by omega)
      rw [daysBefore] at later
      rw [if_neg (by omega)]
      rw [daysBefore] at next
      rw [← next]
      congr 1
      omega

/-! ### Days that other years have -/

theorem daysIn_congr {year year' : Int} {month : Nat} (h : month ≠ 2) : daysIn year month = daysIn year' month := by
  unfold daysIn
  split <;> first | rfl | exact absurd rfl h

/-- A day of one year is a day of another, but for a 29 February that the other lacks. -/
theorem IsDay.isDay_iff {year year' : Int} {month day : Nat} (h : IsDay year month day) (hfirst : -9999 ≤ year')
    (hlast : year' ≤ 9999) : IsDay year' month day ↔ ¬(month = 2 ∧ day = 29 ∧ isLeap year' = false) := by
  obtain ⟨-, -, hpos, hdays⟩ := h
  constructor
  · rintro ⟨-, -, -, there⟩ ⟨rfl, rfl, common⟩
    rw [daysIn, common] at there
    exact absurd there (by decide)
  · intro spared
    refine ⟨hfirst, hlast, hpos, ?_⟩
    by_cases february : month = 2
    · subst february
      have most : day ≤ 29 := by
        rw [daysIn] at hdays
        split at hdays <;> omega
      rw [daysIn]
      cases leap : isLeap year' with
      | true => exact most
      | false =>
        have other : day ≠ 29 := fun hday => spared ⟨rfl, hday, leap⟩
        exact Nat.lt_succ_iff.1 (Nat.lt_of_le_of_ne most other)
    · rw [daysIn_congr february]
      exact hdays

end Calendar

/-- A day of the calendar. -/
structure Date where
  year : Int
  month : Nat
  day : Nat
  isDay : Calendar.IsDay year month day
deriving DecidableEq

namespace Date

open Calendar

instance : Repr Date := ⟨fun d _ => repr (d.year, d.month, d.day)⟩

/-- The day of these numbers, if there is one. -/
def of? (year : Int) (month day : Nat) : Option Date :=
  if h : IsDay year month day then some ⟨year, month, day, h⟩ else none

theorem of?_eq_some_iff {year : Int} {month day : Nat} {d : Date} :
    of? year month day = some d ↔ d.year = year ∧ d.month = month ∧ d.day = day := by
  obtain ⟨year', month', day', isDay⟩ := d
  rw [of?, Option.dite_none_right_eq_some]
  constructor
  · rintro ⟨_, h⟩
    cases h
    exact ⟨rfl, rfl, rfl⟩
  · rintro ⟨rfl, rfl, rfl⟩
    exact ⟨isDay, rfl⟩

theorem of?_of_isDay {year : Int} {month day : Nat} (h : IsDay year month day) :
    of? year month day = some ⟨year, month, day, h⟩ := of?_eq_some_iff.2 ⟨rfl, rfl, rfl⟩

theorem of?_of_not_isDay {year : Int} {month day : Nat} (h : ¬IsDay year month day) : of? year month day = none :=
  dif_neg h

/-- A number that grows with the day: a month counts as 31 days, a year as twelve months. -/
def rank (d : Date) : Int := (d.year * 12 + d.month) * 31 + d.day

instance : LT Date := ⟨fun a b => a.rank < b.rank⟩
instance : LE Date := ⟨fun a b => a.rank ≤ b.rank⟩
instance (a b : Date) : Decidable (a < b) := inferInstanceAs (Decidable (a.rank < b.rank))
instance (a b : Date) : Decidable (a ≤ b) := inferInstanceAs (Decidable (a.rank ≤ b.rank))

/-- The same day of another year; 28 February where the other year lacks the day, and the day itself where it
    lacks that too. -/
def yearsBefore (d : Date) (years : Int) : Date :=
  match of? (d.year - years) d.month d.day with
  | some e => e
  | none => match of? (d.year - years) 2 28 with
    | some e => e
    | none => d

/-- The place of the day in its year, from 1. -/
def dayOfYear (d : Date) : Nat := daysBefore d.year d.month + d.day

/-- The day at a place in a year. -/
def ofDayOfYear? (year : Int) (n : Nat) : Option Date :=
  match locate year n [1, 2, 3, 4, 5, 6, 7, 8, 9, 10, 11, 12] with
  | some (month, day) => of? year month day
  | none => none

/-- A day is found again at its place in its year. -/
theorem ofDayOfYear?_dayOfYear (d : Date) : ofDayOfYear? d.year d.dayOfYear = some d := by
  obtain ⟨hfirst, hlast⟩ := d.isDay.month_le
  have located : locate d.year d.dayOfYear (List.range' 1 12) = some (d.month, d.day) :=
    locate_range hfirst (by omega) d.isDay.2.2.1 d.isDay.2.2.2
  have months : [1, 2, 3, 4, 5, 6, 7, 8, 9, 10, 11, 12] = List.range' 1 12 := rfl
  rw [ofDayOfYear?, months, located]
  exact dif_pos d.isDay

theorem dayOfYear_le (d : Date) : d.dayOfYear ≤ 403 := by
  have hmonth := d.isDay.month_le.2
  have hbefore := daysBefore_le d.year d.month
  have hday := Nat.le_trans d.isDay.2.2.2 (daysIn_le d.year d.month)
  rw [dayOfYear]
  omega

/-! ### The order of days -/

theorem le_refl (a : Date) : a ≤ a := Int.le_refl a.rank

theorem not_le {a b : Date} : ¬a ≤ b ↔ b < a := Int.not_le

theorem lt_irrefl (a : Date) : ¬a < a := Int.lt_irrefl a.rank

theorem lt_trans {a b c : Date} (hab : a < b) (hbc : b < c) : a < c := Int.lt_trans hab hbc

theorem lt_of_lt_of_le {a b c : Date} (hab : a < b) (hbc : b ≤ c) : a < c := Int.lt_of_lt_of_le hab hbc

/-- Days are compared by their years, then by their months, then by their places in the month. -/
theorem lt_iff {a b : Date} :
    a < b ↔ a.year < b.year ∨ a.year = b.year ∧ (a.month < b.month ∨ a.month = b.month ∧ a.day < b.day) := by
  obtain ⟨hfirst, hlast⟩ := a.isDay.month_le
  obtain ⟨hfirst', hlast'⟩ := b.isDay.month_le
  have hday := Nat.le_trans a.isDay.2.2.2 (daysIn_le _ _)
  have hday' := Nat.le_trans b.isDay.2.2.2 (daysIn_le _ _)
  have hpos := a.isDay.2.2.1
  have hpos' := b.isDay.2.2.1
  change a.rank < b.rank ↔ _
  unfold rank
  omega

theorem lt_of_year {a b : Date} (h : a.year < b.year) : a < b := lt_iff.2 (.inl h)

end Date

end PowerOfAttorney
