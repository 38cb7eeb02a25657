import Mathlib.Data.Nat.Digits.Defs
import PowerOfAttorney.DateBoxes

/-! Dates of birth: how they are read from the boxes, and what an age is worth a warning for. The boxes hold a date if
each holds a number, in any number of digits, and the numbers are those of a day of the calendar
(`DateBoxes.date?_eq_some_iff`). A list of errors gets at most one for them (`DateBoxes.read_exactly`), and none exactly
if the date that they hold is past. Which ages are warned of goes by the years completed, on leap days too
(`AgeWarning.ages_warned`). -/

namespace PowerOfAttorney

open Text

/-! ### Numbers as they are typed -/

namespace Text.Decimal

/-- One or more digits, zeros in front among them, and the number that they stand for. -/
structure Spells (cs : List Char) (n : Nat) : Prop where
  nonempty : cs ≠ []
  digits : ∀ c ∈ cs, c.isDigit = true
  value : Nat.ofDigits 10 (cs.reverse.map fun c => c.toNat - '0'.toNat) = n

/-- A number that may have a plus sign in front. -/
inductive Natural : List Char → Nat → Prop
  | plain {cs n} : Spells cs n → Natural cs n
  | plus {cs n} : Spells cs n → Natural ('+' :: cs) n

/-- A number that may have a sign in front. -/
inductive Whole : List Char → Int → Prop
  | natural {cs n} : Natural cs n → Whole cs n
  | minus {cs n} : Spells cs n → Whole ('-' :: cs) (-n)

variable {cs : List Char} {n : Nat}

theorem Spells.isDigit_head {c : Char} (h : Spells (c :: cs) n) : c.isDigit = true := h.digits c List.mem_cons_self

theorem Natural.nonempty (h : Natural cs n) : cs ≠ [] := by
  rcases h with h | h
  · exact h.nonempty
  · exact List.cons_ne_nil _ _

theorem Whole.nonempty {i : Int} (h : Whole cs i) : cs ≠ [] := by
  rcases h with h | h
  · exact h.nonempty
  · exact List.cons_ne_nil _ _

theorem digit?_eq_some_iff {c : Char} {d : Nat} : digit? c = some d ↔ c.isDigit = true ∧ c.toNat - '0'.toNat = d := by
  have isDigit_iff : c.isDigit = true ↔ 48 ≤ c.toNat ∧ c.toNat ≤ 57 := by
    rw [Char.isDigit, Bool.and_eq_true, decide_eq_true_iff, decide_eq_true_iff]
    exact Iff.rfl
  rw [digit?, Option.ite_none_right_eq_some, isDigit_iff, Option.some.injEq]
  exact Iff.rfl

/-- Digits after those already read into a number move these up by their own length. -/
theorem accumulate?_eq_some_iff {m : Nat} : accumulate? n cs = some m ↔ (∀ c ∈ cs, c.isDigit = true) ∧
    10 ^ cs.length * n + Nat.ofDigits 10 (cs.reverse.map fun c => c.toNat - '0'.toNat) = m := by
  induction cs generalizing n with
  | nil => simp [accumulate?]
  | cons c r ih =>
    have step : accumulate? n (c :: r) = (digit? c).bind fun d => accumulate? (10 * n + d) r := by
      rw [accumulate?]
      cases digit? c <;> rfl
    simp only [step, Option.bind_eq_some_iff, digit?_eq_some_iff, ih, List.forall_mem_cons, List.reverse_cons,
      List.map_append, Nat.ofDigits_append, List.length_cons, List.length_map, List.length_reverse, List.map_cons,
      List.map_nil, Nat.ofDigits_singleton]
    constructor
    · rintro ⟨d, ⟨hc, rfl⟩, hr, rfl⟩
      exact ⟨⟨hc, hr⟩, by ring⟩
    · rintro ⟨⟨hc, hr⟩, rfl⟩
      exact ⟨_, ⟨hc, rfl⟩, hr, by ring⟩

theorem ofDigits?_eq_some_iff : ofDigits? cs = some n ↔ Spells cs n := by
  cases cs with
  | nil => exact ⟨nofun, fun h => absurd rfl h.nonempty⟩
  | cons c r =>
    rw [ofDigits?, accumulate?_eq_some_iff, Nat.mul_zero, Nat.zero_add]
    · exact ⟨fun ⟨digits, value⟩ => ⟨List.cons_ne_nil _ _, digits, value⟩, fun h => ⟨h.digits, h.value⟩⟩
    · exact nofun

theorem naturalOfChars?_eq_some_iff : naturalOfChars? cs = some n ↔ Natural cs n := by
  unfold naturalOfChars?
  split
  · rw [ofDigits?_eq_some_iff]
    refine ⟨.plus, ?_⟩
    rintro (h | h)
    · exact absurd h.isDigit_head (by decide)
    · exact h
  · rename_i unsigned
    rw [ofDigits?_eq_some_iff]
    refine ⟨.plain, ?_⟩
    rintro (h | h)
    · exact h
    · exact absurd rfl (unsigned _)

theorem integerOfChars?_minus :
    integerOfChars? ('-' :: cs) = Option.map (fun n : Nat => -(n : Int)) (ofDigits? cs) := by
  rw [integerOfChars?]
  cases ofDigits? cs <;> rfl

theorem integerOfChars?_of_ne (unsigned : ∀ r, cs ≠ '-' :: r) :
    integerOfChars? cs = Option.map (fun n : Nat => (n : Int)) (naturalOfChars? cs) := by
  rw [integerOfChars?]
  · cases naturalOfChars? cs <;> rfl
  · exact unsigned

theorem integerOfChars?_eq_some_iff {i : Int} : integerOfChars? cs = some i ↔ Whole cs i := by
  by_cases negative : ∃ r, cs = '-' :: r
  · obtain ⟨r, rfl⟩ := negative
    simp only [integerOfChars?_minus, Option.map_eq_some_iff, ofDigits?_eq_some_iff]
    constructor
    · rintro ⟨n, h, rfl⟩
      exact .minus h
    · rintro ((h | h) | h)
      · exact absurd h.isDigit_head (by decide)
      · exact ⟨_, h, rfl⟩
  · rw [not_exists] at negative
    simp only [integerOfChars?_of_ne negative, Option.map_eq_some_iff, naturalOfChars?_eq_some_iff]
    constructor
    · rintro ⟨n, h, rfl⟩
      exact .natural h
    · rintro (h | h)
      · exact ⟨_, h, rfl⟩
      · exact absurd rfl (negative _)

end Text.Decimal

/-! ### The boxes -/

namespace DateBoxes

/-- What is typed into the boxes, blanks around it aside, are the numbers of a date. -/
structure Holds (b : DateBoxes) (d : Date) : Prop where
  day : Decimal.Natural (trim b.day).toList d.day
  month : Decimal.Natural (trim b.month).toList d.month
  year : Decimal.Whole (trim b.year).toList d.year

/-- What can be wrong with boxes that ask for a day before today. -/
inductive Fault (b : DateBoxes) (label : String) (today : Date) : FieldError → Prop
  | blank : trim b.day = "" ∧ trim b.month = "" ∧ trim b.year = "" → Fault b label today (.enter label)
  | missing : ¬(trim b.day = "" ∧ trim b.month = "" ∧ trim b.year = "") →
      trim b.day = "" ∨ trim b.month = "" ∨ trim b.year = "" →
      Fault b label today (.dateMissing label (trim b.day = "") (trim b.month = "") (trim b.year = ""))
  | unreal : ¬(trim b.day = "" ∨ trim b.month = "" ∨ trim b.year = "") → b.date? = none →
      Fault b label today (.dateNotReal label)
  | unpast (d : Date) : b.date? = some d → today ≤ d → Fault b label today (.dateNotPast label)

variable {b : DateBoxes} {d today : Date} {label : String}

theorem date?_eq_some_iff : b.date? = some d ↔ b.Holds d := by
  have read : b.date? = (Decimal.natural? (trim b.day)).bind fun day =>
      (Decimal.natural? (trim b.month)).bind fun month =>
        (Decimal.integer? (trim b.year)).bind fun year => Date.of? year month day := by
    rw [date?]
    cases Decimal.natural? (trim b.day) <;> cases Decimal.natural? (trim b.month) <;>
      cases Decimal.integer? (trim b.year) <;> rfl
  simp only [read, Option.bind_eq_some_iff, Date.of?_eq_some_iff]
  constructor
  · rintro ⟨day, hday, month, hmonth, year, hyear, rfl, rfl, rfl⟩
    exact ⟨Decimal.naturalOfChars?_eq_some_iff.1 hday, Decimal.naturalOfChars?_eq_some_iff.1 hmonth,
      Decimal.integerOfChars?_eq_some_iff.1 hyear⟩
  · intro h
    exact ⟨_, Decimal.naturalOfChars?_eq_some_iff.2 h.day, _, Decimal.naturalOfChars?_eq_some_iff.2 h.month, _,
      Decimal.integerOfChars?_eq_some_iff.2 h.year, rfl, rfl, rfl⟩

/-- No box is blank of those that hold a date. -/
theorem Holds.given (h : b.Holds d) : ¬(trim b.day = "" ∨ trim b.month = "" ∨ trim b.year = "") := by
  rintro (hday | hmonth | hyear)
  · exact h.day.nonempty (String.toList_eq_nil_iff.2 hday)
  · exact h.month.nonempty (String.toList_eq_nil_iff.2 hmonth)
  · exact h.year.nonempty (String.toList_eq_nil_iff.2 hyear)

theorem pastError?_eq : b.pastError? label today =
    if trim b.day = "" ∧ trim b.month = "" ∧ trim b.year = "" then some (.enter label)
    else if trim b.day = "" ∨ trim b.month = "" ∨ trim b.year = "" then
      some (.dateMissing label (trim b.day = "") (trim b.month = "") (trim b.year = ""))
    else match b.date? with
      | none => some (.dateNotReal label)
      | some d => if today ≤ d then some (.dateNotPast label) else none := by
  have blank_iff : b.isBlank = true ↔ trim b.day = "" ∧ trim b.month = "" ∧ trim b.year = "" := by
    simp only [isBlank, Bool.and_eq_true, trim_eq_empty_iff, and_assoc]
  have missing_iff : (allBlank b.day || allBlank b.month || allBlank b.year) = true ↔
      trim b.day = "" ∨ trim b.month = "" ∨ trim b.year = "" := by
    simp only [Bool.or_eq_true, trim_eq_empty_iff, or_assoc]
  refine if_congr blank_iff rfl (if_congr missing_iff ?_ rfl)
  simp only [trim_eq_empty_iff, Bool.decide_eq_true]

theorem pastError?_eq_some_iff {e : FieldError} : b.pastError? label today = some e ↔ b.Fault label today e := by
  rw [pastError?_eq]
  constructor
  · intro h
    split at h
    · rename_i blank
      cases h
      exact .blank blank
    · rename_i typed
      split at h
      · rename_i missing
        cases h
        exact .missing typed missing
      · rename_i given
        split at h
        · rename_i unreal
          cases h
          exact .unreal given unreal
        · rename_i d held
          obtain ⟨unpast, h⟩ := Option.ite_none_right_eq_some.1 h
          cases h
          exact .unpast d held unpast
  · rintro (blank | ⟨typed, missing⟩ | ⟨given, unreal⟩ | ⟨d, held, unpast⟩)
    · rw [if_pos blank]
    · rw [if_neg typed, if_pos missing]
    · have typed := fun blank : trim b.day = "" ∧ trim b.month = "" ∧ trim b.year = "" => given (.inl blank.1)
      rw [if_neg typed, if_neg given, unreal]
    · have given := (date?_eq_some_iff.1 held).given
      have typed := fun blank : trim b.day = "" ∧ trim b.month = "" ∧ trim b.year = "" => given (.inl blank.1)
      rw [if_neg typed, if_neg given, held]
      exact if_pos unpast

theorem pastError?_eq_none_iff : b.pastError? label today = none ↔ ∃ d, b.date? = some d ∧ d < today := by
  constructor
  · intro h
    have faultless (e : FieldError) : ¬b.Fault label today e := by
      rw [← pastError?_eq_some_iff, h]
      exact nofun
    cases held : b.date? with
    | none =>
      by_cases missing : trim b.day = "" ∨ trim b.month = "" ∨ trim b.year = ""
      · by_cases blank : trim b.day = "" ∧ trim b.month = "" ∧ trim b.year = ""
        · exact absurd (.blank blank) (faultless _)
        · exact absurd (.missing blank missing) (faultless _)
      · exact absurd (.unreal missing held) (faultless _)
    | some d =>
      refine ⟨d, rfl, Date.not_le.1 fun unpast => ?_⟩
      exact faultless _ (.unpast d held unpast)
  · rintro ⟨d, held, past⟩
    have given := (date?_eq_some_iff.1 held).given
    rw [Option.eq_none_iff_forall_ne_some]
    intro e h
    rcases pastError?_eq_some_iff.1 h with blank | ⟨-, missing⟩ | ⟨-, unreal⟩ | ⟨d', held', unpast⟩
    · exact given (.inl blank.1)
    · exact given missing
    · rw [held] at unreal
      cases unreal
    · rw [held] at held'
      cases held'
      exact Date.not_le.2 past unpast

/-- Boxes are read as the date that they hold, and the boxes of a date as that date. To a list without an error of the
    field they add none exactly if they hold a date that is past. Otherwise they add one, at the end: what is wrong with
    them, and nothing else. -/
theorem read_exactly :
    (∀ (b : DateBoxes) d, b.date? = some d ↔ b.Holds d) ∧
    (∀ d, (ofDate d).date? = some d) ∧
    ∀ (l : ErrorList) (b : DateBoxes) (field label : String) (today : Date), l.has field = false →
      let after := l.addAny field (b.pastError? label today)
      (after = l ↔ ∃ d, b.date? = some d ∧ d < today) ∧
      (∀ e, after.issues = l.issues ++ [⟨field, e⟩] ↔ b.Fault label today e) ∧
      (after = l ∨ ∃ e, after.issues = l.issues ++ [⟨field, e⟩]) := by
  refine ⟨fun _ _ => date?_eq_some_iff, date?_ofDate, ?_⟩
  intro l b field label today unused after
  refine ⟨?_, ?_, ?_⟩
  · rw [ErrorList.addAny_eq_self_iff unused]
    exact pastError?_eq_none_iff
  · intro e
    rw [ErrorList.issues_addAny_eq_iff unused]
    exact pastError?_eq_some_iff
  · rw [ErrorList.addAny_eq_self_iff unused]
    simp only [after, ErrorList.issues_addAny_eq_iff unused]
    exact Option.eq_none_or_eq_some _

/-- A leap day before the year 0, signs and zeros in front and all, is read and is past; 30 February is no day. -/
theorem read_exactly_of_leapDay :
    let l := ErrorList.single "first-names" (.enter "firstNames")
    let today : Date := ⟨2024, 6, 15, by decide⟩
    let leapDay : DateBoxes := { day := " 29 ", month := "+02", year := "-0004" }
    let noDay : DateBoxes := { day := "30", month := "2", year := "1990" }
    leapDay.Holds ⟨-4, 2, 29, by decide⟩ ∧
      l.addAny "date-of-birth" (leapDay.pastError? "dateOfBirth" today) = l ∧
      (l.addAny "date-of-birth" (noDay.pastError? "dateOfBirth" today)).issues =
        l.issues ++ [⟨"date-of-birth", .dateNotReal "dateOfBirth"⟩] := by
  intro l today leapDay noDay
  have unused : l.has "date-of-birth" = false := by decide
  obtain ⟨held_iff, -, judged⟩ := read_exactly
  have held : leapDay.date? = some ⟨-4, 2, 29, by decide⟩ := by decide
  have past_iff := (judged l leapDay "date-of-birth" "dateOfBirth" today unused).1
  have fault_iff := (judged l noDay "date-of-birth" "dateOfBirth" today unused).2.1
  refine ⟨(held_iff _ _).1 held, past_iff.2 ⟨_, held, by decide⟩, (fault_iff _).2 (.unreal ?_ ?_)⟩
  · decide
  · decide

end DateBoxes

/-! ### Days that are years apart -/

namespace Date

open Calendar

/-- The same day of the year, so many years before a day; 28 February stands in for a 29 February that there is not in
    that year. -/
structure SameDayBefore (e d : Date) (years : Int) : Prop where
  year : e.year = d.year - years
  month : e.month = d.month
  day : e.day = if d.month = 2 ∧ d.day = 29 ∧ isLeap (d.year - years) = false then 28 else d.day

/-- The years that someone has completed at a day. -/
def age (birth today : Date) : Int :=
  today.year - birth.year -
    if today.month < birth.month ∨ today.month = birth.month ∧ today.day < birth.day then 1 else 0

theorem sameDayBefore_yearsBefore (d : Date) {years : Int} (hfirst : -9999 ≤ d.year - years)
    (hlast : d.year - years ≤ 9999) : (d.yearsBefore years).SameDayBefore d years := by
  have there_iff := d.isDay.isDay_iff hfirst hlast
  by_cases there : IsDay (d.year - years) d.month d.day
  · rw [yearsBefore, of?_of_isDay there]
    exact ⟨rfl, rfl, (if_neg (there_iff.1 there)).symm⟩
  · have leapDay := not_not.1 fun spared => there (there_iff.2 spared)
    have stands : IsDay (d.year - years) 2 28 := by
      refine ⟨hfirst, hlast, by decide, ?_⟩
      rw [daysIn, leapDay.2.2]
      decide
    rw [yearsBefore, of?_of_not_isDay there, of?_of_isDay stands]
    exact ⟨rfl, leapDay.1.symm, (if_pos leapDay).symm⟩

/-- Whoever is born after the same day of an earlier year has not completed the years since then. Nobody is born on a
    29 February that 28 February stands in for. -/
theorem SameDayBefore.lt_iff_age {e birth today : Date} {years : Int} (same : e.SameDayBefore today years) :
    e < birth ↔ birth.age today < years := by
  obtain ⟨hyear, hmonth, hday⟩ := same
  rw [lt_iff, hyear, hmonth, hday, age]
  split
  · rename_i leapDay
    obtain ⟨february, last, common⟩ := leapDay
    have unborn : birth.year = today.year - years → birth.month = 2 → birth.day ≤ 28 := by
      intro hy hm
      have hbirth := birth.isDay.2.2.2
      rw [hy, hm, daysIn, common] at hbirth
      exact hbirth
    split <;> omega
  · split <;> omega

end Date

/-! ### Ages that are warned of -/

namespace AgeWarning

variable {birth today : Date}

theorem forAttorney_eq_under_iff :
    forAttorney birth today = some .attorneyUnder18 ↔ birth < today ∧ today.yearsBefore 18 < birth := by
  rw [← Date.not_le, forAttorney]
  split
  · rename_i unborn
    exact ⟨nofun, fun young => absurd unborn young.1⟩
  · rename_i past
    split
    · rename_i young
      exact ⟨fun _ => ⟨past, young⟩, fun _ => rfl⟩
    · rename_i grown
      refine ⟨fun h => ?_, fun young => absurd young.2 grown⟩
      split at h <;> cases h

section
variable (recent : -9899 ≤ today.year)
include recent

theorem sameDayBefore_eighteen : (today.yearsBefore 18).SameDayBefore today 18 := by
  have latest := today.isDay.2.1
  exact today.sameDayBefore_yearsBefore (by omega) (by omega)

theorem sameDayBefore_hundred : (today.yearsBefore 100).SameDayBefore today 100 := by
  have latest := today.isDay.2.1
  exact today.sameDayBefore_yearsBefore (by omega) (by omega)

theorem eighteen_lt : today.yearsBefore 18 < today := by
  refine Date.lt_of_year ?_
  rw [(sameDayBefore_eighteen recent).year]
  omega

theorem hundred_lt : today.yearsBefore 100 < today.yearsBefore 18 := by
  refine Date.lt_of_year ?_
  rw [(sameDayBefore_eighteen recent).year, (sameDayBefore_hundred recent).year]
  omega

/-- Nobody is both too young and too old. -/
theorem not_young_of_old (old : birth < today.yearsBefore 100) : ¬today.yearsBefore 18 < birth := by
  intro young
  exact Date.lt_irrefl _ (Date.lt_trans young (Date.lt_trans old (hundred_lt recent)))

theorem forAttorney_eq_over_iff : forAttorney birth today = some .over100 ↔ birth < today.yearsBefore 100 := by
  rw [forAttorney]
  split
  · rename_i unborn
    refine ⟨nofun, fun old => absurd unborn (Date.not_le.2 ?_)⟩
    exact Date.lt_trans old (Date.lt_trans (hundred_lt recent) (eighteen_lt recent))
  · split
    · rename_i young
      exact ⟨nofun, fun old => absurd young (not_young_of_old recent old)⟩
    · split
      · rename_i old
        exact ⟨fun _ => old, fun _ => rfl⟩
      · rename_i notOld
        exact ⟨nofun, fun old => absurd old notOld⟩

theorem forAttorney_eq_none_iff : forAttorney birth today = none ↔
    ¬(birth < today ∧ today.yearsBefore 18 < birth) ∧ ¬birth < today.yearsBefore 100 := by
  rw [← forAttorney_eq_under_iff, ← forAttorney_eq_over_iff recent]
  cases forAttorney birth today with
  | none => exact ⟨fun _ => ⟨nofun, nofun⟩, fun _ => rfl⟩
  | some a =>
    refine ⟨nofun, fun ⟨grown, notOld⟩ => ?_⟩
    cases a with
    | attorneyUnder18 => exact absurd rfl grown
    | over100 => exact absurd rfl notOld

end

theorem forDonor_eq_over_iff : forDonor birth today = some .over100 ↔ birth < today.yearsBefore 100 := by
  rw [forDonor, Option.ite_none_right_eq_some, and_iff_left rfl]

theorem forDonor_eq_none_iff : forDonor birth today = none ↔ ¬birth < today.yearsBefore 100 := by
  rw [forDonor]
  split
  · rename_i old
    exact ⟨nofun, fun notOld => absurd old notOld⟩
  · rename_i notOld
    exact ⟨fun _ => notOld, fun _ => rfl⟩

/-- There is a warning for an attorney below eighteen completed years, and for one born before the same day a hundred
    years ago; for the donor there is only the latter. As the birth goes back from yesterday, the warning of being too
    young gives way to none and that to the warning of being too old, never the other way. -/
theorem ages_warned (birth today : Date) (recent : -9899 ≤ today.year) :
    ∃ hundred : Date, hundred.SameDayBefore today 100 ∧
      (forAttorney birth today = some .attorneyUnder18 ↔ birth < today ∧ birth.age today < 18) ∧
      (forAttorney birth today = some .over100 ↔ birth < hundred) ∧
      (forAttorney birth today = none ↔ ¬(birth < today ∧ birth.age today < 18) ∧ ¬birth < hundred) ∧
      ¬((birth < today ∧ birth.age today < 18) ∧ birth < hundred) ∧
      (forDonor birth today = some .over100 ↔ forAttorney birth today = some .over100) ∧
      (forDonor birth today = none ↔ forAttorney birth today ≠ some .over100) ∧
      ∀ earlier, earlier < birth → birth < today →
        (forAttorney birth today = some .over100 → forAttorney earlier today = some .over100) ∧
        (forAttorney earlier today = some .attorneyUnder18 → forAttorney birth today = some .attorneyUnder18) ∧
        (forAttorney birth today = some .attorneyUnder18 → forAttorney earlier today = some .over100 →
          ∃ between, earlier < between ∧ between < birth ∧ forAttorney between today = none) := by
  refine ⟨today.yearsBefore 100, sameDayBefore_hundred recent, ?_⟩
  rw [← (sameDayBefore_eighteen recent).lt_iff_age, ne_eq, forAttorney_eq_over_iff recent]
  refine ⟨forAttorney_eq_under_iff, Iff.rfl, forAttorney_eq_none_iff recent, ?_, forDonor_eq_over_iff,
    forDonor_eq_none_iff, ?_⟩
  · rintro ⟨⟨-, young⟩, old⟩
    exact not_young_of_old recent old young
  · intro earlier before past
    simp only [forAttorney_eq_under_iff, forAttorney_eq_over_iff recent, forAttorney_eq_none_iff recent]
    refine ⟨fun old => Date.lt_trans before old, ?_, ?_⟩
    · rintro ⟨-, young⟩
      exact ⟨past, Date.lt_trans young before⟩
    · rintro ⟨-, young⟩ old
      -- the eighteenth birthday is neither too early nor too late
      refine ⟨today.yearsBefore 18, Date.lt_trans old (hundred_lt recent), young, ?_, ?_⟩
      · exact fun ⟨_, later⟩ => Date.lt_irrefl _ later
      · exact fun earlier => Date.lt_irrefl _ (Date.lt_trans earlier (hundred_lt recent))

/-- On a leap day, someone born on the day after 28 February has not completed the year. A hundred years before, there
    is no 29 February, and 28 February stands in for it. -/
theorem ages_warned_of_leapDay :
    let today : Date := ⟨2000, 2, 29, by decide⟩
    let young : Date := ⟨1982, 3, 1, by decide⟩
    let aged : Date := ⟨1900, 2, 28, by decide⟩
    forAttorney young today = some .attorneyUnder18 ∧ forAttorney aged today ≠ some .over100 ∧
      ∀ earlier, earlier < aged → forAttorney earlier today = some .over100 := by
  intro today young aged
  have recent : -9899 ≤ today.year := by decide
  obtain ⟨_, -, under_iff, -⟩ := ages_warned young today recent
  refine ⟨under_iff.2 ⟨by decide, by decide⟩, ?_, ?_⟩
  · obtain ⟨hundred, same, -, over_iff, -⟩ := ages_warned aged today recent
    rw [ne_eq, over_iff, Date.lt_iff, same.year, same.month, same.day]
    decide
  · intro earlier before
    obtain ⟨hundred, same, -, over_iff, -⟩ := ages_warned earlier today recent
    rw [Date.lt_iff] at before
    rw [over_iff, Date.lt_iff, same.year, same.month, same.day]
    exact before

end AgeWarning
end PowerOfAttorney
