/-!
Whole numbers in decimal digits.

Reading takes a sign, then one or more ASCII digits with any number of leading zeros, and nothing else.
Writing gives the fewest digits.
-/

namespace PowerOfAttorney.Text.Decimal

/-- The value of an ASCII digit. -/
def digit? (c : Char) : Option Nat :=
  if 48 ≤ c.toNat ∧ c.toNat ≤ 57 then some (c.toNat - 48) else none

/-- The number that the digits write after those already read into `n`. -/
def accumulate? (n : Nat) : List Char → Option Nat
  | [] => some n
  | c :: r => match digit? c with
    | some d => accumulate? (10 * n + d) r
    | none => none

/-- The number written by one or more digits. -/
def ofDigits? : List Char → Option Nat
  | [] => none
  | cs => accumulate? 0 cs

/-- A number with an optional plus sign. -/
def naturalOfChars? : List Char → Option Nat
  | '+' :: r => ofDigits? r
  | cs => ofDigits? cs

/-- A number with an optional plus or minus sign. -/
def integerOfChars? : List Char → Option Int
  | '-' :: r => (ofDigits? r).map fun n => -(n : Int)
  | cs => (naturalOfChars? cs).map fun n => (n : Int)

/-- Reads a text as a number with an optional plus sign. -/
def natural? (s : String) : Option Nat := naturalOfChars? s.toList

/-- Reads a text as a number with an optional plus or minus sign. -/
def integer? (s : String) : Option Int := integerOfChars? s.toList

/-- The character of a digit below ten. -/
def digitChar (d : Nat) : Char := Char.ofNat (48 + d)

/-- The digits of a number, the most significant first. -/
def digits (n : Nat) : List Char :=
  if n < 10 then [digitChar n] else digits (n / 10) ++ [digitChar (n % 10)]
termination_by n

/-- A number in its fewest digits. -/
def ofNat (n : Nat) : String := String.ofList (digits n)

/-- A number in its fewest digits, after a minus sign if it is negative. -/
def ofInt (i : Int) : String :=
  match i with
  | .ofNat n => ofNat n
  | .negSucc n => String.ofList ('-' :: digits (n + 1))

/-- A number in at least `width` digits, with zeros on the left. -/
def padded (width n : Nat) : String :=
  let ds := digits n
  String.ofList (List.replicate (width - ds.length) '0' ++ ds)

/-! ### Reading what was written -/

theorem digit?_digitChar {d : Nat} (h : d < 10) : digit? (digitChar d) = some d := by
  have all : ∀ d < 10, digit? (digitChar d) = some d := by decide
  exact all d h

theorem digits_ne_nil (n : Nat) : digits n ≠ [] := by
  unfold digits
  split <;> simp

/-- Every character of a number is that of a digit. -/
theorem mem_digits {n : Nat} {c : Char} (h : c ∈ digits n) : ∃ d < 10, c = digitChar d := by
  induction n using digits.induct with
  | case1 n hn =>
    rw [digits, if_pos hn, List.mem_singleton] at h
    exact ⟨n, hn, h⟩
  | case2 n hn ih =>
    rw [digits, if_neg hn, List.mem_append, List.mem_singleton] at h
    rcases h with h | rfl
    · exact ih h
    · exact ⟨n % 10, Nat.mod_lt n (by decide), rfl⟩

/-- Only a number of one digit begins with a zero. -/
theorem head?_digits {n : Nat} (h : 10 ≤ n) : (digits n).head? ≠ some '0' := by
  induction n using digits.induct with
  | case1 n hn => omega
  | case2 n hn ih =>
    have hhead : (digits n).head? = (digits (n / 10)).head? := by
      rw [digits, if_neg hn, List.head?_append, List.head?_eq_some_head (digits_ne_nil _), Option.some_or]
    rw [hhead]
    by_cases hone : n / 10 < 10
    · have nonzero : ∀ d < 10, d ≠ 0 → digitChar d ≠ '0' := by decide
      rw [digits, if_pos hone, List.head?_singleton, ne_eq, Option.some.injEq]
      exact nonzero (n / 10) hone (by omega)
    · exact ih (by omega)

theorem accumulate?_append {n m : Nat} {cs : List Char} (h : accumulate? n cs = some m) (ds : List Char) :
    accumulate? n (cs ++ ds) = accumulate? m ds := by
  induction cs generalizing n with
  | nil =>
    rw [accumulate?, Option.some.injEq] at h
    rw [List.nil_append, h]
  | cons c cs ih =>
    rw [List.cons_append, accumulate?]
    rw [accumulate?] at h
    split at h
    · rename_i d hd
      exact ih h
    · cases h

theorem accumulate?_digits (n : Nat) : accumulate? 0 (digits n) = some n := by
  induction n using digits.induct with
  | case1 n hn => simp [digits, hn, accumulate?, digit?_digitChar hn]
  | case2 n hn ih =>
    have hlast : n % 10 < 10 := Nat.mod_lt n (by decide)
    rw [digits, if_neg hn, accumulate?_append ih]
    simp only [accumulate?, digit?_digitChar hlast, Option.some.injEq]
    omega

/-- A number is read back from its digits. -/
theorem ofDigits?_digits (n : Nat) : ofDigits? (digits n) = some n := by
  have nonempty := digits_ne_nil n
  unfold ofDigits?
  split
  · contradiction
  · exact accumulate?_digits n

/-- A sign is no digit. -/
theorem digits_ne_cons {n : Nat} {c : Char} (h : digit? c = none) (r : List Char) : digits n ≠ c :: r := by
  intro hc
  obtain ⟨d, hd, rfl⟩ := mem_digits (hc ▸ List.mem_cons_self : c ∈ digits n)
  rw [digit?_digitChar hd] at h
  cases h

theorem naturalOfChars?_digits (n : Nat) : naturalOfChars? (digits n) = some n := by
  unfold naturalOfChars?
  split
  · rename_i r hr
    exact absurd hr (digits_ne_cons (by decide) r)
  · exact ofDigits?_digits n

theorem integerOfChars?_digits (n : Nat) : integerOfChars? (digits n) = some (n : Int) := by
  unfold integerOfChars?
  split
  · rename_i r hr
    exact absurd hr (digits_ne_cons (by decide) r)
  · rw [naturalOfChars?_digits]
    rfl

theorem accumulate?_zeros (n zeros : Nat) : accumulate? 0 (List.replicate zeros '0' ++ digits n) = some n := by
  induction zeros with
  | zero => exact accumulate?_digits n
  | succ zeros ih =>
    have zero : digit? '0' = some 0 := rfl
    simp only [List.replicate_succ, List.cons_append, accumulate?, zero]
    exact ih

theorem ofDigits?_padded (width n : Nat) : ofDigits? (padded width n).toList = some n := by
  have nonempty := digits_ne_nil n
  rw [padded, String.toList_ofList]
  unfold ofDigits?
  split
  · rename_i none
    exact absurd (List.append_eq_nil_iff.1 none).2 nonempty
  · exact accumulate?_zeros n _

/-- Different numbers are different texts, also where they have more digits than are asked for. -/
theorem padded_injective {width m n : Nat} (h : padded width m = padded width n) : m = n := by
  have read := congrArg (fun s => ofDigits? s.toList) h
  simp only [ofDigits?_padded, Option.some.injEq] at read
  exact read

@[simp] theorem natural?_ofNat (n : Nat) : natural? (ofNat n) = some n := by
  rw [natural?, ofNat, String.toList_ofList, naturalOfChars?_digits]

@[simp] theorem integer?_ofInt (i : Int) : integer? (ofInt i) = some i := by
  cases i with
  | ofNat n =>
    rw [integer?, ofInt, ofNat, String.toList_ofList, integerOfChars?_digits]
    rfl
  | negSucc n =>
    rw [integer?, ofInt, String.toList_ofList, integerOfChars?, ofDigits?_digits]
    rfl

/-- The characters of a number: digits, and a minus sign in front. -/
theorem mem_ofInt {i : Int} {c : Char} (h : c ∈ (ofInt i).toList) : c = '-' ∨ ∃ d < 10, c = digitChar d := by
  cases i with
  | ofNat n =>
    rw [ofInt, ofNat, String.toList_ofList] at h
    exact .inr (mem_digits h)
  | negSucc n =>
    rw [ofInt, String.toList_ofList, List.mem_cons] at h
    exact h.imp_right mem_digits

end PowerOfAttorney.Text.Decimal
