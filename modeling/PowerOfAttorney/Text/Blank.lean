/-! Blank characters, and texts with the blanks at both ends taken off. -/

namespace PowerOfAttorney.Text

/-- The characters with the Unicode property White_Space. -/
def isBlank (c : Char) : Bool :=
  let n := c.toNat
  (9 ≤ n && n ≤ 13) || n == 0x20 || n == 0x85 || n == 0xA0 || n == 0x1680 || (0x2000 ≤ n && n ≤ 0x200A) ||
    n == 0x2028 || n == 0x2029 || n == 0x202F || n == 0x205F || n == 0x3000

/-- The characters without the blanks at either end. -/
def trimChars (cs : List Char) : List Char :=
  ((cs.dropWhile isBlank).reverse.dropWhile isBlank).reverse

/-- The text without the blanks at either end. -/
def trim (s : String) : String := String.ofList (trimChars s.toList)

/-- Whether a text is empty but for blanks. -/
def allBlank (s : String) : Bool := s.toList.all isBlank

/-- The text with every blank taken out, the inner ones too. -/
def withoutBlanks (s : String) : String := String.ofList (s.toList.filter fun c => !isBlank c)

/-- Every blank that the core library knows is one here. -/
theorem isBlank_of_isWhitespace {c : Char} (h : c.isWhitespace = true) : isBlank c = true := by
  simp only [Char.isWhitespace, Bool.or_eq_true, decide_eq_true_eq] at h
  rcases h with ((h | h) | h) | h <;> subst h <;> decide

/-! ### Trimming again changes nothing -/

theorem dropWhile_dropWhile_isBlank (cs : List Char) :
    (cs.dropWhile isBlank).dropWhile isBlank = cs.dropWhile isBlank := by
  induction cs with
  | nil => rfl
  | cons c r ih => by_cases h : isBlank c = true <;> simp [h, ih]

/-- What begins a text without a blank in front has no blank in front either. -/
theorem dropWhile_isBlank_of_prefix {cs ds : List Char} (h : ds.dropWhile isBlank = ds) (hp : cs <+: ds) :
    cs.dropWhile isBlank = cs := by
  cases cs with
  | nil => rfl
  | cons c r =>
    obtain ⟨t, rfl⟩ := hp
    have hc : ¬isBlank c = true := by
      intro hc
      have hlen := congrArg List.length h
      have hle := (List.dropWhile_sublist isBlank (l := r ++ t)).length_le
      simp only [List.cons_append, List.dropWhile_cons, hc, ↓reduceIte, List.length_cons] at hlen
      omega
    simp [hc]

theorem trimChars_trimChars (cs : List Char) : trimChars (trimChars cs) = trimChars cs := by
  have hprefix : trimChars cs <+: cs.dropWhile isBlank := by
    rw [trimChars, ← List.reverse_suffix, List.reverse_reverse]
    exact List.dropWhile_suffix isBlank
  have hfront : (trimChars cs).dropWhile isBlank = trimChars cs :=
    dropWhile_isBlank_of_prefix (dropWhile_dropWhile_isBlank cs) hprefix
  rw [trimChars, hfront, trimChars, List.reverse_reverse, dropWhile_dropWhile_isBlank]

@[simp] theorem trim_trim (s : String) : trim (trim s) = trim s := by
  rw [trim, trim, String.toList_ofList, trimChars_trimChars]

theorem length_trim_le (s : String) : (trim s).length ≤ s.length := by
  have hfront := (List.dropWhile_sublist isBlank (l := s.toList)).length_le
  have hback := (List.dropWhile_sublist isBlank (l := (s.toList.dropWhile isBlank).reverse)).length_le
  rw [List.length_reverse] at hback
  rw [trim, String.length_ofList, trimChars, List.length_reverse, ← String.length_toList]
  exact Nat.le_trans hback hfront

/-- Where there is no blank, none is taken off. -/
theorem trim_eq_self {s : String} (h : ∀ c ∈ s.toList, isBlank c = false) : trim s = s := by
  have front {cs : List Char} (hcs : ∀ c ∈ cs, isBlank c = false) : cs.dropWhile isBlank = cs := by
    cases cs with
    | nil => rfl
    | cons c r => rw [List.dropWhile_cons, if_neg (Bool.eq_false_iff.1 (hcs c List.mem_cons_self))]
  rw [trim, trimChars, front h, front fun c hc => h c (List.mem_reverse.1 hc), List.reverse_reverse,
    String.ofList_toList]

theorem dropWhile_isBlank_eq_nil_iff {cs : List Char} : cs.dropWhile isBlank = [] ↔ cs.all isBlank = true := by
  induction cs with
  | nil => exact ⟨fun _ => rfl, fun _ => rfl⟩
  | cons c r ih => by_cases hc : isBlank c = true <;> simp [hc, ih]

/-- Nothing is left of blanks, and of nothing else. -/
theorem trim_eq_empty_iff {s : String} : trim s = "" ↔ allBlank s = true := by
  rw [trim, String.ofList_eq_empty_iff, trimChars, List.reverse_eq_nil_iff, dropWhile_isBlank_eq_nil_iff,
    List.all_reverse, ← dropWhile_isBlank_eq_nil_iff, dropWhile_dropWhile_isBlank, dropWhile_isBlank_eq_nil_iff,
    allBlank]

theorem allBlank_of_trimmed {s : String} (trimmed : trim s = s) (given : s ≠ "") : allBlank s = false := by
  rw [Bool.eq_false_iff]
  intro blank
  exact given (trimmed.symm.trans (trim_eq_empty_iff.2 blank))

theorem allBlank_eq_false {s : String} (h : ∀ c ∈ s.toList, isBlank c = false) (hs : s ≠ "") : allBlank s = false := by
  rw [allBlank, List.all_eq_false]
  obtain ⟨c, hc⟩ := List.exists_mem_of_ne_nil s.toList fun hnil => hs (String.toList_eq_nil_iff.1 hnil)
  exact ⟨c, hc, Bool.eq_false_iff.1 (h c hc)⟩

end PowerOfAttorney.Text
