import PowerOfAttorney.Text.Ascii

/-!
Texts of small letters and digits, made of numbers drawn elsewhere. There is a character for each number, and it is
of that kind: `length_ofNumbers`, `isLowerAlphanumeric_of_mem_ofNumbers`.
-/

namespace PowerOfAttorney.RandomText

open Text

/-- The characters that may be drawn. -/
def alphabet : List Char := "abcdefghijklmnopqrstuvwxyz0123456789".toList

/-- The character that a number draws. -/
def charAt (n : Nat) : Char := (alphabet[n % alphabet.length]?).getD 'a'

/-- The text that some numbers draw. -/
def ofNumbers (ns : List Nat) : String := String.ofList (ns.map charAt)

/-- Only small letters and digits may be drawn. -/
theorem all_alphabet : alphabet.all isLowerAlphanumeric = true := by decide

/-- A number draws one of the characters that may be drawn. -/
theorem charAt_mem_alphabet (n : Nat) : charAt n ∈ alphabet := by
  have h : n % alphabet.length < alphabet.length := Nat.mod_lt _ (by decide)
  simp [charAt, List.getElem?_eq_getElem h]

@[simp] theorem length_ofNumbers (ns : List Nat) : (ofNumbers ns).length = ns.length := by
  simp [ofNumbers]

theorem isLowerAlphanumeric_of_mem_ofNumbers {ns : List Nat} {c : Char} (h : c ∈ (ofNumbers ns).toList) :
    isLowerAlphanumeric c := by
  simp only [ofNumbers, String.toList_ofList, List.mem_map] at h
  obtain ⟨n, -, rfl⟩ := h
  exact List.all_eq_true.1 all_alphabet _ (charAt_mem_alphabet n)

end PowerOfAttorney.RandomText
