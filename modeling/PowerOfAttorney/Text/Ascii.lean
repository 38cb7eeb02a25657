/-! ASCII characters: letters, digits, case, and what a header may hold. -/

namespace PowerOfAttorney.Text

/-- An ASCII letter or digit. -/
def isAlphanumeric (c : Char) : Bool :=
  let n := c.toNat
  (48 ≤ n && n ≤ 57) || (65 ≤ n && n ≤ 90) || (97 ≤ n && n ≤ 122)

/-- An ASCII lower-case letter or digit. -/
def isLowerAlphanumeric (c : Char) : Bool :=
  let n := c.toNat
  (48 ≤ n && n ≤ 57) || (97 ≤ n && n ≤ 122)

theorem isLowerAlphanumeric_iff {c : Char} :
    isLowerAlphanumeric c = true ↔ 48 ≤ c.toNat ∧ c.toNat ≤ 57 ∨ 97 ≤ c.toNat ∧ c.toNat ≤ 122 := by
  simp [isLowerAlphanumeric]

/-- An ASCII letter in lower case; every other character as it is. -/
def lowerChar (c : Char) : Char :=
  if 65 ≤ c.toNat ∧ c.toNat ≤ 90 then Char.ofNat (c.toNat + 32) else c

/-- The text with its ASCII letters in lower case. -/
def lower (s : String) : String := String.ofList (s.toList.map lowerChar)

/-- Equality up to the case of ASCII letters. -/
def sameIgnoringCase (s t : String) : Bool := lower s == lower t

/-- A visible ASCII character, a space or a tab. -/
def isVisible (c : Char) : Bool :=
  let n := c.toNat
  n == 9 || (32 ≤ n && n ≤ 126)

/-- A character of a token, such as the name of a header: an ASCII letter, a digit or one of a few signs. -/
def isTokenChar (c : Char) : Bool := isAlphanumeric c || "!#$%&'*+-.^_\x60|~".toList.contains c

/-- Whether the characters are a token. -/
def isToken (cs : List Char) : Bool := !cs.isEmpty && cs.all isTokenChar

/-- Whether all characters are ASCII. -/
def isAscii (cs : List Char) : Bool := cs.all fun c => c.toNat < 128

/-- The value of a hexadecimal digit of either case. -/
def hexValue? (c : Char) : Option Nat :=
  let n := c.toNat
  if 48 ≤ n ∧ n ≤ 57 then some (n - 48)
  else if 97 ≤ n ∧ n ≤ 102 then some (n - 87)
  else if 65 ≤ n ∧ n ≤ 70 then some (n - 55)
  else none

/-- The character of a hexadecimal digit below sixteen, in upper case. -/
def hexChar (d : Nat) : Char := if d < 10 then Char.ofNat (48 + d) else Char.ofNat (55 + d)

theorem hexValue?_hexChar {d : Nat} (h : d < 16) : hexValue? (hexChar d) = some d := by
  have all : ∀ d < 16, hexValue? (hexChar d) = some d := by decide
  exact all d h

theorem hexValue?_lowerChar {d : Nat} (h : d < 16) : hexValue? (lowerChar (hexChar d)) = some d := by
  have all : ∀ d < 16, hexValue? (lowerChar (hexChar d)) = some d := by decide
  exact all d h

end PowerOfAttorney.Text
