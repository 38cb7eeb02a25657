import PowerOfAttorney.Text.Split

/-!
Rows of the character tables: numbers in base 36 with points between them, rows apart by spaces or line ends.
-/

namespace PowerOfAttorney.Unicode

open Text

/-- The value of a digit in base 36, written with capital letters. -/
def digitValue (c : Char) : Nat := if c.toNat < 58 then c.toNat - 48 else c.toNat - 55

/-- The number that the digits write; 0 for none. -/
def number (cs : List Char) : Nat := cs.foldl (fun n c => 36 * n + digitValue c) 0

/-- The words of a table. -/
def words (s : String) : List (List Char) :=
  (pieces ' ' (s.toList.map fun c => if c.toNat = 10 then ' ' else c)).filter fun w => !w.isEmpty

/-- The numbers of a row. -/
def numbers (row : List Char) : List Nat := (pieces '.' row).map number

/-- The rows of a table that holds numbers alone. -/
def rows (s : String) : List (List Nat) := (words s).map numbers

end PowerOfAttorney.Unicode
