import PowerOfAttorney.Unicode.PropertyTable
import PowerOfAttorney.Unicode.Row

/-! Which characters are marks, and in which direction a character is written. -/

namespace PowerOfAttorney.Unicode

/-- The runs of marks. -/
def marks : List (Nat × Nat) :=
  (rows markText).filterMap fun
    | [a, b] => some (a, b)
    | _ => none

/-- Whether a character is a mark. -/
def isMark (c : Char) : Bool := marks.any fun r => r.1 ≤ c.toNat && c.toNat ≤ r.2

/-- The direction in which a character is written, or the part it plays among characters that have one. -/
inductive Direction where
  | leftToRight
  | rightToLeft
  | arabicLetter
  | arabicDigit
  | europeanDigit
  /-- A sign between digits. -/
  | digitSign
  /-- A separator of digits. -/
  | digitSeparator
  /-- A sign before or after digits. -/
  | digitEnd
  | neutral
  | ignored
  | mark
  | separator
deriving DecidableEq, Repr

/-- The direction of a number in the table. -/
def Direction.ofNumber : Nat → Direction
  | 1 => .rightToLeft
  | 2 => .arabicLetter
  | 3 => .arabicDigit
  | 4 => .europeanDigit
  | 5 => .digitSign
  | 6 => .digitSeparator
  | 7 => .digitEnd
  | 8 => .neutral
  | 9 => .ignored
  | 10 => .mark
  | 11 => .separator
  | _ => .leftToRight

/-- The runs of characters that are not written from left to right. -/
def directions : List (Nat × Nat × Direction) :=
  (rows directionText).filterMap fun
    | [a, b, d] => some (a, b, .ofNumber d)
    | _ => none

/-- The direction of a character. -/
def direction (c : Char) : Direction :=
  match directions.find? fun r => r.1 ≤ c.toNat && c.toNat ≤ r.2.1 with
  | some r => r.2.2
  | none => .leftToRight

end PowerOfAttorney.Unicode
