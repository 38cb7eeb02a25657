/-!
UTF-8: characters as octets, which are numbers below 256.

Reading goes octet by octet. Where octets make no character, the longest run of them that could have begun one is
set apart as a whole, and the octet after it begins anew.
-/

namespace PowerOfAttorney.Text.Utf8

/-! ### Writing -/

/-- The octets of a character. -/
def encodeChar (c : Char) : List Nat :=
  let n := c.toNat
  if n < 0x80 then [n]
  else if n < 0x800 then [0xC0 + n / 64, 0x80 + n % 64]
  else if n < 0x10000 then [0xE0 + n / 4096, 0x80 + n / 64 % 64, 0x80 + n % 64]
  else [0xF0 + n / 262144, 0x80 + n / 4096 % 64, 0x80 + n / 64 % 64, 0x80 + n % 64]

/-- The octets of a text. -/
def encode (cs : List Char) : List Nat := cs.flatMap encodeChar

/-! ### Reading -/

/-- A character part way: how many octets are owed, the value so far, and between which bounds the next one is. -/
structure Begun where
  owed : Nat
  value : Nat
  low : Nat := 0x80
  high : Nat := 0xBF
deriving DecidableEq, Repr

/-- What an octet begins, if it begins a character of several. -/
def begin? (b : Nat) : Option Begun :=
  if 0xC2 ≤ b ∧ b ≤ 0xDF then some { owed := 1, value := b - 0xC0 }
  else if b = 0xE0 then some { owed := 2, value := 0, low := 0xA0 }
  else if b = 0xED then some { owed := 2, value := 13, high := 0x9F }
  else if 0xE1 ≤ b ∧ b ≤ 0xEF then some { owed := 2, value := b - 0xE0 }
  else if b = 0xF0 then some { owed := 3, value := 0, low := 0x90 }
  else if b = 0xF4 then some { owed := 3, value := 4, high := 0x8F }
  else if 0xF1 ≤ b ∧ b ≤ 0xF3 then some { owed := 3, value := b - 0xF0 }
  else none

/-- Reading part way: the characters read, in reverse, with `none` for a run that makes none, and the character
    that is part way. -/
structure Reading where
  done : List (Option Char) := []
  begun : Option Begun := none

/-- An octet between characters. -/
def Reading.start (done : List (Option Char)) (b : Nat) : Reading :=
  if b < 0x80 then { done := some (Char.ofNat b) :: done }
  else match begin? b with
    | some p => { done, begun := some p }
    | none => { done := none :: done }

/-- One octet. -/
def Reading.step (r : Reading) (b : Nat) : Reading :=
  match r.begun with
  | none => .start r.done b
  | some p =>
    if p.low ≤ b ∧ b ≤ p.high then
      let value := 64 * p.value + (b - 0x80)
      if p.owed ≤ 1 then { done := some (Char.ofNat value) :: r.done }
      else { r with begun := some { owed := p.owed - 1, value } }
    else .start (none :: r.done) b

/-- The characters of some octets, with `none` for each run that makes none. -/
def runs (bs : List Nat) : List (Option Char) :=
  let r := bs.foldl Reading.step {}
  ((if r.begun.isSome then [none] else []) ++ r.done).reverse

/-- The text of some octets; `none` if they are not all characters. -/
def decode? (bs : List Nat) : Option (List Char) := (runs bs).mapM id

/-- The text of some octets, with the replacement character for each run that makes no character. -/
def decodeLossy (bs : List Nat) : List Char := (runs bs).map fun c => c.getD (Char.ofNat 0xFFFD)

end PowerOfAttorney.Text.Utf8
