import PowerOfAttorney.Text.Ascii
import PowerOfAttorney.Text.Split

/-!
Punycode: a label of any characters written in ASCII letters, digits and hyphens.

The ASCII characters stand first, a hyphen after them if there are any, and then a number for every other
character, in the order of the characters, that tells how far to move through all places in all texts of the
length reached. Numbers beyond 32 bits are refused.
-/

namespace PowerOfAttorney.DomainName.Punycode

open Text

/-- The number of digits. -/
def base : Nat := 36

/-- Where numbers stop being read. -/
def bound : Nat := 4294967296

/-- The least digit that does not end a number at a position. -/
def threshold (k bias : Nat) : Nat := if k ≤ bias then 1 else if bias + 26 ≤ k then 26 else k - bias

/-- How often the change is cut down to at most 455, and what is left of it. -/
def cutDown (delta : Nat) : Nat × Nat :=
  if delta ≤ 455 then (0, delta)
  else
    let r := cutDown (delta / 35)
    (r.1 + 1, r.2)
termination_by delta

/-- The bias after a number, from the number, the length reached and whether it was the first. -/
def adapt (delta length : Nat) (first : Bool) : Nat :=
  let halved := if first then delta / 700 else delta / 2
  let (steps, rest) := cutDown (halved + halved / length)
  steps * base + 36 * rest / (rest + 38)

/-! ### Reading -/

/-- The value of a digit of either case. -/
def digitValue? (c : Char) : Option Nat :=
  let n := c.toNat
  if 48 ≤ n ∧ n ≤ 57 then some (n - 22)
  else if 65 ≤ n ∧ n ≤ 90 then some (n - 65)
  else if 97 ≤ n ∧ n ≤ 122 then some (n - 97)
  else none

/-- Adds the number at the front of the digits to `i`, and gives the digits after it. -/
def takeNumber? (bias : Nat) : (digits : List Char) → (i weight k : Nat) →
    Option (Nat × { rest : List Char // rest.length < digits.length })
  | [], _, _, _ => none
  | c :: r, i, weight, k =>
    match digitValue? c with
    | none => none
    | some d =>
      if bound ≤ d * weight ∨ bound ≤ i + d * weight then none
      else if d < threshold k bias then some (i + d * weight, ⟨r, by simp⟩)
      else if bound ≤ weight * (base - threshold k bias) then none
      else (takeNumber? bias r (i + d * weight) (weight * (base - threshold k bias)) (k + base)).map
        fun p => (p.1, ⟨p.2.1, by have := p.2.2; simp only [List.length_cons]; omega⟩)

/-- Whether a number is that of a character. -/
def isScalar (n : Nat) : Bool := n < 0xD800 || (0xE000 ≤ n && n < 0x110000)

/-- Puts in the characters that the digits tell of, one after the other. -/
def insertAll? (digits : List Char) (out : List Char) (point i bias : Nat) : Option (List Char) :=
  match digits with
  | [] => some out
  | c :: r =>
    match takeNumber? bias (c :: r) i 1 base with
    | none => none
    | some (j, ⟨rest, _⟩) =>
      let length := out.length + 1
      let next := point + j / length
      if isScalar next then
        let spot := j % length
        insertAll? rest (out.take spot ++ Char.ofNat next :: out.drop spot) next (spot + 1)
          (adapt (j - i) length (i == 0))
      else none
termination_by digits.length
decreasing_by assumption

/-- Reads a label. -/
def decode? (cs : List Char) : Option (List Char) :=
  match cutLast '-' cs with
  | none => insertAll? cs [] 128 0 72
  | some (ascii, digits) =>
    if ascii.isEmpty ∨ ¬ isAscii ascii then none else insertAll? digits ascii 128 0 72

/-! ### Writing -/

/-- The character of a digit. -/
def digitChar (d : Nat) : Char := if d < 26 then Char.ofNat (97 + d) else Char.ofNat (22 + d)

/-- The digits of a number; each takes at least the threshold off, so `fuel` may be the number itself. -/
def numberDigits (bias : Nat) : (fuel q k : Nat) → List Char
  | 0, q, _ => [digitChar q]
  | fuel + 1, q, k =>
    let t := threshold k bias
    if q < t then [digitChar q]
    else digitChar (t + (q - t) % (base - t)) :: numberDigits bias fuel ((q - t) / (base - t)) (k + base)

/-- Writing part way: the digits so far in reverse, the change gathered, the bias, and how many characters are
    written. -/
structure Writing where
  out : List Char := []
  delta : Nat := 0
  bias : Nat := 72
  written : Nat

/-- Goes over the text once and writes every place of the character `point`. -/
def writePoint (cs : List Char) (point ascii : Nat) (w : Writing) : Writing :=
  cs.foldl (fun w c =>
    if c.toNat < point then { w with delta := w.delta + 1 }
    else if c.toNat = point then
      { out := (numberDigits w.bias w.delta w.delta base).reverse ++ w.out
        delta := 0
        bias := adapt w.delta (w.written + 1) (w.written == ascii)
        written := w.written + 1 }
    else w) w

/-- Writes the characters of these code points in turn. -/
def writeAll (cs : List Char) (ascii : Nat) : (points : List Nat) → (last : Nat) → Writing → Writing
  | [], _, w => w
  | p :: r, last, w =>
    let w := { w with delta := w.delta + (p - last) * (w.written + 1) }
    let w := writePoint cs p ascii w
    writeAll cs ascii r (p + 1) { w with delta := w.delta + 1 }

/-- The code points beyond ASCII of a text, each once, in their order. -/
def points (cs : List Char) : List Nat :=
  (((cs.filter fun c => 128 ≤ c.toNat).map Char.toNat).mergeSort (· ≤ ·)).eraseDups

def encode (cs : List Char) : List Char :=
  let ascii := cs.filter fun c => c.toNat < 128
  let w := writeAll cs ascii.length (points cs) 128 { written := ascii.length }
  ascii ++ (if ascii.isEmpty then [] else ['-']) ++ w.out.reverse

end PowerOfAttorney.DomainName.Punycode
