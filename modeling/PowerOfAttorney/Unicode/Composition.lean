import PowerOfAttorney.Unicode.CompositionTable
import PowerOfAttorney.Unicode.Row

/-!
The composed normal form of a text.

Every character is taken apart as far as it goes, the marks on a character are put into their order, and what
composes is put together again. The syllables of Hangul are computed, all else is in the table. A character that
is only ever written apart is not in the table: the mapping of domain names has replaced it before.
-/

namespace PowerOfAttorney.Unicode

/-- A character and the two that compose into it. -/
structure Composition where
  composed : Nat
  first : Nat
  second : Nat
deriving DecidableEq, Repr

/-- The table of compositions. -/
def compositions : List Composition :=
  (rows compositionText).filterMap fun
    | [c, a, b] => some ⟨c, a, b⟩
    | _ => none

/-- The runs of marks that have a place in the order: first and last character, and the place. -/
def orderings : List (Nat × Nat × Nat) :=
  (rows orderingText).filterMap fun
    | [a, b, o] => some (a, b, o)
    | _ => none

/-- The place of a mark in the order of the marks on a character; 0 for what is no such mark. -/
def markOrder (c : Nat) : Nat :=
  match orderings.find? fun r => r.1 ≤ c && c ≤ r.2.1 with
  | some r => r.2.2
  | none => 0

/-! ### Hangul -/

/-- The number of syllables that share their first part. -/
def syllablesPerLead : Nat := 588

/-- The number of syllables that differ in their last part alone. -/
def syllablesPerVowel : Nat := 28

/-- The parts of a Hangul syllable. -/
def syllableParts? (c : Nat) : Option (List Nat) :=
  if 0xAC00 ≤ c ∧ c < 0xAC00 + 19 * syllablesPerLead then
    let i := c - 0xAC00
    let lead := 0x1100 + i / syllablesPerLead
    let vowel := 0x1161 + i % syllablesPerLead / syllablesPerVowel
    let tail := i % syllablesPerVowel
    some (if tail = 0 then [lead, vowel] else [lead, vowel, 0x11A7 + tail])
  else none

/-- The syllable of two parts, or of a syllable without a last part and that part. -/
def syllable? (a b : Nat) : Option Nat :=
  if 0x1100 ≤ a ∧ a < 0x1113 ∧ 0x1161 ≤ b ∧ b < 0x1176 then
    some (0xAC00 + (a - 0x1100) * syllablesPerLead + (b - 0x1161) * syllablesPerVowel)
  else if 0xAC00 ≤ a ∧ a < 0xAC00 + 19 * syllablesPerLead ∧ (a - 0xAC00) % syllablesPerVowel = 0 ∧
      0x11A8 ≤ b ∧ b < 0x11C3 then some (a + (b - 0x11A7))
  else none

/-! ### The three passes -/

/-- A character taken apart; none is composed in more than `depth` steps. -/
def takeApart : (depth : Nat) → Nat → List Nat
  | 0, c => [c]
  | depth + 1, c =>
    match syllableParts? c with
    | some parts => parts
    | none => match compositions.find? fun r => r.composed == c with
      | some r => takeApart depth r.first ++ [r.second]
      | none => [c]

/-- Puts a character after those already in order, which are held in reverse: a mark goes before the marks of
    later places. -/
def place (c : Nat) : List Nat → List Nat
  | [] => [c]
  | d :: r => if markOrder c ≠ 0 ∧ markOrder c < markOrder d then d :: place c r else c :: d :: r

/-- The characters with the marks on each in their order. -/
def inOrder (cs : List Nat) : List Nat := (cs.foldl (fun done c => place c done) []).reverse

/-- What two characters compose into. -/
def compose? (a b : Nat) : Option Nat :=
  match syllable? a b with
  | some c => some c
  | none => (compositions.find? fun r => r.first == a && r.second == b).map (·.composed)

/-- Putting together part way: what is finished, in reverse, the last character that is no mark, and the marks on
    it that did not compose, in reverse. -/
structure Composing where
  done : List Nat := []
  base : Option Nat := none
  marks : List Nat := []

/-- All characters of a text put together. -/
def Composing.finish (s : Composing) : List Nat :=
  (s.marks ++ (s.base.toList ++ s.done)).reverse

/-- One more character: it composes with the base unless a mark of its own place or a later one stands between. -/
def Composing.step (s : Composing) (c : Nat) : Composing :=
  let free := match s.marks with
    | [] => true
    | m :: _ => markOrder m < markOrder c
  match s.base.bind fun b => if free then compose? b c else none with
  | some b => { s with base := some b }
  | none =>
    if markOrder c = 0 then { done := s.marks ++ (s.base.toList ++ s.done), base := some c }
    else { s with marks := c :: s.marks }

/-- The composed normal form. -/
def composed (cs : List Char) : List Char :=
  let apart := cs.flatMap fun c => takeApart 4 c.toNat
  (((inOrder apart).foldl Composing.step {}).finish).map Char.ofNat

end PowerOfAttorney.Unicode
