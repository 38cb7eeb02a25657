import PowerOfAttorney.Json
import PowerOfAttorney.Text.Split
import PowerOfAttorney.Web.Percent

/-!
Names and values as forms and queries send them: pairs with ampersands between them, a plus for a space, and all
but a few characters as percent triples.
-/

namespace PowerOfAttorney.Web.Urlencoded

open Text

/-! ### Reading -/

/-- The text of a name or a value. Octets that are no characters are replaced. -/
def decodePart (bs : List Nat) : String :=
  String.ofList (Utf8.decodeLossy (Percent.decode (bs.map fun b => if b = 43 then 32 else b)))

/-- A name and its value, which is empty without an equals sign. -/
def decodePair (bs : List Nat) : String × String :=
  match cut 61 bs with
  | some (name, value) => (decodePart name, decodePart value)
  | none => (decodePart bs, "")

/-- The pairs of some octets; nothing between two ampersands is no pair. -/
def parse (bs : List Nat) : List (String × String) :=
  ((pieces 38 bs).filter fun p => !p.isEmpty).map decodePair

/-- The pairs as an object of texts. -/
def fields (bs : List Nat) : Json := .object ((parse bs).map fun p => (p.1, .text p.2))

/-! ### Writing -/

/-- An octet of a name or a value. -/
def encodeOctet (b : Nat) : List Char :=
  let c := Char.ofNat b
  if b < 128 ∧ (isAlphanumeric c ∨ c = '*' ∨ c = '-' ∨ c = '.' ∨ c = '_') then [c]
  else if b = 32 then ['+']
  else Percent.encodeOctet b

/-- The text of a name or a value. -/
def encodePart (s : String) : List Char := (Utf8.encode s.toList).flatMap encodeOctet

/-- The text of some pairs. -/
def encode (ps : List (String × String)) : String :=
  String.ofList ((ps.map fun p => encodePart p.1 ++ '=' :: encodePart p.2).intersperse ['&']).flatten

end PowerOfAttorney.Web.Urlencoded
