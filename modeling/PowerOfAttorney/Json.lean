/-!
JSON values.

Members of an object are kept in the order written, repeated names included; a number is kept as a whole
number where it is written as one, and as its text otherwise. What is written well but stands for no characters is
a value of its own, which no reader takes but any may pass over.
-/

namespace PowerOfAttorney

/-- A JSON value. -/
inductive Json where
  | null
  | bool (b : Bool)
  | int (n : Int)
  /-- A number with a fraction or an exponent, as it is written. -/
  | real (literal : String)
  | text (s : String)
  /-- A text with half of a character in it, or an object with such a name. -/
  | garbled
  | array (items : List Json)
  | object (members : List (String × Json))
deriving Inhabited, Repr, BEq

namespace Json

/-- A natural number as a value. -/
def nat (n : Nat) : Json := .int n

/-- A list of texts as a value. -/
def texts (xs : List String) : Json := .array (xs.map .text)

/-- `null` for a value that is missing. -/
def optional {α : Type} (f : α → Json) : Option α → Json
  | none => .null
  | some a => f a

end Json

end PowerOfAttorney
