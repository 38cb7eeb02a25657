import PowerOfAttorney.Json
import PowerOfAttorney.Text.Ascii
import PowerOfAttorney.Text.Decimal

/-!
The text of a JSON value, without spaces.

In a quoted text the quote, the backslash and the control characters below U+0020 are escaped, five of these
by a letter and the rest by their number; every other character stands for itself. A text that stands for no
characters is written as half of one.
-/

namespace PowerOfAttorney.Json

open Text

/-- The letter that stands after a backslash for a character that has one. -/
def escapeLetter? (c : Char) : Option Char :=
  match c.toNat with
  | 34 => some '"'
  | 92 => some (Char.ofNat 92)
  | 8 => some 'b'
  | 9 => some 't'
  | 10 => some 'n'
  | 12 => some 'f'
  | 13 => some 'r'
  | _ => none

/-- How a character is written inside quotes. -/
def escape (c : Char) : List Char :=
  match escapeLetter? c with
  | some l => [Char.ofNat 92, l]
  | none =>
    if c.toNat < 32 then
      [Char.ofNat 92, 'u', '0', '0', hexChar (c.toNat / 16), lowerChar (hexChar (c.toNat % 16))]
    else [c]

/-- A text in quotes. -/
def quote (s : String) : List Char := '"' :: (s.toList.flatMap escape ++ ['"'])

/-- The texts one after the other with commas between them. -/
def commaSeparated : List (List Char) → List Char
  | [] => []
  | [x] => x
  | x :: y :: r => x ++ ',' :: commaSeparated (y :: r)

/-- The characters of a whole number. -/
def intChars : Int → List Char
  | .ofNat n => Decimal.digits n
  | .negSucc n => '-' :: Decimal.digits (n + 1)

mutual

/-- The characters of a value. -/
def chars : Json → List Char
  | .null => ['n', 'u', 'l', 'l']
  | .bool true => ['t', 'r', 'u', 'e']
  | .bool false => ['f', 'a', 'l', 's', 'e']
  | .int n => intChars n
  | .real l => l.toList
  | .text s => quote s
  | .garbled => ['"', Char.ofNat 92, 'u', 'd', '8', '0', '0', '"']
  | .array items => '[' :: (commaSeparated (itemChars items) ++ [']'])
  | .object members => Char.ofNat 123 :: (commaSeparated (memberChars members) ++ [Char.ofNat 125])

/-- The characters of each item of an array. -/
def itemChars : List Json → List (List Char)
  | [] => []
  | j :: r => chars j :: itemChars r

/-- The characters of each member of an object. -/
def memberChars : List (String × Json) → List (List Char)
  | [] => []
  | (k, j) :: r => (quote k ++ ':' :: chars j) :: memberChars r

end

/-- The text of a value. -/
def render (j : Json) : String := String.ofList (chars j)

end PowerOfAttorney.Json
