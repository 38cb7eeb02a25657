import PowerOfAttorney.DomainName.Mapping
import PowerOfAttorney.DomainName.Punycode
import PowerOfAttorney.Unicode.Composition
import PowerOfAttorney.Unicode.Property

/-!
The ASCII form of a domain name in any script, by the Unicode rules for domain names.

The characters are mapped and composed, labels that stand in Punycode are read, every label is checked, and the
labels beyond ASCII are written in Punycode. Nothing is asked of hyphens, joiners or lengths.
-/

namespace PowerOfAttorney.DomainName

open Text Unicode

/-- The mapped characters of a name; `none` if one is refused. -/
def mapped? : List Char → Option (List Char)
  | [] => some []
  | c :: r => match fate c with
    | .stays => (mapped? r).map (c :: ·)
    | .becomes cs => (mapped? r).map (cs ++ ·)
    | .refused => none

/-- What a label in Punycode starts with. -/
def mark : List Char := ['x', 'n', '-', '-']

/-- Whether a label does not begin with a mark and holds only characters that may stay. -/
def isValid (label : List Char) : Bool :=
  match label with
  | [] => true
  | c :: _ => !isMark c && label.all fun d => fate d == .stays

/-- The label with its Punycode read; `none` where that cannot be, or the label may not stand. -/
def readLabel? (label : List Char) : Option (List Char) :=
  if mark.isPrefixOf label then
    match Punycode.decode? (label.drop mark.length) with
    | some cs => if composed cs = cs ∧ isValid cs then some cs else none
    | none => none
  else if isValid label then some label else none

/-! ### Direction -/

/-- Whether a character is written from right to left, or is an Arabic digit. -/
def turns (c : Char) : Bool :=
  match direction c with
  | .rightToLeft => true
  | .arabicLetter => true
  | .arabicDigit => true
  | _ => false

/-- What may stand in a label of either direction besides letters. -/
def isCommon : Direction → Bool
  | .europeanDigit => true
  | .digitSign => true
  | .digitSeparator => true
  | .digitEnd => true
  | .neutral => true
  | .ignored => true
  | .mark => true
  | _ => false

/-- The direction of the last character that is no mark. -/
def lastDirection? (ds : List Direction) : Option Direction := ds.reverse.find? fun d => d != .mark

/-- Whether the directions of a label's characters go together. -/
def agrees (ds : List Direction) : Bool :=
  match ds with
  | [] => true
  | .leftToRight :: r =>
    (r.all fun d => d == .leftToRight || isCommon d) &&
      match lastDirection? ds with
      | some d => d == .leftToRight || d == .europeanDigit
      | none => true
  | d :: r =>
    (d == .rightToLeft || d == .arabicLetter) &&
      (r.all fun e => e == .rightToLeft || e == .arabicLetter || e == .arabicDigit || isCommon e) &&
      (match lastDirection? ds with
        | some e => e == .rightToLeft || e == .arabicLetter || e == .europeanDigit || e == .arabicDigit
        | none => false) &&
      !(r.contains .europeanDigit && r.contains .arabicDigit)

/-! ### The name -/

/-- A label in ASCII. -/
def writeLabel (label : List Char) : List Char :=
  if isAscii label then label else mark ++ Punycode.encode label

/-- The labels with points between them. -/
def join (labels : List (List Char)) : List Char := (labels.intersperse ['.']).flatten

/-- The ASCII form of a domain name; `none` if it has none. -/
def toAscii? (name : List Char) : Option (List Char) := do
  let cs ← mapped? name
  let labels ← (pieces '.' (composed cs)).mapM readLabel?
  if labels.any (fun l => l.any turns) && !(labels.all fun l => agrees (l.map direction)) then none
  else some (join (labels.map writeLabel))

end PowerOfAttorney.DomainName
