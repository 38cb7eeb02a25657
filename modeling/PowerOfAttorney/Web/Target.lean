import PowerOfAttorney.Text.Ascii
import PowerOfAttorney.Text.Split

/-!
What a request asks for: a path and a query, perhaps after a scheme and an authority.

Nothing is decoded here. A part after a number sign is dropped.
-/

namespace PowerOfAttorney.Web

open Text

/-- The path and the query of a request. -/
structure Target where
  path : List Char
  query : List Char := []
deriving DecidableEq, Repr

namespace Target

/-- Whether a character may stand in a path: one beyond ASCII, or a visible one but for `#`, `<`, `>`, `?` and a
    grave accent. -/
def isPathChar (c : Char) : Bool :=
  let n := c.toNat
  n == 0x21 || n == 0x22 || (0x24 ≤ n && n ≤ 0x3B) || n == 0x3D || (0x40 ≤ n && n ≤ 0x5F) ||
    (0x61 ≤ n && n ≤ 0x7E) || 0x80 ≤ n

/-- Whether a character may stand in a query: one beyond ASCII, or a visible one but for `"`, `#`, `<` and `>`. -/
def isQueryChar (c : Char) : Bool :=
  let n := c.toNat
  n == 0x21 || (0x24 ≤ n && n ≤ 0x3B) || n == 0x3D || (0x3F ≤ n && n ≤ 0x7E) || 0x80 ≤ n

/-- The characters before a number sign. -/
def beforeFragment (cs : List Char) : List Char := cs.takeWhile fun c => c != '#'

/-- Reads a path and a query. -/
def pathAndQuery? (cs : List Char) : Option Target :=
  match cut '?' (beforeFragment cs) with
  | some (path, query) => if path.all isPathChar && query.all isQueryChar then some ⟨path, query⟩ else none
  | none =>
    let path := beforeFragment cs
    if path.all isPathChar then some ⟨path, []⟩ else none

/-! ### Authorities and schemes -/

/-- The checks that an authority goes through, character by character: colons since the last sign that makes them
    part of something else, brackets, and whether a percent sign stands outside the name of a user. -/
structure AuthorityScan where
  colons : Nat := 0
  opened : Bool := false
  closed : Bool := false
  percent : Bool := false

/-- Whether a character may stand in an authority; percent signs are looked at apart. -/
def isAuthorityChar (c : Char) : Bool :=
  isAlphanumeric c || "!$&'()*+,-.:;=@[]_~".toList.contains c

/-- One character of an authority. -/
def AuthorityScan.step (s : AuthorityScan) (c : Char) : Option AuthorityScan :=
  if c = ':' then if 8 ≤ s.colons then none else some { s with colons := s.colons + 1 }
  else if c = '[' then if s.percent ∨ s.opened then none else some { s with opened := true }
  else if c = ']' then
    if !s.opened ∨ s.closed then none else some { s with closed := true, colons := 0, percent := false }
  else if c = '@' then some { s with colons := 0, percent := false }
  else if c = '%' then some { s with percent := true }
  else if isAuthorityChar c then some s
  else none

/-- Whether the characters are an authority. -/
def isAuthority (cs : List Char) : Bool :=
  match cs.foldlM AuthorityScan.step {} with
  | some s => s.opened == s.closed && s.colons ≤ 1 && !s.percent && cs.getLast? != some '@'
  | none => false

/-- Whether a character may stand in a scheme. -/
def isSchemeChar (c : Char) : Bool := isAlphanumeric c || c == '+' || c == '-' || c == '.' || c == '~'

/-- What follows a scheme, with the length of the scheme. -/
def afterScheme? (cs : List Char) : Option (Nat × List Char) :=
  match cs.dropWhile isSchemeChar with
  | ':' :: '/' :: '/' :: r => some ((cs.takeWhile isSchemeChar).length, r)
  | _ => none

/-- The most characters of a scheme. -/
def schemeLimit : Nat := 64

/-- The most octets of it all. -/
def lengthLimit : Nat := 65534

/-- Reads what a request asks for. -/
def parse? (s : String) : Option Target :=
  if lengthLimit < s.utf8ByteSize then none
  else match s.toList with
  | [] => none
  | ['*'] => some ⟨['*'], []⟩
  | '/' :: r => pathAndQuery? ('/' :: r)
  | cs => match afterScheme? cs with
    | none => if isAuthority cs then some ⟨[], []⟩ else none
    | some (n, r) =>
      let authority := r.takeWhile fun c => c != '/' && c != '?' && c != '#'
      if schemeLimit < n ∨ authority.isEmpty ∨ !isAuthority authority then none
      else (pathAndQuery? (r.drop authority.length)).map fun t =>
        if t.path.isEmpty then { t with path := ['/'] } else t

end Target

end PowerOfAttorney.Web
