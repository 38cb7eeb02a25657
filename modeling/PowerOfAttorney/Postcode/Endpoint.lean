import PowerOfAttorney.Postcode

/-!
Where the service is asked: the path and the query of an address on the web to which more is appended.

Blanks and characters beyond ASCII are written as percent triples, and steps to the same or the upper level are
taken out of the path.
-/

namespace PowerOfAttorney.Postcode

open Text Web

/-- Where a request goes. -/
structure Endpoint where
  path : String
  query : String
deriving DecidableEq, Repr

namespace Endpoint

/-- Whether a character of a path has to be written as percent triples. -/
def isEncodedInPath (c : Char) : Bool :=
  c.toNat ≤ 32 || 127 ≤ c.toNat || "\"#<>?\x60\x7b\x7d".toList.contains c

/-- Whether a character of a query has to be written as percent triples. -/
def isEncodedInQuery (c : Char) : Bool := c.toNat ≤ 32 || 127 ≤ c.toNat || "\"#'<>".toList.contains c

/-- The characters with percent triples for those of a kind. -/
def encodeWhere (encoded : Char → Bool) (cs : List Char) : List Char :=
  cs.flatMap fun c => if encoded c then (Utf8.encodeChar c).flatMap Percent.encodeOctet else [c]

/-- A part of a path with points in place of their triples, by which steps are told. -/
def plainPoints : List Char → List Char
  | '%' :: '2' :: e :: r => if lowerChar e = 'e' then '.' :: plainPoints r else '%' :: plainPoints ('2' :: e :: r)
  | c :: r => c :: plainPoints r
  | [] => []

/-- The parts of a path, in reverse, after one more. A step at the end leaves an empty part. -/
def addPart (done : List (List Char)) (part : List Char) (last : Bool) : List (List Char) :=
  let p := plainPoints part
  let ending := fun (ps : List (List Char)) => if last then [] :: ps else ps
  if p = ['.'] then ending done
  else if p = ['.', '.'] then ending done.tail
  else encodeWhere isEncodedInPath part :: done

/-- The parts of a path without steps. -/
def withoutSteps (done : List (List Char)) : List (List Char) → List (List Char)
  | [] => done.reverse
  | [p] => (addPart done p true).reverse
  | p :: q :: r => withoutSteps (addPart done p false) (q :: r)

/-- The text without the slashes at its end. -/
def withoutLastSlashes (cs : List Char) : List Char := (cs.reverse.dropWhile fun c => c == '/').reverse

/-- Where the service is asked: below a base, of which this is what follows the name of the machine. -/
def below (base : String) (more : String) : Endpoint :=
  let cs := (withoutLastSlashes base.toList ++ "/postcode".toList).filter fun c =>
    c.toNat != 9 && c.toNat != 10 && c.toNat != 13
  let cs := cs.takeWhile fun c => c != '#'
  let (path, query) := (cut '?' cs).getD (cs, [])
  let slashed := path.map fun c => if c.toNat = 92 then '/' else c
  let parts := withoutSteps [] (pieces '/' (if slashed.head? = some '/' then slashed.tail else slashed))
  let kept := encodeWhere isEncodedInQuery query
  { path := String.ofList ('/' :: (parts.intersperse ['/']).flatten)
    query := if kept.isEmpty then more else String.ofList kept ++ "&" ++ more }

end Endpoint

/-- The request that asks for the addresses of a postcode. -/
def request (base postcode apiKey : String) : Endpoint := .below base (query postcode apiKey)

end PowerOfAttorney.Postcode
