import PowerOfAttorney.DomainName
import PowerOfAttorney.IpAddress

/-!
Which texts are taken for an e-mail address.

The last `@` parts the user from the domain. The domain is a host name, or it ends in the address of a machine in
square brackets; a domain that is neither is tried once more in its ASCII form.
-/

namespace PowerOfAttorney.Email

open Text

/-- A character of the user part: an ASCII letter or digit or one of the signs that need no quotes. -/
def isUserChar (c : Char) : Bool := isAlphanumeric c || ".!#$%&'*+/=?^_\x60\x7b|\x7d~-".toList.contains c

/-- A part of a host name: 1 to 63 letters, digits and hyphens, with no hyphen at either end. -/
def isLabel (cs : List Char) : Bool :=
  match cs with
  | [] => false
  | c :: _ =>
    cs.length ≤ 63 && isAlphanumeric c && isAlphanumeric (cs.getLastD '-') &&
      cs.all fun d => isAlphanumeric d || d == '-'

/-- Whether the characters are labels with points between them. -/
def isHostName (cs : List Char) : Bool := (pieces '.' cs).all isLabel

/-- Whether the characters end in an address of a machine in square brackets. -/
def endsInAddress (cs : List Char) : Bool :=
  match cs.reverse with
  | ']' :: r => match cut '[' r with
    | some (inner, _) =>
      (inner.all fun c => (hexValue? c).isSome || c == ':' || c == '.') && (IpAddress.ofChars? inner.reverse).isSome
    | none => false
  | _ => false

/-- Whether a domain needs no further mapping. -/
def isPlainDomain (cs : List Char) : Bool := isHostName cs || endsInAddress cs

/-- Whether the characters are taken for a domain. -/
def isDomain (cs : List Char) : Bool :=
  isPlainDomain cs || match DomainName.toAscii? cs with
    | some ascii => isPlainDomain ascii
    | none => false

/-- Whether a text is taken for an address. -/
def isValid (s : String) : Bool :=
  match cutLast '@' s.toList with
  | none => false
  | some (user, domain) =>
    user.length ≤ 64 && domain.length ≤ 255 && !user.isEmpty && user.all isUserChar && isDomain domain

end PowerOfAttorney.Email
