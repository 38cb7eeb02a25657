import PowerOfAttorney.Text.Ascii
import PowerOfAttorney.Text.Utf8

/-! Octets written as a percent sign and two hexadecimal digits. -/

namespace PowerOfAttorney.Web.Percent

open Text

/-- The octets of a text with those of such triples put in; a percent sign that begins none stands for itself. -/
def decode : List Nat → List Nat
  | 37 :: h :: l :: r =>
    match hexValue? (Char.ofNat h), hexValue? (Char.ofNat l) with
    | some a, some b => (16 * a + b) :: decode r
    | _, _ => 37 :: decode (h :: l :: r)
  | b :: r => b :: decode r
  | [] => []

/-- An octet as such a triple. -/
def encodeOctet (b : Nat) : List Char := ['%', hexChar (b / 16), hexChar (b % 16)]

end PowerOfAttorney.Web.Percent
