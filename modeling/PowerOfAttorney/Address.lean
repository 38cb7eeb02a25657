/-! Postal addresses. -/

namespace PowerOfAttorney

/-- A postal address. -/
structure Address where
  line1 : String := ""
  line2 : String := ""
  line3 : String := ""
  townOrCity : String := ""
  postcode : String := ""
deriving DecidableEq, Repr, Inhabited

namespace Address

/-- The parts from top to bottom. -/
def parts (a : Address) : List String := [a.line1, a.line2, a.line3, a.townOrCity, a.postcode]

/-- Whether every part is empty. -/
def isEmpty (a : Address) : Bool := a.parts.all fun p => p == ""

/-- The parts that are not empty on one line. -/
def display (a : Address) : String := ", ".intercalate (a.parts.filter fun p => p != "")

/-- Whether the first line is filled in, which is what makes an address count as given. -/
def isGiven (a : Address) : Bool := a.line1 != ""

end Address

end PowerOfAttorney
