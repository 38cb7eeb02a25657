import PowerOfAttorney.Address

/-! What a service that knows the addresses of a postcode may answer instead of addresses. -/

namespace PowerOfAttorney

/-- Why a service found no addresses. -/
inductive LookupError where
  /-- The postcode is none. -/
  | badRequest (reason : String)
  | unavailable (reason : String)
  | invalidResponse (reason : String)
deriving DecidableEq, Repr

/-- What is said of the error. -/
def LookupError.message : LookupError → String
  | .badRequest reason => "postcode rejected by lookup service: " ++ reason
  | .unavailable reason => "address lookup unavailable: " ++ reason
  | .invalidResponse reason => "address lookup response invalid: " ++ reason

/-- A service that knows the addresses of a postcode. -/
abbrev Lookup := String → Except LookupError (List Address)

end PowerOfAttorney
