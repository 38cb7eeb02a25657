import PowerOfAttorney.Actor.Storage
import PowerOfAttorney.Json.Reader
import PowerOfAttorney.Lookup
import PowerOfAttorney.Text.Blank
import PowerOfAttorney.Text.Decimal
import PowerOfAttorney.Web.Urlencoded

/-!
Asking a service over HTTP for the addresses of a postcode, and reading its answer.

The service knows delivery points by building, street, locality and town. A building's name takes a line of its
own.
-/

namespace PowerOfAttorney.Postcode

open Text Json

/-! ### Records -/

/-- A delivery point. -/
structure DeliveryPoint where
  buildingName : String := ""
  buildingNumber : String := ""
  thoroughfare : String := ""
  dependentLocality : String := ""
  postTown : String := ""
  postcode : String := ""
deriving DecidableEq, Repr, Inhabited

namespace DeliveryPoint

def names : List String :=
  ["BUILDING_NAME", "BUILDING_NUMBER", "THOROUGHFARE_NAME", "DEPENDENT_LOCALITY", "POST_TOWN", "POSTCODE"]

/-- Reads a delivery point. -/
def ofJson? (j : Json) : Option DeliveryPoint := do
  let r ← partialRecord? names j
  return {
    buildingName := ← r.defaulted "BUILDING_NAME" "" text?
    buildingNumber := ← r.defaulted "BUILDING_NUMBER" "" text?
    thoroughfare := ← r.defaulted "THOROUGHFARE_NAME" "" text?
    dependentLocality := ← r.defaulted "DEPENDENT_LOCALITY" "" text?
    postTown := ← r.defaulted "POST_TOWN" "" text?
    postcode := ← r.defaulted "POSTCODE" "" text? }

/-- The number and the street on one line. -/
def street (d : DeliveryPoint) : String :=
  " ".intercalate ([d.buildingNumber, d.thoroughfare].filter fun p => p != "")

/-- The address of a delivery point. -/
def address (d : DeliveryPoint) : Address :=
  if d.buildingName = "" then
    { line1 := d.street, line2 := d.dependentLocality, townOrCity := d.postTown, postcode := d.postcode }
  else
    { line1 := d.buildingName, line2 := d.street, line3 := d.dependentLocality
      townOrCity := d.postTown, postcode := d.postcode }

end DeliveryPoint

/-- Reads one result. -/
def result? (j : Json) : Option DeliveryPoint := do
  let r ← record? ["DPA"] j
  r.required "DPA" DeliveryPoint.ofJson?

/-- Reads all results, of which there may be none. -/
def results? (j : Json) : Option (List DeliveryPoint) := do
  let r ← partialRecord? ["results"] j
  r.defaulted "results" [] (list? result?)

/-! ### Asking -/

/-- The postcode as it is asked for. -/
def normalized (postcode : String) : String := withoutBlanks postcode

/-- The query that asks for the addresses of a postcode. -/
def query (postcode apiKey : String) : String :=
  Web.Urlencoded.encode [("postcode", normalized postcode), ("key", apiKey)]

/-- The form in which the answer is asked for. -/
def accept : String := "application/json"

/-- What the service has answered. -/
structure Answer where
  status : Nat
  body : String
deriving DecidableEq, Repr

/-- The addresses of an answer, one for each result. -/
def Answer.addresses (a : Answer) : Except LookupError (List Address) :=
  if 200 ≤ a.status ∧ a.status < 300 then
    match (parse? a.body).bind results? with
    | some ds => .ok (ds.map DeliveryPoint.address)
    | none => .error (.invalidResponse "malformed answer")
  else if a.status = 400 then .error (.badRequest a.body)
  else .error (.unavailable ("status " ++ Decimal.ofNat a.status ++ ": " ++ a.body))

end PowerOfAttorney.Postcode
