import PowerOfAttorney.Actor.Storage
import PowerOfAttorney.Form.Details
import PowerOfAttorney.Json.Reader

/-!
The form for an address: ask for the addresses of a postcode, choose one of them, or write one by hand.
-/

namespace PowerOfAttorney.Form

open Json

/-- What the user wants done. -/
inductive AddressAction where
  | lookup (postcode : String)
  /-- One of the addresses that were offered; `none` if what was sent is no address. -/
  | select (postcode : String) (address : Option Address)
  | manual (address : Address)
deriving DecidableEq, Repr

/-- The form for an address. An address that was offered is sent as its JSON text. -/
structure AddressForm where
  action : String := ""
  lookupPostcode : String := ""
  selected : String := ""
  line1 : String := ""
  line2 : String := ""
  line3 : String := ""
  town : String := ""
  postcode : String := ""
  source : Option String := none
deriving DecidableEq, Repr, Inhabited

/-- The most characters of an address line. -/
def addressLineLimit : Nat := 50

/-- The rules for the parts of an address written by hand, with the parts. -/
def addressChecks (a : Address) : List (TextRule × String) :=
  [({ field := "address-line-1", label := "addressLine1", required := true, limit := some addressLineLimit }, a.line1),
    ({ field := "address-line-2", label := "addressLine2", limit := some addressLineLimit }, a.line2),
    ({ field := "address-line-3", label := "addressLine3", limit := some addressLineLimit }, a.line3),
    ({ field := "address-town", label := "townOrCity", required := true }, a.townOrCity),
    ({ field := "address-postcode", label := "postcode", required := true }, a.postcode)]

namespace AddressForm

def ofJson? (j : Json) : Option AddressForm := do
  let r ← partialRecord? ["action", "lookup-postcode", "select-address", "address-line-1", "address-line-2",
    "address-line-3", "address-town", "address-postcode", "from"] j
  return {
    action := ← box? r "action"
    lookupPostcode := ← box? r "lookup-postcode"
    selected := ← box? r "select-address"
    line1 := ← box? r "address-line-1"
    line2 := ← box? r "address-line-2"
    line3 := ← box? r "address-line-3"
    town := ← box? r "address-town"
    postcode := ← box? r "address-postcode"
    source := ← r.optional "from" text? }

/-- The address written by hand, without the blanks around its parts. -/
def written (f : AddressForm) : Address :=
  { line1 := Text.trim f.line1, line2 := Text.trim f.line2, line3 := Text.trim f.line3
    townOrCity := Text.trim f.town, postcode := Text.trim f.postcode }

/-- What the form asks for. -/
def action? (f : AddressForm) : Option AddressAction :=
  if f.action = "lookup" then some (.lookup (Text.trim f.lookupPostcode))
  else if f.action = "select" then
    some (.select (Text.trim f.lookupPostcode) ((parse? f.selected).bind Address.ofJson?))
  else if f.action = "manual" then some (.manual f.written)
  else none

def errors (f : AddressForm) : ErrorList :=
  match f.action? with
  | none => .single "action" (.select "action")
  | some (.lookup postcode) => ErrorList.requireText {} "lookup-postcode" "postcode" postcode
  | some (.select _ (some _)) => {}
  | some (.select _ none) => .single "select-address" (.select "address")
  | some (.manual a) => .check (addressChecks a)

end AddressForm

end PowerOfAttorney.Form
