import PowerOfAttorney.Form.AddressForm
import PowerOfAttorney.Lpa.Completion
import PowerOfAttorney.Wizard.Reply

/-!
The form for an address, of whomever it may be.

A postcode is asked for where the user wants its addresses, and again where the address that was chosen could not
be read; nothing is stored then.
-/

namespace PowerOfAttorney.Wizard

open Form Routing

/-- Whose address is filled in. -/
inductive AddressTarget where
  | donor
  | certificateProvider
  | actor (c : Collection) (id : String)
deriving DecidableEq, Repr

namespace AddressTarget

/-- The LPA with another address for the target. -/
def set (t : AddressTarget) (a : Address) (l : Lpa) : Lpa :=
  match t with
  | .donor => { l with donor := { l.donor with address := a } }
  | .certificateProvider => { l with certificateProvider := { l.certificateProvider with address := a } }
  | .actor .attorneys id => { l with attorneys := l.attorneys.modify id fun x => { x with address := a } }
  | .actor .replacements id => { l with replacements := l.replacements.modify id fun x => { x with address := a } }
  | .actor .peopleToNotify id =>
    { l with peopleToNotify := l.peopleToNotify.modify id fun x => { x with address := a } }

/-- Settles the section of the target. -/
def settle (t : AddressTarget) (l : Lpa) : Lpa :=
  match t with
  | .donor => l
  | .certificateProvider => l.settleProvider
  | .actor c _ => match c.role? with
    | some role => l.settleAttorneys role
    | none => l.settlePeople

/-- Where one goes next. -/
def next (t : AddressTarget) (source : Option String) : Destination :=
  match t with
  | .donor => (back? source).getD (.of .lpaType)
  | .certificateProvider => (back? source).getD (.of .taskList)
  | .actor c _ => afterAddress c source

/-- The page to fill in an actor who is not there. -/
def missing? (t : AddressTarget) (l : Lpa) : Option Page :=
  match t with
  | .actor c id => if l.hasActor c id then none else some c.detailsPage
  | _ => none

end AddressTarget

/-- Asks for the addresses of a postcode, with the errors found so far, and gives what was asked for. -/
def offerAddresses (lookup : Lookup) (postcode : String) (errors : ErrorList) : Verdict × List String :=
  if postcode = "" then (.reject (errors.add "lookup-postcode" (.enter "postcode")), [])
  else
    let verdict := match lookup postcode with
      | .error (.badRequest _) => .reject (errors.add "lookup-postcode" (.custom "invalidPostcode"))
      | .error e => .fail (.lookup e)
      | .ok [] => .reject (errors.add "lookup-postcode" (.custom "noAddressesFound"))
      | .ok found =>
        if errors.any then .answer (.invalid { errors, addresses := found }) else .answer (.addresses found)
    (verdict, [postcode])

/-- Takes the form for an address. -/
def saveAddress (lookup : Lookup) (t : AddressTarget) (f : AddressForm) (l : Lpa) : Verdict × List String :=
  let store := fun a => (Verdict.saveAndGo (t.settle (t.set a l)) (t.next f.source), ([] : List String))
  match t.missing? l with
  | some page => (.goTo (.of page), [])
  | none => match f.action? with
    | some (.lookup postcode) =>
      if f.errors.any then (.reject f.errors, []) else offerAddresses lookup postcode {}
    | some (.select postcode none) => offerAddresses lookup postcode f.errors
    | some (.select _ (some a)) => store a
    | some (.manual a) => if f.errors.any then (.reject f.errors, []) else store a
    | none => (.reject f.errors, [])

end PowerOfAttorney.Wizard
