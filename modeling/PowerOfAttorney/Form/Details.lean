import PowerOfAttorney.Actor
import PowerOfAttorney.DateBoxes
import PowerOfAttorney.Email
import PowerOfAttorney.Json.Record

/-!
The forms for the details of an actor.

A posted form is an object of texts, in which every field may be missing. Blanks around names and addresses are
taken off before anything is checked. The rule for e-mail addresses is handed to the checks; unless another one is, it
is that of `Email`.
-/

namespace PowerOfAttorney.Form

open Json

/-! ### What the forms share -/

/-- The most characters of first names. -/
def firstNamesLimit : Nat := 53

/-- The most characters of a last name. -/
def lastNameLimit : Nat := 61

/-- The most characters of the donor's other names. -/
def otherNamesLimit : Nat := 50

/-- First names have to be given. -/
def firstNamesRule : TextRule :=
  { field := "first-names", label := "firstNames", required := true, limit := some firstNamesLimit }

/-- A last name has to be given. -/
def lastNameRule : TextRule :=
  { field := "last-name", label := "lastName", required := true, limit := some lastNameLimit }

/-- The donor's other names may be given. -/
def otherNamesRule : TextRule :=
  { field := "other-names", label := "otherNamesYouAreKnownBy", limit := some otherNamesLimit }

/-- An e-mail address has to be given. -/
def emailRule (isEmail : String → Bool) : TextRule :=
  { field := "email", label := "email", required := true, address := some isEmail }

/-- An e-mail address may be given. -/
def optionalEmailRule (isEmail : String → Bool) : TextRule := { emailRule isEmail with required := false }

/-- A mobile number has to be given. -/
def mobileRule : TextRule := { field := "mobile", label := "mobile", required := true }

/-- The names of the three boxes of a date of birth. -/
def birthNames : List String := ["date-of-birth-day", "date-of-birth-month", "date-of-birth-year"]

/-- Reads a text that is empty where it is missing. -/
def box? (r : Record) (name : String) : Option String := r.defaulted name "" text?

/-- Reads the boxes of a date of birth. -/
def birth? (r : Record) : Option DateBoxes := do
  return {
    day := ← box? r "date-of-birth-day"
    month := ← box? r "date-of-birth-month"
    year := ← box? r "date-of-birth-year" }

/-- The errors with that of the boxes of a date of birth. -/
def addBirth (l : ErrorList) (b : DateBoxes) (today : Date) : ErrorList :=
  l.addAny "date-of-birth" (b.pastError? "dateOfBirth" today)

/-! ### An attorney -/

/-- The details of an attorney or a replacement attorney. -/
structure ActorDetails where
  firstNames : String := ""
  lastName : String := ""
  email : String := ""
  birth : DateBoxes := {}
  ignoreNameWarning : Option String := none
  ignoreAgeWarning : Option String := none
  source : Option String := none
deriving DecidableEq, Repr, Inhabited

namespace ActorDetails

def ofJson? (j : Json) : Option ActorDetails := do
  let r ← partialRecord? (["first-names", "last-name", "email"] ++ birthNames ++
    ["ignore-name-warning", "ignore-dob-warning", "from"]) j
  return {
    firstNames := ← box? r "first-names"
    lastName := ← box? r "last-name"
    email := ← box? r "email"
    birth := ← birth? r
    ignoreNameWarning := ← r.optional "ignore-name-warning" text?
    ignoreAgeWarning := ← r.optional "ignore-dob-warning" text?
    source := ← r.optional "from" text? }

def trimmed (f : ActorDetails) : ActorDetails :=
  { f with firstNames := Text.trim f.firstNames, lastName := Text.trim f.lastName, email := Text.trim f.email }

def errors (f : ActorDetails) (today : Date) (isEmail : String → Bool := Email.isValid) : ErrorList :=
  addBirth (.check [(firstNamesRule, f.firstNames), (lastNameRule, f.lastName), (emailRule isEmail, f.email)])
    f.birth today

/-- The warning that the date of birth is worth. -/
def ageWarning (f : ActorDetails) (today : Date) : Option AgeWarning :=
  f.birth.date?.bind fun d => AgeWarning.forAttorney d today

end ActorDetails

/-! ### The donor -/

/-- The details of the donor. -/
structure DonorDetails where
  firstNames : String := ""
  lastName : String := ""
  otherNames : String := ""
  birth : DateBoxes := {}
  ignoreAgeWarning : Option String := none
deriving DecidableEq, Repr, Inhabited

namespace DonorDetails

def ofJson? (j : Json) : Option DonorDetails := do
  let r ← partialRecord? (["first-names", "last-name", "other-names"] ++ birthNames ++ ["ignore-dob-warning"]) j
  return {
    firstNames := ← box? r "first-names"
    lastName := ← box? r "last-name"
    otherNames := ← box? r "other-names"
    birth := ← birth? r
    ignoreAgeWarning := ← r.optional "ignore-dob-warning" text? }

def trimmed (f : DonorDetails) : DonorDetails :=
  { f with
    firstNames := Text.trim f.firstNames, lastName := Text.trim f.lastName, otherNames := Text.trim f.otherNames }

def errors (f : DonorDetails) (today : Date) : ErrorList :=
  addBirth (.check [(firstNamesRule, f.firstNames), (lastNameRule, f.lastName), (otherNamesRule, f.otherNames)])
    f.birth today

/-- The warning that the date of birth is worth. -/
def ageWarning (f : DonorDetails) (today : Date) : Option AgeWarning :=
  f.birth.date?.bind fun d => AgeWarning.forDonor d today

end DonorDetails

/-! ### A person to notify -/

/-- The details of a person to notify. -/
structure PersonDetails where
  firstNames : String := ""
  lastName : String := ""
  email : String := ""
  ignoreNameWarning : Option String := none
  source : Option String := none
deriving DecidableEq, Repr, Inhabited

namespace PersonDetails

def ofJson? (j : Json) : Option PersonDetails := do
  let r ← partialRecord? ["first-names", "last-name", "email", "ignore-name-warning", "from"] j
  return {
    firstNames := ← box? r "first-names"
    lastName := ← box? r "last-name"
    email := ← box? r "email"
    ignoreNameWarning := ← r.optional "ignore-name-warning" text?
    source := ← r.optional "from" text? }

def trimmed (f : PersonDetails) : PersonDetails :=
  { f with firstNames := Text.trim f.firstNames, lastName := Text.trim f.lastName, email := Text.trim f.email }

def errors (f : PersonDetails) (isEmail : String → Bool := Email.isValid) : ErrorList :=
  .check [(firstNamesRule, f.firstNames), (lastNameRule, f.lastName), (emailRule isEmail, f.email)]

end PersonDetails

/-! ### The certificate provider -/

/-- The details of the certificate provider. -/
structure ProviderDetails where
  firstNames : String := ""
  lastName : String := ""
  email : String := ""
  mobile : String := ""
  birth : DateBoxes := {}
  relationship : String := ""
  relationshipDescription : String := ""
  acquaintance : String := ""
  ignoreNameWarning : Option String := none
  source : Option String := none
deriving DecidableEq, Repr, Inhabited

namespace ProviderDetails

def ofJson? (j : Json) : Option ProviderDetails := do
  let r ← partialRecord? (["first-names", "last-name", "email", "mobile"] ++ birthNames ++
    ["relationship", "relationship-description", "relationship-length", "ignore-name-warning", "from"]) j
  return {
    firstNames := ← box? r "first-names"
    lastName := ← box? r "last-name"
    email := ← box? r "email"
    mobile := ← box? r "mobile"
    birth := ← birth? r
    relationship := ← box? r "relationship"
    relationshipDescription := ← box? r "relationship-description"
    acquaintance := ← box? r "relationship-length"
    ignoreNameWarning := ← r.optional "ignore-name-warning" text?
    source := ← r.optional "from" text? }

def trimmed (f : ProviderDetails) : ProviderDetails :=
  { f with
    firstNames := Text.trim f.firstNames, lastName := Text.trim f.lastName, email := Text.trim f.email
    mobile := Text.trim f.mobile, relationshipDescription := Text.trim f.relationshipDescription }

/-- What is wrong with the answers about the relationship: someone who knows the donor by profession describes it,
    and anybody else has known the donor for two years. -/
def addRelationship (l : ErrorList) (f : ProviderDetails) : ErrorList :=
  match (ofWord? f.relationship : Option Relationship) with
  | none => l.add "relationship" (.select "howYouKnowCertificateProvider")
  | some .professionally =>
    l.requireText "relationship-description" "relationshipDescription" f.relationshipDescription
  | some .personally => match (ofWord? f.acquaintance : Option Acquaintance) with
    | none => l.add "relationship-length" (.select "howLongYouHaveKnownCertificateProvider")
    | some .lessThanTwoYears => l.add "relationship-length" (.custom "mustHaveKnownCertificateProviderTwoYears")
    | some .twoYearsOrMore => l

def errors (f : ProviderDetails) (today : Date) (isEmail : String → Bool := Email.isValid) : ErrorList :=
  addRelationship (addBirth (.check [(firstNamesRule, f.firstNames), (lastNameRule, f.lastName),
    (mobileRule, f.mobile), (optionalEmailRule isEmail, f.email)]) f.birth today) f

end ProviderDetails

end PowerOfAttorney.Form
