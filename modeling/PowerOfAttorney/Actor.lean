import PowerOfAttorney.Address
import PowerOfAttorney.Calendar
import PowerOfAttorney.Roster
import PowerOfAttorney.Text.Blank
import PowerOfAttorney.Word

/-! The people of a power of attorney: the donor, the attorneys, the certificate provider, the people to notify. -/

namespace PowerOfAttorney

/-- First names and last name on one line. -/
def fullName (firstNames lastName : String) : String := Text.trim (firstNames ++ " " ++ lastName)

/-- The one who grants the power. -/
structure Donor where
  firstNames : String := ""
  lastName : String := ""
  otherNames : String := ""
  email : String := ""
  birth : Option Date := none
  address : Address := {}
deriving DecidableEq, Repr, Inhabited

/-- An attorney or a replacement attorney. -/
structure Attorney where
  id : String := ""
  firstNames : String := ""
  lastName : String := ""
  email : String := ""
  birth : Option Date := none
  address : Address := {}
deriving DecidableEq, Repr, Inhabited

instance : HasId Attorney := ⟨Attorney.id⟩

/-- Whether both names are filled in. -/
def Attorney.isNamed (a : Attorney) : Bool := a.firstNames != "" && a.lastName != ""

/-- Whether both names and the first line of the address are filled in. -/
def Attorney.isReachable (a : Attorney) : Bool := a.isNamed && a.address.isGiven

/-- Someone who is told when the power is registered. -/
structure PersonToNotify where
  id : String := ""
  firstNames : String := ""
  lastName : String := ""
  email : String := ""
  address : Address := {}
deriving DecidableEq, Repr, Inhabited

instance : HasId PersonToNotify := ⟨PersonToNotify.id⟩

/-- How the certificate provider knows the donor. -/
inductive Relationship where
  | personally
  | professionally
deriving DecidableEq, Repr

instance : Worded Relationship where
  all := [.personally, .professionally]
  word
    | .personally => "personally"
    | .professionally => "professionally"
  mem_all := by intro r; cases r <;> decide
  nodup_words := by decide

/-- How long the certificate provider has known the donor. -/
inductive Acquaintance where
  | lessThanTwoYears
  | twoYearsOrMore
deriving DecidableEq, Repr

instance : Worded Acquaintance where
  all := [.lessThanTwoYears, .twoYearsOrMore]
  word
    | .lessThanTwoYears => "lt-2-years"
    | .twoYearsOrMore => "gte-2-years"
  mem_all := by intro a; cases a <;> decide
  nodup_words := by decide

/-- The one who certifies that the donor understands the power. -/
structure CertificateProvider where
  firstNames : String := ""
  lastName : String := ""
  email : String := ""
  mobile : String := ""
  birth : Option Date := none
  relationship : Option Relationship := none
  relationshipDescription : String := ""
  acquaintance : Option Acquaintance := none
  address : Address := {}
deriving DecidableEq, Repr, Inhabited

/-- What part an actor plays. -/
inductive ActorKind where
  | donor
  | attorney
  | replacement
  | certificateProvider
  | personToNotify
deriving DecidableEq, Repr

instance : Worded ActorKind where
  all := [.donor, .attorney, .replacement, .certificateProvider, .personToNotify]
  word
    | .donor => "donor"
    | .attorney => "attorney"
    | .replacement => "replacement_attorney"
    | .certificateProvider => "certificate_provider"
    | .personToNotify => "person_to_notify"
  mem_all := by intro k; cases k <;> decide
  nodup_words := by decide

/-- The part of a message's key that names an actor. -/
def ActorKind.messageName : ActorKind → String
  | .donor => "Donor"
  | .attorney => "Attorney"
  | .replacement => "ReplacementAttorney"
  | .certificateProvider => "CertificateProvider"
  | .personToNotify => "PersonToNotify"

/-- The three collections of actors. -/
inductive Collection where
  | attorneys
  | replacements
  | peopleToNotify
deriving DecidableEq, Repr

instance : Worded Collection where
  all := [.attorneys, .replacements, .peopleToNotify]
  word
    | .attorneys => "attorneys"
    | .replacements => "replacement_attorneys"
    | .peopleToNotify => "people_to_notify"
  mem_all := by intro c; cases c <;> decide
  nodup_words := by decide

/-- The part that the actors of a collection play. -/
def Collection.kind : Collection → ActorKind
  | .attorneys => .attorney
  | .replacements => .replacement
  | .peopleToNotify => .personToNotify

/-- The two collections of attorneys, which share one flow. -/
inductive AttorneyRole where
  | primary
  | replacement
deriving DecidableEq, Repr

instance : Worded AttorneyRole where
  all := [.primary, .replacement]
  word
    | .primary => "primary"
    | .replacement => "replacement"
  mem_all := by intro r; cases r <;> decide
  nodup_words := by decide

/-- The collection of a role. -/
def AttorneyRole.collection : AttorneyRole → Collection
  | .primary => .attorneys
  | .replacement => .replacements

/-- The role of a collection's actors, if they are attorneys. -/
def Collection.role? : Collection → Option AttorneyRole
  | .attorneys => some .primary
  | .replacements => some .replacement
  | .peopleToNotify => none

end PowerOfAttorney
