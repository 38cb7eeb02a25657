import PowerOfAttorney.DateBoxes
import PowerOfAttorney.Lookup
import PowerOfAttorney.Namesake
import PowerOfAttorney.Routing
import PowerOfAttorney.Store
import PowerOfAttorney.Wizard.Surroundings

/-!
What comes out of an operation.

An operation looks at the LPA it has read and gives a verdict: an answer that leaves the LPA alone, or another LPA
and the answer for when that is stored.
-/

namespace PowerOfAttorney.Wizard

/-- All that a page needs to show a form that was not taken. -/
structure Rejection where
  errors : ErrorList := {}
  nameWarning : Option NameWarning := none
  ageWarning : Option AgeWarning := none
  addresses : List Address := []
deriving DecidableEq, Repr

/-- An actor on its page. -/
inductive ShownActor where
  | attorney (a : Attorney)
  | person (p : PersonToNotify)
deriving DecidableEq, Repr

/-- The answer of an operation that did not fail. -/
inductive Reply where
  | loaded (l : Lpa)
  | tasks (l : Lpa) (lines : List TaskLine)
  | shown (l : Lpa) (actor : Option ShownActor)
  | redirect (d : Destination)
  | invalid (r : Rejection)
  /-- The addresses of a postcode, for the user to choose from. -/
  | addresses (found : List Address)
  | paid (p : Payment)
deriving DecidableEq, Repr

/-- Why an operation failed. -/
inductive Failure where
  /-- The session has no LPA, or another one than was asked for. -/
  | notFound
  | store (e : StoreError)
  | lookup (e : LookupError)
  /-- Every text that the source gives is taken as an id, so that no new one is ever minted. -/
  | noFreshId
deriving DecidableEq, Repr

namespace Failure

/-- What is said of the failure. -/
def message : Failure → String
  | .notFound => "lpa not found"
  | .store e => e.message
  | .lookup e => e.message
  | .noFreshId => "no fresh id"

/-- Whether another write came first. -/
def isConflict : Failure → Bool
  | .store e => e.isConflict
  | _ => false

end Failure

/-- What an operation makes of the LPA that it has read. -/
inductive Verdict where
  | answer (reply : Reply)
  | fail (f : Failure)
  /-- The LPA is to be stored, and this is then the answer. -/
  | save (l : Lpa) (reply : Reply)
deriving DecidableEq, Repr

namespace Verdict

/-- Sends the user to a page. -/
def goTo (d : Destination) : Verdict := .answer (.redirect d)

/-- Stores an LPA and sends the user to a page. -/
def saveAndGo (l : Lpa) (d : Destination) : Verdict := .save l (.redirect d)

/-- Rejects a form for its errors alone. -/
def reject (errors : ErrorList) : Verdict := .answer (.invalid { errors })

end Verdict

/-- A verdict with what was used up for it. -/
structure Decision where
  verdict : Verdict
  source : Source
  /-- The postcodes asked for. -/
  lookedUp : List String := []

/-! ### Warnings -/

/-- The warning about a namesake, where it has to be shown: always beside errors, and otherwise unless it was
    acknowledged. -/
def pendingNameWarning (errors : ErrorList) (found : Option Namesake) (ignore : Option String)
    (firstNames lastName : String) : Option NameWarning :=
  (found.filter fun n => errors.any || !n.isAcknowledged ignore).map fun n => n.warning firstNames lastName

/-- The warning about an age, where it has to be shown: always beside errors, and otherwise unless its code was
    sent. -/
def pendingAgeWarning (errors : ErrorList) (found : Option AgeWarning) (ignore : Option String) : Option AgeWarning :=
  found.filter fun w => errors.any || ignore != some w.code

/-- The rejection of a form with errors or warnings; `none` if there are neither. -/
def rejection? (errors : ErrorList) (nameWarning : Option NameWarning) (ageWarning : Option AgeWarning) :
    Option Rejection :=
  if errors.any || nameWarning.isSome || ageWarning.isSome then some { errors, nameWarning, ageWarning } else none

end PowerOfAttorney.Wizard
