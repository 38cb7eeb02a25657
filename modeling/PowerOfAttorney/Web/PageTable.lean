import PowerOfAttorney.Page
import PowerOfAttorney.Wizard.Operation

/-!
What each page does: the operation that shows it, and the form it takes, if it takes one.
-/

namespace PowerOfAttorney.Web

open Wizard Form Json

/-- The four pages of a collection. -/
inductive Part where
  | details
  | address
  | summary
  | removal
deriving DecidableEq, Repr

/-- The collection that a page is about, and which of its pages it is. -/
def part? : Page → Option (Collection × Part)
  | .attorneyDetails => some (.attorneys, .details)
  | .attorneyAddress => some (.attorneys, .address)
  | .attorneySummary => some (.attorneys, .summary)
  | .removeAttorney => some (.attorneys, .removal)
  | .replacementDetails => some (.replacements, .details)
  | .replacementAddress => some (.replacements, .address)
  | .replacementSummary => some (.replacements, .summary)
  | .removeReplacement => some (.replacements, .removal)
  | .personDetails => some (.peopleToNotify, .details)
  | .personAddress => some (.peopleToNotify, .address)
  | .personSummary => some (.peopleToNotify, .summary)
  | .removePerson => some (.peopleToNotify, .removal)
  | _ => none

/-! ### Queries -/

/-- The actor that a query names, and whether another one is to be added. -/
structure ActorQuery where
  id : Option String := none
  addAnother : Bool := false
deriving DecidableEq, Repr

/-- Reads the query. An empty id is none. -/
def ActorQuery.ofJson? (j : Json) : Option ActorQuery := do
  let r ← partialRecord? ["id", "addAnother"] j
  let id ← r.optional "id" text?
  let addAnother ← r.optional "addAnother" text?
  return { id := id.filter fun i => i != "", addAnother := addAnother == some "1" }

/-- Whether a page reads the query for an actor. -/
def readsActor (p : Page) : Bool :=
  match part? p with
  | some (_, .summary) => false
  | some _ => true
  | none => false

/-- Reads the id of a payment from a query. -/
def paymentId? (j : Json) : Option String := do
  let r ← partialRecord? ["paymentId"] j
  box? r "paymentId"

/-- Whether the id of a payment has a length that is taken. -/
def isPaymentId (s : String) : Bool := 1 ≤ s.length && s.length ≤ 64

/-! ### Pages -/

/-- What shows a page that takes no payment. -/
def viewOperation (p : Page) (q : ActorQuery) : Operation :=
  match part? p with
  | some (c, .details) => .detailsPage c q.id q.addAnother
  | some (c, .address) => .addressPage c q.id
  | some (c, .summary) => .summaryPage c
  | some (c, .removal) => .removePage c q.id
  | none => if p = .taskList then .taskList else .load

/-- The form of a page of a collection. -/
def partSubmission? (c : Collection) (part : Part) (q : ActorQuery) (fields : Json) : Option Submission :=
  match part, c.role? with
  | .details, some role => (ActorDetails.ofJson? fields).map (.actorDetails role q.id)
  | .details, none => (PersonDetails.ofJson? fields).map (.personDetails q.id)
  | .address, _ => (AddressForm.ofJson? fields).map (.address (.actor c (q.id.getD "")))
  | .summary, some role => (YesNoForm.ofJson? fields).map (.attorneySummary role)
  | .summary, none => (YesNoForm.ofJson? fields).map .peopleSummary
  | .removal, some role => (YesNoForm.ofJson? fields).map (.removeAttorney role (q.id.getD ""))
  | .removal, none => (YesNoForm.ofJson? fields).map (.removePerson (q.id.getD ""))

/-- Whether a page takes a form. -/
def takesForm : Page → Bool
  | .taskList => false
  | .aboutPayment => false
  | .paymentConfirmation => false
  | .identityConfirmed => false
  | .submitted => false
  | _ => true

/-- The form that was sent to a page; `none` if it cannot be read, or the page takes none. -/
def submission? (p : Page) (q : ActorQuery) (fields : Json) : Option Submission :=
  match part? p with
  | some (c, part) => partSubmission? c part q fields
  | none => match p with
    | .donorDetails => (DonorDetails.ofJson? fields).map .donorDetails
    | .donorAddress => (AddressForm.ofJson? fields).map (.address .donor)
    | .lpaType => (LpaTypeForm.ofJson? fields).map .lpaType
    | .attorneysDecide => (Decisions.ofJson? fields).map (.decisions .primary)
    | .wantReplacements => (YesNoForm.ofJson? fields).map .wantReplacements
    | .replacementsStepIn => (StepInForm.ofJson? fields).map .stepIn
    | .replacementsDecide => (Decisions.ofJson? fields).map (.decisions .replacement)
    | .usableWhen => (UsableWhenForm.ofJson? fields).map .usableWhen
    | .restrictions => (RestrictionsForm.ofJson? fields).map .restrictions
    | .providerDetails => (ProviderDetails.ofJson? fields).map .providerDetails
    | .providerAddress => (AddressForm.ofJson? fields).map (.address .certificateProvider)
    | .wantToNotify => (YesNoForm.ofJson? fields).map .wantToNotify
    | .checkLpa => (CheckForm.ofJson? fields).map .check
    | .identityOptions => (IdentityOptionForm.ofJson? fields).map .identityOption
    | .chosenIdentity => (IdentityCallback.ofJson? fields).map .identityCallback
    | .sign => (SignForm.ofJson? fields).map .sign
    | _ => none

end PowerOfAttorney.Web
