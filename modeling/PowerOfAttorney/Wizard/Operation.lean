import PowerOfAttorney.Wizard.AddressTarget
import PowerOfAttorney.Wizard.Attorneys
import PowerOfAttorney.Wizard.Pages
import PowerOfAttorney.Wizard.People

/-!
All that can be asked of a session's LPA, and what each operation makes of it.

Deciding is a pure step: it sees the LPA that was read, and nothing of the store.
-/

namespace PowerOfAttorney.Wizard

open Form Routing

/-- A form that is sent in. -/
inductive Submission where
  | donorDetails (f : DonorDetails)
  | lpaType (f : LpaTypeForm)
  | actorDetails (role : AttorneyRole) (id : Option String) (f : ActorDetails)
  | attorneySummary (role : AttorneyRole) (f : YesNoForm)
  | removeAttorney (role : AttorneyRole) (id : String) (f : YesNoForm)
  | decisions (role : AttorneyRole) (f : Decisions)
  | wantReplacements (f : YesNoForm)
  | stepIn (f : StepInForm)
  | usableWhen (f : UsableWhenForm)
  | restrictions (f : RestrictionsForm)
  | providerDetails (f : ProviderDetails)
  | address (t : AddressTarget) (f : AddressForm)
  | wantToNotify (f : YesNoForm)
  | personDetails (id : Option String) (f : PersonDetails)
  | peopleSummary (f : YesNoForm)
  | removePerson (id : String) (f : YesNoForm)
  | check (f : CheckForm)
  | identityOption (f : IdentityOptionForm)
  | identityCallback (f : IdentityCallback)
  | sign (f : SignForm)
deriving Repr

/-- What is asked of a session's LPA. -/
inductive Operation where
  | load
  | taskList
  | detailsPage (c : Collection) (id : Option String) (addAnother : Bool)
  | addressPage (c : Collection) (id : Option String)
  | summaryPage (c : Collection)
  | removePage (c : Collection) (id : Option String)
  | confirmPayment (paymentId : String)
  | submit (s : Submission)
deriving Repr

/-- What a form makes of the LPA. -/
def Submission.decide (w : Surroundings) (s : Submission) (l : Lpa) : Decision :=
  let plain := fun (verdict : Verdict) => ({ verdict, source := w.source } : Decision)
  match s with
  | .donorDetails f => plain (saveDonorDetails w.today f l)
  | .lpaType f => plain (chooseLpaType f l)
  | .actorDetails role id f => saveActorDetails w.today w.isEmail w.source role id f l
  | .attorneySummary role f => plain (answerAttorneySummary role f l)
  | .removeAttorney role id f => plain (Wizard.removeAttorney role id f l)
  | .decisions role f => plain (chooseDecisions role f l)
  | .wantReplacements f => plain (Wizard.wantReplacements f l)
  | .stepIn f => plain (chooseStepIn f l)
  | .usableWhen f => plain (chooseUsableWhen f l)
  | .restrictions f => plain (saveRestrictions f l)
  | .providerDetails f => plain (saveProviderDetails w.today w.isEmail f l)
  | .address t f =>
    let (verdict, lookedUp) := saveAddress w.lookup t f l
    { verdict, source := w.source, lookedUp }
  | .wantToNotify f => plain (Wizard.wantToNotify f l)
  | .personDetails id f => savePersonDetails w.isEmail w.source id f l
  | .peopleSummary f => plain (answerPeopleSummary f l)
  | .removePerson id f => plain (Wizard.removePerson id f l)
  | .check f => plain (confirmCheck f l)
  | .identityOption f => plain (chooseIdentityOption f l)
  | .identityCallback f => plain (recordIdentity w.now f l)
  | .sign f => plain (Wizard.sign w.now f l)

/-! ### Pages -/

/-- The actor of a collection that an id names. -/
def shownActor? (l : Lpa) (c : Collection) (id : Option String) : Option ShownActor :=
  id.bind fun id => match c with
    | .attorneys => (l.attorneys.get? id).map .attorney
    | .replacements => (l.replacements.get? id).map .attorney
    | .peopleToNotify => (l.peopleToNotify.get? id).map .person

/-- Shows a page, or sends the user to another one instead. -/
def showUnless (instead : Option Destination) (l : Lpa) (actor : Option ShownActor) : Verdict :=
  match instead with
  | some d => .goTo d
  | none => .answer (.shown l actor)

/-- What an operation makes of the LPA. -/
def Operation.decide (w : Surroundings) (op : Operation) (l : Lpa) : Decision :=
  let plain := fun (verdict : Verdict) => ({ verdict, source := w.source } : Decision)
  match op with
  | .load => plain (.answer (.loaded l))
  | .taskList => plain (.answer (.tasks l l.taskList))
  | .detailsPage c id addAnother =>
    let actor := shownActor? l c id
    plain (showUnless (insteadOfDetails c actor.isSome (l.count c) addAnother) l actor)
  | .addressPage c id =>
    let actor := shownActor? l c id
    plain (showUnless (insteadOfAddress c actor.isSome) l actor)
  | .summaryPage c => plain (showUnless (insteadOfSummary c (l.count c)) l none)
  | .removePage c id =>
    let actor := shownActor? l c id
    plain (showUnless (insteadOfRemoval c actor.isSome) l actor)
  | .confirmPayment paymentId => Wizard.confirmPayment w.source paymentId l
  | .submit s => s.decide w l

end PowerOfAttorney.Wizard
