import PowerOfAttorney.Form.Choice
import PowerOfAttorney.Lpa.Completion
import PowerOfAttorney.Wizard.Reply

/-! The forms that stand on a page of their own: donor, certificate provider, restrictions, payment, signing. -/

namespace PowerOfAttorney.Wizard

open Form Routing

/-- Takes the details of the donor. -/
def saveDonorDetails (today : Date) (f : DonorDetails) (l : Lpa) : Verdict :=
  let f := f.trimmed
  let errors := f.errors today
  match rejection? errors none (pendingAgeWarning errors (f.ageWarning today) f.ignoreAgeWarning) with
  | some r => .answer (.invalid r)
  | none =>
    let donor := { l.donor with
      firstNames := f.firstNames, lastName := f.lastName, otherNames := f.otherNames, birth := f.birth.date? }
    .saveAndGo { l with donor } (.of .donorAddress)

/-- Takes what the power is about. -/
def chooseLpaType (f : LpaTypeForm) (l : Lpa) : Verdict :=
  match f.answer? with
  | some t => .saveAndGo { l with lpaType := some t } (.of .taskList)
  | none => .reject f.errors

/-- Takes the details of the certificate provider. A description is kept of someone who knows the donor by
    profession, and the length of the acquaintance of anybody else. -/
def saveProviderDetails (today : Date) (isEmail : String → Bool) (f : ProviderDetails) (l : Lpa) : Verdict :=
  let f := f.trimmed
  let errors := f.errors today isEmail
  let namesake := Namesake.find? l .certificateProvider none f.firstNames f.lastName
  match rejection? errors (pendingNameWarning errors namesake f.ignoreNameWarning f.firstNames f.lastName) none with
  | some r => .answer (.invalid r)
  | none =>
    let relationship : Option Relationship := ofWord? f.relationship
    let certificateProvider := { l.certificateProvider with
      firstNames := f.firstNames, lastName := f.lastName, email := f.email, mobile := f.mobile
      birth := f.birth.date?, relationship
      relationshipDescription := if relationship = some .professionally then f.relationshipDescription else ""
      acquaintance := if relationship = some .personally then ofWord? f.acquaintance else none }
    .saveAndGo { l with certificateProvider }.settleProvider ((back? f.source).getD (.of .providerAddress))

/-- Takes from when the power can be used. An answer that is put off changes nothing but the state of the section. -/
def chooseUsableWhen (f : UsableWhenForm) (l : Lpa) : Verdict :=
  if f.errors.any then .reject f.errors
  else
    let l := match f.answersLater, f.answer? with
      | false, some answer => { l with usableWhen := some answer, tasks := l.tasks.set .usableWhen .completed }
      | _, _ => { l with tasks := l.tasks.set .usableWhen .inProgress }
    .saveAndGo l (.of .taskList)

/-- Takes the restrictions. -/
def saveRestrictions (f : RestrictionsForm) (l : Lpa) : Verdict :=
  if f.errors.any then .reject f.errors
  else
    let state : TaskState := if f.answersLater then .inProgress else .completed
    .saveAndGo { l with restrictions := Text.trim f.restrictions, tasks := l.tasks.set .restrictions state }
      (.of .taskList)

/-- Takes the donor's word that the LPA is checked and may be shared. -/
def confirmCheck (f : CheckForm) (l : Lpa) : Verdict :=
  if f.errors.any then .reject f.errors
  else
    .saveAndGo { l with checked := true, happyToShare := true, tasks := l.tasks.set .checkLpa .completed }
      (.of .aboutPayment)

/-- The number of characters of a payment's reference. -/
def paymentReferenceLength : Nat := 12

/-- Records a payment that was made. -/
def confirmPayment (source : Source) (paymentId : String) (l : Lpa) : Decision :=
  let (reference, source) := source.draw paymentReferenceLength
  let payment : Payment := { reference, paymentId }
  { verdict := .save { l with payment := some payment, tasks := l.tasks.set .payForLpa .completed } (.paid payment)
    source }

/-- Takes how the donor wants to prove who they are. -/
def chooseIdentityOption (f : IdentityOptionForm) (l : Lpa) : Verdict :=
  match f.answer? with
  | some answer =>
    .saveAndGo { l with identityOption := some answer, tasks := l.tasks.start .identityAndSign } (.of .chosenIdentity)
  | none => .reject f.errors

/-- Whether the names vouched for are those of the donor. -/
def vouchesFor (f : IdentityCallback) (d : Donor) : Bool :=
  f.firstNames != "" && f.firstNames == d.firstNames && f.lastName == d.lastName

/-- Records what the identity service has answered. -/
def recordIdentity (now : Int) (f : IdentityCallback) (l : Lpa) : Verdict :=
  let identity : IdentityRecord :=
    { ok := vouchesFor f l.donor, firstNames := f.firstNames, lastName := f.lastName, retrievedAt := now }
  .saveAndGo { l with identity := some identity, tasks := l.tasks.start .identityAndSign } (.of .identityConfirmed)

/-- Signs the LPA, once the donor's identity is confirmed. -/
def sign (now : Int) (f : SignForm) (l : Lpa) : Verdict :=
  let errors :=
    if l.identityConfirmed then f.errors else f.errors.add "identity" (.custom "confirmYourIdentityBeforeSigning")
  if errors.any then .reject errors
  else
    .saveAndGo { l with
      wantToSign := true, wantToApply := true, submittedAt := some now
      tasks := l.tasks.set .identityAndSign .completed } (.of .submitted)

end PowerOfAttorney.Wizard
