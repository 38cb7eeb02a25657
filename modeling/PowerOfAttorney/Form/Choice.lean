import PowerOfAttorney.Answer
import PowerOfAttorney.Form.Details

/-! The forms with one question, or a few boxes to tick. -/

namespace PowerOfAttorney.Form

open Json

/-- The most characters of details. -/
def detailsLimit : Nat := 10000

/-- The most characters of restrictions. -/
def restrictionsLimit : Nat := 10000

/-- Whether a box is ticked: something that is not empty was sent for it. -/
def isTicked (box : Option String) : Bool := box.any fun s => s != ""

/-- The errors with those of details that have to be given. -/
def addDetails (l : ErrorList) (field label details : String) : ErrorList :=
  (l.requireText field label details).requireAtMost field label details detailsLimit

/-! ### How attorneys decide -/

/-- How the attorneys of a role decide. -/
structure Decisions where
  decisionType : String := ""
  mixedDetails : String := ""
deriving DecidableEq, Repr, Inhabited

namespace Decisions

def ofJson? (j : Json) : Option Decisions := do
  let r ← partialRecord? ["decision-type", "mixed-details"] j
  return { decisionType := ← box? r "decision-type", mixedDetails := ← box? r "mixed-details" }

/-- The arrangement chosen. -/
def mode? (f : Decisions) : Option DecisionMode :=
  if f.decisionType = "jointly" then some .jointly
  else if f.decisionType = "jointly-and-severally" then some .jointlyAndSeverally
  else if f.decisionType = "mixed" then some (.mixed (Text.trim f.mixedDetails))
  else none

def errors (f : Decisions) (label : String) : ErrorList :=
  match f.mode? with
  | none => .single "decision-type" (.select label)
  | some (.mixed details) => addDetails {} "mixed-details" "details" details
  | some _ => {}

end Decisions

/-! ### When replacement attorneys step in -/

/-- When the replacement attorneys step in. -/
structure StepInForm where
  whenToStepIn : String := ""
  otherDetails : String := ""
deriving DecidableEq, Repr, Inhabited

namespace StepInForm

def ofJson? (j : Json) : Option StepInForm := do
  let r ← partialRecord? ["when-to-step-in", "other-details"] j
  return { whenToStepIn := ← box? r "when-to-step-in", otherDetails := ← box? r "other-details" }

/-- The answer chosen. -/
def stepIn? (f : StepInForm) : Option StepIn :=
  if f.whenToStepIn = "one" then some .whenOneCannotAct
  else if f.whenToStepIn = "all" then some .whenNoneCanAct
  else if f.whenToStepIn = "other" then some (.someOtherWay (Text.trim f.otherDetails))
  else none

def errors (f : StepInForm) : ErrorList :=
  match f.stepIn? with
  | none => .single "when-to-step-in" (.select "whenYourReplacementAttorneysStepIn")
  | some (.someOtherWay details) => addDetails {} "other-details" "detailsOfWhenToStepIn" details
  | some _ => {}

end StepInForm

/-! ### Questions with a few words to choose from -/

/-- A question to be answered with yes or no. -/
structure YesNoForm where
  yesNo : String := ""
deriving DecidableEq, Repr, Inhabited

namespace YesNoForm

def ofJson? (j : Json) : Option YesNoForm := do
  let r ← partialRecord? ["yes-no"] j
  return { yesNo := ← box? r "yes-no" }

def answer? (f : YesNoForm) : Option YesNo := ofWord? f.yesNo

def errors (f : YesNoForm) (label : String) : ErrorList :=
  if f.answer?.isSome then {} else .single "yes-no" (.select label)

end YesNoForm

/-- What the power is about. -/
structure LpaTypeForm where
  lpaType : String := ""
deriving DecidableEq, Repr, Inhabited

namespace LpaTypeForm

def ofJson? (j : Json) : Option LpaTypeForm := do
  let r ← partialRecord? ["lpa-type"] j
  return { lpaType := ← box? r "lpa-type" }

def answer? (f : LpaTypeForm) : Option LpaType := ofWord? f.lpaType

def errors (f : LpaTypeForm) : ErrorList :=
  if f.answer?.isSome then {} else .single "lpa-type" (.select "theTypeOfLpaToMake")

end LpaTypeForm

/-- How the donor wants to prove who they are. -/
structure IdentityOptionForm where
  option : String := ""
deriving DecidableEq, Repr, Inhabited

namespace IdentityOptionForm

def ofJson? (j : Json) : Option IdentityOptionForm := do
  let r ← partialRecord? ["option"] j
  return { option := ← box? r "option" }

def answer? (f : IdentityOptionForm) : Option IdentityOption := ofWord? f.option

def errors (f : IdentityOptionForm) : ErrorList :=
  if f.answer?.isSome then {} else .single "option" (.select "fromTheListedOptions")

end IdentityOptionForm

/-! ### Questions that may be answered later -/

/-- The restrictions on the attorneys. -/
structure RestrictionsForm where
  restrictions : String := ""
  later : Option String := none
deriving DecidableEq, Repr, Inhabited

namespace RestrictionsForm

def ofJson? (j : Json) : Option RestrictionsForm := do
  let r ← partialRecord? ["restrictions", "answer-later"] j
  return { restrictions := ← box? r "restrictions", later := ← r.optional "answer-later" text? }

/-- Whether the user wants to come back to the question. -/
def answersLater (f : RestrictionsForm) : Bool := isTicked f.later

def errors (f : RestrictionsForm) : ErrorList :=
  .check [({ field := "restrictions", label := "restrictions", limit := some restrictionsLimit }, f.restrictions)]

end RestrictionsForm

/-- From when the power can be used. -/
structure UsableWhenForm where
  usableWhen : String := ""
  later : Option String := none
deriving DecidableEq, Repr, Inhabited

namespace UsableWhenForm

def ofJson? (j : Json) : Option UsableWhenForm := do
  let r ← partialRecord? ["when", "answer-later"] j
  return { usableWhen := ← box? r "when", later := ← r.optional "answer-later" text? }

def answer? (f : UsableWhenForm) : Option UsableWhen := ofWord? f.usableWhen

/-- Whether the user wants to come back to the question. -/
def answersLater (f : UsableWhenForm) : Bool := isTicked f.later

def errors (f : UsableWhenForm) : ErrorList :=
  if f.answersLater || f.answer?.isSome then {} else .single "when" (.select "whenYourAttorneysCanUseYourLpa")

end UsableWhenForm

/-! ### Checking, proving one's identity, signing -/

/-- The donor has checked the LPA and is happy to share it. -/
structure CheckForm where
  checked : Option String := none
  happy : Option String := none
deriving DecidableEq, Repr, Inhabited

namespace CheckForm

def ofJson? (j : Json) : Option CheckForm := do
  let r ← partialRecord? ["checked", "happy"] j
  return { checked := ← r.optional "checked" text?, happy := ← r.optional "happy" text? }

def errors (f : CheckForm) : ErrorList :=
  let l : ErrorList := if isTicked f.checked then {} else .single "checked" (.custom "selectCheckedLpa")
  if isTicked f.happy then l else l.add "happy" (.custom "selectHappyToShareLpa")

end CheckForm

/-- The names that an identity service vouches for. -/
structure IdentityCallback where
  firstNames : String := ""
  lastName : String := ""
deriving DecidableEq, Repr, Inhabited

def IdentityCallback.ofJson? (j : Json) : Option IdentityCallback := do
  let r ← partialRecord? ["first-names", "last-name"] j
  return { firstNames := ← box? r "first-names", lastName := ← box? r "last-name" }

/-- The donor wants to sign, and to apply for registration. -/
structure SignForm where
  wantToSign : Option String := none
  wantToApply : Option String := none
deriving DecidableEq, Repr, Inhabited

namespace SignForm

def ofJson? (j : Json) : Option SignForm := do
  let r ← partialRecord? ["want-to-sign", "want-to-apply"] j
  return { wantToSign := ← r.optional "want-to-sign" text?, wantToApply := ← r.optional "want-to-apply" text? }

def signs (f : SignForm) : Bool := isTicked f.wantToSign

def applies (f : SignForm) : Bool := isTicked f.wantToApply

def errors (f : SignForm) : ErrorList :=
  if f.signs && f.applies then {} else .single "sign-lpa" (.custom "bothBoxesToSignAndApply")

end SignForm

end PowerOfAttorney.Form
