import PowerOfAttorney.Text.Blank
import PowerOfAttorney.Word

/-! The answers that a power of attorney is made of, besides names, dates and addresses. -/

namespace PowerOfAttorney

inductive YesNo where
  | yes
  | no
deriving DecidableEq, Repr

instance : Worded YesNo where
  all := [.yes, .no]
  word
    | .yes => "yes"
    | .no => "no"
  mem_all := by intro a; cases a <;> decide
  nodup_words := by decide

/-- How several attorneys decide. Only a mixed arrangement has details. -/
inductive DecisionMode where
  | jointly
  | jointlyAndSeverally
  | mixed (details : String)
deriving DecidableEq, Repr

namespace DecisionMode

/-- The word of the arrangement. -/
def word : DecisionMode → String
  | .jointly => "jointly"
  | .jointlyAndSeverally => "jointly-and-severally"
  | .mixed _ => "mixed"

/-- Whether nothing is left to say: a mixed arrangement needs details. -/
def isComplete : DecisionMode → Bool
  | .mixed details => !Text.allBlank details
  | _ => true

end DecisionMode

/-- When the replacement attorneys begin to act. Only some other way has details. -/
inductive StepIn where
  | whenOneCannotAct
  | whenNoneCanAct
  | someOtherWay (details : String)
deriving DecidableEq, Repr

namespace StepIn

/-- The word of the answer in a form. -/
def word : StepIn → String
  | .whenOneCannotAct => "one"
  | .whenNoneCanAct => "all"
  | .someOtherWay _ => "other"

/-- The word of the answer in what is stored. -/
def storedWord : StepIn → String
  | .whenOneCannotAct => "when-one-can-no-longer-act"
  | .whenNoneCanAct => "when-all-can-no-longer-act"
  | .someOtherWay _ => "some-other-way"

/-- Whether nothing is left to say: some other way needs details. -/
def isComplete : StepIn → Bool
  | .someOtherWay details => !Text.allBlank details
  | _ => true

end StepIn

/-- What the power is about. -/
inductive LpaType where
  | propertyAndAffairs
  | healthAndWelfare
deriving DecidableEq, Repr

instance : Worded LpaType where
  all := [.propertyAndAffairs, .healthAndWelfare]
  word
    | .propertyAndAffairs => "property-and-affairs"
    | .healthAndWelfare => "health-and-welfare"
  mem_all := by intro t; cases t <;> decide
  nodup_words := by decide

/-- From when the power can be used. -/
inductive UsableWhen where
  | registered
  | capacityLost
deriving DecidableEq, Repr

instance : Worded UsableWhen where
  all := [.registered, .capacityLost]
  word
    | .registered => "when-registered"
    | .capacityLost => "when-capacity-lost"
  mem_all := by intro u; cases u <;> decide
  nodup_words := by decide

/-- How the donor proves who they are. -/
inductive IdentityOption where
  | oneLogin
  | easyId
  | passport
  | drivingLicencePhotocard
  | drivingLicencePaper
  | biometricResidencePermit
  | onlineBankAccount
deriving DecidableEq, Repr

instance : Worded IdentityOption where
  all := [.oneLogin, .easyId, .passport, .drivingLicencePhotocard, .drivingLicencePaper, .biometricResidencePermit,
    .onlineBankAccount]
  word
    | .oneLogin => "one-login"
    | .easyId => "easy-id"
    | .passport => "passport"
    | .drivingLicencePhotocard => "driving-licence-photocard"
    | .drivingLicencePaper => "driving-licence-paper"
    | .biometricResidencePermit => "biometric-residence-permit"
    | .onlineBankAccount => "online-bank-account"
  mem_all := by intro o; cases o <;> decide
  nodup_words := by decide

end PowerOfAttorney
