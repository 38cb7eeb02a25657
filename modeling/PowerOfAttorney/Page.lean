import PowerOfAttorney.Actor
import PowerOfAttorney.Task
import PowerOfAttorney.Text.Split

/-! The pages on which a power of attorney is filled in, each with its path below that of the LPA. -/

namespace PowerOfAttorney

/-- A page. -/
inductive Page where
  | taskList
  | donorDetails
  | donorAddress
  | lpaType
  | attorneyDetails
  | attorneyAddress
  | attorneySummary
  | removeAttorney
  | attorneysDecide
  | wantReplacements
  | replacementDetails
  | replacementAddress
  | replacementSummary
  | removeReplacement
  | replacementsStepIn
  | replacementsDecide
  | usableWhen
  | restrictions
  | providerDetails
  | providerAddress
  | wantToNotify
  | personDetails
  | personAddress
  | personSummary
  | removePerson
  | checkLpa
  | aboutPayment
  | paymentConfirmation
  | identityOptions
  | chosenIdentity
  | identityConfirmed
  | sign
  | submitted
deriving DecidableEq, Repr

namespace Page

/-- All pages, in the order in which they are gone through. -/
def all : List Page :=
  [.taskList, .donorDetails, .donorAddress, .lpaType, .attorneyDetails, .attorneyAddress,
    .attorneySummary, .removeAttorney, .attorneysDecide, .wantReplacements, .replacementDetails,
    .replacementAddress, .replacementSummary, .removeReplacement, .replacementsStepIn,
    .replacementsDecide, .usableWhen, .restrictions, .providerDetails, .providerAddress, .wantToNotify,
    .personDetails, .personAddress, .personSummary, .removePerson, .checkLpa, .aboutPayment,
    .paymentConfirmation, .identityOptions, .chosenIdentity, .identityConfirmed, .sign, .submitted]

instance : Worded Page where
  all := all
  word
    | .taskList => "/task-list"
    | .donorDetails => "/your-details"
    | .donorAddress => "/your-address"
    | .lpaType => "/lpa-type"
    | .attorneyDetails => "/choose-attorneys"
    | .attorneyAddress => "/choose-attorneys-address"
    | .attorneySummary => "/choose-attorneys-summary"
    | .removeAttorney => "/remove-attorney"
    | .attorneysDecide => "/how-should-attorneys-make-decisions"
    | .wantReplacements => "/do-you-want-replacement-attorneys"
    | .replacementDetails => "/choose-replacement-attorneys"
    | .replacementAddress => "/choose-replacement-attorneys-address"
    | .replacementSummary => "/choose-replacement-attorneys-summary"
    | .removeReplacement => "/remove-replacement-attorney"
    | .replacementsStepIn => "/how-should-replacement-attorneys-step-in"
    | .replacementsDecide => "/how-should-replacement-attorneys-make-decisions"
    | .usableWhen => "/when-can-the-lpa-be-used"
    | .restrictions => "/restrictions"
    | .providerDetails => "/certificate-provider-details"
    | .providerAddress => "/certificate-provider-address"
    | .wantToNotify => "/do-you-want-to-notify-people"
    | .personDetails => "/choose-people-to-notify"
    | .personAddress => "/choose-people-to-notify-address"
    | .personSummary => "/choose-people-to-notify-summary"
    | .removePerson => "/remove-person-to-notify"
    | .checkLpa => "/check-your-lpa"
    | .aboutPayment => "/about-payment"
    | .paymentConfirmation => "/payment-confirmation"
    | .identityOptions => "/select-your-identity-options"
    | .chosenIdentity => "/your-chosen-identity-options"
    | .identityConfirmed => "/identity-confirmed"
    | .sign => "/sign-your-lpa"
    | .submitted => "/you-have-submitted-your-lpa"
  mem_all := by intro p; cases p <;> decide
  nodup_words := by decide

/-- The path of a page below that of the LPA. -/
def path (p : Page) : String := wordOf p

/-- The page of a path. -/
def ofPath? (s : String) : Option Page := ofWord? s

/-- The name of a page: the words of its path, each with a capital. -/
def name (p : Page) : String :=
  String.ofList ((Text.pieces '-' (p.path.toList.drop 1)).flatMap fun
    | c :: r => c.toUpper :: r
    | [] => [])

end Page

/-! ### The pages of a collection and of a section -/

namespace Collection

/-- Where an actor's details are filled in. -/
def detailsPage : Collection → Page
  | .attorneys => .attorneyDetails
  | .replacements => .replacementDetails
  | .peopleToNotify => .personDetails

/-- Where an actor's address is filled in. -/
def addressPage : Collection → Page
  | .attorneys => .attorneyAddress
  | .replacements => .replacementAddress
  | .peopleToNotify => .personAddress

/-- Where the actors are listed. -/
def summaryPage : Collection → Page
  | .attorneys => .attorneySummary
  | .replacements => .replacementSummary
  | .peopleToNotify => .personSummary

/-- Where an actor is removed. -/
def removePage : Collection → Page
  | .attorneys => .removeAttorney
  | .replacements => .removeReplacement
  | .peopleToNotify => .removePerson

/-- Where one goes on when the last actor is removed. -/
def entryPage : Collection → Page
  | .attorneys => .attorneyDetails
  | .replacements => .wantReplacements
  | .peopleToNotify => .wantToNotify

end Collection

/-- The page where a section begins. -/
def Section.firstPage : Section → Page
  | .chooseAttorneys => .attorneyDetails
  | .chooseReplacements => .wantReplacements
  | .usableWhen => .usableWhen
  | .restrictions => .restrictions
  | .certificateProvider => .providerDetails
  | .peopleToNotify => .wantToNotify
  | .checkLpa => .checkLpa
  | .payForLpa => .aboutPayment
  | .identityAndSign => .identityOptions

end PowerOfAttorney
