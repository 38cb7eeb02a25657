import PowerOfAttorney.Actor.Storage
import PowerOfAttorney.Json.Reader
import PowerOfAttorney.Json.Writer
import PowerOfAttorney.Lpa

/-! A power of attorney as a JSON value, as it is stored and shown. -/

namespace PowerOfAttorney

open Json

/-- The greatest time that is stored; the least is one further from zero. -/
def timeBound : Int := 9223372036854775807

/-- Where versions end. -/
def versionBound : Nat := 18446744073709551616

/-- Reads a time in milliseconds. -/
def time? (j : Json) : Option Int := intWithin? (-timeBound - 1) timeBound j

/-- An answer that has details for one of its words: the word, and the details if there are any. -/
def detailed (name word : String) (details : Option String) : Json :=
  .object ((name, .text word) :: details.toList.map fun d => ("details", .text d))

/-- Reads the word and the details of an answer. Details that are `null` count as none. -/
def detailed? (name : String) (j : Json) : Option (String × Option Json) := do
  let r ← record? [name, "details"] j
  let word ← r.required name wordText?
  return (word, match r.get? "details" with
    | some .null => none
    | d => d)

namespace DecisionMode

/-- The details, where there are any. -/
def details? : DecisionMode → Option String
  | .mixed d => some d
  | _ => none

/-- An arrangement as a value. -/
def toJson (m : DecisionMode) : Json := detailed "how" m.word m.details?

/-- Reads an arrangement. -/
def ofJson? (j : Json) : Option DecisionMode := do
  match ← detailed? "how" j with
  | ("jointly", none) => some .jointly
  | ("jointly-and-severally", none) => some .jointlyAndSeverally
  | ("mixed", some d) => return .mixed (← text? d)
  | _ => none

end DecisionMode

namespace StepIn

/-- The details, where there are any. -/
def details? : StepIn → Option String
  | .someOtherWay d => some d
  | _ => none

/-- The answer as a value. -/
def toJson (s : StepIn) : Json := detailed "when" s.storedWord s.details?

/-- Reads the answer. -/
def ofJson? (j : Json) : Option StepIn := do
  match ← detailed? "when" j with
  | ("when-one-can-no-longer-act", none) => some .whenOneCannotAct
  | ("when-all-can-no-longer-act", none) => some .whenNoneCanAct
  | ("some-other-way", some d) => return .someOtherWay (← text? d)
  | _ => none

end StepIn

namespace Payment

/-- A payment as a value. -/
def toJson (p : Payment) : Json :=
  .object [("payment_reference", .text p.reference), ("payment_id", .text p.paymentId)]

/-- Reads a payment. -/
def ofJson? (j : Json) : Option Payment := do
  let r ← record? ["payment_reference", "payment_id"] j
  return {
    reference := ← r.required "payment_reference" text?
    paymentId := ← r.required "payment_id" text? }

end Payment

namespace IdentityRecord

/-- The answer of an identity service as a value. -/
def toJson (i : IdentityRecord) : Json :=
  .object [("ok", .bool i.ok), ("first_names", .text i.firstNames), ("last_name", .text i.lastName),
    ("retrieved_at_ms", .int i.retrievedAt)]

/-- Reads the answer of an identity service. -/
def ofJson? (j : Json) : Option IdentityRecord := do
  let r ← record? ["ok", "first_names", "last_name", "retrieved_at_ms"] j
  return {
    ok := ← r.required "ok" bool?
    firstNames := ← r.required "first_names" text?
    lastName := ← r.required "last_name" text?
    retrievedAt := ← r.required "retrieved_at_ms" time? }

end IdentityRecord

namespace Tasks

def names : List String := Section.all.map wordOf

/-- The states of the sections as a value. -/
def toJson (t : Tasks) : Json := .object (Section.all.map fun s => (wordOf s, ofWord (t.get s)))

/-- Reads the states of the sections. -/
def ofJson? (j : Json) : Option Tasks := do
  let r ← record? names j
  return {
    chooseAttorneys := ← r.required (wordOf Section.chooseAttorneys) word?
    chooseReplacements := ← r.required (wordOf Section.chooseReplacements) word?
    usableWhen := ← r.required (wordOf Section.usableWhen) word?
    restrictions := ← r.required (wordOf Section.restrictions) word?
    certificateProvider := ← r.required (wordOf Section.certificateProvider) word?
    peopleToNotify := ← r.required (wordOf Section.peopleToNotify) word?
    checkLpa := ← r.required (wordOf Section.checkLpa) word?
    payForLpa := ← r.required (wordOf Section.payForLpa) word?
    identityAndSign := ← r.required (wordOf Section.identityAndSign) word? }

end Tasks

namespace Lpa

/-- The fields as values, by their names. -/
def members (l : Lpa) : List (String × Json) :=
  [("id", .text l.id),
    ("version", nat l.version),
    ("donor", l.donor.toJson),
    ("lpa_type", optional ofWord l.lpaType),
    ("attorneys", l.attorneys.toJson Attorney.toJson),
    ("how_attorneys_make_decisions", optional DecisionMode.toJson l.attorneysDecide),
    ("want_replacement_attorneys", optional ofWord l.wantReplacements),
    ("replacement_attorneys", l.replacements.toJson Attorney.toJson),
    ("how_replacement_attorneys_make_decisions", optional DecisionMode.toJson l.replacementsDecide),
    ("how_replacement_attorneys_step_in", optional StepIn.toJson l.replacementsStepIn),
    ("when_can_the_lpa_be_used", optional ofWord l.usableWhen),
    ("restrictions", .text l.restrictions),
    ("certificate_provider", l.certificateProvider.toJson),
    ("do_you_want_to_notify_people", optional ofWord l.wantToNotify),
    ("people_to_notify", l.peopleToNotify.toJson PersonToNotify.toJson),
    ("checked", .bool l.checked),
    ("happy_to_share", .bool l.happyToShare),
    ("payment_details", optional Payment.toJson l.payment),
    ("identity_option", optional ofWord l.identityOption),
    ("identity_user_data", optional IdentityRecord.toJson l.identity),
    ("want_to_sign", .bool l.wantToSign),
    ("want_to_apply", .bool l.wantToApply),
    ("submitted_at_ms", optional Json.int l.submittedAt),
    ("tasks", l.tasks.toJson)]

def names : List String := (Lpa.members {}).map (·.1)

/-- An LPA as a value. -/
def toJson (l : Lpa) : Json := .object l.members

/-- Reads an LPA. -/
def ofJson? (j : Json) : Option Lpa := do
  let r ← record? names j
  return {
    id := ← r.required "id" text?
    version := ← r.required "version" (natBelow? versionBound)
    donor := ← r.required "donor" Donor.ofJson?
    lpaType := ← r.optional "lpa_type" word?
    attorneys := ← r.required "attorneys" (Roster.ofJson? Attorney.ofJson?)
    attorneysDecide := ← r.optional "how_attorneys_make_decisions" DecisionMode.ofJson?
    wantReplacements := ← r.optional "want_replacement_attorneys" word?
    replacements := ← r.required "replacement_attorneys" (Roster.ofJson? Attorney.ofJson?)
    replacementsDecide := ← r.optional "how_replacement_attorneys_make_decisions" DecisionMode.ofJson?
    replacementsStepIn := ← r.optional "how_replacement_attorneys_step_in" StepIn.ofJson?
    usableWhen := ← r.optional "when_can_the_lpa_be_used" word?
    restrictions := ← r.required "restrictions" text?
    certificateProvider := ← r.required "certificate_provider" CertificateProvider.ofJson?
    wantToNotify := ← r.optional "do_you_want_to_notify_people" word?
    peopleToNotify := ← r.required "people_to_notify" (Roster.ofJson? PersonToNotify.ofJson?)
    checked := ← r.required "checked" bool?
    happyToShare := ← r.required "happy_to_share" bool?
    payment := ← r.optional "payment_details" Payment.ofJson?
    identityOption := ← r.optional "identity_option" word?
    identity := ← r.optional "identity_user_data" IdentityRecord.ofJson?
    wantToSign := ← r.required "want_to_sign" bool?
    wantToApply := ← r.required "want_to_apply" bool?
    submittedAt := ← r.optional "submitted_at_ms" time?
    tasks := ← r.required "tasks" Tasks.ofJson? }

/-- The text under which an LPA is stored. -/
def encode (l : Lpa) : String := l.toJson.render

/-- The LPA of a stored text. The version is the one kept beside the text. -/
def decode? (payload : String) (version : Nat) : Option Lpa :=
  ((parse? payload).bind ofJson?).map fun l => { l with version }

end Lpa

end PowerOfAttorney
