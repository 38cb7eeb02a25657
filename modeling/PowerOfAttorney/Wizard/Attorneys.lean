import PowerOfAttorney.Form.Choice
import PowerOfAttorney.Lpa.Completion
import PowerOfAttorney.Wizard.Reply

/-! The forms about attorneys and replacement attorneys. -/

namespace PowerOfAttorney.Wizard

open Form Routing

/-- Takes the details of an attorney: of the one with the id, or of a new one if there is none. -/
def saveActorDetails (today : Date) (isEmail : String → Bool) (source : Source) (role : AttorneyRole)
    (id : Option String) (f : ActorDetails) (l : Lpa) : Decision :=
  let f := f.trimmed
  let errors := f.errors today isEmail
  let attorneys := l.attorneysOf role
  let existing := id.bind attorneys.get?
  let namesake := Namesake.find? l role.collection.kind (existing.map (·.id)) f.firstNames f.lastName
  let nameWarning := pendingNameWarning errors namesake f.ignoreNameWarning f.firstNames f.lastName
  let ageWarning := pendingAgeWarning errors (f.ageWarning today) f.ignoreAgeWarning
  match rejection? errors nameWarning ageWarning with
  | some r => { verdict := .answer (.invalid r), source }
  | none =>
    let store := fun (a : Attorney) (isNew : Bool) =>
      let a := { a with firstNames := f.firstNames, lastName := f.lastName, email := f.email, birth := f.birth.date? }
      Verdict.saveAndGo ((l.withAttorneys role (attorneys.put a)).settleAttorneys role)
        (afterDetails role.collection a.id isNew f.source)
    match existing with
    | some a => { verdict := store a false, source }
    | none => match source.mint? attorneys.ids with
      | some (id, source) => { verdict := store { id } true, source }
      | none => { verdict := .fail .noFreshId, source }

/-- Takes the answer whether another attorney shall be added. -/
def answerAttorneySummary (role : AttorneyRole) (f : YesNoForm) (l : Lpa) : Verdict :=
  let label := match role with
    | .primary => "yesToAddAnotherAttorney"
    | .replacement => "yesToAddAnotherReplacementAttorney"
  match f.answer? with
  | some answer => .goTo (afterSummary role.collection answer l)
  | none => .reject (f.errors label)

/-- Removes an attorney, once that is confirmed. -/
def removeAttorney (role : AttorneyRole) (id : String) (f : YesNoForm) (l : Lpa) : Verdict :=
  let summary := Destination.of role.collection.summaryPage
  if (l.attorneysOf role).contains id then
    match f.answer? with
    | none => .reject (f.errors "removeAttorney")
    | some .no => .goTo summary
    | some .yes =>
      let rest := (l.attorneysOf role).erase id
      .saveAndGo ((l.withAttorneys role rest).prune.settleAttorneys role) (afterRemoval role.collection rest.size)
  else .goTo summary

/-- Takes the arrangement between the attorneys of a role. -/
def chooseDecisions (role : AttorneyRole) (f : Decisions) (l : Lpa) : Verdict :=
  let label := match role with
    | .primary => "howAttorneysShouldMakeDecisions"
    | .replacement => "howReplacementAttorneysShouldMakeDecisions"
  let errors := f.errors label
  match f.mode? with
  | some mode =>
    if errors.any then .reject errors
    else
      let l := match role with
        | .primary => l.arrange (some mode)
        | .replacement => { l with replacementsDecide := some mode }
      .saveAndGo (l.settleAttorneys role) (afterDecisions role)
  | none => .reject errors

/-- Takes the answer whether there shall be replacement attorneys. -/
def wantReplacements (f : YesNoForm) (l : Lpa) : Verdict :=
  match f.answer? with
  | some answer =>
    let l := { l with wantReplacements := some answer }
    let l := if answer = .no then l.clearReplacements else l
    .saveAndGo (l.settleAttorneys .replacement) (afterWantReplacements answer)
  | none => .reject (f.errors "yesToAddReplacementAttorneys")

/-- Takes the answer how the replacement attorneys step in. -/
def chooseStepIn (f : StepInForm) (l : Lpa) : Verdict :=
  match f.stepIn? with
  | some answer =>
    if f.errors.any then .reject f.errors
    else
      let l := { l with replacementsStepIn := some answer }.settleAttorneys .replacement
      .saveAndGo l (afterStepIn l)
  | none => .reject f.errors

end PowerOfAttorney.Wizard
