import PowerOfAttorney.Form.Choice
import PowerOfAttorney.Lpa.Completion
import PowerOfAttorney.Wizard.Reply

/-! The forms about the people to notify. -/

namespace PowerOfAttorney.Wizard

open Form Routing

/-- Takes the answer whether anybody shall be notified. -/
def wantToNotify (f : YesNoForm) (l : Lpa) : Verdict :=
  match f.answer? with
  | some answer =>
    let l := { l with wantToNotify := some answer }
    let l := if answer = .no then { l with peopleToNotify := {} } else l
    .saveAndGo l.settlePeople (afterWantToNotify answer)
  | none => .reject (f.errors "yesToNotifySomeoneAboutYourLpa")

/-- Takes the details of a person to notify: of the one with the id, or of a new one if there is none. -/
def savePersonDetails (isEmail : String → Bool) (source : Source) (id : Option String) (f : PersonDetails) (l : Lpa) :
    Decision :=
  let f := f.trimmed
  let errors := f.errors isEmail
  let existing := id.bind l.peopleToNotify.get?
  let namesake := Namesake.find? l .personToNotify (existing.map (·.id)) f.firstNames f.lastName
  let nameWarning := pendingNameWarning errors namesake f.ignoreNameWarning f.firstNames f.lastName
  match rejection? errors nameWarning none with
  | some r => { verdict := .answer (.invalid r), source }
  | none =>
    let store := fun (p : PersonToNotify) (isNew : Bool) =>
      let p := { p with firstNames := f.firstNames, lastName := f.lastName, email := f.email }
      Verdict.saveAndGo { l with peopleToNotify := l.peopleToNotify.put p }.settlePeople
        (afterDetails .peopleToNotify p.id isNew f.source)
    match existing with
    | some p => { verdict := store p false, source }
    | none => match source.mint? l.peopleToNotify.ids with
      | some (id, source) => { verdict := store { id } true, source }
      | none => { verdict := .fail .noFreshId, source }

/-- Takes the answer whether another person shall be added. -/
def answerPeopleSummary (f : YesNoForm) (l : Lpa) : Verdict :=
  match f.answer? with
  | some answer => .goTo (afterSummary .peopleToNotify answer l)
  | none => .reject (f.errors "yesToAddAnotherPersonToNotify")

/-- Removes a person, once that is confirmed. -/
def removePerson (id : String) (f : YesNoForm) (l : Lpa) : Verdict :=
  let summary := Destination.of Collection.peopleToNotify.summaryPage
  if l.peopleToNotify.contains id then
    match f.answer? with
    | none => .reject (f.errors "removePersonToNotify")
    | some .no => .goTo summary
    | some .yes =>
      let rest := l.peopleToNotify.erase id
      .saveAndGo { l with peopleToNotify := rest }.settlePeople (afterRemoval .peopleToNotify rest.size)
  else .goTo summary

end PowerOfAttorney.Wizard
