import PowerOfAttorney.Lpa

/-!
When the sections with a rule are complete, and settling them after a write.

Both attorney sections are settled together, since each rule reads what the other section writes.
-/

namespace PowerOfAttorney

/-- The section in which the attorneys of a role are chosen. -/
def AttorneyRole.task : AttorneyRole → Section
  | .primary => .chooseAttorneys
  | .replacement => .chooseReplacements

namespace Lpa

/-- Whether an arrangement is chosen and has its details. -/
def isArranged (mode : Option DecisionMode) : Bool := mode.any DecisionMode.isComplete

/-- The attorneys are complete when each has names and an address and several have agreed how they decide. -/
def attorneysComplete (l : Lpa) : Bool :=
  !l.attorneys.isEmpty && l.attorneys.members.all Attorney.isReachable &&
    (l.attorneys.size == 1 || isArranged l.attorneysDecide)

/-- The rule for replacements that are wanted, who all have their details. What they have to answer depends on how
    the attorneys decide: alone, severally, jointly, or in a mixed way, where nothing is asked. -/
def wantedReplacementsComplete (l : Lpa) : Bool :=
  let decided := isArranged l.replacementsDecide
  let single := l.replacements.size == 1
  if l.replacements.isEmpty then false
  else if l.attorneys.size = 1 then single || decided
  else match l.attorneysDecide with
    | none => 1 < l.replacements.size && decided
    | some .jointlyAndSeverally => l.replacementsStepIn.any StepIn.isComplete
    | some .jointly => l.replacementsStepIn.isNone && (single || decided)
    | some (.mixed _) => l.replacementsStepIn.isNone

/-- The replacements are complete when the question about them is answered, and they fit the answer. -/
def replacementsComplete (l : Lpa) : Bool :=
  (l.replacements.members.all fun a => a.isReachable && a.birth.isSome) &&
    match l.wantReplacements with
    | none => false
    | some .no => l.replacements.isEmpty
    | some .yes => l.wantedReplacementsComplete

/-- The people to notify are complete when the question about them is answered, and they fit the answer. -/
def peopleComplete (l : Lpa) : Bool :=
  match l.wantToNotify with
  | none => false
  | some .no => l.peopleToNotify.isEmpty
  | some .yes => !l.peopleToNotify.isEmpty && l.peopleToNotify.members.all fun p => p.address.isGiven

/-- The certificate provider is complete with names, a relationship and an address. -/
def providerComplete (l : Lpa) : Bool :=
  let p := l.certificateProvider
  p.firstNames != "" && p.lastName != "" && p.relationship.isSome && p.address.isGiven

/-- Settles the attorney sections after a write to that of a role; the other section is only looked at again if it
    has been started. -/
def settleAttorneys (l : Lpa) (role : AttorneyRole) : Lpa :=
  let tasks := match role with
    | .primary =>
      (l.tasks.settle .chooseAttorneys l.attorneysComplete).reevaluate .chooseReplacements l.replacementsComplete
    | .replacement =>
      (l.tasks.settle .chooseReplacements l.replacementsComplete).reevaluate .chooseAttorneys l.attorneysComplete
  { l with tasks }

/-- Settles the section of the people to notify. -/
def settlePeople (l : Lpa) : Lpa := { l with tasks := l.tasks.settle .peopleToNotify l.peopleComplete }

/-- Settles the section of the certificate provider. -/
def settleProvider (l : Lpa) : Lpa := { l with tasks := l.tasks.settle .certificateProvider l.providerComplete }

/-! ### What the rules ask of addresses -/

variable {l : Lpa}

theorem given_of_attorneysComplete (complete : l.attorneysComplete = true) :
    ∀ a ∈ l.attorneys.members, a.address.isGiven = true := by
  simp only [attorneysComplete, Bool.and_eq_true, List.all_eq_true, Attorney.isReachable] at complete
  exact fun a ha => (complete.1.2 a ha).2

theorem given_of_replacementsComplete (complete : l.replacementsComplete = true) :
    ∀ a ∈ l.replacements.members, a.address.isGiven = true := by
  simp only [replacementsComplete, Bool.and_eq_true, List.all_eq_true, Attorney.isReachable] at complete
  exact fun a ha => (complete.1 a ha).1.2

theorem given_of_peopleComplete (complete : l.peopleComplete = true) :
    ∀ p ∈ l.peopleToNotify.members, p.address.isGiven = true := by
  unfold peopleComplete at complete
  split at complete
  · cases complete
  · rw [List.isEmpty_iff.1 complete]
    exact fun _ h => absurd h List.not_mem_nil
  · rw [Bool.and_eq_true, List.all_eq_true] at complete
    exact complete.2

theorem given_of_providerComplete (complete : l.providerComplete = true) :
    l.certificateProvider.address.isGiven = true := by
  simp only [providerComplete, Bool.and_eq_true] at complete
  exact complete.2

end Lpa

end PowerOfAttorney
