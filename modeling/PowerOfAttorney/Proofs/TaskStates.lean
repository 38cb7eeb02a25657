import PowerOfAttorney.Proofs.Session

/-! The states of the sections tell the truth. A section with a rule is settled by whoever writes to it, and looked
    at again by whoever writes to what its rule reads, unless it was not started. So an invariant has to say why the
    rule of a section that was not started does not hold: there are no attorneys, or it is open whether there shall
    be replacements (`Settled`). And a section that has left its start does not go back (`Tasks.Onward`). -/

namespace PowerOfAttorney

/-! ### Sections only go on -/

namespace TaskState

@[simp] theorem started_ne_notStarted (x : TaskState) : x.started ≠ .notStarted := by
  cases x <;> simp [started]

theorem reevaluate_eq_notStarted {complete : Bool} {x : TaskState} :
    reevaluate complete x = .notStarted ↔ x = .notStarted := by
  cases x <;> simp [reevaluate]

/-- A section that is looked at again is completed exactly if its rule holds, given that the rule does not hold
    before the section is started. -/
theorem reevaluate_eq_completed {complete : Bool} {x : TaskState} (h : x = .notStarted → complete = false) :
    reevaluate complete x = .completed ↔ complete = true := by
  cases x with
  | notStarted => simp [reevaluate, h rfl]
  | inProgress => exact settle_eq_completed
  | completed => exact settle_eq_completed

end TaskState

namespace Tasks

/-- No section that has left its start is back there. -/
def Onward (t u : Tasks) : Prop := ∀ s, t.get s ≠ .notStarted → u.get s ≠ .notStarted

namespace Onward
variable {t u v : Tasks}

theorem refl (t : Tasks) : Onward t t := fun _ h => h

theorem trans (h₁ : Onward t u) (h₂ : Onward u v) : Onward t v := fun s h => h₂ s (h₁ s h)

theorem set {s : Section} {x : TaskState} (h : t.get s ≠ .notStarted → x ≠ .notStarted) : Onward t (t.set s x) := by
  intro s' hs'
  rw [get_set]
  split
  · rename_i hss
    exact h (hss ▸ hs')
  · exact hs'

theorem start (t : Tasks) (s : Section) : Onward t (t.start s) := set fun _ => TaskState.started_ne_notStarted _

theorem settle (t : Tasks) (s : Section) (complete : Bool) : Onward t (t.settle s complete) :=
  set fun _ => TaskState.settle_ne_notStarted

theorem reevaluate (t : Tasks) (s : Section) (complete : Bool) : Onward t (t.reevaluate s complete) :=
  set fun h he => h (TaskState.reevaluate_eq_notStarted.1 he)

end Onward

end Tasks

/-! ### What a write to an attorney section leaves alone -/

/-- What a write to the section of a role leaves as it is: the tasks, the other two sections with a rule, and what
    says that the section of the other role was not started. -/
structure Lpa.Spares (role : AttorneyRole) (l l' : Lpa) : Prop where
  tasks : l'.tasks = l.tasks
  people : l'.peopleComplete = l.peopleComplete
  provider : l'.providerComplete = l.providerComplete
  attorneys : role = .replacement → l'.attorneys = l.attorneys
  wanted : role = .primary → l'.wantReplacements = l.wantReplacements

namespace Lpa.Spares
variable {l : Lpa}

theorem withAttorneys (l : Lpa) (role : AttorneyRole) (rest : Roster Attorney) :
    Spares role l (l.withAttorneys role rest) := by
  cases role with
  | primary => exact ⟨rfl, rfl, rfl, by simp, fun _ => rfl⟩
  | replacement => exact ⟨rfl, rfl, rfl, fun _ => rfl, by simp⟩

theorem prune {role : AttorneyRole} {l' : Lpa} (h : Spares role l l') : Spares role l l'.prune := by
  rw [Lpa.prune_eq]
  exact ⟨h.tasks, h.people, h.provider, h.attorneys, h.wanted⟩

end Lpa.Spares

/-! ### Sections with a rule -/

/-- The sections whose state follows a rule. -/
def Section.hasRule : Section → Bool
  | .chooseAttorneys | .chooseReplacements | .certificateProvider | .peopleToNotify => true
  | _ => false

/-- Every section with a rule is completed exactly if its rule holds, and the attorney sections are not started only
    where their rules have nothing to go by. -/
structure Settled (l : Lpa) : Prop where
  attorneys : l.tasks.get .chooseAttorneys = .completed ↔ l.attorneysComplete = true
  replacements : l.tasks.get .chooseReplacements = .completed ↔ l.replacementsComplete = true
  people : l.tasks.get .peopleToNotify = .completed ↔ l.peopleComplete = true
  provider : l.tasks.get .certificateProvider = .completed ↔ l.providerComplete = true
  nobody : l.tasks.get .chooseAttorneys = .notStarted → l.attorneys.isEmpty = true
  unanswered : l.tasks.get .chooseReplacements = .notStarted → l.wantReplacements = none

theorem Lpa.attorneysComplete_of_isEmpty {l : Lpa} (h : l.attorneys.isEmpty = true) : l.attorneysComplete = false := by
  simp [attorneysComplete, h]

theorem Lpa.replacementsComplete_of_unanswered {l : Lpa} (h : l.wantReplacements = none) :
    l.replacementsComplete = false := by
  simp [replacementsComplete, h]

namespace Settled
open Wizard
variable {l l' : Lpa}

theorem empty (id : String) (version : Nat) : Settled { Lpa.empty id with version } := by
  constructor
  case nobody => exact fun _ => rfl
  case unanswered => exact fun _ => rfl
  all_goals simp [Lpa.empty, Tasks.get, Lpa.attorneysComplete, Lpa.replacementsComplete, Lpa.peopleComplete,
    Lpa.providerComplete, Roster.isEmpty]

/-- A change of what no rule reads. -/
theorem congr (h : Settled l) (tasks : ∀ s, s.hasRule = true → l'.tasks.get s = l.tasks.get s)
    (attorneys : l'.attorneysComplete = l.attorneysComplete)
    (replacements : l'.replacementsComplete = l.replacementsComplete) (people : l'.peopleComplete = l.peopleComplete)
    (provider : l'.providerComplete = l.providerComplete) (nobody : l'.attorneys = l.attorneys)
    (unanswered : l'.wantReplacements = l.wantReplacements) : Settled l' where
  attorneys := by rw [tasks _ rfl, attorneys]; exact h.attorneys
  replacements := by rw [tasks _ rfl, replacements]; exact h.replacements
  people := by rw [tasks _ rfl, people]; exact h.people
  provider := by rw [tasks _ rfl, provider]; exact h.provider
  nobody := by rw [tasks _ rfl, nobody]; exact h.nobody
  unanswered := by rw [tasks _ rfl, unanswered]; exact h.unanswered

/-- A change of the state of a section without a rule. -/
theorem get_set {s : Section} {x : TaskState} (hs : s.hasRule = false) :
    ∀ s', s'.hasRule = true → (l.tasks.set s x).get s' = l.tasks.get s' := by
  intro s' hs'
  rw [Tasks.get_set]
  split
  · rename_i hss
    rw [hss, hs] at hs'
    cases hs'
  · rfl

theorem settleAttorneys {role : AttorneyRole} (h : Settled l) (spares : l.Spares role l') :
    Settled (l'.settleAttorneys role) := by
  have hpeople := h.people
  have hprovider := h.provider
  rw [← spares.people, ← spares.tasks] at hpeople
  rw [← spares.provider, ← spares.tasks] at hprovider
  cases role with
  | primary =>
    have unanswered : l'.tasks.get .chooseReplacements = .notStarted → l'.wantReplacements = none := by
      rw [spares.tasks, spares.wanted rfl]
      exact h.unanswered
    exact {
      attorneys := TaskState.settle_eq_completed
      replacements := TaskState.reevaluate_eq_completed fun hs =>
        Lpa.replacementsComplete_of_unanswered (unanswered hs)
      people := hpeople
      provider := hprovider
      nobody := fun hs => absurd hs TaskState.settle_ne_notStarted
      unanswered := fun hs => unanswered (TaskState.reevaluate_eq_notStarted.1 hs) }
  | replacement =>
    have nobody : l'.tasks.get .chooseAttorneys = .notStarted → l'.attorneys.isEmpty = true := by
      rw [spares.tasks, spares.attorneys rfl]
      exact h.nobody
    exact {
      attorneys := TaskState.reevaluate_eq_completed fun hs => Lpa.attorneysComplete_of_isEmpty (nobody hs)
      replacements := TaskState.settle_eq_completed
      people := hpeople
      provider := hprovider
      nobody := fun hs => nobody (TaskState.reevaluate_eq_notStarted.1 hs)
      unanswered := fun hs => absurd hs TaskState.settle_ne_notStarted }

theorem settlePeople (h : Settled l) (answer : Option YesNo) (people : Roster PersonToNotify) :
    Settled (Lpa.settlePeople { l with wantToNotify := answer, peopleToNotify := people }) where
  attorneys := h.attorneys
  replacements := h.replacements
  people := TaskState.settle_eq_completed
  provider := h.provider
  nobody := h.nobody
  unanswered := h.unanswered

theorem settleProvider (h : Settled l) (provider : CertificateProvider) :
    Settled (Lpa.settleProvider { l with certificateProvider := provider }) where
  attorneys := h.attorneys
  replacements := h.replacements
  people := h.people
  provider := TaskState.settle_eq_completed
  nobody := h.nobody
  unanswered := h.unanswered

theorem giveAddress (h : Settled l) (t : AddressTarget) (a : Address) : Settled (t.settle (t.set a l)) := by
  cases t with
  | donor => exact h.congr (fun _ _ => rfl) rfl rfl rfl rfl rfl rfl
  | certificateProvider => exact h.settleProvider _
  | actor c id =>
    cases c with
    | attorneys => exact h.settleAttorneys (Lpa.Spares.withAttorneys l .primary _)
    | replacements => exact h.settleAttorneys (Lpa.Spares.withAttorneys l .replacement _)
    | peopleToNotify => exact h.settlePeople _ _

/-- Every operation that stores something leaves the sections settled. -/
theorem stores {w : Surroundings} {op : Operation} {r : Reply} (h : Settled l) (hs : Stores w l op l' r) :
    Settled l' := by
  cases hs with
  | donorFilledIn => exact h.congr (fun _ _ => rfl) rfl rfl rfl rfl rfl rfl
  | lpaTypeChosen => exact h.congr (fun _ _ => rfl) rfl rfl rfl rfl rfl rfl
  | attorneyEdited => exact h.settleAttorneys (Lpa.Spares.withAttorneys l _ _)
  | attorneyAdded => exact h.settleAttorneys (Lpa.Spares.withAttorneys l _ _)
  | attorneyRemoved => exact h.settleAttorneys (Lpa.Spares.withAttorneys l _ _).prune
  | attorneysArranged => exact h.settleAttorneys ⟨rfl, rfl, rfl, by simp, fun _ => rfl⟩
  | replacementsArranged => exact h.settleAttorneys ⟨rfl, rfl, rfl, fun _ => rfl, fun _ => rfl⟩
  | replacementsWanted => exact h.settleAttorneys ⟨rfl, rfl, rfl, fun _ => rfl, by simp⟩
  | replacementsDeclined => exact h.settleAttorneys ⟨rfl, rfl, rfl, fun _ => rfl, by simp⟩
  | stepInChosen => exact h.settleAttorneys ⟨rfl, rfl, rfl, fun _ => rfl, fun _ => rfl⟩
  | usableWhenChosen => exact h.congr (get_set rfl) rfl rfl rfl rfl rfl rfl
  | usableWhenPutOff => exact h.congr (get_set rfl) rfl rfl rfl rfl rfl rfl
  | restrictionsWritten => exact h.congr (get_set rfl) rfl rfl rfl rfl rfl rfl
  | providerFilledIn => exact h.settleProvider _
  | addressGiven => exact h.giveAddress _ _
  | notifying => exact h.settlePeople _ _
  | notifyingNobody => exact h.settlePeople _ _
  | personEdited => exact h.settlePeople _ _
  | personAdded => exact h.settlePeople _ _
  | personRemoved => exact h.settlePeople _ _
  | checkConfirmed => exact h.congr (get_set rfl) rfl rfl rfl rfl rfl rfl
  | paid => exact h.congr (get_set rfl) rfl rfl rfl rfl rfl rfl
  | identityOptionChosen => exact h.congr (get_set rfl) rfl rfl rfl rfl rfl rfl
  | identityRecorded => exact h.congr (get_set rfl) rfl rfl rfl rfl rfl rfl
  | signed => exact h.congr (get_set rfl) rfl rfl rfl rfl rfl rfl

theorem version (h : Settled l) (version : Nat) : Settled { l with version } :=
  h.congr (fun _ _ => rfl) rfl rfl rfl rfl rfl rfl

theorem of_reached {allowed : Call → Lpa → Prop} {m : Memory} (hr : Reached allowed m) {session : String}
    (h : m.find? session = some l) : Settled l :=
  hr.induct empty (fun _ _ _ _ _ _ hl hs => (hl.stores hs).version _) h

end Settled

namespace Wizard
variable {w : Surroundings} {l l' : Lpa} {op : Operation} {r : Reply}

theorem onward_settleAttorneys (role : AttorneyRole) (h : l'.tasks = l.tasks) :
    l.tasks.Onward (l'.settleAttorneys role).tasks := by
  rw [← h]
  cases role with
  | primary => exact (Tasks.Onward.settle _ _ _).trans (Tasks.Onward.reevaluate _ _ _)
  | replacement => exact (Tasks.Onward.settle _ _ _).trans (Tasks.Onward.reevaluate _ _ _)

theorem onward_giveAddress (t : AddressTarget) (a : Address) (l : Lpa) :
    l.tasks.Onward (t.settle (t.set a l)).tasks := by
  cases t with
  | donor => exact .refl _
  | certificateProvider => exact .settle _ _ _
  | actor c id =>
    cases c with
    | attorneys => exact onward_settleAttorneys .primary rfl
    | replacements => exact onward_settleAttorneys .replacement rfl
    | peopleToNotify => exact .settle _ _ _

/-- No operation that stores something takes a section back to its start. -/
theorem Stores.onward (hs : Stores w l op l' r) : l.tasks.Onward l'.tasks := by
  cases hs with
  | donorFilledIn => exact .refl _
  | lpaTypeChosen => exact .refl _
  | attorneyEdited => exact onward_settleAttorneys _ (Lpa.Spares.withAttorneys l _ _).tasks
  | attorneyAdded => exact onward_settleAttorneys _ (Lpa.Spares.withAttorneys l _ _).tasks
  | attorneyRemoved => exact onward_settleAttorneys _ (Lpa.Spares.withAttorneys l _ _).prune.tasks
  | attorneysArranged => exact onward_settleAttorneys .primary rfl
  | replacementsArranged => exact onward_settleAttorneys .replacement rfl
  | replacementsWanted => exact onward_settleAttorneys .replacement rfl
  | replacementsDeclined => exact onward_settleAttorneys .replacement rfl
  | stepInChosen => exact onward_settleAttorneys .replacement rfl
  | usableWhenChosen => exact .set (by simp)
  | usableWhenPutOff => exact .set (by simp)
  | restrictionsWritten => exact .set (by split <;> simp)
  | providerFilledIn => exact .settle _ _ _
  | addressGiven => exact onward_giveAddress _ _ l
  | notifying => exact .settle _ _ _
  | notifyingNobody => exact .settle _ _ _
  | personEdited => exact .settle _ _ _
  | personAdded => exact .settle _ _ _
  | personRemoved => exact .settle _ _ _
  | checkConfirmed => exact .set (by simp)
  | paid => exact .set (by simp)
  | identityOptionChosen => exact .start _ _
  | identityRecorded => exact .start _ _
  | signed => exact .set (by simp)

/-- A session that has an LPA has one after every call, with no section back at its start. -/
theorem Call.onward {m : Memory} {session : String} (c : Call) (h : m.find? session = some l) :
    ∃ l', (c.run m).2.find? session = some l' ∧ l.tasks.Onward l'.tasks := by
  obtain ⟨l', hl'⟩ := Call.find?_run_isSome (c := c) h
  refine ⟨l', hl', ?_⟩
  by_cases hs : session = c.session
  · subst hs
    rcases Call.find?_run hl' with rfl | ⟨l₁, r, hstores, rfl⟩
    · rw [Call.opened_of_find? h]
      exact .refl _
    · rw [Call.opened_of_find? h] at hstores
      exact hstores.onward
  · rw [Call.find?_run_of_ne hs, h, Option.some.injEq] at hl'
    rw [hl']
    exact .refl _

/-- In every reachable memory the four sections with a rule are completed exactly if their rules hold, and no call
    takes any section back to its start. -/
theorem reachable_taskStates {m : Memory} (hr : Reachable m) {session : String} {l : Lpa}
    (h : m.find? session = some l) :
    (l.tasks.get .chooseAttorneys = .completed ↔ l.attorneysComplete = true) ∧
    (l.tasks.get .chooseReplacements = .completed ↔ l.replacementsComplete = true) ∧
    (l.tasks.get .peopleToNotify = .completed ↔ l.peopleComplete = true) ∧
    (l.tasks.get .certificateProvider = .completed ↔ l.providerComplete = true) ∧
    ∀ c : Call, ∃ l', (c.run m).2.find? session = some l' ∧
      ∀ s, l.tasks.get s ≠ .notStarted → l'.tasks.get s ≠ .notStarted := by
  have settled := Settled.of_reached hr h
  exact ⟨settled.attorneys, settled.replacements, settled.people, settled.provider, fun c => c.onward h⟩

/-- Whoever wants nobody notified and no replacements has both sections completed. -/
theorem taskStates_of_declining :
    let people := Submission.call (.wantToNotify { yesNo := "no" }) "session"
    let replacements := Submission.call (.wantReplacements { yesNo := "no" }) "session"
    let m := (replacements.run (people.run {}).2).2
    Reachable m ∧ ∃ l, m.find? "session" = some l ∧ l.tasks.get .peopleToNotify = .completed ∧
      l.tasks.get .chooseReplacements = .completed ∧ ¬l.attorneysComplete = true := by
  intro people replacements m
  have hr : Reachable m := .call replacements (.call people .empty trivial) trivial
  have hl : ∃ l, m.find? "session" = some l ∧ l.peopleComplete = true ∧ l.replacementsComplete = true ∧
      l.tasks.get .chooseAttorneys = .notStarted := ⟨_, rfl, rfl, rfl, rfl⟩
  obtain ⟨l, hl, hpeople, hreplacements, hattorneys⟩ := hl
  have states := reachable_taskStates hr hl
  refine ⟨hr, l, hl, states.2.2.1.2 hpeople, states.2.1.2 hreplacements, fun hc => ?_⟩
  have hcompleted := states.1.2 hc
  rw [hattorneys] at hcompleted
  cases hcompleted

end Wizard

end PowerOfAttorney
