import PowerOfAttorney.Proofs.Rosters
import PowerOfAttorney.Proofs.TaskStates

/-! How far an operation reaches into an LPA. What it stores is the LPA that it has read, with the part that the operation
    is about taken from what it has made of it (`Operation.graft`), and with the state of its own section
    (`Tasks.Within`). The two attorney sections are neighbours, each with a rule that reads what the other writes, so a
    write to one is followed by another look at the other, which starts nothing. Answers about how attorneys act together
    may go when their arrangement does, but nothing beside the question itself gives one (`Stores.answers`). -/

namespace PowerOfAttorney

open Form Wizard

/-! ### Sections that affect each other -/

/-- The other section whose rule reads what is written to a section. -/
def Section.neighbour? : Section → Option Section
  | .chooseAttorneys => some .chooseReplacements
  | .chooseReplacements => some .chooseAttorneys
  | _ => none

/-- The section in which the actors of a collection are filled in. -/
def Collection.task : Collection → Section
  | .attorneys => .chooseAttorneys
  | .replacements => .chooseReplacements
  | .peopleToNotify => .peopleToNotify

theorem Section.neighbour?_self (s : Section) : s.neighbour? ≠ some s := by
  cases s <;> nofun

namespace Tasks

/-- Whether nothing has changed but the state of a section, and that of its neighbour only if it was started. -/
structure Within (own : Option Section) (t u : Tasks) : Prop where
  others : ∀ s, own ≠ some s → own.bind Section.neighbour? ≠ some s → u.get s = t.get s
  neighbour : ∀ s, own.bind Section.neighbour? = some s → (u.get s = .notStarted ↔ t.get s = .notStarted)

namespace Within
variable {t : Tasks} {s : Section}

theorem refl (own : Option Section) (t : Tasks) : Within own t t := ⟨fun _ _ _ => rfl, fun _ _ => .rfl⟩

theorem set (t : Tasks) (s : Section) (x : TaskState) : Within (some s) t (t.set s x) := by
  have kept (s' : Section) (h : s' ≠ s) : (t.set s x).get s' = t.get s' := by
    rw [get_set, if_neg h]
  constructor
  · intro s' other _
    exact kept s' fun hs => other (congrArg some hs.symm)
  · intro s' hs'
    rw [kept s']
    rintro rfl
    exact s'.neighbour?_self hs'

/-- Settling a section and looking at its neighbour again. -/
theorem settle_reevaluate {s' : Section} (h : s.neighbour? = some s') (t : Tasks) (complete complete' : Bool) :
    Within (some s) t ((t.settle s complete).reevaluate s' complete') := by
  have settled : Within (some s) t (t.settle s complete) := set t s _
  constructor
  · intro x other hx
    have beside : x ≠ s' := fun hxs => hx (hxs ▸ h)
    rw [reevaluate, get_set, if_neg beside]
    exact settled.others x other hx
  · intro x hx
    obtain rfl : s' = x := Option.some.inj (h.symm.trans hx)
    rw [reevaluate, get_set_self, TaskState.reevaluate_eq_notStarted]
    exact settled.neighbour s' hx

theorem settleAttorneys {l l' : Lpa} (role : AttorneyRole) (h : l'.tasks = l.tasks) :
    Within (some role.task) l.tasks (l'.settleAttorneys role).tasks := by
  rw [← h]
  cases role with
  | primary =>
    have beside : Section.chooseAttorneys.neighbour? = some .chooseReplacements := rfl
    exact settle_reevaluate beside _ _ _
  | replacement =>
    have beside : Section.chooseReplacements.neighbour? = some .chooseAttorneys := rfl
    exact settle_reevaluate beside _ _ _

end Within

end Tasks

/-! ### The part that an operation is about -/

namespace Wizard

/-- The section of whose address is filled in. The donor belongs to none. -/
def AddressTarget.task? : AddressTarget → Option Section
  | .donor => none
  | .certificateProvider => some .certificateProvider
  | .actor c _ => some c.task

/-- The section that a form belongs to, if it belongs to one. -/
def Submission.task? : Submission → Option Section
  | .donorDetails _ => none
  | .lpaType _ => none
  | .actorDetails role _ _ => some role.task
  | .attorneySummary role _ => some role.task
  | .removeAttorney role _ _ => some role.task
  | .decisions role _ => some role.task
  | .wantReplacements _ => some .chooseReplacements
  | .stepIn _ => some .chooseReplacements
  | .usableWhen _ => some .usableWhen
  | .restrictions _ => some .restrictions
  | .providerDetails _ => some .certificateProvider
  | .address t _ => t.task?
  | .wantToNotify _ => some .peopleToNotify
  | .personDetails _ _ => some .peopleToNotify
  | .peopleSummary _ => some .peopleToNotify
  | .removePerson _ _ => some .peopleToNotify
  | .check _ => some .checkLpa
  | .identityOption _ => some .identityAndSign
  | .identityCallback _ => some .identityAndSign
  | .sign _ => some .identityAndSign

/-- The section that an operation belongs to, if it belongs to one. -/
def Operation.task? : Operation → Option Section
  | .confirmPayment _ => some .payForLpa
  | .submit s => s.task?
  | _ => none

/-- An LPA with the part that a form is about taken from another one. -/
def Submission.graft (l l' : Lpa) : Submission → Lpa
  | .donorDetails _ => { l with donor := l'.donor }
  | .lpaType _ => { l with lpaType := l'.lpaType }
  | .actorDetails role _ _ => l.withAttorneys role (l'.attorneysOf role)
  | .attorneySummary _ _ => l
  | .removeAttorney role _ _ =>
    { l.withAttorneys role (l'.attorneysOf role) with
      attorneysDecide := l'.attorneysDecide, replacementsDecide := l'.replacementsDecide
      replacementsStepIn := l'.replacementsStepIn }
  | .decisions .primary _ =>
    { l with attorneysDecide := l'.attorneysDecide, replacementsStepIn := l'.replacementsStepIn }
  | .decisions .replacement _ => { l with replacementsDecide := l'.replacementsDecide }
  | .wantReplacements f =>
    if f.answer? = some .no then
      { l with
        wantReplacements := l'.wantReplacements, replacements := l'.replacements
        replacementsDecide := l'.replacementsDecide, replacementsStepIn := l'.replacementsStepIn }
    else { l with wantReplacements := l'.wantReplacements }
  | .stepIn _ => { l with replacementsStepIn := l'.replacementsStepIn }
  | .usableWhen _ => { l with usableWhen := l'.usableWhen }
  | .restrictions _ => { l with restrictions := l'.restrictions }
  | .providerDetails _ => { l with certificateProvider := l'.certificateProvider }
  | .address t _ => match t with
    | .donor => { l with donor := l'.donor }
    | .certificateProvider => { l with certificateProvider := l'.certificateProvider }
    | .actor .attorneys _ => { l with attorneys := l'.attorneys }
    | .actor .replacements _ => { l with replacements := l'.replacements }
    | .actor .peopleToNotify _ => { l with peopleToNotify := l'.peopleToNotify }
  | .wantToNotify f =>
    if f.answer? = some .no then { l with wantToNotify := l'.wantToNotify, peopleToNotify := l'.peopleToNotify }
    else { l with wantToNotify := l'.wantToNotify }
  | .personDetails _ _ => { l with peopleToNotify := l'.peopleToNotify }
  | .peopleSummary _ => l
  | .removePerson _ _ => { l with peopleToNotify := l'.peopleToNotify }
  | .check _ => { l with checked := l'.checked, happyToShare := l'.happyToShare }
  | .identityOption _ => { l with identityOption := l'.identityOption }
  | .identityCallback _ => { l with identity := l'.identity }
  | .sign _ =>
    { l with wantToSign := l'.wantToSign, wantToApply := l'.wantToApply, submittedAt := l'.submittedAt }

/-- An LPA with the part that an operation is about taken from another one. -/
def Operation.graft (l l' : Lpa) : Operation → Lpa
  | .confirmPayment _ => { l with payment := l'.payment }
  | .submit s => s.graft l l'
  | _ => l

theorem Operation.graft_self (op : Operation) (l : Lpa) : op.graft l l = l := by
  cases op with
  | submit s =>
    cases s with
    | actorDetails role id f => exact l.withAttorneys_attorneysOf role
    | removeAttorney role id f =>
      simp only [graft, Submission.graft]
      rw [l.withAttorneys_attorneysOf role]
    | decisions role f => cases role <;> rfl
    | wantReplacements f => exact ite_self l
    | wantToNotify f => exact ite_self l
    | address t f =>
      cases t with
      | donor => rfl
      | certificateProvider => rfl
      | actor c id => cases c <;> rfl
    | _ => rfl
  | _ => rfl

section
variable {w : Surroundings} {l l' : Lpa} {op : Operation} {r : Reply}

/-! ### What an operation stores -/

/-- What is stored differs from what was read in the part that the operation is about, and in the states of sections. -/
theorem Stores.graft_eq (hs : Stores w l op l' r) (version : Nat) :
    { l' with version } = { op.graft l l' with tasks := l'.tasks, version } := by
  cases hs with
  | @attorneyEdited role => cases role <;> rfl
  | @attorneyAdded role => cases role <;> rfl
  | @attorneyRemoved role =>
    rw [Lpa.prune_eq]
    cases role <;> rfl
  | replacementsWanted answered => simp [Operation.graft, Submission.graft, answered, Lpa.settleAttorneys]
  | replacementsDeclined answered =>
    simp [Operation.graft, Submission.graft, answered, Lpa.settleAttorneys, Lpa.clearReplacements]
  | @addressGiven t =>
    cases t with
    | donor => rfl
    | certificateProvider => rfl
    | actor c id => cases c <;> rfl
  | notifying answered => simp [Operation.graft, Submission.graft, answered, Lpa.settlePeople]
  | notifyingNobody answered => simp [Operation.graft, Submission.graft, answered, Lpa.settlePeople]
  | _ => rfl

theorem within_giveAddress (t : AddressTarget) (a : Address) (l : Lpa) :
    l.tasks.Within t.task? (t.settle (t.set a l)).tasks := by
  cases t with
  | donor => exact .refl _ _
  | certificateProvider => exact .set _ _ _
  | actor c id =>
    cases c with
    | attorneys => exact .settleAttorneys .primary rfl
    | replacements => exact .settleAttorneys .replacement rfl
    | peopleToNotify => exact .set _ _ _

/-- No section changes its state but that of the operation, and its neighbour if that was started. -/
theorem Stores.within (hs : Stores w l op l' r) : l.tasks.Within op.task? l'.tasks := by
  cases hs with
  | donorFilledIn => exact .refl _ _
  | lpaTypeChosen => exact .refl _ _
  | attorneyEdited => exact .settleAttorneys _ (Lpa.Spares.withAttorneys l _ _).tasks
  | attorneyAdded => exact .settleAttorneys _ (Lpa.Spares.withAttorneys l _ _).tasks
  | attorneyRemoved => exact .settleAttorneys _ (Lpa.Spares.withAttorneys l _ _).prune.tasks
  | attorneysArranged => exact .settleAttorneys .primary rfl
  | replacementsArranged => exact .settleAttorneys .replacement rfl
  | replacementsWanted => exact .settleAttorneys .replacement rfl
  | replacementsDeclined => exact .settleAttorneys .replacement rfl
  | stepInChosen => exact .settleAttorneys .replacement rfl
  | addressGiven => exact within_giveAddress _ _ l
  | _ => exact .set _ _ _

end

end Wizard

/-! ### Answers about acting together -/

/-- Whether no answer about how attorneys act together has come in. -/
structure Lpa.Drops (l l' : Lpa) : Prop where
  attorneysDecide : ∀ mode, l'.attorneysDecide = some mode → l.attorneysDecide = some mode
  replacementsDecide : ∀ mode, l'.replacementsDecide = some mode → l.replacementsDecide = some mode
  stepIn : ∀ a, l'.replacementsStepIn = some a → l.replacementsStepIn = some a

namespace Lpa.Drops
variable {l l' : Lpa}

theorem of_eq (attorneysDecide : l'.attorneysDecide = l.attorneysDecide)
    (replacementsDecide : l'.replacementsDecide = l.replacementsDecide)
    (stepIn : l'.replacementsStepIn = l.replacementsStepIn) : l.Drops l' where
  attorneysDecide _ hm := attorneysDecide ▸ hm
  replacementsDecide _ hm := replacementsDecide ▸ hm
  stepIn _ ha := stepIn ▸ ha

theorem withAttorneys (l : Lpa) (role : AttorneyRole) (rest : Roster Attorney) :
    l.Drops (l.withAttorneys role rest) := by
  cases role <;> exact of_eq rfl rfl rfl

theorem settleAttorneys (h : l.Drops l') (role : AttorneyRole) : l.Drops (l'.settleAttorneys role) :=
  ⟨h.attorneysDecide, h.replacementsDecide, h.stepIn⟩

theorem prune (h : l.Drops l') : l.Drops l'.prune where
  attorneysDecide mode hm := by
    rw [prune_attorneysDecide, Option.ite_none_left_eq_some] at hm
    exact h.attorneysDecide mode hm.2
  replacementsDecide mode hm := by
    rw [prune_replacementsDecide, Option.ite_none_left_eq_some] at hm
    exact h.replacementsDecide mode hm.2
  stepIn a ha := by
    rw [prune_replacementsStepIn, Option.ite_none_left_eq_some] at ha
    exact h.stepIn a ha.2

theorem clear (answer : Option YesNo) : l.Drops (Lpa.clearReplacements { l with wantReplacements := answer }) := by
  constructor <;> simp [clearReplacements]

theorem giveAddress (t : Wizard.AddressTarget) (a : Address) (l : Lpa) : l.Drops (t.settle (t.set a l)) := by
  cases t with
  | donor => exact of_eq rfl rfl rfl
  | certificateProvider => exact of_eq rfl rfl rfl
  | actor c id => cases c <;> exact of_eq rfl rfl rfl

end Lpa.Drops

namespace Wizard

/-- Whether every answer about how attorneys act together was there before, or is the one that an operation gives. -/
structure Operation.Answers (op : Operation) (l l' : Lpa) : Prop where
  attorneysDecide : ∀ mode, l'.attorneysDecide = some mode →
    l.attorneysDecide = some mode ∨ ∃ f, op = .submit (.decisions .primary f) ∧ f.mode? = some mode
  replacementsDecide : ∀ mode, l'.replacementsDecide = some mode →
    l.replacementsDecide = some mode ∨ ∃ f, op = .submit (.decisions .replacement f) ∧ f.mode? = some mode
  stepIn : ∀ a, l'.replacementsStepIn = some a →
    l.replacementsStepIn = some a ∨ ∃ f, op = .submit (.stepIn f) ∧ f.stepIn? = some a

section
variable {w : Surroundings} {l l' : Lpa} {op : Operation} {r : Reply}

theorem Operation.Answers.of_drops (h : l.Drops l') : op.Answers l l' where
  attorneysDecide mode hm := .inl (h.attorneysDecide mode hm)
  replacementsDecide mode hm := .inl (h.replacementsDecide mode hm)
  stepIn a ha := .inl (h.stepIn a ha)

/-- An answer about how attorneys act together only comes in where it is asked for. -/
theorem Stores.answers (hs : Stores w l op l' r) : op.Answers l l' := by
  cases hs with
  | attorneyEdited => exact .of_drops ((Lpa.Drops.withAttorneys l _ _).settleAttorneys _)
  | attorneyAdded => exact .of_drops ((Lpa.Drops.withAttorneys l _ _).settleAttorneys _)
  | attorneyRemoved => exact .of_drops ((Lpa.Drops.withAttorneys l _ _).prune.settleAttorneys _)
  | attorneysArranged chosen =>
    refine ⟨fun mode hm => .inr ⟨_, rfl, chosen.trans hm⟩, fun _ h => .inl h, fun a ha => .inl ?_⟩
    exact (Option.ite_none_right_eq_some.1 ha).2
  | replacementsArranged chosen =>
    exact ⟨fun _ h => .inl h, fun mode hm => .inr ⟨_, rfl, chosen.trans hm⟩, fun _ h => .inl h⟩
  | replacementsDeclined => exact .of_drops ((Lpa.Drops.clear _).settleAttorneys _)
  | stepInChosen chosen =>
    exact ⟨fun _ h => .inl h, fun _ h => .inl h, fun a ha => .inr ⟨_, rfl, chosen.trans ha⟩⟩
  | addressGiven => exact .of_drops (.giveAddress _ _ l)
  | _ => exact .of_drops (.of_eq rfl rfl rfl)

end

/-- Whatever a call is for, and whatever it finds, what it leaves behind in its session is what it has read, but for the
    part that it is about, the states of sections and the version. It changes the state of its own section and of no
    other one, unless that is the neighbour and was started. No answer about how attorneys act together comes in but the
    one that the call was for; the others can only go. -/
theorem Call.run_reach (c : Call) (m : Memory) {l' : Lpa} (h : (c.run m).2.find? c.session = some l') :
    l' = { c.operation.graft (c.opened m) l' with tasks := l'.tasks, version := l'.version } ∧
    (c.opened m).tasks.Within c.operation.task? l'.tasks ∧ c.operation.Answers (c.opened m) l' := by
  rcases Call.find?_run h with rfl | ⟨l, r, hs, rfl⟩
  · refine ⟨?_, .refl _ _, .of_drops (.of_eq rfl rfl rfl)⟩
    rw [Operation.graft_self]
  · have answers := hs.answers
    exact ⟨hs.graft_eq _, hs.within, answers.attorneysDecide, answers.replacementsDecide, answers.stepIn⟩

/-- Of two attorneys who decide jointly and severally one is removed. The answer goes with them; the replacements, and
    their section that was not started, stay as they were. -/
theorem Call.run_reach_of_removal :
    let form := fun s => Submission.call s "session"
    let m := sequential [form (.details .primary "Ann"), form (.details .primary "Bob"),
      form (.decisions .primary { decisionType := "jointly-and-severally" })]
    let removes := form (.removeAttorney .primary "00000001" { yesNo := "yes" })
    (removes.opened m).attorneysDecide = some .jointlyAndSeverally ∧
    ∃ l', (removes.run m).2.find? "session" = some l' ∧ l'.attorneysDecide = none ∧
      l'.replacements = (removes.opened m).replacements ∧ l'.tasks.get .chooseReplacements = .notStarted := by
  intro form m removes
  have hopened : (removes.opened m).attorneysDecide = some .jointlyAndSeverally ∧
      (removes.opened m).tasks.get .chooseReplacements = .notStarted := by decide +kernel
  have hnone : ((removes.run m).2.find? "session").map (·.attorneysDecide) = some none := by decide +kernel
  obtain ⟨l', hl', hnone⟩ := Option.map_eq_some_iff.1 hnone
  obtain ⟨part, within, -⟩ := Call.run_reach removes m hl'
  refine ⟨hopened.1, l', hl', hnone, ?_, (within.neighbour _ rfl).2 hopened.2⟩
  -- the LPA is not to be computed here
  generalize removes.opened m = l at part ⊢
  rw [part]
  rfl

end Wizard

end PowerOfAttorney
