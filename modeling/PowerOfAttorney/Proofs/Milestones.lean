import PowerOfAttorney.Proofs.TaskStates

/-! The sections that no rule settles: from when the power can be used, checking, paying and signing. Each has its state
    set together with what it is about, so the two agree (`Milestones.Agree`), and only the answers of these sections
    write to either (`Stores.milestones_inv`). Checking, paying and signing are not taken back. -/

namespace PowerOfAttorney

/-- What is on record of the sections that no rule settles, and how far they have got. -/
structure Milestones where
  usableWhen : Option UsableWhen
  checked : Bool
  happyToShare : Bool
  payment : Option Payment
  identityOption : Option IdentityOption
  identity : Option IdentityRecord
  wantToSign : Bool
  wantToApply : Bool
  submittedAt : Option Int
  usable : TaskState
  check : TaskState
  pay : TaskState
  sign : TaskState

namespace Milestones

/-- Whether each section has got as far as what is on record of it. -/
structure Agree (x : Milestones) : Prop where
  usable : x.usable = .completed → x.usableWhen.isSome = true
  check : x.check = if x.checked then .completed else .notStarted
  shared : x.happyToShare = x.checked
  pay : x.pay = if x.payment.isSome then .completed else .notStarted
  signed : x.sign = .completed ↔ x.wantToSign = true
  applied : x.wantToApply = x.wantToSign
  submitted : x.submittedAt.isSome = x.wantToSign
  begun : x.sign = .notStarted ↔ x.identityOption = none ∧ x.identity = none

/-- What a step can make of a record: nothing, or one of the sections has got further. -/
inductive Step (x : Milestones) : Milestones → Prop
  | same : Step x x
  | usableWhenChosen (answer : UsableWhen) : Step x { x with usableWhen := some answer, usable := .completed }
  | usableWhenPutOff : Step x { x with usable := .inProgress }
  | checked : Step x { x with checked := true, happyToShare := true, check := .completed }
  | paid (p : Payment) : Step x { x with payment := some p, pay := .completed }
  | identityOptionChosen (o : IdentityOption) : Step x { x with identityOption := some o, sign := x.sign.started }
  | identityRecorded (i : IdentityRecord) : Step x { x with identity := some i, sign := x.sign.started }
  | signed (identified : x.identity ≠ none) (now : Int) :
      Step x { x with wantToSign := true, wantToApply := true, submittedAt := some now, sign := .completed }

/-- What is done once stays done. -/
structure Done (x y : Milestones) : Prop where
  check : x.check = .completed → y.check = .completed
  pay : x.pay = .completed → y.pay = .completed
  sign : x.sign = .completed → y.sign = .completed

variable {x y z : Milestones}

theorem Done.refl (x : Milestones) : Done x x := ⟨id, id, id⟩

theorem Done.trans (h₁ : Done x y) (h₂ : Done y z) : Done x z :=
  ⟨h₂.check ∘ h₁.check, h₂.pay ∘ h₁.pay, h₂.sign ∘ h₁.sign⟩

theorem started_of_completed {t : TaskState} (h : t = .completed) : t.started = .completed := by
  rw [h]
  rfl

theorem started_eq_completed {t : TaskState} : t.started = .completed ↔ t = .completed := by
  cases t <;> simp [TaskState.started]

/-- A section that has been started is no longer at its start, and something of it is on record. -/
theorem Agree.start (h : Agree x) {option : Option IdentityOption} {identity : Option IdentityRecord}
    (given : ¬(option = none ∧ identity = none)) :
    Agree { x with identityOption := option, identity := identity, sign := x.sign.started } where
  usable := h.usable
  check := h.check
  shared := h.shared
  pay := h.pay
  signed := started_eq_completed.trans h.signed
  applied := h.applied
  submitted := h.submitted
  begun := ⟨fun hs => absurd hs (TaskState.started_ne_notStarted _), fun hnone => absurd hnone given⟩

theorem Step.agree (hs : Step x y) (h : Agree x) : Agree y := by
  cases hs with
  | same => exact h
  | usableWhenChosen answer => exact { h with usable := fun _ => rfl }
  | usableWhenPutOff => exact { h with usable := nofun }
  | checked => exact { h with check := rfl, shared := rfl }
  | paid p => exact { h with pay := rfl }
  | identityOptionChosen o => exact h.start fun hnone => by cases hnone.1
  | identityRecorded i => exact h.start fun hnone => by cases hnone.2
  | signed identified now =>
    have begun : (TaskState.completed = .notStarted) ↔ x.identityOption = none ∧ x.identity = none :=
      ⟨nofun, fun hnone => absurd hnone.2 identified⟩
    exact { h with signed := by simp, applied := rfl, submitted := rfl, begun }

theorem Step.done (hs : Step x y) : Done x y := by
  cases hs with
  | same => exact .refl x
  | usableWhenChosen answer => exact ⟨id, id, id⟩
  | usableWhenPutOff => exact ⟨id, id, id⟩
  | checked => exact ⟨fun _ => rfl, id, id⟩
  | paid p => exact ⟨id, fun _ => rfl, id⟩
  | identityOptionChosen o => exact ⟨id, id, started_of_completed⟩
  | identityRecorded i => exact ⟨id, id, started_of_completed⟩
  | signed identified now => exact ⟨id, id, fun _ => rfl⟩

end Milestones

namespace Lpa

def milestones (l : Lpa) : Milestones where
  usableWhen := l.usableWhen
  checked := l.checked
  happyToShare := l.happyToShare
  payment := l.payment
  identityOption := l.identityOption
  identity := l.identity
  wantToSign := l.wantToSign
  wantToApply := l.wantToApply
  submittedAt := l.submittedAt
  usable := l.tasks.get .usableWhen
  check := l.tasks.get .checkLpa
  pay := l.tasks.get .payForLpa
  sign := l.tasks.get .identityAndSign

/-! ### What leaves the record alone -/

theorem milestones_withAttorneys (l : Lpa) (role : AttorneyRole) (rest : Roster Attorney) :
    (l.withAttorneys role rest).milestones = l.milestones := by
  cases role <;> rfl

theorem milestones_settleAttorneys (l : Lpa) (role : AttorneyRole) :
    (l.settleAttorneys role).milestones = l.milestones := by
  cases role <;> rfl

theorem milestones_prune (l : Lpa) : l.prune.milestones = l.milestones := by
  rw [prune_eq]
  rfl

theorem milestones_set (t : Wizard.AddressTarget) (a : Address) (l : Lpa) :
    (t.settle (t.set a l)).milestones = l.milestones := by
  cases t with
  | donor => rfl
  | certificateProvider => rfl
  | actor c id => cases c <;> rfl

end Lpa

namespace Wizard
variable {w : Surroundings} {l l' : Lpa} {op : Operation} {r : Reply}

/-- What an operation that stores something does to the record. -/
theorem Stores.milestones_inv (hs : Stores w l op l' r) : l.milestones.Step l'.milestones := by
  have kept : l'.milestones = l.milestones → l.milestones.Step l'.milestones := by
    intro same
    rw [same]
    exact .same
  cases hs with
  | attorneyEdited =>
    refine kept ?_
    rw [Lpa.milestones_settleAttorneys, Lpa.milestones_withAttorneys]
  | attorneyAdded =>
    refine kept ?_
    rw [Lpa.milestones_settleAttorneys, Lpa.milestones_withAttorneys]
  | attorneyRemoved =>
    refine kept ?_
    rw [Lpa.milestones_settleAttorneys, Lpa.milestones_prune, Lpa.milestones_withAttorneys]
  | addressGiven => exact kept (Lpa.milestones_set _ _ l)
  | usableWhenChosen => exact .usableWhenChosen _
  | usableWhenPutOff => exact .usableWhenPutOff
  | checkConfirmed => exact .checked
  | paid => exact .paid _
  | identityOptionChosen => exact .identityOptionChosen _
  | identityRecorded => exact .identityRecorded _
  | signed confirmed =>
    obtain ⟨i, hi, -⟩ := (Option.any_eq_true _ _).1 confirmed
    have identified : l.milestones.identity ≠ none := by
      intro hnone
      rw [show l.milestones.identity = some i from hi] at hnone
      cases hnone
    exact .signed identified _
  | _ => exact kept rfl

theorem agree_empty (id : String) (version : Nat) : (Lpa.milestones { Lpa.empty id with version }).Agree := by
  constructor <;> simp [Lpa.milestones, Lpa.empty, Tasks.get]

theorem agree_of_reached {allowed : Call → Lpa → Prop} {m : Memory} (hr : Reached allowed m) {session : String}
    (h : m.find? session = some l) : l.milestones.Agree := by
  refine @Reached.induct _ (fun l => l.milestones.Agree) session agree_empty ?_ m hr l h
  intro c l l' r _ _ hl hs
  exact hs.milestones_inv.agree hl

namespace Call
variable {m : Memory} {session : String}

/-- A session that has an LPA has one after every call, in which nothing that was done is undone. -/
theorem exists_done (c : Call) (h : m.find? session = some l) :
    ∃ l', (c.run m).2.find? session = some l' ∧ l.milestones.Done l'.milestones := by
  obtain ⟨l', hl'⟩ := find?_run_isSome (c := c) h
  refine ⟨l', hl', ?_⟩
  by_cases hs : session = c.session
  · subst hs
    rcases find?_run hl' with rfl | ⟨l₁, r, hstores, rfl⟩
    · rw [opened_of_find? h]
      exact .refl _
    · rw [opened_of_find? h] at hstores
      exact hstores.milestones_inv.done
  · rw [find?_run_of_ne hs, h, Option.some.injEq] at hl'
    rw [hl']
    exact .refl _

theorem exists_done_foldl (calls : List Call) (h : m.find? session = some l) :
    ∃ l', (calls.foldl (fun m c => (c.run m).2) m).find? session = some l' ∧ l.milestones.Done l'.milestones := by
  induction calls generalizing m l with
  | nil => exact ⟨l, h, .refl _⟩
  | cons c calls ih =>
    obtain ⟨l₁, h₁, hd₁⟩ := c.exists_done h
    obtain ⟨l₂, h₂, hd₂⟩ := ih h₁
    exact ⟨l₂, h₂, hd₁.trans hd₂⟩

end Call

/-- In every LPA that can be reached the sections that no rule settles have got as far as what is on record of them, and
    what has been checked, paid or signed stays so, whatever calls follow. -/
theorem reachable_milestones {m : Memory} (hr : Reachable m) {session : String} {l : Lpa}
    (h : m.find? session = some l) :
    ((l.tasks.get .checkLpa = .completed ↔ l.checked = true) ∧ (l.checked = true ↔ l.happyToShare = true) ∧
      (l.tasks.get .checkLpa ≠ .completed → l.tasks.get .checkLpa = .notStarted)) ∧
    ((l.tasks.get .payForLpa = .completed ↔ l.payment.isSome = true) ∧
      (l.tasks.get .payForLpa ≠ .completed → l.tasks.get .payForLpa = .notStarted)) ∧
    ((l.tasks.get .identityAndSign = .completed ↔ l.wantToSign = true) ∧
      (l.wantToSign = true ↔ l.wantToApply = true) ∧ (l.wantToApply = true ↔ l.submittedAt.isSome = true) ∧
      (l.tasks.get .identityAndSign = .notStarted ↔ l.identityOption = none ∧ l.identity = none)) ∧
    (l.tasks.get .usableWhen = .completed → l.usableWhen.isSome = true) ∧
    ∀ s ∈ [Section.checkLpa, .payForLpa, .identityAndSign], l.tasks.get s = .completed →
      ∀ calls : List Call, ∃ l', (calls.foldl (fun m c => (c.run m).2) m).find? session = some l' ∧
        l'.tasks.get s = .completed := by
  have agree := agree_of_reached hr h
  have check : l.tasks.get .checkLpa = if l.checked then .completed else .notStarted := agree.check
  have pay : l.tasks.get .payForLpa = if l.payment.isSome then .completed else .notStarted := agree.pay
  have shared : l.happyToShare = l.checked := agree.shared
  have applied : l.wantToApply = l.wantToSign := agree.applied
  have submitted : l.submittedAt.isSome = l.wantToSign := agree.submitted
  refine ⟨⟨?_, by rw [shared], ?_⟩, ⟨?_, ?_⟩, ⟨agree.signed, by rw [applied], by rw [applied, submitted], agree.begun⟩,
    agree.usable, ?_⟩
  · rw [check]
    cases l.checked <;> simp
  · rw [check]
    cases l.checked <;> simp
  · rw [pay]
    cases l.payment.isSome <;> simp
  · rw [pay]
    cases l.payment.isSome <;> simp
  · intro s hs completed calls
    obtain ⟨l', hl', done⟩ := Call.exists_done_foldl calls h
    refine ⟨l', hl', ?_⟩
    simp only [List.mem_cons, List.not_mem_nil, or_false] at hs
    rcases hs with rfl | rfl | rfl
    · exact done.check completed
    · exact done.pay completed
    · exact done.sign completed

/-- A donor who has signed answers the identity service once more, under another name: the identity is no longer
    confirmed, and the signature stands. -/
theorem reachable_milestones_of_signed :
    let form := fun s => Submission.call s "session"
    let m := sequential [form (.donor "Ann" "Smith"),
      form (.identityCallback { firstNames := "Ann", lastName := "Smith" }),
      form (.sign { wantToSign := some "1", wantToApply := some "1" })]
    let again := form (.identityCallback { firstNames := "Bob", lastName := "Jones" })
    Reachable m ∧ ∃ l, m.find? "session" = some l ∧ l.tasks.get .identityAndSign = .completed ∧
      l.submittedAt.isSome = true ∧ ∃ l', (again.run m).2.find? "session" = some l' ∧
        l'.tasks.get .identityAndSign = .completed := by
  intro form m again
  have hr : Reachable m := reachable_sequential _
  have hfound : (m.find? "session").any (fun l => l.wantToSign) = true := by decide +kernel
  obtain ⟨l, hl, signs⟩ := (Option.any_eq_true _ _).1 hfound
  obtain ⟨-, -, ⟨signed, applied, submitted, -⟩, -, stays⟩ := reachable_milestones hr hl
  have completed := signed.2 signs
  exact ⟨hr, l, hl, completed, submitted.1 (applied.1 signs), stays _ (by simp) completed [again]⟩

end Wizard

end PowerOfAttorney
