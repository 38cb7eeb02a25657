import PowerOfAttorney.Proofs.Interleaving
import PowerOfAttorney.Store.Faulty

/-! What leaves an LPA as it was. An operation that stores nothing was not meant to change anything
    (`Operation.IsIdle`), or it has not taken what it was given: the form is shown again with what is wrong with it, or
    with addresses to choose from (`Declines`). With the rules of `Stores` these are all the ways in which an operation
    ends, so the answer to a call tells whether its session has another LPA now (`Call.run_of_declined`,
    `Call.run_of_taken`). -/

namespace PowerOfAttorney

open Form Routing

namespace Memory

/-- A session that has nothing yet gets its first LPA at the end. -/
theorem insert_of_none {m : Memory} {session : String} (h : m.find? session = none) (l : Lpa) :
    m.insert session l = ⟨m.entries ++ [(session, l)]⟩ := by
  obtain ⟨es⟩ := m
  simp only [find?] at h
  simp only [insert, mk.injEq]
  induction es with
  | nil => rfl
  | cons e r ih =>
    by_cases he : e.1 = session
    · simp [findIn, he] at h
    · simp only [findIn, he, ↓reduceIte] at h
      simp [insertIn, he, ih h]

end Memory

namespace Wizard

/-- Whether there is something to show beside a form that was not taken. -/
def Rejection.isExplained (r : Rejection) : Bool := r.errors.any || r.nameWarning.isSome || r.ageWarning.isSome

/-! ### Operations that are not meant to change anything -/

/-- Whether a form says nothing that is kept, valid or not: where to go from a list, that an actor shall not be removed
    after all, or anything of an actor that is not there. -/
def Submission.IsIdle (l : Lpa) : Submission → Prop
  | .attorneySummary _ _ => True
  | .peopleSummary _ => True
  | .removeAttorney role id f => (l.attorneysOf role).contains id = false ∨ f.answer? = some .no
  | .removePerson id f => l.peopleToNotify.contains id = false ∨ f.answer? = some .no
  | .address t _ => (t.missing? l).isSome = true
  | _ => False

/-- Whether an operation only looks at the LPA. -/
def Operation.IsIdle (l : Lpa) : Operation → Prop
  | .submit s => s.IsIdle l
  | .confirmPayment _ => False
  | _ => True

/-- Whether a result says that something was not taken: a failure, a form that is shown again, or addresses to choose
    from. -/
def IsRefusal : Except Failure Reply → Prop
  | .error _ => True
  | .ok (.invalid _) => True
  | .ok (.addresses _) => True
  | .ok _ => False

/-- What an operation answers that stores nothing. -/
inductive Declines (l : Lpa) (op : Operation) : Reply → Prop
  | rejected {r : Rejection} (explained : r.isExplained = true) : Declines l op (.invalid r)
  | offered {found : List Address} : Declines l op (.addresses found)
  | idle {r : Reply} (idle : op.IsIdle l) (shown : ∀ rejection, r ≠ .invalid rejection) : Declines l op r

theorem isExplained_of_rejection? {errors : ErrorList} {nameWarning : Option NameWarning}
    {ageWarning : Option AgeWarning} {r : Rejection} (h : rejection? errors nameWarning ageWarning = some r) :
    r.isExplained = true := by
  unfold rejection? at h
  split at h
  · rename_i hany
    obtain rfl := Option.some.inj h
    exact hany
  · cases h

namespace Declines
variable {w : Surroundings} {l : Lpa} {op : Operation} {r : Reply}

theorem of_reject {errors : ErrorList} (hany : errors.any = true) (h : Verdict.reject errors = .answer r) :
    Declines l op r := by
  cases h
  exact .rejected (by simp [Rejection.isExplained, hany])

/-- A form that is shown again for its errors and for nothing else. -/
theorem of_rejectElse {errors : ErrorList} {otherwise : Verdict}
    (h : (if errors.any then Verdict.reject errors else otherwise) = .answer r) (taken : otherwise ≠ .answer r) :
    Declines l op r := by
  split at h
  · rename_i invalid
    exact of_reject invalid h
  · exact absurd h taken

theorem of_goTo {d : Destination} (idle : op.IsIdle l) (h : Verdict.goTo d = .answer r) : Declines l op r := by
  cases h
  exact .idle idle nofun

theorem of_showUnless {instead : Option Destination} {actor : Option ShownActor} (idle : op.IsIdle l)
    (h : showUnless instead l actor = .answer r) : Declines l op r := by
  unfold showUnless at h
  split at h
  · exact of_goTo idle h
  · cases h
    exact .idle idle nofun

/-! ### Why the forms are not taken -/

theorem any_yesNo {f : YesNoForm} {label : String} (h : f.answer? = none) : (f.errors label).any = true := by
  simp [YesNoForm.errors, h]

theorem of_saveDonorDetails {f : DonorDetails} (h : saveDonorDetails w.today f l = .answer r) : Declines l op r := by
  rw [saveDonorDetails_eq] at h
  split at h
  · rename_i rejected
    cases h
    exact .rejected (isExplained_of_rejection? rejected)
  · cases h

theorem of_saveProviderDetails {f : ProviderDetails} (h : saveProviderDetails w.today w.isEmail f l = .answer r) :
    Declines l op r := by
  rw [saveProviderDetails_eq] at h
  split at h
  · rename_i rejected
    cases h
    exact .rejected (isExplained_of_rejection? rejected)
  · cases h

theorem of_saveActorDetails {role : AttorneyRole} {id : Option String} {f : ActorDetails}
    (h : (saveActorDetails w.today w.isEmail w.source role id f l).verdict = .answer r) : Declines l op r := by
  rw [saveActorDetails_eq] at h
  split at h
  · rename_i rejected
    cases h
    exact .rejected (isExplained_of_rejection? rejected)
  · split at h
    · cases h
    · split at h <;> cases h

theorem of_savePersonDetails {id : Option String} {f : PersonDetails}
    (h : (savePersonDetails w.isEmail w.source id f l).verdict = .answer r) : Declines l op r := by
  rw [savePersonDetails_eq] at h
  split at h
  · rename_i rejected
    cases h
    exact .rejected (isExplained_of_rejection? rejected)
  · split at h
    · cases h
    · split at h <;> cases h

theorem of_chooseLpaType {f : LpaTypeForm} (h : chooseLpaType f l = .answer r) : Declines l op r := by
  unfold chooseLpaType at h
  split at h
  · cases h
  · rename_i unanswered
    exact of_reject (by simp [LpaTypeForm.errors, unanswered]) h

theorem of_chooseIdentityOption {f : IdentityOptionForm} (h : chooseIdentityOption f l = .answer r) :
    Declines l op r := by
  unfold chooseIdentityOption at h
  split at h
  · cases h
  · rename_i unanswered
    exact of_reject (by simp [IdentityOptionForm.errors, unanswered]) h

theorem of_answerAttorneySummary {role : AttorneyRole} {f : YesNoForm} (h : answerAttorneySummary role f l = .answer r) :
    Declines l (.submit (.attorneySummary role f)) r := by
  unfold answerAttorneySummary at h
  dsimp only at h
  split at h
  · exact of_goTo trivial h
  · rename_i unanswered
    exact of_reject (any_yesNo unanswered) h

theorem of_answerPeopleSummary {f : YesNoForm} (h : answerPeopleSummary f l = .answer r) :
    Declines l (.submit (.peopleSummary f)) r := by
  unfold answerPeopleSummary at h
  split at h
  · exact of_goTo trivial h
  · rename_i unanswered
    exact of_reject (any_yesNo unanswered) h

theorem of_removeAttorney {role : AttorneyRole} {id : String} {f : YesNoForm}
    (h : removeAttorney role id f l = .answer r) : Declines l (.submit (.removeAttorney role id f)) r := by
  unfold removeAttorney at h
  dsimp only at h
  split at h
  · split at h
    · rename_i unanswered
      exact of_reject (any_yesNo unanswered) h
    · rename_i no
      exact of_goTo (.inr no) h
    · cases h
  · rename_i missing
    exact of_goTo (.inl (Bool.eq_false_iff.2 missing)) h

theorem of_removePerson {id : String} {f : YesNoForm} (h : removePerson id f l = .answer r) :
    Declines l (.submit (.removePerson id f)) r := by
  unfold removePerson at h
  dsimp only at h
  split at h
  · split at h
    · rename_i unanswered
      exact of_reject (any_yesNo unanswered) h
    · rename_i no
      exact of_goTo (.inr no) h
    · cases h
  · rename_i missing
    exact of_goTo (.inl (Bool.eq_false_iff.2 missing)) h

theorem of_chooseDecisions {role : AttorneyRole} {f : Decisions} (h : chooseDecisions role f l = .answer r) :
    Declines l op r := by
  cases hm : f.mode? with
  | none =>
    simp only [chooseDecisions, hm] at h
    exact of_reject (by simp [Decisions.errors, hm]) h
  | some m =>
    simp only [chooseDecisions, hm] at h
    refine of_rejectElse h fun saved => ?_
    cases saved

theorem of_chooseStepIn {f : StepInForm} (h : chooseStepIn f l = .answer r) : Declines l op r := by
  unfold chooseStepIn at h
  split at h
  · exact of_rejectElse h nofun
  · rename_i unanswered
    exact of_reject (by simp [StepInForm.errors, unanswered]) h

theorem of_wantReplacements {f : YesNoForm} (h : wantReplacements f l = .answer r) : Declines l op r := by
  unfold wantReplacements at h
  split at h
  · cases h
  · rename_i unanswered
    exact of_reject (any_yesNo unanswered) h

theorem of_wantToNotify {f : YesNoForm} (h : wantToNotify f l = .answer r) : Declines l op r := by
  unfold wantToNotify at h
  split at h
  · cases h
  · rename_i unanswered
    exact of_reject (any_yesNo unanswered) h

theorem of_chooseUsableWhen {f : UsableWhenForm} (h : chooseUsableWhen f l = .answer r) : Declines l op r := by
  unfold chooseUsableWhen at h
  exact of_rejectElse h nofun

theorem of_saveRestrictions {f : RestrictionsForm} (h : saveRestrictions f l = .answer r) : Declines l op r := by
  unfold saveRestrictions at h
  exact of_rejectElse h nofun

theorem of_confirmCheck {f : CheckForm} (h : confirmCheck f l = .answer r) : Declines l op r := by
  unfold confirmCheck at h
  exact of_rejectElse h nofun

theorem of_sign {f : SignForm} (h : sign w.now f l = .answer r) : Declines l op r := by
  unfold sign at h
  exact of_rejectElse h nofun

/-- Where addresses are asked for, they are offered, or the form is shown again. -/
theorem of_offerAddresses {postcode : String} {errors : ErrorList}
    (h : (offerAddresses w.lookup postcode errors).1 = .answer r) : Declines l op r := by
  unfold offerAddresses at h
  split at h
  · exact of_reject (ErrorList.any_add _ _ _) h
  · dsimp only at h
    split at h
    · exact of_reject (ErrorList.any_add _ _ _) h
    · cases h
    · exact of_reject (ErrorList.any_add _ _ _) h
    · split at h
      · rename_i hany
        cases h
        exact .rejected (by simp [Rejection.isExplained, hany])
      · cases h
        exact .offered

theorem of_saveAddress {t : AddressTarget} {f : AddressForm} (h : (saveAddress w.lookup t f l).1 = .answer r) :
    Declines l (.submit (.address t f)) r := by
  unfold saveAddress at h
  dsimp only at h
  split at h
  · rename_i missing
    refine of_goTo ?_ h
    rw [Operation.IsIdle, Submission.IsIdle, missing]
    rfl
  · split at h
    · split at h
      · rename_i invalid
        exact of_reject invalid h
      · exact of_offerAddresses h
    · exact of_offerAddresses h
    · cases h
    · split at h
      · rename_i invalid
        exact of_reject invalid h
      · cases h
    · rename_i unanswered
      exact of_reject (by simp [AddressForm.errors, unanswered]) h

theorem of_decide (h : (op.decide w l).verdict = .answer r) : Declines l op r := by
  cases op with
  | load =>
    cases h
    exact .idle trivial nofun
  | taskList =>
    cases h
    exact .idle trivial nofun
  | detailsPage c id addAnother => exact of_showUnless trivial h
  | addressPage c id => exact of_showUnless trivial h
  | summaryPage c => exact of_showUnless trivial h
  | removePage c id => exact of_showUnless trivial h
  | confirmPayment paymentId => cases h
  | submit s =>
    cases s with
    | donorDetails f => exact of_saveDonorDetails h
    | lpaType f => exact of_chooseLpaType h
    | actorDetails role id f => exact of_saveActorDetails h
    | attorneySummary role f => exact of_answerAttorneySummary h
    | removeAttorney role id f => exact of_removeAttorney h
    | decisions role f => exact of_chooseDecisions h
    | wantReplacements f => exact of_wantReplacements h
    | stepIn f => exact of_chooseStepIn h
    | usableWhen f => exact of_chooseUsableWhen h
    | restrictions f => exact of_saveRestrictions h
    | providerDetails f => exact of_saveProviderDetails h
    | address t f => exact of_saveAddress h
    | wantToNotify f => exact of_wantToNotify h
    | personDetails id f => exact of_savePersonDetails h
    | peopleSummary f => exact of_answerPeopleSummary h
    | removePerson id f => exact of_removePerson h
    | check f => exact of_confirmCheck h
    | identityOption f => exact of_chooseIdentityOption h
    | identityCallback f => cases h
    | sign f => exact of_sign h

end Declines

/-! ### Nothing that is stored was declined -/

section
variable {w : Surroundings} {l l' : Lpa} {op : Operation} {r : Reply}

theorem Stores.not_isIdle (h : Stores w l op l' r) : ¬op.IsIdle l := by
  intro idle
  cases h with
  | attorneyRemoved found confirmed =>
    rcases idle with missing | no
    · rw [found] at missing
      cases missing
    · rw [confirmed] at no
      cases no
  | personRemoved found confirmed =>
    rcases idle with missing | no
    · rw [found] at missing
      cases missing
    · rw [confirmed] at no
      cases no
  | addressGiven found given =>
    rw [Operation.IsIdle, Submission.IsIdle, found] at idle
    cases idle
  | _ => exact idle

theorem Stores.not_isRefusal (h : Stores w l op l' r) : ¬IsRefusal (.ok r) := by
  cases h <;> exact id

/-- An operation stores something exactly if it is meant to and does not refuse what it was given. -/
theorem exists_stores_iff :
    (∃ l' r, Stores w l op l' r) ↔ ¬op.IsIdle l ∧ ¬IsRefusal (op.decide w l).result := by
  constructor
  · rintro ⟨l', r, hs⟩
    rw [Decision.result, decide_eq_save_iff.2 hs]
    exact ⟨hs.not_isIdle, hs.not_isRefusal⟩
  · rintro ⟨busy, taken⟩
    rw [Decision.result] at taken
    cases hv : (op.decide w l).verdict with
    | save l' r => exact ⟨l', r, decide_eq_save_iff.1 hv⟩
    | fail f =>
      rw [hv] at taken
      exact absurd trivial taken
    | answer r =>
      rw [hv] at taken
      cases Declines.of_decide hv with
      | rejected => exact absurd trivial taken
      | offered => exact absurd trivial taken
      | idle idle => exact absurd idle busy

/-- A form that is shown again is shown with what is wrong with it. -/
theorem isExplained_of_invalid {rejection : Rejection} (h : (op.decide w l).result = .ok (.invalid rejection)) :
    rejection.isExplained = true := by
  rw [Decision.result] at h
  cases hv : (op.decide w l).verdict with
  | fail f =>
    rw [hv] at h
    cases h
  | save l' r =>
    rw [hv] at h
    obtain rfl := Except.ok.inj h
    exact absurd trivial (decide_eq_save_iff.1 hv).not_isRefusal
  | answer r =>
    rw [hv] at h
    obtain rfl := Except.ok.inj h
    cases Declines.of_decide hv with
    | rejected explained => exact explained
    | idle idle shown => exact absurd rfl (shown rejection)

end

/-! ### What a call leaves behind -/

namespace Call
variable {c : Call} {m : Memory}

/-- What a call that stores nothing leaves behind: what there was, and the empty LPA where one had to be created. -/
theorem insert_opened (h : c.Opens m) : m.insert c.session (c.opened m) =
    if c.scope = none ∧ m.find? c.session = none then ⟨m.entries ++ [(c.session, c.created)]⟩ else m := by
  cases hm : m.find? c.session with
  | some l =>
    rw [opened_of_find? hm, Memory.insert_of_find? hm, if_neg]
    exact fun hc => nomatch hc.2
  | none =>
    have unscoped : c.scope = none := by
      rw [Option.eq_none_iff_forall_not_mem]
      intro id hid
      obtain ⟨l, hl, -⟩ := h id hid
      rw [hm] at hl
      cases hl
    rw [if_pos ⟨unscoped, rfl⟩, opened, hm, Memory.insert_of_none hm]
    rfl

/-- A call that stores something leaves that to be loaded. -/
theorem run_load_of_find? {l : Lpa} (ho : c.Opens m) (hid : ∀ l₀, m.find? c.session = some l₀ → l₀.id = l.id)
    (w : Surroundings) : Call.run { c with surroundings := w, operation := .load } (m.insert c.session l) =
      ({ result := .ok (.loaded l), source := w.source }, m.insert c.session l) := by
  let load : Call := { c with surroundings := w, operation := .load }
  have found : (m.insert c.session l).find? load.session = some l := Memory.find?_insert_self m c.session l
  have opens : load.Opens (m.insert c.session l) := by
    intro id hs
    obtain ⟨l₀, hl₀, rfl⟩ := ho id hs
    exact ⟨l, found, (hid l₀ hl₀).symm⟩
  have hrun := run_of_opens opens
  rw [decision, opened_of_find? found] at hrun
  refine hrun.trans ?_
  rw [Decision.after, Operation.decide]
  exact congrArg _ (Memory.insert_of_find? found)

/-- A call whose first read or write fails leaves everything as it was. -/
theorem content_run_of_armed (c : Call) (m : Memory) {nextGet nextPut : Option StoreError}
    (armed : nextGet.isSome = true ∨ nextPut.isSome = true) :
    (c.operation.run (Faulty.store Memory.store) c.surroundings c.session c.scope
      { content := m, nextGet, nextPut }).2.content = m := by
  cases nextGet with
  | some e => rfl
  | none =>
    obtain ⟨e, rfl⟩ := Option.isSome_iff_exists.1 (armed.resolve_left Bool.false_ne_true)
    simp only [Operation.run, Faulty.store, Memory.store]
    cases hc : c.operation.course c.surroundings c.scope (.ok (m.find? c.session)) with
    | done o => rfl
    | write l next =>
      -- the failure of a write ends the call, so that none comes after it
      have ends : ∃ o, next (.error e) = .done o := by
        cases hm : m.find? c.session with
        | none =>
          rw [hm] at hc
          obtain ⟨-, -, herror, -⟩ := Operation.course_none_eq_write hc
          obtain ⟨o, ho, -⟩ := herror e
          exact ⟨o, ho⟩
        | some b =>
          rw [hm] at hc
          obtain ⟨-, herror, -⟩ := Decision.course_eq_write (Operation.course_some_eq_write hc).2
          obtain ⟨o, ho, -⟩ := herror e
          exact ⟨o, ho⟩
      obtain ⟨o, ho⟩ := ends
      simp only [Course.run, ho]

/-- A call that was not meant to change anything, or was refused, creates an LPA at most. -/
theorem run_of_declined (h : c.operation.IsIdle (c.opened m) ∨ IsRefusal (c.run m).1.result) : (c.run m).2 =
    if c.scope = none ∧ m.find? c.session = none then ⟨m.entries ++ [(c.session, c.created)]⟩ else m := by
  by_cases ho : c.Opens m
  · rw [run_of_opens ho] at h ⊢
    rw [← insert_opened ho]
    rcases @Decision.after_eq_or c.surroundings c.operation (c.opened m) with hl | ⟨l', r, hs, -⟩
    · exact congrArg (m.insert c.session) hl
    · exact absurd h (not_or.2 (exists_stores_iff.1 ⟨l', r, hs⟩))
  · have hscope : c.scope ≠ none := by
      intro unscoped
      refine ho fun id hid => ?_
      rw [unscoped] at hid
      cases hid
    rw [run_of_not_opens ho, if_neg fun hc => hscope hc.1]

/-- Any other call stores what its operation has made of the LPA. -/
theorem run_of_taken (h : ¬(c.operation.IsIdle (c.opened m) ∨ IsRefusal (c.run m).1.result)) :
    c.Opens m ∧ ∃ l' r, Stores c.surroundings (c.opened m) c.operation l' r ∧ (c.run m).1.result = .ok r ∧
      (c.run m).2 = m.insert c.session { l' with version := (c.opened m).version + 1 } := by
  rw [not_or] at h
  have ho : c.Opens m := by
    by_contra hno
    rw [run_of_not_opens hno] at h
    exact h.2 trivial
  rw [run_of_opens ho] at h ⊢
  obtain ⟨l', r, hs⟩ := exists_stores_iff.2 h
  have hv : (c.decision m).verdict = .save l' r := decide_eq_save_iff.2 hs
  refine ⟨ho, l', r, hs, ?_, ?_⟩
  · rw [Decision.outcome, Decision.result, hv]
  · rw [Decision.after, hv, ← hs.id_version.2]

theorem isExplained_of_run {rejection : Rejection} (h : (c.run m).1.result = .ok (.invalid rejection)) :
    rejection.isExplained = true := by
  by_cases ho : c.Opens m
  · rw [run_of_opens ho] at h
    exact isExplained_of_invalid h
  · rw [run_of_not_opens ho] at h
    cases h

/-- Only what was meant to change something, and was taken, is written. Whatever else a call answers, a failure of the
    store included, the memory is what it was, but for the empty LPA where one had to be created; otherwise the LPA of
    the session, and no other one, is what the operation has made of it, one version on, and is loaded as such. A form
    is never shown again without saying why. -/
theorem run_writes (c : Call) (m : Memory) :
    let l := c.opened m
    let result := (c.run m).1.result
    let after := (c.run m).2
    (c.operation.IsIdle l ∨ IsRefusal result → after =
      if c.scope = none ∧ m.find? c.session = none then ⟨m.entries ++ [(c.session, c.created)]⟩ else m) ∧
    (¬(c.operation.IsIdle l ∨ IsRefusal result) → ∃ l' r,
      (c.operation.decide c.surroundings l).verdict = .save l' r ∧ result = .ok r ∧
      after.find? c.session = some { l' with version := l.version + 1 } ∧
      (∀ session, session ≠ c.session → after.find? session = m.find? session) ∧
      ∀ w, Call.run { c with surroundings := w, operation := .load } after =
        ({ result := .ok (.loaded { l' with version := l.version + 1 }), source := w.source }, after)) ∧
    (∀ rejection, result = .ok (.invalid rejection) →
      rejection.errors.any = true ∨ rejection.nameWarning.isSome = true ∨ rejection.ageWarning.isSome = true) ∧
    ∀ nextGet nextPut : Option StoreError, nextGet.isSome = true ∨ nextPut.isSome = true →
      (c.operation.run (Faulty.store Memory.store) c.surroundings c.session c.scope
        { content := m, nextGet, nextPut }).2.content = m := by
  intro l result after
  refine ⟨run_of_declined, fun taken => ?_, fun rejection hr => ?_, fun _ _ => content_run_of_armed c m⟩
  · obtain ⟨ho, l', r, hs, hresult, hafter⟩ := run_of_taken taken
    have hstored : after = m.insert c.session { l' with version := l.version + 1 } := hafter
    refine ⟨l', r, decide_eq_save_iff.2 hs, hresult, ?_, fun session hne => find?_run_of_ne hne, fun w => ?_⟩
    · rw [hstored, Memory.find?_insert_self]
    · have same : ∀ l₀, m.find? c.session = some l₀ → l₀.id = l'.id := by
        intro l₀ hl₀
        rw [hs.id_version.1, opened_of_find? hl₀]
      rw [hstored]
      exact run_load_of_find? (l := { l' with version := l.version + 1 }) ho same w
  · have explained := isExplained_of_run hr
    rwa [Rejection.isExplained, Bool.or_eq_true, Bool.or_eq_true, or_assoc] at explained

/-- The first form of a session is not taken and leaves an empty LPA; the next one is, and makes the second version. -/
theorem run_writes_of_first :
    let unsigned := Submission.call (.sign {}) "session"
    let wants := Submission.call (.wantReplacements { yesNo := "yes" }) "session"
    let m := (unsigned.run {}).2
    m = ⟨[("session", unsigned.created)]⟩ ∧
    ∃ l, (wants.run m).2.find? "session" = some l ∧ l.version = 2 ∧ l.wantReplacements = some .yes := by
  intro unsigned wants m
  have hm : m = ⟨[("session", unsigned.created)]⟩ := (run_writes unsigned {}).1 (.inr trivial)
  refine ⟨hm, ?_⟩
  have taken : ¬(wants.operation.IsIdle (wants.opened m) ∨ IsRefusal (wants.run m).1.result) := by
    rw [hm]
    exact not_or.2 ⟨id, id⟩
  obtain ⟨l', r, hv, -, hfound, -⟩ := (run_writes wants m).2.1 taken
  refine ⟨_, hfound, ?_, ?_⟩
  · rw [hm]
    rfl
  · rw [hm] at hv
    cases hv
    rfl

end Call

end Wizard

end PowerOfAttorney
