import PowerOfAttorney.Proofs.FormErrors
import PowerOfAttorney.Wizard.Operation

/-! What an operation stores when it is accepted, one rule for each way in which an LPA is changed, with what the
    operation has found and what it answers. The rules say all that `Operation.decide` can store
    (`decide_eq_save_iff`), so whatever they keep, every operation keeps. -/

namespace PowerOfAttorney

open Form Wizard Routing

/-! ### Filling in details -/

namespace Form

/-- The donor with the details of a form. -/
def DonorDetails.fill (f : DonorDetails) (d : Donor) : Donor :=
  { d with firstNames := f.firstNames, lastName := f.lastName, otherNames := f.otherNames, birth := f.birth.date? }

/-- The attorney with the details of a form. -/
def ActorDetails.fill (f : ActorDetails) (a : Attorney) : Attorney :=
  { a with firstNames := f.firstNames, lastName := f.lastName, email := f.email, birth := f.birth.date? }

/-- The person with the details of a form. -/
def PersonDetails.fill (f : PersonDetails) (p : PersonToNotify) : PersonToNotify :=
  { p with firstNames := f.firstNames, lastName := f.lastName, email := f.email }

/-- The certificate provider with the details of a form. -/
def ProviderDetails.fill (f : ProviderDetails) (p : CertificateProvider) : CertificateProvider :=
  let relationship : Option Relationship := ofWord? f.relationship
  { p with
    firstNames := f.firstNames, lastName := f.lastName, email := f.email, mobile := f.mobile
    birth := f.birth.date?, relationship
    relationshipDescription := if relationship = some .professionally then f.relationshipDescription else ""
    acquaintance := if relationship = some .personally then ofWord? f.acquaintance else none }

/-! ### Why details are not accepted -/

/-- Why the donor's details are not accepted. -/
def DonorDetails.rejection? (f : DonorDetails) (today : Date) : Option Rejection :=
  let errors := f.errors today
  Wizard.rejection? errors none (pendingAgeWarning errors (f.ageWarning today) f.ignoreAgeWarning)

/-- Why the details of an attorney of a role are not accepted, `editing` being the id of the one that is there. -/
def ActorDetails.rejection? (f : ActorDetails) (today : Date) (isEmail : String → Bool) (role : AttorneyRole)
    (editing : Option String) (l : Lpa) : Option Rejection :=
  let errors := f.errors today isEmail
  let namesake := Namesake.find? l role.collection.kind editing f.firstNames f.lastName
  Wizard.rejection? errors (pendingNameWarning errors namesake f.ignoreNameWarning f.firstNames f.lastName)
    (pendingAgeWarning errors (f.ageWarning today) f.ignoreAgeWarning)

/-- Why the details of a person to notify are not accepted. -/
def PersonDetails.rejection? (f : PersonDetails) (isEmail : String → Bool) (editing : Option String) (l : Lpa) :
    Option Rejection :=
  let errors := f.errors isEmail
  let namesake := Namesake.find? l .personToNotify editing f.firstNames f.lastName
  Wizard.rejection? errors (pendingNameWarning errors namesake f.ignoreNameWarning f.firstNames f.lastName) none

/-- Why the certificate provider's details are not accepted. -/
def ProviderDetails.rejection? (f : ProviderDetails) (today : Date) (isEmail : String → Bool) (l : Lpa) :
    Option Rejection :=
  let errors := f.errors today isEmail
  let namesake := Namesake.find? l .certificateProvider none f.firstNames f.lastName
  Wizard.rejection? errors (pendingNameWarning errors namesake f.ignoreNameWarning f.firstNames f.lastName) none

/-- The address that a form asks to be stored: one that was chosen, or one written by hand without errors. -/
def AddressForm.Gives (f : AddressForm) (a : Address) : Prop :=
  (∃ postcode, f.action? = some (.select postcode (some a))) ∨ (f.action? = some (.manual a) ∧ f.errors.any = false)

end Form

namespace Wizard

theorem rejection?_eq_none {errors : ErrorList} {nameWarning : Option NameWarning} {ageWarning : Option AgeWarning} :
    rejection? errors nameWarning ageWarning = none ↔
      errors.any = false ∧ nameWarning = none ∧ ageWarning = none := by
  unfold rejection?
  split
  · rename_i h
    simp only [Bool.or_eq_true, Option.isSome_iff_ne_none] at h
    simp only [reduceCtorEq, false_iff, not_and]
    intro herrors hname hage
    rcases h with (h | h) | h
    · rw [herrors] at h
      cases h
    · exact h hname
    · exact h hage
  · rename_i h
    simpa [and_assoc] using h

/-! ### The rules -/

/-- What an operation that is accepted stores, and what it answers then. -/
inductive Stores (w : Surroundings) (l : Lpa) : Operation → Lpa → Reply → Prop
  | donorFilledIn {f : DonorDetails} (accepted : f.trimmed.rejection? w.today = none) :
      Stores w l (.submit (.donorDetails f)) { l with donor := f.trimmed.fill l.donor } (.redirect (.of .donorAddress))
  | lpaTypeChosen {f : LpaTypeForm} {t : LpaType} (answered : f.answer? = some t) :
      Stores w l (.submit (.lpaType f)) { l with lpaType := some t } (.redirect (.of .taskList))
  | attorneyEdited {role : AttorneyRole} {id : Option String} {f : ActorDetails} {a : Attorney}
      (found : id.bind (l.attorneysOf role).get? = some a)
      (accepted : f.trimmed.rejection? w.today w.isEmail role (some a.id) l = none) :
      Stores w l (.submit (.actorDetails role id f))
        ((l.withAttorneys role ((l.attorneysOf role).put (f.trimmed.fill a))).settleAttorneys role)
        (.redirect (afterDetails role.collection a.id false f.trimmed.source))
  | attorneyAdded {role : AttorneyRole} {id : Option String} {f : ActorDetails} {fresh : String} {source : Source}
      (missing : id.bind (l.attorneysOf role).get? = none)
      (accepted : f.trimmed.rejection? w.today w.isEmail role none l = none)
      (minted : w.source.mint? (l.attorneysOf role).ids = some (fresh, source)) :
      Stores w l (.submit (.actorDetails role id f))
        ((l.withAttorneys role ((l.attorneysOf role).put (f.trimmed.fill { id := fresh }))).settleAttorneys role)
        (.redirect (afterDetails role.collection fresh true f.trimmed.source))
  | attorneyRemoved {role : AttorneyRole} {id : String} {f : YesNoForm}
      (found : (l.attorneysOf role).contains id = true) (confirmed : f.answer? = some .yes) :
      Stores w l (.submit (.removeAttorney role id f))
        ((l.withAttorneys role ((l.attorneysOf role).erase id)).prune.settleAttorneys role)
        (.redirect (afterRemoval role.collection ((l.attorneysOf role).erase id).size))
  | attorneysArranged {f : Decisions} {m : DecisionMode} (chosen : f.mode? = some m)
      (valid : (f.errors "howAttorneysShouldMakeDecisions").any = false) :
      Stores w l (.submit (.decisions .primary f)) ((l.arrange (some m)).settleAttorneys .primary)
        (.redirect (afterDecisions .primary))
  | replacementsArranged {f : Decisions} {m : DecisionMode} (chosen : f.mode? = some m)
      (valid : (f.errors "howReplacementAttorneysShouldMakeDecisions").any = false) :
      Stores w l (.submit (.decisions .replacement f))
        (Lpa.settleAttorneys { l with replacementsDecide := some m } .replacement)
        (.redirect (afterDecisions .replacement))
  | replacementsWanted {f : YesNoForm} (answered : f.answer? = some .yes) :
      Stores w l (.submit (.wantReplacements f))
        (Lpa.settleAttorneys { l with wantReplacements := some .yes } .replacement)
        (.redirect (afterWantReplacements .yes))
  | replacementsDeclined {f : YesNoForm} (answered : f.answer? = some .no) :
      Stores w l (.submit (.wantReplacements f))
        ((Lpa.clearReplacements { l with wantReplacements := some .no }).settleAttorneys .replacement)
        (.redirect (afterWantReplacements .no))
  | stepInChosen {f : StepInForm} {a : StepIn} (chosen : f.stepIn? = some a) (valid : f.errors.any = false) :
      Stores w l (.submit (.stepIn f)) (Lpa.settleAttorneys { l with replacementsStepIn := some a } .replacement)
        (.redirect (afterStepIn { l with replacementsStepIn := some a }))
  | usableWhenChosen {f : UsableWhenForm} {u : UsableWhen} (valid : f.errors.any = false)
      (now : f.answersLater = false) (answered : f.answer? = some u) :
      Stores w l (.submit (.usableWhen f))
        { l with usableWhen := some u, tasks := l.tasks.set .usableWhen .completed } (.redirect (.of .taskList))
  | usableWhenPutOff {f : UsableWhenForm} (valid : f.errors.any = false) (later : f.answersLater = true) :
      Stores w l (.submit (.usableWhen f)) { l with tasks := l.tasks.set .usableWhen .inProgress }
        (.redirect (.of .taskList))
  | restrictionsWritten {f : RestrictionsForm} (valid : f.errors.any = false) :
      Stores w l (.submit (.restrictions f))
        { l with
          restrictions := Text.trim f.restrictions
          tasks := l.tasks.set .restrictions (if f.answersLater then .inProgress else .completed) }
        (.redirect (.of .taskList))
  | providerFilledIn {f : ProviderDetails} (accepted : f.trimmed.rejection? w.today w.isEmail l = none) :
      Stores w l (.submit (.providerDetails f))
        (Lpa.settleProvider { l with certificateProvider := f.trimmed.fill l.certificateProvider })
        (.redirect ((back? f.trimmed.source).getD (.of .providerAddress)))
  | addressGiven {t : AddressTarget} {f : AddressForm} {a : Address} (found : t.missing? l = none) (given : f.Gives a) :
      Stores w l (.submit (.address t f)) (t.settle (t.set a l)) (.redirect (t.next f.source))
  | notifying {f : YesNoForm} (answered : f.answer? = some .yes) :
      Stores w l (.submit (.wantToNotify f)) (Lpa.settlePeople { l with wantToNotify := some .yes })
        (.redirect (afterWantToNotify .yes))
  | notifyingNobody {f : YesNoForm} (answered : f.answer? = some .no) :
      Stores w l (.submit (.wantToNotify f))
        (Lpa.settlePeople { l with wantToNotify := some .no, peopleToNotify := {} })
        (.redirect (afterWantToNotify .no))
  | personEdited {id : Option String} {f : PersonDetails} {p : PersonToNotify}
      (found : id.bind l.peopleToNotify.get? = some p)
      (accepted : f.trimmed.rejection? w.isEmail (some p.id) l = none) :
      Stores w l (.submit (.personDetails id f))
        (Lpa.settlePeople { l with peopleToNotify := l.peopleToNotify.put (f.trimmed.fill p) })
        (.redirect (afterDetails .peopleToNotify p.id false f.trimmed.source))
  | personAdded {id : Option String} {f : PersonDetails} {fresh : String} {source : Source}
      (missing : id.bind l.peopleToNotify.get? = none) (accepted : f.trimmed.rejection? w.isEmail none l = none)
      (minted : w.source.mint? l.peopleToNotify.ids = some (fresh, source)) :
      Stores w l (.submit (.personDetails id f))
        (Lpa.settlePeople { l with peopleToNotify := l.peopleToNotify.put (f.trimmed.fill { id := fresh }) })
        (.redirect (afterDetails .peopleToNotify fresh true f.trimmed.source))
  | personRemoved {id : String} {f : YesNoForm} (found : l.peopleToNotify.contains id = true)
      (confirmed : f.answer? = some .yes) :
      Stores w l (.submit (.removePerson id f))
        (Lpa.settlePeople { l with peopleToNotify := l.peopleToNotify.erase id })
        (.redirect (afterRemoval .peopleToNotify (l.peopleToNotify.erase id).size))
  | checkConfirmed {f : CheckForm} (valid : f.errors.any = false) :
      Stores w l (.submit (.check f))
        { l with checked := true, happyToShare := true, tasks := l.tasks.set .checkLpa .completed }
        (.redirect (.of .aboutPayment))
  | paid {paymentId : String} :
      Stores w l (.confirmPayment paymentId)
        { l with
          payment := some { reference := (w.source.draw paymentReferenceLength).1, paymentId }
          tasks := l.tasks.set .payForLpa .completed }
        (.paid { reference := (w.source.draw paymentReferenceLength).1, paymentId })
  | identityOptionChosen {f : IdentityOptionForm} {o : IdentityOption} (answered : f.answer? = some o) :
      Stores w l (.submit (.identityOption f))
        { l with identityOption := some o, tasks := l.tasks.start .identityAndSign } (.redirect (.of .chosenIdentity))
  | identityRecorded {f : IdentityCallback} :
      Stores w l (.submit (.identityCallback f))
        { l with
          identity := some
            { ok := vouchesFor f l.donor, firstNames := f.firstNames, lastName := f.lastName, retrievedAt := w.now }
          tasks := l.tasks.start .identityAndSign }
        (.redirect (.of .identityConfirmed))
  | signed {f : SignForm} (confirmed : l.identityConfirmed = true) (valid : f.errors.any = false) :
      Stores w l (.submit (.sign f))
        { l with
          wantToSign := true, wantToApply := true, submittedAt := some w.now
          tasks := l.tasks.set .identityAndSign .completed }
        (.redirect (.of .submitted))

/-! ### Nothing else is stored -/

section
variable {w : Surroundings} {l l' : Lpa} {r : Reply}

theorem answerAttorneySummary_ne_save {role : AttorneyRole} {f : YesNoForm} :
    answerAttorneySummary role f l ≠ .save l' r := by
  intro h
  unfold answerAttorneySummary at h
  dsimp only at h
  split at h <;> cases h

theorem answerPeopleSummary_ne_save {f : YesNoForm} : answerPeopleSummary f l ≠ .save l' r := by
  intro h
  unfold answerPeopleSummary at h
  split at h <;> cases h

theorem saveActorDetails_eq {today : Date} {isEmail : String → Bool} {source : Source} {role : AttorneyRole}
    {id : Option String} {f : ActorDetails} : saveActorDetails today isEmail source role id f l =
      match f.trimmed.rejection? today isEmail role ((id.bind (l.attorneysOf role).get?).map (·.id)) l with
      | some r => { verdict := .answer (.invalid r), source }
      | none => match id.bind (l.attorneysOf role).get? with
        | some a => {
          verdict := .saveAndGo
            ((l.withAttorneys role ((l.attorneysOf role).put (f.trimmed.fill a))).settleAttorneys role)
            (afterDetails role.collection a.id false f.trimmed.source)
          source }
        | none => match source.mint? (l.attorneysOf role).ids with
          | some (fresh, source) => {
            verdict := .saveAndGo
              ((l.withAttorneys role ((l.attorneysOf role).put (f.trimmed.fill { id := fresh }))).settleAttorneys role)
              (afterDetails role.collection fresh true f.trimmed.source)
            source }
          | none => { verdict := .fail .noFreshId, source } := by
  unfold saveActorDetails ActorDetails.rejection?
  rfl

theorem savePersonDetails_eq {isEmail : String → Bool} {source : Source} {id : Option String} {f : PersonDetails} :
    savePersonDetails isEmail source id f l =
      match f.trimmed.rejection? isEmail ((id.bind l.peopleToNotify.get?).map (·.id)) l with
      | some r => { verdict := .answer (.invalid r), source }
      | none => match id.bind l.peopleToNotify.get? with
        | some p => {
          verdict := .saveAndGo
            (Lpa.settlePeople { l with peopleToNotify := l.peopleToNotify.put (f.trimmed.fill p) })
            (afterDetails .peopleToNotify p.id false f.trimmed.source)
          source }
        | none => match source.mint? l.peopleToNotify.ids with
          | some (fresh, source) => {
            verdict := .saveAndGo
              (Lpa.settlePeople { l with peopleToNotify := l.peopleToNotify.put (f.trimmed.fill { id := fresh }) })
              (afterDetails .peopleToNotify fresh true f.trimmed.source)
            source }
          | none => { verdict := .fail .noFreshId, source } := by
  unfold savePersonDetails PersonDetails.rejection?
  rfl

theorem saveDonorDetails_eq {today : Date} {f : DonorDetails} :
    saveDonorDetails today f l = match f.trimmed.rejection? today with
      | some r => .answer (.invalid r)
      | none => .saveAndGo { l with donor := f.trimmed.fill l.donor } (.of .donorAddress) := by
  unfold saveDonorDetails DonorDetails.rejection?
  rfl

theorem saveProviderDetails_eq {today : Date} {isEmail : String → Bool} {f : ProviderDetails} :
    saveProviderDetails today isEmail f l = match f.trimmed.rejection? today isEmail l with
      | some r => .answer (.invalid r)
      | none => .saveAndGo
        (Lpa.settleProvider { l with certificateProvider := f.trimmed.fill l.certificateProvider })
        ((back? f.trimmed.source).getD (.of .providerAddress)) := by
  unfold saveProviderDetails ProviderDetails.rejection?
  rfl

namespace Stores

theorem of_saveDonorDetails {f : DonorDetails} (h : saveDonorDetails w.today f l = .save l' r) :
    Stores w l (.submit (.donorDetails f)) l' r := by
  rw [saveDonorDetails_eq] at h
  split at h
  · cases h
  · cases h
    exact .donorFilledIn ‹_›

theorem of_chooseLpaType {f : LpaTypeForm} (h : chooseLpaType f l = .save l' r) :
    Stores w l (.submit (.lpaType f)) l' r := by
  unfold chooseLpaType at h
  split at h
  · cases h
    exact .lpaTypeChosen ‹_›
  · cases h

theorem of_saveActorDetails {role : AttorneyRole} {id : Option String} {f : ActorDetails}
    (h : (saveActorDetails w.today w.isEmail w.source role id f l).verdict = .save l' r) :
    Stores w l (.submit (.actorDetails role id f)) l' r := by
  rw [saveActorDetails_eq] at h
  split at h
  · cases h
  · rename_i accepted
    split at h
    · rename_i a found
      rw [found] at accepted
      cases h
      exact .attorneyEdited found accepted
    · rename_i missing
      rw [missing] at accepted
      split at h
      · rename_i minted
        cases h
        exact .attorneyAdded missing accepted minted
      · cases h

theorem of_removeAttorney {role : AttorneyRole} {id : String} {f : YesNoForm}
    (h : removeAttorney role id f l = .save l' r) : Stores w l (.submit (.removeAttorney role id f)) l' r := by
  unfold removeAttorney at h
  dsimp only at h
  split at h
  · rename_i found
    split at h
    · cases h
    · cases h
    · cases h
      exact .attorneyRemoved found ‹_›
  · cases h

theorem of_chooseDecisions {role : AttorneyRole} {f : Decisions} (h : chooseDecisions role f l = .save l' r) :
    Stores w l (.submit (.decisions role f)) l' r := by
  cases hm : f.mode? with
  | none =>
    simp only [chooseDecisions, hm] at h
    cases h
  | some m =>
    cases role with
    | primary =>
      simp only [chooseDecisions, hm] at h
      split at h
      · cases h
      · rename_i valid
        cases h
        exact .attorneysArranged hm (Bool.eq_false_iff.2 valid)
    | replacement =>
      simp only [chooseDecisions, hm] at h
      split at h
      · cases h
      · rename_i valid
        cases h
        exact .replacementsArranged hm (Bool.eq_false_iff.2 valid)

theorem of_wantReplacements {f : YesNoForm} (h : wantReplacements f l = .save l' r) :
    Stores w l (.submit (.wantReplacements f)) l' r := by
  unfold wantReplacements at h
  split at h
  · rename_i answer answered
    cases h
    cases answer with
    | yes => exact .replacementsWanted answered
    | no => exact .replacementsDeclined answered
  · cases h

theorem of_chooseStepIn {f : StepInForm} (h : chooseStepIn f l = .save l' r) :
    Stores w l (.submit (.stepIn f)) l' r := by
  unfold chooseStepIn at h
  split at h
  · rename_i a chosen
    split at h
    · cases h
    · rename_i valid
      cases h
      exact .stepInChosen chosen (Bool.eq_false_iff.2 valid)
  · cases h

theorem of_chooseUsableWhen {f : UsableWhenForm} (h : chooseUsableWhen f l = .save l' r) :
    Stores w l (.submit (.usableWhen f)) l' r := by
  unfold chooseUsableWhen at h
  split at h
  · cases h
  · rename_i invalid
    have valid := Bool.eq_false_iff.2 invalid
    dsimp only at h
    split at h
    · rename_i now answered
      cases h
      exact .usableWhenChosen valid now answered
    · rename_i hne
      cases h
      refine .usableWhenPutOff valid ?_
      -- a form that is not put off has no errors only with an answer, which is the other case
      unfold UsableWhenForm.errors at valid
      cases later : f.answersLater with
      | true => rfl
      | false =>
        cases answered : f.answer? with
        | none => simp [later, answered, ErrorList.any, ErrorList.single] at valid
        | some u => exact absurd answered (hne u later)

theorem of_saveRestrictions {f : RestrictionsForm} (h : saveRestrictions f l = .save l' r) :
    Stores w l (.submit (.restrictions f)) l' r := by
  unfold saveRestrictions at h
  split at h
  · cases h
  · rename_i valid
    cases h
    exact .restrictionsWritten (Bool.eq_false_iff.2 valid)

theorem of_saveProviderDetails {f : ProviderDetails} (h : saveProviderDetails w.today w.isEmail f l = .save l' r) :
    Stores w l (.submit (.providerDetails f)) l' r := by
  rw [saveProviderDetails_eq] at h
  split at h
  · cases h
  · cases h
    exact .providerFilledIn ‹_›

theorem of_saveAddress {t : AddressTarget} {f : AddressForm} (h : (saveAddress w.lookup t f l).1 = .save l' r) :
    Stores w l (.submit (.address t f)) l' r := by
  have offers : ∀ postcode errors, (offerAddresses w.lookup postcode errors).1 ≠ .save l' r := by
    intro postcode errors ho
    unfold offerAddresses at ho
    split at ho
    · cases ho
    · dsimp only at ho
      split at ho
      · cases ho
      · cases ho
      · cases ho
      · split at ho <;> cases ho
  unfold saveAddress at h
  dsimp only at h
  split at h
  · cases h
  · rename_i found
    split at h
    · split at h
      · cases h
      · exact absurd h (offers _ _)
    · exact absurd h (offers _ _)
    · rename_i chosen
      cases h
      exact .addressGiven found (.inl ⟨_, chosen⟩)
    · rename_i written
      split at h
      · cases h
      · rename_i valid
        cases h
        exact .addressGiven found (.inr ⟨written, Bool.eq_false_iff.2 valid⟩)
    · cases h

theorem of_wantToNotify {f : YesNoForm} (h : wantToNotify f l = .save l' r) :
    Stores w l (.submit (.wantToNotify f)) l' r := by
  unfold wantToNotify at h
  split at h
  · rename_i answer answered
    cases h
    cases answer with
    | yes => exact .notifying answered
    | no => exact .notifyingNobody answered
  · cases h

theorem of_savePersonDetails {id : Option String} {f : PersonDetails}
    (h : (savePersonDetails w.isEmail w.source id f l).verdict = .save l' r) :
    Stores w l (.submit (.personDetails id f)) l' r := by
  rw [savePersonDetails_eq] at h
  split at h
  · cases h
  · rename_i accepted
    split at h
    · rename_i p found
      rw [found] at accepted
      cases h
      exact .personEdited found accepted
    · rename_i missing
      rw [missing] at accepted
      split at h
      · rename_i minted
        cases h
        exact .personAdded missing accepted minted
      · cases h

theorem of_removePerson {id : String} {f : YesNoForm} (h : removePerson id f l = .save l' r) :
    Stores w l (.submit (.removePerson id f)) l' r := by
  unfold removePerson at h
  dsimp only at h
  split at h
  · rename_i found
    split at h
    · cases h
    · cases h
    · cases h
      exact .personRemoved found ‹_›
  · cases h

theorem of_confirmCheck {f : CheckForm} (h : confirmCheck f l = .save l' r) :
    Stores w l (.submit (.check f)) l' r := by
  unfold confirmCheck at h
  split at h
  · cases h
  · rename_i valid
    cases h
    exact .checkConfirmed (Bool.eq_false_iff.2 valid)

theorem of_chooseIdentityOption {f : IdentityOptionForm} (h : chooseIdentityOption f l = .save l' r) :
    Stores w l (.submit (.identityOption f)) l' r := by
  unfold chooseIdentityOption at h
  split at h
  · cases h
    exact .identityOptionChosen ‹_›
  · cases h

theorem of_sign {f : SignForm} (h : sign w.now f l = .save l' r) : Stores w l (.submit (.sign f)) l' r := by
  cases hc : l.identityConfirmed with
  | false =>
    simp only [sign, hc, Bool.false_eq_true, ↓reduceIte, ErrorList.any_add] at h
    cases h
  | true =>
    simp only [sign, hc, ↓reduceIte] at h
    split at h
    · cases h
    · rename_i valid
      cases h
      exact .signed hc (Bool.eq_false_iff.2 valid)

theorem of_decide {op : Operation} (h : (op.decide w l).verdict = .save l' r) : Stores w l op l' r := by
  have shows : ∀ instead actor, showUnless instead l actor ≠ .save l' r := by
    intro instead actor hs
    unfold showUnless at hs
    split at hs <;> cases hs
  cases op with
  | load => cases h
  | taskList => cases h
  | detailsPage c id addAnother => exact absurd h (shows _ _)
  | addressPage c id => exact absurd h (shows _ _)
  | summaryPage c => exact absurd h (shows _ _)
  | removePage c id => exact absurd h (shows _ _)
  | confirmPayment paymentId =>
    cases h
    exact .paid
  | submit s =>
    cases s with
    | donorDetails f => exact of_saveDonorDetails h
    | lpaType f => exact of_chooseLpaType h
    | actorDetails role id f => exact of_saveActorDetails h
    | attorneySummary role f => exact absurd h answerAttorneySummary_ne_save
    | removeAttorney role id f => exact of_removeAttorney h
    | decisions role f => exact of_chooseDecisions h
    | wantReplacements f => exact of_wantReplacements h
    | stepIn f => exact of_chooseStepIn h
    | usableWhen f => exact of_chooseUsableWhen h
    | restrictions f => exact of_saveRestrictions h
    | providerDetails f => exact of_saveProviderDetails h
    | address t f => exact of_saveAddress h
    | wantToNotify f => exact of_wantToNotify h
    | personDetails id f => exact of_savePersonDetails h
    | peopleSummary f => exact absurd h answerPeopleSummary_ne_save
    | removePerson id f => exact of_removePerson h
    | check f => exact of_confirmCheck h
    | identityOption f => exact of_chooseIdentityOption h
    | identityCallback f =>
      cases h
      exact .identityRecorded
    | sign f => exact of_sign h

end Stores

/-- An operation stores exactly what a rule lets it store. -/
theorem decide_eq_save_iff {op : Operation} : (op.decide w l).verdict = .save l' r ↔ Stores w l op l' r := by
  refine ⟨Stores.of_decide, fun h => ?_⟩
  cases h with
  | donorFilledIn accepted =>
    simp only [Operation.decide, Submission.decide, saveDonorDetails_eq, accepted]
    rfl
  | lpaTypeChosen answered =>
    simp only [Operation.decide, Submission.decide, chooseLpaType, answered]
    rfl
  | attorneyEdited found accepted =>
    simp only [Operation.decide, Submission.decide, saveActorDetails_eq, found, Option.map_some, accepted]
    rfl
  | attorneyAdded missing accepted minted =>
    simp only [Operation.decide, Submission.decide, saveActorDetails_eq, missing, Option.map_none, accepted, minted]
    rfl
  | attorneyRemoved found confirmed =>
    simp only [Operation.decide, Submission.decide, removeAttorney, found, ↓reduceIte, confirmed]
    rfl
  | attorneysArranged chosen valid =>
    simp only [Operation.decide, Submission.decide, chooseDecisions, chosen, valid, Bool.false_eq_true, ↓reduceIte]
    rfl
  | replacementsArranged chosen valid =>
    simp only [Operation.decide, Submission.decide, chooseDecisions, chosen, valid, Bool.false_eq_true, ↓reduceIte]
    rfl
  | replacementsWanted answered =>
    simp only [Operation.decide, Submission.decide, wantReplacements, answered]
    rfl
  | replacementsDeclined answered =>
    simp only [Operation.decide, Submission.decide, wantReplacements, answered]
    rfl
  | stepInChosen chosen valid =>
    simp only [Operation.decide, Submission.decide, chooseStepIn, chosen, valid, Bool.false_eq_true, ↓reduceIte]
    rfl
  | usableWhenChosen valid now answered =>
    simp only [Operation.decide, Submission.decide, chooseUsableWhen, valid, now, answered, Bool.false_eq_true,
      ↓reduceIte]
    rfl
  | usableWhenPutOff valid later =>
    simp only [Operation.decide, Submission.decide, chooseUsableWhen, valid, later, Bool.false_eq_true, ↓reduceIte]
    rfl
  | restrictionsWritten valid =>
    simp only [Operation.decide, Submission.decide, saveRestrictions, valid, Bool.false_eq_true, ↓reduceIte]
    rfl
  | providerFilledIn accepted =>
    simp only [Operation.decide, Submission.decide, saveProviderDetails_eq, accepted]
    rfl
  | addressGiven found given =>
    rcases given with ⟨postcode, chosen⟩ | ⟨written, valid⟩
    · simp only [Operation.decide, Submission.decide, saveAddress, found, chosen]
      rfl
    · simp only [Operation.decide, Submission.decide, saveAddress, found, written, valid, Bool.false_eq_true,
        ↓reduceIte]
      rfl
  | notifying answered =>
    simp only [Operation.decide, Submission.decide, wantToNotify, answered]
    rfl
  | notifyingNobody answered =>
    simp only [Operation.decide, Submission.decide, wantToNotify, answered]
    rfl
  | personEdited found accepted =>
    simp only [Operation.decide, Submission.decide, savePersonDetails_eq, found, Option.map_some, accepted]
    rfl
  | personAdded missing accepted minted =>
    simp only [Operation.decide, Submission.decide, savePersonDetails_eq, missing, Option.map_none, accepted, minted]
    rfl
  | personRemoved found confirmed =>
    simp only [Operation.decide, Submission.decide, removePerson, found, ↓reduceIte, confirmed]
    rfl
  | checkConfirmed valid =>
    simp only [Operation.decide, Submission.decide, confirmCheck, valid, Bool.false_eq_true, ↓reduceIte]
    rfl
  | paid => rfl
  | identityOptionChosen answered =>
    simp only [Operation.decide, Submission.decide, chooseIdentityOption, answered]
    rfl
  | identityRecorded => rfl
  | signed confirmed valid =>
    simp only [Operation.decide, Submission.decide, sign, confirmed, valid, Bool.false_eq_true, ↓reduceIte]
    rfl

/-! ### What no rule changes -/

theorem id_version_withAttorneys (l : Lpa) (role : AttorneyRole) (rest : Roster Attorney) :
    (l.withAttorneys role rest).id = l.id ∧ (l.withAttorneys role rest).version = l.version := by
  cases role <;> exact ⟨rfl, rfl⟩

theorem id_version_prune (l : Lpa) : l.prune.id = l.id ∧ l.prune.version = l.version := by
  rw [Lpa.prune_eq]
  exact ⟨rfl, rfl⟩

theorem id_version_set (t : AddressTarget) (a : Address) (l : Lpa) :
    (t.settle (t.set a l)).id = l.id ∧ (t.settle (t.set a l)).version = l.version := by
  cases t with
  | donor => exact ⟨rfl, rfl⟩
  | certificateProvider => exact ⟨rfl, rfl⟩
  | actor c id => cases c <;> exact ⟨rfl, rfl⟩

/-- What is stored has the id and the version of the LPA that was read. -/
theorem Stores.id_version {op : Operation} (h : Stores w l op l' r) : l'.id = l.id ∧ l'.version = l.version := by
  cases h with
  | attorneyEdited => exact id_version_withAttorneys l _ _
  | attorneyAdded => exact id_version_withAttorneys l _ _
  | @attorneyRemoved role id =>
    have hw := id_version_withAttorneys l role ((l.attorneysOf role).erase id)
    have hp := id_version_prune (l.withAttorneys role ((l.attorneysOf role).erase id))
    exact ⟨hp.1.trans hw.1, hp.2.trans hw.2⟩
  | addressGiven => exact id_version_set _ _ l
  | _ => exact ⟨rfl, rfl⟩

end

end Wizard

end PowerOfAttorney
