import PowerOfAttorney.Proofs.Session

/-! Warnings, and how they are acknowledged. Details are taken if nothing is wrong with them and every warning that
    they are worth now is acknowledged by its own key or code; otherwise the form comes back with the errors, and with
    every warning that is not acknowledged or stands beside an error (`Details.warning_protocol`). What comes back is
    therefore what has to be sent along for the same form to be taken, and the key of one namesake lets no other pass:
    keys and namesakes stand for each other one to one, whatever is in an id (`Namesake.keys_exact`). -/

namespace PowerOfAttorney.Namesake

/-! ### Keys -/

theorem key_eq (n : Namesake) : n.key = wordOf n.subject ++ ":" ++ wordOf n.matched ++ ":" ++ n.matchedId := by
  rw [← String.toList_inj, key, String.toList_ofList]
  simp only [String.toList_append, List.append_assoc]
  rfl

/-- A key is read as the namesake it is written for, and no other text is. The texts that are rejected are those with
    fewer than two colons and those in which something else than the word of a kind of actor stands before the first
    colon, or between the first two. -/
theorem keys_exact :
    (∀ n : Namesake, n.key = wordOf n.subject ++ ":" ++ wordOf n.matched ++ ":" ++ n.matchedId ∧
      ofKey? n.key = some n) ∧
    (∀ s n, ofKey? s = some n → n.key = s) ∧
    (∀ s s' n, ofKey? s = some n → ofKey? s' = some n → s = s') ∧
    (∀ n n' : Namesake, n.key = n'.key → n = n') ∧
    ∀ s, ofKey? s = none ↔ s.toList.count ':' < 2 ∨
      ∃ first second id, s.toList = first ++ ':' :: (second ++ ':' :: id) ∧ ':' ∉ first ∧ ':' ∉ second ∧
        ((∀ k : ActorKind, wordOf k ≠ String.ofList first) ∨ ∀ k : ActorKind, wordOf k ≠ String.ofList second) := by
  have rendered : ∀ s n, ofKey? s = some n → n.key = s := fun _ _ read => (ofKey?_eq_some_iff.1 read).symm
  refine ⟨fun n => ⟨n.key_eq, ofKey?_key n⟩, rendered, ?_, fun _ _ => key_injective, fun _ => ofKey?_eq_none_iff⟩
  intro s s' n read read'
  rw [← rendered s n read, rendered s' n read']

/-- An id may hold colons and blanks. One colon is too few, and a trustee is no kind of actor. -/
theorem keys_exact_of_colons :
    let n : Namesake := ⟨.attorney, .replacement, "a:b c"⟩
    ofKey? n.key = some n ∧ ofKey? "attorney:donor" = none ∧ ofKey? "attorney:trustee:1" = none := by
  intro n
  obtain ⟨written, -, -, -, rejected⟩ := keys_exact
  refine ⟨(written n).2, (rejected _).2 (.inl (by decide)), (rejected _).2 (.inr ?_)⟩
  refine ⟨"attorney".toList, "trustee".toList, ['1'], by decide, by decide, by decide, .inr ?_⟩
  intro k
  cases k <;> decide

end PowerOfAttorney.Namesake

namespace PowerOfAttorney.Wizard

open Form

/-! ### What is shown of a warning -/

section
variable {errors : ErrorList} {found : Option Namesake} {ignore : Option String} {firstNames lastName : String}

/-- A namesake is shown beside errors, and otherwise unless it is acknowledged. -/
theorem pendingNameWarning_eq_some_iff {shown : NameWarning} :
    pendingNameWarning errors found ignore firstNames lastName = some shown ↔
      ∃ n, found = some n ∧ (errors.any = true ∨ ignore ≠ some n.key) ∧ n.warning firstNames lastName = shown := by
  simp only [pendingNameWarning, Option.map_eq_some_iff, Option.filter_eq_some_iff, Bool.or_eq_true, Bool.not_eq_true',
    ← Bool.not_eq_true, Namesake.isAcknowledged_iff, and_assoc]

theorem pendingNameWarning_eq_none_iff : pendingNameWarning errors found ignore firstNames lastName = none ↔
    ∀ n, found = some n → errors.any = false ∧ ignore = some n.key := by
  simp only [pendingNameWarning, Option.map_eq_none_iff, Option.filter_eq_none_iff, Bool.or_eq_true, Bool.not_eq_true',
    ← Bool.not_eq_true, Namesake.isAcknowledged_iff, not_or, not_not]

theorem pendingAgeWarning_eq_some_iff {found : Option AgeWarning} {shown : AgeWarning} :
    pendingAgeWarning errors found ignore = some shown ↔
      found = some shown ∧ (errors.any = true ∨ ignore ≠ some shown.code) := by
  simp only [pendingAgeWarning, Option.filter_eq_some_iff, Bool.or_eq_true, bne_iff_ne]

theorem pendingAgeWarning_eq_none_iff {found : Option AgeWarning} : pendingAgeWarning errors found ignore = none ↔
    ∀ a, found = some a → errors.any = false ∧ ignore = some a.code := by
  simp only [pendingAgeWarning, Option.filter_eq_none_iff, Bool.or_eq_true, bne_iff_ne, not_or, not_not,
    Bool.not_eq_true]

/-- Beside no error, the key that is shown is the one to be sent; where none is shown, it was sent. -/
theorem key_of_pendingNameWarning (valid : errors.any = false) (n : Namesake) :
    ((pendingNameWarning errors (some n) ignore firstNames lastName).map (·.key)).or ignore = some n.key := by
  by_cases sent : ignore = some n.key
  · have unshown : pendingNameWarning errors (some n) ignore firstNames lastName = none := by
      rw [pendingNameWarning_eq_none_iff]
      rintro _ ⟨⟩
      exact ⟨valid, sent⟩
    rw [unshown, sent]
    rfl
  · have shown : pendingNameWarning errors (some n) ignore firstNames lastName = some (n.warning firstNames lastName) :=
      pendingNameWarning_eq_some_iff.2 ⟨n, rfl, .inr sent, rfl⟩
    rw [shown]
    rfl

theorem code_of_pendingAgeWarning (valid : errors.any = false) (a : AgeWarning) :
    ((pendingAgeWarning errors (some a) ignore).map (·.code)).or ignore = some a.code := by
  by_cases sent : ignore = some a.code
  · have unshown : pendingAgeWarning errors (some a) ignore = none := by
      rw [pendingAgeWarning_eq_none_iff]
      rintro _ ⟨⟩
      exact ⟨valid, sent⟩
    rw [unshown, sent]
    rfl
  · have shown : pendingAgeWarning errors (some a) ignore = some a :=
      pendingAgeWarning_eq_some_iff.2 ⟨rfl, .inr sent⟩
    rw [shown]
    rfl

end

/-! ### The forms that are worth a warning -/

/-- The details of an actor that are sent in. -/
inductive Details where
  | donor (f : DonorDetails)
  | actor (role : AttorneyRole) (id : Option String) (f : ActorDetails)
  | provider (f : ProviderDetails)
  | person (id : Option String) (f : PersonDetails)

namespace Details

def submission : Details → Submission
  | donor f => .donorDetails f
  | actor role id f => .actorDetails role id f
  | provider f => .providerDetails f
  | person id f => .personDetails id f

/-- What is wrong with the fields, once blanks are taken off. -/
def errors (today : Date) (isEmail : String → Bool) : Details → ErrorList
  | donor f => f.trimmed.errors today
  | actor _ _ f => f.trimmed.errors today isEmail
  | provider f => f.trimmed.errors today isEmail
  | person _ f => f.trimmed.errors isEmail

def firstNames : Details → String
  | donor f => f.trimmed.firstNames
  | actor _ _ f => f.trimmed.firstNames
  | provider f => f.trimmed.firstNames
  | person _ f => f.trimmed.firstNames

def lastName : Details → String
  | donor f => f.trimmed.lastName
  | actor _ _ f => f.trimmed.lastName
  | provider f => f.trimmed.lastName
  | person _ f => f.trimmed.lastName

/-- The id of the actor that is edited, where there is one. -/
def editing? (l : Lpa) : Details → Option String
  | donor _ => none
  | actor role id _ => (id.bind (l.attorneysOf role).get?).map (·.id)
  | provider _ => none
  | person id _ => (id.bind l.peopleToNotify.get?).map (·.id)

/-- Who bears the name now. Nobody is looked for where the name is the donor's. -/
def namesake? (l : Lpa) (d : Details) : Option Namesake :=
  let search := fun kind => Namesake.find? l kind (d.editing? l) d.firstNames d.lastName
  match d with
  | donor _ => none
  | actor role _ _ => search role.collection.kind
  | provider _ => search .certificateProvider
  | person _ _ => search .personToNotify

/-- What the date of birth is worth a warning for, where it is looked at. -/
def ageWarning? (today : Date) : Details → Option AgeWarning
  | donor f => f.trimmed.ageWarning today
  | actor _ _ f => f.trimmed.ageWarning today
  | _ => none

def ignoreNameWarning : Details → Option String
  | donor _ => none
  | actor _ _ f => f.ignoreNameWarning
  | provider f => f.ignoreNameWarning
  | person _ f => f.ignoreNameWarning

def ignoreAgeWarning : Details → Option String
  | donor f => f.ignoreAgeWarning
  | actor _ _ f => f.ignoreAgeWarning
  | _ => none

/-- The same details, sent along with another key and another code. -/
def sending (key code : Option String) : Details → Details
  | donor f => donor { f with ignoreAgeWarning := code }
  | actor role id f => actor role id { f with ignoreNameWarning := key, ignoreAgeWarning := code }
  | provider f => provider { f with ignoreNameWarning := key }
  | person id f => person id { f with ignoreNameWarning := key }

/-- The same details, sent along with the key and the code that came back. -/
def acknowledging (r : Rejection) (d : Details) : Details :=
  d.sending ((r.nameWarning.map (·.key)).or d.ignoreNameWarning) ((r.ageWarning.map (·.code)).or d.ignoreAgeWarning)

/-- Whether an id can be minted, where the details are those of someone new. -/
def Mints (w : Surroundings) (l : Lpa) : Details → Prop
  | actor role id _ => id.bind (l.attorneysOf role).get? = none → (w.source.mint? (l.attorneysOf role).ids).isSome = true
  | person id _ => id.bind l.peopleToNotify.get? = none → (w.source.mint? l.peopleToNotify.ids).isSome = true
  | _ => True

variable {d : Details} {r : Rejection} {w : Surroundings} {l : Lpa} {today : Date} {isEmail : String → Bool}

/-! ### What is sent along does not change the rest -/

section
variable (d) (key code : Option String)

theorem errors_sending : (d.sending key code).errors today isEmail = d.errors today isEmail := by cases d <;> rfl

theorem namesake?_sending : (d.sending key code).namesake? l = d.namesake? l := by cases d <;> rfl

theorem ageWarning?_sending : (d.sending key code).ageWarning? today = d.ageWarning? today := by cases d <;> rfl

end

theorem ignoreNameWarning_sending {n : Namesake} (h : d.namesake? l = some n) (key code : Option String) :
    (d.sending key code).ignoreNameWarning = key := by
  cases d with
  | donor f => cases h
  | _ => rfl

theorem ignoreAgeWarning_sending {a : AgeWarning} (h : d.ageWarning? today = some a) (key code : Option String) :
    (d.sending key code).ignoreAgeWarning = code := by
  cases d with
  | donor f => rfl
  | actor role id f => rfl
  | provider f => cases h
  | person id f => cases h

/-! ### Taken or not -/

/-- Why the details are not taken. -/
def rejection? (today : Date) (isEmail : String → Bool) (l : Lpa) (d : Details) : Option Rejection :=
  let errors := d.errors today isEmail
  Wizard.rejection? errors (pendingNameWarning errors (d.namesake? l) d.ignoreNameWarning d.firstNames d.lastName)
    (pendingAgeWarning errors (d.ageWarning? today) d.ignoreAgeWarning)

/-- Nothing is wrong with the details, and all warnings that they are worth now are acknowledged. -/
structure Passes (today : Date) (isEmail : String → Bool) (l : Lpa) (d : Details) : Prop where
  valid : (d.errors today isEmail).any = false
  name : ∀ n, d.namesake? l = some n → d.ignoreNameWarning = some n.key
  age : ∀ a, d.ageWarning? today = some a → d.ignoreAgeWarning = some a.code

theorem rejection?_eq_none_iff : d.rejection? today isEmail l = none ↔ d.Passes today isEmail l := by
  rw [rejection?, rejection?_eq_none, pendingNameWarning_eq_none_iff, pendingAgeWarning_eq_none_iff]
  constructor
  · rintro ⟨valid, name, age⟩
    exact ⟨valid, fun n hn => (name n hn).2, fun a ha => (age a ha).2⟩
  · rintro ⟨valid, name, age⟩
    exact ⟨valid, fun n hn => ⟨valid, name n hn⟩, fun a ha => ⟨valid, age a ha⟩⟩

/-- Details without errors pass with the key of whoever is found and the code of whatever their age is worth. -/
theorem passes_sending {key code : Option String} (valid : (d.errors today isEmail).any = false)
    (name : ∀ n, d.namesake? l = some n → key = some n.key)
    (age : ∀ a, d.ageWarning? today = some a → code = some a.code) :
    (d.sending key code).Passes today isEmail l := by
  constructor
  · rwa [errors_sending]
  · intro n hn
    rw [namesake?_sending] at hn
    rw [ignoreNameWarning_sending hn, name n hn]
  · intro a ha
    rw [ageWarning?_sending] at ha
    rw [ignoreAgeWarning_sending ha, age a ha]

theorem eq_of_rejection? (h : d.rejection? today isEmail l = some r) :
    r.errors = d.errors today isEmail ∧
      r.nameWarning =
        pendingNameWarning (d.errors today isEmail) (d.namesake? l) d.ignoreNameWarning d.firstNames d.lastName ∧
      r.ageWarning = pendingAgeWarning (d.errors today isEmail) (d.ageWarning? today) d.ignoreAgeWarning := by
  rw [rejection?, Wizard.rejection?] at h
  split at h
  · cases h
    exact ⟨rfl, rfl, rfl⟩
  · cases h

/-- Where a rejection shows no errors, what it shows of the warnings is all that has to be sent along. -/
theorem passes_acknowledging (h : d.rejection? today isEmail l = some r) (valid : r.errors.any = false) :
    (d.acknowledging r).Passes today isEmail l := by
  obtain ⟨herrors, hname, hage⟩ := eq_of_rejection? h
  rw [herrors] at valid
  refine passes_sending valid (fun n hn => ?_) fun a ha => ?_
  · rw [hname, hn]
    exact key_of_pendingNameWarning valid n
  · rw [hage, ha]
    exact code_of_pendingAgeWarning valid a

/-- The key of another namesake lets none pass. -/
theorem not_passes_of_other {n n' : Namesake} (found : d.namesake? l = some n) (other : n' ≠ n)
    (sent : d.ignoreNameWarning = some n'.key) : ¬d.Passes today isEmail l := by
  intro h
  have key := (h.name n found).symm.trans sent
  exact other (Namesake.key_injective (Option.some.inj key)).symm

/-! ### What becomes of a form -/

theorem decide_of_rejected (h : d.rejection? w.today w.isEmail l = some r) :
    (d.submission.decide w l).verdict = .answer (.invalid r) := by
  cases d with
  | donor f =>
    have rejected : f.trimmed.rejection? w.today = some r := h
    simp only [submission, Submission.decide, saveDonorDetails_eq, rejected]
  | actor role id f =>
    have rejected : f.trimmed.rejection? w.today w.isEmail role ((id.bind (l.attorneysOf role).get?).map (·.id)) l =
      some r := h
    simp only [submission, Submission.decide, saveActorDetails_eq, rejected]
  | provider f =>
    have rejected : f.trimmed.rejection? w.today w.isEmail l = some r := h
    simp only [submission, Submission.decide, saveProviderDetails_eq, rejected]
  | person id f =>
    have rejected : f.trimmed.rejection? w.isEmail ((id.bind l.peopleToNotify.get?).map (·.id)) l = some r := h
    simp only [submission, Submission.decide, savePersonDetails_eq, rejected]

theorem decide_of_accepted (h : d.rejection? w.today w.isEmail l = none) (mints : d.Mints w l) :
    ∃ l' next, (d.submission.decide w l).verdict = .saveAndGo l' next := by
  cases d with
  | donor f =>
    have accepted : f.trimmed.rejection? w.today = none := h
    simp only [submission, Submission.decide, saveDonorDetails_eq, accepted]
    exact ⟨_, _, rfl⟩
  | actor role id f =>
    have accepted : f.trimmed.rejection? w.today w.isEmail role ((id.bind (l.attorneysOf role).get?).map (·.id)) l =
      none := h
    simp only [submission, Submission.decide, saveActorDetails_eq, accepted]
    cases found : id.bind (l.attorneysOf role).get? with
    | some a => exact ⟨_, _, rfl⟩
    | none =>
      obtain ⟨⟨fresh, source⟩, minted⟩ := Option.isSome_iff_exists.1 (mints found)
      simp only [minted]
      exact ⟨_, _, rfl⟩
  | provider f =>
    have accepted : f.trimmed.rejection? w.today w.isEmail l = none := h
    simp only [submission, Submission.decide, saveProviderDetails_eq, accepted]
    exact ⟨_, _, rfl⟩
  | person id f =>
    have accepted : f.trimmed.rejection? w.isEmail ((id.bind l.peopleToNotify.get?).map (·.id)) l = none := h
    simp only [submission, Submission.decide, savePersonDetails_eq, accepted]
    cases found : id.bind l.peopleToNotify.get? with
    | some p => exact ⟨_, _, rfl⟩
    | none =>
      obtain ⟨⟨fresh, source⟩, minted⟩ := Option.isSome_iff_exists.1 (mints found)
      simp only [minted]
      exact ⟨_, _, rfl⟩

/-- A call that sends the details in, for an LPA that the session has or gets, with an id left for someone new. -/
structure Sent (d : Details) (c : Call) (m : Memory) : Prop where
  operation : c.operation = .submit d.submission
  opens : c.Opens m
  mints : d.Mints c.surroundings (c.opened m)

/-- Whether a form was taken: the user is sent on. -/
def IsTaken (result : Except Failure Reply) : Prop := ∃ next, result = .ok (.redirect next)

section
variable {c : Call} {m : Memory}

theorem Sent.result_of_rejected (sent : d.Sent c m)
    (h : d.rejection? c.surroundings.today c.surroundings.isEmail (c.opened m) = some r) :
    (c.run m).1.result = .ok (.invalid r) ∧ (c.run m).2 = m.insert c.session (c.opened m) := by
  have hv : (c.decision m).verdict = .answer (.invalid r) := by
    rw [Call.decision, sent.operation]
    exact decide_of_rejected h
  rw [Call.run_of_opens sent.opens, Decision.outcome, Decision.result, Decision.after, hv]
  exact ⟨rfl, rfl⟩

theorem Sent.isTaken_of_accepted (sent : d.Sent c m)
    (h : d.rejection? c.surroundings.today c.surroundings.isEmail (c.opened m) = none) :
    IsTaken (c.run m).1.result := by
  obtain ⟨l', next, hv⟩ := decide_of_accepted h sent.mints
  have taken : (c.decision m).verdict = .saveAndGo l' next := by
    rw [Call.decision, sent.operation]
    exact hv
  rw [Call.run_of_opens sent.opens, Decision.outcome, Decision.result, taken]
  exact ⟨next, rfl⟩

theorem Sent.isTaken_iff (sent : d.Sent c m) :
    IsTaken (c.run m).1.result ↔ d.Passes c.surroundings.today c.surroundings.isEmail (c.opened m) := by
  rw [← rejection?_eq_none_iff]
  refine ⟨fun taken => ?_, sent.isTaken_of_accepted⟩
  obtain ⟨next, taken⟩ := taken
  cases h : d.rejection? c.surroundings.today c.surroundings.isEmail (c.opened m) with
  | none => rfl
  | some r =>
    rw [(sent.result_of_rejected h).1] at taken
    cases taken

end

/-- Details are taken exactly if nothing is wrong with them and each warning that they are worth now is acknowledged by
    its own key or code. Otherwise they come back, with nothing stored, and each warning is shown unless it is
    acknowledged and there are no errors. The same form is then taken with what came back, whoever sends it that day, as
    long as the LPA and the rule for e-mail addresses are the same and nothing else was wrong; and the key of another
    namesake never helps. -/
theorem warning_protocol {d : Details} {c : Call} {m : Memory} (sent : d.Sent c m) :
    let l := c.opened m
    let today := c.surroundings.today
    let errors := d.errors today c.surroundings.isEmail
    let result := (c.run m).1.result
    (IsTaken result ↔
      errors.any = false ∧
      (∀ n, d.namesake? l = some n → d.ignoreNameWarning = some n.key) ∧
      ∀ a, d.ageWarning? today = some a → d.ignoreAgeWarning = some a.code) ∧
    (¬IsTaken result → ∃ r, result = .ok (.invalid r) ∧ (c.run m).2 = m.insert c.session l ∧
      r.errors = errors ∧
      (∀ shown, r.nameWarning = some shown ↔
        ∃ n, d.namesake? l = some n ∧ (errors.any = true ∨ d.ignoreNameWarning ≠ some n.key) ∧
          n.warning d.firstNames d.lastName = shown) ∧
      (∀ a, r.ageWarning = some a ↔
        d.ageWarning? today = some a ∧ (errors.any = true ∨ d.ignoreAgeWarning ≠ some a.code)) ∧
      (r.errors.any = false → ∀ (c' : Call) (m' : Memory), (d.acknowledging r).Sent c' m' →
        c'.surroundings.today = today → c'.surroundings.isEmail = c.surroundings.isEmail → c'.opened m' = l →
        IsTaken (c'.run m').1.result)) ∧
    ∀ n n', d.namesake? l = some n → n' ≠ n → d.ignoreNameWarning = some n'.key → ¬IsTaken result := by
  intro l today errors result
  have taken_iff : IsTaken result ↔ d.Passes today c.surroundings.isEmail l := sent.isTaken_iff
  refine ⟨taken_iff.trans ⟨fun h => ⟨h.valid, h.name, h.age⟩, fun ⟨valid, name, age⟩ => ⟨valid, name, age⟩⟩, ?_, ?_⟩
  · intro refused
    rw [taken_iff, ← rejection?_eq_none_iff, ← ne_eq, Option.ne_none_iff_exists'] at refused
    obtain ⟨r, hr⟩ := refused
    obtain ⟨hresult, hafter⟩ := sent.result_of_rejected hr
    obtain ⟨herrors, hname, hage⟩ := eq_of_rejection? hr
    refine ⟨r, hresult, hafter, herrors, ?_, ?_, ?_⟩
    · intro shown
      rw [hname]
      exact pendingNameWarning_eq_some_iff
    · intro a
      rw [hage]
      exact pendingAgeWarning_eq_some_iff
    · intro valid c' m' again sameDay sameRule sameLpa
      have passes := passes_acknowledging hr valid
      rw [again.isTaken_iff, sameDay, sameRule, sameLpa]
      exact passes
  · intro n n' found other key
    rw [taken_iff]
    exact not_passes_of_other found other key

/-- A replacement attorney who bears the donor's name and is under age comes back where a key of somebody else was sent,
    and is taken with the key and the code that came back. -/
theorem warning_protocol_of_replacement :
    let other : Namesake := ⟨.attorney, .donor, ""⟩
    let d := actor .replacement none
      { firstNames := "Ann", lastName := "Smith", email := "ann@example.org"
        birth := { day := "1", month := "2", year := "2020" }, ignoreNameWarning := some other.key }
    let m := sequential [Submission.call (.donor "Ann" "Smith") "session"]
    ∃ r, ((d.submission.call "session").run m).1.result = .ok (.invalid r) ∧ r.nameWarning.isSome = true ∧
      r.ageWarning = some .attorneyUnder18 ∧
      IsTaken (((d.acknowledging r).submission.call "session").run m).1.result := by
  intro other d m
  have sent : d.Sent (d.submission.call "session") m := ⟨rfl, Submission.opens_call _ _ _, fun _ => by decide +kernel⟩
  have found : d.namesake? ((d.submission.call "session").opened m) = some ⟨.replacement, .donor, ""⟩ := by
    decide +kernel
  have under : d.ageWarning? Surroundings.plain.today = some .attorneyUnder18 := by decide +kernel
  have valid : (d.errors Surroundings.plain.today Email.isValid).any = false := by decide +kernel
  obtain ⟨-, refused, unhelpful⟩ := warning_protocol sent
  obtain ⟨r, hresult, -, herrors, hname, hage, again⟩ := refused (unhelpful _ other found (by decide) rfl)
  refine ⟨r, hresult, ?_, ?_, ?_⟩
  · rw [(hname _).2 ⟨_, found, .inr (by decide +kernel), rfl⟩]
    rfl
  · exact (hage _).2 ⟨under, .inr nofun⟩
  · have resent : (d.acknowledging r).Sent ((d.acknowledging r).submission.call "session") m :=
      ⟨rfl, Submission.opens_call _ _ _, sent.mints⟩
    exact again (herrors ▸ valid) _ m resent rfl rfl rfl

end Details
end PowerOfAttorney.Wizard
