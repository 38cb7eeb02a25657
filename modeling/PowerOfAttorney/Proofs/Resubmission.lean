import PowerOfAttorney.Proofs.FormRules
import PowerOfAttorney.Proofs.Rosters
import PowerOfAttorney.Proofs.TaskStates
import PowerOfAttorney.Proofs.Warnings

/-! Sending in what is stored changes nothing. What is stored keeps to the rules of the forms, so it passes them again;
    a date is read back from its boxes, and a choice from its word; the actor stays where it stands; and a section that
    has somebody in it was started and is settled already, so that settling it again leaves it as it is
    (`Details.Stored.stores`). -/

namespace PowerOfAttorney

open Form Wizard

/-! ### Settling what is settled -/

namespace TaskState
variable {x : TaskState} {complete : Bool}

theorem settle_eq_self (started : x ≠ .notStarted) (h : x = .completed ↔ complete = true) : settle complete = x := by
  cases x with
  | notStarted => exact absurd rfl started
  | inProgress =>
    have incomplete : complete = false := Bool.eq_false_iff.2 fun hc => nomatch h.2 hc
    rw [incomplete, settle, if_neg Bool.false_ne_true]
  | completed => rw [settle, if_pos (h.1 rfl)]

/-- A section that has been settled is no longer at its start, whatever is said of those that are. -/
theorem elim_settle {p : Prop} (h : settle complete = .notStarted) : p := absurd h settle_ne_notStarted

theorem reevaluate_eq_self (h : x = .completed ↔ complete = true) : reevaluate complete x = x := by
  cases x with
  | notStarted => rfl
  | inProgress => exact settle_eq_self nofun h
  | completed => exact settle_eq_self nofun h

end TaskState

namespace Tasks
variable {t : Tasks} {s : Section} {complete : Bool}

theorem set_get_self (t : Tasks) (s : Section) : t.set s (t.get s) = t := by
  cases s <;> rfl

theorem settle_eq_self (started : t.get s ≠ .notStarted) (h : t.get s = .completed ↔ complete = true) :
    t.settle s complete = t := by
  rw [settle, TaskState.settle_eq_self started h, set_get_self]

theorem reevaluate_eq_self (h : t.get s = .completed ↔ complete = true) : t.reevaluate s complete = t := by
  rw [reevaluate, TaskState.reevaluate_eq_self h, set_get_self]

end Tasks

namespace Settled
variable {l : Lpa}

theorem settleAttorneys_eq_self (h : Settled l) {role : AttorneyRole} (started : l.tasks.get role.task ≠ .notStarted) :
    l.settleAttorneys role = l := by
  unfold Lpa.settleAttorneys
  cases role with
  | primary =>
    have settled : l.tasks.settle .chooseAttorneys l.attorneysComplete = l.tasks :=
      Tasks.settle_eq_self started h.attorneys
    dsimp only
    rw [settled, Tasks.reevaluate_eq_self h.replacements]
  | replacement =>
    have settled : l.tasks.settle .chooseReplacements l.replacementsComplete = l.tasks :=
      Tasks.settle_eq_self started h.replacements
    dsimp only
    rw [settled, Tasks.reevaluate_eq_self h.attorneys]

theorem settlePeople_eq_self (h : Settled l) (started : l.tasks.get .peopleToNotify ≠ .notStarted) :
    l.settlePeople = l := by
  rw [Lpa.settlePeople, Tasks.settle_eq_self started h.people]

theorem settleProvider_eq_self (h : Settled l) (started : l.tasks.get .certificateProvider ≠ .notStarted) :
    l.settleProvider = l := by
  rw [Lpa.settleProvider, Tasks.settle_eq_self started h.provider]

end Settled

/-! ### Sections with somebody in them were started -/

/-- Nobody is in a section that was not started. Of the attorneys `Settled` says so already. -/
structure Begun (l : Lpa) : Prop where
  replacements : l.tasks.get .chooseReplacements = .notStarted → l.replacements = {}
  people : l.tasks.get .peopleToNotify = .notStarted → l.peopleToNotify = {}
  provider : l.tasks.get .certificateProvider = .notStarted → l.certificateProvider = {}

namespace Begun
variable {l l' : Lpa}

theorem empty (id : String) (version : Nat) : Begun { Lpa.empty id with version } :=
  ⟨fun _ => rfl, fun _ => rfl, fun _ => rfl⟩

/-- Sections only go on, so that a write is to say what it does to those that are not started after it. -/
theorem of_onward (h : Begun l) (onward : l.tasks.Onward l'.tasks)
    (replacements : l'.tasks.get .chooseReplacements = .notStarted → l'.replacements = l.replacements)
    (people : l'.tasks.get .peopleToNotify = .notStarted → l'.peopleToNotify = l.peopleToNotify)
    (provider : l'.tasks.get .certificateProvider = .notStarted → l'.certificateProvider = l.certificateProvider) :
    Begun l' where
  replacements hs := (replacements hs).trans (h.replacements (not_not.1 fun started => onward _ started hs))
  people hs := (people hs).trans (h.people (not_not.1 fun started => onward _ started hs))
  provider hs := (provider hs).trans (h.provider (not_not.1 fun started => onward _ started hs))

/-- A write to the attorneys of a role leaves everybody else alone. -/
theorem settleAttorneys (h : Begun l) {role : AttorneyRole} (onward : l.tasks.Onward (l'.settleAttorneys role).tasks)
    (replacements : role = .primary → l'.replacements = l.replacements)
    (people : l'.peopleToNotify = l.peopleToNotify) (provider : l'.certificateProvider = l.certificateProvider) :
    Begun (l'.settleAttorneys role) := by
  refine h.of_onward onward (fun hs => ?_) (fun _ => people) fun _ => provider
  cases role with
  | primary => exact replacements rfl
  | replacement => exact TaskState.elim_settle hs

theorem withAttorneys (h : Begun l) (role : AttorneyRole) {rest : Roster Attorney}
    (onward : l.tasks.Onward ((l.withAttorneys role rest).settleAttorneys role).tasks) :
    Begun ((l.withAttorneys role rest).settleAttorneys role) := by
  refine h.settleAttorneys onward ?_ ?_ ?_
  · rintro rfl
    rfl
  · cases role <;> rfl
  · cases role <;> rfl

theorem giveAddress (h : Begun l) {t : AddressTarget} {a : Address}
    (onward : l.tasks.Onward (t.settle (t.set a l)).tasks) : Begun (t.settle (t.set a l)) := by
  cases t with
  | donor => exact h.of_onward onward (fun _ => rfl) (fun _ => rfl) fun _ => rfl
  | certificateProvider => exact h.of_onward onward (fun _ => rfl) (fun _ => rfl) TaskState.elim_settle
  | actor c id =>
    cases c with
    | attorneys => exact h.withAttorneys .primary onward
    | replacements => exact h.withAttorneys .replacement onward
    | peopleToNotify => exact h.of_onward onward (fun _ => rfl) TaskState.elim_settle fun _ => rfl

theorem stores {w : Surroundings} {op : Operation} {r : Reply} (h : Begun l) (hs : Stores w l op l' r) : Begun l' := by
  have onward := hs.onward
  cases hs with
  | attorneyEdited => exact h.withAttorneys _ onward
  | attorneyAdded => exact h.withAttorneys _ onward
  | @attorneyRemoved role id f found confirmed =>
    refine h.settleAttorneys onward ?_ ?_ ?_
    · rintro rfl
      exact Lpa.prune_replacements _
    · rw [Lpa.prune_peopleToNotify]
      cases role <;> rfl
    · rw [Lpa.prune_certificateProvider]
      cases role <;> rfl
  | attorneysArranged => exact h.settleAttorneys onward (fun _ => rfl) rfl rfl
  | replacementsArranged => exact h.settleAttorneys onward nofun rfl rfl
  | replacementsWanted => exact h.settleAttorneys onward nofun rfl rfl
  | replacementsDeclined => exact h.settleAttorneys onward nofun rfl rfl
  | stepInChosen => exact h.settleAttorneys onward nofun rfl rfl
  | providerFilledIn => exact h.of_onward onward (fun _ => rfl) (fun _ => rfl) TaskState.elim_settle
  | addressGiven => exact h.giveAddress onward
  | notifying => exact h.of_onward onward (fun _ => rfl) TaskState.elim_settle fun _ => rfl
  | notifyingNobody => exact h.of_onward onward (fun _ => rfl) nofun fun _ => rfl
  | personEdited => exact h.of_onward onward (fun _ => rfl) TaskState.elim_settle fun _ => rfl
  | personAdded => exact h.of_onward onward (fun _ => rfl) TaskState.elim_settle fun _ => rfl
  | personRemoved => exact h.of_onward onward (fun _ => rfl) TaskState.elim_settle fun _ => rfl
  | _ => exact h.of_onward onward (fun _ => rfl) (fun _ => rfl) fun _ => rfl

theorem version (h : Begun l) (version : Nat) : Begun { l with version } := { h with }

end Begun

/-! ### What is stored passes its checks -/

section
variable {r : TextRule} {limit : Nat} {isEmail : String → Bool} {s : String}

theorem check_of_isGiven (hlimit : r.limit = some limit) (haddress : r.address = none) (h : IsGiven limit s) :
    r.check s = none := by
  rw [TextRule.check_eq_none_iff_of_address haddress, hlimit]
  refine ⟨fun _ => h.ne_empty, ?_⟩
  rintro _ ⟨⟩
  exact h.short

theorem check_of_properEmail (hlimit : r.limit = none) (haddress : r.address = some isEmail)
    (h : ProperEmail isEmail s) : r.check s = none := by
  rw [TextRule.check_eq_none_iff, if_neg h.ne_empty, hlimit, haddress]
  refine ⟨nofun, ?_⟩
  rintro _ ⟨⟩
  exact h.valid

theorem check_of_optionalEmail (h : s = "" ∨ ProperEmail isEmail s) : (optionalEmailRule isEmail).check s = none := by
  rcases h with rfl | h
  · rfl
  · exact check_of_properEmail rfl rfl h

theorem check_of_mobile (h : s ≠ "") : mobileRule.check s = none := by
  rw [TextRule.check_eq_none_iff_of_address rfl]
  exact ⟨fun _ => h, nofun⟩

/-- The names that every form of an actor begins with pass, so that it is the rest that is to be seen to. -/
theorem any_check_of_names {firstNames lastName : String} (h : ProperNames firstNames lastName)
    {rest : List (TextRule × String)} (hrest : ∀ c ∈ rest, c.1.check c.2 = none) :
    (ErrorList.check ((firstNamesRule, firstNames) :: (lastNameRule, lastName) :: rest)).any = false := by
  rw [ErrorList.any_check, List.forall_mem_cons, List.forall_mem_cons]
  exact ⟨check_of_isGiven rfl rfl h.firstNames, check_of_isGiven rfl rfl h.lastName, hrest⟩

end

/-! ### Forms filled in with what is stored -/

/-- Of the two ways to know the donor, each with what is stored beside it. -/
theorem CertificateProvider.Proper.related {isEmail : String → Bool} {day : Date} {p : CertificateProvider}
    (h : p.Proper isEmail day) :
    (p.relationship = some .professionally ∧ Text.trim p.relationshipDescription = p.relationshipDescription ∧
      p.relationshipDescription ≠ "" ∧ p.acquaintance = none) ∨
    (p.relationship = some .personally ∧ p.relationshipDescription = "" ∧ p.acquaintance = some .twoYearsOrMore) := by
  obtain ⟨relationship, hr⟩ := Option.isSome_iff_exists.1 h.relationship
  cases relationship with
  | professionally => exact .inl ⟨hr, h.professionally hr⟩
  | personally => exact .inr ⟨hr, h.personally hr⟩

namespace Form
variable {isEmail : String → Bool} {today : Date}

/-- The boxes of a day of birth that is stored. -/
def birthBoxes (birth : Option Date) : DateBoxes := (birth.map DateBoxes.ofDate).getD {}

theorem pastError?_birthBoxes {birth : Option Date} (label : String) (h : BornBefore today birth) :
    (birthBoxes birth).pastError? label today = none := by
  obtain ⟨d, rfl, past⟩ := h
  exact DateBoxes.pastError?_ofDate label (Int.not_le.2 past)

theorem date?_birthBoxes {birth : Option Date} (h : BornBefore today birth) : (birthBoxes birth).date? = birth := by
  obtain ⟨d, rfl, -⟩ := h
  exact DateBoxes.date?_ofDate d

/-- The form of an attorney as it is filled in to be changed. -/
def ActorDetails.ofAttorney (a : Attorney) : ActorDetails :=
  { firstNames := a.firstNames, lastName := a.lastName, email := a.email, birth := birthBoxes a.birth }

/-- The form of a person to notify as it is filled in to be changed. -/
def PersonDetails.ofPerson (p : PersonToNotify) : PersonDetails :=
  { firstNames := p.firstNames, lastName := p.lastName, email := p.email }

/-- The form of the certificate provider as it is filled in to be changed. -/
def ProviderDetails.ofProvider (p : CertificateProvider) : ProviderDetails :=
  { firstNames := p.firstNames, lastName := p.lastName, email := p.email, mobile := p.mobile
    birth := birthBoxes p.birth
    relationship := (p.relationship.map wordOf).getD ""
    relationshipDescription := p.relationshipDescription
    acquaintance := (p.acquaintance.map wordOf).getD "" }

theorem ActorDetails.trimmed_ofAttorney {a : Attorney} (h : a.Proper isEmail today) :
    (ofAttorney a).trimmed = ofAttorney a := by
  simp only [trimmed, ofAttorney, h.names.firstNames.trimmed, h.names.lastName.trimmed, h.email.trimmed]

theorem ActorDetails.valid_ofAttorney {a : Attorney} (h : a.Proper isEmail today) :
    ((ofAttorney a).trimmed.errors today isEmail).any = false := by
  have email : (emailRule isEmail).check a.email = none := check_of_properEmail rfl rfl h.email
  rw [trimmed_ofAttorney h, errors, addBirth, ErrorList.any_addAny]
  exact ⟨any_check_of_names h.names (List.forall_mem_singleton.2 email), pastError?_birthBoxes _ h.birth⟩

theorem ActorDetails.fill_ofAttorney {a : Attorney} (h : a.Proper isEmail today) : (ofAttorney a).trimmed.fill a = a := by
  rw [trimmed_ofAttorney h, fill, ofAttorney, date?_birthBoxes h.birth]

theorem PersonDetails.trimmed_ofPerson {p : PersonToNotify} (h : p.Proper isEmail) :
    (ofPerson p).trimmed = ofPerson p := by
  simp only [trimmed, ofPerson, h.names.firstNames.trimmed, h.names.lastName.trimmed, h.email.trimmed]

theorem PersonDetails.valid_ofPerson {p : PersonToNotify} (h : p.Proper isEmail) :
    ((ofPerson p).trimmed.errors isEmail).any = false := by
  have email : (emailRule isEmail).check p.email = none := check_of_properEmail rfl rfl h.email
  rw [trimmed_ofPerson h, errors]
  exact any_check_of_names h.names (List.forall_mem_singleton.2 email)

theorem PersonDetails.fill_ofPerson {p : PersonToNotify} (h : p.Proper isEmail) : (ofPerson p).trimmed.fill p = p := by
  rw [trimmed_ofPerson h, fill, ofPerson]

theorem ProviderDetails.trimmed_ofProvider {p : CertificateProvider} (h : p.Proper isEmail today) :
    (ofProvider p).trimmed = ofProvider p := by
  have email : Text.trim p.email = p.email := by
    rcases h.email with hempty | given
    · rw [hempty]
      rfl
    · exact given.trimmed
  have description : Text.trim p.relationshipDescription = p.relationshipDescription := by
    rcases h.related with ⟨-, trimmed, -, -⟩ | ⟨-, undescribed, -⟩
    · exact trimmed
    · rw [undescribed]
      rfl
  simp only [trimmed, ofProvider, h.names.firstNames.trimmed, h.names.lastName.trimmed, h.mobile.1, email, description]

/-- What is asked about the relationship is what is stored beside it. -/
theorem ProviderDetails.any_addRelationship_ofProvider {p : CertificateProvider} (h : p.Proper isEmail today)
    {l : ErrorList} (hl : l.any = false) : (addRelationship l (ofProvider p)).any = false := by
  rcases h.related with ⟨hr, trimmed, given, -⟩ | ⟨hr, -, known⟩
  · simp only [addRelationship, ofProvider, hr, Option.map_some, Option.getD_some, ofWord?_wordOf]
    exact ErrorList.any_requireText.2 ⟨hl, Text.allBlank_of_trimmed trimmed given⟩
  · simp only [addRelationship, ofProvider, hr, known, Option.map_some, Option.getD_some, ofWord?_wordOf]
    exact hl

theorem ProviderDetails.valid_ofProvider {p : CertificateProvider} (h : p.Proper isEmail today) :
    ((ofProvider p).trimmed.errors today isEmail).any = false := by
  rw [trimmed_ofProvider h, errors]
  refine any_addRelationship_ofProvider h ?_
  have mobile : mobileRule.check p.mobile = none := check_of_mobile h.mobile.2
  have email : (optionalEmailRule isEmail).check p.email = none := check_of_optionalEmail h.email
  rw [addBirth, ErrorList.any_addAny]
  refine ⟨any_check_of_names h.names ?_, pastError?_birthBoxes _ h.birth⟩
  exact List.forall_mem_cons.2 ⟨mobile, List.forall_mem_singleton.2 email⟩

/-- Of the description and the length, the one that does not go with the relationship is empty already. -/
theorem ProviderDetails.fill_ofProvider {p : CertificateProvider} (h : p.Proper isEmail today) :
    (ofProvider p).trimmed.fill p = p := by
  rw [trimmed_ofProvider h]
  rcases h.related with ⟨hr, -, -, unknown⟩ | ⟨hr, undescribed, known⟩
  · simp only [fill, ofProvider, date?_birthBoxes h.birth, hr, Option.map_some, Option.getD_some, ofWord?_wordOf,
      if_true, reduceCtorEq, Option.some.injEq, if_false]
    rw [← hr, ← unknown]
  · simp only [fill, ofProvider, date?_birthBoxes h.birth, hr, known, Option.map_some, Option.getD_some, ofWord?_wordOf,
      if_true, reduceCtorEq, Option.some.injEq, if_false]
    rw [← hr, ← undescribed, ← known]

end Form

/-! ### Sending them in -/

namespace Wizard.Details
variable {l : Lpa} {d : Details} {w : Surroundings} {today : Date} {isEmail : String → Bool}

/-- Details filled in with what is stored of somebody. The certificate provider is somebody once there is a name. -/
inductive Stored (l : Lpa) : Details → Prop
  | attorney {role : AttorneyRole} {a : Attorney} (mem : a ∈ (l.attorneysOf role).members) :
      Stored l (.actor role (some a.id) (.ofAttorney a))
  | person {p : PersonToNotify} (mem : p ∈ l.peopleToNotify.members) : Stored l (.person (some p.id) (.ofPerson p))
  | provider (named : l.certificateProvider.firstNames ≠ "" ∨ l.certificateProvider.lastName ≠ "") :
      Stored l (.provider (.ofProvider l.certificateProvider))

/-- The same details, sent along with what acknowledges each warning that they are worth now. -/
def heeding (today : Date) (l : Lpa) (d : Details) : Details :=
  d.sending ((d.namesake? l).map (·.key)) ((d.ageWarning? today).map (·.code))

/-- All that is said of an LPA that was reached by a day under a rule for e-mail addresses. -/
structure Sound (isEmail : String → Bool) (today : Date) (l : Lpa) : Prop where
  proper : l.Proper isEmail today
  distinct : l.Distinct
  settled : Settled l
  begun : Begun l

theorem Sound.started_attorneys (sound : Sound isEmail today l) {role : AttorneyRole} {a : Attorney}
    (mem : a ∈ (l.attorneysOf role).members) : l.tasks.get role.task ≠ .notStarted := by
  intro hs
  cases role with
  | primary =>
    have nobody : l.attorneys.members = [] := List.isEmpty_iff.1 (sound.settled.nobody hs)
    rw [Lpa.attorneysOf, nobody] at mem
    cases mem
  | replacement =>
    rw [Lpa.attorneysOf, sound.begun.replacements hs] at mem
    cases mem

theorem proper_of_named (proper : l.Proper isEmail today)
    (named : l.certificateProvider.firstNames ≠ "" ∨ l.certificateProvider.lastName ≠ "") :
    l.certificateProvider.Proper isEmail today := by
  refine proper.provider.resolve_left fun unfilled => ?_
  rw [unfilled] at named
  rcases named with named | named <;> exact named rfl

theorem Stored.valid (stored : d.Stored l) (proper : l.Proper isEmail today) :
    (d.errors today isEmail).any = false := by
  cases stored with
  | attorney mem => exact ActorDetails.valid_ofAttorney (proper.attorneysOf _ _ mem)
  | person mem => exact PersonDetails.valid_ofPerson (proper.people _ mem)
  | provider named => exact ProviderDetails.valid_ofProvider (proper_of_named proper named)

theorem Stored.accepted (stored : d.Stored l) (proper : l.Proper isEmail today) :
    (d.heeding today l).rejection? today isEmail l = none := by
  rw [rejection?_eq_none_iff]
  refine passes_sending (stored.valid proper) (fun n hn => ?_) fun a ha => ?_
  · rw [hn]
    rfl
  · rw [ha]
    rfl

theorem Sound.stores_attorney (sound : Sound w.isEmail w.today l) {role : AttorneyRole} {a : Attorney}
    (mem : a ∈ (l.attorneysOf role).members) {f : ActorDetails} (fill : f.trimmed.fill a = a)
    (accepted : (actor role (some a.id) f).rejection? w.today w.isEmail l = none) :
    ∃ next, Stores w l (.submit (.actorDetails role (some a.id) f)) l (.redirect next) := by
  obtain ⟨before, after, hat⟩ := Roster.at_of_mem (distinct_attorneysOf sound.distinct role) mem
  have found : (some a.id).bind (l.attorneysOf role).get? = some a := hat.get?
  have unrejected : f.trimmed.rejection? w.today w.isEmail role
      (((some a.id).bind (l.attorneysOf role).get?).map (·.id)) l = none := accepted
  rw [found] at unrejected
  have stores := Stores.attorneyEdited found unrejected
  rw [fill, hat.put_self, Lpa.withAttorneys_attorneysOf,
    sound.settled.settleAttorneys_eq_self (sound.started_attorneys mem)] at stores
  exact ⟨_, stores⟩

theorem Sound.stores_person (sound : Sound w.isEmail w.today l) {p : PersonToNotify} (mem : p ∈ l.peopleToNotify.members)
    {f : PersonDetails} (fill : f.trimmed.fill p = p)
    (accepted : (person (some p.id) f).rejection? w.today w.isEmail l = none) :
    ∃ next, Stores w l (.submit (.personDetails (some p.id) f)) l (.redirect next) := by
  obtain ⟨before, after, hat⟩ := Roster.at_of_mem (sound.distinct .peopleToNotify) mem
  have found : (some p.id).bind l.peopleToNotify.get? = some p := hat.get?
  have unrejected : f.trimmed.rejection? w.isEmail (((some p.id).bind l.peopleToNotify.get?).map (·.id)) l = none :=
    accepted
  rw [found] at unrejected
  have started : l.tasks.get .peopleToNotify ≠ .notStarted := by
    intro hs
    rw [sound.begun.people hs] at mem
    cases mem
  have stores := Stores.personEdited (w := w) found unrejected
  rw [fill, hat.put_self, sound.settled.settlePeople_eq_self started] at stores
  exact ⟨_, stores⟩

theorem Sound.stores_provider (sound : Sound w.isEmail w.today l)
    (named : l.certificateProvider.firstNames ≠ "" ∨ l.certificateProvider.lastName ≠ "") {f : ProviderDetails}
    (fill : f.trimmed.fill l.certificateProvider = l.certificateProvider)
    (accepted : (provider f).rejection? w.today w.isEmail l = none) :
    ∃ next, Stores w l (.submit (.providerDetails f)) l (.redirect next) := by
  have started : l.tasks.get .certificateProvider ≠ .notStarted := by
    intro hs
    rw [sound.begun.provider hs] at named
    rcases named with named | named <;> exact named rfl
  have stores : Stores w l (.submit (.providerDetails f)) _ _ := .providerFilledIn accepted
  rw [fill, sound.settled.settleProvider_eq_self started] at stores
  exact ⟨_, stores⟩

/-- What is stored of somebody, and is sent in with what acknowledges the warnings, is stored again. -/
theorem Stored.stores (stored : d.Stored l) (sound : Sound w.isEmail w.today l) :
    ∃ next, Stores w l (.submit (d.heeding w.today l).submission) l (.redirect next) := by
  have accepted := stored.accepted sound.proper
  cases stored with
  | attorney mem =>
    have proper := sound.proper.attorneysOf _ _ mem
    exact sound.stores_attorney mem (ActorDetails.fill_ofAttorney proper) accepted
  | person mem => exact sound.stores_person mem (PersonDetails.fill_ofPerson (sound.proper.people _ mem)) accepted
  | provider named =>
    have proper := proper_of_named sound.proper named
    exact sound.stores_provider named (ProviderDetails.fill_ofProvider proper) accepted

theorem Sound.of_reached {m : Memory} {session : String}
    (hr : Reached (fun c _ => c.session = session → c.KeepsTo isEmail today) m) (h : m.find? session = some l) :
    Sound isEmail today l := by
  refine hr.induct (fun id version => ?_) (fun c l l' r hsession keeps hl hs => ?_) h
  · exact ⟨.empty id version, .empty id version, .empty id version, .empty id version⟩
  · obtain ⟨rfl, hday⟩ := keeps hsession
    have proper := hl.proper.stores hday hs
    have distinct := hl.distinct.stores hs
    have settled := hl.settled.stores hs
    have begun := hl.begun.stores hs
    exact ⟨proper.version _, distinct.version _, settled.version _, begun.version _⟩

/-- Whoever opens the details of an attorney, a replacement attorney, a person to notify or the named certificate provider
    of a reached LPA, and sends them in as they are with what acknowledges the warnings of the day, changes nothing but
    the version, as long as no call of the session was of a later day or went by another rule for e-mail addresses. -/
theorem resubmission_keeps {m : Memory} {session : String}
    (hr : Reached (fun c _ => c.session = session → c.KeepsTo isEmail today) m) (h : m.find? session = some l)
    (stored : d.Stored l) {c : Call} (hsession : c.session = session) (opens : c.Opens m)
    (hday : c.surroundings.today = today) (hrule : c.surroundings.isEmail = isEmail)
    (sent : c.operation = .submit (d.heeding today l).submission) :
    ∃ next, (c.run m).1.result = .ok (.redirect next) ∧
      (c.run m).2 = m.insert session { l with version := l.version + 1 } := by
  subst hsession hday hrule
  obtain ⟨next, stores⟩ := stored.stores (w := c.surroundings) (.of_reached hr h)
  rw [Call.run_of_opens opens, Call.decision, Call.opened_of_find? h, sent, Decision.outcome, Decision.result,
    Decision.after, decide_eq_save_iff.2 stores]
  exact ⟨next, rfl, rfl⟩

/-- An attorney who bears the donor's name and is under age. -/
theorem resubmission_keeps_of_namesake :
    let form := fun s => Submission.call s "session"
    let m := sequential [form (.donor "Ann" "Smith"), form (.actorDetails .primary none
      { firstNames := "Ann", lastName := "Smith", email := "ann@example.org"
        birth := { day := "01", month := "2", year := "2020" }
        ignoreNameWarning := some "attorney:donor:", ignoreAgeWarning := some "attorneyDateOfBirthIsUnder18" })]
    ∃ l a, m.find? "session" = some l ∧ l.attorneys.members = [a] ∧
      let d := Details.actor .primary (some a.id) (.ofAttorney a)
      let again := form (d.heeding Surroundings.plain.today l).submission
      (d.namesake? l).isSome = true ∧ (d.ageWarning? Surroundings.plain.today).isSome = true ∧
      (again.run m).2.find? "session" = some { l with version := l.version + 1 } := by
  intro form m
  have reached : Reached (fun c _ => c.session = "session" → c.KeepsTo Email.isValid Surroundings.plain.today) m := by
    refine reached_sequential fun c hc l _ => ?_
    simp only [List.mem_cons, List.not_mem_nil, or_false] at hc
    rcases hc with rfl | rfl <;> exact ⟨rfl, Date.le_refl _⟩
  let warned := fun (l : Lpa) (a : Attorney) =>
    ((Details.actor .primary (some a.id) (.ofAttorney a)).namesake? l).isSome &&
      ((Details.actor .primary (some a.id) (.ofAttorney a)).ageWarning? Surroundings.plain.today).isSome
  have found : (m.find? "session").any (fun l => l.attorneys.size == 1 && l.attorneys.members.all (warned l)) = true := by
    decide +kernel
  obtain ⟨l, hl, hfound⟩ := (Option.any_eq_true _ _).1 found
  rw [Bool.and_eq_true, beq_iff_eq, List.all_eq_true] at hfound
  obtain ⟨one, hwarned⟩ := hfound
  obtain ⟨a, ha⟩ := List.length_eq_one_iff.1 one
  have mem : a ∈ l.attorneys.members := ha ▸ List.mem_singleton_self a
  obtain ⟨namesake, age⟩ := Bool.and_eq_true_iff.1 (hwarned a mem)
  refine ⟨l, a, hl, ha, namesake, age, ?_⟩
  have stored : (Details.actor .primary (some a.id) (.ofAttorney a)).Stored l := .attorney mem
  obtain ⟨next, -, hafter⟩ := resubmission_keeps reached hl stored rfl (Submission.opens_call _ _ m) rfl rfl rfl
  rw [hafter]
  exact Memory.find?_insert_self _ _ _

end Wizard.Details

end PowerOfAttorney
