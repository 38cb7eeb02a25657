import PowerOfAttorney.Proofs.FormRules
import PowerOfAttorney.Proofs.Rosters
import PowerOfAttorney.Proofs.Warnings

/-! Who bears which name. All actors stand in one line-up, in the order in which a name is looked for, and the search
    passes over nobody but the actor who is being edited (`Namesake.find?_eq_lineUp`). So where no warning is
    acknowledged, details that are taken give an actor a name that no other has (`Bearer.Apart.put_found`,
    `put_missing`), and nothing but these and the donor's own details gives anybody a name. -/

namespace PowerOfAttorney

open Form Wizard

/-- An actor as far as the name goes. The donor and the certificate provider have no id. -/
structure Bearer where
  kind : ActorKind
  id : String := ""
  firstNames : String
  lastName : String
deriving DecidableEq, Repr

namespace Bearer

def isNamed (b : Bearer) : Bool := b.firstNames != "" || b.lastName != ""

/-- Whether two actors have the same first names and the same last name. -/
def SameName (b c : Bearer) : Prop := b.firstNames = c.firstNames ∧ b.lastName = c.lastName

instance (b c : Bearer) : Decidable (b.SameName c) := inferInstanceAs (Decidable (_ ∧ _))

theorem SameName.symm {b c : Bearer} (h : b.SameName c) : c.SameName b := ⟨h.1.symm, h.2.symm⟩

def ofDonor (d : Donor) : Bearer := { kind := .donor, firstNames := d.firstNames, lastName := d.lastName }

def ofAttorney (role : AttorneyRole) (a : Attorney) : Bearer :=
  { kind := role.collection.kind, id := a.id, firstNames := a.firstNames, lastName := a.lastName }

def ofProvider (p : CertificateProvider) : Bearer :=
  { kind := .certificateProvider, firstNames := p.firstNames, lastName := p.lastName }

def ofPerson (p : PersonToNotify) : Bearer :=
  { kind := .personToNotify, id := p.id, firstNames := p.firstNames, lastName := p.lastName }

/-! ### Names that are all different -/

/-- No two of those who have a name have the same one. -/
def Apart (line : List Bearer) : Prop := (line.filter isNamed).Pairwise fun b c => ¬b.SameName c

variable {xs ys : List Bearer} {b : Bearer}

theorem Apart.sublist (h : Apart ys) (hs : xs.Sublist ys) : Apart xs := List.Pairwise.sublist (hs.filter _) h

/-- Someone may join, wherever in the line, under a name that no other has. -/
theorem Apart.insert (h : Apart (xs ++ ys)) (other : ∀ c ∈ xs ++ ys, ¬c.SameName b) : Apart (xs ++ b :: ys) := by
  unfold Apart at h ⊢
  rw [List.pairwise_filter] at h ⊢
  rw [List.pairwise_middle fun hbc hc hb same => hbc hb hc same.symm]
  exact List.Pairwise.cons (fun c hc _ _ same => other c hc same.symm) h

end Bearer

open Bearer (Apart)

/-! ### The line-up -/

namespace Lpa
variable (l : Lpa)

/-- All actors, in the order in which a name is looked for. -/
def lineUp : List Bearer :=
  .ofDonor l.donor :: (l.attorneys.members.map (.ofAttorney .primary) ++
    (l.replacements.members.map (.ofAttorney .replacement) ++
      .ofProvider l.certificateProvider :: l.peopleToNotify.members.map .ofPerson))

/-- Those who stand before the actors of a collection. -/
def ahead : Collection → List Bearer
  | .attorneys => [.ofDonor l.donor]
  | .replacements => .ofDonor l.donor :: l.attorneys.members.map (.ofAttorney .primary)
  | .peopleToNotify =>
    .ofDonor l.donor :: (l.attorneys.members.map (.ofAttorney .primary) ++
      (l.replacements.members.map (.ofAttorney .replacement) ++ [.ofProvider l.certificateProvider]))

/-- Those who stand behind the actors of a collection. -/
def behind : Collection → List Bearer
  | .attorneys =>
    l.replacements.members.map (.ofAttorney .replacement) ++
      .ofProvider l.certificateProvider :: l.peopleToNotify.members.map .ofPerson
  | .replacements => .ofProvider l.certificateProvider :: l.peopleToNotify.members.map .ofPerson
  | .peopleToNotify => []

theorem lineUp_withAttorneys (role : AttorneyRole) (r : Roster Attorney) :
    (l.withAttorneys role r).lineUp =
      l.ahead role.collection ++ (r.members.map (.ofAttorney role) ++ l.behind role.collection) := by
  cases role with
  | primary => rfl
  | replacement => simp [lineUp, withAttorneys, ahead, behind, AttorneyRole.collection]

theorem lineUp_withPeople (r : Roster PersonToNotify) :
    lineUp { l with peopleToNotify := r } =
      l.ahead .peopleToNotify ++ (r.members.map .ofPerson ++ l.behind .peopleToNotify) := by
  simp [lineUp, ahead, behind]

theorem lineUp_of_role (role : AttorneyRole) : l.lineUp =
    l.ahead role.collection ++ ((l.attorneysOf role).members.map (.ofAttorney role) ++ l.behind role.collection) := by
  rw [← lineUp_withAttorneys, withAttorneys_attorneysOf]

/-- Outside their collection there is nobody of the kind of its actors. -/
theorem kind_of_outside {c : Collection} {b : Bearer} (h : b ∈ l.ahead c ++ l.behind c) : b.kind ≠ c.kind := by
  cases c <;> simp only [ahead, behind, List.mem_append, List.mem_cons, List.mem_map, List.not_mem_nil, or_false] at h
  case attorneys =>
    rcases h with rfl | ⟨_, _, rfl⟩ | rfl | ⟨_, _, rfl⟩ <;> nofun
  case replacements =>
    rcases h with (rfl | ⟨_, _, rfl⟩) | rfl | ⟨_, _, rfl⟩ <;> nofun
  case peopleToNotify =>
    rcases h with rfl | ⟨_, _, rfl⟩ | ⟨_, _, rfl⟩ | rfl <;> nofun

end Lpa

/-! ### The search -/

namespace Namesake

theorem map_find?_cons {α β : Type} (g : α → β) (test : α → Bool) (a : α) (rest : List α) :
    ((a :: rest).find? test).map g = (if test a then some (g a) else none).or ((rest.find? test).map g) := by
  cases ha : test a <;> simp [ha]

/-- The first in the line-up who bears the name and is not the one being edited. -/
theorem find?_eq_lineUp (l : Lpa) (subject : ActorKind) (editing : Option String) (firstNames lastName : String) :
    find? l subject editing firstNames lastName =
      if firstNames = "" ∧ lastName = "" then none
      else (l.lineUp.find? fun b =>
        isAnother subject editing firstNames lastName b.kind b.id b.firstNames b.lastName).map
          fun b => ⟨subject, b.kind, b.id⟩ := by
  unfold find?
  split
  · rfl
  · simp only [Lpa.lineUp, map_find?_cons, List.find?_append, List.find?_map, Option.map_or, Option.map_map,
      Option.orElse_eq_orElse, Option.orElse_eq_or]
    rfl

variable {l : Lpa} {subject : ActorKind} {editing : Option String} {firstNames lastName : String}

/-- Where a name is found with nobody, nobody has it but perhaps the one being edited. -/
theorem other_of_find? (h : find? l subject editing firstNames lastName = none) (given : firstNames ≠ "") {b : Bearer}
    (hb : b ∈ l.lineUp) (another : isEdited subject editing b.kind b.id = false) :
    ¬(b.firstNames = firstNames ∧ b.lastName = lastName) := by
  rw [find?_eq_lineUp, if_neg fun hempty => given hempty.1, Option.map_eq_none_iff, List.find?_eq_none] at h
  rintro ⟨rfl, rfl⟩
  exact h b hb (by simp [isAnother, another])

theorem isEdited_of_kind_ne {kind : ActorKind} {id : String} (h : kind ≠ subject) :
    isEdited subject editing kind id = false := by
  simp [isEdited, h]

theorem isEdited_of_id_ne {kind : ActorKind} {e id : String} (h : id ≠ e) :
    isEdited subject (some e) kind id = false := by
  simp [isEdited, h.symm]

/-- Where nobody of a collection is being edited, nobody is passed over. -/
theorem isEdited_of_collection {c : Collection} {kind : ActorKind} {id : String} :
    isEdited c.kind none kind id = false := by
  cases c <;> cases kind <;> rfl

end Namesake

/-! ### Details that are taken -/

namespace Wizard

/-- A form that is taken without a warning acknowledged has no errors and no namesake. -/
theorem not_found_of_rejection? {errors : ErrorList} {found : Option Namesake} {ignore : Option String}
    {firstNames lastName : String} {ageWarning : Option AgeWarning}
    (h : rejection? errors (pendingNameWarning errors found ignore firstNames lastName) ageWarning = none)
    (heeded : ignore = none) : errors.any = false ∧ found = none := by
  obtain ⟨valid, unwarned, -⟩ := rejection?_eq_none.1 h
  rw [heeded, pendingNameWarning_eq_none_iff] at unwarned
  refine ⟨valid, Option.eq_none_iff_forall_ne_some.2 fun n hn => ?_⟩
  cases (unwarned n hn).2

end Wizard

namespace Form
variable {today : Date} {isEmail : String → Bool} {l : Lpa} {b : Bearer}

theorem ActorDetails.other_of_accepted {f : ActorDetails} {role : AttorneyRole} {editing : Option String}
    (accepted : f.trimmed.rejection? today isEmail role editing l = none) (heeded : f.ignoreNameWarning = none)
    (a : Attorney) (hb : b ∈ l.lineUp)
    (another : Namesake.isEdited role.collection.kind editing b.kind b.id = false) :
    ¬b.SameName (.ofAttorney role (f.trimmed.fill a)) := by
  obtain ⟨valid, unfound⟩ := not_found_of_rejection? accepted heeded
  exact Namesake.other_of_find? unfound (ActorDetails.proper_fill (Date.le_refl today) valid a).names.firstNames.ne_empty
    hb another

theorem PersonDetails.other_of_accepted {f : PersonDetails} {editing : Option String}
    (accepted : f.trimmed.rejection? isEmail editing l = none) (heeded : f.ignoreNameWarning = none)
    (p : PersonToNotify) (hb : b ∈ l.lineUp) (another : Namesake.isEdited .personToNotify editing b.kind b.id = false) :
    ¬b.SameName (.ofPerson (f.trimmed.fill p)) := by
  obtain ⟨valid, unfound⟩ := not_found_of_rejection? accepted heeded
  exact Namesake.other_of_find? unfound (PersonDetails.proper_fill valid p).names.firstNames.ne_empty hb another

theorem ProviderDetails.other_of_accepted {f : ProviderDetails}
    (accepted : f.trimmed.rejection? today isEmail l = none) (heeded : f.ignoreNameWarning = none)
    (p : CertificateProvider) (hb : b ∈ l.lineUp) (another : b.kind ≠ .certificateProvider) :
    ¬b.SameName (.ofProvider (f.trimmed.fill p)) := by
  obtain ⟨valid, unfound⟩ := not_found_of_rejection? accepted heeded
  exact Namesake.other_of_find? unfound
    (ProviderDetails.proper_fill (Date.le_refl today) valid p).names.firstNames.ne_empty hb
    (Namesake.isEdited_of_kind_ne another)

end Form

/-! ### What a roster does to the names -/

section
variable {α : Type} [HasId α] {bearer : α → Bearer} {c : Collection} {r : Roster α} {xs ys : List Bearer}

/-- Somebody who is there takes a name that nobody has who is not the one being edited. -/
theorem Bearer.Apart.put_found (hid : ∀ a, (bearer a).id = HasId.id a)
    (outside : ∀ b ∈ xs ++ ys, b.kind ≠ c.kind) (distinct : r.ids.Nodup) {a a' : α} {id : Option String}
    (found : id.bind r.get? = some a) (same : HasId.id a' = HasId.id a)
    (h : Apart (xs ++ (r.members.map bearer ++ ys)))
    (other : ∀ b ∈ xs ++ (r.members.map bearer ++ ys),
      Namesake.isEdited c.kind (some (HasId.id a)) b.kind b.id = false → ¬b.SameName (bearer a')) :
    Apart (xs ++ ((r.put a').members.map bearer ++ ys)) := by
  obtain ⟨i, -, hi⟩ := Option.bind_eq_some_iff.1 found
  obtain ⟨before, after, hat, -⟩ := Roster.at_of_get? distinct hi
  have rest : (xs ++ before.map bearer ++ (after.map bearer ++ ys)).Sublist (xs ++ (r.members.map bearer ++ ys)) := by
    rw [hat.members]
    simp
  -- the one being edited is the only one who is passed over
  have another : ∀ b ∈ xs ++ before.map bearer ++ (after.map bearer ++ ys),
      Namesake.isEdited c.kind (some (HasId.id a)) b.kind b.id = false := by
    intro b hb
    have hplace : b ∈ xs ++ ys ∨ ∃ m ∈ before ++ after, bearer m = b := by
      simp only [List.mem_append, List.mem_map] at hb ⊢
      grind
    rcases hplace with hb | ⟨m, hm, rfl⟩
    · exact Namesake.isEdited_of_kind_ne (outside b hb)
    · exact Namesake.isEdited_of_id_ne (hid m ▸ hat.alone m hm)
  have apart := (h.sublist rest).insert fun b hb => other b (rest.subset hb) (another b hb)
  simpa [hat.put same] using apart

/-- Somebody who is not there yet comes in under a name that nobody has. -/
theorem Bearer.Apart.put_missing {a : α} (fresh : HasId.id a ∉ r.ids)
    (h : Apart (xs ++ (r.members.map bearer ++ ys)))
    (other : ∀ b ∈ xs ++ (r.members.map bearer ++ ys), ¬b.SameName (bearer a)) :
    Apart (xs ++ ((r.put a).members.map bearer ++ ys)) := by
  have apart : Apart ((xs ++ r.members.map bearer) ++ bearer a :: ys) :=
    Bearer.Apart.insert (by rwa [List.append_assoc]) (by rwa [List.append_assoc])
  simpa [Roster.put_of_notMem fresh, Roster.push] using apart

end

/-! ### What the operations keep -/

namespace Lpa

/-- No two actors with names have the same one. -/
def Apart (l : Lpa) : Prop := Bearer.Apart l.lineUp

variable {l l' : Lpa}

theorem Apart.congr (h : l.Apart) (same : l'.lineUp = l.lineUp) : l'.Apart := by
  rw [Apart, same]
  exact h

theorem Apart.empty (id : String) (version : Nat) : Lpa.Apart { Lpa.empty id with version } := by
  exact List.Pairwise.nil

theorem Apart.erase (h : l.Apart) (role : AttorneyRole) (id : String) :
    (l.withAttorneys role ((l.attorneysOf role).erase id)).Apart := by
  unfold Apart at h ⊢
  rw [lineUp_of_role l role] at h
  rw [lineUp_withAttorneys]
  refine h.sublist (List.Sublist.append_left (List.Sublist.append_right ?_ _) _)
  exact (Roster.erase_sublist _ id).map _

theorem Apart.withPeople (h : l.Apart) {rest : Roster PersonToNotify}
    (hrest : rest.members.Sublist l.peopleToNotify.members) : Lpa.Apart { l with peopleToNotify := rest } := by
  unfold Apart at h ⊢
  rw [lineUp_withPeople]
  rw [show l.lineUp = _ from lineUp_withPeople l l.peopleToNotify] at h
  refine h.sublist ?_
  exact List.Sublist.append_left (List.Sublist.append_right (hrest.map _) _) _

theorem Apart.clear (h : l.Apart) (answer : Option YesNo) :
    (Lpa.clearReplacements { l with wantReplacements := answer }).Apart := by
  unfold Apart at h ⊢
  refine h.sublist ?_
  refine List.Sublist.cons_cons _ (List.Sublist.append_left ?_ _)
  exact List.sublist_append_right _ _

theorem lineUp_prune (l : Lpa) : l.prune.lineUp = l.lineUp := by
  rw [prune_eq]
  rfl

theorem lineUp_readdress (l : Lpa) (role : AttorneyRole) (id : String) (address : Address) :
    (l.withAttorneys role ((l.attorneysOf role).modify id fun x => { x with address })).lineUp = l.lineUp := by
  have kept (x : Attorney) : Bearer.ofAttorney role { x with address } = .ofAttorney role x := rfl
  rw [lineUp_withAttorneys, Roster.map_modify kept, ← lineUp_of_role]

/-- An address is no part of a name. -/
theorem lineUp_set (t : AddressTarget) (a : Address) (l : Lpa) : (t.settle (t.set a l)).lineUp = l.lineUp := by
  cases t with
  | donor => rfl
  | certificateProvider => rfl
  | actor c id =>
    cases c with
    | attorneys => exact lineUp_readdress l .primary id a
    | replacements => exact lineUp_readdress l .replacement id a
    | peopleToNotify =>
      have kept (x : PersonToNotify) : Bearer.ofPerson { x with address := a } = .ofPerson x := rfl
      have line := lineUp_withPeople l (l.peopleToNotify.modify id fun x => { x with address := a })
      rw [Roster.map_modify kept, ← lineUp_withPeople] at line
      exact line

end Lpa

namespace Wizard

/-- A form that acknowledges no namesake. The donor's details look for none, so that they have to be in a name that
    nobody else has where they are taken. -/
def Submission.Heeds (today : Date) (l : Lpa) : Submission → Prop
  | .actorDetails _ _ f => f.ignoreNameWarning = none
  | .personDetails _ f => f.ignoreNameWarning = none
  | .providerDetails f => f.ignoreNameWarning = none
  | .donorDetails f => f.trimmed.rejection? today = none →
    ∀ b ∈ l.lineUp, b.kind ≠ .donor → ¬b.SameName (.ofDonor (f.trimmed.fill l.donor))
  | _ => True

def Operation.Heeds (today : Date) (l : Lpa) : Operation → Prop
  | .submit s => s.Heeds today l
  | _ => True

/-- A call that heeds every warning about a name. -/
def Call.Heeds (c : Call) (l : Lpa) : Prop := c.operation.Heeds c.surroundings.today l

variable {w : Surroundings} {l l' : Lpa}

theorem apart_donor {f : DonorDetails} (h : l.Apart)
    (other : ∀ b ∈ l.lineUp, b.kind ≠ .donor → ¬b.SameName (.ofDonor (f.trimmed.fill l.donor))) :
    Lpa.Apart { l with donor := f.trimmed.fill l.donor } := by
  have rest : Apart ([] ++ l.lineUp.tail) := h.sublist l.lineUp.tail_sublist
  refine Bearer.Apart.insert rest fun b hb => other b (List.mem_of_mem_tail hb) ?_
  simp only [List.nil_append, Lpa.lineUp, List.tail_cons, List.mem_append, List.mem_map, List.mem_cons] at hb
  rcases hb with ⟨_, _, rfl⟩ | ⟨_, _, rfl⟩ | rfl | ⟨_, _, rfl⟩ <;> nofun

theorem apart_provider {f : ProviderDetails} (h : l.Apart)
    (other : ∀ b ∈ l.lineUp, b.kind ≠ .certificateProvider →
      ¬b.SameName (.ofProvider (f.trimmed.fill l.certificateProvider))) :
    Lpa.Apart { l with certificateProvider := f.trimmed.fill l.certificateProvider } := by
  let before := Bearer.ofDonor l.donor ::
    (l.attorneys.members.map (.ofAttorney .primary) ++ l.replacements.members.map (.ofAttorney .replacement))
  let after := l.peopleToNotify.members.map Bearer.ofPerson
  have line (p : CertificateProvider) :
      Lpa.lineUp { l with certificateProvider := p } = before ++ .ofProvider p :: after := by
    simp [Lpa.lineUp, before, after]
  have rest : (before ++ after).Sublist l.lineUp := by
    rw [show l.lineUp = _ from line l.certificateProvider]
    exact (List.sublist_cons_self _ _).append_left _
  unfold Lpa.Apart
  rw [line]
  refine Bearer.Apart.insert (Bearer.Apart.sublist h rest) fun b hb => other b (rest.subset hb) ?_
  simp only [before, after, List.mem_append, List.mem_map, List.mem_cons] at hb
  rcases hb with (rfl | ⟨_, _, rfl⟩ | ⟨_, _, rfl⟩) | ⟨_, _, rfl⟩ <;> nofun

theorem apart_attorneyEdited {role : AttorneyRole} {id : Option String} {f : ActorDetails} {a : Attorney}
    (found : id.bind (l.attorneysOf role).get? = some a)
    (accepted : f.trimmed.rejection? w.today w.isEmail role (some a.id) l = none) (heeded : f.ignoreNameWarning = none)
    (distinct : l.Distinct) (h : l.Apart) :
    (l.withAttorneys role ((l.attorneysOf role).put (f.trimmed.fill a))).Apart := by
  unfold Lpa.Apart at h ⊢
  rw [Lpa.lineUp_withAttorneys]
  rw [l.lineUp_of_role role] at h
  refine h.put_found (fun _ => rfl) (fun b hb => l.kind_of_outside hb) (distinct_attorneysOf distinct role) found rfl ?_
  intro b hb another
  exact ActorDetails.other_of_accepted accepted heeded a (l.lineUp_of_role role ▸ hb) another

theorem apart_attorneyAdded {role : AttorneyRole} {f : ActorDetails} {fresh : String}
    (accepted : f.trimmed.rejection? w.today w.isEmail role none l = none) (heeded : f.ignoreNameWarning = none)
    (notMem : fresh ∉ (l.attorneysOf role).ids) (h : l.Apart) :
    (l.withAttorneys role ((l.attorneysOf role).put (f.trimmed.fill { id := fresh }))).Apart := by
  unfold Lpa.Apart at h ⊢
  rw [Lpa.lineUp_withAttorneys]
  rw [l.lineUp_of_role role] at h
  refine h.put_missing notMem fun b hb => ?_
  exact ActorDetails.other_of_accepted accepted heeded _ (l.lineUp_of_role role ▸ hb) Namesake.isEdited_of_collection

theorem apart_personEdited {id : Option String} {f : PersonDetails} {p : PersonToNotify}
    (found : id.bind l.peopleToNotify.get? = some p) (accepted : f.trimmed.rejection? w.isEmail (some p.id) l = none)
    (heeded : f.ignoreNameWarning = none) (distinct : l.Distinct) (h : l.Apart) :
    Lpa.Apart { l with peopleToNotify := l.peopleToNotify.put (f.trimmed.fill p) } := by
  have line := l.lineUp_withPeople l.peopleToNotify
  unfold Lpa.Apart at h ⊢
  rw [Lpa.lineUp_withPeople]
  refine Bearer.Apart.put_found (c := .peopleToNotify) (fun _ => rfl) (fun b hb => l.kind_of_outside hb)
    (distinct .peopleToNotify) found rfl (line ▸ h) fun b hb another => ?_
  exact PersonDetails.other_of_accepted accepted heeded p (line ▸ hb) another

theorem apart_personAdded {f : PersonDetails} {fresh : String} (accepted : f.trimmed.rejection? w.isEmail none l = none)
    (heeded : f.ignoreNameWarning = none) (notMem : fresh ∉ l.peopleToNotify.ids) (h : l.Apart) :
    Lpa.Apart { l with peopleToNotify := l.peopleToNotify.put (f.trimmed.fill { id := fresh }) } := by
  have line := l.lineUp_withPeople l.peopleToNotify
  unfold Lpa.Apart at h ⊢
  rw [Lpa.lineUp_withPeople]
  refine Bearer.Apart.put_missing notMem (line ▸ h) fun b hb => ?_
  exact PersonDetails.other_of_accepted accepted heeded _ (line ▸ hb)
    (Namesake.isEdited_of_collection (c := .peopleToNotify))

/-- Whatever is stored by an operation that heeds the warnings leaves the names apart. -/
theorem Stores.apart {op : Operation} {r : Reply} (hs : Stores w l op l' r) (heeds : op.Heeds w.today l)
    (distinct : l.Distinct) (h : l.Apart) : l'.Apart := by
  cases hs with
  | donorFilledIn accepted => exact apart_donor h (heeds accepted)
  | attorneyEdited found accepted => exact (apart_attorneyEdited found accepted heeds distinct h).congr rfl
  | attorneyAdded missing accepted minted =>
    exact (apart_attorneyAdded accepted heeds (Source.notMem_of_mint? minted) h).congr rfl
  | @attorneyRemoved role id f found confirmed => exact (h.erase role id).congr (Lpa.lineUp_prune _)
  | replacementsDeclined answered => exact (h.clear (some .no)).congr rfl
  | providerFilledIn accepted =>
    have apart := apart_provider h fun b hb another => ProviderDetails.other_of_accepted accepted heeds _ hb another
    exact apart.congr rfl
  | addressGiven found given => exact h.congr (Lpa.lineUp_set _ _ l)
  | notifyingNobody answered =>
    have none_left : Lpa.Apart { l with peopleToNotify := {} } := h.withPeople (List.nil_sublist _)
    exact none_left.congr rfl
  | personEdited found accepted => exact (apart_personEdited found accepted heeds distinct h).congr rfl
  | personAdded missing accepted minted =>
    exact (apart_personAdded accepted heeds (Source.notMem_of_mint? minted) h).congr rfl
  | personRemoved found confirmed => exact (h.withPeople (Roster.erase_sublist _ _)).congr rfl
  | _ => exact h.congr rfl

/-- Where a session's calls heed every warning about a name, and its donor takes no name that somebody has, no two
    actors with names ever have the same one. -/
theorem reached_names_apart {session : String} {m : Memory}
    (hr : Reached (fun c l => c.session = session → c.Heeds l) m) {l : Lpa} (h : m.find? session = some l) :
    (l.lineUp.filter Bearer.isNamed).Pairwise fun b c => ¬b.SameName c := by
  -- both at once, for only where no id is in use twice does the search pass over the edited actor alone
  have both : l.Distinct ∧ l.Apart := by
    refine @Reached.induct _ (fun l => l.Distinct ∧ l.Apart) session ?_ ?_ m hr l h
    · exact fun id version => ⟨.empty id version, .empty id version⟩
    rintro c l l' r hc heeds ⟨distinct, apart⟩ hs
    exact ⟨(distinct.stores hs).version _, (hs.apart (heeds hc) distinct apart).congr rfl⟩
  exact both.2

/-- A replacement attorney who has the name of an attorney is not taken without the warning being acknowledged; another
    one is, and the donor, the attorney and that one have names of their own. -/
theorem reached_names_apart_of_namesake :
    let form := fun s => Submission.call s "session"
    let m := sequential [form (.donor "Jane" "Smith"), form (.details .primary "Ann"),
      form (.details .replacement "Ann"), form (.details .replacement "Bob")]
    Reached (fun c l => c.session = "session" → c.Heeds l) m ∧
    ∃ l, m.find? "session" = some l ∧ l.lineUp.map (·.firstNames) = ["Jane", "Ann", "Bob", ""] ∧
      (l.lineUp.filter Bearer.isNamed).Pairwise fun b c => ¬b.SameName c := by
  intro form m
  have donor : (form (.donor "Jane" "Smith")).Heeds ((form (.donor "Jane" "Smith")).opened {}) := by
    intro _
    decide
  have reached : Reached (fun c l => c.session = "session" → c.Heeds l) m :=
    (((Reached.empty.call _ fun _ => donor).call _ fun _ => rfl).call _ fun _ => rfl).call _ fun _ => rfl
  have found : (m.find? "session").map (fun l => l.lineUp.map (·.firstNames)) = some ["Jane", "Ann", "Bob", ""] := by
    decide +kernel
  obtain ⟨l, hl, names⟩ := Option.map_eq_some_iff.1 found
  exact ⟨reached, l, hl, names, reached_names_apart reached hl⟩

end Wizard

end PowerOfAttorney
