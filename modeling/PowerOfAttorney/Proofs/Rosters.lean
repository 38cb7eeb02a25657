import Mathlib.Data.List.Nodup
import PowerOfAttorney.Proofs.Minting
import PowerOfAttorney.Proofs.Refusals

/-! What becomes of the actors of a collection. Whoever is new comes last, under an id that nobody of the collection
    has; whoever is changed stays in their place. So no id of a collection is ever in use twice (`Distinct`), and that is
    what makes an edit, a removal or an address hit one actor and no other (`Submission.Changes`). -/

namespace PowerOfAttorney

open Form Wizard

namespace Roster

section
variable {α : Type} [HasId α]

/-- One actor more, at the end, under an id that was not in use. -/
def Gains (r r' : Roster α) (new : α → Prop) : Prop :=
  ∃ a, HasId.id a ∉ r.ids ∧ new a ∧ r'.members = r.members ++ [a]

/-- Another actor under an id, in the place of the one that had it, and all others as they were. -/
def Edits (r r' : Roster α) (id : String) (edit : α → α → Prop) : Prop :=
  ∃ before a b after, r.At before a after ∧ HasId.id a = id ∧ HasId.id b = id ∧ edit a b ∧
    r'.members = before ++ b :: after

/-- All actors but the one of an id, in the order in which they were. -/
def Loses (r r' : Roster α) (id : String) : Prop :=
  ∃ before a after, r.At before a after ∧ HasId.id a = id ∧ r'.members = before ++ after

/-- What details make of a roster that are saved under an id, if there is one: who has it keeps place and address, and
    where nobody has it someone is added who has no address yet. -/
structure Saves (address : α → Address) (r r' : Roster α) (id : Option String) : Prop where
  added : (∀ i ∈ id, i ∉ r.ids) → r.Gains r' fun a => address a = {}
  edited : ∀ i ∈ id, i ∈ r.ids → r.Edits r' i fun a b => address b = address a

variable {r r' : Roster α} {id : String}

theorem get?_eq_none_iff : r.get? id = none ↔ id ∉ r.ids := by
  rw [← contains_iff, contains, Option.isSome_iff_ne_none, not_not]

theorem at_of_get? (distinct : r.ids.Nodup) {a : α} (h : r.get? id = some a) :
    ∃ before after, r.At before a after ∧ HasId.id a = id := by
  have hid : id ∈ r.ids := by
    rw [← contains_iff, contains, h]
    rfl
  obtain ⟨before, b, after, hat, rfl⟩ := exists_at distinct hid
  rw [hat.get?, Option.some.injEq] at h
  exact ⟨before, after, h ▸ hat, by rw [h]⟩

/-! ### What the changes do to the ids -/

theorem Gains.nodup {new : α → Prop} (h : r.Gains r' new) (distinct : r.ids.Nodup) : r'.ids.Nodup := by
  obtain ⟨a, fresh, -, hr'⟩ := h
  rw [ids, hr', List.map_append, List.map_singleton, ← List.concat_eq_append]
  exact List.Nodup.concat fresh distinct

theorem Edits.ids_eq {edit : α → α → Prop} (h : r.Edits r' id edit) : r'.ids = r.ids := by
  obtain ⟨before, a, b, after, hat, ha, hb, -, hr'⟩ := h
  simp only [ids, hr', hat.members, List.map_append, List.map_cons, ha, hb]

theorem Loses.nodup (h : r.Loses r' id) (distinct : r.ids.Nodup) : r'.ids.Nodup := by
  obtain ⟨before, a, after, hat, -, hr'⟩ := h
  rw [ids, hat.members, List.map_append, List.map_cons, List.nodup_middle] at distinct
  rw [ids, hr', List.map_append]
  exact distinct.of_cons

theorem Saves.nodup {address : α → Address} {id : Option String} (h : r.Saves address r' id)
    (distinct : r.ids.Nodup) : r'.ids.Nodup := by
  by_cases known : ∃ i ∈ id, i ∈ r.ids
  · obtain ⟨i, hi, hmem⟩ := known
    rw [(h.edited i hi hmem).ids_eq]
    exact distinct
  · exact (h.added fun i hi hmem => known ⟨i, hi, hmem⟩).nodup distinct

/-! ### Which changes there are -/

theorem saves_of_found {address : α → Address} {id : Option String} (distinct : r.ids.Nodup) {a b : α}
    (found : id.bind r.get? = some a) (hid : HasId.id b = HasId.id a) (haddress : address b = address a) :
    r.Saves address (r.put b) id := by
  obtain ⟨i, rfl, hi⟩ := Option.bind_eq_some_iff.1 found
  obtain ⟨before, after, hat, rfl⟩ := at_of_get? distinct hi
  refine ⟨fun unknown => ?_, fun i hi' _ => ?_⟩
  · rw [get?_eq_none_iff.2 (unknown _ rfl)] at hi
    cases hi
  · obtain rfl := Option.some.inj hi'
    exact ⟨before, a, b, after, hat, rfl, hid, haddress, by rw [hat.put hid]⟩

theorem saves_of_missing {address : α → Address} {id : Option String} {a : α} (missing : id.bind r.get? = none)
    (fresh : HasId.id a ∉ r.ids) (haddress : address a = {}) : r.Saves address (r.put a) id := by
  refine ⟨fun _ => ⟨a, fresh, haddress, by rw [put_of_notMem fresh, push]⟩, fun i hi hmem => ?_⟩
  obtain rfl := Option.mem_def.1 hi
  exact absurd hmem (get?_eq_none_iff.1 missing)

theorem loses_erase (distinct : r.ids.Nodup) (found : r.contains id = true) : r.Loses (r.erase id) id := by
  obtain ⟨before, a, after, hat, rfl⟩ := exists_at distinct (contains_iff.1 found)
  exact ⟨before, a, after, hat, rfl, by rw [hat.erase]⟩

theorem edits_modify (distinct : r.ids.Nodup) (found : r.contains id = true) {f : α → α}
    (hf : ∀ a, HasId.id (f a) = HasId.id a) : r.Edits (r.modify id f) id fun a b => b = f a := by
  obtain ⟨before, a, after, hat, rfl⟩ := exists_at distinct (contains_iff.1 found)
  exact ⟨before, a, f a, after, hat, rfl, hf a, rfl, by rw [hat.modify]⟩

end

end Roster

/-! ### LPAs -/

namespace Lpa

/-- An LPA in which no id of a collection is in use twice. -/
def Distinct (l : Lpa) : Prop := ∀ c, (l.ids c).Nodup

/-- Whether two LPAs have the same actors in their collections. -/
def SameActors (l l' : Lpa) : Prop :=
  l'.attorneys = l.attorneys ∧ l'.replacements = l.replacements ∧ l'.peopleToNotify = l.peopleToNotify

/-- Whether two LPAs agree but for the attorneys of a role, the states of the sections and the version. -/
def AgreesButAttorneys (l l' : Lpa) (role : AttorneyRole) : Prop :=
  l' = { l.withAttorneys role (l'.attorneysOf role) with tasks := l'.tasks, version := l'.version }

/-- Whether two LPAs agree but for the people to notify, the states of the sections and the version. -/
def AgreesButPeople (l l' : Lpa) : Prop :=
  l' = { l with peopleToNotify := l'.peopleToNotify, tasks := l'.tasks, version := l'.version }

/-- Whether two LPAs agree but for the attorneys of a role, the arrangements that may go with one of them, the states of
    the sections and the version. -/
def AgreesButArranged (l l' : Lpa) (role : AttorneyRole) : Prop :=
  l' = { l.withAttorneys role (l'.attorneysOf role) with
    attorneysDecide := l'.attorneysDecide, replacementsDecide := l'.replacementsDecide
    replacementsStepIn := l'.replacementsStepIn, tasks := l'.tasks, version := l'.version }

end Lpa

namespace Wizard

/-- What a form that is taken makes of the actors: details are saved under their id, a removal takes one actor out of
    their collection, an address is that of one actor. Only the wish for nobody takes several out, and no other form
    changes who is on a list. -/
def Submission.Changes (l l' : Lpa) : Submission → Prop
  | .actorDetails role id _ =>
    l.AgreesButAttorneys l' role ∧ (l.attorneysOf role).Saves Attorney.address (l'.attorneysOf role) id
  | .personDetails id _ => l.AgreesButPeople l' ∧ l.peopleToNotify.Saves PersonToNotify.address l'.peopleToNotify id
  | .removeAttorney role id _ => l.AgreesButArranged l' role ∧ (l.attorneysOf role).Loses (l'.attorneysOf role) id
  | .removePerson id _ => l.AgreesButPeople l' ∧ l.peopleToNotify.Loses l'.peopleToNotify id
  | .address t f => ∃ address, f.Gives address ∧ match t with
    | .donor => l' = { l with donor := { l.donor with address }, version := l'.version }
    | .certificateProvider =>
      l' = { l with
        certificateProvider := { l.certificateProvider with address }, tasks := l'.tasks, version := l'.version }
    | .actor .attorneys id =>
      l.AgreesButAttorneys l' .primary ∧ l.attorneys.Edits l'.attorneys id fun a b => b = { a with address }
    | .actor .replacements id =>
      l.AgreesButAttorneys l' .replacement ∧ l.replacements.Edits l'.replacements id fun a b => b = { a with address }
    | .actor .peopleToNotify id =>
      l.AgreesButPeople l' ∧ l.peopleToNotify.Edits l'.peopleToNotify id fun a b => b = { a with address }
  | .wantReplacements f =>
    l'.attorneys = l.attorneys ∧ l'.peopleToNotify = l.peopleToNotify ∧
      l'.replacements = if f.answer? = some .no then {} else l.replacements
  | .wantToNotify f =>
    l'.attorneys = l.attorneys ∧ l'.replacements = l.replacements ∧
      l'.peopleToNotify = if f.answer? = some .no then {} else l.peopleToNotify
  | _ => l.SameActors l'

def Operation.Changes (l l' : Lpa) : Operation → Prop
  | .submit s => s.Changes l l'
  | _ => l.SameActors l'

section
variable {w : Surroundings} {l l' : Lpa} {op : Operation} {r : Reply}

theorem agreesButAttorneys_settle (l : Lpa) (role : AttorneyRole) (rest : Roster Attorney) (version : Nat) :
    l.AgreesButAttorneys { (l.withAttorneys role rest).settleAttorneys role with version } role := by
  cases role <;> rfl

theorem attorneysOf_settle (l : Lpa) (role : AttorneyRole) (rest : Roster Attorney) (version : Nat) :
    Lpa.attorneysOf { (l.withAttorneys role rest).settleAttorneys role with version } role = rest := by
  cases role <;> rfl

theorem agreesButArranged_prune (l : Lpa) (role : AttorneyRole) (rest : Roster Attorney) (version : Nat) :
    l.AgreesButArranged { (l.withAttorneys role rest).prune.settleAttorneys role with version } role := by
  rw [Lpa.AgreesButArranged, Lpa.prune_eq]
  cases role <;> rfl

theorem attorneysOf_prune (l : Lpa) (role : AttorneyRole) (rest : Roster Attorney) (version : Nat) :
    Lpa.attorneysOf { (l.withAttorneys role rest).prune.settleAttorneys role with version } role = rest := by
  cases role
  · exact Lpa.prune_attorneys _
  · exact Lpa.prune_replacements _

theorem distinct_attorneysOf (h : l.Distinct) (role : AttorneyRole) : (l.attorneysOf role).ids.Nodup := by
  cases role
  · exact h .attorneys
  · exact h .replacements

/-- What is stored after an address was given has it in the place it is for. -/
theorem Submission.changes_address (distinct : l.Distinct) {t : AddressTarget} {f : AddressForm} {a : Address}
    (found : t.missing? l = none) (given : f.Gives a) (version : Nat) :
    Submission.Changes l { t.settle (t.set a l) with version } (.address t f) := by
  refine ⟨a, given, ?_⟩
  cases t with
  | donor => rfl
  | certificateProvider => rfl
  | actor c id =>
    have present : l.hasActor c id = true := by
      by_contra hno
      simp [AddressTarget.missing?, hno] at found
    cases c with
    | attorneys => exact ⟨rfl, Roster.edits_modify (distinct .attorneys) present fun _ => rfl⟩
    | replacements => exact ⟨rfl, Roster.edits_modify (distinct .replacements) present fun _ => rfl⟩
    | peopleToNotify => exact ⟨rfl, Roster.edits_modify (distinct .peopleToNotify) present fun _ => rfl⟩

/-- What a form that is taken makes of an LPA in which no id is in use twice. -/
theorem Stores.changes (h : Stores w l op l' r) (distinct : l.Distinct) (version : Nat) :
    op.Changes l { l' with version } := by
  cases h with
  | @attorneyEdited role id f a found accepted =>
    refine ⟨agreesButAttorneys_settle l role _ version, ?_⟩
    rw [attorneysOf_settle]
    exact Roster.saves_of_found (distinct_attorneysOf distinct role) found rfl rfl
  | @attorneyAdded role id f fresh source missing accepted minted =>
    refine ⟨agreesButAttorneys_settle l role _ version, ?_⟩
    rw [attorneysOf_settle]
    exact Roster.saves_of_missing missing (Source.notMem_of_mint? minted) rfl
  | @attorneyRemoved role id f found confirmed =>
    refine ⟨agreesButArranged_prune l role _ version, ?_⟩
    rw [attorneysOf_prune]
    exact Roster.loses_erase (distinct_attorneysOf distinct role) found
  | personEdited found accepted =>
    exact ⟨rfl, Roster.saves_of_found (distinct .peopleToNotify) found rfl rfl⟩
  | personAdded missing accepted minted =>
    exact ⟨rfl, Roster.saves_of_missing missing (Source.notMem_of_mint? minted) rfl⟩
  | personRemoved found confirmed => exact ⟨rfl, Roster.loses_erase (distinct .peopleToNotify) found⟩
  | addressGiven found given => exact Submission.changes_address distinct found given version
  | replacementsWanted answered => exact ⟨rfl, rfl, by rw [answered]; rfl⟩
  | replacementsDeclined answered => exact ⟨rfl, rfl, by rw [if_pos answered]; rfl⟩
  | notifying answered => exact ⟨rfl, rfl, by rw [answered]; rfl⟩
  | notifyingNobody answered => exact ⟨rfl, rfl, by rw [if_pos answered]; rfl⟩
  | _ => exact ⟨rfl, rfl, rfl⟩

end

end Wizard

namespace Lpa.Distinct
variable {l l' : Lpa}

theorem empty (id : String) (version : Nat) : Lpa.Distinct { Lpa.empty id with version } := by
  intro c
  cases c <;> exact List.nodup_nil

theorem of_sublist (h : l.Distinct) (attorneys : l'.attorneys.ids.Sublist l.attorneys.ids)
    (replacements : l'.replacements.ids.Sublist l.replacements.ids)
    (people : l'.peopleToNotify.ids.Sublist l.peopleToNotify.ids) : l'.Distinct := by
  intro c
  cases c with
  | attorneys => exact (h .attorneys).sublist attorneys
  | replacements => exact (h .replacements).sublist replacements
  | peopleToNotify => exact (h .peopleToNotify).sublist people

theorem congr (h : l.Distinct) (same : l.SameActors l') : l'.Distinct := by
  obtain ⟨hattorneys, hreplacements, hpeople⟩ := same
  exact h.of_sublist (hattorneys ▸ List.Sublist.refl _) (hreplacements ▸ List.Sublist.refl _)
    (hpeople ▸ List.Sublist.refl _)

theorem withAttorneys (h : l.Distinct) (role : AttorneyRole) {r : Roster Attorney} (hr : r.ids.Nodup) :
    (l.withAttorneys role r).Distinct := by
  intro c
  cases role <;> cases c
  · exact hr
  · exact h .replacements
  · exact h .peopleToNotify
  · exact h .attorneys
  · exact hr
  · exact h .peopleToNotify

theorem of_agreesButAttorneys (h : l.Distinct) {role : AttorneyRole} (agrees : l.AgreesButAttorneys l' role)
    (hrole : (l'.attorneysOf role).ids.Nodup) : l'.Distinct := by
  rw [agrees]
  exact (h.withAttorneys role hrole).congr ⟨rfl, rfl, rfl⟩

theorem of_agreesButArranged (h : l.Distinct) {role : AttorneyRole} (agrees : l.AgreesButArranged l' role)
    (hrole : (l'.attorneysOf role).ids.Nodup) : l'.Distinct := by
  rw [agrees]
  exact (h.withAttorneys role hrole).congr ⟨rfl, rfl, rfl⟩

theorem of_agreesButPeople (h : l.Distinct) (agrees : l.AgreesButPeople l') (hpeople : l'.peopleToNotify.ids.Nodup) :
    l'.Distinct := by
  rw [agrees]
  intro c
  cases c with
  | attorneys => exact h .attorneys
  | replacements => exact h .replacements
  | peopleToNotify => exact hpeople

theorem of_address (h : l.Distinct) {t : AddressTarget} {f : AddressForm}
    (changes : Submission.Changes l l' (.address t f)) : l'.Distinct := by
  obtain ⟨address, -, changes⟩ := changes
  cases t with
  | donor =>
    rw [changes]
    exact h.congr ⟨rfl, rfl, rfl⟩
  | certificateProvider =>
    rw [changes]
    exact h.congr ⟨rfl, rfl, rfl⟩
  | actor c id =>
    cases c with
    | attorneys => exact h.of_agreesButAttorneys changes.1 (changes.2.ids_eq ▸ h .attorneys)
    | replacements => exact h.of_agreesButAttorneys changes.1 (changes.2.ids_eq ▸ h .replacements)
    | peopleToNotify => exact h.of_agreesButPeople changes.1 (changes.2.ids_eq ▸ h .peopleToNotify)

/-- No form puts an id to use twice. -/
theorem of_changes (h : l.Distinct) {s : Submission} (changes : s.Changes l l') : l'.Distinct := by
  cases s with
  | actorDetails role id f =>
    exact h.of_agreesButAttorneys changes.1 (changes.2.nodup (distinct_attorneysOf h role))
  | personDetails id f => exact h.of_agreesButPeople changes.1 (changes.2.nodup (h .peopleToNotify))
  | removeAttorney role id f =>
    exact h.of_agreesButArranged changes.1 (changes.2.nodup (distinct_attorneysOf h role))
  | removePerson id f => exact h.of_agreesButPeople changes.1 (changes.2.nodup (h .peopleToNotify))
  | address t f => exact h.of_address changes
  | wantReplacements f =>
    obtain ⟨hattorneys, hpeople, hreplacements⟩ := changes
    refine h.of_sublist (hattorneys ▸ List.Sublist.refl _) ?_ (hpeople ▸ List.Sublist.refl _)
    rw [hreplacements]
    split
    · exact List.nil_sublist _
    · exact List.Sublist.refl _
  | wantToNotify f =>
    obtain ⟨hattorneys, hreplacements, hpeople⟩ := changes
    refine h.of_sublist (hattorneys ▸ List.Sublist.refl _) (hreplacements ▸ List.Sublist.refl _) ?_
    rw [hpeople]
    split
    · exact List.nil_sublist _
    · exact List.Sublist.refl _
  | _ => exact h.congr changes

theorem stores {w : Surroundings} {op : Operation} {r : Reply} (h : l.Distinct) (hs : Stores w l op l' r) :
    l'.Distinct := by
  have changes := hs.changes h l'.version
  cases op with
  | submit s => exact h.of_changes changes
  | _ => exact h.congr changes

theorem version (h : l.Distinct) (version : Nat) : Lpa.Distinct { l with version } := h.congr ⟨rfl, rfl, rfl⟩

theorem of_reached {allowed : Call → Lpa → Prop} {m : Memory} (hr : Reached allowed m) {session : String}
    (h : m.find? session = some l) : l.Distinct := by
  refine hr.induct empty (fun c l l' r _ _ hl hs => ?_) h
  exact (hl.stores hs).version _

theorem opened {m : Memory} (hr : Reachable m) (c : Call) : (c.opened m).Distinct := by
  cases hm : m.find? c.session with
  | some l =>
    rw [Call.opened_of_find? hm]
    exact of_reached hr hm
  | none =>
    rw [Call.opened, hm]
    exact empty _ _

end Lpa.Distinct

namespace Wizard

theorem Call.taken_of_stores {c : Call} {m : Memory} {l' : Lpa} {r : Reply} (ho : c.Opens m)
    (hs : Stores c.surroundings (c.opened m) c.operation l' r) :
    ¬(c.operation.IsIdle (c.opened m) ∨ IsRefusal (c.run m).1.result) := by
  rw [run_of_opens ho, not_or]
  exact exists_stores_iff.1 ⟨l', r, hs⟩

/-- However a session is filled in, and whatever texts are drawn for the ids, no id of a collection is in use twice. A
    call that is taken changes the actors in the one way of its form: details of nobody who is there add one actor at
    the end, under a new id and without an address; details of somebody who is there change them where they stand; a
    removal takes out that one actor; an address is given to that one actor, and nothing else is. -/
theorem reachable_collections {m : Memory} (hr : Reachable m) :
    (∀ session l, m.find? session = some l → ∀ c, (l.ids c).Nodup) ∧
    ∀ c : Call, ¬(c.operation.IsIdle (c.opened m) ∨ IsRefusal (c.run m).1.result) →
      ∃ l', (c.run m).2.find? c.session = some l' ∧ c.operation.Changes (c.opened m) l' := by
  refine ⟨fun session l h => Lpa.Distinct.of_reached hr h, fun c taken => ?_⟩
  obtain ⟨-, l', r, hs, -, hafter⟩ := Call.run_of_taken taken
  refine ⟨_, ?_, hs.changes (.opened hr c) ((c.opened m).version + 1)⟩
  rw [hafter, Memory.find?_insert_self]

/-- Three attorneys are added by calls that all draw the same texts, the first of which is taken by then; the second of
    them is removed, and the other two stay. -/
theorem reachable_collections_of_three :
    let form := fun s => Submission.call s "session"
    let m := sequential [form (.details .primary "Ann"), form (.details .primary "Bob"), form (.details .primary "Cid")]
    let removes := form (.removeAttorney .primary "00000002" { yesNo := "yes" })
    (removes.opened m).attorneys.ids = ["00000001", "00000002", "00000003"] ∧
    ∃ l', (removes.run m).2.find? "session" = some l' ∧ l'.attorneys.ids.Nodup ∧
      (removes.opened m).attorneys.Loses l'.attorneys "00000002" := by
  intro form m removes
  have hids : (removes.opened m).attorneys.ids = ["00000001", "00000002", "00000003"] := by decide +kernel
  have found : (removes.opened m).attorneys.contains "00000002" = true := by
    rw [Roster.contains_iff, hids]
    decide
  have stores : Stores removes.surroundings (removes.opened m) removes.operation _ _ :=
    .attorneyRemoved found (by decide)
  have taken : ¬(removes.operation.IsIdle (removes.opened m) ∨ IsRefusal (removes.run m).1.result) :=
    Call.taken_of_stores (Submission.opens_call _ _ m) stores
  have reached : Reachable m := reachable_sequential _
  obtain ⟨l', hl', -, loses⟩ := (reachable_collections reached).2 removes taken
  have distinct := (reachable_collections (.call removes reached trivial)).1 _ l' hl' .attorneys
  exact ⟨hids, l', hl', distinct, loses⟩

end Wizard

end PowerOfAttorney
