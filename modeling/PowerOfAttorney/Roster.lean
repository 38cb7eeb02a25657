/-!
Actors in the order in which they were added, found by their ids.

Ids are meant to be distinct. Where they are not, everything here is about the first actor of an id. The ids are
what an operation is judged by: adding puts one at the end, changing keeps them, removing takes one out.
-/

namespace PowerOfAttorney

/-- A type whose values carry an id. -/
class HasId (α : Type) where
  id : α → String

structure Roster (α : Type) where
  members : List α := []
deriving DecidableEq, Repr, Inhabited

/-- The list with `f` applied to the first item that passes the test; `none` if there is none. -/
def changeFirst? {α : Type} (test : α → Bool) (f : α → α) : List α → Option (List α)
  | [] => none
  | a :: r => if test a then some (f a :: r) else (changeFirst? test f r).map (a :: ·)

/-- The list without the first item that passes the test; `none` if there is none. -/
def removeFirst? {α : Type} (test : α → Bool) : List α → Option (List α)
  | [] => none
  | a :: r => if test a then some r else (removeFirst? test r).map (a :: ·)

namespace Roster

variable {α : Type} [HasId α]

def size {α : Type} (r : Roster α) : Nat := r.members.length

def isEmpty {α : Type} (r : Roster α) : Bool := r.members.isEmpty

def ids (r : Roster α) : List String := r.members.map HasId.id

/-- The first actor with an id. -/
def get? (r : Roster α) (id : String) : Option α := r.members.find? fun a => HasId.id a == id

/-- Whether an id is in use. -/
def contains (r : Roster α) (id : String) : Bool := (r.get? id).isSome

/-- The roster with `f` applied to the first actor with an id. -/
def modify? (r : Roster α) (id : String) (f : α → α) : Option (Roster α) :=
  (changeFirst? (fun a => HasId.id a == id) f r.members).map Roster.mk

/-- The roster with another actor in the place of the one with its id. -/
def replace? (r : Roster α) (a : α) : Option (Roster α) := r.modify? (HasId.id a) fun _ => a

/-- The roster without the first actor with an id. -/
def erase? (r : Roster α) (id : String) : Option (Roster α) :=
  (removeFirst? (fun a => HasId.id a == id) r.members).map Roster.mk

/-- The roster with an actor added at the end. -/
def push {α : Type} (r : Roster α) (a : α) : Roster α := ⟨r.members ++ [a]⟩

/-- The roster with an actor in the place of the one with its id, or at the end. -/
def put (r : Roster α) (a : α) : Roster α := (r.replace? a).getD (r.push a)

/-- The roster without the first actor with an id, if there is one. -/
def erase (r : Roster α) (id : String) : Roster α := (r.erase? id).getD r

/-- The roster with `f` applied to the first actor with an id, if there is one. -/
def modify (r : Roster α) (id : String) (f : α → α) : Roster α := (r.modify? id f).getD r

/-! ### What the operations do to the ids -/

@[simp] theorem ids_push (r : Roster α) (a : α) : (r.push a).ids = r.ids ++ [HasId.id a] := by
  simp [push, ids]

/-- Changing the actor of an id leaves the ids alone, as long as the actor keeps its own. -/
theorem ids_changeFirst {id : String} {f : α → α} (hf : ∀ a, HasId.id a = id → HasId.id (f a) = id) {l m : List α}
    (h : changeFirst? (fun a => HasId.id a == id) f l = some m) : m.map HasId.id = l.map HasId.id := by
  induction l generalizing m with
  | nil => simp [changeFirst?] at h
  | cons a r ih =>
    unfold changeFirst? at h
    split at h
    · rename_i ha
      simp only [beq_iff_eq] at ha
      simp only [Option.some.injEq] at h
      simp [← h, ha, hf a ha]
    · obtain ⟨n, hn, rfl⟩ := Option.map_eq_some_iff.1 h
      simp [ih hn]

/-- A removal takes out one place of an id, the first. -/
theorem ids_removeFirst {id : String} {l m : List α} (h : removeFirst? (fun a => HasId.id a == id) l = some m) :
    m.map HasId.id = (l.map HasId.id).erase id := by
  induction l generalizing m with
  | nil => simp [removeFirst?] at h
  | cons a r ih =>
    unfold removeFirst? at h
    split at h
    · rename_i ha
      simp only [Option.some.injEq] at h
      simp only [beq_iff_eq] at ha
      simp [← h, ha]
    · rename_i ha
      obtain ⟨n, hn, rfl⟩ := Option.map_eq_some_iff.1 h
      simp [ih hn, ha]

/-- An id is in use exactly if it is one of the ids. -/
theorem contains_iff {r : Roster α} {id : String} : r.contains id = true ↔ id ∈ r.ids := by
  simp [contains, get?, ids]

omit [HasId α] in
theorem isEmpty_eq_false_iff {r : Roster α} : r.isEmpty = false ↔ 0 < r.size := by
  obtain ⟨l⟩ := r
  cases l <;> simp [isEmpty, size]

/-! ### What the operations do to the actors -/

omit [HasId α] in
theorem changeFirst?_eq_some {test : α → Bool} {f : α → α} {l m : List α} (h : changeFirst? test f l = some m) :
    ∃ before a after, l = before ++ a :: after ∧ m = before ++ f a :: after := by
  induction l generalizing m with
  | nil => simp [changeFirst?] at h
  | cons a r ih =>
    unfold changeFirst? at h
    split at h
    · cases h
      exact ⟨[], a, r, rfl, rfl⟩
    · obtain ⟨n, hn, rfl⟩ := Option.map_eq_some_iff.1 h
      obtain ⟨before, b, after, rfl, rfl⟩ := ih hn
      exact ⟨a :: before, b, after, rfl, rfl⟩

omit [HasId α] in
theorem removeFirst?_eq_some {test : α → Bool} {l m : List α} (h : removeFirst? test l = some m) :
    ∃ before a after, l = before ++ a :: after ∧ m = before ++ after := by
  induction l generalizing m with
  | nil => simp [removeFirst?] at h
  | cons a r ih =>
    unfold removeFirst? at h
    split at h
    · cases h
      exact ⟨[], a, r, rfl, rfl⟩
    · obtain ⟨n, hn, rfl⟩ := Option.map_eq_some_iff.1 h
      obtain ⟨before, b, after, rfl, rfl⟩ := ih hn
      exact ⟨a :: before, b, after, rfl, rfl⟩

theorem modify?_eq_some {r r' : Roster α} {id : String} {f : α → α} (h : r.modify? id f = some r') :
    ∃ before a after, r.members = before ++ a :: after ∧ r'.members = before ++ f a :: after := by
  obtain ⟨m, hm, rfl⟩ := Option.map_eq_some_iff.1 h
  exact changeFirst?_eq_some hm

@[simp] theorem size_modify (r : Roster α) (id : String) (f : α → α) : (r.modify id f).size = r.size := by
  unfold modify
  cases h : r.modify? id f with
  | none => rfl
  | some r' =>
    obtain ⟨before, a, after, hr, hr'⟩ := modify?_eq_some h
    simp [size, hr, hr']

/-- A roster does not shrink when an actor is put into it. -/
theorem size_le_put (r : Roster α) (a : α) : r.size ≤ (r.put a).size := by
  unfold put replace?
  cases h : r.modify? (HasId.id a) fun _ => a with
  | none => simp [size, push]
  | some r' =>
    obtain ⟨before, b, after, hr, hr'⟩ := modify?_eq_some h
    simp [size, hr, hr']

theorem mem_of_modify? {r r' : Roster α} {id : String} {f : α → α} (h : r.modify? id f = some r') {x : α}
    (hx : x ∈ r'.members) : x ∈ r.members ∨ ∃ y ∈ r.members, x = f y := by
  obtain ⟨before, a, after, hr, hr'⟩ := modify?_eq_some h
  rw [hr', List.mem_append, List.mem_cons] at hx
  rw [hr]
  rcases hx with hx | rfl | hx
  · exact .inl (List.mem_append_left _ hx)
  · exact .inr ⟨a, by simp, rfl⟩
  · exact .inl (List.mem_append_right _ (List.mem_cons_of_mem _ hx))

theorem mem_modify {r : Roster α} {id : String} {f : α → α} {x : α} (h : x ∈ (r.modify id f).members) :
    x ∈ r.members ∨ ∃ y ∈ r.members, x = f y := by
  unfold modify at h
  cases hm : r.modify? id f with
  | none =>
    rw [hm] at h
    exact .inl h
  | some r' =>
    rw [hm] at h
    exact mem_of_modify? hm h

theorem mem_put {r : Roster α} {a x : α} (h : x ∈ (r.put a).members) : x ∈ r.members ∨ x = a := by
  unfold put replace? at h
  cases hm : r.modify? (HasId.id a) fun _ => a with
  | none => simpa [hm, push] using h
  | some r' =>
    rw [hm] at h
    rcases mem_of_modify? hm h with h | ⟨_, -, rfl⟩
    · exact .inl h
    · exact .inr rfl

theorem erase_sublist (r : Roster α) (id : String) : (r.erase id).members.Sublist r.members := by
  unfold erase erase?
  cases h : removeFirst? (fun a => HasId.id a == id) r.members with
  | none => exact List.Sublist.refl _
  | some m =>
    obtain ⟨before, a, after, hr, rfl⟩ := removeFirst?_eq_some h
    rw [hr]
    exact (List.sublist_cons_self a after).append_left before

theorem mem_erase {r : Roster α} {id : String} {x : α} (h : x ∈ (r.erase id).members) : x ∈ r.members :=
  (erase_sublist r id).subset h

/-- Whatever of the actors a change leaves alone. -/
theorem map_modify {β : Type} {g : α → β} {f : α → α} (hf : ∀ a, g (f a) = g a) (r : Roster α) (id : String) :
    (r.modify id f).members.map g = r.members.map g := by
  unfold modify
  cases h : r.modify? id f with
  | none => rfl
  | some r' =>
    obtain ⟨before, a, after, hr, hr'⟩ := modify?_eq_some h
    simp [hr, hr', hf]

theorem ids_modify (r : Roster α) (id : String) (f : α → α) (hf : ∀ a, HasId.id (f a) = HasId.id a) :
    (r.modify id f).ids = r.ids := map_modify hf r id

omit [HasId α] in
theorem find?_changeFirst? {test : α → Bool} {f : α → α} (hf : ∀ a, test (f a) = test a) (l : List α) :
    ((changeFirst? test f l).getD l).find? test = (l.find? test).map f := by
  induction l with
  | nil => rfl
  | cons a r ih =>
    cases ha : test a with
    | true => simp [changeFirst?, ha, hf]
    | false =>
      cases hr : changeFirst? test f r with
      | none => simpa [changeFirst?, ha, hr] using ih
      | some r' => simpa [changeFirst?, ha, hr] using ih

/-- Whoever has an id after a change is who had it before, changed. -/
theorem get?_modify {f : α → α} (hf : ∀ a, HasId.id (f a) = HasId.id a) (r : Roster α) (id : String) :
    (r.modify id f).get? id = (r.get? id).map f := by
  have members : (r.modify id f).members = (changeFirst? (fun a => HasId.id a == id) f r.members).getD r.members := by
    unfold modify modify?
    cases changeFirst? (fun a => HasId.id a == id) f r.members <;> rfl
  rw [get?, members, find?_changeFirst? fun a => by rw [hf], get?]

theorem map_get?_modify {β : Type} {f : α → α} {g : α → β} {b : β} (hf : ∀ a, HasId.id (f a) = HasId.id a)
    (hg : ∀ a, g (f a) = b) {r : Roster α} {id : String} (present : id ∈ r.ids) :
    ((r.modify id f).get? id).map g = some b := by
  obtain ⟨a, ha⟩ := Option.isSome_iff_exists.1 (contains_iff.2 present)
  rw [get?_modify hf, ha, Option.map_some, Option.map_some, hg]

theorem mem_of_get? {r : Roster α} {id : String} {a : α} (h : r.get? id = some a) : a ∈ r.members :=
  List.mem_of_find?_eq_some h

theorem id_mem_of_bind_get? {r : Roster α} {id : Option String} {a : α} (h : id.bind r.get? = some a) :
    HasId.id a ∈ r.ids := by
  obtain ⟨i, -, hi⟩ := Option.bind_eq_some_iff.1 h
  exact List.mem_map_of_mem (mem_of_get? hi)

theorem ids_erase_subset (r : Roster α) (id : String) : (r.erase id).ids ⊆ r.ids :=
  ((erase_sublist r id).map HasId.id).subset

/-! ### Ids that are not in use -/

omit [HasId α] in
theorem changeFirst?_eq_none_iff {test : α → Bool} {f : α → α} {l : List α} :
    changeFirst? test f l = none ↔ ∀ b ∈ l, test b = false := by
  induction l with
  | nil => simp [changeFirst?]
  | cons b l ih => cases hb : test b <;> simp [changeFirst?, hb, ih]

omit [HasId α] in
theorem removeFirst?_eq_none_iff {test : α → Bool} {l : List α} :
    removeFirst? test l = none ↔ ∀ b ∈ l, test b = false := by
  induction l with
  | nil => simp [removeFirst?]
  | cons b l ih => cases hb : test b <;> simp [removeFirst?, hb, ih]

theorem modify?_eq_none_iff {r : Roster α} {id : String} {f : α → α} : r.modify? id f = none ↔ id ∉ r.ids := by
  rw [modify?, Option.map_eq_none_iff, changeFirst?_eq_none_iff, ids, List.mem_map, not_exists]
  exact forall_congr' fun b => by rw [not_and, beq_eq_false_iff_ne]

theorem replace?_eq_none_iff {r : Roster α} {a : α} : r.replace? a = none ↔ HasId.id a ∉ r.ids := modify?_eq_none_iff

theorem erase?_eq_none_iff {r : Roster α} {id : String} : r.erase? id = none ↔ id ∉ r.ids := by
  rw [erase?, Option.map_eq_none_iff, removeFirst?_eq_none_iff, ids, List.mem_map, not_exists]
  exact forall_congr' fun b => by rw [not_and, beq_eq_false_iff_ne]

/-! ### The first actor of an id -/

/-- The first actor of an id, between those before it, who have other ids, and those after it, who may have any. -/
structure First (r : Roster α) (id : String) (before : List α) (a : α) (after : List α) : Prop where
  members : r.members = before ++ a :: after
  named : HasId.id a = id
  earlier : ∀ b ∈ before, HasId.id b ≠ id

omit [HasId α] in
theorem changeFirst?_append {test : α → Bool} {before : List α} (h : ∀ b ∈ before, test b = false) {a : α}
    (ha : test a = true) (f : α → α) (after : List α) :
    changeFirst? test f (before ++ a :: after) = some (before ++ f a :: after) := by
  induction before with
  | nil => simp [changeFirst?, ha]
  | cons b before ih =>
    obtain ⟨hb, hrest⟩ := List.forall_mem_cons.1 h
    simp [changeFirst?, hb, ih hrest]

omit [HasId α] in
theorem removeFirst?_append {test : α → Bool} {before : List α} (h : ∀ b ∈ before, test b = false) {a : α}
    (ha : test a = true) (after : List α) : removeFirst? test (before ++ a :: after) = some (before ++ after) := by
  induction before with
  | nil => simp [removeFirst?, ha]
  | cons b before ih =>
    obtain ⟨hb, hrest⟩ := List.forall_mem_cons.1 h
    simp [removeFirst?, hb, ih hrest]

theorem exists_first {r : Roster α} {id : String} (h : id ∈ r.ids) : ∃ before a after, r.First id before a after := by
  obtain ⟨a, found⟩ := Option.isSome_iff_exists.1 (contains_iff.2 h)
  obtain ⟨named, before, after, members, earlier⟩ := List.find?_eq_some_iff_append.1 found
  exact ⟨before, a, after, members, by simpa using named, by simpa using earlier⟩

namespace First
variable {r : Roster α} {id : String} {before after : List α} {a : α}

theorem test (h : r.First id before a after) : (HasId.id a == id) = true := beq_iff_eq.2 h.named

theorem test_earlier (h : r.First id before a after) : ∀ b ∈ before, (HasId.id b == id) = false :=
  fun b hb => beq_false_of_ne (h.earlier b hb)

theorem get? (h : r.First id before a after) : r.get? id = some a := by
  refine List.find?_eq_some_iff_append.2 ⟨h.test, before, after, h.members, fun b hb => ?_⟩
  rw [h.test_earlier b hb]
  rfl

theorem modify? (h : r.First id before a after) (f : α → α) : r.modify? id f = some ⟨before ++ f a :: after⟩ := by
  rw [Roster.modify?, h.members, changeFirst?_append h.test_earlier h.test, Option.map_some]

theorem replace? (h : r.First id before a after) {b : α} (hb : HasId.id b = id) :
    r.replace? b = some ⟨before ++ b :: after⟩ := by
  rw [Roster.replace?, hb, h.modify?]

theorem erase? (h : r.First id before a after) : r.erase? id = some ⟨before ++ after⟩ := by
  rw [Roster.erase?, h.members, removeFirst?_append h.test_earlier h.test, Option.map_some]

end First

/-- Who has another id does not matter to an id. -/
theorem get?_skip {a : α} {id : String} (before after : List α) (other : HasId.id a ≠ id) :
    get? ⟨before ++ a :: after⟩ id = get? ⟨before ++ after⟩ id := by
  simp [get?, other]

/-- A change to whoever has an id does not matter to another id. -/
theorem get?_modify_of_ne {f : α → α} (hf : ∀ a, HasId.id (f a) = HasId.id a) (r : Roster α) {id other : String}
    (h : id ≠ other) : (r.modify id f).get? other = r.get? other := by
  by_cases present : id ∈ r.ids
  · obtain ⟨before, a, after, first⟩ := exists_first present
    have unseen {b : α} (hb : HasId.id b = id) : get? ⟨before ++ b :: after⟩ other = get? ⟨before ++ after⟩ other :=
      get?_skip before after (hb ▸ h)
    have members : r = ⟨before ++ a :: after⟩ := congrArg Roster.mk first.members
    rw [modify, first.modify?, Option.getD_some, unseen ((hf a).trans first.named), members, unseen first.named]
  · rw [modify, modify?_eq_none_iff.2 present, Option.getD_none]

/-! ### The one actor of an id -/

/-- An actor of a roster between those before and after it, whose ids are all different from its own. -/
structure At (r : Roster α) (before : List α) (a : α) (after : List α) : Prop where
  members : r.members = before ++ a :: after
  alone : ∀ b ∈ before ++ after, HasId.id b ≠ HasId.id a

/-- Where no id is in use twice, each actor is the only one of its id. -/
theorem at_of_mem {r : Roster α} (distinct : r.ids.Nodup) {a : α} (h : a ∈ r.members) :
    ∃ before after, r.At before a after := by
  obtain ⟨before, after, hr⟩ := List.append_of_mem h
  refine ⟨before, after, hr, fun b hb => ?_⟩
  rw [ids, hr, List.map_append, List.map_cons, List.nodup_append, List.nodup_cons] at distinct
  obtain ⟨-, ⟨hafter, -⟩, hbefore⟩ := distinct
  rcases List.mem_append.1 hb with hb | hb
  · exact hbefore _ (List.mem_map_of_mem hb) _ List.mem_cons_self
  · intro hid
    exact hafter (hid ▸ List.mem_map_of_mem hb)

theorem exists_at {r : Roster α} (distinct : r.ids.Nodup) {id : String} (h : id ∈ r.ids) :
    ∃ before a after, r.At before a after ∧ HasId.id a = id := by
  obtain ⟨a, ha, rfl⟩ := List.mem_map.1 h
  obtain ⟨before, after, hat⟩ := at_of_mem distinct ha
  exact ⟨before, a, after, hat, rfl⟩

namespace At
variable {r : Roster α} {before after : List α} {a : α}

theorem first (h : r.At before a after) : r.First (HasId.id a) before a after :=
  ⟨h.members, rfl, fun b hb => h.alone b (List.mem_append_left _ hb)⟩

theorem modify (h : r.At before a after) (f : α → α) : r.modify (HasId.id a) f = ⟨before ++ f a :: after⟩ := by
  rw [Roster.modify, h.first.modify?, Option.getD_some]

theorem put (h : r.At before a after) {b : α} (hb : HasId.id b = HasId.id a) : r.put b = ⟨before ++ b :: after⟩ := by
  rw [Roster.put, h.first.replace? hb, Option.getD_some]

theorem erase (h : r.At before a after) : r.erase (HasId.id a) = ⟨before ++ after⟩ := by
  rw [Roster.erase, h.first.erase?, Option.getD_some]

theorem get? (h : r.At before a after) : r.get? (HasId.id a) = some a := h.first.get?

/-- An actor who is put where it stands changes nothing. -/
theorem put_self (h : r.At before a after) : r.put a = r := by
  rw [h.put rfl, ← h.members]

end At

/-- An actor whose id is not in use is added at the end. -/
theorem put_of_notMem {r : Roster α} {a : α} (h : HasId.id a ∉ r.ids) : r.put a = r.push a := by
  rw [put, replace?_eq_none_iff.2 h, Option.getD_none]

theorem ids_put_of_notMem {r : Roster α} {a : α} (h : HasId.id a ∉ r.ids) :
    (r.put a).ids = r.ids ++ [HasId.id a] := by
  rw [put_of_notMem h, ids_push]

theorem get?_put_of_notMem {r : Roster α} {a : α} (h : HasId.id a ∉ r.ids) : (r.put a).get? (HasId.id a) = some a := by
  have alone : (r.push a).At r.members a [] := by
    refine ⟨rfl, ?_⟩
    rintro b hb same
    rw [List.append_nil] at hb
    exact h (same ▸ List.mem_map_of_mem hb)
  rw [put_of_notMem h, alone.get?]

theorem ids_replace? {r r' : Roster α} {a : α} (h : r.replace? a = some r') : r'.ids = r.ids := by
  obtain ⟨members, hm, rfl⟩ := Option.map_eq_some_iff.1 h
  exact ids_changeFirst (fun _ _ => rfl) hm

theorem ids_erase? {r r' : Roster α} {id : String} (h : r.erase? id = some r') : r'.ids = r.ids.erase id := by
  obtain ⟨members, hm, rfl⟩ := Option.map_eq_some_iff.1 h
  exact ids_removeFirst hm

/-- An actor whose id is in use takes the place of the one that has it. -/
theorem ids_put_of_mem {r : Roster α} {a : α} (h : HasId.id a ∈ r.ids) : (r.put a).ids = r.ids := by
  obtain ⟨before, b, after, first⟩ := exists_first h
  rw [put, first.replace? rfl, Option.getD_some]
  exact ids_replace? (first.replace? rfl)

/-! ### What all actors have -/

variable {r : Roster α} {P : α → Prop}

theorem forall_put (h : ∀ x ∈ r.members, P x) {a : α} (ha : P a) : ∀ x ∈ (r.put a).members, P x := by
  intro x hx
  rcases mem_put hx with hx | rfl
  · exact h x hx
  · exact ha

theorem forall_erase (h : ∀ x ∈ r.members, P x) (id : String) : ∀ x ∈ (r.erase id).members, P x :=
  fun x hx => h x (mem_erase hx)

theorem forall_modify (h : ∀ x ∈ r.members, P x) {f : α → α} (hf : ∀ x, P x → P (f x)) (id : String) :
    ∀ x ∈ (r.modify id f).members, P x := by
  intro x hx
  rcases mem_modify hx with hx | ⟨y, hy, rfl⟩
  · exact h x hx
  · exact hf y (h y hy)

end Roster

end PowerOfAttorney
