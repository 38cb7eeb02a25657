import Mathlib.Data.Set.Card
import Mathlib.Logic.Function.Basic
import PowerOfAttorney.Proofs.Rosters

/-! A roster as a map from ids to actors that keeps its ids in the order in which they came. Where no id is in use twice,
    a request does to the roster what it does to the map (`Roster.ask_toMap`), and so do requests one after the other
    (`Roster.answers_toMap`). Where ids are in use twice, a request is about the first actor of its id. -/

namespace PowerOfAttorney

/-! ### Requests -/

namespace Roster

inductive Request (α : Type) where
  /-- To stand in the place of whoever has the id. -/
  | replace (a : α)
  /-- To take out whoever has the id of this one. -/
  | erase (a : α)
  | push (a : α)
  | clear
  | get (id : String)
  | contains (id : String)

inductive Answer (α : Type) where
  | done
  | found (present : Bool)
  | actor (a : Option α)
deriving DecidableEq

/-- The answers to requests that are made one after the other, and what there is then. -/
def answers {σ α : Type} (ask : σ → Request α → Answer α × σ) (s : σ) : List (Request α) → List (Answer α) × σ
  | [] => ([], s)
  | q :: qs => ((ask s q).1 :: (answers ask (ask s q).2 qs).1, (answers ask (ask s q).2 qs).2)

def ask {α : Type} [HasId α] (r : Roster α) : Request α → Answer α × Roster α
  | .replace a => (.found (r.replace? a).isSome, (r.replace? a).getD r)
  | .erase a => (.found (r.erase? (HasId.id a)).isSome, (r.erase? (HasId.id a)).getD r)
  | .push a => (.done, r.push a)
  | .clear => (.done, {})
  | .get id => (.actor (r.get? id), r)
  | .contains id => (.found (r.contains id), r)

end Roster

/-! ### Maps -/

/-- A map from ids that keeps them in the order in which they came. -/
@[ext]
structure OrderedMap (α : Type) where
  keys : List String
  value : String → Option α
  nodup : keys.Nodup
  mem_keys_iff : ∀ id, id ∈ keys ↔ (value id).isSome = true

namespace OrderedMap
variable {α : Type}

def empty : OrderedMap α where
  keys := []
  value _ := none
  nodup := List.nodup_nil
  mem_keys_iff _ := by simp

/-- Another value for an id, which comes last if it is new. -/
def insert (m : OrderedMap α) (id : String) (a : α) : OrderedMap α where
  keys := if id ∈ m.keys then m.keys else m.keys ++ [id]
  value := Function.update m.value id (some a)
  nodup := by
    split
    · exact m.nodup
    · rename_i new
      rw [← List.concat_eq_append]
      exact m.nodup.concat new
  mem_keys_iff other := by
    by_cases same : other = id
    · subst same
      rw [Function.update_self]
      split <;> simp [*]
    · rw [Function.update_of_ne same, ← m.mem_keys_iff]
      split <;> simp [same]

def erase (m : OrderedMap α) (id : String) : OrderedMap α where
  keys := m.keys.erase id
  value := Function.update m.value id none
  nodup := m.nodup.erase id
  mem_keys_iff other := by
    rw [m.nodup.mem_erase_iff]
    by_cases same : other = id
    · subst same
      simp
    · rw [Function.update_of_ne same, ← m.mem_keys_iff]
      simp [same]

/-- The values in the order of their ids. -/
def entries (m : OrderedMap α) : List α := m.keys.filterMap m.value

def ask [HasId α] (m : OrderedMap α) : Roster.Request α → Roster.Answer α × OrderedMap α
  | .replace a => if HasId.id a ∈ m.keys then (.found true, m.insert (HasId.id a) a) else (.found false, m)
  | .erase a => if HasId.id a ∈ m.keys then (.found true, m.erase (HasId.id a)) else (.found false, m)
  | .push a => (.done, m.insert (HasId.id a) a)
  | .clear => (.done, .empty)
  | .get id => (.actor (m.value id), m)
  | .contains id => (.found (decide (id ∈ m.keys)), m)

end OrderedMap

namespace Roster
variable {α : Type} [HasId α] {r : Roster α} {id : String} {before after : List α} {a b : α} {q : Request α}

/-! ### A request for an id that is in use, or is not -/

theorem First.ask_replace (h : r.First id before a after) (hb : HasId.id b = id) :
    r.ask (.replace b) = (.found true, ⟨before ++ b :: after⟩) := by
  rw [ask, h.replace? hb]
  rfl

theorem First.ask_erase (h : r.First id before a after) (hb : HasId.id b = id) :
    r.ask (.erase b) = (.found true, ⟨before ++ after⟩) := by
  rw [ask, hb, h.erase?]
  rfl

theorem ask_replace_of_notMem (absent : HasId.id b ∉ r.ids) : r.ask (.replace b) = (.found false, r) := by
  rw [ask, replace?_eq_none_iff.2 absent]
  rfl

theorem ask_erase_of_notMem (absent : HasId.id b ∉ r.ids) : r.ask (.erase b) = (.found false, r) := by
  rw [ask, erase?_eq_none_iff.2 absent]
  rfl

/-! ### Who has an id after a request -/

theorem First.get?_replaced (h : r.First id before a after) (hb : HasId.id b = id) :
    Roster.get? ⟨before ++ b :: after⟩ = Function.update r.get? id (some b) := by
  funext other
  by_cases same : other = id
  · subst same
    rw [Function.update_self]
    exact First.get? ⟨rfl, hb, h.earlier⟩
  · rw [Function.update_of_ne same, get?_skip before after (hb ▸ Ne.symm same),
      ← get?_skip (a := a) before after (h.named ▸ Ne.symm same), ← h.members]

theorem First.get?_erased (h : r.First id before a after) (distinct : r.ids.Nodup) :
    Roster.get? ⟨before ++ after⟩ = Function.update r.get? id none := by
  funext other
  by_cases same : other = id
  · subst same
    rw [Function.update_self, get?_eq_none_iff]
    rw [ids, h.members, List.map_append, List.map_cons, List.nodup_middle, List.nodup_cons, h.named,
      ← List.map_append] at distinct
    exact distinct.1
  · rw [Function.update_of_ne same, ← get?_skip (a := a) before after (h.named ▸ Ne.symm same), ← h.members]

theorem get?_push (fresh : HasId.id a ∉ r.ids) :
    (r.push a).get? = Function.update r.get? (HasId.id a) (some a) := by
  have first : (r.push a).First (HasId.id a) r.members a [] :=
    ⟨rfl, rfl, fun b hb same => fresh (same ▸ List.mem_map_of_mem hb)⟩
  funext other
  by_cases same : other = HasId.id a
  · subst same
    rw [Function.update_self, first.get?]
  · rw [Function.update_of_ne same, push, get?_skip r.members [] (Ne.symm same), List.append_nil]

/-! ### A request to a roster and to its map -/

/-- The map of a roster in which no id is in use twice. -/
def toMap (r : Roster α) (distinct : r.ids.Nodup) : OrderedMap α where
  keys := r.ids
  value := r.get?
  nodup := distinct
  mem_keys_iff _ := contains_iff.symm

/-- A roster is nothing but its map. -/
theorem entries_toMap (distinct : r.ids.Nodup) : (r.toMap distinct).entries = r.members := by
  have found : ∀ a ∈ r.members, r.get? (HasId.id a) = some a := by
    intro a ha
    obtain ⟨_, _, hat⟩ := at_of_mem distinct ha
    exact hat.get?
  calc (r.toMap distinct).entries
    _ = r.members.filterMap fun a => r.get? (HasId.id a) := List.filterMap_map
    _ = r.members.filterMap some := List.filterMap_congr found
    _ = r.members := List.filterMap_some

/-- A new actor is pushed only under an id that is not in use. -/
def Request.Fits (r : Roster α) : Request α → Prop
  | .push a => HasId.id a ∉ r.ids
  | _ => True

/-- A request is answered alike by a roster and by its map, and the map of the roster afterwards is the map afterwards. -/
theorem ask_toMap (distinct : r.ids.Nodup) (fits : q.Fits r) : ∃ kept : (r.ask q).2.ids.Nodup,
    (r.toMap distinct).ask q = ((r.ask q).1, (r.ask q).2.toMap kept) := by
  cases q with
  | replace b =>
    by_cases present : HasId.id b ∈ r.ids
    · obtain ⟨before, a, after, first⟩ := exists_first present
      have same : ids ⟨before ++ b :: after⟩ = r.ids := ids_replace? (first.replace? rfl)
      rw [first.ask_replace rfl]
      refine ⟨same ▸ distinct, (if_pos present).trans ?_⟩
      refine congrArg (Prod.mk _) (OrderedMap.ext ?_ (first.get?_replaced rfl).symm)
      exact (if_pos present).trans same.symm
    · rw [ask_replace_of_notMem present]
      exact ⟨distinct, if_neg present⟩
  | erase b =>
    by_cases present : HasId.id b ∈ r.ids
    · obtain ⟨before, a, after, first⟩ := exists_first present
      have others : ids ⟨before ++ after⟩ = r.ids.erase (HasId.id b) := ids_erase? first.erase?
      rw [first.ask_erase rfl]
      refine ⟨others ▸ distinct.erase _, (if_pos present).trans ?_⟩
      exact congrArg (Prod.mk _) (OrderedMap.ext others.symm (first.get?_erased distinct).symm)
    · rw [ask_erase_of_notMem present]
      exact ⟨distinct, if_neg present⟩
  | push a =>
    have kept : (r.push a).ids.Nodup := by
      rw [ids_push, ← List.concat_eq_append]
      exact distinct.concat fits
    refine ⟨kept, congrArg (Prod.mk _) (OrderedMap.ext ?_ (get?_push fits).symm)⟩
    exact (if_neg fits).trans (ids_push r a).symm
  | clear => exact ⟨List.nodup_nil, rfl⟩
  | get id => exact ⟨distinct, rfl⟩
  | contains id =>
    refine ⟨distinct, congrArg (fun present => (Answer.found present, r.toMap distinct)) ?_⟩
    rw [Bool.eq_iff_iff, decide_eq_true_iff]
    exact contains_iff.symm

/-! ### Requests one after the other -/

/-- Each request fits the roster that those before it leave. -/
def FitsAll (r : Roster α) : List (Request α) → Prop
  | [] => True
  | q :: qs => q.Fits r ∧ FitsAll (r.ask q).2 qs

theorem answers_toMap {qs : List (Request α)} (distinct : r.ids.Nodup) (fits : r.FitsAll qs) :
    ∃ kept : (answers ask r qs).2.ids.Nodup,
      answers OrderedMap.ask (r.toMap distinct) qs = ((answers ask r qs).1, (answers ask r qs).2.toMap kept) := by
  induction qs generalizing r with
  | nil => exact ⟨distinct, rfl⟩
  | cons q qs ih =>
    obtain ⟨next, step⟩ := ask_toMap distinct fits.1
    obtain ⟨kept, rest⟩ := ih next fits.2
    refine ⟨kept, ?_⟩
    rw [answers, step, rest]
    rfl

/-! ### The latest actor under an id -/

/-- A request that may change who has an id. -/
def Request.Concerns (id : String) : Request α → Prop
  | .replace a | .erase a | .push a => HasId.id a = id
  | .clear => True
  | .get _ | .contains _ => False

/-- A request that puts an actor under its id: a new one, or one in the place of another. -/
def Request.Gives (r : Roster α) (a : α) : Request α → Prop
  | .replace b => b = a ∧ HasId.id a ∈ r.ids
  | .push b => b = a
  | _ => False

omit [HasId α] in
theorem update_eq_some_iff {f : String → Option α} {key : String} {v : Option α} :
    Function.update f key v id = some a ↔ (f id = some a ∧ key ≠ id) ∨ (key = id ∧ v = some a) := by
  by_cases same : key = id
  · subst same
    simp
  · simp [Function.update_of_ne (Ne.symm same), same]

/-- After a request an id has whom it had, unless the request was about it, or whom the request gave it. -/
theorem get?_ask (distinct : r.ids.Nodup) (fits : q.Fits r) :
    (r.ask q).2.get? id = some a ↔ (r.get? id = some a ∧ ¬q.Concerns id) ∨ (HasId.id a = id ∧ q.Gives r a) := by
  have unnamed : ∀ b : α, HasId.id b ∉ r.ids → r.get? id = some a → HasId.id b ≠ id := by
    rintro b absent found rfl
    rw [get?_eq_none_iff.2 absent] at found
    cases found
  cases q with
  | replace b =>
    by_cases present : HasId.id b ∈ r.ids
    · obtain ⟨before, c, after, first⟩ := exists_first present
      rw [first.ask_replace rfl, first.get?_replaced rfl, update_eq_some_iff, Option.some.injEq]
      refine or_congr Iff.rfl ⟨?_, ?_⟩
      · rintro ⟨named, rfl⟩
        exact ⟨named, rfl, present⟩
      · rintro ⟨named, rfl, -⟩
        exact ⟨named, rfl⟩
    · rw [ask_replace_of_notMem present]
      constructor
      · exact fun found => .inl ⟨found, unnamed b present found⟩
      · rintro (⟨found, -⟩ | ⟨-, rfl, absurdly⟩)
        · exact found
        · exact absurd absurdly present
  | erase b =>
    by_cases present : HasId.id b ∈ r.ids
    · obtain ⟨before, c, after, first⟩ := exists_first present
      rw [first.ask_erase rfl, first.get?_erased distinct, update_eq_some_iff]
      refine or_congr Iff.rfl ⟨?_, ?_⟩
      · rintro ⟨-, none⟩
        cases none
      · exact fun given => given.2.elim
    · rw [ask_erase_of_notMem present]
      constructor
      · exact fun found => .inl ⟨found, unnamed b present found⟩
      · rintro (⟨found, -⟩ | ⟨-, none⟩)
        · exact found
        · exact none.elim
  | push b =>
    rw [ask, get?_push fits, update_eq_some_iff, Option.some.injEq]
    refine or_congr Iff.rfl ⟨?_, ?_⟩
    · rintro ⟨named, rfl⟩
      exact ⟨named, rfl⟩
    · rintro ⟨named, rfl⟩
      exact ⟨named, rfl⟩
  | clear => simp [ask, get?, Request.Concerns, Request.Gives]
  | get other => simp [ask, Request.Concerns, Request.Gives]
  | contains other => simp [ask, Request.Concerns, Request.Gives]

/-- One of the requests gave an actor its id, and none after it was about that id. -/
def LastGiven (r : Roster α) (qs : List (Request α)) (id : String) (a : α) : Prop :=
  ∃ before q after, qs = before ++ q :: after ∧ HasId.id a = id ∧ q.Gives (answers ask r before).2 a ∧
    ∀ p ∈ after, ¬p.Concerns id

/-- Whoever has an id is who was given it last, or had it from the beginning if no request was about it. -/
theorem get?_answers {qs : List (Request α)} (distinct : r.ids.Nodup) (fits : r.FitsAll qs) :
    (answers ask r qs).2.get? id = some a ↔
      (r.get? id = some a ∧ ∀ q ∈ qs, ¬q.Concerns id) ∨ r.LastGiven qs id a := by
  induction qs generalizing r with
  | nil =>
    have none : ¬r.LastGiven [] id a := by
      rintro ⟨before, q, after, parts, -⟩
      simp at parts
    simp [answers, none]
  | cons q qs ih =>
    obtain ⟨next, -⟩ := ask_toMap distinct fits.1
    rw [answers, ih next fits.2, get?_ask distinct fits.1, List.forall_mem_cons]
    constructor
    · rintro (⟨⟨found, other⟩ | ⟨named, given⟩, later⟩ | ⟨before, p, after, rfl, named, given, later⟩)
      · exact .inl ⟨found, other, later⟩
      · exact .inr ⟨[], q, qs, rfl, named, given, later⟩
      · exact .inr ⟨q :: before, p, after, rfl, named, given, later⟩
    · rintro (⟨found, other, later⟩ | ⟨before, p, after, parts, named, given, later⟩)
      · exact .inl ⟨.inl ⟨found, other⟩, later⟩
      · -- the request that gave it is the one at the front or one of the others
        rcases before with _ | ⟨first, before⟩
        · obtain ⟨rfl, rfl⟩ := List.cons.inj parts
          exact .inl ⟨.inr ⟨named, given⟩, later⟩
        · obtain ⟨rfl, rfl⟩ := List.cons.inj parts
          exact .inr ⟨before, p, after, rfl, named, given, later⟩

theorem size_eq_ncard (distinct : r.ids.Nodup) : r.size = {id | (r.get? id).isSome = true}.ncard := by
  have live : {id | (r.get? id).isSome = true} = (r.ids.toFinset : Set String) := by
    ext id
    rw [List.coe_toFinset]
    exact contains_iff
  rw [live, Set.ncard_coe_finset, List.toFinset_card_of_nodup distinct, ids, List.length_map, size]

/-! ### Rosters as maps -/

/-- Where no id is in use twice, a roster answers any requests as the map does that keeps its ids in order, and is
    afterwards that map again: what is pushed comes last, a replacement takes the place of who had the id, and what is
    taken out leaves the others in order. An id has the actor that it was given last, and there are as many actors as
    ids that have one. Where ids are in use twice, a request is about the first actor of its id alone. -/
theorem answers_as_map :
    (∀ (r : Roster α) (distinct : r.ids.Nodup) (qs : List (Request α)), r.FitsAll qs →
      (∃ kept : (answers ask r qs).2.ids.Nodup,
        answers OrderedMap.ask (r.toMap distinct) qs = ((answers ask r qs).1, (answers ask r qs).2.toMap kept)) ∧
      (answers ask r qs).2.members = (answers OrderedMap.ask (r.toMap distinct) qs).2.entries ∧
      (∀ id a, (answers ask r qs).2.get? id = some a ↔
        (r.get? id = some a ∧ ∀ q ∈ qs, ¬q.Concerns id) ∨ r.LastGiven qs id a) ∧
      (answers ask r qs).2.size = {id | ((answers ask r qs).2.get? id).isSome = true}.ncard) ∧
    ∀ (r : Roster α) (id : String),
      (id ∈ r.ids → ∃ before a after, r.First id before a after) ∧
      (∀ before a after, r.First id before a after → r.ask (.get id) = (.actor (some a), r) ∧
        ∀ b, HasId.id b = id → r.ask (.replace b) = (.found true, ⟨before ++ b :: after⟩) ∧
          r.ask (.erase b) = (.found true, ⟨before ++ after⟩)) ∧
      (id ∉ r.ids → r.ask (.get id) = (.actor none, r) ∧
        ∀ b, HasId.id b = id → r.ask (.replace b) = (.found false, r) ∧ r.ask (.erase b) = (.found false, r)) := by
  refine ⟨fun r distinct qs fits => ?_, fun r id => ⟨exists_first, fun before a after first => ?_, fun absent => ?_⟩⟩
  · obtain ⟨kept, same⟩ := answers_toMap distinct fits
    refine ⟨⟨kept, same⟩, ?_, fun id a => get?_answers distinct fits, size_eq_ncard kept⟩
    rw [same, entries_toMap]
  · refine ⟨?_, fun b hb => ⟨first.ask_replace hb, first.ask_erase hb⟩⟩
    rw [ask, first.get?]
  · refine ⟨?_, fun b hb => ⟨ask_replace_of_notMem (hb ▸ absent), ask_erase_of_notMem (hb ▸ absent)⟩⟩
    rw [ask, get?_eq_none_iff.2 absent]

/-- Of three attorneys the second is replaced and the first taken out; another one comes last under the id of that one.
    Of two with one id the first is taken out. -/
theorem answers_as_map_of_three :
    let named := fun id firstNames => ({ id, firstNames } : Attorney)
    let r : Roster Attorney := ⟨[named "a" "John", named "b" "Joan", named "c" "Jim"]⟩
    let qs := [.replace (named "b" "Joanna"), .erase (named "a" ""), .push (named "a" "Ann"), .replace (named "z" "Zed"),
      .get "b"]
    r.ids.Nodup ∧ r.FitsAll qs ∧
    (answers ask r qs).1 =
      [.found true, .found true, .done, .found false, .actor (some (named "b" "Joanna"))] ∧
    (answers ask r qs).2.members = [named "b" "Joanna", named "c" "Jim", named "a" "Ann"] ∧
    ask ⟨[named "a" "John", named "a" "Joan"]⟩ (.erase (named "a" "")) = (.found true, ⟨[named "a" "Joan"]⟩) := by
  intro named r qs
  have distinct : r.ids.Nodup := by decide
  have free : "a" ∉ (⟨[named "b" "Joanna", named "c" "Jim"]⟩ : Roster Attorney).ids := by decide
  have fits : r.FitsAll qs := ⟨trivial, trivial, free, trivial, trivial, trivial⟩
  obtain ⟨⟨kept, same⟩, members, -⟩ := answers_as_map.1 r distinct qs fits
  have first : First (⟨[named "a" "John", named "a" "Joan"]⟩ : Roster Attorney) "a" [] (named "a" "John")
      [named "a" "Joan"] := ⟨rfl, rfl, List.forall_mem_nil _⟩
  obtain ⟨-, found, -⟩ := answers_as_map.2 (⟨[named "a" "John", named "a" "Joan"]⟩ : Roster Attorney) "a"
  refine ⟨distinct, fits, (congrArg Prod.fst same).symm.trans rfl, members.trans rfl, ?_⟩
  exact ((found _ _ _ first).2 (named "a" "") rfl).2

end Roster

end PowerOfAttorney
