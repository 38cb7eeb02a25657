import Mathlib.Data.List.Induction
import PowerOfAttorney.Proofs.Acceptance
import PowerOfAttorney.Store.Memory
import PowerOfAttorney.Wizard.Run

/-! Calls on the memory, one after the other. A call opens the LPA of its session, or creates one where there is
    none and none is asked for by its id; it then writes at most once more, and to no other session
    (`Call.run_of_opens`, `Call.run_of_not_opens`). What empty LPAs have and every rule of `Stores` keeps, the LPAs
    of every reached memory therefore have (`Reached.induct`). -/

namespace PowerOfAttorney

namespace Memory

/-! ### Writing twice -/

theorem insert_insert (m : Memory) (session : String) (l l' : Lpa) :
    (m.insert session l).insert session l' = m.insert session l' := by
  obtain ⟨es⟩ := m
  simp only [insert, mk.injEq]
  induction es with
  | nil => simp [insertIn]
  | cons e r ih => by_cases h : e.1 = session <;> simp [insertIn, h, ih]

theorem insert_of_find? {m : Memory} {session : String} {l : Lpa} (h : m.find? session = some l) :
    m.insert session l = m := by
  obtain ⟨es⟩ := m
  simp only [find?] at h
  simp only [insert, mk.injEq]
  induction es with
  | nil => simp [findIn] at h
  | cons e r ih =>
    by_cases he : e.1 = session
    · simp only [findIn, he, ↓reduceIte, Option.some.injEq] at h
      simp [insertIn, ← he, ← h]
    · simp only [findIn, he, ↓reduceIte] at h
      simp [insertIn, he, ih h]

/-- What is stored is told from what was there by its version. -/
theorem insert_ne_of_version {m : Memory} {session : String} {l l' : Lpa} (hl : m.find? session = some l)
    (h : l'.version ≠ l.version) : m.insert session l' ≠ m := by
  intro hsame
  have hfind := find?_insert_self m session l'
  rw [hsame, hl, Option.some.injEq] at hfind
  exact h (congrArg Lpa.version hfind.symm)

theorem versionOf_of_find? {m : Memory} {session : String} {l : Lpa} (h : m.find? session = some l) :
    m.versionOf session = l.version := by
  simp [versionOf, h]

theorem versionOf_of_none {m : Memory} {session : String} (h : m.find? session = none) : m.versionOf session = 0 := by
  simp [versionOf, h]

theorem put_of_version {m : Memory} {session : String} {l : Lpa} (h : m.versionOf session = l.version) :
    m.put session l = (.ok (l.version + 1), m.insert session { l with version := l.version + 1 }) := by
  simp [put, h]

theorem put_of_version_ne {m : Memory} {session : String} {l : Lpa} (h : m.versionOf session ≠ l.version) :
    m.put session l = (.error (.conflict l.version (m.versionOf session)), m) := by
  simp [put, h]

end Memory

namespace Wizard

/-! ### A decision that nothing comes between -/

namespace Decision

/-- The answer of a decision whose write succeeds, if there is one. -/
def result (d : Decision) : Except Failure Reply :=
  match d.verdict with
  | .answer reply => .ok reply
  | .fail f => .error f
  | .save _ reply => .ok reply

/-- What there is after a decision about an LPA: the LPA itself, or what is stored, one version on. -/
def after (d : Decision) (l : Lpa) : Lpa :=
  match d.verdict with
  | .save l' _ => { l' with version := l'.version + 1 }
  | _ => l

/-- The outcome of a decision whose write succeeds, if there is one. -/
def outcome (d : Decision) : Outcome := { result := d.result, source := d.source, lookedUp := d.lookedUp }

/-- An operation that is taken to its end without another one between its read and its write. -/
theorem run_course (w : Surroundings) (op : Operation) {m : Memory} {session : String} {l : Lpa}
    (h : m.find? session = some l) : (op.decide w l).course.run Memory.store session m =
      ((op.decide w l).outcome, m.insert session ((op.decide w l).after l)) := by
  unfold course outcome result after
  cases hv : (op.decide w l).verdict with
  | answer reply => simp [Course.run, Memory.insert_of_find? h]
  | fail f => simp [Course.run, Memory.insert_of_find? h]
  | save l' reply =>
    have hver : m.versionOf session = l'.version := by
      rw [Memory.versionOf_of_find? h, (decide_eq_save_iff.1 hv).id_version.2]
    simp [Course.run, Memory.store, Memory.put_of_version hver]

theorem after_eq_or {w : Surroundings} {op : Operation} {l : Lpa} : (op.decide w l).after l = l ∨
    ∃ l' r, Stores w l op l' r ∧ (op.decide w l).after l = { l' with version := l.version + 1 } := by
  unfold after
  cases hv : (op.decide w l).verdict with
  | answer reply => exact .inl rfl
  | fail f => exact .inl rfl
  | save l' r =>
    have hs := decide_eq_save_iff.1 hv
    exact .inr ⟨l', r, hs, by rw [← hs.id_version.2]⟩

end Decision

/-! ### Calls -/

structure Call where
  session : String
  /-- The id of the LPA asked for, if one is. -/
  scope : Option String := none
  surroundings : Surroundings
  operation : Operation

namespace Call

def run (c : Call) (m : Memory) : Outcome × Memory :=
  c.operation.run Memory.store c.surroundings c.session c.scope m

/-- The LPA that a call creates where there is none. -/
def created (c : Call) : Lpa := { Lpa.empty c.surroundings.newId with version := 1 }

/-- The LPA that a call is about: the one of its session, or the one that it creates. -/
def opened (c : Call) (m : Memory) : Lpa := (m.find? c.session).getD c.created

/-- Whether the session has the LPA that is asked for by its id, if one is. -/
def Opens (c : Call) (m : Memory) : Prop := ∀ id ∈ c.scope, ∃ l, m.find? c.session = some l ∧ l.id = id

def decision (c : Call) (m : Memory) : Decision := c.operation.decide c.surroundings (c.opened m)

variable {c : Call} {m : Memory}

theorem opened_of_find? {l : Lpa} (h : m.find? c.session = some l) : c.opened m = l := by
  simp [opened, h]

theorem run_of_opens (h : c.Opens m) :
    c.run m = ((c.decision m).outcome, m.insert c.session ((c.decision m).after (c.opened m))) := by
  unfold run Operation.run
  cases hm : m.find? c.session with
  | some l =>
    rw [decision, opened_of_find? hm, ← Decision.run_course _ _ hm]
    cases hs : c.scope with
    | none => simp [Memory.store, hm, Operation.course]
    | some id =>
      obtain ⟨l₀, hl₀, hid⟩ := h id hs
      rw [hm, Option.some.injEq] at hl₀
      simp [Memory.store, hm, Operation.course, hl₀, hid]
  | none =>
    cases hs : c.scope with
    | some id =>
      obtain ⟨l₀, hl₀, -⟩ := h id hs
      rw [hm] at hl₀
      cases hl₀
    | none =>
      have hfirst : m.put c.session (Lpa.empty c.surroundings.newId) = (.ok 1, m.insert c.session c.created) :=
        Memory.put_of_version (Memory.versionOf_of_none hm)
      have hrun := Decision.run_course c.surroundings c.operation (Memory.find?_insert_self m c.session c.created)
      rw [Memory.insert_insert] at hrun
      simp only [Memory.store, hm, Operation.course, Course.run, hfirst, decision, opened, Option.getD_none]
      exact hrun

/-- A call that only answers changes nothing. -/
theorem run_of_answer {l : Lpa} {r : Reply} (h : m.find? c.session = some l) (ho : c.Opens m)
    (hv : (c.operation.decide c.surroundings l).verdict = .answer r) :
    (c.run m).1.result = .ok r ∧ (c.run m).2 = m := by
  rw [run_of_opens ho, decision, opened_of_find? h, Decision.outcome, Decision.result, Decision.after, hv]
  exact ⟨rfl, Memory.insert_of_find? h⟩

/-- A call that stores something leaves that behind, one version on. -/
theorem run_of_stores {l l' : Lpa} {r : Reply} (h : m.find? c.session = some l) (ho : c.Opens m)
    (hs : Stores c.surroundings l c.operation l' r) : (c.run m).1.result = .ok r ∧
      (c.run m).2.find? c.session = some { l' with version := l'.version + 1 } := by
  rw [run_of_opens ho, decision, opened_of_find? h, Decision.outcome, Decision.result, Decision.after,
    decide_eq_save_iff.2 hs]
  exact ⟨rfl, Memory.find?_insert_self _ _ _⟩

/-- A call for an LPA that the session does not have finds none and changes nothing. -/
theorem run_of_not_opens (h : ¬c.Opens m) :
    c.run m = ({ result := .error .notFound, source := c.surroundings.source }, m) := by
  unfold Opens at h
  cases hs : c.scope with
  | none => simp [hs] at h
  | some id =>
    simp only [hs, Option.mem_some_iff, forall_eq'] at h
    unfold run Operation.run
    cases hm : m.find? c.session with
    | none => simp [Memory.store, hm, hs, Operation.course, Course.run]
    | some l =>
      have hid : l.id ≠ id := fun hid => h ⟨l, hm, hid⟩
      simp [Memory.store, hm, hs, Operation.course, hid, Course.run]

theorem find?_run_of_ne {session : String} (h : session ≠ c.session) : (c.run m).2.find? session = m.find? session := by
  by_cases ho : c.Opens m
  · rw [run_of_opens ho]
    exact Memory.find?_insert_of_ne m _ h
  · rw [run_of_not_opens ho]

/-- What a session has after a call of its own: what it had, the LPA that was created, or what was stored. -/
theorem find?_run {l' : Lpa} (h : (c.run m).2.find? c.session = some l') : l' = c.opened m ∨
    ∃ l r, Stores c.surroundings (c.opened m) c.operation l r ∧
      l' = { l with version := (c.opened m).version + 1 } := by
  by_cases ho : c.Opens m
  · rw [run_of_opens ho] at h
    simp only [Memory.find?_insert_self, Option.some.injEq] at h
    subst h
    exact Decision.after_eq_or
  · rw [run_of_not_opens ho] at h
    exact .inl (opened_of_find? h).symm

/-- A session that has an LPA has one after every call. -/
theorem find?_run_isSome {session : String} {l : Lpa} (h : m.find? session = some l) :
    ∃ l', (c.run m).2.find? session = some l' := by
  by_cases hs : session = c.session
  · subst hs
    by_cases ho : c.Opens m
    · rw [run_of_opens ho]
      exact ⟨_, Memory.find?_insert_self m _ _⟩
    · rw [run_of_not_opens ho]
      exact ⟨l, h⟩
  · exact ⟨l, (find?_run_of_ne hs).trans h⟩

end Call

/-- Surroundings in which nothing is known of any postcode, and ids are numbers. -/
def Surroundings.plain : Surroundings where
  today := { year := 2026, month := 1, day := 1, isDay := by decide }
  now := 1767225600000
  newId := "lpa"
  source := .scripted []
  lookup _ := .ok []

/-- A form that a session sends in such surroundings. -/
def Submission.call (s : Submission) (session : String) : Call :=
  { session, surroundings := .plain, operation := .submit s }

theorem Submission.opens_call (s : Submission) (session : String) (m : Memory) : (s.call session).Opens m := by
  simp [Call.Opens, call]

/-- The details of a grown-up attorney. -/
def Submission.details (role : AttorneyRole) (firstNames : String) : Submission :=
  .actorDetails role none
    { firstNames, lastName := "Smith", email := "smith@example.org"
      birth := { day := "1", month := "2", year := "1990" } }

/-- The details of a grown-up donor. -/
def Submission.donor (firstNames lastName : String) : Submission :=
  .donorDetails { firstNames, lastName, birth := { day := "1", month := "2", year := "1970" } }

/-- An address written by hand, of the actor of a collection that is the `n`-th of it in such surroundings. -/
def Submission.writtenAddress (c : Collection) (n : Nat) : Submission :=
  .address (.actor c (Text.Decimal.padded Source.idLength n))
    { action := "manual", line1 := "1 Road", town := "Town", postcode := "T1 1TT" }

/-! ### Memories that are reached -/

/-- The memories reached from an empty one by calls that are allowed on the LPA they are about. -/
inductive Reached (allowed : Call → Lpa → Prop) : Memory → Prop
  | empty : Reached allowed {}
  | call {m : Memory} (c : Call) (reached : Reached allowed m) (permitted : allowed c (c.opened m)) :
      Reached allowed (c.run m).2

/-- The memories reached by any calls. -/
abbrev Reachable : Memory → Prop := Reached fun _ _ => True

/-- The memory after calls none of which comes between another one's read and its writes. -/
def sequential (calls : List Call) : Memory := calls.foldl (fun m c => (c.run m).2) {}

theorem sequential_append (calls : List Call) (c : Call) :
    sequential (calls ++ [c]) = (c.run (sequential calls)).2 := by
  simp [sequential]

theorem reached_sequential {allowed : Call → Lpa → Prop} {calls : List Call} (h : ∀ c ∈ calls, ∀ l, allowed c l) :
    Reached allowed (sequential calls) := by
  induction calls using List.reverseRecOn with
  | nil => exact .empty
  | append_singleton calls c ih =>
    rw [sequential_append]
    exact .call c (ih fun c' hc' => h c' (List.mem_append_left _ hc')) (h c (by simp) _)

theorem reachable_sequential (calls : List Call) : Reachable (sequential calls) :=
  reached_sequential fun _ _ _ => trivial

/-- What empty LPAs have, and each store of an allowed call keeps, the LPA of a session has in every reached
    memory. -/
theorem Reached.induct {allowed : Call → Lpa → Prop} {holds : Lpa → Prop} {session : String}
    (empty : ∀ id version, holds { Lpa.empty id with version })
    (stores : ∀ (c : Call) (l l' : Lpa) (r : Reply), c.session = session → allowed c l → holds l →
      Stores c.surroundings l c.operation l' r → holds { l' with version := l.version + 1 })
    {m : Memory} (reached : Reached allowed m) {l : Lpa} (h : m.find? session = some l) : holds l := by
  induction reached generalizing l with
  | empty => cases h
  | @call m c reached permitted ih =>
    by_cases hs : session = c.session
    · subst hs
      -- the call is about an LPA that was there before, or about an empty one
      have opened : holds (c.opened m) := by
        cases hm : m.find? c.session with
        | none =>
          simp only [Call.opened, hm, Option.getD_none]
          exact empty _ _
        | some l₀ =>
          rw [Call.opened_of_find? hm]
          exact ih hm
      rcases Call.find?_run h with rfl | ⟨l', r, hl', rfl⟩
      · exact opened
      · exact stores c _ l' r rfl permitted opened hl'
    · rw [Call.find?_run_of_ne hs] at h
      exact ih h

end Wizard

end PowerOfAttorney
