import PowerOfAttorney.Proofs.Interleaving

/-! What a call sees and touches of the memory. It is decided by what its own session has and by nothing else
    (`Call.run_congr`), it writes to its own session, and to none where another LPA is asked for than the session has.
    No rule of `Stores` changes the id of an LPA, so a session keeps the LPA that it has once, however many clients
    write to it and in whatever order (`Call.exists_find?_run`, `System.Sound.exists_find?_step`). -/

namespace PowerOfAttorney.Wizard

/-! ### A call sees its own session -/

namespace Call
variable {c : Call} {m m' : Memory}

theorem opened_congr (h : m'.find? c.session = m.find? c.session) : c.opened m' = c.opened m := by
  rw [opened, opened, h]

theorem opens_congr (h : m'.find? c.session = m.find? c.session) : c.Opens m' ↔ c.Opens m := by
  rw [Opens, Opens, h]

/-- Memories in which the session of a call has the same give the call the same outcome. -/
theorem run_congr (h : m'.find? c.session = m.find? c.session) : (c.run m').1 = (c.run m).1 := by
  by_cases ho : c.Opens m
  · rw [run_of_opens ho, run_of_opens ((opens_congr h).2 ho), decision, decision, opened_congr h]
  · rw [run_of_not_opens ho, run_of_not_opens (mt (opens_congr h).1 ho)]

theorem not_opens_of_ne {id : String} (hscope : c.scope = some id) (h : ∀ l, m.find? c.session = some l → l.id ≠ id) :
    ¬c.Opens m := by
  intro ho
  obtain ⟨l, hl, hid⟩ := ho id hscope
  exact h l hl hid

/-! ### A session keeps its LPA -/

/-- After any call a session that had an LPA has one of the same id. -/
theorem exists_find?_run (c : Call) {session : String} {l : Lpa} (h : m.find? session = some l) :
    ∃ l', (c.run m).2.find? session = some l' ∧ l'.id = l.id := by
  obtain ⟨l', hl'⟩ := find?_run_isSome (c := c) h
  refine ⟨l', hl', ?_⟩
  by_cases hs : session = c.session
  · subst hs
    rcases find?_run hl' with rfl | ⟨l₁, r, hstores, rfl⟩
    · rw [opened_of_find? h]
    · rw [opened_of_find? h] at hstores
      exact hstores.id_version.1
  · rw [find?_run_of_ne hs, h, Option.some.injEq] at hl'
    rw [hl']

theorem exists_find?_foldl_run (calls : List Call) {session : String} {l : Lpa} (h : m.find? session = some l) :
    ∃ l', (calls.foldl (fun m c => (c.run m).2) m).find? session = some l' ∧ l'.id = l.id := by
  induction calls generalizing m l with
  | nil => exact ⟨l, h, rfl⟩
  | cons c calls ih =>
    obtain ⟨l₁, h₁, hid₁⟩ := c.exists_find?_run h
    obtain ⟨l₂, h₂, hid₂⟩ := ih h₁
    exact ⟨l₂, h₂, hid₂.trans hid₁⟩

end Call

theorem Commit.Follows.id {c : Commit} {l : Lpa} (h : c.Follows (some l)) : c.stored.id = l.id := by
  obtain ⟨-, l', r, hv, hs⟩ := h
  rw [hs]
  exact (decide_eq_save_iff.1 hv).id_version.1

namespace System
variable {s : System} {session : String} {l : Lpa}

/-- Whichever client reads or writes next, a session that had an LPA has one of the same id. -/
theorem Sound.exists_find?_step (h : s.Sound) (hl : s.memory.find? session = some l) (a : Action) :
    ∃ l', (s.step a).memory.find? session = some l' ∧ l'.id = l.id := by
  cases a with
  | read c => exact ⟨l, hl, rfl⟩
  | write i =>
    cases hk : s.clients[i]? with
    | none =>
      rw [System.step, hk]
      exact ⟨l, hl, rfl⟩
    | some k =>
      cases hw : k.left with
      | done o =>
        simp only [System.step, hk, hw]
        exact ⟨l, hl, rfl⟩
      | write l₁ next =>
        by_cases hb : s.memory.find? k.call.session = k.basis
        · rw [h.step_write_of_current hk hw hb]
          by_cases hs : session = k.call.session
          -- what is written follows from what the session has
          · subst hs
            obtain ⟨-, hf, -⟩ := (h.clients k (List.mem_of_getElem? hk)).write_inv hw
            rw [← hb, hl] at hf
            exact ⟨_, Memory.find?_insert_self _ _ _, hf.id⟩
          · exact ⟨l, (Memory.find?_insert_of_ne _ _ hs).trans hl, rfl⟩
        · obtain ⟨o, -, hstep⟩ := h.step_write_of_stale hk hw hb
          rw [hstep]
          exact ⟨l, hl, rfl⟩

theorem exists_find?_run_append (before later : List Action) (h : (run before).memory.find? session = some l) :
    ∃ l', (run (before ++ later)).memory.find? session = some l' ∧ l'.id = l.id := by
  induction later using List.reverseRecOn with
  | nil =>
    rw [List.append_nil]
    exact ⟨l, h, rfl⟩
  | append_singleton later a ih =>
    obtain ⟨l₁, h₁, hid₁⟩ := ih
    obtain ⟨l₂, h₂, hid₂⟩ := (Sound.run (before ++ later)).exists_find?_step h₁ a
    rw [← List.append_assoc, run, List.foldl_append]
    exact ⟨l₂, h₂, hid₂.trans hid₁⟩

end System

/-- Sessions do not see each other, and neither do LPAs. A call writes to its own session, and both its outcome and what
    that session has then depend only on what the session had. A call for an LPA that the session does not have finds
    none: it writes nothing, draws no text and asks for no postcode. And the LPA of a session keeps its id, through calls
    one after the other and through calls that come between each other's reads and writes. -/
theorem Call.run_isolated (c : Call) (m : Memory) :
    (∀ session, session ≠ c.session → (c.run m).2.find? session = m.find? session) ∧
    (∀ m' : Memory, m'.find? c.session = m.find? c.session →
      (c.run m').1 = (c.run m).1 ∧ (c.run m').2.find? c.session = (c.run m).2.find? c.session) ∧
    (∀ id, c.scope = some id → (∀ l, m.find? c.session = some l → l.id ≠ id) →
      c.run m = ({ result := .error .notFound, source := c.surroundings.source, lookedUp := [] }, m)) ∧
    (∀ (calls : List Call) l, m.find? c.session = some l →
      ∃ l', (calls.foldl (fun m c => (c.run m).2) m).find? c.session = some l' ∧ l'.id = l.id) ∧
    ∀ before later session l, (System.run before).memory.find? session = some l →
      ∃ l', (System.run (before ++ later)).memory.find? session = some l' ∧ l'.id = l.id := by
  refine ⟨fun session hs => find?_run_of_ne hs, fun m' h => ⟨run_congr h, find?_run_congr h⟩, ?_, ?_, ?_⟩
  · intro id hscope hne
    exact run_of_not_opens (not_opens_of_ne hscope hne)
  · intro calls l h
    exact exists_find?_foldl_run calls h
  · intro before later session l h
    exact System.exists_find?_run_append before later h

/-- Of two sessions with an LPA each, one that asks for another LPA than its own is told that there is none, whatever
    the other session has stored since. -/
theorem Call.run_isolated_of_two :
    let details := fun session => Submission.call (.details .primary "Ann") session
    let m := ((details "bob").run ((details "ann").run {}).2).2
    let strays : Call := { details "bob" with scope := some "another lpa" }
    strays.run m = ({ result := .error .notFound, source := .scripted [], lookedUp := [] }, m) ∧
    m.find? "ann" = ((details "ann").run {}).2.find? "ann" ∧
    ((details "bob").run ((details "ann").run {}).2).1 = ((details "bob").run {}).1 := by
  intro details m strays
  have alone := run_isolated (details "bob") {}
  have second := run_isolated (details "bob") ((details "ann").run {}).2
  have hne : ∀ l, m.find? strays.session = some l → l.id ≠ "another lpa" := by
    have hids : (m.find? "bob").all (fun l => l.id != "another lpa") = true := by decide +kernel
    intro l hl
    have hl' : m.find? "bob" = some l := hl
    rw [hl', Option.all_some, bne_iff_ne] at hids
    exact hids
  refine ⟨(run_isolated strays m).2.2.1 _ rfl hne, second.1 "ann" (by decide), ?_⟩
  refine (alone.2.1 _ ?_).1
  exact find?_run_of_ne (by decide)

end PowerOfAttorney.Wizard
