import PowerOfAttorney.Proofs.Session

/-! Clients whose calls come between each other's reads and writes. A write is accepted only where what the client
    goes on from is still what its session has, since the versions of a session are counted without a gap
    (`Serial.latest_of_version`). What is stored is then the pure step of the call on what was stored before, and the
    memory is the one that the accepted calls leave one after the other (`System.Sound`). -/

namespace PowerOfAttorney.Wizard

/-! ### Clients -/

/-- A client part way through a call. -/
structure Client where
  call : Call
  /-- The LPA that the client goes on from: what it read, or what it has stored since. -/
  basis : Option Lpa
  left : Course

namespace Client

/-- A client that has just read what its session has. -/
def reading (c : Call) (m : Memory) : Client where
  call := c
  basis := m.find? c.session
  left := c.operation.course c.surroundings c.scope (Memory.store.get c.session m).1

/-- The version that the client goes on from; zero where there was nothing to read. -/
def version (k : Client) : Nat := (k.basis.map Lpa.version).getD 0

/-- The call that the next write belongs to. Creating an LPA is a call of its own, one that loads it. -/
def writing (k : Client) : Call :=
  match k.basis with
  | none => { k.call with operation := .load }
  | some _ => k.call

@[simp] theorem writing_session (k : Client) : k.writing.session = k.call.session := by
  unfold writing
  split <;> rfl

end Client

/-- A write that was accepted. -/
structure Commit where
  call : Call
  stored : Lpa

/-- The memory, the clients that have come to it, and the writes that it has accepted, in their order. -/
structure System where
  memory : Memory := {}
  clients : List Client := []
  log : List Commit := []

/-- What may happen next: a call reads, or a client that has read writes. -/
inductive Action where
  | read (c : Call)
  | write (i : Nat)

namespace System

def step (s : System) : Action → System
  | .read c => { s with clients := s.clients ++ [.reading c s.memory] }
  | .write i =>
    match s.clients[i]? with
    | none => s
    | some k =>
      match k.left with
      | .done _ => s
      | .write l next =>
        match Memory.store.put k.call.session l s.memory with
        | (.ok version, memory) =>
          { memory
            clients := s.clients.set i { k with basis := some { l with version }, left := next (.ok version) }
            log := s.log ++ [{ call := k.writing, stored := { l with version } }] }
        | (.error e, memory) => { s with memory, clients := s.clients.set i { k with left := next (.error e) } }

/-- The system after some actions, from an empty memory without clients. -/
def run (actions : List Action) : System := actions.foldl step {}

end System

/-! ### One commit after the other -/

def commitsOf (session : String) (log : List Commit) : List Commit := log.filter (·.call.session = session)

theorem commitsOf_append_self (log : List Commit) (c : Commit) :
    commitsOf c.call.session (log ++ [c]) = commitsOf c.call.session log ++ [c] := by
  simp [commitsOf]

theorem commitsOf_append_of_ne (log : List Commit) {c : Commit} {session : String} (h : session ≠ c.call.session) :
    commitsOf session (log ++ [c]) = commitsOf session log := by
  simp [commitsOf, h.symm]

theorem commitsOf_subset (session : String) (log : List Commit) (c : Commit) :
    commitsOf session log ⊆ commitsOf session (log ++ [c]) := by
  rw [commitsOf, commitsOf, List.filter_append]
  exact List.subset_append_left _ _

def latest (cs : List Commit) : Option Lpa := cs.getLast?.map Commit.stored

@[simp] theorem latest_append (cs : List Commit) (c : Commit) : latest (cs ++ [c]) = some c.stored := by
  simp [latest]

/-- The commit is the pure step of its call on what the session had: an empty LPA is created where there is none, and
    the one that there is goes one version on. -/
def Commit.Follows (c : Commit) : Option Lpa → Prop
  | none => c.call.operation = .load ∧ c.call.scope = none ∧ c.stored = c.call.created
  | some l => (∀ id ∈ c.call.scope, l.id = id) ∧ ∃ l' r,
      (c.call.operation.decide c.call.surroundings l).verdict = .save l' r ∧
        c.stored = { l' with version := l.version + 1 }

/-- Commits each of which follows from what the one before it stored. -/
inductive Serial : List Commit → Prop
  | empty : Serial []
  | commit {cs : List Commit} {c : Commit} (serial : Serial cs) (follows : c.Follows (latest cs)) : Serial (cs ++ [c])

theorem Commit.Follows.version {c : Commit} {before : Option Lpa} (h : c.Follows before) :
    c.stored.version = (before.map Lpa.version).getD 0 + 1 := by
  cases before with
  | none =>
    obtain ⟨-, -, hs⟩ := h
    rw [hs]
    rfl
  | some l =>
    obtain ⟨-, l', r, -, hs⟩ := h
    rw [hs]
    rfl

namespace Serial

variable {cs : List Commit} {c : Commit}

theorem version_latest (h : Serial cs) : ((latest cs).map Lpa.version).getD 0 = cs.length := by
  induction h with
  | empty => rfl
  | commit serial follows ih => simp [follows.version, ih]

theorem versions (h : Serial cs) : cs.map (·.stored.version) = List.range' 1 cs.length := by
  induction h with
  | empty => rfl
  | @commit cs c serial follows ih =>
    have hv : c.stored.version = 1 + 1 * cs.length := by
      rw [follows.version, serial.version_latest, Nat.one_mul, Nat.add_comm]
    rw [List.map_append, ih, List.length_append, List.length_singleton, List.range'_concat, ← hv]
    rfl

theorem version_le (h : Serial cs) (hc : c ∈ cs) : c.stored.version ≤ ((latest cs).map Lpa.version).getD 0 := by
  induction h with
  | empty => cases hc
  | @commit cs d serial follows ih =>
    rw [latest_append, Option.map_some, Option.getD_some]
    rcases List.mem_append.1 hc with hc | hc
    · rw [follows.version]
      exact Nat.le_succ_of_le (ih hc)
    · obtain rfl := List.mem_singleton.1 hc
      exact Nat.le_refl _

/-- A commit of the version of the last one is what the last one is: a version stands for what was stored. -/
theorem latest_of_version (h : Serial cs) (hc : c ∈ cs)
    (hv : c.stored.version = ((latest cs).map Lpa.version).getD 0) : latest cs = some c.stored := by
  cases h with
  | empty => cases hc
  | @commit cs d serial follows =>
    rw [latest_append, Option.map_some, Option.getD_some] at hv
    rcases List.mem_append.1 hc with hc | hc
    -- an earlier commit is of an earlier version
    · have hle := serial.version_le hc
      rw [hv, follows.version] at hle
      exact absurd hle (Nat.not_succ_le_self _)
    · rw [List.mem_singleton.1 hc, latest_append]

end Serial

/-! ### Calls one after the other -/

/-- What a session has after a call depends only on what it had. -/
theorem Call.find?_run_congr {c : Call} {m m' : Memory} {session : String} (h : m.find? session = m'.find? session) :
    (c.run m).2.find? session = (c.run m').2.find? session := by
  by_cases hs : session = c.session
  · subst hs
    have hopened : c.opened m = c.opened m' := by rw [opened, opened, h]
    have hiff : c.Opens m ↔ c.Opens m' := by rw [Opens, Opens, h]
    by_cases ho : c.Opens m
    · rw [run_of_opens ho, run_of_opens (hiff.1 ho), decision, decision, hopened]
      simp only [Memory.find?_insert_self]
    · rw [run_of_not_opens ho, run_of_not_opens (mt hiff.2 ho)]
      exact h
  · rw [find?_run_of_ne hs, find?_run_of_ne hs, h]

theorem find?_sequential_filter (calls : List Call) (session : String) :
    (sequential (calls.filter (·.session = session))).find? session = (sequential calls).find? session := by
  induction calls using List.reverseRecOn with
  | nil => rfl
  | append_singleton calls c ih =>
    rw [List.filter_append, sequential_append]
    by_cases hs : c.session = session
    · have hkept : [c].filter (·.session = session) = [c] := by simp [hs]
      rw [hkept, sequential_append]
      exact Call.find?_run_congr ih
    · have hdropped : [c].filter (·.session = session) = [] := by simp [hs]
      rw [hdropped, List.append_nil, ih, Call.find?_run_of_ne (Ne.symm hs)]

/-! ### What a client has to do with what is stored -/

/-- A client that is done, or that has to go on from what some commit of its session stored. -/
structure Client.Sound (k : Client) (cs : List Commit) : Prop where
  left : (∃ o, k.left = .done o) ∨ k.left = k.call.operation.course k.call.surroundings k.call.scope (.ok k.basis)
  basis : ∀ l ∈ k.basis, ∃ c ∈ cs, c.stored = l

theorem Client.Sound.mono {k : Client} {cs cs' : List Commit} (h : k.Sound cs) (hsub : cs ⊆ cs') : k.Sound cs' where
  left := h.left
  basis l hl := by
    obtain ⟨c, hc, rfl⟩ := h.basis l hl
    exact ⟨c, hsub hc, rfl⟩

/-- A client that goes on from the version that is stored goes on from what is stored. -/
theorem Client.Sound.basis_of_version {k : Client} {cs : List Commit} (h : k.Sound cs) (serial : Serial cs)
    (hv : k.version = ((latest cs).map Lpa.version).getD 0) : k.basis = latest cs := by
  cases hb : k.basis with
  | none =>
    have hlen := serial.version_latest
    rw [← hv, Client.version, hb, Option.map_none, Option.getD_none] at hlen
    rw [List.length_eq_zero_iff.1 hlen.symm]
    rfl
  | some l =>
    obtain ⟨c, hc, rfl⟩ := h.basis l hb
    rw [Client.version, hb, Option.map_some, Option.getD_some] at hv
    exact (serial.latest_of_version hc hv).symm

theorem Decision.course_eq_write {d : Decision} {l : Lpa} {next : Except StoreError Nat → Course}
    (h : d.course = .write l next) : (∃ r, d.verdict = .save l r) ∧
      (∀ e, ∃ o, next (.error e) = .done o ∧ o.result = .error (.store e)) ∧
      ∀ version, ∃ o, next (.ok version) = .done o := by
  unfold course at h
  cases hv : d.verdict with
  | answer reply => simp [hv] at h
  | fail f => simp [hv] at h
  | save l' r =>
    simp only [hv, Course.write.injEq] at h
    obtain ⟨rfl, rfl⟩ := h
    exact ⟨⟨r, rfl⟩, fun e => ⟨_, rfl, rfl⟩, fun version => ⟨_, rfl⟩⟩

/-- A call that read an LPA decides about it, and about no other than the one that is asked for. -/
theorem Operation.course_some_eq_write {w : Surroundings} {scope : Option String} {op : Operation} {b l : Lpa}
    {next : Except StoreError Nat → Course} (h : op.course w scope (.ok (some b)) = .write l next) :
    (∀ id ∈ scope, b.id = id) ∧ (op.decide w b).course = .write l next := by
  cases scope with
  | none => exact ⟨by simp, h⟩
  | some id =>
    by_cases hid : b.id = id
    · simp only [course, hid, ↓reduceIte] at h
      exact ⟨by simpa using hid, h⟩
    · simp [course, hid] at h

/-- A call that read nothing creates an LPA, and goes on from that. -/
theorem Operation.course_none_eq_write {w : Surroundings} {scope : Option String} {op : Operation} {l : Lpa}
    {next : Except StoreError Nat → Course} (h : op.course w scope (.ok none) = .write l next) :
    scope = none ∧ l = .empty w.newId ∧
      (∀ e, ∃ o, next (.error e) = .done o ∧ o.result = .error (.store e)) ∧
      ∀ version, next (.ok version) = op.course w scope (.ok (some { l with version })) := by
  cases scope with
  | none =>
    simp only [course, Course.write.injEq] at h
    obtain ⟨rfl, rfl⟩ := h
    exact ⟨rfl, rfl, fun e => ⟨_, rfl, rfl⟩, fun version => rfl⟩
  | some id => simp [course] at h

theorem Client.Sound.write_inv {k : Client} {cs : List Commit} {l : Lpa} {next : Except StoreError Nat → Course}
    (h : k.Sound cs) (hw : k.left = .write l next) :
    l.version = k.version ∧
      { call := k.writing, stored := { l with version := k.version + 1 } : Commit }.Follows k.basis ∧
      (∀ e, ∃ o, next (.error e) = .done o ∧ o.result = .error (.store e)) ∧
      ∀ version, (∃ o, next (.ok version) = .done o) ∨ next (.ok version) =
        k.call.operation.course k.call.surroundings k.call.scope (.ok (some { l with version })) := by
  have hc : k.call.operation.course k.call.surroundings k.call.scope (.ok k.basis) = .write l next := by
    rcases h.left with ⟨o, ho⟩ | hl
    · rw [hw] at ho
      cases ho
    · rw [← hl, hw]
  unfold version writing
  cases hb : k.basis with
  | none =>
    rw [hb] at hc
    obtain ⟨hscope, rfl, herror, hok⟩ := Operation.course_none_eq_write hc
    exact ⟨rfl, ⟨rfl, hscope, rfl⟩, herror, fun version => .inr (hok version)⟩
  | some b =>
    rw [hb] at hc
    obtain ⟨hscope, hd⟩ := Operation.course_some_eq_write hc
    obtain ⟨⟨r, hr⟩, herror, hok⟩ := Decision.course_eq_write hd
    exact ⟨(decide_eq_save_iff.1 hr).id_version.2, ⟨hscope, l, r, hr, rfl⟩, herror, fun version => .inl (hok version)⟩

/-! ### What every action keeps -/

/-- An accepted commit is what its call makes of the memory when nothing comes between. -/
theorem Commit.Follows.run {c : Commit} {m : Memory} (h : c.Follows (m.find? c.call.session)) :
    (c.call.run m).2 = m.insert c.call.session c.stored := by
  cases hm : m.find? c.call.session with
  | none =>
    rw [hm] at h
    obtain ⟨hload, hscope, hs⟩ := h
    have ho : c.call.Opens m := by simp [Call.Opens, hscope]
    rw [Call.run_of_opens ho, Call.decision, hload, hs, Call.opened, hm]
    rfl
  | some l =>
    rw [hm] at h
    obtain ⟨hscope, l', r, hv, hs⟩ := h
    have ho : c.call.Opens m := fun id hid => ⟨l, hm, hscope id hid⟩
    rw [Call.run_of_opens ho, Call.decision, Call.opened_of_find? hm, Decision.after, hv, hs,
      ← (decide_eq_save_iff.1 hv).id_version.2]

namespace System

/-- What is stored is what the log says, each commit of it the step after the one before. -/
structure Sound (s : System) : Prop where
  serial : ∀ session, Serial (commitsOf session s.log)
  current : ∀ session, s.memory.find? session = latest (commitsOf session s.log)
  sequential : s.memory = sequential (s.log.map Commit.call)
  clients : ∀ k ∈ s.clients, k.Sound (commitsOf k.call.session s.log)

variable {s : System}

namespace Sound

theorem empty : Sound {} where
  serial _ := .empty
  current _ := rfl
  sequential := rfl
  clients k hk := by cases hk

theorem versionOf (h : s.Sound) (session : String) :
    s.memory.versionOf session = ((latest (commitsOf session s.log)).map Lpa.version).getD 0 := by
  rw [Memory.versionOf, h.current]

/-- A client writes on the version that is stored if, and only if, what it goes on from is what is stored. -/
theorem version_eq_iff (h : s.Sound) {k : Client} (hk : k ∈ s.clients) :
    s.memory.versionOf k.call.session = k.version ↔ s.memory.find? k.call.session = k.basis := by
  constructor
  · intro hv
    rw [h.current]
    exact ((h.clients k hk).basis_of_version (h.serial _) (hv.symm.trans (h.versionOf _))).symm
  · intro hb
    rw [Memory.versionOf, Client.version, hb]

variable {i : Nat} {k : Client} {l : Lpa} {next : Except StoreError Nat → Course}

theorem put_of_current (h : s.Sound) (hk : k ∈ s.clients) (hw : k.left = .write l next)
    (hb : s.memory.find? k.call.session = k.basis) : Memory.store.put k.call.session l s.memory =
      (.ok (k.version + 1), s.memory.insert k.call.session { l with version := k.version + 1 }) := by
  have hl : l.version = k.version := ((h.clients k hk).write_inv hw).1
  have hv : s.memory.versionOf k.call.session = l.version := by rw [hl, (h.version_eq_iff hk).2 hb]
  simp only [Memory.store, Memory.put_of_version hv, hl]

theorem put_of_stale (h : s.Sound) (hk : k ∈ s.clients) (hw : k.left = .write l next)
    (hb : s.memory.find? k.call.session ≠ k.basis) : Memory.store.put k.call.session l s.memory =
      (.error (.conflict k.version (s.memory.versionOf k.call.session)), s.memory) := by
  have hl : l.version = k.version := ((h.clients k hk).write_inv hw).1
  have hv : s.memory.versionOf k.call.session ≠ l.version := by rwa [hl, ne_eq, h.version_eq_iff hk]
  simp only [Memory.store, Memory.put_of_version_ne hv, hl]

theorem step_write_of_current (h : s.Sound) (hk : s.clients[i]? = some k) (hw : k.left = .write l next)
    (hb : s.memory.find? k.call.session = k.basis) :
    s.step (.write i) =
      { memory := s.memory.insert k.call.session { l with version := k.version + 1 }
        clients := s.clients.set i
          { k with basis := some { l with version := k.version + 1 }, left := next (.ok (k.version + 1)) }
        log := s.log ++ [{ call := k.writing, stored := { l with version := k.version + 1 } }] } := by
  simp only [step, hk, hw, h.put_of_current (List.mem_of_getElem? hk) hw hb]

/-- A write on anything else is refused, and only the client that is told so is not what it was. -/
theorem step_write_of_stale (h : s.Sound) (hk : s.clients[i]? = some k) (hw : k.left = .write l next)
    (hb : s.memory.find? k.call.session ≠ k.basis) :
    ∃ o, o.result = .error (.store (.conflict k.version (s.memory.versionOf k.call.session))) ∧
      s.step (.write i) = { s with clients := s.clients.set i { k with left := .done o } } := by
  have hmem := List.mem_of_getElem? hk
  obtain ⟨-, -, herror, -⟩ := (h.clients k hmem).write_inv hw
  obtain ⟨o, ho, hr⟩ := herror (.conflict k.version (s.memory.versionOf k.call.session))
  refine ⟨o, hr, ?_⟩
  simp only [step, hk, hw, h.put_of_stale hmem hw hb, ho]

/-- A write that follows from what its session had is one more commit. -/
theorem commit (h : s.Sound) {c : Commit} {session : String} (hs : c.call.session = session)
    (hf : c.Follows (latest (commitsOf session s.log))) (clients : List Client)
    (hclients : ∀ k ∈ clients, k.Sound (commitsOf k.call.session (s.log ++ [c]))) :
    Sound { memory := s.memory.insert session c.stored, clients, log := s.log ++ [c] } where
  serial other := by
    by_cases ho : other = c.call.session
    · subst hs ho
      rw [commitsOf_append_self]
      exact .commit (h.serial _) hf
    · rw [commitsOf_append_of_ne _ ho]
      exact h.serial other
  current other := by
    by_cases ho : other = c.call.session
    · subst hs ho
      rw [commitsOf_append_self, latest_append, Memory.find?_insert_self]
    · rw [commitsOf_append_of_ne _ ho, ← hs, Memory.find?_insert_of_ne _ _ ho]
      exact h.current other
  sequential := by
    rw [← h.current, ← hs] at hf
    rw [List.map_append, List.map_cons, List.map_nil, sequential_append, ← h.sequential, hf.run, hs]
  clients := hclients

theorem step (h : s.Sound) (a : Action) : (s.step a).Sound := by
  cases a with
  | read c =>
    refine ⟨h.serial, h.current, h.sequential, fun k hk => ?_⟩
    rcases List.mem_append.1 hk with hk | hk
    · exact h.clients k hk
    · obtain rfl := List.mem_singleton.1 hk
      refine ⟨.inr rfl, fun l hl => ?_⟩
      rw [Client.reading, Option.mem_def, h.current, latest, Option.map_eq_some_iff] at hl
      obtain ⟨c', hc', rfl⟩ := hl
      exact ⟨c', List.mem_of_getLast? hc', rfl⟩
  | write i =>
    cases hk : s.clients[i]? with
    | none => rwa [System.step, hk]
    | some k =>
      have hsound := h.clients k (List.mem_of_getElem? hk)
      cases hw : k.left with
      | done o => simpa only [System.step, hk, hw] using h
      | write l next =>
        obtain ⟨-, hf, -, hok⟩ := hsound.write_inv hw
        by_cases hb : s.memory.find? k.call.session = k.basis
        · rw [h.step_write_of_current hk hw hb]
          rw [← hb, h.current] at hf
          refine h.commit k.writing_session hf _ fun k' hk' => ?_
          rcases List.mem_or_eq_of_mem_set hk' with hk' | rfl
          · exact (h.clients k' hk').mono (commitsOf_subset _ _ _)
          -- the writer goes on from its own commit, with another write only if it has created the LPA
          · refine ⟨hok _, fun l' hl' => ?_⟩
            obtain rfl := Option.some.inj (Option.mem_def.1 hl')
            exact ⟨_, List.mem_filter.2 ⟨List.mem_concat_self, decide_eq_true k.writing_session⟩, rfl⟩
        · obtain ⟨o, -, hstep⟩ := h.step_write_of_stale hk hw hb
          rw [hstep]
          refine ⟨h.serial, h.current, h.sequential, fun k' hk' => ?_⟩
          rcases List.mem_or_eq_of_mem_set hk' with hk' | rfl
          · exact h.clients k' hk'
          · exact ⟨.inl ⟨o, rfl⟩, hsound.basis⟩

theorem run (actions : List Action) : (System.run actions).Sound := by
  induction actions using List.reverseRecOn with
  | nil => exact .empty
  | append_singleton actions a ih =>
    rw [System.run, List.foldl_append]
    exact ih.step a

end Sound

/-- No accepted write is lost, whatever comes between the reads and the writes: the versions of a session have no gaps,
    every commit is the pure step of its call on what the commit before it stored, and what is stored is what the
    accepted calls leave one after the other. A write is accepted only on what is stored; one that is refused names the
    version that the client goes on from and the one that is stored, and changes nothing of what is stored. -/
theorem run_serial (actions : List Action) (session : String) :
    let s := System.run actions
    let cs := commitsOf session s.log
    cs.map (·.stored.version) = List.range' 1 cs.length ∧ Serial cs ∧
    s.memory.find? session = latest cs ∧
    s.memory = sequential (s.log.map Commit.call) ∧
    s.memory.find? session = (sequential (cs.map Commit.call)).find? session ∧
    ∀ i k l next, s.clients[i]? = some k → k.call.session = session → k.left = .write l next →
      (∀ version, (Memory.store.put session l s.memory).1 = .ok version →
        s.memory.find? session = k.basis ∧
        (s.step (.write i)).log = s.log ++ [{ call := k.writing, stored := { l with version } }]) ∧
      ∀ e, (Memory.store.put session l s.memory).1 = .error e →
        e = .conflict k.version (s.memory.versionOf session) ∧
        ∃ o, o.result = .error (.store e) ∧
          s.step (.write i) = { s with clients := s.clients.set i { k with left := .done o } } := by
  intro s cs
  have h : s.Sound := .run actions
  refine ⟨(h.serial session).versions, h.serial session, h.current session, h.sequential, ?_, ?_⟩
  · have hcalls : cs.map Commit.call = (s.log.map Commit.call).filter (·.session = session) := by
      rw [List.filter_map]
      rfl
    rw [hcalls, find?_sequential_filter, ← h.sequential]
  · rintro i k l next hk rfl hw
    have hmem := List.mem_of_getElem? hk
    by_cases hb : s.memory.find? k.call.session = k.basis
    · rw [h.put_of_current hmem hw hb]
      refine ⟨fun version hversion => ⟨hb, ?_⟩, nofun⟩
      rw [h.step_write_of_current hk hw hb, Except.ok.inj hversion]
    · rw [h.put_of_stale hmem hw hb]
      refine ⟨nofun, fun e he => ?_⟩
      obtain rfl := Except.error.inj he
      exact ⟨rfl, h.step_write_of_stale hk hw hb⟩

/-- Of two clients that read the same version, the second one to write is told of the first one's. -/
theorem run_serial_of_stale :
    let wants := fun yesNo => Submission.call (.wantReplacements { yesNo }) "session"
    let loads : Call := { wants "no" with operation := .load }
    let s := System.run [.read loads, .write 0, .read (wants "no"), .read (wants "yes"), .write 1]
    ∃ k o, s.clients[2]? = some k ∧ o.result = .error (.store (.conflict 1 2)) ∧
      s.step (.write 2) = { s with clients := s.clients.set 2 { k with left := .done o } } := by
  intro wants loads s
  have refused := (run_serial [.read loads, .write 0, .read (wants "no"), .read (wants "yes"), .write 1]
    "session").2.2.2.2.2 2 _ _ _ rfl rfl rfl
  obtain ⟨-, o, ho, hstep⟩ := refused.2 (.conflict 1 2) rfl
  exact ⟨_, o, rfl, ho, hstep⟩

end System

end PowerOfAttorney.Wizard
