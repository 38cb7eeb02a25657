import Mathlib.Algebra.Group.Nat.Defs
import PowerOfAttorney.Proofs.LpaText
import PowerOfAttorney.Proofs.Session
import PowerOfAttorney.Store.Hash

/-! A server that keeps hashes answers as the memory does. For each session the fields of its key hold what the memory
    has (`Holds`): nothing, or the version in digits and a text that was written one version before. The keys of
    different sessions are different, so that a write leaves the fields of all others alone (`Mirrors.put`). -/

namespace PowerOfAttorney

/-! ### Calls on a store -/

inductive StoreCall where
  | get (session : String)
  | put (session : String) (l : Lpa)

/-- What a store answers to a call: the LPA of the session, or the new version. -/
inductive StoreAnswer where
  | got (result : Except StoreError (Option Lpa))
  | put (result : Except StoreError Nat)
deriving DecidableEq

namespace Store
variable {σ : Type}

def answer (s : Store σ) (content : σ) : StoreCall → StoreAnswer × σ
  | .get session => ((s.get session content).map .got id)
  | .put session l => ((s.put session l content).map .put id)

/-- The answers to calls that are made one after the other. -/
def answers (s : Store σ) (content : σ) : List StoreCall → List StoreAnswer
  | [] => []
  | c :: calls => (s.answer content c).1 :: s.answers (s.answer content c).2 calls

end Store

namespace HashStore

open Text

/-! ### The numbers that are told apart -/

/-- A number that needs no more bits than are kept is itself. -/
theorem rounded_of_le {n : Nat} (h : n ≤ 2 ^ precision) : rounded n = n := by
  rcases Nat.lt_or_eq_of_le h with hlt | rfl
  · have unit : n.log2 + 1 - precision = 0 := by
      by_cases hn : n = 0
      · subst hn
        decide
      · have hlog := (Nat.log2_lt hn).2 hlt
        omega
    simp [rounded, unit, Nat.mod_one]
  · decide

/-- The next number is no longer told apart from the one before. -/
example : rounded (2 ^ precision + 1) = 2 ^ precision := by decide

theorem number?_ofNat {n : Nat} (h : n ≤ 2 ^ precision) : number? (Decimal.ofNat n) = some n := by
  rw [number?, Decimal.natural?_ofNat, Option.map_some, rounded_of_le h]

/-! ### What a key holds -/

/-- Whether the fields of a key hold what there is for a session. The text is of an older version; with the version
    beside it, it is read as the LPA. -/
inductive Holds (fields : String → Option String) : Option Lpa → Prop
  | nothing (version : fields "version" = none) (data : fields "data" = none) : Holds fields none
  | lpa {l : Lpa} {payload : String} (version : fields "version" = some (Decimal.ofNat l.version))
      (exact : l.version ≤ 2 ^ precision) (data : fields "data" = some payload)
      (decoded : Lpa.decode? payload l.version = some l) : Holds fields (some l)

/-- Whether hashes hold under the keys of all sessions what a memory has for them. -/
def Mirrors (lead : String) (h : Hashes) (m : Memory) : Prop := ∀ session, Holds (h (key lead session)) (m.find? session)

theorem key_injective {lead session other : String} (h : key lead session = key lead other) : session = other := by
  have chars := congrArg String.toList h
  simpa [key, String.toList_inj] using chars

theorem Hashes.set_of_ne (h : Hashes) {key other : String} (hne : other ≠ key) (fields : List (String × String)) :
    h.set key fields other = h other := by
  funext field
  exact if_neg hne

theorem Mirrors.empty (lead : String) : Mirrors lead .empty {} := fun _ => .nothing rfl rfl

theorem version?_ofNat {n : Nat} (h : n ≤ 2 ^ precision) : (Value.text (Decimal.ofNat n)).version? = some n := by
  have bound : n < versionBound := Nat.lt_of_le_of_lt h (by decide)
  rw [Value.version?, Decimal.natural?_ofNat]
  exact if_pos bound

theorem version?_int {n : Nat} (h : n ≤ 2 ^ precision) : (Value.int n).version? = some n := by
  have bound : n < versionBound := Nat.lt_of_le_of_lt h (by decide)
  exact if_pos bound

variable {lead : String} {h : Hashes} {m : Memory}

/-- What is read of a session is what the memory has. -/
theorem Mirrors.get (mirrors : Mirrors lead h m) (session : String) :
    (store lead).get session h = (.ok (m.find? session), h) := by
  have holds := mirrors session
  generalize m.find? session = stored at holds
  cases holds with
  | nothing version data =>
    simp [store, readCommand, Command.run, readResult, version, data, Value.ofField, Value.optional]
  | lpa version exact data decoded =>
    simp [store, readCommand, Command.run, readResult, version, data, Value.ofField, Value.optional,
      version?_ofNat exact, Value.text?, decoded]

/-- The script finds the version that the memory has, zero where there is nothing. -/
theorem Mirrors.stored (mirrors : Mirrors lead h m) (session : String) :
    number? ((h (key lead session) "version").getD "0") = some (m.versionOf session) ∧
      m.versionOf session ≤ 2 ^ precision := by
  have holds := mirrors session
  unfold Memory.versionOf
  generalize m.find? session = stored at holds
  cases holds with
  | nothing version data =>
    rw [version]
    exact ⟨by decide, Nat.zero_le _⟩
  | lpa version exact data decoded =>
    rw [version]
    exact ⟨number?_ofNat exact, exact⟩

/-- A write on the version that is stored raises it. -/
theorem put_of_stored {session : String} {l : Lpa} (exact : l.version < 2 ^ precision)
    (stored : number? ((h (key lead session) "version").getD "0") = some l.version) :
    (store lead).put session l h = (.ok (l.version + 1),
      h.set (key lead session) [("version", Decimal.ofNat (l.version + 1)), ("data", l.encode)]) := by
  have expected := number?_ofNat (Nat.le_of_lt exact)
  have next : rounded (l.version + 1) = l.version + 1 := rounded_of_le exact
  have one : (Value.int 1).version? = some 1 := by decide
  have version : (Value.int (l.version + 1)).version? = some (l.version + 1) := version?_int exact
  simp [store, writeCommand, Command.run, putScript, stored, expected, next, writeResult, one, version]

/-- A write on any other version finds the one that is stored. -/
theorem put_of_other {session : String} {l : Lpa} (exact : l.version < 2 ^ precision) {found : Nat}
    (stored : number? ((h (key lead session) "version").getD "0") = some found) (hle : found ≤ 2 ^ precision)
    (hne : found ≠ l.version) : (store lead).put session l h = (.error (.conflict l.version found), h) := by
  have expected := number?_ofNat (Nat.le_of_lt exact)
  have zero : (Value.int 0).version? = some 0 := by decide
  have version := version?_int hle
  simp [store, writeCommand, Command.run, putScript, stored, expected, hne, writeResult, zero, version]

/-- The hashes hold a write as the memory does. -/
theorem Mirrors.set (mirrors : Mirrors lead h m) (session : String) {l : Lpa} (storable : l.Storable)
    (exact : l.version < 2 ^ precision) :
    Mirrors lead (h.set (key lead session) [("version", Decimal.ofNat (l.version + 1)), ("data", l.encode)])
      (m.insert session { l with version := l.version + 1 }) := by
  intro other
  by_cases hs : other = session
  · subst hs
    rw [Memory.find?_insert_self]
    refine .lpa ?_ exact ?_ (Lpa.decode?_encode storable _)
    · simp [Hashes.set]
    · simp [Hashes.set, List.lookup_cons]
  · rw [Memory.find?_insert_of_ne _ _ hs, Hashes.set_of_ne _ fun hkey => hs (key_injective hkey)]
    exact mirrors other

/-- A write answers as the memory does, and the hashes hold afterwards what the memory has. -/
theorem Mirrors.put (mirrors : Mirrors lead h m) (session : String) {l : Lpa} (storable : l.Storable)
    (exact : l.version < 2 ^ precision) :
    ((store lead).put session l h).1 = (m.put session l).1 ∧
      Mirrors lead ((store lead).put session l h).2 (m.put session l).2 := by
  obtain ⟨stored, hle⟩ := mirrors.stored session
  by_cases current : m.versionOf session = l.version
  · rw [put_of_stored exact (current ▸ stored), Memory.put_of_version current]
    exact ⟨rfl, mirrors.set session storable exact⟩
  · rw [put_of_other exact stored hle current, Memory.put_of_version_ne current]
    exact ⟨rfl, mirrors⟩

/-! ### Calls one after the other -/

/-- A call with an LPA that can be stored, on a version that the numbers of the script tell apart. -/
def Fits : StoreCall → Prop
  | .get _ => True
  | .put _ l => l.Storable ∧ l.version < 2 ^ precision

/-- Hashes and a memory that have the same answer alike, and have the same afterwards. -/
theorem Mirrors.answer (mirrors : Mirrors lead h m) {c : StoreCall} (fits : Fits c) :
    ((store lead).answer h c).1 = (Memory.store.answer m c).1 ∧
      Mirrors lead ((store lead).answer h c).2 (Memory.store.answer m c).2 := by
  cases c with
  | get session =>
    rw [Store.answer, mirrors.get]
    exact ⟨rfl, mirrors⟩
  | put session l =>
    obtain ⟨same, after⟩ := mirrors.put session fits.1 fits.2
    exact ⟨congrArg StoreAnswer.put same, after⟩

theorem Mirrors.answers {calls : List StoreCall} (fits : ∀ c ∈ calls, Fits c) (mirrors : Mirrors lead h m) :
    (store lead).answers h calls = Memory.store.answers m calls := by
  induction calls generalizing h m with
  | nil => rfl
  | cons c calls ih =>
    obtain ⟨hc, hrest⟩ := List.forall_mem_cons.1 fits
    obtain ⟨same, after⟩ := mirrors.answer hc
    rw [Store.answers, Store.answers, same, ih hrest after]

/-- From nothing on, a server that keeps hashes answers all calls as the memory does: with the same LPAs in the same
    versions, with the same new versions, and with the same versions expected and found where they are not the same. -/
theorem answers_eq_memory (lead : String) (calls : List StoreCall) (fits : ∀ c ∈ calls, Fits c) :
    (store lead).answers .empty calls = Memory.store.answers {} calls :=
  (Mirrors.empty lead).answers fits

/-- Of two writes on the version zero the second finds the first. -/
theorem answers_eq_memory_of_conflict :
    let l := Lpa.empty "lpa"
    let calls := [.get "ann", .put "ann" l, .put "ann" l, .get "ann", .get "bob"]
    (∀ c ∈ calls, Fits c) ∧
    (store defaultLead).answers .empty calls =
      [.got (.ok none), .put (.ok 1), .put (.error (.conflict 0 1)), .got (.ok (some { l with version := 1 })),
        .got (.ok none)] := by
  intro l calls
  have storable : l.Storable := ⟨by decide, nofun, nofun⟩
  have fits : ∀ c ∈ calls, Fits c := by
    simp only [calls, List.forall_mem_cons]
    exact ⟨trivial, ⟨storable, by decide⟩, ⟨storable, by decide⟩, trivial, trivial, List.forall_mem_nil _⟩
  rw [answers_eq_memory defaultLead calls fits]
  exact ⟨fits, by decide +kernel⟩

end HashStore

end PowerOfAttorney
