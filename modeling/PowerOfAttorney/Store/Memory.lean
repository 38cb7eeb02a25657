import PowerOfAttorney.Store

/-! The store that is lost when the program ends: pairs of session and LPA. -/

namespace PowerOfAttorney

/-- LPAs by session, each session once. -/
structure Memory where
  entries : List (String × Lpa) := []
deriving DecidableEq, Repr, Inhabited

namespace Memory

/-- The LPA of a session among the pairs. -/
def findIn (session : String) : List (String × Lpa) → Option Lpa
  | [] => none
  | e :: r => if e.1 = session then some e.2 else findIn session r

/-- The pairs with another LPA for a session, at the end if it is new. -/
def insertIn (session : String) (l : Lpa) : List (String × Lpa) → List (String × Lpa)
  | [] => [(session, l)]
  | e :: r => if e.1 = session then (session, l) :: r else e :: insertIn session l r

/-- The LPA of a session. -/
def find? (m : Memory) (session : String) : Option Lpa := findIn session m.entries

/-- The version stored for a session; zero where nothing is. -/
def versionOf (m : Memory) (session : String) : Nat := ((m.find? session).map Lpa.version).getD 0

/-- The memory with another LPA for a session. -/
def insert (m : Memory) (session : String) (l : Lpa) : Memory := ⟨insertIn session l m.entries⟩

/-- Writes an LPA on the version that it carries. -/
def put (m : Memory) (session : String) (l : Lpa) : Except StoreError Nat × Memory :=
  let found := m.versionOf session
  if found = l.version then (.ok (found + 1), m.insert session { l with version := found + 1 })
  else (.error (.conflict l.version found), m)

/-- The memory as a store. -/
def store : Store Memory where
  get session m := (.ok (m.find? session), m)
  put session l m := m.put session l

def size (m : Memory) : Nat := m.entries.length

/-! ### What is found after a write -/

/-- After a write the session has what was written. -/
@[simp] theorem find?_insert_self (m : Memory) (session : String) (l : Lpa) :
    (m.insert session l).find? session = some l := by
  obtain ⟨es⟩ := m
  simp only [insert, find?]
  induction es with
  | nil => simp [insertIn, findIn]
  | cons e r ih => by_cases h : e.1 = session <;> simp [insertIn, findIn, h, ih]

/-- A write leaves the other sessions alone. -/
theorem find?_insert_of_ne (m : Memory) {session other : String} (l : Lpa) (h : other ≠ session) :
    (m.insert session l).find? other = m.find? other := by
  obtain ⟨es⟩ := m
  simp only [insert, find?]
  induction es with
  | nil => simp [insertIn, findIn, h.symm]
  | cons e r ih =>
    by_cases he : e.1 = session
    · simp [insertIn, findIn, he, h.symm]
    · by_cases ho : e.1 = other <;> simp [insertIn, findIn, he, ho, ih, h]

end Memory

end PowerOfAttorney
