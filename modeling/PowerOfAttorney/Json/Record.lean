import PowerOfAttorney.Json
import PowerOfAttorney.Word

/-!
Reading records out of JSON values.

A record is an object whose known names stand at most once, with other names passed over, or an array with
one item for each field in order.
-/

namespace PowerOfAttorney.Json

/-- The values given for a name. -/
def valuesOf (name : String) (members : List (String × Json)) : List Json :=
  members.filterMap fun m => if m.1 = name then some m.2 else none

/-- A record that was found: its fields by name. -/
structure Record where
  members : List (String × Json)
deriving Repr

/-- Whether each of the names stands at most once. -/
def unrepeated (names : List String) (members : List (String × Json)) : Bool :=
  names.all fun name => (valuesOf name members).length ≤ 1

/-- A value as a record of these fields. -/
def record? (names : List String) : Json → Option Record
  | .object members => if unrepeated names members then some ⟨members⟩ else none
  | .array items => if items.length = names.length then some ⟨names.zip items⟩ else none
  | _ => none

/-- A value as a record of these fields, where an array may leave out fields at its end. -/
def partialRecord? (names : List String) : Json → Option Record
  | .object members => if unrepeated names members then some ⟨members⟩ else none
  | .array items => if items.length ≤ names.length then some ⟨names.zip items⟩ else none
  | _ => none

namespace Record

/-- The value of a field; `none` where it is missing. -/
def get? (r : Record) (name : String) : Option Json := (valuesOf name r.members).head?

/-- A field that has to be there, read by `f`. -/
def required {α : Type} (r : Record) (name : String) (f : Json → Option α) : Option α := (r.get? name).bind f

/-- A field that may be missing or `null`, and is read by `f` otherwise. -/
def optional {α : Type} (r : Record) (name : String) (f : Json → Option α) : Option (Option α) :=
  match r.get? name with
  | none => some none
  | some .null => some none
  | some j => (f j).map some

/-- A field that is read by `f` and has a value of its own where it is missing. -/
def defaulted {α : Type} (r : Record) (name : String) (otherwise : α) (f : Json → Option α) : Option α :=
  match r.get? name with
  | none => some otherwise
  | some j => f j

end Record

/-! ### Single values -/

/-- A text. -/
def text? : Json → Option String
  | .text s => some s
  | _ => none

/-- A truth value. -/
def bool? : Json → Option Bool
  | .bool b => some b
  | _ => none

/-- A whole number between two bounds. -/
def intWithin? (low high : Int) : Json → Option Int
  | .int n => if low ≤ n ∧ n ≤ high then some n else none
  | _ => none

/-- An unsigned whole number below a bound. -/
def natBelow? (bound : Nat) : Json → Option Nat
  | .int (.ofNat n) => if n < bound then some n else none
  | _ => none

/-- A list whose items are read by `f`. -/
def list? {α : Type} (f : Json → Option α) : Json → Option (List α)
  | .array items => items.mapM f
  | _ => none

/-- A word: a text, or the only name of an object that gives it nothing. -/
def wordText? : Json → Option String
  | .text s => some s
  | .object [(s, .null)] => some s
  | _ => none

/-- A value that is named by a word. -/
def word? {α : Type} [Worded α] (j : Json) : Option α := (wordText? j).bind ofWord?

def ofWord {α : Type} [Worded α] (a : α) : Json := .text (wordOf a)

@[simp] theorem word?_ofWord {α : Type} [Worded α] (a : α) : word? (ofWord a) = some a := ofWord?_wordOf a

/-! ### Reading what was written -/

section
variable {members : List (String × Json)} {name : String} {j : Json}

theorem valuesOf_of_notMem (h : name ∉ members.map Prod.fst) : valuesOf name members = [] := by
  rw [valuesOf, List.filterMap_eq_nil_iff]
  intro m hm
  rw [if_neg]
  rintro rfl
  exact h (List.mem_map_of_mem hm)

theorem valuesOf_of_mem (distinct : (members.map Prod.fst).Nodup) (h : (name, j) ∈ members) :
    valuesOf name members = [j] := by
  induction members with
  | nil => cases h
  | cons m members ih =>
    rw [List.map_cons, List.nodup_cons] at distinct
    obtain ⟨hm, hrest⟩ := distinct
    rcases List.mem_cons.1 h with rfl | h
    · have none_left := valuesOf_of_notMem hm
      simpa [valuesOf] using none_left
    · have other : m.1 ≠ name := fun hname => hm (hname ▸ List.mem_map_of_mem h)
      have found := ih hrest h
      simpa [valuesOf, other] using found

/-- An object with different names is a record of its members. -/
theorem exists_record (distinct : (members.map Prod.fst).Nodup) (names : List String) :
    ∃ r, record? names (.object members) = some r ∧ ∀ m ∈ members, r.get? m.1 = some m.2 := by
  have once : unrepeated names members = true := by
    rw [unrepeated, List.all_eq_true]
    intro name _
    rw [decide_eq_true_iff]
    by_cases h : name ∈ members.map Prod.fst
    · obtain ⟨m, hm, rfl⟩ := List.mem_map.1 h
      rw [valuesOf_of_mem distinct hm]
      exact Nat.le_refl 1
    · rw [valuesOf_of_notMem h]
      exact Nat.zero_le 1
  refine ⟨⟨members⟩, by rw [record?, if_pos once], fun m hm => ?_⟩
  rw [Record.get?, valuesOf_of_mem distinct hm, List.head?_cons]

end

section
variable {α : Type} {f : Json → Option α} {g : α → Json}

/-- What is written of a value that may be missing is read as that value, as long as none is written as `null`. -/
theorem Record.optional_of_get? {r : Record} {name : String} {o : Option α}
    (h : r.get? name = some (Json.optional g o)) (hg : ∀ a ∈ o, f (g a) = some a) (present : ∀ a, g a ≠ .null) :
    r.optional name f = some o := by
  rw [optional, h]
  cases o with
  | none => rfl
  | some a =>
    have read := hg a rfl
    rw [Json.optional]
    split
    · contradiction
    · rename_i hnull
      exact absurd (Option.some.inj hnull) (present a)
    · rename_i hj
      rw [← Option.some.inj hj, read, Option.map_some]

theorem list?_map (xs : List α) (h : ∀ a ∈ xs, f (g a) = some a) : list? f (.array (xs.map g)) = some xs := by
  rw [list?]
  induction xs with
  | nil => rfl
  | cons a xs ih =>
    obtain ⟨ha, hrest⟩ := List.forall_mem_cons.1 h
    rw [List.map_cons, List.mapM_cons, ha, ih hrest]
    rfl

end

end PowerOfAttorney.Json
