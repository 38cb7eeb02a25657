/-!
Small closed sets of values that are named by words, in posted forms, in what is stored and in what is shown.

Reading a word is the inverse of naming a value: `ofWord?_eq_some_iff`.
-/

namespace PowerOfAttorney

/-- A type whose values, all of them listed, are named by different words. -/
class Worded (α : Type) where
  all : List α
  word : α → String
  mem_all : ∀ a, a ∈ all
  nodup_words : (all.map word).Nodup

def wordOf {α : Type} [Worded α] (a : α) : String := Worded.word a

/-- The value that a word names. -/
def ofWord? {α : Type} [Worded α] (s : String) : Option α := (Worded.all : List α).find? fun a => wordOf a == s

variable {α : Type} [Worded α]

/-- Different values have different words. -/
theorem wordOf_injective {a b : α} (h : wordOf a = wordOf b) : a = b := by
  have hn : ((Worded.all : List α).map wordOf).Nodup := Worded.nodup_words
  generalize hl : (Worded.all : List α) = l at hn
  have ha : a ∈ l := hl ▸ Worded.mem_all a
  have hb : b ∈ l := hl ▸ Worded.mem_all b
  clear hl
  induction l with
  | nil => simp at ha
  | cons x r ih =>
    simp only [List.map_cons, List.nodup_cons, List.mem_map, not_exists, not_and] at hn
    rcases List.mem_cons.1 ha with rfl | ha' <;> rcases List.mem_cons.1 hb with rfl | hb'
    · rfl
    · exact absurd h.symm (hn.1 b hb')
    · exact absurd h (hn.1 a ha')
    · exact ih hn.2 ha' hb'

/-- A word is read as the value that it names and as nothing else. -/
theorem ofWord?_eq_some_iff {s : String} {a : α} : ofWord? s = some a ↔ wordOf a = s := by
  constructor
  · intro h
    simpa using List.find?_some h
  · rintro rfl
    cases hf : ofWord? (α := α) (wordOf a) with
    | none => simpa using List.find?_eq_none.1 hf a (Worded.mem_all a)
    | some b => exact congrArg some (wordOf_injective (by simpa using List.find?_some hf))

theorem ofWord?_eq_none_iff {s : String} : (ofWord? s : Option α) = none ↔ ∀ a : α, wordOf a ≠ s := by
  rw [Option.eq_none_iff_forall_ne_some]
  exact forall_congr' fun _ => not_congr ofWord?_eq_some_iff

@[simp] theorem ofWord?_wordOf (a : α) : ofWord? (wordOf a) = some a := ofWord?_eq_some_iff.2 rfl

end PowerOfAttorney
