import Mathlib.Data.Finset.Card
import Mathlib.Data.Nat.Find
import PowerOfAttorney.Wizard.Surroundings

/-! Minting an id. What is minted is the first text to come that is not taken, whatever the source gives and however long
    that takes (`Source.mint?_eq_some_iff`). A counter never gives a text twice, so no more draws of it can be taken than
    there are ids (`Source.exists_free_scripted`). -/

namespace PowerOfAttorney.Wizard.Source

open Text

/-- The text that is drawn for an id after so many more draws. -/
def upcoming (s : Source) (n : Nat) : String := s.text (s.drawn + n) idLength

/-- After so many more draws comes the first text that is not taken. -/
structure FirstFree (s : Source) (taken : List String) (n : Nat) : Prop where
  free : s.upcoming n ∉ taken
  before : ∀ m < n, s.upcoming m ∈ taken

section
variable {s s' : Source} {taken : List String} {id : String} {m n : Nat}

theorem upcoming_after (s : Source) (draws n : Nat) : (s.after draws).upcoming n = s.upcoming (draws + n) := by
  simp only [upcoming, after, Nat.add_assoc]

theorem after_after (s : Source) (m n : Nat) : (s.after m).after n = s.after (m + n) := by
  simp only [after, Nat.add_assoc]

theorem upcoming_succ (s : Source) (n : Nat) : (s.after 1).upcoming n = s.upcoming (n + 1) := by
  rw [upcoming_after, Nat.add_comm]

theorem after_succ (s : Source) (n : Nat) : (s.after 1).after n = s.after (n + 1) := by
  rw [after_after, Nat.add_comm]

theorem contains_draw : taken.contains (s.draw idLength).1 = true ↔ s.upcoming 0 ∈ taken := List.contains_iff_mem

/-! ### The first text that is not taken -/

theorem FirstFree.le (h : s.FirstFree taken n) (free : s.upcoming m ∉ taken) : n ≤ m := by
  by_contra later
  exact free (h.before m (Nat.lt_of_not_le later))

theorem FirstFree.unique (h : s.FirstFree taken n) (h' : s.FirstFree taken m) : n = m :=
  Nat.le_antisymm (h.le h'.free) (h'.le h.free)

theorem exists_firstFree (h : ∃ n, s.upcoming n ∉ taken) : ∃ n, s.FirstFree taken n := by
  refine ⟨Nat.find h, Nat.find_spec h, fun m hm => ?_⟩
  by_contra free
  exact Nat.find_min h hm free

/-- A draw that is taken only puts off the first free one. -/
theorem firstFree_after (used : s.upcoming 0 ∈ taken) : (s.after 1).FirstFree taken n ↔ s.FirstFree taken (n + 1) := by
  constructor
  · rintro ⟨free, before⟩
    refine ⟨upcoming_succ s n ▸ free, fun m hm => ?_⟩
    rcases m with _ | m
    · exact used
    · exact upcoming_succ s m ▸ before m (Nat.lt_of_succ_lt_succ hm)
  · rintro ⟨free, before⟩
    refine ⟨(upcoming_succ s n).symm ▸ free, fun m hm => ?_⟩
    rw [upcoming_succ]
    exact before (m + 1) (Nat.succ_lt_succ hm)

/-! ### The search -/

theorem untilFree?_of_free (free : s.upcoming 0 ∉ taken) : untilFree? taken s = some (s.upcoming 0, s.after 1) := by
  rw [untilFree?]
  exact if_neg (mt contains_draw.1 free)

theorem untilFree?_of_used (used : s.upcoming 0 ∈ taken) : untilFree? taken s = untilFree? taken (s.after 1) := by
  rw [untilFree?]
  exact if_pos (contains_draw.2 used)

theorem untilFree?_of_firstFree (h : s.FirstFree taken n) :
    untilFree? taken s = some (s.upcoming n, s.after (n + 1)) := by
  induction n generalizing s with
  | zero => exact untilFree?_of_free h.free
  | succ n ih =>
    have used := h.before 0 (Nat.succ_pos n)
    rw [untilFree?_of_used used, ih ((firstFree_after used).2 h), upcoming_succ, after_succ]

/-- The search ends nowhere but at the first text that is not taken. -/
theorem firstFree_of_untilFree? (h : untilFree? taken s = some (id, s')) :
    ∃ n, s.FirstFree taken n ∧ s.upcoming n = id := by
  refine untilFree?.partial_correctness taken (fun s found => ∃ n, s.FirstFree taken n ∧ s.upcoming n = found.1) ?_ s
    (id, s') h
  intro search ih s found ended
  by_cases used : s.upcoming 0 ∈ taken
  · have goesOn : search (s.after 1) = some found := (if_pos (contains_draw.2 used)).symm.trans ended
    obtain ⟨n, first, same⟩ := ih _ _ goesOn
    exact ⟨n + 1, (firstFree_after used).1 first, (upcoming_succ s n).symm.trans same⟩
  · have stops : some (s.upcoming 0, s.after 1) = some found := (if_neg (mt contains_draw.1 used)).symm.trans ended
    obtain rfl := Option.some.inj stops
    exact ⟨0, ⟨used, fun m hm => absurd hm (Nat.not_lt_zero m)⟩, rfl⟩

/-- The draws that are counted are the first ones of the search. -/
theorem mintWithin?_or_untilFree? (draws : Nat) (s : Source) :
    (mintWithin? taken draws s).or (untilFree? taken (s.after draws)) = untilFree? taken s := by
  induction draws generalizing s with
  | zero => rfl
  | succ draws ih =>
    by_cases used : s.upcoming 0 ∈ taken
    · have goesOn : mintWithin? taken (draws + 1) s = mintWithin? taken draws (s.after 1) :=
        if_pos (contains_draw.2 used)
      rw [goesOn, untilFree?_of_used used, ← ih (s.after 1), after_succ]
    · have stops : mintWithin? taken (draws + 1) s = some (s.upcoming 0, s.after 1) := if_neg (mt contains_draw.1 used)
      rw [stops, untilFree?_of_free used, Option.some_or]

theorem mint?_eq_untilFree? (s : Source) (taken : List String) : s.mint? taken = untilFree? taken s := by
  rw [← mintWithin?_or_untilFree? (taken.length + 1) s, mint?]
  split
  · rename_i minted found
    rw [found, Option.some_or]
  · rename_i found
    rw [found, Option.none_or]

/-- What is minted is the first text to come that is not taken, and everything up to it is used up. -/
theorem mint?_eq_some_iff :
    s.mint? taken = some (id, s') ↔ ∃ n, s.FirstFree taken n ∧ id = s.upcoming n ∧ s' = s.after (n + 1) := by
  rw [mint?_eq_untilFree?]
  constructor
  · intro found
    obtain ⟨n, first, -⟩ := firstFree_of_untilFree? found
    rw [untilFree?_of_firstFree first, Option.some.injEq, Prod.mk.injEq] at found
    exact ⟨n, first, found.1.symm, found.2.symm⟩
  · rintro ⟨n, first, rfl, rfl⟩
    exact untilFree?_of_firstFree first

theorem mint?_of_firstFree (h : s.FirstFree taken n) : s.mint? taken = some (s.upcoming n, s.after (n + 1)) :=
  mint?_eq_some_iff.2 ⟨n, h, rfl, rfl⟩

/-- Minting never ends exactly where all texts to come are taken. -/
theorem mint?_eq_none_iff : s.mint? taken = none ↔ ∀ n, s.upcoming n ∈ taken := by
  constructor
  · intro never n
    by_contra free
    obtain ⟨n, first⟩ := exists_firstFree ⟨n, free⟩
    rw [mint?_of_firstFree first] at never
    cases never
  · intro used
    rw [Option.eq_none_iff_forall_ne_some]
    rintro ⟨id, s'⟩ found
    obtain ⟨n, first, -⟩ := mint?_eq_some_iff.1 found
    exact first.free (used n)

/-- A text that is minted is none of those taken. -/
theorem notMem_of_mint? (h : s.mint? taken = some (id, s')) : id ∉ taken := by
  obtain ⟨n, first, rfl, -⟩ := mint?_eq_some_iff.1 h
  exact first.free

end

/-! ### The counter -/

/-- Of different texts one more than there are ids taken, one is not taken. -/
theorem exists_notMem_of_injective {f : Nat → String} (different : Function.Injective f) (taken : List String) :
    ∃ n ≤ taken.toFinset.card, f n ∉ taken := by
  have more : taken.toFinset.card < ((Finset.range (taken.toFinset.card + 1)).map ⟨f, different⟩).card := by
    rw [Finset.card_map, Finset.card_range]
    exact Nat.lt_succ_self _
  obtain ⟨_, among, free⟩ := Finset.exists_mem_notMem_of_card_lt_card more
  obtain ⟨n, hn, rfl⟩ := Finset.mem_map.1 among
  exact ⟨n, Nat.le_of_lt_succ (Finset.mem_range.1 hn), fun used => free (List.mem_toFinset.2 used)⟩

/-- Once the texts of a script are over, the numbers follow. -/
theorem upcoming_scripted {texts : List String} {draws n : Nat} (played : texts.length ≤ draws + n) :
    ((scripted texts).after draws).upcoming n = Decimal.padded idLength (draws + n - texts.length + 1) := by
  have none : texts[draws + n]? = none := List.getElem?_eq_none played
  rw [upcoming_after, upcoming, scripted]
  simp only [Nat.zero_add, none]

theorem exists_free_scripted (texts taken : List String) (draws : Nat) :
    ∃ n ≤ texts.length - draws + taken.toFinset.card, ((scripted texts).after draws).upcoming n ∉ taken := by
  have different : Function.Injective fun k => ((scripted texts).after draws).upcoming (texts.length - draws + k) := by
    intro j k same
    dsimp only at same
    rw [upcoming_scripted (by omega), upcoming_scripted (by omega)] at same
    have numbers := Decimal.padded_injective same
    omega
  obtain ⟨k, hk, free⟩ := exists_notMem_of_injective different taken
  exact ⟨texts.length - draws + k, Nat.add_le_add_left hk _, free⟩

/-! ### Minting as a whole -/

/-- If a source ever gives a text that is not taken, minting ends with the first of these, and uses up the draws up to
    it and no more; if it never does, minting never ends. A source that gives any texts and then counts always ends it,
    after as many draws as it has texts left, as there are different ids taken, and one more. -/
theorem mints_first (taken : List String) :
    (∀ s : Source, (∃ n, s.upcoming n ∉ taken) →
      ∃ n, s.FirstFree taken n ∧ s.mint? taken = some (s.upcoming n, s.after (n + 1))) ∧
    (∀ s : Source, (∀ n, s.upcoming n ∈ taken) → s.mint? taken = none) ∧
    ∀ (texts : List String) (draws : Nat), ∃ n, ((scripted texts).after draws).FirstFree taken n ∧
      ((scripted texts).after draws).mint? taken =
        some (((scripted texts).after draws).upcoming n, (scripted texts).after (draws + (n + 1))) ∧
      n + 1 ≤ texts.length - draws + taken.toFinset.card + 1 := by
  refine ⟨fun s free => ?_, fun s used => mint?_eq_none_iff.2 used, fun texts draws => ?_⟩
  · obtain ⟨n, first⟩ := exists_firstFree free
    exact ⟨n, first, mint?_of_firstFree first⟩
  · obtain ⟨m, hm, free⟩ := exists_free_scripted texts taken draws
    obtain ⟨n, first⟩ := exists_firstFree ⟨m, free⟩
    refine ⟨n, first, ?_, Nat.succ_le_succ (Nat.le_trans (first.le free) hm)⟩
    rw [mint?_of_firstFree first, after_after]

/-- A source gives the same text a thousand times before another one. -/
theorem mints_first_of_late :
    let s : Source := { text := fun n _ => if n < 1000 then "late" else "free" }
    s.upcoming 1000 ∉ ["late"] ∧ s.mint? ["late"] = some ("free", s.after 1001) := by
  intro s
  have last : s.upcoming 1000 = "free" := by simp [upcoming, s]
  have free : s.upcoming 1000 ∉ ["late"] := by
    rw [last]
    decide
  obtain ⟨n, first, minted⟩ := (mints_first ["late"]).1 s ⟨1000, free⟩
  have hn : n = 1000 := by
    refine first.unique ⟨free, fun m hm => ?_⟩
    have late : s.upcoming m = "late" := by simp [upcoming, s, hm]
    rw [late]
    exact List.mem_singleton_self _
  rw [hn, last] at minted
  exact ⟨free, minted⟩

end PowerOfAttorney.Wizard.Source
