/-! Cutting a sequence at a separator: at its first place, at its last, or at every one. -/

namespace PowerOfAttorney.Text

variable {α : Type} [DecidableEq α]

/-- What stands before and after the first separator; `none` without one. -/
def cut (sep : α) : List α → Option (List α × List α)
  | [] => none
  | c :: r => if c = sep then some ([], r) else (cut sep r).map fun p => (c :: p.1, p.2)

/-- What stands before and after the last separator; `none` without one. -/
def cutLast (sep : α) (cs : List α) : Option (List α × List α) :=
  (cut sep cs.reverse).map fun p => (p.2.reverse, p.1.reverse)

/-- The pieces between the separators: always one more than there are separators. -/
def pieces (sep : α) : List α → List (List α)
  | [] => [[]]
  | c :: r =>
    if c = sep then [] :: pieces sep r
    else match pieces sep r with
      | p :: ps => (c :: p) :: ps
      | [] => [[c]]

/-- A cut loses nothing but the separator, and its first part holds none. -/
theorem cut_eq_some {sep : α} {cs a b : List α} (h : cut sep cs = some (a, b)) :
    cs = a ++ sep :: b ∧ sep ∉ a := by
  induction cs generalizing a with
  | nil => simp [cut] at h
  | cons c r ih =>
    by_cases hc : c = sep
    · simp only [cut, hc, if_true, Option.some.injEq, Prod.mk.injEq] at h
      obtain ⟨rfl, rfl⟩ := h
      simp [hc]
    · simp only [cut, hc, if_false, Option.map_eq_some_iff, Prod.mk.injEq] at h
      obtain ⟨⟨x, y⟩, hr, rfl, rfl⟩ := h
      obtain ⟨rfl, hx⟩ := ih hr
      exact ⟨rfl, by simp [Ne.symm hc, hx]⟩

/-- There is no cut exactly where there is no separator. -/
theorem cut_eq_none_iff {sep : α} {cs : List α} : cut sep cs = none ↔ sep ∉ cs := by
  induction cs with
  | nil => simp [cut]
  | cons c r ih =>
    by_cases hc : c = sep
    · simp [cut, hc]
    · simp [cut, hc, ih, Ne.symm hc]

/-- A first part without the separator is what the cut finds. -/
theorem cut_append {sep : α} {a b : List α} (h : sep ∉ a) : cut sep (a ++ sep :: b) = some (a, b) := by
  induction a with
  | nil => simp [cut]
  | cons c r ih =>
    simp only [List.mem_cons, not_or] at h
    simp [cut, Ne.symm h.1, ih h.2]

/-- Where there is a separator, all but the first one stand behind the cut. -/
theorem exists_cut {sep : α} {cs : List α} (h : 0 < cs.count sep) :
    ∃ a b, cs = a ++ sep :: b ∧ sep ∉ a ∧ b.count sep + 1 = cs.count sep := by
  cases hcut : cut sep cs with
  | none => exact absurd (List.count_pos_iff.1 h) (cut_eq_none_iff.1 hcut)
  | some parts =>
    obtain ⟨a, b⟩ := parts
    obtain ⟨rfl, ha⟩ := cut_eq_some hcut
    refine ⟨a, b, rfl, ha, ?_⟩
    rw [List.count_append, List.count_cons_self, List.count_eq_zero.2 ha, Nat.zero_add]

/-- There is always a piece. -/
theorem pieces_ne_nil (sep : α) (cs : List α) : pieces sep cs ≠ [] := by
  induction cs with
  | nil => simp [pieces]
  | cons c r _ =>
    unfold pieces
    split
    · simp
    · split <;> simp

/-- Without a separator all is one piece. -/
theorem pieces_of_notMem {sep : α} {cs : List α} (h : sep ∉ cs) : pieces sep cs = [cs] := by
  induction cs with
  | nil => rfl
  | cons c r ih =>
    simp only [List.mem_cons, not_or] at h
    simp [pieces, Ne.symm h.1, ih h.2]

/-- Pieces on either side of a separator are pieces of the whole. -/
theorem pieces_parted (sep : α) (a b : List α) : pieces sep (a ++ sep :: b) = pieces sep a ++ pieces sep b := by
  induction a with
  | nil => simp [pieces]
  | cons c r ih =>
    by_cases hc : c = sep
    · simp [pieces, hc, ih]
    · obtain ⟨p, ps, hr⟩ := List.exists_cons_of_ne_nil (pieces_ne_nil sep r)
      simp [pieces, hc, ih, hr]

/-- What comes before the first separator is the first piece. -/
theorem pieces_append {sep : α} {a : List α} (b : List α) (h : sep ∉ a) :
    pieces sep (a ++ sep :: b) = a :: pieces sep b := by
  rw [pieces_parted, pieces_of_notMem h, List.singleton_append]

/-- No piece holds a separator. -/
theorem notMem_of_mem_pieces {sep : α} {cs p : List α} (h : p ∈ pieces sep cs) : sep ∉ p := by
  induction cs generalizing p with
  | nil =>
    simp only [pieces, List.mem_singleton] at h
    simp [h]
  | cons c r ih =>
    unfold pieces at h
    split at h
    · rcases List.mem_cons.1 h with rfl | h
      · simp
      · exact ih h
    · rename_i hc
      split at h
      · rename_i q qs hq
        rcases List.mem_cons.1 h with rfl | h
        · simp [Ne.symm hc, ih (hq ▸ List.mem_cons_self)]
        · exact ih (hq ▸ List.mem_cons_of_mem _ h)
      · simp only [List.mem_singleton] at h
        simp [h, Ne.symm hc]

end PowerOfAttorney.Text
