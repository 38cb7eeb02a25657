import PowerOfAttorney.Proofs.Namesakes

/-! Whom the search for a name finds. It goes through the line-up from its head and passes over the actor being edited
    alone (`Lpa.others`), so it finds the first of the others with that name, and nobody only where none of them has it
    (`Namesake.find?_eq_some_iff`, `find?_eq_none_iff`). An id says nothing beyond its kind: whoever has the id being
    edited but is of another kind is one of the others (`Lpa.mem_others_of_kind_ne`). -/

namespace PowerOfAttorney

namespace Bearer

/-- Whether somebody of a kind being filled in is the one being edited: whoever has the id, or, where no id is being
    edited, the donor or the certificate provider, of whom there is only one. -/
def IsEdited (subject : ActorKind) (editing : Option String) (b : Bearer) : Prop :=
  b.kind = subject ∧ match editing with
    | some id => b.id = id
    | none => b.kind = .donor ∨ b.kind = .certificateProvider

def HasName (firstNames lastName : String) (b : Bearer) : Prop := b.firstNames = firstNames ∧ b.lastName = lastName

variable {subject : ActorKind} {editing : Option String} {b : Bearer}

theorem isEdited_iff : Namesake.isEdited subject editing b.kind b.id = true ↔ b.IsEdited subject editing := by
  cases editing with
  | none => simp [Namesake.isEdited, IsEdited]
  | some id => simp [Namesake.isEdited, IsEdited, @eq_comm _ id]

instance : Decidable (b.IsEdited subject editing) := decidable_of_iff _ isEdited_iff

instance {firstNames lastName : String} : Decidable (b.HasName firstNames lastName) :=
  inferInstanceAs (Decidable (_ ∧ _))

theorem isAnother_iff {firstNames lastName : String} :
    Namesake.isAnother subject editing firstNames lastName b.kind b.id b.firstNames b.lastName = true ↔
      ¬b.IsEdited subject editing ∧ b.HasName firstNames lastName := by
  rw [← isEdited_iff]
  simp [Namesake.isAnother, HasName, and_assoc]

end Bearer

/-! ### The others -/

namespace Lpa
variable {l : Lpa} {subject : ActorKind} {editing : Option String} {b : Bearer}

/-- The line-up without the one being edited. -/
def others (l : Lpa) (subject : ActorKind) (editing : Option String) : List Bearer :=
  l.lineUp.filter fun b => ¬b.IsEdited subject editing

theorem mem_others : b ∈ l.others subject editing ↔ b ∈ l.lineUp ∧ ¬b.IsEdited subject editing := by
  simp [others]

theorem mem_others_of_kind_ne (hb : b ∈ l.lineUp) (other : b.kind ≠ subject) : b ∈ l.others subject editing :=
  mem_others.2 ⟨hb, fun edited => other edited.1⟩

/-- The donor and the certificate provider have no id. -/
theorem id_of_mem_lineUp (hb : b ∈ l.lineUp) (single : b.kind = .donor ∨ b.kind = .certificateProvider) : b.id = "" := by
  simp only [lineUp, List.mem_cons, List.mem_append, List.mem_map] at hb
  rcases hb with rfl | ⟨_, _, rfl⟩ | ⟨_, _, rfl⟩ | rfl | ⟨_, _, rfl⟩
  · rfl
  · rcases single with h | h <;> cases h
  · rcases single with h | h <;> cases h
  · rfl
  · rcases single with h | h <;> cases h

end Lpa

/-! ### Whom the search finds -/

namespace Namesake
variable {l : Lpa} {subject : ActorKind} {editing : Option String} {firstNames lastName : String}

/-- Where no name is given, nobody is found. -/
theorem find?_of_unnamed (h : firstNames = "" ∧ lastName = "") : find? l subject editing firstNames lastName = none := by
  rw [find?_eq_lineUp, if_pos h]

/-- The search as one through the others. -/
theorem find?_eq_others (given : ¬(firstNames = "" ∧ lastName = "")) :
    find? l subject editing firstNames lastName =
      ((l.others subject editing).find? fun b => b.HasName firstNames lastName).map
        fun b => ⟨subject, b.kind, b.id⟩ := by
  have same (b : Bearer) : isAnother subject editing firstNames lastName b.kind b.id b.firstNames b.lastName =
      decide (decide (¬b.IsEdited subject editing) = true ∧ decide (b.HasName firstNames lastName) = true) := by
    rw [Bool.eq_iff_iff, Bearer.isAnother_iff]
    simp only [decide_eq_true_eq]
  rw [find?_eq_lineUp, if_neg given, Lpa.others, List.find?_filter]
  simp only [same]

theorem find?_eq_none_iff (given : ¬(firstNames = "" ∧ lastName = "")) :
    find? l subject editing firstNames lastName = none ↔
      ∀ b ∈ l.others subject editing, ¬b.HasName firstNames lastName := by
  simp only [find?_eq_others given, Option.map_eq_none_iff, List.find?_eq_none, decide_eq_true_eq]

theorem find?_eq_some_iff (given : ¬(firstNames = "" ∧ lastName = "")) {n : Namesake} :
    find? l subject editing firstNames lastName = some n ↔
      ∃ before b after, l.others subject editing = before ++ b :: after ∧ b.HasName firstNames lastName ∧
        (∀ c ∈ before, ¬c.HasName firstNames lastName) ∧ n = ⟨subject, b.kind, b.id⟩ := by
  simp only [find?_eq_others given, Option.map_eq_some_iff, List.find?_eq_some_iff_append, decide_eq_true_eq,
    Bool.not_eq_true', decide_eq_false_iff_not]
  constructor
  · rintro ⟨b, ⟨hb, before, after, hsplit, hbefore⟩, rfl⟩
    exact ⟨before, b, after, hsplit, hb, hbefore, rfl⟩
  · rintro ⟨before, b, after, hsplit, hb, hbefore, rfl⟩
    exact ⟨b, ⟨hb, before, after, hsplit, hbefore⟩, rfl⟩

/-- Whoever is found stands in the line-up and is not the one being edited. -/
theorem exists_of_find? {n : Namesake} (h : find? l subject editing firstNames lastName = some n) :
    ∃ b ∈ l.lineUp, ¬b.IsEdited subject editing ∧ b.HasName firstNames lastName ∧ n = ⟨subject, b.kind, b.id⟩ := by
  have given : ¬(firstNames = "" ∧ lastName = "") := by
    intro unnamed
    rw [find?_of_unnamed unnamed] at h
    cases h
  obtain ⟨before, b, after, hsplit, hb, -, hn⟩ := (find?_eq_some_iff given).1 h
  have mem : b ∈ l.others subject editing := by
    rw [hsplit]
    exact List.mem_append_right _ List.mem_cons_self
  obtain ⟨hline, another⟩ := Lpa.mem_others.1 mem
  exact ⟨b, hline, another, hb, hn⟩

/-- The search for a name finds the first of the others who has it, by kind and id, and nobody exactly if none of them
    has it or no name is given. Whoever is found is not the one being edited, and an actor of another kind who has the
    name is never passed over, whatever its id. -/
theorem find?_first (l : Lpa) (subject : ActorKind) (editing : Option String) (firstNames lastName : String) :
    let found := find? l subject editing firstNames lastName
    let unnamed := firstNames = "" ∧ lastName = ""
    (∀ n, found = some n ↔ ¬unnamed ∧ ∃ before b after, l.others subject editing = before ++ b :: after ∧
      b.HasName firstNames lastName ∧ (∀ c ∈ before, ¬c.HasName firstNames lastName) ∧
      n = ⟨subject, b.kind, b.id⟩) ∧
    (found = none ↔ unnamed ∨ ∀ b ∈ l.others subject editing, ¬b.HasName firstNames lastName) ∧
    (∀ n, found = some n → (n.matched = .donor ∨ n.matched = .certificateProvider → n.matchedId = "") ∧
      ¬(n.matched = subject ∧ match editing with
        | some id => n.matchedId = id
        | none => n.matched = .donor ∨ n.matched = .certificateProvider)) ∧
    ∀ b ∈ l.lineUp, b.kind ≠ subject → b.HasName firstNames lastName → ¬unnamed → found ≠ none := by
  intro found unnamed
  refine ⟨fun n => ?_, ?_, fun n hn => ?_, fun b hb other hname given hnone => ?_⟩
  · by_cases given : unnamed
    · have hnone : found = none := find?_of_unnamed given
      simp [hnone, given]
    · rw [and_iff_right given]
      exact find?_eq_some_iff given
  · by_cases given : unnamed
    · exact iff_of_true (find?_of_unnamed given) (.inl given)
    · rw [or_iff_right given]
      exact find?_eq_none_iff given
  · obtain ⟨b, hb, another, -, rfl⟩ := exists_of_find? hn
    exact ⟨fun single => Lpa.id_of_mem_lineUp hb single, another⟩
  · exact (find?_eq_none_iff given).1 hnone b (Lpa.mem_others_of_kind_ne hb other) hname

/-- While an attorney is edited, a replacement attorney with the same id and the name given is found, and the person to
    notify who has that name as well is not. -/
theorem find?_first_of_sharedId :
    let l : Lpa := {
      donor := { firstNames := "Ann", lastName := "Smith" }
      attorneys := ⟨[{ id := "1", firstNames := "Bob", lastName := "Jones" }]⟩
      replacements := ⟨[{ id := "1", firstNames := "Bob", lastName := "Jones" }]⟩
      peopleToNotify := ⟨[{ id := "2", firstNames := "Bob", lastName := "Jones" }]⟩ }
    find? l .attorney (some "1") "Bob" "Jones" = some ⟨.attorney, .replacement, "1"⟩ ∧
    find? l .replacement none "Bob" "Jones" ≠ none := by
  intro l
  have edited := find?_first l .attorney (some "1") "Bob" "Jones"
  have added := find?_first l .replacement none "Bob" "Jones"
  constructor
  · refine (edited.1 _).2 ⟨by decide, [.ofDonor l.donor], .ofAttorney .replacement ⟨"1", "Bob", "Jones", "", none, {}⟩,
      [.ofProvider {}, .ofPerson ⟨"2", "Bob", "Jones", "", {}⟩], by decide, ⟨rfl, rfl⟩, ?_, rfl⟩
    intro c hc
    obtain rfl := List.mem_singleton.1 hc
    decide
  · refine added.2.2.2 (.ofAttorney .primary ⟨"1", "Bob", "Jones", "", none, {}⟩) ?_ nofun ⟨rfl, rfl⟩ (by decide)
    exact List.mem_cons_of_mem _ List.mem_cons_self

end Namesake

end PowerOfAttorney
