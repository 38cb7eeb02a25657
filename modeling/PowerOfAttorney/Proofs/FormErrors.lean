import PowerOfAttorney.Form.Choice

/-! What a form without errors holds. A list of errors is empty only if no check has added to it, so every
    check of the form has passed: the names that have to be given are there, the birth is a day, and details
    are not blank. -/

namespace PowerOfAttorney

/-! ### Lists of errors -/

namespace ErrorList

@[simp] theorem any_empty : ErrorList.any {} = false := rfl

@[simp] theorem any_single (field : String) (error : FieldError) : (single field error).any = true := rfl

@[simp] theorem any_add (l : ErrorList) (field : String) (error : FieldError) : (l.add field error).any = true := by
  unfold add
  split
  · rename_i h
    obtain ⟨i, hi, -⟩ := List.any_eq_true.1 h
    simp only [any, Bool.not_eq_true', List.isEmpty_eq_false_iff]
    exact List.ne_nil_of_mem hi
  · simp [any]

theorem any_addAny {l : ErrorList} {field : String} {error : Option FieldError} :
    (l.addAny field error).any = false ↔ l.any = false ∧ error = none := by
  cases error <;> simp [addAny]

theorem any_requireText {l : ErrorList} {field label value : String} :
    (l.requireText field label value).any = false ↔ l.any = false ∧ Text.allBlank value = false := by
  unfold requireText
  cases Text.allBlank value <;> simp

theorem any_requireAtMost {l : ErrorList} {field label value : String} {limit : Nat} :
    (l.requireAtMost field label value limit).any = false ↔ l.any = false ∧ value.length ≤ limit := by
  unfold requireAtMost
  split
  · simp only [any_add, Bool.true_eq_false, false_iff, not_and]
    omega
  · simp only [iff_self_and]
    omega

theorem any_foldl_check {checks : List (TextRule × String)} {l : ErrorList} :
    (checks.foldl (fun l c => l.addAny c.1.field (c.1.check c.2)) l).any = false ↔
      l.any = false ∧ ∀ c ∈ checks, c.1.check c.2 = none := by
  induction checks generalizing l with
  | nil => simp
  | cons c r ih => simp only [List.foldl_cons, ih, any_addAny, List.forall_mem_cons, and_assoc]

/-- Checked texts have no errors exactly if each passes its own check. -/
theorem any_check {checks : List (TextRule × String)} :
    (check checks).any = false ↔ ∀ c ∈ checks, c.1.check c.2 = none := by
  rw [check, any_foldl_check]
  simp

end ErrorList

/-- A text passes its check if it is empty and need not be given, or keeps to what is asked of a given one. -/
theorem TextRule.check_eq_none_iff {r : TextRule} {value : String} : r.check value = none ↔
    if value = "" then r.required = false
    else (∀ limit ∈ r.limit, value.length ≤ limit) ∧ ∀ isValid ∈ r.address, isValid value = true := by
  have address : check.checkAddress r value = none ↔ ∀ isValid ∈ r.address, isValid value = true := by
    unfold check.checkAddress
    cases r.address <;> simp
  unfold check
  split
  · simp
  · cases r.limit with
    | none => simpa using address
    | some limit =>
      simp only [Option.mem_some_iff, forall_eq', ← address]
      split
      · rename_i long
        simp only [reduceCtorEq, false_iff, not_and]
        exact fun short => absurd short (Nat.not_le.2 long)
      · rename_i short
        exact ⟨fun h => ⟨Nat.not_lt.1 short, h⟩, fun h => h.2⟩

/-- A text that need not be an address passes its check if it is there, where it has to be, and is not too long. -/
theorem TextRule.check_eq_none_iff_of_address {r : TextRule} {value : String} (h : r.address = none) :
    r.check value = none ↔ (r.required = true → value ≠ "") ∧ ∀ limit ∈ r.limit, value.length ≤ limit := by
  rw [check_eq_none_iff, h]
  split
  · rename_i hempty
    simp [hempty]
  · rename_i given
    simp [given]

/-- A text that has to be given and passes its check is given. -/
theorem TextRule.ne_empty_of_check {r : TextRule} {value : String} (required : r.required = true)
    (h : r.check value = none) : value ≠ "" := by
  rintro rfl
  simp [TextRule.check, required] at h

theorem TextRule.length_le_of_check {r : TextRule} {limit : Nat} {value : String} (hlimit : r.limit = some limit)
    (h : r.check value = none) : value.length ≤ limit := by
  rw [TextRule.check_eq_none_iff] at h
  split at h
  · rename_i hempty
    rw [hempty]
    exact Nat.zero_le limit
  · exact h.1 limit hlimit

theorem TextRule.valid_of_check {r : TextRule} {isValid : String → Bool} {value : String}
    (haddress : r.address = some isValid) (given : value ≠ "") (h : r.check value = none) : isValid value = true := by
  rw [TextRule.check_eq_none_iff, if_neg given] at h
  exact h.2 isValid haddress

/-- Boxes that name a day before today name a day. -/
theorem DateBoxes.date?_of_pastError? {b : DateBoxes} {label : String} {today : Date}
    (h : b.pastError? label today = none) : ∃ d, b.date? = some d ∧ ¬today ≤ d := by
  unfold DateBoxes.pastError? at h
  split at h
  · cases h
  · split at h
    · cases h
    · split at h
      · cases h
      · rename_i d hd
        split at h
        · cases h
        · exact ⟨d, hd, ‹_›⟩

namespace Form

/-! ### Details of actors -/

/-- An attorney's details are taken only with both names and a day of birth. -/
theorem ActorDetails.given_of_errors {f : ActorDetails} {today : Date} {isEmail : String → Bool}
    (h : (f.errors today isEmail).any = false) :
    f.firstNames ≠ "" ∧ f.lastName ≠ "" ∧ f.birth.date?.isSome = true := by
  obtain ⟨hnames, hbirth⟩ := ErrorList.any_addAny.1 h
  obtain ⟨d, hd, -⟩ := DateBoxes.date?_of_pastError? hbirth
  rw [ErrorList.any_check] at hnames
  have hfirst := hnames (firstNamesRule, f.firstNames) (by simp)
  have hlast := hnames (lastNameRule, f.lastName) (by simp)
  exact ⟨TextRule.ne_empty_of_check rfl hfirst, TextRule.ne_empty_of_check rfl hlast, by rw [hd]; rfl⟩

/-! ### Choices with details -/

theorem any_addDetails {l : ErrorList} {field label details : String} :
    (addDetails l field label details).any = false ↔
      l.any = false ∧ Text.allBlank details = false ∧ details.length ≤ detailsLimit := by
  rw [addDetails, ErrorList.any_requireAtMost, ErrorList.any_requireText, and_assoc]

theorem Decisions.details_of_mode? {f : Decisions} {details : String} (h : f.mode? = some (.mixed details)) :
    details = Text.trim f.mixedDetails := by
  unfold mode? at h
  split at h
  · cases h
  · split at h
    · cases h
    · split at h <;> cases h
      rfl

theorem StepInForm.details_of_stepIn? {f : StepInForm} {details : String} (h : f.stepIn? = some (.someOtherWay details)) :
    details = Text.trim f.otherDetails := by
  unfold stepIn? at h
  split at h
  · cases h
  · split at h
    · cases h
    · split at h <;> cases h
      rfl

/-- A form about an arrangement without errors names one that is complete. -/
theorem Decisions.mode?_of_errors {f : Decisions} {label : String} (h : (f.errors label).any = false) :
    ∃ m, f.mode? = some m ∧ m.isComplete = true := by
  unfold Decisions.errors at h
  split at h
  · simp at h
  · rename_i details hm
    exact ⟨_, hm, by simp [DecisionMode.isComplete, (any_addDetails.1 h).2.1]⟩
  · rename_i m hne hm
    refine ⟨m, hm, ?_⟩
    cases m with
    | jointly => rfl
    | jointlyAndSeverally => rfl
    | mixed details => exact absurd rfl (hne details)

/-- The errors of a form about an arrangement do not depend on what its field is called. -/
theorem Decisions.any_errors_label (f : Decisions) (label label' : String) :
    (f.errors label).any = (f.errors label').any := by
  unfold Decisions.errors
  split <;> rfl

/-- A form about stepping in without errors names an answer that is complete. -/
theorem StepInForm.stepIn?_of_errors {f : StepInForm} (h : f.errors.any = false) :
    ∃ a, f.stepIn? = some a ∧ a.isComplete = true := by
  unfold StepInForm.errors at h
  split at h
  · simp at h
  · rename_i details ha
    exact ⟨_, ha, by simp [StepIn.isComplete, (any_addDetails.1 h).2.1]⟩
  · rename_i a hne ha
    refine ⟨a, ha, ?_⟩
    cases a with
    | whenOneCannotAct => rfl
    | whenNoneCanAct => rfl
    | someOtherWay details => exact absurd rfl (hne details)

end Form

end PowerOfAttorney
