import PowerOfAttorney.Text.Blank

/-!
What can be wrong with a field of a form, and lists of such errors.

A list holds at most one error for each field, the first that was found, in the order of finding.
-/

namespace PowerOfAttorney

/-- What is wrong with one field. The label is the key of the field's name in the translations. -/
inductive FieldError where
  | enter (label : String)
  | select (label : String)
  | tooLong (label : String) (limit : Nat)
  | dateNotReal (label : String)
  | dateNotPast (label : String)
  | dateMissing (label : String) (day month year : Bool)
  | email (label : String)
  /-- An error with a wording of its own, which its label names. -/
  | custom (label : String)
deriving DecidableEq, Repr

namespace FieldError

/-- The label of the field. -/
def label : FieldError → String
  | .enter l => l
  | .select l => l
  | .tooLong l _ => l
  | .dateNotReal l => l
  | .dateNotPast l => l
  | .dateMissing l _ _ _ => l
  | .email l => l
  | .custom l => l

/-- The key of the wording in the translations. -/
def code : FieldError → String
  | .enter _ => "errorEnter"
  | .select _ => "errorSelect"
  | .tooLong _ _ => "errorStringTooLong"
  | .dateNotReal _ => "errorDateMustBeReal"
  | .dateNotPast _ => "errorDateMustBePast"
  | .dateMissing _ _ _ _ => "errorDateMissing"
  | .email _ => "errorEmail"
  | .custom l => l

end FieldError

/-- A field and what is wrong with it. -/
structure Issue where
  field : String
  error : FieldError
deriving DecidableEq, Repr

/-- Errors by field, at most one for each, in the order they were found. -/
structure ErrorList where
  issues : List Issue := []
deriving DecidableEq, Repr, Inhabited

namespace ErrorList

/-- Whether the field has an error. -/
def has (l : ErrorList) (field : String) : Bool := l.issues.any fun i => i.field == field

/-- The error of a field. -/
def get? (l : ErrorList) (field : String) : Option FieldError :=
  (l.issues.find? fun i => i.field == field).map (·.error)

/-- The list with an error added at the end, unless its field has one already. -/
def add (l : ErrorList) (field : String) (error : FieldError) : ErrorList :=
  if l.has field then l else ⟨l.issues ++ [⟨field, error⟩]⟩

/-- The list with an error added if there is one. -/
def addAny (l : ErrorList) (field : String) : Option FieldError → ErrorList
  | none => l
  | some error => l.add field error

/-- The list of one error. -/
def single (field : String) (error : FieldError) : ErrorList := ⟨[⟨field, error⟩]⟩

def any (l : ErrorList) : Bool := !l.issues.isEmpty

/-- The fields that have an error. -/
def fields (l : ErrorList) : List String := l.issues.map (·.field)

/-- An error of a field without one goes to the end. -/
theorem issues_addAny {l : ErrorList} {field : String} (h : l.has field = false) (error : Option FieldError) :
    (l.addAny field error).issues = l.issues ++ (error.map (Issue.mk field)).toList := by
  cases error with
  | none => exact (List.append_nil _).symm
  | some e =>
    rw [addAny, add, h]
    rfl

theorem addAny_eq_self_iff {l : ErrorList} {field : String} (h : l.has field = false) {error : Option FieldError} :
    l.addAny field error = l ↔ error = none := by
  constructor
  · intro same
    have added := issues_addAny h error
    rw [same, List.self_eq_append_right] at added
    cases error with
    | none => rfl
    | some e => cases added
  · rintro rfl
    rfl

theorem issues_addAny_eq_iff {l : ErrorList} {field : String} (h : l.has field = false) {error : Option FieldError}
    {e : FieldError} : (l.addAny field error).issues = l.issues ++ [⟨field, e⟩] ↔ error = some e := by
  rw [issues_addAny h, List.append_cancel_left_eq]
  cases error <;> simp

/-- Adding keeps the fields distinct. -/
theorem nodup_add {l : ErrorList} (h : l.fields.Nodup) (field : String) (error : FieldError) :
    (l.add field error).fields.Nodup := by
  unfold add
  split
  · exact h
  · rename_i hn
    simp only [has, List.any_eq_true, beq_iff_eq, not_exists, not_and] at hn
    simp only [fields, List.map_append, List.map_cons, List.map_nil]
    refine List.nodup_append.2 ⟨h, by simp, ?_⟩
    intro a ha b hb
    obtain ⟨i, hi, rfl⟩ := List.mem_map.1 ha
    rw [List.mem_singleton.1 hb]
    exact hn i hi

end ErrorList

/-- What a text box asks of its text. -/
structure TextRule where
  field : String
  label : String
  required : Bool := false
  /-- The most characters it takes. -/
  limit : Option Nat := none
  /-- Which texts it takes for an address. -/
  address : Option (String → Bool) := none

/-- The error of a text under a rule. Nothing but whether it is required is asked of an empty text. -/
def TextRule.check (r : TextRule) (value : String) : Option FieldError :=
  if value = "" then if r.required then some (.enter r.label) else none
  else match r.limit with
    | some limit => if limit < value.length then some (.tooLong r.label limit) else checkAddress r value
    | none => checkAddress r value
where
  /-- The error of a text that should be an address. -/
  checkAddress (r : TextRule) (value : String) : Option FieldError :=
    match r.address with
    | some isValid => if isValid value then none else some (.email r.label)
    | none => none

/-- The errors of some texts under their rules, in the order of the rules. -/
def ErrorList.check (checks : List (TextRule × String)) : ErrorList :=
  checks.foldl (fun l c => l.addAny c.1.field (c.1.check c.2)) {}

/-- Asks for a text that is not blank. -/
def ErrorList.requireText (l : ErrorList) (field label value : String) : ErrorList :=
  if Text.allBlank value then l.add field (.enter label) else l

/-- Asks for a text of at most `limit` characters. -/
def ErrorList.requireAtMost (l : ErrorList) (field label value : String) (limit : Nat) : ErrorList :=
  if limit < value.length then l.add field (.tooLong label limit) else l

end PowerOfAttorney
