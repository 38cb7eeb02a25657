import Mathlib.Data.List.Induction
import Mathlib.Tactic.MkIffOfInductiveProp
import PowerOfAttorney.Proofs.DatesOfBirth
import PowerOfAttorney.Proofs.FormErrors

/-! What is found wrong with the details of an actor. Each check of a form looks at a field of its own, so its list of
    errors is that of the checks in their order, without those that are passed (`ErrorList.issues_collect`). What a form
    can have wrong is said field by field, without the rules that are checked (`ActorDetails.Fault` and its like), and
    that is what its list says, no more and no less (`Form.errors_exact`). -/

namespace PowerOfAttorney

/-! ### Lists of what was found -/

namespace ErrorList

/-- The errors that were found, in order. -/
def collect (found : List (String × Option FieldError)) : ErrorList := found.foldl (fun l c => l.addAny c.1 c.2) {}

/-- Whether a list is that of some faults: each of them stands there and nothing else does, no field has two, and the
    fields keep to an order. -/
structure Lists (l : ErrorList) (order : List String) (fault : String → FieldError → Prop) : Prop where
  mem_iff : ∀ field e, ⟨field, e⟩ ∈ l.issues ↔ fault field e
  once : l.fields.Nodup
  ordered : l.fields.Sublist order
  clear_iff : l.any = false ↔ ∀ field e, ¬fault field e

variable {found : List (String × Option FieldError)}

theorem collect_append (found : List (String × Option FieldError)) (field : String) (error : Option FieldError) :
    collect (found ++ [(field, error)]) = (collect found).addAny field error := List.foldl_append

/-- What was found of different fields stands there as it was found. -/
theorem issues_collect (distinct : (found.map Prod.fst).Nodup) :
    (collect found).issues = found.filterMap fun c => c.2.map (Issue.mk c.1) := by
  induction found using List.reverseRecOn with
  | nil => rfl
  | append_singleton found c ih =>
    obtain ⟨field, error⟩ := c
    rw [List.map_append, List.nodup_append] at distinct
    obtain ⟨hfound, -, apart⟩ := distinct
    have listed := ih hfound
    -- an error for a field that has one already would be dropped
    have unused : (collect found).has field = false := by
      rw [has, listed, List.any_eq_false]
      intro i hi same
      obtain ⟨c, hc, e, -, rfl⟩ : ∃ c ∈ found, ∃ e, c.2 = some e ∧ Issue.mk c.1 e = i := by
        simpa only [List.mem_filterMap, Option.map_eq_some_iff] using hi
      exact apart c.1 (List.mem_map_of_mem hc) field (List.mem_singleton_self field) (beq_iff_eq.1 same)
    rw [collect_append, issues_addAny unused, listed, List.filterMap_append]
    cases error <;> rfl

theorem fields_sublist (found : List (String × Option FieldError)) :
    ((found.filterMap fun c => c.2.map (Issue.mk c.1)).map Issue.field).Sublist (found.map Prod.fst) := by
  induction found with
  | nil => exact .slnil
  | cons c found ih =>
    obtain ⟨field, error⟩ := c
    cases error with
    | none => exact ih.cons field
    | some e => exact ih.cons_cons field

/-- What was found of different fields lists the faults that were found. -/
theorem lists_collect {order : List String} {fault : String → FieldError → Prop} (looked : found.map Prod.fst = order)
    (distinct : order.Nodup) (h : ∀ field e, (field, some e) ∈ found ↔ fault field e) :
    (collect found).Lists order fault := by
  subst looked
  have listed := issues_collect distinct
  have mem_iff (field : String) (e : FieldError) : ⟨field, e⟩ ∈ (collect found).issues ↔ fault field e := by
    rw [listed, ← h, List.mem_filterMap]
    constructor
    · rintro ⟨⟨field', error⟩, hc, he⟩
      obtain ⟨e', rfl, same⟩ := Option.map_eq_some_iff.1 he
      cases same
      exact hc
    · intro hc
      exact ⟨_, hc, rfl⟩
  have ordered : (collect found).fields.Sublist (found.map Prod.fst) := by
    rw [fields, listed]
    exact fields_sublist found
  refine ⟨mem_iff, distinct.sublist ordered, ordered, ?_⟩
  simp only [← mem_iff, any, Bool.not_eq_false', List.isEmpty_iff, List.eq_nil_iff_forall_not_mem]
  exact ⟨fun h field e => h ⟨field, e⟩, fun h i => h i.field i.error⟩

end ErrorList

/-- What is wrong with a text under a rule: it is missing, too long, or no address. -/
theorem TextRule.check_eq_some_iff {r : TextRule} {value : String} {e : FieldError} : r.check value = some e ↔
    (r.required = true ∧ value = "" ∧ e = .enter r.label) ∨
      (∃ limit ∈ r.limit, limit < value.length ∧ e = .tooLong r.label limit) ∨
      ∃ isValid ∈ r.address, value ≠ "" ∧ (∀ limit ∈ r.limit, value.length ≤ limit) ∧ isValid value = false ∧
        e = .email r.label := by
  have address : check.checkAddress r value = some e ↔
      ∃ isValid ∈ r.address, isValid value = false ∧ e = .email r.label := by
    unfold check.checkAddress
    cases r.address with
    | none => simp
    | some isValid => simp [eq_comm (a := e)]
  unfold check
  split
  · rename_i hempty
    simp [hempty, eq_comm (a := e)]
  · rename_i given
    cases r.limit with
    | none => simp [given, address]
    | some limit =>
      dsimp only
      split
      · rename_i long
        simp [given, long, Nat.not_le.2 long, eq_comm (a := e)]
      · rename_i short
        simp [given, short, Nat.not_lt.1 short, address]

namespace Form

/-! ### What can be wrong -/

/-- Names that have to be given are missing or too long. -/
@[mk_iff]
inductive NameFault (firstNames lastName : String) : String → FieldError → Prop
  | noFirstNames (missing : firstNames = "") : NameFault firstNames lastName "first-names" (.enter "firstNames")
  | longFirstNames (long : 53 < firstNames.length) :
      NameFault firstNames lastName "first-names" (.tooLong "firstNames" 53)
  | noLastName (missing : lastName = "") : NameFault firstNames lastName "last-name" (.enter "lastName")
  | longLastName (long : 61 < lastName.length) : NameFault firstNames lastName "last-name" (.tooLong "lastName" 61)

/-- An address that has to be given is missing or is none. -/
@[mk_iff]
inductive EmailFault (isEmail : String → Bool) (email : String) : String → FieldError → Prop
  | missing (missing : email = "") : EmailFault isEmail email "email" (.enter "email")
  | refused (given : email ≠ "") (refused : isEmail email = false) : EmailFault isEmail email "email" (.email "email")

/-- The boxes of a birth do not hold a past day. -/
@[mk_iff]
inductive BirthFault (birth : DateBoxes) (today : Date) : String → FieldError → Prop
  | unpast {e : FieldError} (fault : birth.Fault "dateOfBirth" today e) : BirthFault birth today "date-of-birth" e

/-- What can be wrong with the details of an attorney. -/
@[mk_iff]
inductive ActorDetails.Fault (f : ActorDetails) (today : Date) (isEmail : String → Bool) (field : String)
    (e : FieldError) : Prop
  | names (fault : NameFault f.firstNames f.lastName field e)
  | email (fault : EmailFault isEmail f.email field e)
  | birth (fault : BirthFault f.birth today field e)

/-- What can be wrong with the details of the donor. -/
@[mk_iff]
inductive DonorDetails.Fault (f : DonorDetails) (today : Date) : String → FieldError → Prop
  | names {field : String} {e : FieldError} (fault : NameFault f.firstNames f.lastName field e) : Fault f today field e
  | longOtherNames (long : 50 < f.otherNames.length) :
      Fault f today "other-names" (.tooLong "otherNamesYouAreKnownBy" 50)
  | birth {field : String} {e : FieldError} (fault : BirthFault f.birth today field e) : Fault f today field e

/-- What can be wrong with the details of a person to notify. -/
@[mk_iff]
inductive PersonDetails.Fault (f : PersonDetails) (isEmail : String → Bool) (field : String) (e : FieldError) : Prop
  | names (fault : NameFault f.firstNames f.lastName field e)
  | email (fault : EmailFault isEmail f.email field e)

/-- What can be wrong with the answers about the relationship of the certificate provider. -/
@[mk_iff]
inductive RelationshipFault (f : ProviderDetails) : String → FieldError → Prop
  | unknown (unknown : f.relationship ≠ "personally" ∧ f.relationship ≠ "professionally") :
      RelationshipFault f "relationship" (.select "howYouKnowCertificateProvider")
  | undescribed (related : f.relationship = "professionally") (blank : Text.trim f.relationshipDescription = "") :
      RelationshipFault f "relationship-description" (.enter "relationshipDescription")
  | unanswered (related : f.relationship = "personally")
      (unknown : f.acquaintance ≠ "lt-2-years" ∧ f.acquaintance ≠ "gte-2-years") :
      RelationshipFault f "relationship-length" (.select "howLongYouHaveKnownCertificateProvider")
  | recent (related : f.relationship = "personally") (short : f.acquaintance = "lt-2-years") :
      RelationshipFault f "relationship-length" (.custom "mustHaveKnownCertificateProviderTwoYears")

/-- What can be wrong with the details of the certificate provider. -/
@[mk_iff]
inductive ProviderDetails.Fault (f : ProviderDetails) (today : Date) (isEmail : String → Bool) :
    String → FieldError → Prop
  | names {field : String} {e : FieldError} (fault : NameFault f.firstNames f.lastName field e) :
      Fault f today isEmail field e
  | noMobile (missing : f.mobile = "") : Fault f today isEmail "mobile" (.enter "mobile")
  | email (given : f.email ≠ "") (refused : isEmail f.email = false) : Fault f today isEmail "email" (.email "email")
  | birth {field : String} {e : FieldError} (fault : BirthFault f.birth today field e) : Fault f today isEmail field e
  | relationship {field : String} {e : FieldError} (fault : RelationshipFault f field e) : Fault f today isEmail field e

/-! ### What is found -/

section
variable {field : String} {e : FieldError} {today : Date} {isEmail : String → Bool}

/-- What is found of the names. -/
def foundNames (firstNames lastName : String) : List (String × Option FieldError) :=
  [("first-names", firstNamesRule.check firstNames), ("last-name", lastNameRule.check lastName)]

/-- What is found of the boxes of a birth. -/
def foundBirth (birth : DateBoxes) (today : Date) : List (String × Option FieldError) :=
  [("date-of-birth", birth.pastError? "dateOfBirth" today)]

theorem mem_found_iff {name : String} {error : Option FieldError} :
    (field, some e) ∈ [(name, error)] ↔ field = name ∧ error = some e := by
  rw [List.mem_singleton, Prod.mk.injEq, eq_comm (a := some e)]

theorem mem_foundNames_iff {firstNames lastName : String} :
    (field, some e) ∈ foundNames firstNames lastName ↔ NameFault firstNames lastName field e := by
  rw [foundNames, List.mem_cons, ← List.mem_singleton, mem_found_iff, mem_found_iff, nameFault_iff]
  simp [TextRule.check_eq_some_iff, firstNamesRule, lastNameRule, firstNamesLimit, lastNameLimit, and_or_left,
    and_left_comm, or_assoc]

theorem mem_foundBirth_iff {birth : DateBoxes} :
    (field, some e) ∈ foundBirth birth today ↔ BirthFault birth today field e := by
  rw [foundBirth, mem_found_iff, birthFault_iff, DateBoxes.pastError?_eq_some_iff, and_comm]

theorem found_email_iff {email : String} :
    (field, some e) ∈ [("email", (emailRule isEmail).check email)] ↔ EmailFault isEmail email field e := by
  rw [mem_found_iff, emailFault_iff]
  simp [TextRule.check_eq_some_iff, emailRule, and_or_left, and_left_comm]

/-- What is found of the answer how long the certificate provider has known the donor. -/
def foundLength (acquaintance : String) : Option FieldError :=
  match (ofWord? acquaintance : Option Acquaintance) with
  | none => some (.select "howLongYouHaveKnownCertificateProvider")
  | some .lessThanTwoYears => some (.custom "mustHaveKnownCertificateProviderTwoYears")
  | some .twoYearsOrMore => none

/-- What is found of the answers about the relationship. -/
def foundRelationship (f : ProviderDetails) : List (String × Option FieldError) :=
  let related : Option Relationship := ofWord? f.relationship
  [("relationship", if related = none then some (.select "howYouKnowCertificateProvider") else none),
    ("relationship-description", if related = some .professionally ∧ Text.allBlank f.relationshipDescription then
      some (.enter "relationshipDescription") else none),
    ("relationship-length", if related = some .personally then foundLength f.acquaintance else none)]

theorem addRelationship_collect (found : List (String × Option FieldError)) (f : ProviderDetails) :
    ProviderDetails.addRelationship (.collect found) f = .collect (found ++ foundRelationship f) := by
  have added : ErrorList.collect (found ++ foundRelationship f) =
      (foundRelationship f).foldl (fun l c => l.addAny c.1 c.2) (.collect found) := List.foldl_append
  rw [added]
  unfold ProviderDetails.addRelationship foundRelationship foundLength ErrorList.requireText
  cases (ofWord? f.relationship : Option Relationship) with
  | none => rfl
  | some r =>
    cases r with
    | personally =>
      cases (ofWord? f.acquaintance : Option Acquaintance) with
      | none => rfl
      | some a => cases a <;> rfl
    | professionally => cases Text.allBlank f.relationshipDescription <;> rfl

theorem eq_wordOf_iff {α : Type} [Worded α] {s : String} (a : α) : s = wordOf a ↔ ofWord? s = some a := by
  rw [ofWord?_eq_some_iff, eq_comm]

theorem unrelated_iff {s : String} :
    s ≠ "personally" ∧ s ≠ "professionally" ↔ (ofWord? s : Option Relationship) = none := by
  rw [ofWord?_eq_none_iff]
  constructor
  · rintro ⟨notPersonally, notProfessionally⟩ r
    cases r with
    | personally => exact notPersonally.symm
    | professionally => exact notProfessionally.symm
  · intro h
    exact ⟨(h .personally).symm, (h .professionally).symm⟩

theorem unanswered_iff {s : String} :
    s ≠ "lt-2-years" ∧ s ≠ "gte-2-years" ↔ (ofWord? s : Option Acquaintance) = none := by
  rw [ofWord?_eq_none_iff]
  constructor
  · rintro ⟨notLess, notMore⟩ a
    cases a with
    | lessThanTwoYears => exact notLess.symm
    | twoYearsOrMore => exact notMore.symm
  · intro h
    exact ⟨(h .lessThanTwoYears).symm, (h .twoYearsOrMore).symm⟩

theorem foundLength_eq_some_iff {s : String} : foundLength s = some e ↔
    (s ≠ "lt-2-years" ∧ s ≠ "gte-2-years") ∧ e = .select "howLongYouHaveKnownCertificateProvider" ∨
      s = "lt-2-years" ∧ e = .custom "mustHaveKnownCertificateProviderTwoYears" := by
  have recent : s = "lt-2-years" ↔ _ := eq_wordOf_iff Acquaintance.lessThanTwoYears
  rw [unanswered_iff, recent, foundLength]
  cases (ofWord? s : Option Acquaintance) with
  | none => simp [eq_comm]
  | some a => cases a <;> simp [eq_comm]

theorem mem_foundRelationship_iff {f : ProviderDetails} :
    (field, some e) ∈ foundRelationship f ↔ RelationshipFault f field e := by
  have professionally : f.relationship = "professionally" ↔ _ := eq_wordOf_iff Relationship.professionally
  have personally : f.relationship = "personally" ↔ _ := eq_wordOf_iff Relationship.personally
  simp only [relationshipFault_iff, unrelated_iff, professionally, personally, foundRelationship, List.mem_cons,
    Prod.mk.injEq, List.not_mem_nil, or_false, eq_comm (a := some e), Option.ite_none_right_eq_some, Option.some.injEq,
    eq_comm (b := e), foundLength_eq_some_iff, Text.trim_eq_empty_iff, and_or_left, and_assoc, and_left_comm]
end

/-! ### The forms -/

theorem ActorDetails.lists_errors (isEmail : String → Bool) (f : ActorDetails) (today : Date) :
    (f.errors today isEmail).Lists ["first-names", "last-name", "email", "date-of-birth"] (f.Fault today isEmail) := by
  have collected : f.errors today isEmail = .collect (foundNames f.firstNames f.lastName ++
      [("email", (emailRule isEmail).check f.email)] ++ foundBirth f.birth today) := rfl
  rw [collected]
  refine ErrorList.lists_collect rfl (by decide) fun field e => ?_
  rw [List.mem_append, List.mem_append, mem_foundNames_iff, found_email_iff, mem_foundBirth_iff, or_assoc, fault_iff]

theorem DonorDetails.lists_errors (f : DonorDetails) (today : Date) :
    (f.errors today).Lists ["first-names", "last-name", "other-names", "date-of-birth"] (f.Fault today) := by
  have collected : f.errors today = .collect (foundNames f.firstNames f.lastName ++
      [("other-names", otherNamesRule.check f.otherNames)] ++ foundBirth f.birth today) := rfl
  rw [collected]
  refine ErrorList.lists_collect rfl (by decide) fun field e => ?_
  rw [List.mem_append, List.mem_append, mem_foundNames_iff, mem_found_iff, mem_foundBirth_iff, or_assoc, fault_iff]
  simp [TextRule.check_eq_some_iff, otherNamesRule, otherNamesLimit, and_left_comm]

theorem PersonDetails.lists_errors (isEmail : String → Bool) (f : PersonDetails) :
    (f.errors isEmail).Lists ["first-names", "last-name", "email"] (f.Fault isEmail) := by
  have collected : f.errors isEmail =
      .collect (foundNames f.firstNames f.lastName ++ [("email", (emailRule isEmail).check f.email)]) := rfl
  rw [collected]
  refine ErrorList.lists_collect rfl (by decide) fun field e => ?_
  rw [List.mem_append, mem_foundNames_iff, found_email_iff, fault_iff]

theorem ProviderDetails.lists_errors (isEmail : String → Bool) (f : ProviderDetails) (today : Date) :
    (f.errors today isEmail).Lists ["first-names", "last-name", "mobile", "email", "date-of-birth", "relationship",
      "relationship-description", "relationship-length"] (f.Fault today isEmail) := by
  have collected : f.errors today isEmail = .collect (foundNames f.firstNames f.lastName ++
      [("mobile", mobileRule.check f.mobile)] ++ [("email", (optionalEmailRule isEmail).check f.email)] ++
      foundBirth f.birth today ++ foundRelationship f) := by
    rw [← addRelationship_collect]
    rfl
  rw [collected]
  refine ErrorList.lists_collect rfl (by decide) fun field e => ?_
  rw [List.mem_append, List.mem_append, List.mem_append, List.mem_append, mem_foundNames_iff, mem_found_iff,
    mem_found_iff, mem_foundBirth_iff, mem_foundRelationship_iff, fault_iff]
  simp [TextRule.check_eq_some_iff, mobileRule, optionalEmailRule, emailRule, and_left_comm, or_assoc]

/-- Whatever is typed into a form and whenever it is sent, and whichever rule e-mail addresses have to keep to, its errors
    are its faults: each of them under its field, at most one for a field, in the order of the form, and none exactly if
    there is no fault. -/
theorem errors_exact (isEmail : String → Bool) :
    (∀ (f : ActorDetails) (today : Date), (f.errors today isEmail).Lists
      ["first-names", "last-name", "email", "date-of-birth"] (f.Fault today isEmail)) ∧
    (∀ (f : DonorDetails) (today : Date), (f.errors today).Lists
      ["first-names", "last-name", "other-names", "date-of-birth"] (f.Fault today)) ∧
    (∀ f : PersonDetails, (f.errors isEmail).Lists ["first-names", "last-name", "email"] (f.Fault isEmail)) ∧
    ∀ (f : ProviderDetails) (today : Date), (f.errors today isEmail).Lists
      ["first-names", "last-name", "mobile", "email", "date-of-birth", "relationship", "relationship-description",
        "relationship-length"] (f.Fault today isEmail) :=
  ⟨ActorDetails.lists_errors isEmail, DonorDetails.lists_errors, PersonDetails.lists_errors isEmail,
    ProviderDetails.lists_errors isEmail⟩

end Form

end PowerOfAttorney
