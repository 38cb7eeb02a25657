import PowerOfAttorney.Lpa.Storage
import PowerOfAttorney.Proofs.JsonText

/-! What is read from the stored text of an LPA. Each part is an object whose names are all different, so that each field
    is read from what was written for it (`Json.exists_record`), and a day is found again at its place in its year. What
    the numbers of an LPA have to keep to for that is that they fit their types (`Lpa.Storable`). -/

namespace PowerOfAttorney

open Json

/-! ### Answers that may be missing -/

namespace Json.Record
variable {r : Record} {name : String}

theorem optional_word {α : Type} [Worded α] {o : Option α} (h : r.get? name = some (Json.optional ofWord o)) :
    r.optional name word? = some o :=
  optional_of_get? h (fun a _ => word?_ofWord a) fun _ => nofun

end Json.Record

/-! ### Dates and addresses -/

namespace Date

theorem ofJson?_toJson (d : Date) : ofJson? d.toJson = some d := by
  have year : intWithin? (-9999) 9999 (.int d.year) = some d.year := by
    rw [intWithin?, if_pos ⟨d.isDay.1, d.isDay.2.1⟩]
  have place : natBelow? 65536 (nat d.dayOfYear) = some d.dayOfYear := by
    have hle := d.dayOfYear_le
    exact if_pos (by omega)
  simp [ofJson?, toJson, year, place, ofDayOfYear?_dayOfYear]

theorem optional_birth {r : Record} {name : String} {birth : Option Date}
    (h : r.get? name = some (optional toJson birth)) : r.optional name ofJson? = some birth :=
  Record.optional_of_get? h (fun d _ => ofJson?_toJson d) fun _ => nofun

end Date

theorem Address.ofJson?_toJson (a : Address) : Address.ofJson? a.toJson = some a := by
  obtain ⟨r, hr, fields⟩ : ∃ r, record? names a.toJson = some r ∧ _ := exists_record (by simp [names, parts]) names
  simp only [names, parts, List.map_cons, List.map_nil, List.zip_cons_cons, List.zip_nil_right,
    List.forall_mem_cons] at fields
  simp [ofJson?, hr, Record.required, fields, text?]

/-! ### Actors -/

theorem Donor.ofJson?_toJson (d : Donor) : Donor.ofJson? d.toJson = some d := by
  obtain ⟨r, hr, fields⟩ : ∃ r, record? names d.toJson = some r ∧ _ := exists_record (by simp) names
  have birth := Date.optional_birth (fields ("date_of_birth", optional Date.toJson d.birth) (by simp))
  simp only [List.forall_mem_cons] at fields
  simp [ofJson?, hr, Record.required, fields, text?, birth, Address.ofJson?_toJson]

theorem Attorney.ofJson?_toJson (a : Attorney) : Attorney.ofJson? a.toJson = some a := by
  obtain ⟨r, hr, fields⟩ : ∃ r, record? names a.toJson = some r ∧ _ := exists_record (by simp) names
  have birth := Date.optional_birth (fields ("date_of_birth", optional Date.toJson a.birth) (by simp))
  simp only [List.forall_mem_cons] at fields
  simp [ofJson?, hr, Record.required, fields, text?, birth, Address.ofJson?_toJson]

theorem PersonToNotify.ofJson?_toJson (p : PersonToNotify) : PersonToNotify.ofJson? p.toJson = some p := by
  obtain ⟨r, hr, fields⟩ : ∃ r, record? names p.toJson = some r ∧ _ := exists_record (by simp) names
  simp only [List.forall_mem_cons] at fields
  simp [ofJson?, hr, Record.required, fields, text?, Address.ofJson?_toJson]

theorem CertificateProvider.ofJson?_toJson (p : CertificateProvider) :
    CertificateProvider.ofJson? p.toJson = some p := by
  obtain ⟨r, hr, fields⟩ : ∃ r, record? names p.toJson = some r ∧ _ := exists_record (by simp) names
  have birth := Date.optional_birth (fields ("date_of_birth", optional Date.toJson p.birth) (by simp))
  have relationship := Record.optional_word (fields ("relationship", optional ofWord p.relationship) (by simp))
  have acquaintance := Record.optional_word (fields ("relationship_length", optional ofWord p.acquaintance) (by simp))
  simp only [List.forall_mem_cons] at fields
  simp [ofJson?, hr, Record.required, fields, text?, birth, relationship, acquaintance, Address.ofJson?_toJson]

theorem Roster.ofJson?_toJson {α : Type} {f : Json → Option α} {g : α → Json} (h : ∀ a, f (g a) = some a)
    (r : Roster α) : Roster.ofJson? f (r.toJson g) = some r := by
  rw [ofJson?, toJson, list?_map r.members fun a _ => h a]
  rfl

/-! ### Answers -/

theorem DecisionMode.ofJson?_toJson (m : DecisionMode) : DecisionMode.ofJson? m.toJson = some m := by
  cases m <;>
    simp [ofJson?, toJson, detailed, detailed?, record?, unrepeated, valuesOf, Record.required, Record.get?, word,
      details?, wordText?, text?]

theorem StepIn.ofJson?_toJson (s : StepIn) : StepIn.ofJson? s.toJson = some s := by
  cases s <;>
    simp [ofJson?, toJson, detailed, detailed?, record?, unrepeated, valuesOf, Record.required, Record.get?, storedWord,
      details?, wordText?, text?]

theorem Payment.ofJson?_toJson (p : Payment) : Payment.ofJson? p.toJson = some p := by
  obtain ⟨r, hr, fields⟩ : ∃ r, record? ["payment_reference", "payment_id"] p.toJson = some r ∧ _ :=
    exists_record (by simp) _
  simp only [List.forall_mem_cons] at fields
  simp [ofJson?, hr, Record.required, fields, text?]

theorem Tasks.ofJson?_toJson (t : Tasks) : Tasks.ofJson? t.toJson = some t := by
  have distinct : ((Section.all.map fun s => (wordOf s, ofWord (t.get s))).map Prod.fst).Nodup := by
    rw [List.map_map]
    exact (Worded.nodup_words : (Section.all.map wordOf).Nodup)
  obtain ⟨r, hr, fields⟩ : ∃ r, record? names t.toJson = some r ∧ _ := exists_record distinct names
  have state (s : Section) : r.required (wordOf s) word? = some (t.get s) := by
    have read := fields (wordOf s, ofWord (t.get s)) (List.mem_map_of_mem (Worded.mem_all s))
    rw [Record.required, read, Option.bind_some, word?_ofWord]
  simp only [ofJson?, hr, state, Option.bind_eq_bind, Option.bind_some]
  rfl

/-- An identity record whose time fits 64 bits. -/
def IdentityRecord.Storable (i : IdentityRecord) : Prop := -timeBound - 1 ≤ i.retrievedAt ∧ i.retrievedAt ≤ timeBound

theorem IdentityRecord.ofJson?_toJson {i : IdentityRecord} (h : i.Storable) :
    IdentityRecord.ofJson? i.toJson = some i := by
  obtain ⟨r, hr, fields⟩ : ∃ r, record? ["ok", "first_names", "last_name", "retrieved_at_ms"] i.toJson = some r ∧ _ :=
    exists_record (by simp) _
  have time : time? (.int i.retrievedAt) = some i.retrievedAt := if_pos h
  simp only [List.forall_mem_cons] at fields
  simp [ofJson?, hr, Record.required, fields, bool?, text?, time]

/-! ### LPAs -/

namespace Lpa

/-- An LPA whose numbers fit their types: its version 64 bits without a sign, its times 64 bits with one. -/
structure Storable (l : Lpa) : Prop where
  version : l.version < versionBound
  identity : ∀ i ∈ l.identity, i.Storable
  submittedAt : ∀ t ∈ l.submittedAt, -timeBound - 1 ≤ t ∧ t ≤ timeBound

theorem nodup_names (l : Lpa) : (l.members.map Prod.fst).Nodup := by
  simp [members]

theorem ofJson?_toJson {l : Lpa} (h : l.Storable) : ofJson? l.toJson = some l := by
  obtain ⟨r, hr, fields⟩ : ∃ r, record? names l.toJson = some r ∧ ∀ m ∈ l.members, r.get? m.1 = some m.2 :=
    exists_record l.nodup_names names
  have lpaType := Record.optional_word (fields ("lpa_type", optional ofWord l.lpaType) (by simp [members]))
  have wantReplacements := Record.optional_word
    (fields ("want_replacement_attorneys", optional ofWord l.wantReplacements) (by simp [members]))
  have usableWhen := Record.optional_word
    (fields ("when_can_the_lpa_be_used", optional ofWord l.usableWhen) (by simp [members]))
  have wantToNotify := Record.optional_word
    (fields ("do_you_want_to_notify_people", optional ofWord l.wantToNotify) (by simp [members]))
  have identityOption := Record.optional_word
    (fields ("identity_option", optional ofWord l.identityOption) (by simp [members]))
  have attorneysDecide := Record.optional_of_get?
    (fields ("how_attorneys_make_decisions", optional DecisionMode.toJson l.attorneysDecide) (by simp [members]))
    (fun m _ => m.ofJson?_toJson) nofun
  have replacementsDecide := Record.optional_of_get?
    (fields ("how_replacement_attorneys_make_decisions", optional DecisionMode.toJson l.replacementsDecide)
      (by simp [members]))
    (fun m _ => m.ofJson?_toJson) nofun
  have replacementsStepIn := Record.optional_of_get?
    (fields ("how_replacement_attorneys_step_in", optional StepIn.toJson l.replacementsStepIn) (by simp [members]))
    (fun s _ => s.ofJson?_toJson) nofun
  have payment := Record.optional_of_get?
    (fields ("payment_details", optional Payment.toJson l.payment) (by simp [members]))
    (fun p _ => p.ofJson?_toJson) nofun
  have identity := Record.optional_of_get?
    (fields ("identity_user_data", optional IdentityRecord.toJson l.identity) (by simp [members]))
    (fun i hi => IdentityRecord.ofJson?_toJson (h.identity i hi)) nofun
  have submittedAt := Record.optional_of_get? (f := time?)
    (fields ("submitted_at_ms", optional Json.int l.submittedAt) (by simp [members]))
    (fun t ht => if_pos (h.submittedAt t ht)) nofun
  have version : natBelow? versionBound (nat l.version) = some l.version := if_pos h.version
  simp only [members, List.forall_mem_cons] at fields
  -- one bind after the other, from the outermost on: the rest of a bind is not rewritten before its value is known
  have bound {α β : Type} (a : α) (f : α → Option β) : (some a >>= f) = f a := rfl
  simp only [ofJson?, hr, bound, Option.bind_some, Record.required, fields, lpaType, wantReplacements,
    usableWhen, wantToNotify, identityOption, attorneysDecide, replacementsDecide, replacementsStepIn, payment,
    identity, submittedAt, version, text?, bool?, Donor.ofJson?_toJson, CertificateProvider.ofJson?_toJson,
    Tasks.ofJson?_toJson, Roster.ofJson?_toJson Attorney.ofJson?_toJson,
    Roster.ofJson?_toJson PersonToNotify.ofJson?_toJson]
  rfl

end Lpa

/-! ### Texts -/

section
variable {α : Type}

@[simp] theorem Json.plain_ofWord [Worded α] (a : α) : (ofWord a).Plain := .text _

@[simp] theorem Json.plain_word [Worded α] (o : Option α) : (optional ofWord o).Plain := plain_optional plain_ofWord o

theorem Date.plain_toJson (d : Date) : d.toJson.Plain := by
  simp [toJson, nat]

@[simp] theorem Date.plain_birth (o : Option Date) : (optional Date.toJson o).Plain := plain_optional plain_toJson o

@[simp] theorem Address.plain_toJson (a : Address) : a.toJson.Plain := by
  simp [toJson, names, parts]

@[simp] theorem Donor.plain_toJson (d : Donor) : d.toJson.Plain := by
  simp [toJson]

@[simp] theorem Attorney.plain_toJson (a : Attorney) : a.toJson.Plain := by
  simp [toJson]

@[simp] theorem PersonToNotify.plain_toJson (p : PersonToNotify) : p.toJson.Plain := by
  simp [toJson]

@[simp] theorem CertificateProvider.plain_toJson (p : CertificateProvider) : p.toJson.Plain := by
  simp [toJson]

theorem Roster.plain_toJson {f : α → Json} (h : ∀ a, (f a).Plain) (r : Roster α) : (r.toJson f).Plain := by
  simp [toJson, h]

theorem Json.plain_detailed (name word : String) (details : Option String) : (detailed name word details).Plain := by
  cases details <;> simp [detailed]

theorem DecisionMode.plain_toJson (m : DecisionMode) : m.toJson.Plain := plain_detailed _ _ _

theorem StepIn.plain_toJson (s : StepIn) : s.toJson.Plain := plain_detailed _ _ _

theorem Payment.plain_toJson (p : Payment) : p.toJson.Plain := by
  simp [toJson]

theorem IdentityRecord.plain_toJson (i : IdentityRecord) : i.toJson.Plain := by
  simp [toJson]

@[simp] theorem Tasks.plain_toJson (t : Tasks) : t.toJson.Plain := by
  simp [toJson]

end

namespace Lpa

theorem plain_toJson (l : Lpa) : l.toJson.Plain := by
  have attorneys := Roster.plain_toJson Attorney.plain_toJson
  have people := Roster.plain_toJson PersonToNotify.plain_toJson
  have modes := plain_optional DecisionMode.plain_toJson
  have stepIn := plain_optional StepIn.plain_toJson
  have payment := plain_optional Payment.plain_toJson
  have identity := plain_optional IdentityRecord.plain_toJson
  have time := plain_optional Plain.int
  simp [toJson, members, nat, attorneys, people, modes, stepIn, payment, identity, time]

/-- An LPA is read back from its stored text, but for the version, which is the one that is kept beside it. -/
theorem decode?_encode {l : Lpa} (h : l.Storable) (version : Nat) :
    decode? l.encode version = some { l with version } := by
  rw [decode?, encode, parse?_render l.plain_toJson, Option.bind_some, ofJson?_toJson h, Option.map_some]

/-- An LPA with a leap day, with quotes and a line break in its texts, and with a time before 1970. -/
theorem decode?_encode_of_leapDay :
    let l : Lpa := {
      id := "lpa", version := 3
      donor := { firstNames := "Zoë", birth := some ⟨2024, 2, 29, by decide⟩ }
      attorneys := ⟨[{ id := "00000001", firstNames := "Ann \"Annie\"" }, { id := "00000002" }]⟩
      attorneysDecide := some (.mixed "The house\ntogether")
      submittedAt := some (-1) }
    l.Storable ∧ decode? l.encode 4 = some { l with version := 4 } := by
  intro l
  have storable : l.Storable := by
    refine ⟨by decide, nofun, fun t ht => ?_⟩
    obtain rfl := Option.some.inj ht
    decide
  exact ⟨storable, decode?_encode storable 4⟩

end Lpa

end PowerOfAttorney
