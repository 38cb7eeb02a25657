import PowerOfAttorney.Proofs.LpaText
import PowerOfAttorney.Proofs.Reach

/-! The form for an address. It wants the addresses of a postcode (`AddressForm.WantsAddresses`), or supplies one that was
    chosen or written by hand (`AddressForm.Supplies`), or is rejected, and never two of these; what `saveAddress` makes
    of it is said for each. Only where addresses are wanted is the service asked, and there its reply alone decides
    (`Replied`). An address written by hand has to keep to rules; one that was chosen is taken as it is. The address that
    is supplied becomes that of the target (`AddressTarget.address?`), and nobody else's changes. -/

namespace PowerOfAttorney

open Form Wizard Routing Json

/-! ### What a form for an address asks for -/

/-- An address that keeps to the rules for one written by hand. -/
structure Address.Proper (a : Address) : Prop where
  line1 : a.line1 ≠ "" ∧ a.line1.length ≤ addressLineLimit
  line2 : a.line2.length ≤ addressLineLimit
  line3 : a.line3.length ≤ addressLineLimit
  town : a.townOrCity ≠ ""
  postcode : a.postcode ≠ ""

namespace Form

theorem any_check_addressChecks {a : Address} : (ErrorList.check (addressChecks a)).any = false ↔ a.Proper := by
  have plain : ∀ c ∈ addressChecks a, c.1.address = none := by simp [addressChecks]
  have checks : (ErrorList.check (addressChecks a)).any = false ↔ ∀ c ∈ addressChecks a,
      (c.1.required = true → c.2 ≠ "") ∧ ∀ limit ∈ c.1.limit, c.2.length ≤ limit := by
    rw [ErrorList.any_check]
    exact forall₂_congr fun c hc => TextRule.check_eq_none_iff_of_address (plain c hc)
  rw [checks]
  simp only [addressChecks, List.forall_mem_cons]
  constructor
  · rintro ⟨line1, line2, line3, town, postcode, -⟩
    exact ⟨⟨line1.1 trivial, line1.2 _ rfl⟩, line2.2 _ rfl, line3.2 _ rfl, town.1 trivial, postcode.1 trivial⟩
  · intro h
    simp [h.line1, h.line2, h.line3, h.town, h.postcode]

namespace AddressForm

/-- The address that was chosen, if what was sent for it is one. -/
def chosen? (f : AddressForm) : Option Address := (parse? f.selected).bind Address.ofJson?

/-- Whether the addresses of a postcode are wanted: they are asked for, or the one that was chosen cannot be read. -/
def WantsAddresses (f : AddressForm) : Prop := f.action = "lookup" ∨ (f.action = "select" ∧ f.chosen? = none)

instance (f : AddressForm) : Decidable f.WantsAddresses :=
  inferInstanceAs (Decidable (f.action = "lookup" ∨ (f.action = "select" ∧ f.chosen? = none)))

/-- Whether a form comes with an address that can be taken: one that was chosen, as it is, or one written by hand, without
    the blanks around its parts, that keeps to the rules. -/
def Supplies (f : AddressForm) (a : Address) : Prop :=
  (f.action = "select" ∧ f.chosen? = some a) ∨ (f.action = "manual" ∧ a = f.written ∧ a.Proper)

/-- The errors of a form that wants addresses, whatever becomes of the postcode. -/
def choiceErrors (f : AddressForm) : ErrorList :=
  if f.action = "select" then .single "select-address" (.select "address") else {}

variable {f : AddressForm} {a : Address}

theorem action?_of_lookup (h : f.action = "lookup") : f.action? = some (.lookup (Text.trim f.lookupPostcode)) := by
  simp [action?, h]

theorem action?_of_select (h : f.action = "select") :
    f.action? = some (.select (Text.trim f.lookupPostcode) f.chosen?) := by
  simp [action?, h, chosen?]

theorem action?_of_manual (h : f.action = "manual") : f.action? = some (.manual f.written) := by
  simp [action?, h]

/-- An address that is sent back as it was written is read as what it was. -/
theorem chosen?_of_render (h : f.selected = a.toJson.render) : f.chosen? = some a := by
  rw [chosen?, h, parse?_render a.plain_toJson, Option.bind_some, Address.ofJson?_toJson]

theorem select_of_action? {postcode : String} {chosen : Option Address}
    (h : f.action? = some (.select postcode chosen)) : f.action = "select" ∧ f.chosen? = chosen := by
  unfold action? at h
  split at h
  · cases h
  · split at h
    · cases h
      exact ⟨‹_›, rfl⟩
    · split at h <;> cases h

theorem manual_of_action? (h : f.action? = some (.manual a)) : f.action = "manual" ∧ a = f.written := by
  unfold action? at h
  split at h
  · cases h
  · split at h
    · cases h
    · split at h
      · cases h
        exact ⟨‹_›, rfl⟩
      · cases h

theorem any_choiceErrors : f.choiceErrors.any = true ↔ f.action = "select" := by
  unfold choiceErrors
  split <;> simp [*]

theorem get?_choiceErrors (h : f.action = "select") :
    f.choiceErrors.get? "select-address" = some (.select "address") := by
  rw [choiceErrors, if_pos h]
  rfl

theorem get?_add_choiceErrors (h : f.action = "select") (error : FieldError) :
    (f.choiceErrors.add "lookup-postcode" error).get? "select-address" = some (.select "address") := by
  rw [choiceErrors, if_pos h]
  rfl

/-- The address that a form supplies is the one it asks to be stored. -/
theorem supplies_iff_gives : f.Supplies a ↔ f.Gives a := by
  have written (h : f.action = "manual") : f.errors = .check (addressChecks f.written) := by
    rw [errors, action?_of_manual h]
  constructor
  · rintro (⟨h, chosen⟩ | ⟨h, rfl, proper⟩)
    · exact .inl ⟨_, by rw [action?_of_select h, chosen]⟩
    · exact .inr ⟨action?_of_manual h, written h ▸ any_check_addressChecks.2 proper⟩
  · rintro (⟨postcode, h⟩ | ⟨h, valid⟩)
    · obtain ⟨hselect, chosen⟩ := select_of_action? h
      exact .inl ⟨hselect, chosen⟩
    · obtain ⟨hmanual, rfl⟩ := manual_of_action? h
      exact .inr ⟨hmanual, rfl, any_check_addressChecks.1 (written hmanual ▸ valid)⟩

/-- A form that wants addresses does not come with one. -/
theorem not_supplies_of_wants (h : f.WantsAddresses) (a : Address) : ¬f.Supplies a := by
  rintro (⟨hselect, hchosen⟩ | ⟨hmanual, -⟩)
  · rcases h with h | ⟨-, unread⟩
    · simp [h] at hselect
    · simp [unread] at hchosen
  · rcases h with h | ⟨h, -⟩ <;> simp [h] at hmanual

end AddressForm

end Form

namespace Wizard
variable {t : AddressTarget} {f : AddressForm} {l : Lpa}

/-! ### The address of a target -/

/-- The address of a target, if it is there. -/
def AddressTarget.address? (t : AddressTarget) (l : Lpa) : Option Address :=
  match t with
  | .donor => some l.donor.address
  | .certificateProvider => some l.certificateProvider.address
  | .actor .attorneys id => (l.attorneys.get? id).map (·.address)
  | .actor .replacements id => (l.replacements.get? id).map (·.address)
  | .actor .peopleToNotify id => (l.peopleToNotify.get? id).map (·.address)

/-- A target that is there has the address that it was given. -/
theorem AddressTarget.address?_set (there : ∀ c id, t = .actor c id → id ∈ l.ids c) (a : Address) :
    t.address? (t.set a l) = some a := by
  cases t with
  | donor => rfl
  | certificateProvider => rfl
  | actor c id =>
    have present := there c id rfl
    cases c <;> refine Roster.map_get?_modify ?_ ?_ present <;> exact fun _ => rfl

/-- Every other target keeps its address. -/
theorem AddressTarget.address?_set_of_ne {u : AddressTarget} (h : u ≠ t) (a : Address) (l : Lpa) :
    u.address? (t.set a l) = u.address? l := by
  cases t with
  | donor =>
    cases u with
    | donor => exact absurd rfl h
    | certificateProvider => rfl
    | actor c id => cases c <;> rfl
  | certificateProvider =>
    cases u with
    | donor => rfl
    | certificateProvider => exact absurd rfl h
    | actor c id => cases c <;> rfl
  | actor c id =>
    cases u with
    | donor => cases c <;> rfl
    | certificateProvider => cases c <;> rfl
    | actor c' id' =>
      -- within one collection only the actor of the id is changed, and no other collection is touched
      by_cases same : c' = c
      · subst same
        have beside : id ≠ id' := fun hid => h (hid ▸ rfl)
        cases c' <;> refine congrArg (Option.map _) (Roster.get?_modify_of_ne ?_ _ beside) <;> exact fun _ => rfl
      · cases c <;> cases c' <;> first | rfl | exact absurd rfl same

/-- Settling changes nothing but the states of sections. -/
theorem AddressTarget.settle_eq (t : AddressTarget) (l : Lpa) :
    t.settle l = { l with tasks := (t.settle l).tasks } := by
  cases t with
  | actor c id => cases c <;> rfl
  | _ => rfl

theorem AddressTarget.address?_settle (u t : AddressTarget) (l : Lpa) (version : Nat) :
    u.address? { t.settle l with version } = u.address? l := by
  rw [settle_eq]
  cases u with
  | actor c id => cases c <;> rfl
  | _ => rfl

/-! ### What is made of the form -/

theorem AddressTarget.missing?_eq_none_iff : t.missing? l = none ↔ ∀ c id, t = .actor c id → id ∈ l.ids c := by
  cases t <;> simp [missing?, Lpa.hasActor_iff]

theorem AddressTarget.missing?_of_notMem {c : Collection} {id : String} (h : id ∉ l.ids c) :
    AddressTarget.missing? (.actor c id) l = some c.detailsPage := by
  simp [missing?, Lpa.hasActor_iff, h]

theorem saveAddress_of_missing (lookup : Lookup) {page : Page} (missing : t.missing? l = some page) :
    saveAddress lookup t f l = (.goTo (.of page), []) := by
  rw [saveAddress, missing]

theorem saveAddress_of_wants (lookup : Lookup) (present : t.missing? l = none) (wants : f.WantsAddresses) :
    saveAddress lookup t f l = offerAddresses lookup (Text.trim f.lookupPostcode) f.choiceErrors := by
  rcases wants with h | ⟨h, unread⟩
  · have action := AddressForm.action?_of_lookup h
    have errors : f.errors = ErrorList.requireText {} "lookup-postcode" "postcode" (Text.trim f.lookupPostcode) := by
      rw [AddressForm.errors, action]
    simp only [saveAddress, present, action, AddressForm.choiceErrors, h]
    by_cases given : Text.trim f.lookupPostcode = ""
    · rw [errors, given]
      rfl
    · have valid : f.errors.any = false := by
        rw [errors]
        exact ErrorList.any_requireText.2 ⟨rfl, Text.allBlank_of_trimmed (Text.trim_trim _) given⟩
      simp [valid]
  · have action := AddressForm.action?_of_select h
    have errors : f.errors = .single "select-address" (.select "address") := by
      rw [AddressForm.errors, action, unread]
    simp only [saveAddress, present, action, unread, errors, AddressForm.choiceErrors, h, ↓reduceIte]

theorem saveAddress_of_supplies (lookup : Lookup) {a : Address} (present : t.missing? l = none) (supplies : f.Supplies a) :
    saveAddress lookup t f l = (.saveAndGo (t.settle (t.set a l)) (t.next f.source), []) := by
  rcases AddressForm.supplies_iff_gives.1 supplies with ⟨postcode, action⟩ | ⟨action, valid⟩
  · simp [saveAddress, present, action]
  · simp [saveAddress, present, action, valid]

theorem saveAddress_of_neither (lookup : Lookup) (present : t.missing? l = none) (wants : ¬f.WantsAddresses)
    (supplies : ¬∃ a, f.Supplies a) : saveAddress lookup t f l = (.reject f.errors, []) ∧ f.errors.any = true := by
  by_cases hselect : f.action = "select"
  · cases hc : f.chosen? with
    | none => exact absurd (.inr ⟨hselect, hc⟩) wants
    | some a => exact absurd ⟨a, .inl ⟨hselect, hc⟩⟩ supplies
  by_cases hmanual : f.action = "manual"
  · have action := AddressForm.action?_of_manual hmanual
    have invalid : f.errors.any = true := by
      rw [← Bool.not_eq_false, AddressForm.errors, action]
      exact fun valid => supplies ⟨f.written, .inr ⟨hmanual, rfl, any_check_addressChecks.1 valid⟩⟩
    simp [saveAddress, present, action, invalid]
  · have hlookup : f.action ≠ "lookup" := fun h => wants (.inl h)
    have action : f.action? = none := by simp [AddressForm.action?, hselect, hmanual, hlookup]
    have errors : f.errors = .single "action" (.select "action") := by rw [AddressForm.errors, action]
    simp [saveAddress, present, action, errors]

/-! ### What is answered and stored -/

/-- How a form that wants addresses is answered by what the service has replied: nothing found is an error of the postcode,
    or a failure, and what is found is offered, with the error of a choice that could not be read. -/
structure Replied (f : AddressForm) (reply : Except LookupError (List Address)) (result : Except Failure Reply) :
    Prop where
  badRequest : ∀ reason, reply = .error (.badRequest reason) →
    result = .ok (.invalid { errors := f.choiceErrors.add "lookup-postcode" (.custom "invalidPostcode") })
  failed : ∀ e, reply = .error e → (∀ reason, e ≠ .badRequest reason) → result = .error (.lookup e)
  nothing : reply = .ok [] →
    result = .ok (.invalid { errors := f.choiceErrors.add "lookup-postcode" (.custom "noAddressesFound") })
  found : ∀ found, reply = .ok found → found ≠ [] → result = .ok
    (if f.action = "select" then .invalid { errors := f.choiceErrors, addresses := found } else .addresses found)

/-- Addresses are offered as the service replies, and nothing is stored. -/
theorem replied_offerAddresses (lookup : Lookup) {postcode : String} (given : postcode ≠ "") (source : Source)
    (l : Lpa) :
    ∃ verdict, offerAddresses lookup postcode f.choiceErrors = (verdict, [postcode]) ∧
      Decision.after { verdict, source } l = l ∧
      Replied f (lookup postcode) (Decision.result { verdict, source }) := by
  simp only [offerAddresses, given, ↓reduceIte]
  refine ⟨_, rfl, ?_⟩
  cases hreply : lookup postcode with
  | error e =>
    cases e with
    | badRequest reason => exact ⟨rfl, by constructor <;> simp [Decision.result, Verdict.reject]⟩
    | unavailable reason => exact ⟨rfl, by constructor <;> simp [Decision.result]⟩
    | invalidResponse reason => exact ⟨rfl, by constructor <;> simp [Decision.result]⟩
  | ok found =>
    cases found with
    | nil => exact ⟨rfl, by constructor <;> simp [Decision.result, Verdict.reject]⟩
    | cons a rest =>
      by_cases hselect : f.action = "select"
      · have errors := AddressForm.any_choiceErrors.2 hselect
        simp only [errors, ↓reduceIte]
        exact ⟨rfl, by constructor <;> simp [Decision.result, hselect]⟩
      · have errors : f.choiceErrors.any = false := Bool.eq_false_iff.2 fun h => hselect (AddressForm.any_choiceErrors.1 h)
        simp only [errors]
        exact ⟨rfl, by constructor <;> simp [Decision.result, hselect]⟩

/-- Where a choice could not be read, every rejection says so. -/
theorem Replied.get?_select {reply : Except LookupError (List Address)} {result : Except Failure Reply}
    (h : Replied f reply result) (hselect : f.action = "select") {r : Rejection} (hr : result = .ok (.invalid r)) :
    r.errors.get? "select-address" = some (.select "address") := by
  cases reply with
  | error e =>
    cases e with
    | badRequest reason =>
      have hresult := h.badRequest reason rfl
      simp only [hr, Except.ok.injEq, Reply.invalid.injEq] at hresult
      rw [hresult]
      exact AddressForm.get?_add_choiceErrors hselect _
    | unavailable reason => simp [h.failed _ rfl] at hr
    | invalidResponse reason => simp [h.failed _ rfl] at hr
  | ok found =>
    cases found with
    | nil =>
      have hresult := h.nothing rfl
      simp only [hr, Except.ok.injEq, Reply.invalid.injEq] at hresult
      rw [hresult]
      exact AddressForm.get?_add_choiceErrors hselect _
    | cons a rest =>
      have hresult := h.found _ rfl (List.cons_ne_nil a rest)
      simp only [hr, hselect, ↓reduceIte, Except.ok.injEq, Reply.invalid.injEq] at hresult
      rw [hresult]
      exact AddressForm.get?_choiceErrors hselect

/-! ### Calls with the form -/

section
variable {c : Call} {m : Memory} (asked : c.operation = .submit (.address t f)) (hl : m.find? c.session = some l)
  (ho : c.Opens m)
include asked hl ho

/-- What a call with the form for an address comes to, by the verdict on the form. -/
theorem Call.run_of_saveAddress {verdict : Verdict} {lookedUp : List String}
    (h : saveAddress c.surroundings.lookup t f l = (verdict, lookedUp)) : c.run m =
      (Decision.outcome { verdict, source := c.surroundings.source, lookedUp },
        m.insert c.session (Decision.after { verdict, source := c.surroundings.source, lookedUp } l)) := by
  rw [run_of_opens ho, decision, opened_of_find? hl, asked]
  simp only [Operation.decide, Submission.decide, h]

theorem Call.run_of_answerAddress {reply : Reply} (h : saveAddress c.surroundings.lookup t f l = (.answer reply, [])) :
    (c.run m).1.result = .ok reply ∧ (c.run m).1.lookedUp = [] ∧ (c.run m).2 = m := by
  rw [run_of_saveAddress asked hl ho h]
  exact ⟨rfl, rfl, Memory.insert_of_find? hl⟩

theorem Call.run_of_wantsAddresses (present : t.missing? l = none) (wants : f.WantsAddresses)
    (given : Text.trim f.lookupPostcode ≠ "") :
    (c.run m).1.lookedUp = [Text.trim f.lookupPostcode] ∧ (c.run m).2 = m ∧
      Replied f (c.surroundings.lookup (Text.trim f.lookupPostcode)) (c.run m).1.result := by
  obtain ⟨verdict, hv, hafter, replied⟩ := replied_offerAddresses (f := f) c.surroundings.lookup given
    c.surroundings.source l
  have hsave := (saveAddress_of_wants c.surroundings.lookup present wants).trans hv
  rw [run_of_saveAddress asked hl ho hsave]
  refine ⟨rfl, ?_, replied⟩
  exact (congrArg (m.insert c.session) hafter).trans (Memory.insert_of_find? hl)

theorem Call.run_of_noPostcode (present : t.missing? l = none) (wants : f.WantsAddresses)
    (blank : Text.trim f.lookupPostcode = "") :
    (c.run m).1.result = .ok (.invalid { errors := f.choiceErrors.add "lookup-postcode" (.enter "postcode") }) ∧
      (c.run m).1.lookedUp = [] ∧ (c.run m).2 = m := by
  have hsave := saveAddress_of_wants c.surroundings.lookup present wants
  rw [blank] at hsave
  exact run_of_answerAddress asked hl ho hsave

theorem Call.run_of_suppliesAddress (present : t.missing? l = none) {a : Address} (supplies : f.Supplies a) :
    (c.run m).1.result = .ok (.redirect (t.next f.source)) ∧ (c.run m).1.lookedUp = [] ∧
      (c.run m).2 = m.insert c.session { t.settle (t.set a l) with version := l.version + 1 } := by
  have hsave := saveAddress_of_supplies c.surroundings.lookup present supplies
  rw [run_of_saveAddress asked hl ho hsave]
  refine ⟨rfl, rfl, ?_⟩
  rw [← (id_version_set t a l).2]
  rfl

theorem Call.run_of_rejectedAddress (present : t.missing? l = none) (wants : ¬f.WantsAddresses)
    (supplies : ¬∃ a, f.Supplies a) : f.errors.any = true ∧
      (c.run m).1.result = .ok (.invalid { errors := f.errors }) ∧ (c.run m).1.lookedUp = [] ∧ (c.run m).2 = m := by
  obtain ⟨hsave, invalid⟩ := saveAddress_of_neither c.surroundings.lookup present wants supplies
  exact ⟨invalid, run_of_answerAddress asked hl ho hsave⟩

theorem Call.lookedUp_of_address (present : t.missing? l = none) : (c.run m).1.lookedUp =
    if f.WantsAddresses ∧ Text.trim f.lookupPostcode ≠ "" then [Text.trim f.lookupPostcode] else [] := by
  by_cases wants : f.WantsAddresses
  · by_cases blank : Text.trim f.lookupPostcode = ""
    · rw [if_neg fun h => h.2 blank]
      exact (run_of_noPostcode asked hl ho present wants blank).2.1
    · rw [if_pos ⟨wants, blank⟩]
      exact (run_of_wantsAddresses asked hl ho present wants blank).1
  · rw [if_neg fun h => wants h.1]
    by_cases supplies : ∃ a, f.Supplies a
    · obtain ⟨a, ha⟩ := supplies
      exact (run_of_suppliesAddress asked hl ho present ha).2.1
    · exact (run_of_rejectedAddress asked hl ho present wants supplies).2.2.1

theorem Call.changes_iff_suppliesAddress (present : t.missing? l = none) :
    (c.run m).2 ≠ m ↔ ∃ a, f.Supplies a := by
  constructor
  · intro changed
    by_contra supplies
    refine changed ?_
    by_cases wants : f.WantsAddresses
    · by_cases blank : Text.trim f.lookupPostcode = ""
      · exact (run_of_noPostcode asked hl ho present wants blank).2.2
      · exact (run_of_wantsAddresses asked hl ho present wants blank).2.1
    · exact (run_of_rejectedAddress asked hl ho present wants supplies).2.2.2
  · rintro ⟨a, ha⟩
    rw [(run_of_suppliesAddress asked hl ho present ha).2.2]
    exact Memory.insert_ne_of_version hl (Nat.succ_ne_self l.version)

/-- Where a choice cannot be read, every rejection of the form says so. -/
theorem Call.get?_select_of_unread (present : t.missing? l = none) (hselect : f.action = "select")
    (unread : f.chosen? = none) {r : Rejection} (hr : (c.run m).1.result = .ok (.invalid r)) :
    r.errors.get? "select-address" = some (.select "address") := by
  have wants : f.WantsAddresses := .inr ⟨hselect, unread⟩
  by_cases blank : Text.trim f.lookupPostcode = ""
  · rw [(run_of_noPostcode asked hl ho present wants blank).1, Except.ok.injEq, Reply.invalid.injEq] at hr
    rw [← hr]
    exact AddressForm.get?_add_choiceErrors hselect _
  · exact (run_of_wantsAddresses asked hl ho present wants blank).2.2.get?_select hselect hr

end

/-- The form for an address, of whomever it may be. Where the actor is gone nothing is asked or stored. Otherwise the
    service is asked once, if addresses are wanted and a postcode is there, and never else; then its reply decides the
    answer, and nothing is stored. A form that wants addresses supplies none. Something is stored exactly if the form
    supplies an address, which is then the address of the target, while everybody else keeps theirs. -/
theorem Call.run_address {c : Call} {m : Memory} (asked : c.operation = .submit (.address t f))
    (hl : m.find? c.session = some l) (ho : c.Opens m) :
    let postcode := Text.trim f.lookupPostcode
    let outcome := (c.run m).1
    let after := (c.run m).2
    (∀ col id, t = .actor col id → id ∉ l.ids col →
      outcome.result = .ok (.redirect (.of col.detailsPage)) ∧ outcome.lookedUp = [] ∧ after = m) ∧
    ((∀ col id, t = .actor col id → id ∈ l.ids col) →
      outcome.lookedUp = (if f.WantsAddresses ∧ postcode ≠ "" then [postcode] else []) ∧
      (f.WantsAddresses → ¬∃ a, f.Supplies a) ∧
      (outcome.lookedUp ≠ [] → after = m ∧ Replied f (c.surroundings.lookup postcode) outcome.result) ∧
      (f.WantsAddresses → postcode = "" → after = m ∧
        outcome.result = .ok (.invalid { errors := f.choiceErrors.add "lookup-postcode" (.enter "postcode") })) ∧
      (f.action = "select" → f.chosen? = none → ∀ r, outcome.result = .ok (.invalid r) →
        r.errors.get? "select-address" = some (.select "address")) ∧
      (after ≠ m ↔ ∃ a, f.Supplies a) ∧
      (∀ a, f.Supplies a → outcome.result = .ok (.redirect (t.next f.source)) ∧
        ∃ l', after = m.insert c.session l' ∧ l' = { t.settle (t.set a l) with version := l.version + 1 } ∧
          t.address? l' = some a ∧ ∀ u ≠ t, u.address? l' = u.address? l) ∧
      (¬f.WantsAddresses → (¬∃ a, f.Supplies a) →
        outcome.result = .ok (.invalid { errors := f.errors }) ∧ f.errors.any = true)) := by
  intro postcode outcome after
  constructor
  · rintro col id rfl gone
    have hsave := saveAddress_of_missing c.surroundings.lookup (f := f) (AddressTarget.missing?_of_notMem gone)
    exact run_of_answerAddress asked hl ho hsave
  · intro there
    have present : t.missing? l = none := AddressTarget.missing?_eq_none_iff.2 there
    have lookedUp := lookedUp_of_address asked hl ho present
    refine ⟨lookedUp, fun wants ⟨a, ha⟩ => AddressForm.not_supplies_of_wants wants a ha, fun hasked => ?_,
      fun wants blank => ?_, fun hselect unread r hr => ?_, changes_iff_suppliesAddress asked hl ho present,
      fun a ha => ?_, fun wants supplies => ?_⟩
    · have asks : f.WantsAddresses ∧ postcode ≠ "" := by
        by_contra h
        exact hasked (lookedUp.trans (if_neg h))
      exact (run_of_wantsAddresses asked hl ho present asks.1 asks.2).2
    · obtain ⟨hresult, -, hafter⟩ := run_of_noPostcode asked hl ho present wants blank
      exact ⟨hafter, hresult⟩
    · exact get?_select_of_unread asked hl ho present hselect unread hr
    · obtain ⟨hresult, -, hafter⟩ := run_of_suppliesAddress asked hl ho present ha
      refine ⟨hresult, _, hafter, rfl, ?_, fun u other => ?_⟩
      · exact (t.address?_settle t _ _).trans (AddressTarget.address?_set there a)
      · exact (u.address?_settle t _ _).trans (AddressTarget.address?_set_of_ne other a l)
    · obtain ⟨invalid, hresult, -⟩ := run_of_rejectedAddress asked hl ho present wants supplies
      exact ⟨hresult, invalid⟩

/-- A donor chooses what is no address, and gets the addresses of the postcode beside the error. One of them that is chosen
    then, or is written by hand, becomes the donor's. -/
theorem Call.run_address_of_road :
    let road : Address := { line1 := "1 Road", townOrCity := "Town", postcode := "SW1" }
    let m := sequential [Submission.call (.donor "Ann" "Smith") "session"]
    let surroundings := { Surroundings.plain with lookup := fun _ => .ok [road] }
    let send := fun (f : AddressForm) =>
      ({ session := "session", surroundings, operation := .submit (.address .donor f) } : Call)
    let garbles := send { action := "select", lookupPostcode := " SW1 ", selected := "1 Road" }
    let chooses := send { action := "select", selected := road.toJson.render }
    let writes := send { action := "manual", line1 := " 1 Road ", town := "Town", postcode := "SW1" }
    ((garbles.run m).1.lookedUp = ["SW1"] ∧ (garbles.run m).2 = m ∧ (garbles.run m).1.result =
      .ok (.invalid { errors := .single "select-address" (.select "address"), addresses := [road] })) ∧
    ∀ c ∈ [chooses, writes], ∃ l', (c.run m).2.find? "session" = some l' ∧ l'.donor.address = road := by
  intro road m surroundings send garbles chooses writes
  have hl : ∃ l, m.find? "session" = some l := ⟨_, rfl⟩
  obtain ⟨l, hl⟩ := hl
  have opens (f : AddressForm) : (send f).Opens m := by simp [Call.Opens, send]
  have there : ∀ col id, AddressTarget.donor = .actor col id → id ∈ l.ids col := by simp
  refine ⟨?_, ?_⟩
  · have unread : AddressForm.chosen? { action := "select", lookupPostcode := " SW1 ", selected := "1 Road" } = none := by
      decide +kernel
    have postcode : Text.trim " SW1 " = "SW1" := by decide +kernel
    obtain ⟨hasked, -, replied, -⟩ := (Call.run_address (c := garbles) rfl hl (opens _)).2 there
    rw [postcode, if_pos ⟨.inr ⟨rfl, unread⟩, by decide⟩] at hasked
    obtain ⟨hafter, hreply⟩ := replied (by simp [hasked])
    exact ⟨hasked, hafter, hreply.found [road] rfl (List.cons_ne_nil _ _)⟩
  · have saves (f : AddressForm) (supplies : f.Supplies road) :
        ∃ l', ((send f).run m).2.find? "session" = some l' ∧ l'.donor.address = road := by
      obtain ⟨-, -, -, -, -, -, saved, -⟩ := (Call.run_address (c := send f) rfl hl (opens f)).2 there
      obtain ⟨-, l', hafter, -, haddress, -⟩ := saved road supplies
      rw [hafter]
      exact ⟨l', Memory.find?_insert_self m _ l', Option.some.inj haddress⟩
    rw [List.forall_mem_cons, List.forall_mem_singleton]
    refine ⟨saves _ (.inl ⟨rfl, AddressForm.chosen?_of_render rfl⟩), saves _ (.inr ⟨rfl, ?_, ?_⟩)⟩
    · decide +kernel
    · constructor <;> decide

end Wizard

end PowerOfAttorney
