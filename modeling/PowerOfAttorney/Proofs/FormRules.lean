import PowerOfAttorney.Proofs.Session

/-! What is stored keeps to the rules of the forms. Every form is checked as it is stored, without the blanks around its
    texts, and what a form says is stored as a whole: so each actor has the details of a form that was taken
    (`Attorney.Proper` and its like), and all that other operations do to actors is to change their addresses or to remove
    them. A birth that was past on the day of the form is past on every later day. Which texts are e-mail addresses does
    not matter, as long as all forms go by the same rule. -/

namespace PowerOfAttorney

open Form Wizard

/-! ### The rules -/

/-- A text that was given: not empty, without blanks at its ends, and of at most so many characters. -/
structure IsGiven (limit : Nat) (s : String) : Prop where
  trimmed : Text.trim s = s
  ne_empty : s ≠ ""
  short : s.length ≤ limit

structure ProperNames (firstNames lastName : String) : Prop where
  firstNames : IsGiven firstNamesLimit firstNames
  lastName : IsGiven lastNameLimit lastName

structure ProperEmail (isEmail : String → Bool) (s : String) : Prop where
  trimmed : Text.trim s = s
  ne_empty : s ≠ ""
  valid : isEmail s = true

/-- A birth that is known and was before a day. -/
def BornBefore (day : Date) (birth : Option Date) : Prop := ∃ d, birth = some d ∧ d < day

structure Attorney.Proper (isEmail : String → Bool) (day : Date) (a : Attorney) : Prop where
  names : ProperNames a.firstNames a.lastName
  email : ProperEmail isEmail a.email
  birth : BornBefore day a.birth

structure PersonToNotify.Proper (isEmail : String → Bool) (p : PersonToNotify) : Prop where
  names : ProperNames p.firstNames p.lastName
  email : ProperEmail isEmail p.email

structure CertificateProvider.Proper (isEmail : String → Bool) (day : Date) (p : CertificateProvider) : Prop where
  names : ProperNames p.firstNames p.lastName
  mobile : Text.trim p.mobile = p.mobile ∧ p.mobile ≠ ""
  email : p.email = "" ∨ ProperEmail isEmail p.email
  birth : BornBefore day p.birth
  relationship : p.relationship.isSome = true
  professionally : p.relationship = some .professionally →
    Text.trim p.relationshipDescription = p.relationshipDescription ∧ p.relationshipDescription ≠ "" ∧
      p.acquaintance = none
  personally : p.relationship = some .personally →
    p.relationshipDescription = "" ∧ p.acquaintance = some .twoYearsOrMore

structure Donor.Proper (day : Date) (d : Donor) : Prop where
  names : ProperNames d.firstNames d.lastName
  otherNames : Text.trim d.otherNames = d.otherNames ∧ d.otherNames.length ≤ otherNamesLimit
  birth : BornBefore day d.birth

def DecisionMode.Proper : DecisionMode → Prop
  | .mixed details => IsGiven detailsLimit details
  | _ => True

def StepIn.Proper : StepIn → Prop
  | .someOtherWay details => IsGiven detailsLimit details
  | _ => True

/-- An LPA in which whatever is filled in keeps to the rules of the forms, births being before a day. -/
structure Lpa.Proper (isEmail : String → Bool) (day : Date) (l : Lpa) : Prop where
  attorneys : ∀ a ∈ l.attorneys.members, a.Proper isEmail day
  replacements : ∀ a ∈ l.replacements.members, a.Proper isEmail day
  people : ∀ p ∈ l.peopleToNotify.members, p.Proper isEmail
  provider : l.certificateProvider = { address := l.certificateProvider.address } ∨
    l.certificateProvider.Proper isEmail day
  donor : l.donor = { address := l.donor.address } ∨ l.donor.Proper day
  attorneysDecide : ∀ mode ∈ l.attorneysDecide, mode.Proper
  replacementsDecide : ∀ mode ∈ l.replacementsDecide, mode.Proper
  stepIn : ∀ answer ∈ l.replacementsStepIn, answer.Proper
  restrictions : Text.trim l.restrictions = l.restrictions ∧ l.restrictions.length ≤ restrictionsLimit

/-! ### What a form that was taken holds -/

theorem isGiven_of_check {r : TextRule} {limit : Nat} {s : String} (required : r.required = true)
    (hlimit : r.limit = some limit) (h : r.check (Text.trim s) = none) : IsGiven limit (Text.trim s) :=
  ⟨Text.trim_trim s, TextRule.ne_empty_of_check required h, TextRule.length_le_of_check hlimit h⟩

theorem properNames_of_check {firstNames lastName : String} (hfirst : firstNamesRule.check (Text.trim firstNames) = none)
    (hlast : lastNameRule.check (Text.trim lastName) = none) :
    ProperNames (Text.trim firstNames) (Text.trim lastName) :=
  ⟨isGiven_of_check rfl rfl hfirst, isGiven_of_check rfl rfl hlast⟩

theorem properEmail_of_check {isEmail : String → Bool} {s : String}
    (h : (emailRule isEmail).check (Text.trim s) = none) : ProperEmail isEmail (Text.trim s) := by
  have given := TextRule.ne_empty_of_check rfl h
  exact ⟨Text.trim_trim s, given, TextRule.valid_of_check rfl given h⟩

theorem properEmail_of_optional {isEmail : String → Bool} {s : String}
    (h : (optionalEmailRule isEmail).check (Text.trim s) = none) :
    Text.trim s = "" ∨ ProperEmail isEmail (Text.trim s) := by
  by_cases given : Text.trim s = ""
  · exact .inl given
  · exact .inr ⟨Text.trim_trim s, given, TextRule.valid_of_check rfl given h⟩

theorem bornBefore_of_pastError? {b : DateBoxes} {label : String} {today day : Date} (hday : today ≤ day)
    (h : b.pastError? label today = none) : BornBefore day b.date? := by
  obtain ⟨d, hd, hpast⟩ := DateBoxes.date?_of_pastError? h
  exact ⟨d, hd, Date.lt_of_lt_of_le (Date.not_le.1 hpast) hday⟩

theorem isGiven_of_addDetails {field label s : String}
    (h : (addDetails {} field label (Text.trim s)).any = false) : IsGiven detailsLimit (Text.trim s) := by
  obtain ⟨-, hblank, hshort⟩ := any_addDetails.1 h
  refine ⟨Text.trim_trim s, fun hempty => ?_, hshort⟩
  rw [hempty] at hblank
  cases hblank

namespace Form
variable {isEmail : String → Bool} {today day : Date}

theorem ActorDetails.proper_fill {f : ActorDetails} (hday : today ≤ day)
    (h : (f.trimmed.errors today isEmail).any = false) (a : Attorney) : (f.trimmed.fill a).Proper isEmail day := by
  obtain ⟨htexts, hbirth⟩ := ErrorList.any_addAny.1 h
  rw [ErrorList.any_check] at htexts
  have hfirst := htexts (firstNamesRule, f.trimmed.firstNames) (by simp)
  have hlast := htexts (lastNameRule, f.trimmed.lastName) (by simp)
  have hemail := htexts (emailRule isEmail, f.trimmed.email) (by simp)
  exact {
    names := properNames_of_check hfirst hlast
    email := properEmail_of_check hemail
    birth := by simpa only [fill] using bornBefore_of_pastError? hday hbirth }

theorem PersonDetails.proper_fill {f : PersonDetails} (h : (f.trimmed.errors isEmail).any = false)
    (p : PersonToNotify) : (f.trimmed.fill p).Proper isEmail := by
  have htexts := ErrorList.any_check.1 h
  have hfirst := htexts (firstNamesRule, f.trimmed.firstNames) (by simp)
  have hlast := htexts (lastNameRule, f.trimmed.lastName) (by simp)
  have hemail := htexts (emailRule isEmail, f.trimmed.email) (by simp)
  exact ⟨properNames_of_check hfirst hlast, properEmail_of_check hemail⟩

theorem DonorDetails.proper_fill {f : DonorDetails} (hday : today ≤ day) (h : (f.trimmed.errors today).any = false)
    (d : Donor) : (f.trimmed.fill d).Proper day := by
  obtain ⟨htexts, hbirth⟩ := ErrorList.any_addAny.1 h
  rw [ErrorList.any_check] at htexts
  have hfirst := htexts (firstNamesRule, f.trimmed.firstNames) (by simp)
  have hlast := htexts (lastNameRule, f.trimmed.lastName) (by simp)
  have hother := htexts (otherNamesRule, f.trimmed.otherNames) (by simp)
  exact {
    names := properNames_of_check hfirst hlast
    otherNames := ⟨Text.trim_trim _, TextRule.length_le_of_check rfl hother⟩
    birth := by simpa only [fill] using bornBefore_of_pastError? hday hbirth }

/-- Answers about the relationship without errors name one, with its description or its length. -/
theorem ProviderDetails.relationship_of_addRelationship {l : ErrorList} {f : ProviderDetails}
    (h : (addRelationship l f).any = false) : l.any = false ∧
      (((ofWord? f.relationship : Option Relationship) = some .professionally ∧
          Text.allBlank f.relationshipDescription = false) ∨
        ((ofWord? f.relationship : Option Relationship) = some .personally ∧
          (ofWord? f.acquaintance : Option Acquaintance) = some .twoYearsOrMore)) := by
  unfold addRelationship at h
  split at h
  · simp at h
  · rename_i hr
    obtain ⟨hl, hblank⟩ := ErrorList.any_requireText.1 h
    exact ⟨hl, .inl ⟨hr, hblank⟩⟩
  · rename_i hr
    split at h
    · simp at h
    · simp at h
    · exact ⟨h, .inr ⟨hr, ‹_›⟩⟩

theorem ProviderDetails.proper_fill {f : ProviderDetails} (hday : today ≤ day)
    (h : (f.trimmed.errors today isEmail).any = false) (p : CertificateProvider) :
    (f.trimmed.fill p).Proper isEmail day := by
  obtain ⟨hrest, hrelated⟩ := relationship_of_addRelationship h
  obtain ⟨htexts, hbirth⟩ := ErrorList.any_addAny.1 hrest
  rw [ErrorList.any_check] at htexts
  have hfirst := htexts (firstNamesRule, f.trimmed.firstNames) (by simp)
  have hlast := htexts (lastNameRule, f.trimmed.lastName) (by simp)
  have hmobile := htexts (mobileRule, f.trimmed.mobile) (by simp)
  have hemail := htexts (optionalEmailRule isEmail, f.trimmed.email) (by simp)
  have names : ProperNames f.trimmed.firstNames f.trimmed.lastName := properNames_of_check hfirst hlast
  have mobile : Text.trim f.trimmed.mobile = f.trimmed.mobile ∧ f.trimmed.mobile ≠ "" :=
    ⟨Text.trim_trim _, TextRule.ne_empty_of_check rfl hmobile⟩
  have email := properEmail_of_optional hemail
  have birth := bornBefore_of_pastError? hday hbirth
  -- what is kept beside the relationship depends on it, so that each comes with a rule that does not apply
  rcases hrelated with ⟨hr, hblank⟩ | ⟨hr, hlength⟩
  · have hgiven : f.trimmed.relationshipDescription ≠ "" := by
      intro hempty
      rw [hempty] at hblank
      cases hblank
    constructor <;> simp only [fill, hr]
    case professionally => exact fun _ => ⟨Text.trim_trim _, hgiven, rfl⟩
    case personally => exact nofun
    case relationship => rfl
    all_goals assumption
  · constructor <;> simp only [fill, hr, hlength]
    case professionally => exact nofun
    case personally => exact fun _ => ⟨rfl, rfl⟩
    case relationship => rfl
    all_goals assumption

theorem Decisions.proper_mode {f : Decisions} {label : String} {m : DecisionMode} (chosen : f.mode? = some m)
    (h : (f.errors label).any = false) : m.Proper := by
  cases m with
  | jointly => trivial
  | jointlyAndSeverally => trivial
  | mixed details =>
    have hdetails := details_of_mode? chosen
    rw [errors, chosen] at h
    rw [hdetails] at h ⊢
    exact isGiven_of_addDetails h

theorem StepInForm.proper_stepIn {f : StepInForm} {a : StepIn} (chosen : f.stepIn? = some a)
    (h : f.errors.any = false) : a.Proper := by
  cases a with
  | whenOneCannotAct => trivial
  | whenNoneCanAct => trivial
  | someOtherWay details =>
    have hdetails := details_of_stepIn? chosen
    rw [errors, chosen] at h
    rw [hdetails] at h ⊢
    exact isGiven_of_addDetails h

theorem RestrictionsForm.proper_restrictions {f : RestrictionsForm} (h : f.errors.any = false) :
    Text.trim (Text.trim f.restrictions) = Text.trim f.restrictions ∧
      (Text.trim f.restrictions).length ≤ restrictionsLimit := by
  have hcheck := ErrorList.any_check.1 h _ (List.mem_singleton_self _)
  exact ⟨Text.trim_trim _, Nat.le_trans (Text.length_trim_le _) (TextRule.length_le_of_check rfl hcheck)⟩

end Form

/-! ### What the operations keep -/

namespace Lpa.Proper
variable {isEmail : String → Bool} {day : Date} {l l' : Lpa}

theorem empty (id : String) (version : Nat) : Lpa.Proper isEmail day { Lpa.empty id with version } := by
  constructor
  case provider => exact .inl rfl
  case donor => exact .inl rfl
  case restrictions => exact ⟨rfl, Nat.zero_le _⟩
  all_goals
    intro x hx
    cases hx

theorem version (h : l.Proper isEmail day) (version : Nat) : Lpa.Proper isEmail day { l with version } := { h with }

theorem settleAttorneys (h : l.Proper isEmail day) (role : AttorneyRole) :
    (l.settleAttorneys role).Proper isEmail day := { h with }

theorem settleProvider (h : l.Proper isEmail day) : l.settleProvider.Proper isEmail day := { h with }

theorem settlePeople (h : l.Proper isEmail day) (answer : Option YesNo) :
    (Lpa.settlePeople { l with wantToNotify := answer }).Proper isEmail day := { h with }

theorem withPeople (h : l.Proper isEmail day) {rest : Roster PersonToNotify}
    (hrest : ∀ p ∈ rest.members, p.Proper isEmail) :
    (Lpa.settlePeople { l with peopleToNotify := rest }).Proper isEmail day := { h with people := hrest }

theorem attorneysOf (h : l.Proper isEmail day) (role : AttorneyRole) :
    ∀ a ∈ (l.attorneysOf role).members, a.Proper isEmail day := by
  cases role with
  | primary => exact h.attorneys
  | replacement => exact h.replacements

theorem withAttorneys (h : l.Proper isEmail day) (role : AttorneyRole) {rest : Roster Attorney}
    (hrest : ∀ a ∈ rest.members, a.Proper isEmail day) : (l.withAttorneys role rest).Proper isEmail day := by
  cases role with
  | primary => exact { h with attorneys := hrest }
  | replacement => exact { h with replacements := hrest }

theorem put (h : l.Proper isEmail day) {role : AttorneyRole} {a : Attorney} (ha : a.Proper isEmail day) :
    ((l.withAttorneys role ((l.attorneysOf role).put a)).settleAttorneys role).Proper isEmail day := by
  exact (h.withAttorneys role (Roster.forall_put (h.attorneysOf role) ha)).settleAttorneys role

theorem arrange (h : l.Proper isEmail day) {mode : Option DecisionMode} (hmode : ∀ m ∈ mode, m.Proper) :
    (l.arrange mode).Proper isEmail day := by
  refine { h with attorneysDecide := hmode, stepIn := fun answer ha => ?_ }
  unfold Lpa.arrange at ha
  dsimp only at ha
  split at ha
  · exact h.stepIn answer ha
  · cases ha

theorem arrangeReplacements (h : l.Proper isEmail day) {mode : Option DecisionMode} (hmode : ∀ m ∈ mode, m.Proper) :
    Lpa.Proper isEmail day { l with replacementsDecide := mode } := { h with replacementsDecide := hmode }

/-- Pruning drops answers and gives none. -/
theorem prune (h : l.Proper isEmail day) : l.prune.Proper isEmail day := by
  rw [prune_eq]
  exact { h with
    attorneysDecide := fun mode hm => h.attorneysDecide mode (Option.ite_none_left_eq_some.1 hm).2
    replacementsDecide := fun mode hm => h.replacementsDecide mode (Option.ite_none_left_eq_some.1 hm).2
    stepIn := fun answer ha => h.stepIn answer (Option.ite_none_left_eq_some.1 ha).2 }

theorem readdress (h : l.Proper isEmail day) (role : AttorneyRole) (id : String) (address : Address) :
    ((l.withAttorneys role ((l.attorneysOf role).modify id fun x => { x with address })).settleAttorneys role).Proper
      isEmail day := by
  refine (h.withAttorneys role ?_).settleAttorneys role
  refine Roster.forall_modify (h.attorneysOf role) (fun x hx => ?_) id
  exact { hx with }

theorem clear (h : l.Proper isEmail day) :
    (Lpa.clearReplacements { l with wantReplacements := some .no }).Proper isEmail day := by
  refine { h with replacements := ?_, replacementsDecide := ?_, stepIn := ?_ }
  all_goals
    intro x hx
    cases hx

/-- No rule of the forms for details is about an address. -/
theorem giveAddress (h : l.Proper isEmail day) (t : AddressTarget) (a : Address) :
    (t.settle (t.set a l)).Proper isEmail day := by
  cases t with
  | donor =>
    have donor : ({ l.donor with address := a } : Donor) = { address := a } ∨
        Donor.Proper day { l.donor with address := a } :=
      h.donor.imp (fun hd => by rw [hd]) fun hd => { hd with }
    exact { h with donor }
  | certificateProvider =>
    have provider : ({ l.certificateProvider with address := a } : CertificateProvider) = { address := a } ∨
        CertificateProvider.Proper isEmail day { l.certificateProvider with address := a } :=
      h.provider.imp (fun hp => by rw [hp]) fun hp => { hp with }
    refine settleProvider ?_
    exact { h with provider }
  | actor c id =>
    cases c with
    | attorneys => exact h.readdress .primary id a
    | replacements => exact h.readdress .replacement id a
    | peopleToNotify =>
      refine h.withPeople (Roster.forall_modify h.people (fun p hp => ?_) id)
      exact { hp with }

theorem putPerson (h : l.Proper isEmail day) {p : PersonToNotify} (hp : p.Proper isEmail) :
    (Lpa.settlePeople { l with peopleToNotify := l.peopleToNotify.put p }).Proper isEmail day :=
  h.withPeople (Roster.forall_put h.people hp)

/-- Every operation that stores something keeps to the rules of the forms. -/
theorem stores {w : Surroundings} {op : Operation} {r : Reply} (h : l.Proper w.isEmail day) (hday : w.today ≤ day)
    (hs : Stores w l op l' r) : l'.Proper w.isEmail day := by
  cases hs with
  | donorFilledIn accepted =>
    exact { h with donor := .inr (DonorDetails.proper_fill hday (rejection?_eq_none.1 accepted).1 _) }
  | attorneyEdited found accepted => exact h.put (ActorDetails.proper_fill hday (rejection?_eq_none.1 accepted).1 _)
  | attorneyAdded missing accepted minted =>
    exact h.put (ActorDetails.proper_fill hday (rejection?_eq_none.1 accepted).1 _)
  | @attorneyRemoved role id f found confirmed =>
    exact (h.withAttorneys role (Roster.forall_erase (h.attorneysOf role) id)).prune.settleAttorneys role
  | attorneysArranged chosen valid =>
    refine (h.arrange ?_).settleAttorneys _
    rintro m ⟨⟩
    exact Decisions.proper_mode chosen valid
  | replacementsArranged chosen valid =>
    refine (h.arrangeReplacements ?_).settleAttorneys _
    rintro m ⟨⟩
    exact Decisions.proper_mode chosen valid
  | replacementsWanted =>
    refine settleAttorneys ?_ _
    exact { h with }
  | replacementsDeclined => exact h.clear.settleAttorneys _
  | stepInChosen chosen valid =>
    refine settleAttorneys ?_ _
    refine { h with stepIn := ?_ }
    rintro a ⟨⟩
    exact StepInForm.proper_stepIn chosen valid
  | restrictionsWritten valid => exact { h with restrictions := RestrictionsForm.proper_restrictions valid }
  | providerFilledIn accepted =>
    refine settleProvider ?_
    exact { h with provider := .inr (ProviderDetails.proper_fill hday (rejection?_eq_none.1 accepted).1 _) }
  | addressGiven => exact h.giveAddress _ _
  | notifying => exact h.settlePeople _
  | notifyingNobody => exact (h.settlePeople _).withPeople nofun
  | personEdited found accepted => exact h.putPerson (PersonDetails.proper_fill (rejection?_eq_none.1 accepted).1 _)
  | personAdded missing accepted minted =>
    exact h.putPerson (PersonDetails.proper_fill (rejection?_eq_none.1 accepted).1 _)
  | personRemoved => exact h.withPeople (Roster.forall_erase h.people _)
  | _ => exact { h with }

end Lpa.Proper

namespace Wizard

/-- A call that goes by a rule for e-mail addresses, on a day or before it. -/
def Call.KeepsTo (isEmail : String → Bool) (day : Date) (c : Call) : Prop :=
  c.surroundings.isEmail = isEmail ∧ c.surroundings.today ≤ day

/-- In every LPA that can be reached, whatever is filled in keeps to the rules of the forms, and whoever has a day of
    birth was born before any day that is no earlier than those of the calls of its session. Addresses keep to the rule
    that these calls go by, whichever it is. -/
theorem reachable_proper {isEmail : String → Bool} {m : Memory} {session : String} {day : Date}
    (hr : Reached (fun c _ => c.session = session → c.KeepsTo isEmail day) m) {l : Lpa}
    (h : m.find? session = some l) : l.Proper isEmail day := by
  refine hr.induct Lpa.Proper.empty (fun c l l' r hsession keeps hl hs => ?_) h
  obtain ⟨rfl, hday⟩ := keeps hsession
  exact (hl.stores hday hs).version _

/-- A donor, a certificate provider and two attorneys with a mixed arrangement, filled in with blanks around the texts,
    of a day later than that of the forms. -/
theorem reachable_proper_of_forms :
    let form := fun s => Submission.call s "session"
    let birth : DateBoxes := { day := "1", month := "2", year := "1970" }
    let day : Date := { year := 2027, month := 1, day := 1, isDay := by decide }
    let m := sequential [
      form (.donorDetails { firstNames := " Dora ", lastName := "Smith", otherNames := " Dot ", birth }),
      form (.providerDetails
        { firstNames := "Cara", lastName := "Jones", mobile := " 07700 900000 ", birth, relationship := "professionally"
          relationshipDescription := " Solicitor " }),
      form (.details .primary "Ann"), form (.details .primary " Bob "),
      form (.decisions .primary { decisionType := "mixed", mixedDetails := " The house together " })]
    ∃ l, m.find? "session" = some l ∧ l.attorneys.size = 2 ∧ l.donor.Proper day ∧
      l.certificateProvider.Proper Email.isValid day ∧
      (l.attorneysDecide = some (.mixed "The house together") ∧ IsGiven detailsLimit "The house together") ∧
      l.Proper Email.isValid day := by
  intro form birth day m
  have hr : Reached (fun c _ => c.session = "session" → c.KeepsTo Email.isValid day) m := by
    refine reached_sequential fun c hc l _ => ?_
    simp only [List.mem_cons, List.not_mem_nil, or_false] at hc
    rcases hc with rfl | rfl | rfl | rfl | rfl <;> exact ⟨rfl, by decide⟩
  have hfound : (m.find? "session").any (fun l => l.attorneys.size == 2 && l.donor.firstNames == "Dora" &&
      l.certificateProvider.firstNames == "Cara" && l.attorneysDecide == some (.mixed "The house together")) = true := by
    decide +kernel
  obtain ⟨l, hl, hfound⟩ := (Option.any_eq_true _ _).1 hfound
  simp only [Bool.and_eq_true, beq_iff_eq] at hfound
  obtain ⟨⟨⟨two, donor⟩, provider⟩, mixed⟩ := hfound
  have proper := reachable_proper hr hl
  refine ⟨l, hl, two, proper.donor.resolve_left fun hd => ?_, proper.provider.resolve_left fun hp => ?_,
    ⟨mixed, proper.attorneysDecide _ mixed⟩, proper⟩
  · rw [hd] at donor
    simp at donor
  · rw [hp] at provider
    simp at provider

end Wizard

end PowerOfAttorney
