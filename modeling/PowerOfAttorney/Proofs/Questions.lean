import PowerOfAttorney.Proofs.TaskStates

/-! The wizard asks all that the rules of the attorney sections need. Who is on a list has given names and a day of
    birth (`Detailed`), so that with the addresses nothing is open but how several act together and how the
    replacements step in. Whoever has no one to add is led to the pages that ask that, and only where it is needed;
    any valid answers then complete the section (`Leads`). -/

namespace PowerOfAttorney

open Form Wizard Routing

/-! ### Who is on a list has given details -/

def Attorney.IsDetailed (a : Attorney) : Prop := a.isNamed = true ∧ a.birth.isSome = true

/-- An LPA whose attorneys and replacements have all given their details. -/
def Detailed (l : Lpa) : Prop := ∀ role, ∀ a ∈ (l.attorneysOf role).members, a.IsDetailed

theorem Form.ActorDetails.isDetailed_fill {f : ActorDetails} {today : Date} {isEmail : String → Bool}
    {role : AttorneyRole} {editing : Option String} {l : Lpa}
    (accepted : f.rejection? today isEmail role editing l = none) (a : Attorney) :
    (f.fill a).IsDetailed := by
  obtain ⟨hfirst, hlast, hbirth⟩ := given_of_errors (rejection?_eq_none.1 accepted).1
  simp only [Attorney.IsDetailed, Attorney.isNamed, fill, Bool.and_eq_true, bne_iff_ne]
  exact ⟨⟨hfirst, hlast⟩, hbirth⟩

namespace Detailed
variable {l l' : Lpa}

theorem empty (id : String) (version : Nat) : Detailed { Lpa.empty id with version } := by
  intro role a ha
  cases role <;> cases ha

theorem congr (h : Detailed l) (attorneys : l'.attorneys = l.attorneys)
    (replacements : l'.replacements = l.replacements) : Detailed l' := by
  intro role
  cases role with
  | primary =>
    rw [Lpa.attorneysOf, attorneys]
    exact h .primary
  | replacement =>
    rw [Lpa.attorneysOf, replacements]
    exact h .replacement

theorem version (h : Detailed l) (version : Nat) : Detailed { l with version } := h.congr rfl rfl

theorem settleAttorneys (h : Detailed l) (role : AttorneyRole) : Detailed (l.settleAttorneys role) := h.congr rfl rfl

theorem settleProvider (h : Detailed l) (provider : CertificateProvider) :
    Detailed (Lpa.settleProvider { l with certificateProvider := provider }) := h.congr rfl rfl

theorem prune (h : Detailed l) : Detailed l.prune := h.congr (Lpa.prune_attorneys l) (Lpa.prune_replacements l)

theorem withAttorneys (h : Detailed l) (role : AttorneyRole) {rest : Roster Attorney}
    (hrest : ∀ a ∈ rest.members, a.IsDetailed) : Detailed (l.withAttorneys role rest) := by
  intro role'
  cases role <;> cases role'
  · exact hrest
  · exact h .replacement
  · exact h .primary
  · exact hrest

theorem put (h : Detailed l) {role : AttorneyRole} {a : Attorney} (ha : a.IsDetailed) :
    Detailed ((l.withAttorneys role ((l.attorneysOf role).put a)).settleAttorneys role) := by
  refine (h.withAttorneys role fun b hb => ?_).settleAttorneys role
  rcases Roster.mem_put hb with hb | rfl
  · exact h role b hb
  · exact ha

theorem erase (h : Detailed l) (role : AttorneyRole) (id : String) :
    Detailed ((l.withAttorneys role ((l.attorneysOf role).erase id)).prune.settleAttorneys role) :=
  (h.withAttorneys role fun b hb => h role b (Roster.mem_erase hb)).prune.settleAttorneys role

theorem modify (h : Detailed l) (role : AttorneyRole) (id : String) (address : Address) :
    ∀ a ∈ ((l.attorneysOf role).modify id fun x => { x with address }).members, a.IsDetailed := by
  intro a ha
  rcases Roster.mem_modify ha with ha | ⟨b, hb, rfl⟩
  · exact h role a ha
  · exact h role b hb

theorem giveAddress (h : Detailed l) (t : AddressTarget) (a : Address) : Detailed (t.settle (t.set a l)) := by
  cases t with
  | donor => exact h.congr rfl rfl
  | certificateProvider => exact h.settleProvider _
  | actor c id =>
    cases c with
    | attorneys => exact (h.withAttorneys .primary (h.modify .primary id a)).settleAttorneys _
    | replacements => exact (h.withAttorneys .replacement (h.modify .replacement id a)).settleAttorneys _
    | peopleToNotify => exact h.congr rfl rfl

/-- Every operation that stores something leaves nobody on a list without details. -/
theorem stores {w : Surroundings} {op : Operation} {r : Reply} (h : Detailed l) (hs : Stores w l op l' r) :
    Detailed l' := by
  cases hs with
  | attorneyEdited found accepted => exact h.put (ActorDetails.isDetailed_fill accepted _)
  | attorneyAdded missing accepted minted => exact h.put (ActorDetails.isDetailed_fill accepted _)
  | attorneyRemoved => exact h.erase _ _
  | replacementsDeclined =>
    refine settleAttorneys (fun role a ha => ?_) _
    cases role with
    | primary => exact h .primary a ha
    | replacement => cases ha
  | providerFilledIn => exact h.settleProvider _
  | addressGiven => exact h.giveAddress _ _
  | _ => exact h.congr rfl rfl

theorem of_reached {allowed : Call → Lpa → Prop} {m : Memory} (hr : Reached allowed m) {session : String}
    (h : m.find? session = some l) : Detailed l := by
  refine hr.induct empty (fun c l l' r _ _ hl hs => ?_) h
  exact (hl.stores hs).version _

end Detailed

/-! ### What is left to ask -/

namespace Lpa
variable {l : Lpa}

/-- Attorneys with all details have only to say how several of them decide. -/
theorem attorneysComplete_of_detailed (detailed : Detailed l) (present : l.attorneys.isEmpty = false)
    (addressed : ∀ a ∈ l.attorneys.members, a.address.isGiven = true) :
    l.attorneysComplete = (l.attorneys.size == 1 || isArranged l.attorneysDecide) := by
  have hall : l.attorneys.members.all Attorney.isReachable = true := by
    rw [List.all_eq_true]
    intro a ha
    rw [Attorney.isReachable, (detailed .primary a ha).1, addressed a ha, Bool.and_self]
  rw [attorneysComplete, present, hall, Bool.not_false, Bool.and_self, Bool.true_and]

/-- Replacements who are wanted and have all details have only to say how they act. -/
theorem replacementsComplete_of_detailed (detailed : Detailed l) (wanted : l.wantReplacements = some .yes)
    (addressed : ∀ a ∈ l.replacements.members, a.address.isGiven = true) :
    l.replacementsComplete = l.wantedReplacementsComplete := by
  have hall : (l.replacements.members.all fun a => a.isReachable && a.birth.isSome) = true := by
    rw [List.all_eq_true]
    intro a ha
    rw [Attorney.isReachable, (detailed .replacement a ha).1, (detailed .replacement a ha).2, addressed a ha]
    rfl
  rw [replacementsComplete, hall, wanted, Bool.true_and]

/-- Replacements who are asked how they step in have nothing else to say. -/
theorem wantedReplacementsComplete_of_asked (present : l.replacements.isEmpty = false) (asks : l.asksStepIn = true)
    {a : StepIn} (answered : l.replacementsStepIn = some a) (complete : a.isComplete = true) :
    l.wantedReplacementsComplete = true := by
  obtain ⟨hsize, hd⟩ := asksStepIn_iff.1 asks
  have hne : l.attorneys.size ≠ 1 := by omega
  simp [wantedReplacementsComplete, present, hne, hd, answered, complete]

/-- Replacements who are not asked how they step in have only to say how several of them decide. -/
theorem wantedReplacementsComplete_of_not_asked (present : l.replacements.isEmpty = false) (asks : l.asksStepIn = false)
    (unanswered : l.replacementsStepIn = none) (attorneysPresent : l.attorneys.isEmpty = false)
    (attorneys : (l.attorneys.size == 1 || isArranged l.attorneysDecide) = true)
    (replacements : (l.replacements.size == 1 || isArranged l.replacementsDecide) = true) :
    l.wantedReplacementsComplete = true := by
  unfold wantedReplacementsComplete
  by_cases hone : l.attorneys.size = 1
  · simpa only [present, hone, Bool.false_eq_true, ↓reduceIte] using replacements
  · have hsize : 1 < l.attorneys.size := by
      have := Roster.isEmpty_eq_false_iff.1 attorneysPresent
      omega
    cases hd : l.attorneysDecide with
    | none => simp [hone, hd, isArranged] at attorneys
    | some mode =>
      cases mode with
      | jointly =>
        simpa only [present, hone, unanswered, Bool.false_eq_true, ↓reduceIte, Option.isNone_none, Bool.true_and]
          using replacements
      | jointlyAndSeverally =>
        rw [asksStepIn_iff.2 ⟨hsize, hd⟩] at asks
        cases asks
      | mixed details => simp [present, hone, unanswered]

end Lpa

/-! ### From page to page -/

namespace Wizard

def lastPage : AttorneyRole → Page
  | .primary => .wantReplacements
  | .replacement => .taskList

/-- A form without errors that is sent from a page about how the attorneys of a role act. -/
inductive Answers : AttorneyRole → Page → Submission → Prop
  | attorneysDecide {f : Decisions} {label : String} (valid : (f.errors label).any = false) :
      Answers .primary .attorneysDecide (.decisions .primary f)
  | replacementsDecide {f : Decisions} {label : String} (valid : (f.errors label).any = false) :
      Answers .replacement .replacementsDecide (.decisions .replacement f)
  | stepIn {f : StepInForm} (valid : f.errors.any = false) : Answers .replacement .replacementsStepIn (.stepIn f)

/-- Whether a session on a page is past the questions about a role, with the section completed. -/
def Finished (session : String) (role : AttorneyRole) (page : Page) (m : Memory) : Prop :=
  page = lastPage role ∧ ∃ l, m.find? session = some l ∧ l.tasks.get role.task = .completed

/-- Whether a session on a page gets past the questions about a role with the section completed, by sending forms from
    at most so many pages, whatever it answers there. -/
def Leads (session : String) (role : AttorneyRole) : Nat → Page → Memory → Prop
  | 0, page, m => Finished session role page m
  | n + 1, page, m => Finished session role page m ∨ (∃ s, Answers role page s) ∧
      ∀ (c : Call) (s : Submission), c.session = session → c.Opens m → c.operation = .submit s → Answers role page s →
        ∃ next, (c.run m).1.result = .ok (.redirect (.of next)) ∧ Leads session role n next (c.run m).2

section
variable {session : String} {role : AttorneyRole} {m : Memory} {l : Lpa}

theorem Finished.leads {page : Page} (h : Finished session role page m) (n : Nat) : Leads session role n page m := by
  cases n with
  | zero => exact h
  | succ n => exact .inl h

/-- A page from which every valid form is stored and leads on. -/
theorem leads_of_stores (h : m.find? session = some l) {page : Page} {n : Nat} (asked : ∃ s, Answers role page s)
    (stores : ∀ w s, Answers role page s → ∃ l' next, Stores w l (.submit s) l' (.redirect (.of next)) ∧
      ∀ m' : Memory, m'.find? session = some { l' with version := l'.version + 1 } → Leads session role n next m') :
    Leads session role (n + 1) page m := by
  refine .inr ⟨asked, fun c s hsession ho hop answers => ?_⟩
  subst hsession
  obtain ⟨l', next, hstores, leads⟩ := stores c.surroundings s answers
  rw [← hop] at hstores
  obtain ⟨hresult, hfind⟩ := Call.run_of_stores h ho hstores
  exact ⟨next, hresult, leads _ hfind⟩

theorem leads_attorneysDecide (h : m.find? session = some l)
    (complete : ∀ mode, mode.isComplete = true → (l.arrange (some mode)).attorneysComplete = true) (n : Nat) :
    Leads session .primary (n + 1) .attorneysDecide m := by
  refine leads_of_stores h ⟨_, @Answers.attorneysDecide { decisionType := "jointly" } "" rfl⟩ fun w s answers => ?_
  cases answers with
  | @attorneysDecide f label valid =>
    obtain ⟨mode, chosen, hmode⟩ := Decisions.mode?_of_errors valid
    rw [f.any_errors_label _ "howAttorneysShouldMakeDecisions"] at valid
    refine ⟨_, _, .attorneysArranged chosen valid, fun m' hm' => ?_⟩
    have finished : Finished session .primary .wantReplacements m' :=
      ⟨rfl, _, hm', TaskState.settle_eq_completed.2 (complete mode hmode)⟩
    exact finished.leads n

theorem leads_replacementsDecide (h : m.find? session = some l)
    (complete : ∀ mode, mode.isComplete = true →
      Lpa.replacementsComplete { l with replacementsDecide := some mode } = true) (n : Nat) :
    Leads session .replacement (n + 1) .replacementsDecide m := by
  refine leads_of_stores h ⟨_, @Answers.replacementsDecide { decisionType := "jointly" } "" rfl⟩ fun w s answers => ?_
  cases answers with
  | @replacementsDecide f label valid =>
    obtain ⟨mode, chosen, hmode⟩ := Decisions.mode?_of_errors valid
    rw [f.any_errors_label _ "howReplacementAttorneysShouldMakeDecisions"] at valid
    refine ⟨_, _, .replacementsArranged chosen valid, fun m' hm' => ?_⟩
    have finished : Finished session .replacement .taskList m' :=
      ⟨rfl, _, hm', TaskState.settle_eq_completed.2 (complete mode hmode)⟩
    exact finished.leads n

/-- After the answer how they step in, several replacements may be asked how they decide; either way the section is
    completed. -/
theorem leads_stepIn (h : m.find? session = some l)
    (complete : ∀ a mode, a.isComplete = true → Lpa.replacementsComplete
      { l with replacementsStepIn := some a, replacementsDecide := mode } = true) (n : Nat) :
    Leads session .replacement (n + 2) .replacementsStepIn m := by
  refine leads_of_stores h ⟨_, @Answers.stepIn { whenToStepIn := "one" } rfl⟩ fun w s answers => ?_
  cases answers with
  | @stepIn f valid =>
    obtain ⟨a, chosen, ha⟩ := StepInForm.stepIn?_of_errors valid
    refine ⟨_, _, .stepInChosen chosen valid, fun m' hm' => ?_⟩
    split
    · exact leads_replacementsDecide hm' (fun mode _ => complete a (some mode) ha) n
    · have finished : Finished session .replacement .taskList m' :=
        ⟨rfl, _, hm', TaskState.settle_eq_completed.2 (complete a l.replacementsDecide ha)⟩
      exact finished.leads (n + 1)

/-- Whoever has no attorney to add has several to agree on something, or one, with whom the section is completed. -/
theorem leads_of_attorneys (settled : Settled l) (detailed : Detailed l) (h : m.find? session = some l)
    (present : l.attorneys.isEmpty = false) (addressed : ∀ a ∈ l.attorneys.members, a.address.isGiven = true) :
    Leads session .primary 1 (afterSummary .attorneys .no l).page m := by
  unfold afterSummary
  dsimp only [Destination.of]
  split
  · refine leads_attorneysDecide h (fun mode hmode => ?_) 0
    have harranged : Detailed (l.arrange (some mode)) := detailed.congr rfl rfl
    rw [Lpa.attorneysComplete_of_detailed harranged present addressed]
    simp [Lpa.isArranged, Lpa.arrange, hmode]
  · rename_i hsize
    have hone : l.attorneys.size = 1 := by
      have := Roster.isEmpty_eq_false_iff.1 present
      omega
    have complete : l.attorneysComplete = true := by
      rw [Lpa.attorneysComplete_of_detailed detailed present addressed, hone]
      rfl
    have finished : Finished session .primary .wantReplacements m := ⟨rfl, l, h, settled.attorneys.2 complete⟩
    exact finished.leads 1

/-- Whoever has no replacement to add is asked how they step in, or else how several of them decide, or else has the
    section completed. -/
theorem leads_of_replacements (settled : Settled l) (detailed : Detailed l) (h : m.find? session = some l)
    (present : l.attorneys.isEmpty = false)
    (agreed : (l.attorneys.size == 1 || Lpa.isArranged l.attorneysDecide) = true)
    (wanted : l.wantReplacements = some .yes) (replaced : l.replacements.isEmpty = false)
    (addressed : ∀ a ∈ l.replacements.members, a.address.isGiven = true)
    (stepIn : l.replacementsStepIn.isSome = true → l.asksStepIn = true) :
    Leads session .replacement 2 (afterSummary .replacements .no l).page m := by
  unfold afterSummary
  dsimp only [Destination.of]
  split
  · rename_i asks
    refine leads_stepIn h (fun a mode ha => ?_) 0
    have hdetailed : Detailed { l with replacementsStepIn := some a, replacementsDecide := mode } :=
      detailed.congr rfl rfl
    rw [Lpa.replacementsComplete_of_detailed hdetailed wanted addressed]
    exact Lpa.wantedReplacementsComplete_of_asked replaced asks rfl ha
  · rename_i asks
    -- whoever is not asked has not answered either, and so has only to say how several decide
    have unanswered : l.replacementsStepIn = none := by
      rw [← Option.not_isSome_iff_eq_none]
      exact mt stepIn asks
    rw [Bool.not_eq_true] at asks
    split
    · refine leads_replacementsDecide h (fun mode hmode => ?_) 1
      have hdetailed : Detailed { l with replacementsDecide := some mode } := detailed.congr rfl rfl
      rw [Lpa.replacementsComplete_of_detailed hdetailed wanted addressed]
      refine Lpa.wantedReplacementsComplete_of_not_asked replaced asks unanswered present agreed ?_
      simp [Lpa.isArranged, hmode]
    · rename_i hsize
      have hone : l.replacements.size = 1 := by
        have := Roster.isEmpty_eq_false_iff.1 replaced
        omega
      have complete : l.replacementsComplete = true := by
        rw [Lpa.replacementsComplete_of_detailed detailed wanted addressed]
        refine Lpa.wantedReplacementsComplete_of_not_asked replaced asks unanswered present agreed ?_
        rw [hone]
        rfl
      have finished : Finished session .replacement .taskList m := ⟨rfl, l, h, settled.replacements.2 complete⟩
      exact finished.leads 2

/-- Whoever answers that nobody shall be added is sent on, and nothing is stored. -/
theorem Call.run_of_nobodyElse {c : Call} (h : m.find? c.session = some l) (ho : c.Opens m) {f : YesNoForm}
    (hop : c.operation = .submit (.attorneySummary role f)) (no : f.answer? = some .no) :
    (c.run m).1.result = .ok (.redirect (afterSummary role.collection .no l)) ∧ (c.run m).2 = m := by
  refine run_of_answer h ho ?_
  rw [hop]
  simp only [Operation.decide, Submission.decide, answerAttorneySummary, no]
  rfl

end

/-- The wizard asks all that an LPA needs whose attorneys, and replacements if they are wanted, have their details.
    Whoever has no attorney to add is led to the question about replacements, past the one how the attorneys decide or
    without it; whoever has no replacement to add is led to the task list past at most two questions. Whatever valid
    answers are given there, the section is completed then. -/
theorem reachable_summary_leads {m : Memory} (hr : Reachable m) {session : String} {l : Lpa}
    (h : m.find? session = some l) (present : l.attorneys.isEmpty = false)
    (addressed : ∀ a ∈ l.attorneys.members, a.address.isGiven = true) :
    (∀ (c : Call) (f : YesNoForm), c.session = session → c.Opens m →
      c.operation = .submit (.attorneySummary .primary f) → f.answer? = some .no →
      ∃ page, (c.run m).1.result = .ok (.redirect (.of page)) ∧ Leads session .primary 1 page (c.run m).2) ∧
    (l.tasks.get .chooseAttorneys = .completed → l.wantReplacements = some .yes → l.replacements.isEmpty = false →
      (∀ a ∈ l.replacements.members, a.address.isGiven = true) →
      (l.replacementsStepIn.isSome = true → l.asksStepIn = true) →
      ∀ (c : Call) (f : YesNoForm), c.session = session → c.Opens m →
        c.operation = .submit (.attorneySummary .replacement f) → f.answer? = some .no →
        ∃ page, (c.run m).1.result = .ok (.redirect (.of page)) ∧ Leads session .replacement 2 page (c.run m).2) := by
  have settled := Settled.of_reached hr h
  have detailed := Detailed.of_reached hr h
  refine ⟨fun c f hsession ho hop no => ?_, fun completed wanted replaced given stepIn c f hsession ho hop no => ?_⟩
  · subst hsession
    obtain ⟨hresult, hm⟩ := Call.run_of_nobodyElse h ho hop no
    rw [hm]
    exact ⟨_, hresult, leads_of_attorneys settled detailed h present addressed⟩
  · subst hsession
    obtain ⟨hresult, hm⟩ := Call.run_of_nobodyElse h ho hop no
    have agreed := settled.attorneys.1 completed
    rw [Lpa.attorneysComplete_of_detailed detailed present addressed] at agreed
    rw [hm]
    exact ⟨_, hresult, leads_of_replacements settled detailed h present agreed wanted replaced given stepIn⟩

/-- Two attorneys who act jointly and severally and a replacement, all with their details: each list is left for what is
    still to be asked. -/
theorem reachable_summary_leads_of_two :
    let forms := [.details .primary "Ann", .details .primary "Bob", .writtenAddress .attorneys 1,
      .writtenAddress .attorneys 2, .decisions .primary { decisionType := "jointly-and-severally" },
      .wantReplacements { yesNo := "yes" }, .details .replacement "Cid", .writtenAddress .replacements 1]
    let m := sequential (forms.map (Submission.call · "session"))
    let nobody := fun role => Submission.call (.attorneySummary role { yesNo := "no" }) "session"
    (∃ page, ((nobody .primary).run m).1.result = .ok (.redirect (.of page)) ∧
      Leads "session" .primary 1 page ((nobody .primary).run m).2) ∧
    ∃ page, ((nobody .replacement).run m).1.result = .ok (.redirect (.of page)) ∧
      Leads "session" .replacement 2 page ((nobody .replacement).run m).2 := by
  intro forms m nobody
  have hfound : (m.find? "session").any (fun l => !l.attorneys.isEmpty && !l.replacements.isEmpty &&
      l.attorneys.members.all (·.address.isGiven) && l.replacements.members.all (·.address.isGiven) &&
      l.tasks.get .chooseAttorneys == .completed && l.wantReplacements == some .yes && l.asksStepIn) = true := by
    decide +kernel
  obtain ⟨l, hl, hfound⟩ := (Option.any_eq_true _ _).1 hfound
  simp only [Bool.and_eq_true, Bool.not_eq_true', List.all_eq_true, beq_iff_eq] at hfound
  obtain ⟨⟨⟨⟨⟨⟨present, replaced⟩, addressed⟩, given⟩, completed⟩, wanted⟩, asks⟩ := hfound
  have leads := reachable_summary_leads (reachable_sequential _) hl present addressed
  have opens := fun role => Submission.opens_call (.attorneySummary role { yesNo := "no" }) "session" m
  exact ⟨leads.1 (nobody .primary) _ rfl (opens .primary) rfl rfl,
    leads.2 completed wanted replaced given (fun _ => asks) (nobody .replacement) _ rfl (opens .replacement) rfl rfl⟩

end Wizard

end PowerOfAttorney
