import PowerOfAttorney.Proofs.TaskStates

/-! Answers about how attorneys act together go when the arrangement goes that they belong to. Attorneys are only lost
    by a removal, which drops what one of them alone cannot answer, and an arrangement is only lost to another one,
    which drops the answer about stepping in. What is left is who may give such answers in the first place: those whom
    the wizard asks (`Operation.Timely`). -/

namespace PowerOfAttorney

/-- An LPA with answers about acting together only where several act together. -/
structure Arranged (l : Lpa) : Prop where
  attorneys : l.attorneysDecide.isSome = true → 1 < l.attorneys.size
  replacements : l.replacementsDecide.isSome = true → 1 < l.replacements.size
  stepIn : l.replacementsStepIn.isSome = true → l.asksStepIn = true

/-- Whether the wizard leads to the page of the operation: it asks several for an arrangement, and how the replacements
    step in where that matters. -/
def Wizard.Operation.Timely (op : Operation) (l : Lpa) : Prop :=
  match op with
  | .submit (.decisions role _) => 1 < (l.attorneysOf role).size
  | .submit (.stepIn _) => l.asksStepIn = true
  | _ => True

/-- Replacements who are complete have said how they step in, where they are asked. -/
theorem Lpa.stepIn_of_replacementsComplete {l : Lpa} (complete : l.replacementsComplete = true)
    (wanted : l.wantReplacements = some .yes) (asks : l.asksStepIn = true) : l.replacementsStepIn.isSome = true := by
  obtain ⟨hsize, hd⟩ := asksStepIn_iff.1 asks
  have hne : l.attorneys.size ≠ 1 := by omega
  unfold replacementsComplete at complete
  rw [wanted, Bool.and_eq_true] at complete
  have hc := complete.2
  simp only [wantedReplacementsComplete, hne, hd, ↓reduceIte, Bool.if_false_left, Bool.and_eq_true] at hc
  cases hs : l.replacementsStepIn with
  | none => simp [hs] at hc
  | some a => rfl

/-! ### What the operations keep -/

namespace Arranged
open Wizard
variable {l l' : Lpa}

theorem empty (id : String) (version : Nat) : Arranged { Lpa.empty id with version } := by
  constructor <;> simp [Lpa.empty]

/-- A change that loses nobody and gives no answer about acting together. -/
theorem grow (h : Arranged l) (attorneys : l.attorneys.size ≤ l'.attorneys.size)
    (replacements : l.replacements.size ≤ l'.replacements.size)
    (attorneysDecide : l'.attorneysDecide = l.attorneysDecide)
    (replacementsDecide : l'.replacementsDecide = l.replacementsDecide)
    (stepIn : l'.replacementsStepIn = l.replacementsStepIn) : Arranged l' where
  attorneys hd := by
    rw [attorneysDecide] at hd
    exact Nat.lt_of_lt_of_le (h.attorneys hd) attorneys
  replacements hd := by
    rw [replacementsDecide] at hd
    exact Nat.lt_of_lt_of_le (h.replacements hd) replacements
  stepIn hs := by
    rw [stepIn] at hs
    obtain ⟨hsize, hd⟩ := Lpa.asksStepIn_iff.1 (h.stepIn hs)
    exact Lpa.asksStepIn_iff.2 ⟨Nat.lt_of_lt_of_le hsize attorneys, attorneysDecide.trans hd⟩

theorem version (h : Arranged l) (version : Nat) : Arranged { l with version } :=
  h.grow (Nat.le_refl _) (Nat.le_refl _) rfl rfl rfl

theorem settleAttorneys (h : Arranged l) (role : AttorneyRole) : Arranged (l.settleAttorneys role) :=
  h.grow (Nat.le_refl _) (Nat.le_refl _) rfl rfl rfl

theorem settleProvider (h : Arranged l) (provider : CertificateProvider) :
    Arranged (Lpa.settleProvider { l with certificateProvider := provider }) :=
  h.grow (Nat.le_refl _) (Nat.le_refl _) rfl rfl rfl

theorem withAttorneys (h : Arranged l) (role : AttorneyRole) {rest : Roster Attorney}
    (hsize : (l.attorneysOf role).size ≤ rest.size) : Arranged ((l.withAttorneys role rest).settleAttorneys role) := by
  refine settleAttorneys ?_ role
  cases role with
  | primary => exact h.grow hsize (Nat.le_refl _) rfl rfl rfl
  | replacement => exact h.grow (Nat.le_refl _) hsize rfl rfl rfl

/-- Pruning drops what a single attorney or replacement cannot have answered. -/
theorem prune (hstep : l.replacementsStepIn.isSome = true → l.attorneysDecide = some .jointlyAndSeverally) :
    Arranged l.prune where
  attorneys hd := by
    rw [Lpa.prune_attorneysDecide] at hd
    rw [Lpa.prune_attorneys]
    split at hd
    · cases hd
    · exact Nat.lt_of_not_le ‹_›
  replacements hd := by
    rw [Lpa.prune_replacementsDecide] at hd
    rw [Lpa.prune_replacements]
    split at hd
    · cases hd
    · exact Nat.lt_of_not_le ‹_›
  stepIn hs := by
    rw [Lpa.prune_replacementsStepIn] at hs
    rw [Lpa.asksStepIn_iff, Lpa.prune_attorneys, Lpa.prune_attorneysDecide]
    split at hs
    · cases hs
    · rename_i hsize
      rw [if_neg hsize]
      exact ⟨Nat.lt_of_not_le hsize, hstep hs⟩

theorem remove (h : Arranged l) (role : AttorneyRole) (rest : Roster Attorney) :
    Arranged ((l.withAttorneys role rest).prune.settleAttorneys role) := by
  refine (prune fun hs => ?_).settleAttorneys role
  cases role with
  | primary => exact (Lpa.asksStepIn_iff.1 (h.stepIn hs)).2
  | replacement => exact (Lpa.asksStepIn_iff.1 (h.stepIn hs)).2

theorem arrange (h : Arranged l) (hsize : 1 < l.attorneys.size) (mode : DecisionMode) :
    Arranged (l.arrange (some mode)) where
  attorneys _ := hsize
  replacements := h.replacements
  stepIn hs := by
    by_cases hm : some mode = some .jointlyAndSeverally
    · exact Lpa.asksStepIn_iff.2 ⟨hsize, hm⟩
    · simp [Lpa.arrange, hm] at hs

theorem clear (h : Arranged l) : Arranged (Lpa.clearReplacements { l with wantReplacements := some .no }) where
  attorneys := h.attorneys
  replacements hd := by simp [Lpa.clearReplacements] at hd
  stepIn hs := by simp [Lpa.clearReplacements] at hs

theorem giveAddress (h : Arranged l) (t : AddressTarget) (a : Address) : Arranged (t.settle (t.set a l)) := by
  cases t with
  | donor => exact h.grow (Nat.le_refl _) (Nat.le_refl _) rfl rfl rfl
  | certificateProvider => exact h.settleProvider _
  | actor c id =>
    cases c with
    | attorneys => exact h.withAttorneys .primary (Nat.le_of_eq (Roster.size_modify _ _ _).symm)
    | replacements => exact h.withAttorneys .replacement (Nat.le_of_eq (Roster.size_modify _ _ _).symm)
    | peopleToNotify => exact h.grow (Nat.le_refl _) (Nat.le_refl _) rfl rfl rfl

/-- Every operation that stores something, if asked for in time, leaves no answer behind. -/
theorem stores {w : Surroundings} {op : Operation} {r : Reply} (h : Arranged l) (timely : op.Timely l)
    (hs : Stores w l op l' r) : Arranged l' := by
  cases hs with
  | attorneyEdited => exact h.withAttorneys _ (Roster.size_le_put _ _)
  | attorneyAdded => exact h.withAttorneys _ (Roster.size_le_put _ _)
  | attorneyRemoved => exact h.remove _ _
  | attorneysArranged => exact (h.arrange timely _).settleAttorneys _
  | replacementsArranged => exact ⟨h.attorneys, fun _ => timely, h.stepIn⟩
  | replacementsWanted =>
    refine settleAttorneys ?_ _
    exact h.grow (Nat.le_refl _) (Nat.le_refl _) rfl rfl rfl
  | replacementsDeclined => exact h.clear.settleAttorneys _
  | stepInChosen => exact ⟨h.attorneys, h.replacements, fun _ => timely⟩
  | providerFilledIn => exact h.settleProvider _
  | addressGiven => exact h.giveAddress _ _
  | _ => exact h.grow (Nat.le_refl _) (Nat.le_refl _) rfl rfl rfl

/-- A single replacement without attorneys has not agreed with anybody, and so is not complete. -/
theorem replacementsComplete_of_alone (h : Arranged l) (nobody : l.attorneys.isEmpty = true)
    (alone : l.replacements.size = 1) : l.replacementsComplete = false := by
  have hsize : l.attorneys.size = 0 := List.length_eq_zero_iff.2 (List.isEmpty_iff.1 nobody)
  have hdecide : l.attorneysDecide = none := by
    rw [← Option.not_isSome_iff_eq_none]
    intro hd
    have := h.attorneys hd
    omega
  have hempty : l.replacements.isEmpty = false := Roster.isEmpty_eq_false_iff.2 (by omega)
  unfold Lpa.replacementsComplete
  cases l.wantReplacements with
  | none => exact Bool.and_false _
  | some answer =>
    cases answer with
    | yes => simp [Lpa.wantedReplacementsComplete, hempty, hsize, hdecide, alone]
    | no => simp [hempty]

theorem of_reached {m : Memory} {session : String}
    (hr : Reached (fun c l => c.session = session → c.operation.Timely l) m) (h : m.find? session = some l) :
    Arranged l := by
  refine hr.induct empty (fun c l l' r hsession htimely hl hs => ?_) h
  exact (hl.stores (htimely hsession) hs).version _

end Arranged

namespace Wizard

/-- Where an LPA is only asked for what the wizard leads to, no answer outlives its arrangement: the replacements that
    are complete have said how they step in exactly if it matters, and a single one without attorneys is not
    complete. -/
theorem timely_arrangements {m : Memory} {session : String}
    (hr : Reached (fun c l => c.session = session → c.operation.Timely l) m) {l : Lpa}
    (h : m.find? session = some l) :
    (l.attorneysDecide.isSome = true → 1 < l.attorneys.size) ∧
    (l.replacementsDecide.isSome = true → 1 < l.replacements.size) ∧
    (l.replacementsStepIn.isSome = true → l.asksStepIn = true) ∧
    (l.replacementsComplete = true → l.wantReplacements = some .yes →
      (l.replacementsStepIn.isSome = true ↔ l.asksStepIn = true)) ∧
    (l.attorneys.isEmpty = true → l.replacements.size = 1 →
      l.replacementsComplete = false ∧ l.tasks.get .chooseReplacements ≠ .completed) := by
  have arranged := Arranged.of_reached hr h
  refine ⟨arranged.attorneys, arranged.replacements, arranged.stepIn, fun hc hw => ⟨arranged.stepIn, ?_⟩, ?_⟩
  · exact Lpa.stepIn_of_replacementsComplete hc hw
  · intro hnone hone
    have hc := arranged.replacementsComplete_of_alone hnone hone
    refine ⟨hc, fun hcompleted => ?_⟩
    rw [(Settled.of_reached hr h).replacements, hc] at hcompleted
    cases hcompleted

/-- Where two attorneys act jointly and severally, a replacement with all details has said how it steps in. -/
theorem timely_arrangements_of_replacement :
    let form := fun s => Submission.call s "session"
    let attorneys := ((form (.details .primary "Bob")).run ((form (.details .primary "Ann")).run {}).2).2
    let several := form (.decisions .primary { decisionType := "jointly-and-severally" })
    let asked := (several.run attorneys).2
    let steps := form (.stepIn { whenToStepIn := "one" })
    let wanted := ((form (.wantReplacements { yesNo := "yes" })).run (steps.run asked).2).2
    let m := ((form (.writtenAddress .replacements 1)).run ((form (.details .replacement "Cid")).run wanted).2).2
    ∃ l, m.find? "session" = some l ∧ l.replacementsComplete = true ∧ 1 < l.attorneys.size ∧
      l.replacementsStepIn.isSome = true := by
  intro form attorneys several asked steps wanted m
  have hattorneys : Reached (fun c l => c.session = "session" → c.operation.Timely l) attorneys :=
    .call (form (.details .primary "Bob")) (.call (form (.details .primary "Ann")) .empty fun _ => trivial)
      fun _ => trivial
  have two : 1 < (several.opened attorneys).attorneys.size := by decide +kernel
  have hasked := Reached.call several hattorneys fun _ => two
  have asks : (steps.opened asked).asksStepIn = true := by decide +kernel
  have hsteps := Reached.call steps hasked fun _ => asks
  have hwanted := Reached.call (form (.wantReplacements { yesNo := "yes" })) hsteps fun _ => trivial
  have hdetails := Reached.call (form (.details .replacement "Cid")) hwanted fun _ => trivial
  have haddress := Reached.call (form (.writtenAddress .replacements 1)) hdetails fun _ => trivial
  have hfound : (m.find? "session").any (fun l => l.replacementsComplete && l.wantReplacements == some .yes &&
      l.attorneysDecide.isSome && l.asksStepIn) = true := by decide +kernel
  obtain ⟨l, hl, hfound⟩ := (Option.any_eq_true _ _).1 hfound
  simp only [Bool.and_eq_true, beq_iff_eq] at hfound
  obtain ⟨⟨⟨complete, wanted⟩, decided⟩, asked⟩ := hfound
  have answers := timely_arrangements haddress hl
  exact ⟨l, hl, complete, answers.1 decided, (answers.2.2.2.1 complete wanted).2 asked⟩

end Wizard

end PowerOfAttorney
