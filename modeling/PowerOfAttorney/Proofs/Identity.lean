import PowerOfAttorney.Proofs.FormRules
import PowerOfAttorney.Proofs.Refusals

/-! Whose identity stands behind a signature. An identity is confirmed against the names that the donor has when the
    service answers, and signing only asks whether it was. So the names on record are those of the donor who signs,
    unless the donor was given other names while that record was there (`Call.Renames`), which does not take the record
    away. -/

namespace PowerOfAttorney

open Form Wizard

/-- Whether the names on record are those of the donor. -/
def IdentityRecord.Names (i : IdentityRecord) (d : Donor) : Prop :=
  i.firstNames = d.firstNames ∧ i.lastName = d.lastName

/-- An LPA whose donor has both names or no first names, and whose record, if it confirms anybody, has both names. -/
structure Named (l : Lpa) : Prop where
  donor : l.donor.firstNames ≠ "" → l.donor.lastName ≠ ""
  identity : ∀ i ∈ l.identity, i.ok = true → i.firstNames ≠ "" ∧ i.lastName ≠ ""

/-! ### What the operations do to the donor's names and to the record -/

theorem Wizard.vouchesFor_iff {f : IdentityCallback} {d : Donor} :
    vouchesFor f d = true ↔ f.firstNames ≠ "" ∧ f.firstNames = d.firstNames ∧ f.lastName = d.lastName := by
  simp [vouchesFor, and_assoc]

/-- Whether neither the donor's names nor the record of their identity have changed. -/
def Lpa.SameIdentity (l l' : Lpa) : Prop :=
  (l'.donor.firstNames = l.donor.firstNames ∧ l'.donor.lastName = l.donor.lastName) ∧ l'.identity = l.identity

namespace Lpa.SameIdentity

theorem set (t : AddressTarget) (a : Address) (l : Lpa) : l.SameIdentity (t.settle (t.set a l)) := by
  cases t with
  | donor => exact ⟨⟨rfl, rfl⟩, rfl⟩
  | certificateProvider => exact ⟨⟨rfl, rfl⟩, rfl⟩
  | actor c id => cases c <;> exact ⟨⟨rfl, rfl⟩, rfl⟩

theorem withAttorneys (l : Lpa) (role : AttorneyRole) (rest : Roster Attorney) :
    l.SameIdentity (l.withAttorneys role rest) := by
  cases role <;> exact ⟨⟨rfl, rfl⟩, rfl⟩

theorem prune {l l' : Lpa} (h : l.SameIdentity l') : l.SameIdentity l'.prune := by
  rw [Lpa.prune_eq]
  exact h

end Lpa.SameIdentity

namespace Wizard

section
variable {w : Surroundings} {l l' : Lpa} {op : Operation} {r : Reply}

/-- The record is only written by the answer of an identity service, and the donor's names only by the donor's
    details. -/
theorem Stores.identity_inv (h : Stores w l op l' r) :
    (∃ f, l'.donor = l.donor ∧ l'.identity = some
      { ok := vouchesFor f l.donor, firstNames := f.firstNames, lastName := f.lastName, retrievedAt := w.now }) ∨
    (∃ f, op = .submit (.donorDetails f) ∧ l'.identity = l.identity ∧
      ProperNames l'.donor.firstNames l'.donor.lastName) ∨
    l.SameIdentity l' := by
  cases h with
  | identityRecorded => exact .inl ⟨_, rfl, rfl⟩
  | @donorFilledIn f accepted =>
    have proper := DonorDetails.proper_fill (Date.le_refl w.today) (rejection?_eq_none.1 accepted).1 l.donor
    exact .inr (.inl ⟨f, rfl, rfl, proper.names⟩)
  | attorneyEdited => exact .inr (.inr (.withAttorneys l _ _))
  | attorneyAdded => exact .inr (.inr (.withAttorneys l _ _))
  | attorneyRemoved => exact .inr (.inr (Lpa.SameIdentity.withAttorneys l _ _).prune)
  | addressGiven => exact .inr (.inr (.set _ _ l))
  | _ => exact .inr (.inr ⟨⟨rfl, rfl⟩, rfl⟩)

/-- Whoever signs has a record that confirms somebody, and has the same afterwards. -/
theorem Stores.sign_inv {f : SignForm} (h : Stores w l (.submit (.sign f)) l' r) :
    (∃ i, l.identity = some i ∧ i.ok = true) ∧ l.SameIdentity l' := by
  cases h with
  | signed confirmed valid => exact ⟨(Option.any_eq_true _ _).1 confirmed, ⟨rfl, rfl⟩, rfl⟩

end

end Wizard

namespace Named
variable {l l' : Lpa}

theorem empty (id : String) (version : Nat) : Named { Lpa.empty id with version } where
  donor h := absurd rfl h
  identity := nofun

theorem congr (h : Named l) (same : l.SameIdentity l') : Named l' := by
  obtain ⟨⟨hfirst, hlast⟩, hidentity⟩ := same
  constructor
  · rw [hfirst, hlast]
    exact h.donor
  · rw [hidentity]
    exact h.identity

theorem stores {w : Surroundings} {op : Operation} {r : Reply} (h : Named l) (hs : Stores w l op l' r) : Named l' := by
  rcases hs.identity_inv with ⟨f, hdonor, hidentity⟩ | ⟨f, -, hidentity, names⟩ | same
  · constructor
    · rw [hdonor]
      exact h.donor
    · rw [hidentity]
      rintro i ⟨⟩ ok
      obtain ⟨hne, hfirst, hlast⟩ := vouchesFor_iff.1 ok
      refine ⟨hne, ?_⟩
      rw [hfirst] at hne
      rw [hlast]
      exact h.donor hne
  · constructor
    · exact fun _ => names.lastName.ne_empty
    · rw [hidentity]
      exact h.identity
  · exact h.congr same

theorem of_reached {allowed : Call → Lpa → Prop} {m : Memory} (hr : Reached allowed m) {session : String}
    (h : m.find? session = some l) : Named l := by
  refine hr.induct empty (fun c l l' r _ _ hl hs => ?_) h
  exact (hl.stores hs).congr ⟨⟨rfl, rfl⟩, rfl⟩

end Named

/-! ### Whose names are on record -/

namespace Wizard

/-- Whether a call gives the donor other names while a record with the old ones is there, which it leaves there. -/
def Call.Renames (c : Call) (i : IdentityRecord) (m : Memory) : Prop :=
  (∃ f, c.operation = .submit (.donorDetails f)) ∧ ∃ l l', m.find? c.session = some l ∧ l.identity = some i ∧
    i.Names l.donor ∧ (c.run m).2.find? c.session = some l' ∧ l'.identity = some i ∧ ¬i.Names l'.donor

/-- Whether a run has given the donor of a session other names than those on record. -/
def Renamed (calls : List Call) (session : String) (i : IdentityRecord) : Prop :=
  ∃ before c after, calls = before ++ c :: after ∧ c.session = session ∧ c.Renames i (sequential before)

variable {calls : List Call} {session : String} {i : IdentityRecord}

theorem Renamed.append (h : Renamed calls session i) (c : Call) : Renamed (calls ++ [c]) session i := by
  obtain ⟨before, c', after, rfl, hsession, renames⟩ := h
  exact ⟨before, c', after ++ [c], by simp, hsession, renames⟩

/-- An LPA with a record was there before the call that is about it. -/
theorem Call.find?_of_identity {c : Call} {m : Memory} (h : (c.opened m).identity = some i) :
    m.find? c.session = some (c.opened m) := by
  cases hm : m.find? c.session with
  | some l => rw [opened_of_find? hm]
  | none =>
    rw [opened, hm] at h
    cases h

theorem Call.names_or_kept {c : Call} {m : Memory} {l : Lpa} (h : (c.run m).2.find? c.session = some l)
    (recorded : l.identity = some i) (ok : i.ok = true) : i.Names l.donor ∨ (c.opened m).identity = some i := by
  rcases find?_run h with rfl | ⟨l', r, hs, rfl⟩
  · exact .inr recorded
  · rcases hs.identity_inv with ⟨f, hdonor, hidentity⟩ | ⟨f, -, hidentity, -⟩ | ⟨-, hidentity⟩
    · obtain rfl := Option.some.inj (hidentity.symm.trans recorded)
      refine .inl ?_
      rw [hdonor]
      exact (vouchesFor_iff.1 ok).2
    · exact .inr (hidentity.symm.trans recorded)
    · exact .inr (hidentity.symm.trans recorded)

/-- A call that leaves a record of the donor's names there leaves the names, or it renames the donor. -/
theorem Call.names_or_renames {c : Call} {m : Memory} {l l' : Lpa} (found : m.find? c.session = some l)
    (recorded : l.identity = some i) (names : i.Names l.donor) (h : (c.run m).2.find? c.session = some l')
    (kept : l'.identity = some i) : i.Names l'.donor ∨ c.Renames i m := by
  by_cases same : i.Names l'.donor
  · exact .inl same
  · refine .inr ⟨?_, l, l', found, recorded, names, h, kept, same⟩
    rcases find?_run h with hl | ⟨l₁, r, hs, hl⟩
    · rw [hl, opened_of_find? found] at same
      exact absurd names same
    · rw [opened_of_find? found] at hs hl
      rcases hs.identity_inv with ⟨-, hdonor, -⟩ | ⟨f, hop, -, -⟩ | ⟨⟨hfirst, hlast⟩, -⟩
      · rw [hl, hdonor] at same
        exact absurd names same
      · exact ⟨f, hop⟩
      · rw [hl] at same
        exact absurd ⟨names.1.trans hfirst.symm, names.2.trans hlast.symm⟩ same

/-- The names of a record that confirms somebody are the donor's, unless the donor was given other ones. -/
theorem names_or_renamed {l : Lpa} (h : (sequential calls).find? session = some l) (recorded : l.identity = some i)
    (ok : i.ok = true) : i.Names l.donor ∨ Renamed calls session i := by
  induction calls using List.reverseRecOn generalizing l with
  | nil => cases h
  | append_singleton calls c ih =>
    rw [sequential_append] at h
    by_cases hsession : session = c.session
    · subst hsession
      rcases Call.names_or_kept h recorded ok with names | kept
      · exact .inl names
      -- the record is older than the call, so that the run before it has something to say of it
      · have found := Call.find?_of_identity kept
        rcases ih found kept with names | renamed
        · exact (Call.names_or_renames found kept names h recorded).imp_right fun renames =>
            ⟨calls, c, [], rfl, rfl, renames⟩
        · exact .inr (renamed.append c)
    · rw [Call.find?_run_of_ne hsession] at h
      exact (ih h recorded).imp_right fun renamed => renamed.append c

/-- Who signs has an identity on record, with both names, and these are the names of the donor who signs, unless the
    donor was given other ones while that record was there. -/
theorem signed_names (calls : List Call) (c : Call) {f : SignForm} (signs : c.operation = .submit (.sign f))
    (submitted : (c.run (sequential calls)).1.result = .ok (.redirect (.of .submitted))) :
    ∃ l i, (c.run (sequential calls)).2.find? c.session = some l ∧ l.identity = some i ∧
      (i.firstNames ≠ "" ∧ i.lastName ≠ "") ∧ (i.Names l.donor ∨ Renamed calls c.session i) := by
  have taken : ¬(c.operation.IsIdle (c.opened (sequential calls)) ∨ IsRefusal (c.run (sequential calls)).1.result) := by
    rw [submitted, signs]
    exact not_or.2 ⟨id, id⟩
  obtain ⟨-, l', r, hs, -, hafter⟩ := Call.run_of_taken taken
  rw [signs] at hs
  obtain ⟨⟨i, recorded, ok⟩, ⟨hfirst, hlast⟩, hidentity⟩ := hs.sign_inv
  have found := Call.find?_of_identity recorded
  have named := Named.of_reached (reachable_sequential calls) found
  have stored := Memory.find?_insert_self (sequential calls) c.session
    { l' with version := (c.opened (sequential calls)).version + 1 }
  rw [← hafter] at stored
  refine ⟨_, i, stored, hidentity.trans recorded, named.identity i recorded ok, ?_⟩
  refine (names_or_renamed found recorded ok).imp_left fun names => ?_
  exact ⟨names.1.trans hfirst.symm, names.2.trans hlast.symm⟩

/-- A donor signs whose own identity was confirmed. -/
theorem signed_names_of_donor :
    let form := fun s => Submission.call s "session"
    let calls := [form (.donor "Ann" "Smith"), form (.identityCallback { firstNames := "Ann", lastName := "Smith" })]
    let signing := form (.sign { wantToSign := some "1", wantToApply := some "1" })
    (signing.run (sequential calls)).1.result = .ok (.redirect (.of .submitted)) ∧
    ∃ l i, (signing.run (sequential calls)).2.find? "session" = some l ∧ l.identity = some i ∧
      (i.firstNames ≠ "" ∧ i.lastName ≠ "") ∧ (i.Names l.donor ∨ Renamed calls "session" i) := by
  intro form calls signing
  have submitted : (signing.run (sequential calls)).1.result = .ok (.redirect (.of .submitted)) := by decide +kernel
  exact ⟨submitted, signed_names calls signing rfl submitted⟩

/-- A donor signs who has other names than those that were confirmed. -/
theorem signed_after_renaming :
    let form := fun s => Submission.call s "session"
    let calls := [form (.donor "Ann" "Smith"), form (.identityCallback { firstNames := "Ann", lastName := "Smith" }),
      form (.donor "Bob" "Jones")]
    let signing := form (.sign { wantToSign := some "1", wantToApply := some "1" })
    (signing.run (sequential calls)).1.result = .ok (.redirect (.of .submitted)) ∧
    ∃ l i, (signing.run (sequential calls)).2.find? "session" = some l ∧ l.identity = some i ∧ ¬i.Names l.donor := by
  intro form calls signing
  have submitted : (signing.run (sequential calls)).1.result = .ok (.redirect (.of .submitted)) := by decide +kernel
  have hfound : ((signing.run (sequential calls)).2.find? "session").any (fun l => l.identity.any fun i =>
      i.firstNames == "Ann" && l.donor.firstNames == "Bob") = true := by decide +kernel
  obtain ⟨l, hl, hfound⟩ := (Option.any_eq_true _ _).1 hfound
  obtain ⟨i, hi, hfound⟩ := (Option.any_eq_true _ _).1 hfound
  simp only [Bool.and_eq_true, beq_iff_eq] at hfound
  refine ⟨submitted, l, i, hl, hi, fun names => ?_⟩
  rw [IdentityRecord.Names, hfound.1, hfound.2] at names
  exact absurd names.1 (by decide)

end Wizard

end PowerOfAttorney
