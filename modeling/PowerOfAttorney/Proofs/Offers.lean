import PowerOfAttorney.Postcode
import PowerOfAttorney.Proofs.Addresses

/-! The addresses that are offered for a postcode, and what becomes of one that is chosen. It has a first line only if
    its delivery point has a building or a street (`DeliveryPoint.isGiven_address`), and it is stored as it was offered:
    the rules for an address written by hand are not asked of it. But no section counts an address without a first line
    as given, so the section of whoever has one is in progress (`AddressTarget.inProgress_of_not_given`). -/

namespace PowerOfAttorney

open Form Wizard Json

/-! ### Delivery points and their addresses -/

namespace Postcode

theorem DeliveryPoint.street_ne_empty_iff {d : DeliveryPoint} :
    d.street ≠ "" ↔ d.buildingNumber ≠ "" ∨ d.thoroughfare ≠ "" := by
  unfold street
  by_cases hnumber : d.buildingNumber = "" <;> by_cases hstreet : d.thoroughfare = "" <;> simp [hnumber, hstreet]

/-- A first line comes from the building or the street. -/
theorem DeliveryPoint.isGiven_address {d : DeliveryPoint} :
    d.address.isGiven = true ↔ d.buildingName ≠ "" ∨ d.buildingNumber ≠ "" ∨ d.thoroughfare ≠ "" := by
  rw [← street_ne_empty_iff, Address.isGiven, bne_iff_ne, address]
  by_cases hname : d.buildingName = "" <;> simp [hname]

/-- Addresses are those of the delivery points of an answer that can be read. -/
theorem Answer.exists_of_addresses {answer : Answer} {offered : List Address} (h : answer.addresses = .ok offered) :
    ∃ ds, (parse? answer.body).bind results? = some ds ∧ offered = ds.map DeliveryPoint.address := by
  unfold addresses at h
  split at h
  · split at h
    · rename_i ds hds
      cases h
      exact ⟨ds, hds, rfl⟩
    · cases h
  · split at h <;> cases h

end Postcode

/-! ### An address without a first line -/

namespace Wizard
variable {t : AddressTarget} {l : Lpa} {a : Address}

/-- A section with a rule is in progress after a write that leaves it without the address it asks for. -/
theorem AddressTarget.inProgress_of_not_given (haddress : t.address? l = some a) (h : a.isGiven = false) {s : Section}
    (hs : t.task? = some s) : (t.settle l).tasks.get s = .inProgress := by
  have not_given := Bool.eq_false_iff.1 h
  cases t with
  | donor => cases hs
  | certificateProvider =>
    obtain rfl := Option.some.inj hs
    obtain rfl := Option.some.inj haddress
    have incomplete := Bool.eq_false_iff.2 fun hc => not_given (Lpa.given_of_providerComplete hc)
    exact congrArg TaskState.settle incomplete
  | actor c id =>
    obtain rfl := Option.some.inj hs
    cases c with
    | attorneys =>
      obtain ⟨x, hx, rfl⟩ := Option.map_eq_some_iff.1 haddress
      have incomplete := Bool.eq_false_iff.2 fun hc =>
        not_given (Lpa.given_of_attorneysComplete hc x (Roster.mem_of_get? hx))
      exact congrArg TaskState.settle incomplete
    | replacements =>
      obtain ⟨x, hx, rfl⟩ := Option.map_eq_some_iff.1 haddress
      have incomplete := Bool.eq_false_iff.2 fun hc =>
        not_given (Lpa.given_of_replacementsComplete hc x (Roster.mem_of_get? hx))
      exact congrArg TaskState.settle incomplete
    | peopleToNotify =>
      obtain ⟨x, hx, rfl⟩ := Option.map_eq_some_iff.1 haddress
      have incomplete := Bool.eq_false_iff.2 fun hc =>
        not_given (Lpa.given_of_peopleComplete hc x (Roster.mem_of_get? hx))
      exact congrArg TaskState.settle incomplete

/-! ### Choosing what was offered -/

/-- Whatever the service has answered, and whoever the address is for, an address that was offered and is sent back is
    taken without another question and stored as it is. It has a first line exactly if its delivery point has a building
    or a street, and without one the section of the target is in progress. -/
theorem Call.run_offered {answer : Postcode.Answer} {offered : List Address} (replied : answer.addresses = .ok offered)
    (among : a ∈ offered) {c : Call} {m : Memory} {f : AddressForm} (asked : c.operation = .submit (.address t f))
    (chooses : f.action = "select") (sent : f.selected = a.toJson.render) (hl : m.find? c.session = some l)
    (ho : c.Opens m) (there : ∀ col id, t = .actor col id → id ∈ l.ids col) :
    (c.run m).1.result = .ok (.redirect (t.next f.source)) ∧ (c.run m).1.lookedUp = [] ∧
    ∃ l', (c.run m).2.find? c.session = some l' ∧ t.address? l' = some a ∧
      (a.isGiven = false → ∀ s ∈ t.task?, l'.tasks.get s = .inProgress) ∧
      ∃ ds, (parse? answer.body).bind Postcode.results? = some ds ∧ ∃ d ∈ ds, a = d.address ∧
        (a.isGiven = true ↔ d.buildingName ≠ "" ∨ d.buildingNumber ≠ "" ∨ d.thoroughfare ≠ "") := by
  obtain ⟨ds, hds, rfl⟩ := Postcode.Answer.exists_of_addresses replied
  obtain ⟨d, hd, rfl⟩ := List.mem_map.1 among
  have present := AddressTarget.missing?_eq_none_iff.2 there
  have supplies : f.Supplies d.address := .inl ⟨chooses, AddressForm.chosen?_of_render sent⟩
  obtain ⟨hresult, hasked, hafter⟩ := run_of_suppliesAddress asked hl ho present supplies
  have hfind : (c.run m).2.find? c.session =
      some { t.settle (t.set d.address l) with version := l.version + 1 } := by
    rw [hafter]
    exact Memory.find?_insert_self _ _ _
  have haddress := AddressTarget.address?_set there d.address
  refine ⟨hresult, hasked, _, hfind, (t.address?_settle t _ _).trans haddress, ?_, ds, hds, d, hd, rfl,
    Postcode.DeliveryPoint.isGiven_address⟩
  exact fun hline s hs => AddressTarget.inProgress_of_not_given haddress hline hs

/-- An attorney gets the address of a house, as it was offered. -/
theorem Call.run_offered_of_house :
    let answer : Postcode.Answer := {
      status := 200
      body := "\x7b\"results\":[\x7b\"DPA\":\x7b\"BUILDING_NUMBER\":\"1\",\"THOROUGHFARE_NAME\":\"ROAD\"\x7d\x7d]\x7d" }
    let house : Address := { line1 := "1 ROAD" }
    let chooses : AddressForm := { action := "select", selected := house.toJson.render }
    let t : AddressTarget := .actor .attorneys "00000001"
    let m := sequential [Submission.call (.details .primary "Ann") "session"]
    let c := Submission.call (.address t chooses) "session"
    answer.addresses = .ok [house] ∧
    (c.run m).1.result = .ok (.redirect (.of Collection.attorneys.summaryPage)) ∧
    ∃ l', (c.run m).2.find? "session" = some l' ∧ t.address? l' = some house := by
  intro answer house chooses t m c
  have replied : answer.addresses = .ok [house] := by decide +kernel
  have hids : (m.find? "session").map (·.attorneys.ids) = some ["00000001"] := by decide +kernel
  obtain ⟨l, hl, hids⟩ := Option.map_eq_some_iff.1 hids
  have there : ∀ col id, t = .actor col id → id ∈ l.ids col := by
    intro col id ht
    obtain ⟨rfl, rfl⟩ : .attorneys = col ∧ "00000001" = id := by simpa [t] using ht
    rw [Lpa.ids, hids]
    exact List.mem_singleton_self _
  obtain ⟨hresult, -, l', hl', haddress, -⟩ := Call.run_offered replied (List.mem_singleton_self house) (c := c) rfl rfl
    rfl hl (Submission.opens_call _ _ m) there
  exact ⟨replied, hresult, l', hl', haddress⟩

/-- An attorney who has names, and nobody to decide with, gets the address of a place without building and street, as it
    was offered. The section stays in progress, for want of a first line. -/
theorem Call.run_offered_of_place :
    let answer : Postcode.Answer := {
      status := 200
      body := "\x7b\"results\":[\x7b\"DPA\":\x7b\"DEPENDENT_LOCALITY\":\"KINGS HEATH\"," ++
        "\"POST_TOWN\":\"BIRMINGHAM\",\"POSTCODE\":\"B14 7ET\"\x7d\x7d]\x7d" }
    let place : Address := { line2 := "KINGS HEATH", townOrCity := "BIRMINGHAM", postcode := "B14 7ET" }
    let chooses : AddressForm := { action := "select", selected := place.toJson.render }
    let t : AddressTarget := .actor .attorneys "00000001"
    let m := sequential [Submission.call (.details .primary "Ann") "session"]
    let c := Submission.call (.address t chooses) "session"
    answer.addresses = .ok [place] ∧
    (c.run m).1.result = .ok (.redirect (.of Collection.attorneys.summaryPage)) ∧
    ∃ l', (c.run m).2.find? "session" = some l' ∧ t.address? l' = some place ∧ place.line1 = "" ∧
      l'.attorneys.members.map Attorney.isNamed = [true] ∧ l'.tasks.get .chooseAttorneys = .inProgress := by
  intro answer place chooses t m c
  have replied : answer.addresses = .ok [place] := by decide +kernel
  have hresult : (c.run m).1.result = .ok (.redirect (.of Collection.attorneys.summaryPage)) := by decide +kernel
  have hstored : ((c.run m).2.find? "session").map (fun l' => (t.address? l', l'.attorneys.members.map Attorney.isNamed,
      l'.tasks.get .chooseAttorneys)) = some (some place, [true], .inProgress) := by decide +kernel
  obtain ⟨l', hl', hstored⟩ := Option.map_eq_some_iff.1 hstored
  simp only [Prod.mk.injEq] at hstored
  obtain ⟨haddress, hnamed, htask⟩ := hstored
  exact ⟨replied, hresult, l', hl', haddress, rfl, hnamed, htask⟩

end Wizard

end PowerOfAttorney
