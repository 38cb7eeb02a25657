import Mathlib.Data.List.Forall2
import PowerOfAttorney.Postcode.Endpoint
import PowerOfAttorney.Proofs.JsonText
import PowerOfAttorney.Proofs.QueryText

/-! What is asked for a postcode, and what becomes of the reply. Each record of a reply gives one address, which shows
    every part that the record has, in one order for both layouts (`DeliveryPoint.display_address`). Blanks in a postcode
    do not matter: two postcodes are asked for alike exactly when they differ in nothing else (`request_eq_iff`). -/

namespace PowerOfAttorney.Postcode

open Text Json Web

/-! ### Records of a reply -/

section
variable {members : List (String × Json)} {name value : String} {d : DeliveryPoint} {ds : List DeliveryPoint}

/-- What the members of an object say of a part of an address: its text, or nothing, which leaves it empty. -/
inductive Says (members : List (String × Json)) (name : String) : String → Prop
  | given {value : String} : valuesOf name members = [.text value] → Says members name value
  | missing : valuesOf name members = [] → Says members name ""

/-- What the members of an object say of a delivery point. Other names among them do not matter. -/
structure Describes (members : List (String × Json)) (d : DeliveryPoint) : Prop where
  buildingName : Says members "BUILDING_NAME" d.buildingName
  buildingNumber : Says members "BUILDING_NUMBER" d.buildingNumber
  thoroughfare : Says members "THOROUGHFARE_NAME" d.thoroughfare
  dependentLocality : Says members "DEPENDENT_LOCALITY" d.dependentLocality
  postTown : Says members "POST_TOWN" d.postTown
  postcode : Says members "POSTCODE" d.postcode

/-- A result is an object that holds the record of a delivery point. -/
inductive IsResult : Json → DeliveryPoint → Prop
  | record {members inner : List (String × Json)} {d : DeliveryPoint} :
    valuesOf "DPA" members = [.object inner] → Describes inner d → IsResult (.object members) d

/-- A reply lists its results in order, or leaves them out. -/
inductive Lists (members : List (String × Json)) : List DeliveryPoint → Prop
  | given {items : List Json} {ds : List DeliveryPoint} :
    valuesOf "results" members = [.array items] → List.Forall₂ IsResult items ds → Lists members ds
  | missing : valuesOf "results" members = [] → Lists members []

theorem Says.length_le (h : Says members name value) : (valuesOf name members).length ≤ 1 := by
  cases h with
  | given h => exact Nat.le_of_eq (congrArg List.length h)
  | missing h => exact Nat.le_succ_of_le (Nat.le_of_eq (congrArg List.length h))

theorem Says.defaulted (h : Says members name value) :
    (Record.mk members).defaulted name "" text? = some value := by
  unfold Record.defaulted Record.get?
  cases h with
  | given h => simp only [h, List.head?_cons, text?]
  | missing h => simp only [h, List.head?_nil]

theorem DeliveryPoint.ofJson?_of_describes (h : Describes members d) : ofJson? (.object members) = some d := by
  have once : unrepeated names members = true := by
    simp only [unrepeated, names, List.all_cons, List.all_nil, Bool.and_true, Bool.and_eq_true, decide_eq_true_iff]
    exact ⟨h.buildingName.length_le, h.buildingNumber.length_le, h.thoroughfare.length_le,
      h.dependentLocality.length_le, h.postTown.length_le, h.postcode.length_le⟩
  rw [ofJson?, partialRecord?, if_pos once]
  simp [h.buildingName.defaulted, h.buildingNumber.defaulted, h.thoroughfare.defaulted, h.dependentLocality.defaulted,
    h.postTown.defaulted, h.postcode.defaulted]

theorem result?_of_isResult {j : Json} (h : IsResult j d) : result? j = some d := by
  cases h with
  | @record members inner _ found described =>
    have once : unrepeated ["DPA"] members = true := by simp [unrepeated, found]
    simp [result?, record?, once, Record.required, Record.get?, found, DeliveryPoint.ofJson?_of_describes described]

theorem results?_of_lists (h : Lists members ds) : results? (.object members) = some ds := by
  have mapM_result? {items : List Json} {ds : List DeliveryPoint} (h : List.Forall₂ IsResult items ds) :
      items.mapM result? = some ds := by
    induction h with
    | nil => rfl
    | cons first _ ih => simp [result?_of_isResult first, ih]
  cases h with
  | given found each =>
    have once : unrepeated ["results"] members = true := by simp [unrepeated, found]
    simp [results?, partialRecord?, once, Record.defaulted, Record.get?, found, list?, mapM_result? each]
  | missing none =>
    have once : unrepeated ["results"] members = true := by simp [unrepeated, none]
    simp [results?, partialRecord?, once, Record.defaulted, Record.get?, none]

/-- A reply that succeeds gives one address for each record, in order. -/
theorem Answer.addresses_of_lists {a : Answer} (least : 200 ≤ a.status) (most : a.status < 300)
    (read : parse? a.body = some (.object members)) (listed : Lists members ds) :
    a.addresses = .ok (ds.map DeliveryPoint.address) := by
  rw [addresses, if_pos ⟨least, most⟩, read, Option.bind_some, results?_of_lists listed]

end

/-! ### Parts of an address -/

/-- Both layouts have the same lines in the same order, up to empty ones. -/
theorem DeliveryPoint.filter_lines_address (d : DeliveryPoint) :
    [d.address.line1, d.address.line2, d.address.line3].filter (fun p => p != "") =
      [d.buildingName, d.street, d.dependentLocality].filter fun p => p != "" := by
  unfold address
  by_cases unnamed : d.buildingName = ""
  · simp [unnamed, List.filter_cons]
  · simp [unnamed]

theorem DeliveryPoint.townOrCity_address (d : DeliveryPoint) : d.address.townOrCity = d.postTown := by
  unfold address
  split <;> rfl

theorem DeliveryPoint.postcode_address (d : DeliveryPoint) : d.address.postcode = d.postcode := by
  unfold address
  split <;> rfl

/-- On one line stands what the record has, in one order. -/
theorem DeliveryPoint.display_address (d : DeliveryPoint) :
    d.address.display = ", ".intercalate
      ([d.buildingName, d.street, d.dependentLocality, d.postTown, d.postcode].filter fun p => p != "") := by
  have lines : d.address.parts = [d.address.line1, d.address.line2, d.address.line3] ++ [d.postTown, d.postcode] := by
    rw [← townOrCity_address, ← postcode_address]
    rfl
  rw [Address.display, lines, List.filter_append, filter_lines_address, ← List.filter_append]
  rfl

theorem DeliveryPoint.buildingName_of_line3 {d : DeliveryPoint} (h : d.address.line3 ≠ "") : d.buildingName ≠ "" := by
  intro unnamed
  rw [address, if_pos unnamed] at h
  exact h rfl

/-! ### Requests -/

/-- One text is the other with blanks put in and taken out. -/
inductive DifferInBlanks : List Char → List Char → Prop
  | nil : DifferInBlanks [] []
  | same (c : Char) {p q : List Char} : DifferInBlanks p q → DifferInBlanks (c :: p) (c :: q)
  | left {c : Char} {p q : List Char} : isBlank c = true → DifferInBlanks p q → DifferInBlanks (c :: p) q
  | right {c : Char} {p q : List Char} : isBlank c = true → DifferInBlanks p q → DifferInBlanks p (c :: q)

theorem differInBlanks_iff {p q : List Char} :
    DifferInBlanks p q ↔ p.filter (fun c => !isBlank c) = q.filter fun c => !isBlank c := by
  constructor
  · intro h
    induction h with
    | nil => rfl
    | same c _ ih => by_cases hc : isBlank c = true <;> simp [hc, ih]
    | left hc _ ih => simp [hc, ih]
    | right hc _ ih => simp [hc, ih]
  · intro h
    induction p generalizing q with
    | nil =>
      induction q with
      | nil => exact .nil
      | cons c q ih =>
        have hc : isBlank c = true := by simpa using (List.filter_eq_nil_iff.1 h.symm) c List.mem_cons_self
        refine .right hc (ih ?_)
        simpa [hc] using h
    | cons c p ih =>
      by_cases hc : isBlank c = true
      · exact .left hc (ih (by simpa [hc] using h))
      · -- the character stands in the other text too, behind blanks
        induction q with
        | nil => simp [hc] at h
        | cons e q ihq =>
          by_cases he : isBlank e = true
          · exact .right he (ihq (by simpa [he] using h))
          · obtain ⟨rfl, rest⟩ : c = e ∧ p.filter (fun c => !isBlank c) = q.filter fun c => !isBlank c := by
              simpa [hc, he] using h
            exact .same c (ih rest)

/-- The server reads the pairs of the base first, then the postcode without its blanks, then the key. -/
theorem exists_parse_request (base : String) : ∃ (path : String) (own : List (String × String)), ∀ postcode key,
    (request base postcode key).path = path ∧
    Urlencoded.parse (Utf8.encode (request base postcode key).query.toList) =
      own ++ [("postcode", withoutBlanks postcode), ("key", key)] := by
  obtain ⟨path, kept, below⟩ : ∃ path kept, ∀ more, Endpoint.below base more =
      { path, query := if List.isEmpty kept then more else String.ofList kept ++ "&" ++ more } := ⟨_, _, fun _ => rfl⟩
  refine ⟨path, if kept.isEmpty then [] else Urlencoded.parse (Utf8.encode kept), fun postcode key => ?_⟩
  have asked := Urlencoded.parse_encode [("postcode", withoutBlanks postcode), ("key", key)]
  rw [request, below]
  refine ⟨rfl, ?_⟩
  by_cases alone : kept.isEmpty = true
  · rw [if_pos alone, if_pos alone, List.nil_append]
    exact asked
  · have written : (String.ofList kept ++ "&" ++ query postcode key).toList =
        kept ++ '&' :: (query postcode key).toList := by simp
    rw [if_neg alone, if_neg alone, written, Urlencoded.parse_parted]
    exact congrArg _ asked

/-- Two postcodes are asked for alike exactly when they differ in blanks alone. -/
theorem request_eq_iff (base p q key : String) :
    request base p key = request base q key ↔ DifferInBlanks p.toList q.toList := by
  rw [differInBlanks_iff]
  constructor
  · intro same
    obtain ⟨_, own, asks⟩ := exists_parse_request base
    have read : own ++ [("postcode", withoutBlanks p), ("key", key)] =
        own ++ [("postcode", withoutBlanks q), ("key", key)] := by
      rw [← (asks p key).2, ← (asks q key).2, same]
    have kept := List.append_cancel_left read
    simp only [List.cons.injEq, Prod.mk.injEq, and_true, true_and] at kept
    exact String.ofList_inj.1 kept
  · intro same
    have sent : query p key = query q key := by
      rw [query, query, normalized, normalized, withoutBlanks, withoutBlanks, same]
    rw [request, request, sent]

/-! ### A lookup as a whole -/

/-- A reply that succeeds gives one address for each of its records, in order. The lines of an address are those of its
    record, and on one line it shows the name of the building, its number and the street, the locality, the town and the
    postcode, as far as they are there; a third line stands only below the name of a building. The server is asked for
    the postcode without its blanks, and two postcodes give one request exactly when they differ in blanks alone. -/
theorem looked_up_whole :
    (∀ (a : Answer) (members : List (String × Json)) (ds : List DeliveryPoint), 200 ≤ a.status → a.status < 300 →
      parse? a.body = some (.object members) → Lists members ds → a.addresses = .ok (ds.map DeliveryPoint.address)) ∧
    (∀ d : DeliveryPoint,
      let street := " ".intercalate ([d.buildingNumber, d.thoroughfare].filter fun p => p != "")
      [d.address.line1, d.address.line2, d.address.line3].filter (fun p => p != "") =
        [d.buildingName, street, d.dependentLocality].filter (fun p => p != "") ∧
      d.address.townOrCity = d.postTown ∧ d.address.postcode = d.postcode ∧
      d.address.display = ", ".intercalate
        ([d.buildingName, street, d.dependentLocality, d.postTown, d.postcode].filter fun p => p != "") ∧
      (d.address.line3 ≠ "" → d.buildingName ≠ "")) ∧
    (∀ base, ∃ (path : String) (own : List (String × String)), ∀ postcode key,
      (request base postcode key).path = path ∧
      Urlencoded.parse (Utf8.encode (request base postcode key).query.toList) =
        own ++ [("postcode", String.ofList (postcode.toList.filter fun c => !isBlank c)), ("key", key)]) ∧
    ∀ base p q key, request base p key = request base q key ↔ DifferInBlanks p.toList q.toList := by
  refine ⟨fun a members ds least most read listed => Answer.addresses_of_lists least most read listed, fun d => ?_,
    exists_parse_request, request_eq_iff⟩
  exact ⟨d.filter_lines_address, d.townOrCity_address, d.postcode_address, d.display_address,
    DeliveryPoint.buildingName_of_line3⟩

/-- A reply with a house that has a name and one that has a number only. -/
theorem looked_up_whole_of_houses :
    let first : Json := .object [("DPA", .object [("BUILDING_NAME", .text "87A"), ("POST_TOWN", .text "BIRMINGHAM"),
      ("DEPENDENT_LOCALITY", .text "KINGS HEATH")])]
    let second : Json := .object [("DPA", .object [("BUILDING_NUMBER", .text "123")])]
    let reply : Json := .object [("header", .null), ("results", .array [first, second])]
    let a : Answer := { status := 200, body := reply.render }
    let named : DeliveryPoint := { buildingName := "87A", dependentLocality := "KINGS HEATH", postTown := "BIRMINGHAM" }
    let numbered : DeliveryPoint := { buildingNumber := "123" }
    a.addresses = .ok [named.address, numbered.address] ∧
    named.address.display = "87A, KINGS HEATH, BIRMINGHAM" ∧ named.address.line3 ≠ "" ∧ named.buildingName ≠ "" ∧
    request "/search?format=json" " B14 7ET " "key" = request "/search?format=json" "B147ET" "key" := by
  intro first second reply a named numbered
  obtain ⟨found, shown, -, asked⟩ := looked_up_whole
  obtain ⟨-, -, -, line, beneath⟩ := shown named
  have house : IsResult first named :=
    .record rfl ⟨.given rfl, .missing rfl, .missing rfl, .given rfl, .given rfl, .missing rfl⟩
  have other : IsResult second numbered :=
    .record rfl ⟨.missing rfl, .given rfl, .missing rfl, .missing rfl, .missing rfl, .missing rfl⟩
  have plain : reply.Plain := by simp [reply, first, second, Plain.null]
  have third : named.address.line3 ≠ "" := by decide
  refine ⟨found a _ [named, numbered] (by decide) (by decide) (parse?_render plain)
    (.given rfl (.cons house (.cons other .nil))), line.trans (by decide), third, beneath third, ?_⟩
  refine (asked _ _ _ _).2 (.left (by decide) ?_)
  exact .same _ (.same _ (.same _ (.left (by decide) (.same _ (.same _ (.same _ (.left (by decide) .nil)))))))

end PowerOfAttorney.Postcode
