import Mathlib.Data.List.TakeWhile
import PowerOfAttorney.Proofs.QueryText
import PowerOfAttorney.Routing
import PowerOfAttorney.Web.Server

/-! Where the address of a destination leads. It is put together by hand, without triples for any sign, and it is read by
    what knows nothing of destinations: as a path and a query, the path as a page and the query as names and values. Since
    ids are drawn from small letters and digits, nothing in them ends a part (`IsDrawn`), and what is read is what was
    written (`Destination.url_leads_back`). -/

namespace PowerOfAttorney

open Text Web

/-- An id of the kind that is drawn: at least one character, each a small letter or a digit. -/
structure IsDrawn (s : String) : Prop where
  given : s ≠ ""
  plain : ∀ c ∈ s.toList, isLowerAlphanumeric c = true

/-- Neither a mark nor a control stands in a drawn id. -/
theorem IsDrawn.number {s : String} (h : IsDrawn s) {c : Char} (hc : c ∈ s.toList) :
    48 ≤ c.toNat ∧ c.toNat ≤ 57 ∨ 97 ≤ c.toNat ∧ c.toNat ≤ 122 := isLowerAlphanumeric_iff.1 (h.plain c hc)

namespace Web

/-- Without a percent sign octets stand for themselves. -/
theorem Percent.decode_eq_self {bs : List Nat} (h : 37 ∉ bs) : decode bs = bs := by
  induction bs with
  | nil => rfl
  | cons b bs ih =>
    rw [List.mem_cons, not_or] at h
    rw [decode_of_ne (Ne.symm h.1), ih h.2]

theorem Route.decodeId?_drawn {s : String} (h : IsDrawn s) : decodeId? s.toList = some s := by
  have plain : 37 ∉ Utf8.encode s.toList := Urlencoded.notMem_encode fun c hc => by
    have := h.number hc
    omega
  rw [decodeId?, Percent.decode_eq_self plain, Utf8.decode?_octets, Option.map_some, String.ofList_toList]

/-- A drawn id is written as it stands. -/
theorem Urlencoded.encodePart_drawn {s : String} (h : IsDrawn s) : encodePart s = s.toList := by
  have octets : ∀ cs : List Char, (∀ c ∈ cs, isLowerAlphanumeric c = true) →
      (cs.map Char.toNat).flatMap encodeOctet = cs := by
    intro cs plain
    induction cs with
    | nil => rfl
    | cons c cs ih =>
      obtain ⟨hc, hrest⟩ := List.forall_mem_cons.1 plain
      have number := isLowerAlphanumeric_iff.1 hc
      have kept : encodeOctet c.toNat = [c] := by
        unfold encodeOctet
        rw [Char.ofNat_toNat]
        refine if_pos ⟨by omega, .inl ?_⟩
        simp only [isAlphanumeric, Bool.or_eq_true, Bool.and_eq_true, decide_eq_true_iff]
        omega
      rw [List.map_cons, List.flatMap_cons, kept, ih hrest, List.singleton_append]
  rw [encodePart, Utf8.encode_ascii, octets _ h.plain]
  intro c hc
  have := h.number hc
  omega

namespace Target
variable {path query : List Char}

theorem beforeFragment_eq_self {cs : List Char} (h : ∀ c ∈ cs, c ≠ '#') : beforeFragment cs = cs :=
  List.takeWhile_eq_self_iff.2 fun c hc => bne_iff_ne.2 (h c hc)

theorem pathAndQuery?_path (hpath : ∀ c ∈ path, isPathChar c = true ∧ c ≠ '?' ∧ c ≠ '#') :
    pathAndQuery? path = some ⟨path, []⟩ := by
  have whole : cut '?' path = none := cut_eq_none_iff.2 fun h => (hpath '?' h).2.1 rfl
  rw [pathAndQuery?, beforeFragment_eq_self fun c hc => (hpath c hc).2.2, whole]
  exact if_pos (List.all_eq_true.2 fun c hc => (hpath c hc).1)

theorem pathAndQuery?_query (hpath : ∀ c ∈ path, isPathChar c = true ∧ c ≠ '?' ∧ c ≠ '#')
    (hquery : ∀ c ∈ query, isQueryChar c = true ∧ c ≠ '#') :
    pathAndQuery? (path ++ '?' :: query) = some ⟨path, query⟩ := by
  have kept : ∀ c ∈ path ++ '?' :: query, c ≠ '#' := by
    intro c hc
    rcases List.mem_append.1 hc with hc | hc
    · exact (hpath c hc).2.2
    · rcases List.mem_cons.1 hc with rfl | hc
      · decide
      · exact (hquery c hc).2
  have parted : cut '?' (path ++ '?' :: query) = some (path, query) := cut_append fun h => (hpath '?' h).2.1 rfl
  rw [pathAndQuery?, beforeFragment_eq_self kept, parted]
  refine if_pos (Bool.and_eq_true_iff.2 ⟨?_, ?_⟩)
  · exact List.all_eq_true.2 fun c hc => (hpath c hc).1
  · exact List.all_eq_true.2 fun c hc => (hquery c hc).1

/-- Small letters and digits may stand anywhere. -/
theorem fits_of_plain {c : Char} (h : isLowerAlphanumeric c = true) :
    isPathChar c = true ∧ isQueryChar c = true ∧ c ≠ '?' ∧ c ≠ '#' := by
  have number := isLowerAlphanumeric_iff.1 h
  refine ⟨?_, ?_, ?_, ?_⟩
  · simp only [isPathChar, Bool.or_eq_true, Bool.and_eq_true, beq_iff_eq, decide_eq_true_iff]
    omega
  · simp only [isQueryChar, Bool.or_eq_true, Bool.and_eq_true, beq_iff_eq, decide_eq_true_iff]
    omega
  · rintro rfl
    exact absurd number (by decide)
  · rintro rfl
    exact absurd number (by decide)

end Target

end Web

namespace Destination
variable {d : Destination} {lpaId : String}

/-- The names and values of the query. -/
def pairs (d : Destination) : List (String × String) :=
  (d.id.toList.map fun id => ("id", id)) ++ if d.addAnother then [("addAnother", "1")] else []

/-- What the address asks for. -/
def target (d : Destination) (lpaId : String) : Target :=
  ⟨Route.pagePath lpaId.toList d.page, ("&".intercalate d.query).toList⟩

theorem intercalate_query (named : ∀ id ∈ d.id, IsDrawn id) : "&".intercalate d.query = Urlencoded.encode d.pairs := by
  have id_text : Urlencoded.encodePart "id" = "id".toList := by decide
  have another_text : Urlencoded.encodePart "addAnother" = "addAnother".toList := by decide
  have one_text : Urlencoded.encodePart "1" = "1".toList := by decide
  obtain ⟨page, id, addAnother⟩ := d
  rw [← String.toList_inj]
  cases id with
  | none => cases addAnother <;> simp [query, pairs, Urlencoded.encode, another_text, one_text]
  | some id =>
    have drawn := Urlencoded.encodePart_drawn (named id rfl)
    cases addAnother <;> simp [query, pairs, Urlencoded.encode, drawn, id_text, another_text, one_text]

/-- The query names the actor and asks for another one, as the destination does. -/
theorem ofJson?_query (named : ∀ id ∈ d.id, IsDrawn id) :
    ActorQuery.ofJson? (Urlencoded.fields (Utf8.encode (d.target lpaId).query)) = some ⟨d.id, d.addAnother⟩ := by
  rw [Urlencoded.fields, target, intercalate_query named, Urlencoded.parse_encode]
  obtain ⟨page, id, addAnother⟩ := d
  cases id with
  | none => cases addAnother <;> rfl
  | some id =>
    have given : (id != "") = true := bne_iff_ne.2 (named id rfl).given
    have kept : (some id).filter (fun i => i != "") = some id := by simp [given]
    cases addAnother <;> exact congrArg (fun named => some (ActorQuery.mk named _)) kept

/-- Every character of the path may stand there, and none of them ends it. -/
theorem path_chars (drawn : IsDrawn lpaId) (d : Destination) :
    ∀ c ∈ (d.target lpaId).path, Target.isPathChar c = true ∧ c ≠ '?' ∧ c ≠ '#' := by
  have lead : "/lpa/".toList.all (fun c => c = '/' ∨ isLowerAlphanumeric c = true ∨ c = '-') = true := by decide
  have plain : ∀ c ∈ (d.target lpaId).path, c = '/' ∨ isLowerAlphanumeric c = true ∨ c = '-' := by
    obtain ⟨name, hname, whole⟩ := Route.exists_name d.page
    intro c hc
    simp only [target, Route.pagePath, hname, List.mem_append, List.mem_cons] at hc
    rcases hc with (hc | hc) | rfl | hc
    · exact of_decide_eq_true (List.all_eq_true.1 lead c hc)
    · exact .inr (.inl (drawn.plain c hc))
    · exact .inl rfl
    · exact .inr (whole c hc)
  intro c hc
  rcases plain c hc with rfl | hc | rfl
  · decide
  · obtain ⟨path, -, ends⟩ := Target.fits_of_plain hc
    exact ⟨path, ends⟩
  · decide

theorem mem_query {c : Char} (hc : c ∈ (d.target lpaId).query) :
    c ∈ "id=&addAnother=1".toList ∨ ∃ id ∈ d.id, c ∈ id.toList := by
  obtain ⟨page, id, addAnother⟩ := d
  cases id <;> cases addAnother <;> simp [target, query] at hc ⊢ <;> grind

/-- Every character of the query may stand there. -/
theorem query_chars (named : ∀ id ∈ d.id, IsDrawn id) :
    ∀ c ∈ (d.target lpaId).query, Target.isQueryChar c = true ∧ c ≠ '#' := by
  have marks : "id=&addAnother=1".toList.all (fun c => Target.isQueryChar c = true ∧ c ≠ '#') = true := by decide
  intro c hc
  rcases mem_query hc with hc | ⟨id, hid, hc⟩
  · exact of_decide_eq_true (List.all_eq_true.1 marks c hc)
  · have plain := Target.fits_of_plain ((named id hid).plain c hc)
    exact ⟨plain.2.1, plain.2.2.2⟩

theorem toList_url (d : Destination) (lpaId : String) : (d.url lpaId).toList =
    (d.target lpaId).path ++ if d.query = [] then [] else '?' :: (d.target lpaId).query := by
  unfold url
  dsimp only
  cases h : d.query <;> simp [target, Route.pagePath, h]

/-- An address is read as what it asks for. -/
theorem pathAndQuery?_url (drawn : IsDrawn lpaId) (named : ∀ id ∈ d.id, IsDrawn id) :
    Target.pathAndQuery? (d.url lpaId).toList = some (d.target lpaId) := by
  rw [toList_url]
  split
  · rename_i none
    have empty : (d.target lpaId).query = [] := by simp [target, none]
    rw [List.append_nil, Target.pathAndQuery?_path (path_chars drawn d), ← empty]
  · exact Target.pathAndQuery?_query (path_chars drawn d) (query_chars named)

/-- Only the length of an address can keep it from being asked for. -/
theorem parse?_url (drawn : IsDrawn lpaId) (named : ∀ id ∈ d.id, IsDrawn id) : Target.parse? (d.url lpaId) =
    if Target.lengthLimit < (d.url lpaId).utf8ByteSize then none else some (d.target lpaId) := by
  obtain ⟨rest, hrest⟩ : ∃ rest, (d.url lpaId).toList = '/' :: rest := ⟨_, toList_url d lpaId⟩
  have read := pathAndQuery?_url drawn named
  rw [hrest] at read
  rw [Target.parse?, hrest]
  exact if_congr Iff.rfl rfl read

theorem notMem_drawn (drawn : IsDrawn lpaId) : '/' ∉ lpaId.toList := fun h => absurd (drawn.plain '/' h) (by decide)

/-- The address of a destination is read as a path and a query, and is refused as a whole only if it is too long. Its
    path is that of the page, below the LPA, and its query names the actor and the wish to add one as the destination
    does. So two destinations with one address are the same, below the same LPA. -/
theorem url_leads_back (drawn : IsDrawn lpaId) (named : ∀ id ∈ d.id, IsDrawn id) :
    (∃ t, Target.pathAndQuery? (d.url lpaId).toList = some t ∧
      Target.parse? (d.url lpaId) = (if Target.lengthLimit < (d.url lpaId).utf8ByteSize then none else some t) ∧
      ∀ r : Request, r.target = t →
        Route.ofPath? r.target.path = some (.page lpaId.toList d.page) ∧ Route.decodeId? lpaId.toList = some lpaId ∧
        ActorQuery.ofJson? (queryFields r) = some { id := d.id, addAnother := d.addAnother }) ∧
    ∀ (lpaId' : String) (d' : Destination), IsDrawn lpaId' → (∀ id ∈ d'.id, IsDrawn id) →
      d'.url lpaId' = d.url lpaId → lpaId' = lpaId ∧ d' = d := by
  constructor
  · refine ⟨d.target lpaId, pathAndQuery?_url drawn named, parse?_url drawn named, fun r hr => ?_⟩
    rw [queryFields, hr]
    exact ⟨Route.ofPath?_pagePath (notMem_drawn drawn) d.page, Route.decodeId?_drawn drawn, ofJson?_query named⟩
  · intro lpaId' d' drawn' named' same
    -- both addresses are read as what the other one asks for
    have read := pathAndQuery?_url drawn' named'
    rw [same, pathAndQuery?_url drawn named, Option.some.injEq] at read
    have route : Route.ofPath? (d'.target lpaId').path = some (.page lpaId.toList d.page) := by
      rw [← read]
      exact Route.ofPath?_pagePath (notMem_drawn drawn) d.page
    have asked : ActorQuery.ofJson? (Urlencoded.fields (Utf8.encode (d'.target lpaId').query)) =
        some ⟨d.id, d.addAnother⟩ := by
      rw [← read]
      exact ofJson?_query named
    rw [target, Route.ofPath?_pagePath (notMem_drawn drawn')] at route
    rw [ofJson?_query named'] at asked
    obtain ⟨page, id, addAnother⟩ := d
    obtain ⟨page', id', addAnother'⟩ := d'
    cases asked
    obtain ⟨hid, rfl⟩ : lpaId'.toList = lpaId.toList ∧ page' = page := by simpa using route
    exact ⟨String.toList_inj.1 hid, rfl⟩

/-- The address of a new actor's address, with the wish to add another one. -/
theorem url_leads_back_of_both :
    let d : Destination := { page := .personAddress, id := some "00000001", addAnother := true }
    d.url "lpa7" = "/lpa/lpa7/choose-people-to-notify-address?id=00000001&addAnother=1" ∧
    ∃ t, Target.pathAndQuery? (d.url "lpa7").toList = some t ∧ ∀ r : Request, r.target = t →
      Route.ofPath? r.target.path = some (.page "lpa7".toList .personAddress) ∧
      ActorQuery.ofJson? (queryFields r) = some { id := some "00000001", addAnother := true } := by
  intro d
  have drawn : IsDrawn "lpa7" := ⟨by decide, List.all_eq_true.1 (by decide)⟩
  have named : ∀ id ∈ d.id, IsDrawn id := by
    rintro _ ⟨⟩
    exact ⟨by decide, List.all_eq_true.1 (by decide)⟩
  obtain ⟨⟨t, read, -, leads⟩, -⟩ := url_leads_back drawn named
  exact ⟨by decide +kernel, t, read, fun r hr => ⟨(leads r hr).1, (leads r hr).2.2⟩⟩

end Destination

end PowerOfAttorney
