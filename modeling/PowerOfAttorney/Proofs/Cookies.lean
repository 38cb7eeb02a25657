import PowerOfAttorney.Web.Session

/-! The token of a session, as it is handed out and as it comes back. A part of a cookie header has a name if an equals
    sign stands in it, and the first part of a name gives the value of that cookie, whatever stands in other parts and
    headers (`Session.cookieToken?_of_first`). -/

namespace PowerOfAttorney.Web.Session

open Text

/-- The parts of the cookie headers that can be read, in order, without the blanks around them. -/
def cookieParts (hs : Headers) : List (List Char) :=
  (((hs.all "cookie").filter Headers.isReadable).flatMap (pieces ';')).map trimChars

/-- Whether a part has a name: what stands before its first equals sign, blanks around it aside. -/
def Names (part name : List Char) : Prop :=
  ∃ before after, part = before ++ '=' :: after ∧ '=' ∉ before ∧ trimChars before = name

/-! ### Cookies -/

section
variable {hs : Headers} {name part : List Char}

/-- The value of a part, if it has the name. -/
def valueOf? (name part : List Char) : Option (List Char) :=
  (cut '=' part).bind fun p => if trimChars p.1 = name then some (trimChars p.2) else none

theorem cookieToken?_eq (hs : Headers) (name : String) :
    cookieToken? hs name = (cookieParts hs).findSome? (valueOf? name.toList) := by
  rw [cookieToken?, cookieParts, List.findSome?_map, ← List.head?_filterMap, ← List.head?_filterMap,
    List.filterMap_filterMap]
  congr 2
  funext part
  show (cookiePart? part).bind _ = valueOf? name.toList (trimChars part)
  unfold cookiePart? valueOf?
  cases cut '=' (trimChars part) <;> rfl

theorem valueOf?_eq_none_iff : valueOf? name part = none ↔ ¬Names part name := by
  unfold valueOf?
  constructor
  · rintro h ⟨before, after, rfl, first, named⟩
    rw [cut_append first, Option.bind_some, if_pos named] at h
    cases h
  · intro h
    cases parted : cut '=' part with
    | none => rfl
    | some p =>
      obtain ⟨rfl, first⟩ := cut_eq_some parted
      exact if_neg fun named => h ⟨_, _, rfl, first, named⟩

/-- The first part of a name gives its value. -/
theorem cookieToken?_of_first {name : String} {before after : List (List Char)} {value : List Char}
    (parts : cookieParts hs = before ++ (name.toList ++ '=' :: value) :: after)
    (first : ∀ q ∈ before, ¬Names q name.toList) (whole : '=' ∉ name.toList)
    (trimmed : trimChars name.toList = name.toList) : cookieToken? hs name = some (trimChars value) := by
  have passed : before.findSome? (valueOf? name.toList) = none :=
    List.findSome?_eq_none_iff.2 fun q hq => valueOf?_eq_none_iff.2 (first q hq)
  have found : valueOf? name.toList (name.toList ++ '=' :: value) = some (trimChars value) := by
    rw [valueOf?, cut_append whole]
    exact if_pos trimmed
  rw [cookieToken?_eq, parts, List.findSome?_append, passed, Option.none_or, List.findSome?_cons, found]

theorem cookieToken?_of_unnamed {name : String} (h : ∀ q ∈ cookieParts hs, ¬Names q name.toList) :
    cookieToken? hs name = none := by
  rw [cookieToken?_eq, List.findSome?_eq_none_iff]
  exact fun q hq => valueOf?_eq_none_iff.2 (h q hq)

end

/-! ### Bearer tokens -/

theorem bearerToken?_eq_some_iff {hs : Headers} {cs : List Char} : bearerToken? hs = some cs ↔
    ∃ v, hs.first? "authorization" = some v ∧ Headers.isReadable v = true ∧
      (v = "Bearer ".toList ++ cs ∨ v = "bearer ".toList ++ cs) := by
  have after_word {v : List Char} :
      (bearerWords.findSome? fun w => if w.isPrefixOf v then some (v.drop w.length) else none) = some cs ↔
        v = "Bearer ".toList ++ cs ∨ v = "bearer ".toList ++ cs := by
    constructor
    · intro h
      obtain ⟨w, hw, h⟩ := List.exists_of_findSome?_eq_some h
      obtain ⟨begins, h⟩ := Option.ite_none_right_eq_some.1 h
      obtain ⟨rest, rfl⟩ := List.isPrefixOf_iff_prefix.1 begins
      rw [List.drop_left, Option.some.injEq] at h
      subst h
      simp only [bearerWords, List.mem_cons, List.not_mem_nil, or_false] at hw
      rcases hw with rfl | rfl
      · exact .inl rfl
      · exact .inr rfl
    · rintro (rfl | rfl) <;> rfl
  simp only [bearerToken?, Headers.readable?, Option.bind_eq_some_iff, Option.filter_eq_some_iff, after_word, and_assoc]

/-! ### A token that comes back -/

/-- What is sent back of a cookie is its name and the token. -/
theorem takeWhile_cookie {s : Settings} {token : String} (name : ';' ∉ s.sessionCookie.toList)
    (value : ';' ∉ token.toList) :
    (cookie s token).toList.takeWhile (· != ';') = s.sessionCookie.toList ++ '=' :: token.toList := by
  obtain ⟨rest, hrest⟩ : ∃ rest, (cookie s token).toList =
      (s.sessionCookie.toList ++ '=' :: token.toList) ++ ';' :: rest := by
    simp [cookie]
  have kept : ∀ c ∈ s.sessionCookie.toList ++ '=' :: token.toList, (c != ';') = true := by
    intro c hc
    rw [bne_iff_ne]
    rintro rfl
    rcases List.mem_append.1 hc with hc | hc
    · exact name hc
    · rcases List.mem_cons.1 hc with hc | hc
      · cases hc
      · exact value hc
  rw [hrest, List.takeWhile_append_of_pos kept, List.takeWhile_cons_of_neg (by decide), List.append_nil]

theorem trimChars_eq_self {s : String} (trimmed : trim s = s) : trimChars s.toList = s.toList := by
  have chars := congrArg String.toList trimmed
  rwa [trim, String.toList_ofList] at chars

/-- A token that was handed out as a cookie is read from the first cookie of that name, whatever else is sent. Where no
    cookie of the name is sent, the token is what stands behind the word in the first authorization header, if that can
    be read. -/
theorem token_read_back {s : Settings} {token : String} (hs : Headers) (whole : '=' ∉ s.sessionCookie.toList)
    (name : ';' ∉ s.sessionCookie.toList) (trimmed : trim s.sessionCookie = s.sessionCookie)
    (value : ';' ∉ token.toList) (valueTrimmed : trim token = token) :
    let part := (cookie s token).toList.takeWhile (· != ';')
    (∀ before after, cookieParts hs = before ++ part :: after → (∀ q ∈ before, ¬Names q s.sessionCookie.toList) →
      token? hs s.sessionCookie = some token) ∧
    ((∀ q ∈ cookieParts hs, ¬Names q s.sessionCookie.toList) →
      ∀ t, token? hs s.sessionCookie = some t ↔
        ∃ v, hs.first? "authorization" = some v ∧ Headers.isReadable v = true ∧
          (v = "Bearer ".toList ++ t.toList ∨ v = "bearer ".toList ++ t.toList)) := by
  intro part
  constructor
  · intro before after parts first
    have sent : part = s.sessionCookie.toList ++ '=' :: token.toList := takeWhile_cookie name value
    rw [sent] at parts
    have found := cookieToken?_of_first parts first whole (trimChars_eq_self trimmed)
    rw [token?, found, trimChars_eq_self valueTrimmed, Option.orElse_some, Option.map_some, String.ofList_toList]
  · intro unnamed t
    rw [token?, cookieToken?_of_unnamed unnamed, Option.orElse_none, Option.map_eq_some_iff, ← bearerToken?_eq_some_iff]
    constructor
    · rintro ⟨cs, hcs, rfl⟩
      rwa [String.toList_ofList]
    · intro ht
      exact ⟨_, ht, String.ofList_toList⟩

/-- A token with equals signs, behind other cookies and a header that cannot be read, and before another cookie of the
    same name; and the token of another header, where no cookie has the name. -/
theorem token_read_back_of_many :
    let hs : Headers := [("authorization", "bearer xyz".toList), ("cookie", "theme=dark; lpa_session".toList),
      ("cookie", "lpa_session=\x7f".toList), ("cookie", "=a ; lpa_session=abc.de==;lpa_session=b".toList)]
    token? hs "lpa_session" = some "abc.de==" ∧ token? hs "other" = some "xyz" := by
  intro hs
  have parted : cookieParts hs = ["theme=dark".toList, "lpa_session".toList, "=a".toList] ++
      (cookie {} "abc.de==").toList.takeWhile (· != ';') :: ["lpa_session=b".toList] := by decide +kernel
  have unnamed : ∀ q ∈ ["theme=dark".toList, "lpa_session".toList, "=a".toList], ¬Names q "lpa_session".toList :=
    fun q hq => valueOf?_eq_none_iff.1 (show valueOf? _ q = none by revert q; decide +kernel)
  have others : ∀ q ∈ cookieParts hs, ¬Names q "other".toList :=
    fun q hq => valueOf?_eq_none_iff.1 (show valueOf? _ q = none by revert q; decide +kernel)
  constructor
  · exact (token_read_back hs (by decide) (by decide) (by decide) (by decide) (by decide)).1 _ _ parted unnamed
  · have bearer := @token_read_back { sessionCookie := "other" } "xyz" hs (by decide) (by decide) (by decide)
      (by decide) (by decide)
    exact (bearer.2 others "xyz").2 ⟨"bearer xyz".toList, rfl, by decide, .inr rfl⟩

end PowerOfAttorney.Web.Session
