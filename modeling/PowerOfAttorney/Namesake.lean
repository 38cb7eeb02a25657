import PowerOfAttorney.Lpa
import PowerOfAttorney.Text.Split

/-!
Actors of the same name.

A name that another actor bears already is worth a warning, which the user may acknowledge by sending back its
key. The donor is looked at first, then the attorneys, the replacement attorneys, the certificate provider and the
people to notify; the actor that is being edited is passed over.
-/

namespace PowerOfAttorney

/-- An actor found to bear the name of the actor of kind `subject` that is being filled in. -/
structure Namesake where
  subject : ActorKind
  matched : ActorKind
  /-- Empty for the donor and the certificate provider. -/
  matchedId : String
deriving DecidableEq, Repr

namespace Namesake

open Text

/-! ### Finding -/

/-- Whether an actor is the one being edited. Without an id being edited, that is the only actor of its kind. -/
def isEdited (subject : ActorKind) (editing : Option String) (kind : ActorKind) (id : String) : Bool :=
  kind == subject && match editing with
    | some e => e == id
    | none => kind == .donor || kind == .certificateProvider

/-- Whether an actor bears the names given and is not the one being edited. -/
def isAnother (subject : ActorKind) (editing : Option String) (firstNames lastName : String) (kind : ActorKind)
    (id first last : String) : Bool :=
  !isEdited subject editing kind id && first == firstNames && last == lastName

/-- The first actor, other than the one being edited, whose names both equal those given. Empty names match
    nobody. -/
def find? (l : Lpa) (subject : ActorKind) (editing : Option String) (firstNames lastName : String) :
    Option Namesake :=
  let another := isAnother subject editing firstNames lastName
  let single := fun (kind : ActorKind) (first last : String) =>
    if another kind "" first last then some (⟨subject, kind, ""⟩ : Namesake) else none
  let attorney := fun (kind : ActorKind) (r : Roster Attorney) =>
    (r.members.find? fun a => another kind a.id a.firstNames a.lastName).map fun a => (⟨subject, kind, a.id⟩ : Namesake)
  let person := fun (r : Roster PersonToNotify) =>
    (r.members.find? fun p => another .personToNotify p.id p.firstNames p.lastName).map
      fun p => (⟨subject, .personToNotify, p.id⟩ : Namesake)
  if firstNames = "" ∧ lastName = "" then none
  else
    single .donor l.donor.firstNames l.donor.lastName
      <|> attorney .attorney l.attorneys
      <|> attorney .replacement l.replacements
      <|> single .certificateProvider l.certificateProvider.firstNames l.certificateProvider.lastName
      <|> person l.peopleToNotify

/-- The key of the wording in the translations. -/
def code (n : Namesake) : String :=
  let name := n.matched.messageName
  if n.matched = n.subject then "error" ++ name ++ "Matches" ++ name else "error" ++ name ++ "MatchesActor"

/-! ### Keys -/

/-- The key by which the warning is acknowledged: both kinds and the id, with colons between them. -/
def key (n : Namesake) : String :=
  String.ofList ((wordOf n.subject).toList ++ ':' :: ((wordOf n.matched).toList ++ ':' :: n.matchedId.toList))

/-- Reads a key. The id is all that follows the second colon. -/
def ofKey? (s : String) : Option Namesake := do
  let (first, rest) ← cut ':' s.toList
  let (second, id) ← cut ':' rest
  let subject ← ofWord? (String.ofList first)
  let matched ← ofWord? (String.ofList second)
  return ⟨subject, matched, String.ofList id⟩

/-- What is said of a text that is no key. -/
def malformedKey (s : String) : String := "malformed warning key: " ++ s

/-- Whether the key sent with a form is that of this warning. -/
def isAcknowledged (n : Namesake) (ignore : Option String) : Bool := ignore.bind ofKey? == some n

/-! ### Reading keys back -/

theorem notMem_wordOf (k : ActorKind) : ':' ∉ (wordOf k).toList := by
  cases k <;> decide

theorem ofKey?_key (n : Namesake) : ofKey? n.key = some n := by
  have first : cut ':' n.key.toList =
      some ((wordOf n.subject).toList, (wordOf n.matched).toList ++ ':' :: n.matchedId.toList) := by
    rw [key, String.toList_ofList, cut_append (notMem_wordOf _)]
  simp only [ofKey?, first, Option.bind_eq_bind, Option.bind_some, cut_append (notMem_wordOf _), String.ofList_toList,
    ofWord?_wordOf]
  rfl

/-- A text is read as the key of a warning only if it is that key, character for character. -/
theorem ofKey?_eq_some_iff {s : String} {n : Namesake} : ofKey? s = some n ↔ s = n.key := by
  refine ⟨fun h => ?_, fun h => h ▸ ofKey?_key n⟩
  simp only [ofKey?, Option.bind_eq_bind, Option.bind_eq_some_iff] at h
  obtain ⟨⟨first, rest⟩, hfirst, ⟨second, id⟩, hsecond, subject, hsubject, matched, hmatched, h⟩ := h
  obtain ⟨hs, -⟩ := cut_eq_some hfirst
  obtain ⟨rfl, -⟩ := cut_eq_some hsecond
  obtain rfl := Option.some.inj h
  rw [← String.ofList_toList (s := s), hs, key, ofWord?_eq_some_iff.1 hsubject, ofWord?_eq_some_iff.1 hmatched]
  simp only [String.toList_ofList]

theorem key_injective {n n' : Namesake} (h : n.key = n'.key) : n = n' := by
  have read := ofKey?_key n
  rw [h, ofKey?_key, Option.some.injEq] at read
  exact read.symm

/-- A text of three parts is read part by part. -/
theorem ofKey?_append {s : String} {first second id : List Char}
    (hs : s.toList = first ++ ':' :: (second ++ ':' :: id)) (hfirst : ':' ∉ first) (hsecond : ':' ∉ second) :
    ofKey? s = (ofWord? (String.ofList first)).bind fun subject =>
      (ofWord? (String.ofList second)).map fun matched => ⟨subject, matched, String.ofList id⟩ := by
  simp only [ofKey?, hs, cut_append hfirst, cut_append hsecond, Option.bind_eq_bind, Option.bind_some]
  cases (ofWord? (String.ofList first) : Option ActorKind) with
  | none => rfl
  | some subject => cases (ofWord? (String.ofList second) : Option ActorKind) <;> rfl

theorem two_le_count_key (n : Namesake) : 2 ≤ n.key.toList.count ':' := by
  simp only [key, String.toList_ofList, List.count_append, List.count_cons_self]
  omega

/-- A text is no key if it has not two colons, or if what stands before one of the first two is not the word of a kind
    of actor. -/
theorem ofKey?_eq_none_iff {s : String} : ofKey? s = none ↔ s.toList.count ':' < 2 ∨
    ∃ first second id, s.toList = first ++ ':' :: (second ++ ':' :: id) ∧ ':' ∉ first ∧ ':' ∉ second ∧
      ((∀ k : ActorKind, wordOf k ≠ String.ofList first) ∨ ∀ k : ActorKind, wordOf k ≠ String.ofList second) := by
  simp only [← ofWord?_eq_none_iff]
  constructor
  · intro h
    rcases Nat.lt_or_ge (s.toList.count ':') 2 with few | colons
    · exact .inl few
    · obtain ⟨first, rest, hs, hfirst, hcount⟩ := exists_cut (Nat.lt_of_lt_of_le Nat.zero_lt_two colons)
      have another : 0 < rest.count ':' := by omega
      obtain ⟨second, id, rfl, hsecond, -⟩ := exists_cut another
      refine .inr ⟨first, second, id, hs, hfirst, hsecond, ?_⟩
      rw [ofKey?_append hs hfirst hsecond, Option.bind_eq_none_iff] at h
      cases hsubject : (ofWord? (String.ofList first) : Option ActorKind) with
      | none => exact .inl rfl
      | some subject => exact .inr (Option.map_eq_none_iff.1 (h subject hsubject))
  · rintro (few | ⟨first, second, id, hs, hfirst, hsecond, unknown⟩)
    · rw [Option.eq_none_iff_forall_ne_some]
      intro n hn
      rw [ofKey?_eq_some_iff.1 hn] at few
      exact Nat.not_lt.2 n.two_le_count_key few
    · rw [ofKey?_append hs hfirst hsecond]
      rcases unknown with unknown | unknown
      · rw [unknown, Option.bind_none]
      · rw [unknown]
        exact Option.bind_fun_none _

/-- A warning is acknowledged by its own key and by no other text. -/
theorem isAcknowledged_iff {n : Namesake} {ignore : Option String} :
    n.isAcknowledged ignore = true ↔ ignore = some n.key := by
  cases ignore with
  | none => simp [isAcknowledged]
  | some s => simp [isAcknowledged, ofKey?_eq_some_iff]

end Namesake

/-- A warning about a namesake as it is shown. -/
structure NameWarning where
  code : String
  key : String
  subject : ActorKind
  firstNames : String
  lastName : String
deriving DecidableEq, Repr

/-- The warning for a name that was filled in. -/
def Namesake.warning (n : Namesake) (firstNames lastName : String) : NameWarning :=
  { code := n.code, key := n.key, subject := n.subject, firstNames, lastName }

end PowerOfAttorney
