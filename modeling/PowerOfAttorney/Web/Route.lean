import PowerOfAttorney.Page
import PowerOfAttorney.Text.Split
import PowerOfAttorney.Web.Percent

/-! The paths that are served. They are matched as they are written; only the id of an LPA is decoded. -/

namespace PowerOfAttorney.Web

open Text

/-- What is found at a path. -/
inductive Route where
  | health
  | metrics
  | start
  /-- A page of an LPA, whose id is not decoded yet. -/
  | page (lpaId : List Char) (p : Page)
deriving DecidableEq, Repr

namespace Route

/-- Whether something is shown there; a session is only started. -/
def isShown : Route → Bool
  | .start => false
  | _ => true

/-- What is found at a path, if anything is. -/
def ofPath? (path : List Char) : Option Route :=
  match pieces '/' path with
  | [[], name] =>
    if name = "health".toList then some .health
    else if name = "metrics".toList then some .metrics
    else if name = "start".toList then some .start
    else none
  | [[], first, lpaId, name] =>
    if first = "lpa".toList then (Page.ofPath? (String.ofList ('/' :: name))).map (.page lpaId) else none
  | _ => none

/-- The id that a part of a path writes; `none` if its octets are no characters. -/
def decodeId? (part : List Char) : Option String :=
  (Utf8.decode? (Percent.decode (Utf8.encode part))).map String.ofList

/-! ### Pages are found at their paths -/

/-- The path of a page of an LPA, whose id is written there as it stands. -/
def pagePath (lpaId : List Char) (p : Page) : List Char := "/lpa/".toList ++ lpaId ++ p.path.toList

/-- The path of a page is a slash and a name of small letters and hyphens. -/
theorem exists_name (p : Page) :
    ∃ name, p.path.toList = '/' :: name ∧ ∀ c ∈ name, isLowerAlphanumeric c = true ∨ c = '-' := by
  have all : ∀ p ∈ Page.all, p.path.toList.head? = some '/' ∧
      p.path.toList.tail.all (fun c => isLowerAlphanumeric c = true ∨ c = '-') = true := by decide +kernel
  obtain ⟨first, rest⟩ := all p (Worded.mem_all p)
  obtain ⟨name, hname⟩ := List.head?_eq_some_iff.1 first
  rw [hname] at rest
  exact ⟨name, hname, fun c hc => of_decide_eq_true (List.all_eq_true.1 rest c hc)⟩

/-- The path of a page is one name after a slash. -/
theorem exists_path (p : Page) : ∃ name, p.path.toList = '/' :: name ∧ '/' ∉ name := by
  obtain ⟨name, hname, plain⟩ := exists_name p
  exact ⟨name, hname, fun slash => absurd (plain '/' slash) (by decide)⟩

/-- A page is found at its path, whichever LPA is named there. -/
theorem ofPath?_pagePath {lpaId : List Char} (h : '/' ∉ lpaId) (p : Page) :
    ofPath? (pagePath lpaId p) = some (.page lpaId p) := by
  obtain ⟨name, hname, whole⟩ := exists_path p
  have parts : pieces '/' (pagePath lpaId p) = [[], "lpa".toList, lpaId, name] := by
    have slashed : "/lpa/".toList = '/' :: ("lpa".toList ++ ['/']) := by decide
    have path : pagePath lpaId p = [] ++ '/' :: ("lpa".toList ++ '/' :: (lpaId ++ '/' :: name)) := by
      simp only [pagePath, slashed, hname, List.cons_append, List.append_assoc, List.nil_append]
    rw [path, pieces_append _ List.not_mem_nil, pieces_append _ (by decide), pieces_append _ h, pieces_of_notMem whole]
  have page : Page.ofPath? (String.ofList ('/' :: name)) = some p := by
    rw [← hname, String.ofList_toList, Page.ofPath?, Page.path, ofWord?_wordOf]
  rw [ofPath?, parts]
  dsimp only
  rw [if_pos rfl, page, Option.map_some]

end Route

end PowerOfAttorney.Web
