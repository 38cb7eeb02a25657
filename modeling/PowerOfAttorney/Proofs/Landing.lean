import Mathlib.Logic.Relation
import PowerOfAttorney.Proofs.Addresses
import PowerOfAttorney.Proofs.Rosters
import PowerOfAttorney.Web.PageTable

/-! Where redirects lead. What shows the page of a destination may send the user on to another page of its collection
(`Destination.instead?`), but always to one of less depth: from an address to the details, from a removal to the list, and
between the list and the details in one direction only, which depends on whether there is anybody. So every redirect
that answers a form ends on a page after two more at most (`redirects_land`). -/

namespace PowerOfAttorney

open Form Routing Wizard

/-! ### What is answered at a destination -/

/-- Whether a reply is a page to look at. -/
def Wizard.Reply.isPage : Reply → Bool
  | .loaded _ => true
  | .tasks _ _ => true
  | .shown _ _ => true
  | _ => false

theorem Wizard.showUnless_eq (instead : Option Destination) (l : Lpa) (actor : Option ShownActor) :
    showUnless instead l actor = .answer ((instead.map Reply.redirect).getD (.shown l actor)) := by
  cases instead <;> rfl

namespace Destination

/-- What shows the page of a destination. -/
def view (d : Destination) : Operation := Web.viewOperation d.page { id := d.id, addAnother := d.addAnother }

/-- Where the user is sent on to from a destination, if its page is not shown. -/
def instead? (l : Lpa) (d : Destination) : Option Destination :=
  let found := fun c => (shownActor? l c d.id).isSome
  match Web.part? d.page with
  | some (c, .details) => insteadOfDetails c (found c) (l.count c) d.addAnother
  | some (c, .address) => insteadOfAddress c (found c)
  | some (c, .summary) => insteadOfSummary c (l.count c)
  | some (c, .removal) => insteadOfRemoval c (found c)
  | none => none

/-- The page of a destination, where it is shown. -/
def shown (l : Lpa) (d : Destination) : Reply :=
  match Web.part? d.page with
  | some (_, .summary) => .shown l none
  | some (c, _) => .shown l (shownActor? l c d.id)
  | none => if d.page = .taskList then .tasks l l.taskList else .loaded l

def answer (l : Lpa) (d : Destination) : Reply := ((d.instead? l).map Reply.redirect).getD (d.shown l)

variable {l : Lpa} {d d' : Destination}

theorem isPage_shown (l : Lpa) (d : Destination) : (d.shown l).isPage = true := by
  unfold shown
  split
  · rfl
  · rfl
  · split <;> rfl

theorem decide_view (w : Surroundings) (l : Lpa) (d : Destination) :
    (d.view.decide w l).verdict = .answer (d.answer l) := by
  unfold view Web.viewOperation answer instead? shown
  cases Web.part? d.page with
  | none =>
    dsimp only
    split <;> rfl
  | some own =>
    obtain ⟨c, part⟩ := own
    cases part <;> exact showUnless_eq _ _ _

theorem instead?_of_answer (h : d.answer l = .redirect d') : d.instead? l = some d' := by
  unfold answer at h
  cases hd : d.instead? l with
  | none =>
    have page := d.isPage_shown l
    rw [hd, Option.map_none, Option.getD_none] at h
    rw [h] at page
    cases page
  | some other =>
    rw [hd] at h
    cases h
    rfl

theorem answer_of_instead? (h : d.instead? l = some d') : d.answer l = .redirect d' := by
  rw [answer, h, Option.map_some, Option.getD_some]

theorem answer_of_not_instead? (h : d.instead? l = none) : d.answer l = d.shown l := by
  rw [answer, h, Option.map_none, Option.getD_none]

end Destination

/-! ### The pages of a collection -/

namespace Collection

@[simp] theorem part?_detailsPage (c : Collection) : Web.part? c.detailsPage = some (c, .details) := by
  cases c <;> rfl

@[simp] theorem part?_addressPage (c : Collection) : Web.part? c.addressPage = some (c, .address) := by
  cases c <;> rfl

@[simp] theorem part?_summaryPage (c : Collection) : Web.part? c.summaryPage = some (c, .summary) := by
  cases c <;> rfl

end Collection

/-- One is sent on from the details of nobody if there is somebody, from the address of nobody, from an empty list, and
    from the removal of nobody. -/
theorem Destination.instead?_cases {l : Lpa} {d d' : Destination} (h : d.instead? l = some d') :
    ∃ c part, Web.part? d.page = some (c, part) ∧
      ((part = .details ∧ l.count c ≠ 0 ∧ d' = .of c.summaryPage) ∨ (part = .address ∧ d' = .of c.detailsPage) ∨
        (part = .summary ∧ l.count c = 0 ∧ d' = .of c.detailsPage) ∨ (part = .removal ∧ d' = .of c.summaryPage)) := by
  unfold instead? at h
  cases hp : Web.part? d.page with
  | none =>
    rw [hp] at h
    cases h
  | some own =>
    obtain ⟨c, part⟩ := own
    rw [hp] at h
    refine ⟨c, part, rfl, ?_⟩
    cases part with
    | details =>
      obtain ⟨there, h⟩ := Option.ite_none_right_eq_some.1 h
      simp only [Bool.and_eq_true, decide_eq_true_eq] at there
      exact .inl ⟨rfl, Nat.ne_of_gt there.1.2, (Option.some.inj h).symm⟩
    | address =>
      obtain ⟨-, h⟩ := Option.ite_none_left_eq_some.1 h
      exact .inr (.inl ⟨rfl, (Option.some.inj h).symm⟩)
    | summary =>
      obtain ⟨nobody, h⟩ := Option.ite_none_right_eq_some.1 h
      exact .inr (.inr (.inl ⟨rfl, nobody, (Option.some.inj h).symm⟩))
    | removal =>
      obtain ⟨-, h⟩ := Option.ite_none_left_eq_some.1 h
      exact .inr (.inr (.inr ⟨rfl, (Option.some.inj h).symm⟩))

/-- How many times one may be sent on from a page, at most. -/
def Page.depth (l : Lpa) (p : Page) : Nat :=
  match Web.part? p with
  | some (c, .details) => if l.count c = 0 then 0 else 1
  | some (c, .address) => if l.count c = 0 then 1 else 2
  | some (c, .summary) => if l.count c = 0 then 1 else 0
  | some (c, .removal) => if l.count c = 0 then 2 else 1
  | none => 0

theorem Page.depth_le (l : Lpa) (p : Page) : p.depth l ≤ 2 := by
  unfold depth
  split <;> (try split) <;> decide

theorem Destination.depth_lt {l : Lpa} {d d' : Destination} (h : d.instead? l = some d') :
    d'.page.depth l < d.page.depth l := by
  obtain ⟨c, part, hp, h⟩ := instead?_cases h
  unfold Page.depth
  rw [hp]
  rcases h with ⟨rfl, there, rfl⟩ | ⟨rfl, rfl⟩ | ⟨rfl, nobody, rfl⟩ | ⟨rfl, rfl⟩
  · simp [of, there]
  · simp only [of, Collection.part?_detailsPage]
    split <;> decide
  · simp [of, nobody]
  · simp only [of, Collection.part?_summaryPage]
    split <;> decide

/-- One is never sent on to where a payment comes back to. -/
theorem Destination.page_of_instead? {l : Lpa} {d d' : Destination} (h : d.instead? l = some d') :
    d'.page ≠ .paymentConfirmation := by
  obtain ⟨c, part, -, ⟨-, -, rfl⟩ | ⟨-, rfl⟩ | ⟨-, -, rfl⟩ | ⟨-, rfl⟩⟩ := instead?_cases h <;> cases c <;> exact nofun

/-! ### Following redirects -/

namespace Wizard

/-- What a session gets at a destination whenever it goes there, with the memory left as it is. Where a payment comes back
    to, nothing is only shown. -/
structure Gets (m : Memory) (session : String) (scope : Option String) (d : Destination) (r : Reply) : Prop where
  page : d.page ≠ .paymentConfirmation
  result : ∀ w, (Call.run ⟨session, scope, w, d.view⟩ m).1.result = .ok r
  kept : ∀ w, (Call.run ⟨session, scope, w, d.view⟩ m).2 = m

/-- A page is shown at a destination, or after so many redirects more at most. -/
inductive Lands (m : Memory) (session : String) (scope : Option String) : Nat → Destination → Prop
  | shown {n d r} (gets : Gets m session scope d r) (page : r.isPage = true) : Lands m session scope n d
  | sentOn {n d d'} (gets : Gets m session scope d (.redirect d')) (lands : Lands m session scope n d') :
      Lands m session scope (n + 1) d

section
variable {m : Memory} {session : String} {scope : Option String} {l : Lpa} {d d' : Destination}

theorem gets_answer (found : m.find? session = some l) (named : ∀ id ∈ scope, l.id = id)
    (page : d.page ≠ .paymentConfirmation) : Gets m session scope d (d.answer l) := by
  have answered (w : Surroundings) := Call.run_of_answer (c := ⟨session, scope, w, d.view⟩) found
    (fun id hid => ⟨l, found, named id hid⟩) (d.decide_view w l)
  exact ⟨page, fun w => (answered w).1, fun w => (answered w).2⟩

theorem lands_or_sentOn (found : m.find? session = some l) (named : ∀ id ∈ scope, l.id = id)
    (page : d.page ≠ .paymentConfirmation) : (∀ n, Lands m session scope n d) ∨
      ∃ d', d.instead? l = some d' ∧ Gets m session scope d (.redirect d') := by
  have gets := gets_answer found named page
  cases hd : d.instead? l with
  | none =>
    rw [Destination.answer_of_not_instead? hd] at gets
    exact .inl fun _ => .shown gets (d.isPage_shown l)
  | some d' =>
    rw [Destination.answer_of_instead? hd] at gets
    exact .inr ⟨d', rfl, gets⟩

theorem lands_of_depth (found : m.find? session = some l) (named : ∀ id ∈ scope, l.id = id) {n : Nat}
    (page : d.page ≠ .paymentConfirmation) (h : d.page.depth l ≤ n) : Lands m session scope n d := by
  induction n generalizing d with
  | zero =>
    rcases lands_or_sentOn found named page with lands | ⟨d', hd, -⟩
    · exact lands 0
    · exact absurd (Nat.lt_of_lt_of_le (Destination.depth_lt hd) h) (Nat.not_lt_zero _)
  | succ n ih =>
    rcases lands_or_sentOn found named page with lands | ⟨d', hd, gets⟩
    · exact lands _
    · have deeper := Nat.lt_of_lt_of_le (Destination.depth_lt hd) h
      exact .sentOn gets (ih (Destination.page_of_instead? hd) (Nat.le_of_lt_succ deeper))

/-- The LPA that a session sees at a destination, be it one that is created for that. -/
def seen (m : Memory) (session : String) : Lpa := Call.opened ⟨session, none, .plain, .load⟩ m

theorem Gets.depth_lt (h : Gets m session scope d (.redirect d')) :
    d'.page.depth (seen m session) < d.page.depth (seen m session) := by
  have result := h.result .plain
  by_cases opens : Call.Opens ⟨session, scope, .plain, d.view⟩ m
  · rw [Call.run_of_opens opens, Decision.outcome, Decision.result, Call.decision, Destination.decide_view] at result
    exact Destination.depth_lt (Destination.instead?_of_answer (Except.ok.inj result))
  · rw [Call.run_of_not_opens opens] at result
    cases result

/-- However often one is sent on, one does not come back to a page. -/
theorem ne_of_transGen (h : Relation.TransGen (fun d d' => Gets m session scope d (.redirect d')) d d') :
    d'.page ≠ d.page := by
  have deeper : d'.page.depth (seen m session) < d.page.depth (seen m session) := by
    induction h with
    | single gets => exact gets.depth_lt
    | tail _ gets ih => exact Nat.lt_trans gets.depth_lt ih
  intro same
  rw [same] at deeper
  exact Nat.lt_irrefl _ deeper

end

/-! ### Where forms send the user -/

/-- Where a form says that its user came from. -/
def Submission.source? : Submission → Option String
  | .actorDetails _ _ f => f.source
  | .personDetails _ f => f.source
  | .providerDetails f => f.source
  | .address _ f => f.source
  | _ => none

/-- Where a form sends the user that stores nothing. -/
inductive Submission.Turns (l : Lpa) : Submission → Destination → Prop
  | attorneysListed {role : AttorneyRole} {f : YesNoForm} {a : YesNo} (answered : f.answer? = some a) :
      Turns l (.attorneySummary role f) (afterSummary role.collection a l)
  | peopleListed {f : YesNoForm} {a : YesNo} (answered : f.answer? = some a) :
      Turns l (.peopleSummary f) (afterSummary .peopleToNotify a l)
  | attorneyKept {role : AttorneyRole} {id : String} {f : YesNoForm} :
      Turns l (.removeAttorney role id f) (.of role.collection.summaryPage)
  | personKept {id : String} {f : YesNoForm} :
      Turns l (.removePerson id f) (.of Collection.peopleToNotify.summaryPage)
  | addressMissing {t : AddressTarget} {f : AddressForm} {page : Page} (missing : t.missing? l = some page) :
      Turns l (.address t f) (.of page)

variable {w : Surroundings} {l : Lpa} {s : Submission} {d : Destination}

theorem Submission.Turns.of_decide (h : (s.decide w l).verdict = .answer (.redirect d)) : s.Turns l d := by
  have declined : Declines l (.submit s) (.redirect d) := Declines.of_decide h
  have idle : s.IsIdle l := by
    cases declined with
    | idle idle => exact idle
  cases s with
  | attorneySummary role f =>
    unfold decide answerAttorneySummary at h
    dsimp only at h
    split at h
    · cases h
      exact .attorneysListed ‹_›
    · cases h
  | peopleSummary f =>
    unfold decide answerPeopleSummary at h
    dsimp only at h
    split at h
    · cases h
      exact .peopleListed ‹_›
    · cases h
  | removeAttorney role id f =>
    unfold decide Wizard.removeAttorney at h
    dsimp only at h
    split at h
    · split at h
      · cases h
      · cases h
        exact .attorneyKept
      · cases h
    · cases h
      exact .attorneyKept
  | removePerson id f =>
    unfold decide Wizard.removePerson at h
    dsimp only at h
    split at h
    · split at h
      · cases h
      · cases h
        exact .personKept
      · cases h
    · cases h
      exact .personKept
  | address t f =>
    obtain ⟨page, missing⟩ := Option.isSome_iff_exists.1 idle
    have turned := saveAddress_of_missing (f := f) w.lookup missing
    unfold decide at h
    dsimp only at h
    rw [turned] at h
    cases h
    exact .addressMissing missing
  | _ => exact idle.elim

/-- What a form that sends the user to a destination leaves of an LPA: the LPA itself, or what is stored then. -/
def Submission.Sends (w : Surroundings) (l : Lpa) (s : Submission) (l' : Lpa) (d : Destination) : Prop :=
  (s.Turns l d ∧ l' = l) ∨
    ∃ stored, Stores w l (.submit s) stored (.redirect d) ∧ l' = { stored with version := l.version + 1 }

theorem Call.sends {c : Call} {m : Memory} (submits : c.operation = .submit s)
    (h : (c.run m).1.result = .ok (.redirect d)) : ∃ l', (c.run m).2.find? c.session = some l' ∧
      (∀ id ∈ c.scope, l'.id = id) ∧ s.Sends c.surroundings (c.opened m) l' d := by
  by_cases opens : c.Opens m
  · have named : ∀ id ∈ c.scope, (c.opened m).id = id := by
      intro id hid
      obtain ⟨l, hl, rfl⟩ := opens id hid
      rw [opened_of_find? hl]
    rw [run_of_opens opens, Memory.find?_insert_self]
    rw [run_of_opens opens, Decision.outcome, Decision.result] at h
    refine ⟨_, rfl, ?_⟩
    unfold Decision.after
    rw [decision, submits] at h ⊢
    cases hv : ((Operation.submit s).decide c.surroundings (c.opened m)).verdict with
    | answer r =>
      rw [hv] at h
      cases h
      exact ⟨named, .inl ⟨.of_decide hv, rfl⟩⟩
    | fail f =>
      rw [hv] at h
      cases h
    | save stored r =>
      rw [hv] at h
      cases h
      have stores := decide_eq_save_iff.1 hv
      obtain ⟨sameId, sameVersion⟩ := stores.id_version
      refine ⟨fun id hid => sameId.trans (named id hid), .inr ⟨stored, stores, ?_⟩⟩
      rw [← sameVersion]
  · rw [run_of_not_opens opens] at h
    cases h

theorem AddressTarget.missing?_eq_some {t : AddressTarget} {page : Page} (h : t.missing? l = some page) :
    ∃ c : Collection, page = c.detailsPage := by
  cases t with
  | donor => cases h
  | certificateProvider => cases h
  | actor c id => exact ⟨c, (Option.some.inj (Option.ite_none_left_eq_some.1 h).2).symm⟩

theorem page_of_back? {source : Option String} (elsewhere : back? source ≠ some (.of .paymentConfirmation))
    (page : d.page ≠ .paymentConfirmation) : ((back? source).getD d).page ≠ .paymentConfirmation := by
  cases hb : back? source with
  | none => exact page
  | some hint =>
    obtain ⟨s, -, hs⟩ := Option.bind_eq_some_iff.1 hb
    obtain ⟨p, -, rfl⟩ := Option.map_eq_some_iff.1 hs
    rintro rfl
    exact elsewhere hb

theorem page_afterSummary (c : Collection) (a : YesNo) (l : Lpa) : (afterSummary c a l).page ≠ .paymentConfirmation := by
  cases a with
  | yes => cases c <;> exact nofun
  | no =>
    unfold afterSummary Destination.of
    cases c <;> dsimp only <;> (repeat' split) <;> exact nofun

theorem page_afterRemoval (c : Collection) (remaining : Nat) :
    (afterRemoval c remaining).page ≠ .paymentConfirmation := by
  unfold afterRemoval Destination.of
  cases c <;> dsimp only <;> split <;> exact nofun

theorem page_afterDetails (c : Collection) (id : String) (isNew : Bool) {source : Option String}
    (elsewhere : back? source ≠ some (.of .paymentConfirmation)) :
    (afterDetails c id isNew source).page ≠ .paymentConfirmation := by
  refine page_of_back? elsewhere ?_
  cases c <;> cases isNew <;> exact nofun

theorem AddressTarget.page_next (t : AddressTarget) {source : Option String}
    (elsewhere : back? source ≠ some (.of .paymentConfirmation)) : (t.next source).page ≠ .paymentConfirmation := by
  cases t with
  | donor => exact page_of_back? elsewhere nofun
  | certificateProvider => exact page_of_back? elsewhere nofun
  | actor c id => exact page_of_back? elsewhere (by cases c <;> exact nofun)

theorem Submission.Turns.page (turns : s.Turns l d) : d.page ≠ .paymentConfirmation := by
  cases turns with
  | attorneysListed => exact page_afterSummary _ _ _
  | peopleListed => exact page_afterSummary _ _ _
  | @attorneyKept role => cases role <;> exact nofun
  | personKept => exact nofun
  | @addressMissing t f page missing =>
    obtain ⟨c, rfl⟩ := AddressTarget.missing?_eq_some missing
    cases c <;> exact nofun

theorem Stores.page {l' : Lpa} (hs : Stores w l (.submit s) l' (.redirect d))
    (elsewhere : back? s.source? ≠ some (.of .paymentConfirmation)) : d.page ≠ .paymentConfirmation := by
  cases hs with
  | attorneyEdited => exact page_afterDetails _ _ _ elsewhere
  | attorneyAdded => exact page_afterDetails _ _ _ elsewhere
  | personEdited => exact page_afterDetails _ _ _ elsewhere
  | personAdded => exact page_afterDetails _ _ _ elsewhere
  | providerFilledIn => exact page_of_back? elsewhere nofun
  | @addressGiven t => exact t.page_next elsewhere
  | attorneyRemoved => exact page_afterRemoval _ _
  | personRemoved => exact page_afterRemoval _ _
  | stepInChosen =>
    unfold afterStepIn Destination.of
    dsimp only
    split <;> exact nofun
  | _ => exact nofun

/-- Only its hint sends a form to where a payment comes back to. -/
theorem Submission.Sends.page {l' : Lpa} (sends : s.Sends w l l' d)
    (elsewhere : back? s.source? ≠ some (.of .paymentConfirmation)) : d.page ≠ .paymentConfirmation := by
  rcases sends with ⟨turns, -⟩ | ⟨stored, stores, -⟩
  · exact turns.page
  · exact stores.page elsewhere

/-! ### The first page -/

/-- Whether a form is about an actor of a collection, be it a new one; an address and a removal only of somebody who is
    there. -/
inductive Submission.About (l : Lpa) : Submission → Collection → Prop
  | attorney {role : AttorneyRole} {id : Option String} {f : ActorDetails} :
      About l (.actorDetails role id f) role.collection
  | person {id : Option String} {f : PersonDetails} : About l (.personDetails id f) .peopleToNotify
  | address {c : Collection} {id : String} {f : AddressForm} (there : id ∈ l.ids c) :
      About l (.address (.actor c id) f) c
  | attorneyRemoval {role : AttorneyRole} {id : String} {f : YesNoForm} (there : id ∈ l.ids role.collection) :
      About l (.removeAttorney role id f) role.collection
  | personRemoval {id : String} {f : YesNoForm} (there : id ∈ l.ids .peopleToNotify) :
      About l (.removePerson id f) .peopleToNotify

/-- The actor that the details of somebody new make, under an id. -/
def Submission.created? (id : String) : Submission → Option ShownActor
  | .actorDetails _ _ f => some (.attorney (f.trimmed.fill { id }))
  | .personDetails _ f => some (.person (f.trimmed.fill { id }))
  | _ => none

/-- What a form about an actor of a collection comes to: the address of the actor just created, a list that is not empty
    and has nobody new, or the page where one may begin when nobody is left. -/
inductive Submission.Arrives (l l' : Lpa) (s : Submission) (c : Collection) : Destination → Reply → Prop
  | created {id : String} {actor : ShownActor} (fresh : id ∉ l.ids c) (last : l'.ids c = l.ids c ++ [id])
      (filled : s.created? id = some actor) :
      Arrives l l' s c { page := c.addressPage, id := some id } (.shown l' (some actor))
  | listed (there : 0 < l'.count c) (known : l'.ids c ⊆ l.ids c) :
      Arrives l l' s c (.of c.summaryPage) (.shown l' none)
  | emptied {r : Reply} (nobody : l'.count c = 0) (page : r.isPage = true) : Arrives l l' s c (.of c.entryPage) r

section
variable {l' : Lpa} {c : Collection} {id : String}

theorem arrives_created (actor : ShownActor) (fresh : id ∉ l.ids c) (last : l'.ids c = l.ids c ++ [id])
    (filled : s.created? id = some actor) (shown : shownActor? l' c (some id) = some actor) :
    s.Arrives l l' c { page := c.addressPage, id := some id }
      (Destination.answer l' { page := c.addressPage, id := some id }) := by
  have stays : Destination.answer l' { page := c.addressPage, id := some id } = .shown l' (some actor) := by
    simp [Destination.answer, Destination.instead?, Destination.shown, insteadOfAddress, shown]
  rw [stays]
  exact .created fresh last filled

theorem arrives_listed (there : 0 < l'.count c) (known : l'.ids c ⊆ l.ids c) :
    s.Arrives l l' c (.of c.summaryPage) ((Destination.of c.summaryPage).answer l') := by
  have stays : (Destination.of c.summaryPage).answer l' = .shown l' none := by
    simp [Destination.answer, Destination.instead?, Destination.shown, Destination.of, insteadOfSummary,
      Nat.ne_of_gt there]
  rw [stays]
  exact .listed there known

/-- Where the ids are as they were, the list has whoever a form is about. -/
theorem arrives_kept (there : id ∈ l.ids c) (same : l'.ids c = l.ids c) :
    s.Arrives l l' c (.of c.summaryPage) ((Destination.of c.summaryPage).answer l') :=
  arrives_listed (Lpa.count_pos_of_mem (same ▸ there)) (same ▸ List.Subset.refl _)

theorem arrives_emptied (nobody : l'.count c = 0) :
    s.Arrives l l' c (.of c.entryPage) ((Destination.of c.entryPage).answer l') := by
  refine .emptied nobody ?_
  have stays : (Destination.of c.entryPage).instead? l' = none := by
    cases c with
    | attorneys => simp [Destination.instead?, Destination.of, Collection.entryPage, Web.part?, insteadOfDetails, nobody]
    | replacements => rfl
    | peopleToNotify => rfl
  rw [Destination.answer_of_not_instead? stays]
  exact Destination.isPage_shown _ _

theorem arrives_removed (known : l'.ids c ⊆ l.ids c) :
    s.Arrives l l' c (afterRemoval c (l'.count c)) ((afterRemoval c (l'.count c)).answer l') := by
  unfold afterRemoval
  split
  · rename_i nobody
    exact arrives_emptied nobody
  · rename_i there
    exact arrives_listed (Nat.pos_of_ne_zero there) known

end

/-! ### The first page of each form -/

theorem shownActor?_collection (l : Lpa) (role : AttorneyRole) (id : String) :
    shownActor? l role.collection (some id) = ((l.attorneysOf role).get? id).map .attorney := by
  cases role <;> rfl

theorem ids_giveAddress (l : Lpa) (c : Collection) (id : String) (a : Address) (version : Nat) :
    Lpa.ids { (AddressTarget.actor c id).settle ((AddressTarget.actor c id).set a l) with version } c = l.ids c := by
  cases c with
  | attorneys => exact l.attorneys.ids_modify id (fun x => { x with address := a }) fun _ => rfl
  | replacements => exact l.replacements.ids_modify id (fun x => { x with address := a }) fun _ => rfl
  | peopleToNotify => exact l.peopleToNotify.ids_modify id (fun x => { x with address := a }) fun _ => rfl

theorem afterDetails_of_new (c : Collection) (id : String) {source : Option String} (unhinted : back? source = none) :
    afterDetails c id true source = { page := c.addressPage, id := some id } := by
  rw [afterDetails, unhinted, Option.getD_none, if_pos rfl]

theorem afterDetails_of_known (c : Collection) (id : String) {source : Option String} (unhinted : back? source = none) :
    afterDetails c id false source = .of c.summaryPage := by
  rw [afterDetails, unhinted, Option.getD_none, if_neg Bool.false_ne_true]

variable {c : Collection}

theorem Submission.Turns.arrives (turns : s.Turns l d) (about : s.About l c) : s.Arrives l l c d (d.answer l) := by
  cases about with
  | attorney => cases turns
  | person => cases turns
  | @address c id f there =>
    cases turns with
    | addressMissing missing =>
      have present : (AddressTarget.actor c id).missing? l = none := by
        rw [AddressTarget.missing?_eq_none_iff]
        rintro _ _ ⟨⟩
        exact there
      rw [present] at missing
      cases missing
  | attorneyRemoval there =>
    cases turns
    exact arrives_kept there rfl
  | personRemoval there =>
    cases turns
    exact arrives_kept there rfl

theorem arrives_of_attorney {role : AttorneyRole} {id : Option String} {f : ActorDetails} {stored : Lpa}
    (hs : Stores w l (.submit (.actorDetails role id f)) stored (.redirect d)) (unhinted : back? f.trimmed.source = none)
    (version : Nat) : Submission.Arrives l { stored with version } (.actorDetails role id f) role.collection d
      (d.answer { stored with version }) := by
  cases hs with
  | @attorneyEdited _ _ _ a found accepted =>
    have there := Roster.id_mem_of_bind_get? found
    rw [afterDetails_of_known _ _ unhinted]
    refine arrives_kept ((Lpa.ids_collection l role).symm ▸ there) ?_
    rw [Lpa.ids_collection, attorneysOf_settle, Lpa.ids_collection]
    exact Roster.ids_put_of_mem there
  | @attorneyAdded _ _ _ fresh source missing accepted minted =>
    have new := Source.notMem_of_mint? minted
    rw [afterDetails_of_new _ _ unhinted]
    refine arrives_created (.attorney (f.trimmed.fill { id := fresh })) ?_ ?_ rfl ?_
    · rw [Lpa.ids_collection]
      exact new
    · rw [Lpa.ids_collection, attorneysOf_settle, Lpa.ids_collection]
      exact Roster.ids_put_of_notMem new
    · rw [shownActor?_collection, attorneysOf_settle]
      exact congrArg _ (Roster.get?_put_of_notMem new)

theorem arrives_of_person {id : Option String} {f : PersonDetails} {stored : Lpa}
    (hs : Stores w l (.submit (.personDetails id f)) stored (.redirect d)) (unhinted : back? f.trimmed.source = none)
    (version : Nat) : Submission.Arrives l { stored with version } (.personDetails id f) .peopleToNotify d
      (d.answer { stored with version }) := by
  cases hs with
  | personEdited found accepted =>
    have there := Roster.id_mem_of_bind_get? found
    rw [afterDetails_of_known _ _ unhinted]
    exact arrives_kept there (Roster.ids_put_of_mem there)
  | @personAdded _ _ fresh source missing accepted minted =>
    have new := Source.notMem_of_mint? minted
    rw [afterDetails_of_new _ _ unhinted]
    exact arrives_created (.person (f.trimmed.fill { id := fresh })) new (Roster.ids_put_of_notMem new) rfl
      (congrArg (Option.map ShownActor.person) (Roster.get?_put_of_notMem new))

theorem Stores.arrives {stored : Lpa} (hs : Stores w l (.submit s) stored (.redirect d)) (about : s.About l c)
    (unhinted : back? s.source? = none) (version : Nat) :
    s.Arrives l { stored with version } c d (d.answer { stored with version }) := by
  cases about with
  | attorney => exact arrives_of_attorney hs unhinted version
  | person => exact arrives_of_person hs unhinted version
  | @address c id f there =>
    cases hs with
    | addressGiven found given =>
      have sent : back? f.source = none := unhinted
      rw [AddressTarget.next, afterAddress, sent, Option.getD_none]
      exact arrives_kept there (ids_giveAddress _ _ _ _ _)
  | @attorneyRemoval role id f there =>
    cases hs with
    | attorneyRemoved found confirmed =>
      have rest := attorneysOf_prune l role ((l.attorneysOf role).erase id) version
      have count := congrArg Roster.size rest
      rw [← Lpa.count_collection] at count
      rw [← count]
      refine arrives_removed ?_
      rw [Lpa.ids_collection, rest, Lpa.ids_collection]
      exact Roster.ids_erase_subset _ _
  | personRemoval there =>
    cases hs with
    | personRemoved found confirmed => exact arrives_removed (Roster.ids_erase_subset _ _)

/-- Whatever a form sends the user to, be it by its hint, ends on a page after two redirects more at most, unless the
    hint is where a payment comes back to. A form about an actor of a collection that has no hint leads to a page at
    once: to the address of the actor just created, to a list that is not empty and has nobody new, or to where one
    begins when nobody is left. And whatever ids and wishes there are on the way, redirects between pages never lead
    back to the same page. -/
theorem redirects_land :
    (∀ (c : Call) (m : Memory) (s : Submission) (d : Destination), c.operation = .submit s →
      (c.run m).1.result = .ok (.redirect d) →
      (back? s.source? ≠ some (.of .paymentConfirmation) → Lands (c.run m).2 c.session c.scope 2 d) ∧
      ∀ actors, s.About (c.opened m) actors → back? s.source? = none →
        ∃ l' r, (c.run m).2.find? c.session = some l' ∧ Gets (c.run m).2 c.session c.scope d r ∧
          s.Arrives (c.opened m) l' actors d r) ∧
    ∀ (m : Memory) (session : String) (scope : Option String) (d d' : Destination),
      Relation.TransGen (fun d d' => Gets m session scope d (.redirect d')) d d' → d'.page ≠ d.page := by
  refine ⟨fun c m s d submits sent => ?_, fun m session scope d d' => ne_of_transGen⟩
  obtain ⟨l', found, named, sends⟩ := Call.sends submits sent
  refine ⟨fun elsewhere => lands_of_depth found named (sends.page elsewhere) (Page.depth_le _ _), ?_⟩
  intro actors about unhinted
  have page := sends.page (by rw [unhinted]; exact nofun)
  refine ⟨l', d.answer l', found, gets_answer found named page, ?_⟩
  rcases sends with ⟨turns, rfl⟩ | ⟨stored, stores, rfl⟩
  · exact turns.arrives about
  · exact stores.arrives about unhinted _

/-- The first attorney is shown where the address is to be filled in. Whoever wants to remove somebody else from an empty
    list ends on a page too. -/
theorem redirects_land_of_first :
    let adds := Submission.call (.details .primary "Ann") "session"
    let removes := Submission.call (.removeAttorney .primary "00000002" { yesNo := "yes" }) "session"
    (∃ l' a, a.firstNames = "Ann" ∧
      Gets (adds.run {}).2 "session" none { page := .attorneyAddress, id := some "00000001" }
        (.shown l' (some (.attorney a)))) ∧
      Lands (removes.run {}).2 "session" none 2 (.of .attorneySummary) := by
  intro adds removes
  let address : Destination := { page := .attorneyAddress, id := some "00000001" }
  have added : (adds.run {}).1.result = .ok (.redirect address) := by decide +kernel
  have removed : (removes.run {}).1.result = .ok (.redirect (.of .attorneySummary)) := by decide +kernel
  obtain ⟨sent, -⟩ := redirects_land
  refine ⟨?_, (sent removes {} _ _ rfl removed).1 (by decide)⟩
  obtain ⟨l', r, -, gets, arrives⟩ := (sent adds {} _ _ rfl added).2 .attorneys .attorney rfl
  generalize hd : address = d at arrives
  cases arrives with
  | created fresh last filled =>
    cases filled
    exact ⟨l', _, (by decide : Text.trim "Ann" = "Ann"), gets⟩
  | listed => exact absurd (congrArg Destination.page hd) (by decide)
  | emptied => exact absurd (congrArg Destination.page hd) (by decide)

end Wizard

end PowerOfAttorney
