import PowerOfAttorney.Proofs.Session
import PowerOfAttorney.Store.Faulty
import PowerOfAttorney.Web.Server

/-! Who gets at what through the pages. A request to a page is refused unless it has a session and names the LPA of that
    session; otherwise the one operation that it is planned for is about that LPA, and may store it again (`Reaches`).
    So nothing of another session is touched, whoever is sent on stays with the LPA that was named, and a page of a
    collection leaves the actors of the others alone. -/

namespace PowerOfAttorney

open Form Wizard

/-! ### Operations about one collection -/

namespace Wizard

/-- The collection that a form is about, if it is about one. -/
def Submission.collection? : Submission → Option Collection
  | .actorDetails role _ _ => some role.collection
  | .attorneySummary role _ => some role.collection
  | .removeAttorney role _ _ => some role.collection
  | .address (.actor c _) _ => some c
  | .personDetails _ _ => some .peopleToNotify
  | .peopleSummary _ => some .peopleToNotify
  | .removePerson _ _ => some .peopleToNotify
  | _ => none

/-- The collection that an operation is about, if it is about one. -/
def Operation.collection? : Operation → Option Collection
  | .detailsPage c _ _ => some c
  | .addressPage c _ => some c
  | .summaryPage c => some c
  | .removePage c _ => some c
  | .submit s => s.collection?
  | _ => none

end Wizard

/-- Whether two LPAs have the same actors in a collection. -/
def Lpa.SameIn (l l' : Lpa) : Collection → Prop
  | .attorneys => l'.attorneys = l.attorneys
  | .replacements => l'.replacements = l.replacements
  | .peopleToNotify => l'.peopleToNotify = l.peopleToNotify

namespace Lpa.SameIn
variable {l l' : Lpa} {c : Collection}

theorem refl (l : Lpa) (c : Collection) : l.SameIn l c := by
  cases c <;> rfl

theorem version (h : l.SameIn l' c) (version : Nat) : l.SameIn { l' with version } c := by
  cases c <;> exact h

theorem settleAttorneys (h : l.SameIn l' c) (role : AttorneyRole) : l.SameIn (l'.settleAttorneys role) c := by
  cases c <;> exact h

theorem prune (h : l.SameIn l' c) : l.SameIn l'.prune c := by
  cases c with
  | attorneys => exact (Lpa.prune_attorneys l').trans h
  | replacements => exact (Lpa.prune_replacements l').trans h
  | peopleToNotify => exact (Lpa.prune_peopleToNotify l').trans h

theorem withAttorneys (l : Lpa) (role : AttorneyRole) (other : c ≠ role.collection) (rest : Roster Attorney) :
    l.SameIn (l.withAttorneys role rest) c := by
  cases role <;> cases c <;> first | rfl | exact absurd rfl other

theorem withPeople (l : Lpa) (other : c ≠ .peopleToNotify) (rest : Roster PersonToNotify) :
    l.SameIn (Lpa.settlePeople { l with peopleToNotify := rest }) c := by
  cases c <;> first | rfl | exact absurd rfl other

theorem giveAddress (l : Lpa) {actors : Collection} (other : c ≠ actors) (id : String) (a : Address) :
    l.SameIn ((AddressTarget.actor actors id).settle ((AddressTarget.actor actors id).set a l)) c := by
  cases actors with
  | attorneys => exact (withAttorneys l .primary other _).settleAttorneys .primary
  | replacements => exact (withAttorneys l .replacement other _).settleAttorneys .replacement
  | peopleToNotify => exact withPeople l other _

end Lpa.SameIn

namespace Wizard

end Wizard

namespace Web

/-! ### What is planned for a page -/

/-- A response that refuses, and leads nowhere. -/
structure Response.Refuses (r : Response) : Prop where
  status : 400 ≤ r.status
  location : r.location = none

theorem Problem.refuses (p : Problem) : p.response.Refuses := by
  refine ⟨?_, rfl⟩
  cases p with
  | validation reason => exact Nat.le_refl 400
  | _ => decide

/-- What is planned for a session's request to a page: a refusal, or an operation confined to the LPA named there, which
    is about a collection if the page is. -/
inductive Plan.Fits (session : String) (lpaId : List Char) (p : Page) : Plan → Prop
  | refusal {r : Response} (refuses : r.Refuses) : Fits session lpaId p (.answer r)
  | operation {id : String} {op : Operation} (named : Route.decodeId? lpaId = some id)
      (about : ∀ c part, part? p = some (c, part) → op.collection? = some c) :
      Fits session lpaId p (.operate session (some id) op (replyResponse p id))

section
variable {session : String} {lpaId : List Char} {p : Page} {r : Request}

end

/-! ### What becomes of a request -/

/-- All that a session's request to a page can come to: a refusal, an answer about the LPA named there, or that LPA with
    what an operation of the page has made of it. -/
inductive Reaches (w : Surroundings) (before : Memory) (session : String) (lpaId : List Char) (p : Page) :
    Response → Memory → Prop
  | refused {r : Response} (refuses : r.Refuses) : Reaches w before session lpaId p r before
  | answered {r : Response} {l : Lpa} (found : before.find? session = some l)
      (named : Route.decodeId? lpaId = some l.id) (leads : ∀ url ∈ r.location, ∃ d : Destination, url = d.url l.id) :
      Reaches w before session lpaId p r before
  | stored {r : Response} {l l' : Lpa} {op : Operation} {reply : Reply} (found : before.find? session = some l)
      (named : Route.decodeId? lpaId = some l.id) (leads : ∀ url ∈ r.location, ∃ d : Destination, url = d.url l.id)
      (stores : Stores w l op l' reply) (about : ∀ c part, part? p = some (c, part) → op.collection? = some c) :
      Reaches w before session lpaId p r (before.insert session { l' with version := l.version + 1 })

section
variable {v : Server (Faulty Memory)} {w : Surroundings} {session : String} {lpaId : List Char} {p : Page}

variable {newSession : String} {r : Request}

/-- The session of a request, as far as its token is one of the server's. -/
def Server.session? {σ : Type} (v : Server σ) (r : Request) : Option String :=
  (Session.token? r.headers v.settings.sessionCookie).bind (v.tokens.session? v.settings.sessionSecret)

theorem Reaches.congr {before after : Memory} {a b : Response} (h : Reaches w before session lpaId p a after)
    (status : b.status = a.status) (location : b.location = a.location) :
    Reaches w before session lpaId p b after := by
  cases h with
  | refused refuses => exact .refused ⟨status ▸ refuses.status, location.trans refuses.location⟩
  | answered found named leads => exact .answered found named (location ▸ leads)
  | stored found named leads stores about => exact .stored found named (location ▸ leads) stores about

end

/-! ### What follows for the store and for the caller -/

namespace Reaches
variable {w : Surroundings} {before after : Memory} {session : String} {lpaId : List Char} {p : Page} {r : Response}

end Reaches

end Web

end PowerOfAttorney
