import PowerOfAttorney.Actor
import PowerOfAttorney.Answer
import PowerOfAttorney.Task

/-!
A lasting power of attorney as far as it is filled in: one record for each donor's session.

The version counts the writes to the store. Answers about how attorneys act together are dropped when the
arrangement they belong to is gone.
-/

namespace PowerOfAttorney

structure Payment where
  reference : String := ""
  paymentId : String := ""
deriving DecidableEq, Repr, Inhabited

/-- What a service that proves identities has answered: the names it vouches for, whether they were the donor's,
    and when that was, in milliseconds. -/
structure IdentityRecord where
  ok : Bool := false
  firstNames : String := ""
  lastName : String := ""
  retrievedAt : Int := 0
deriving DecidableEq, Repr, Inhabited

structure Lpa where
  id : String := ""
  version : Nat := 0
  donor : Donor := {}
  lpaType : Option LpaType := none
  attorneys : Roster Attorney := {}
  attorneysDecide : Option DecisionMode := none
  wantReplacements : Option YesNo := none
  replacements : Roster Attorney := {}
  replacementsDecide : Option DecisionMode := none
  replacementsStepIn : Option StepIn := none
  usableWhen : Option UsableWhen := none
  restrictions : String := ""
  certificateProvider : CertificateProvider := {}
  wantToNotify : Option YesNo := none
  peopleToNotify : Roster PersonToNotify := {}
  checked : Bool := false
  happyToShare : Bool := false
  payment : Option Payment := none
  identityOption : Option IdentityOption := none
  identity : Option IdentityRecord := none
  wantToSign : Bool := false
  wantToApply : Bool := false
  /-- When it was signed, in milliseconds. -/
  submittedAt : Option Int := none
  tasks : Tasks := {}
deriving DecidableEq, Repr, Inhabited

namespace Lpa

/-- What an application costs, in pence. -/
def costInPence : Nat := 8200

/-- An LPA in which nothing is filled in yet. -/
def empty (id : String) : Lpa := { id }

/-- The attorneys of a role. -/
def attorneysOf (l : Lpa) : AttorneyRole → Roster Attorney
  | .primary => l.attorneys
  | .replacement => l.replacements

/-- The LPA with other attorneys in a role. -/
def withAttorneys (l : Lpa) (role : AttorneyRole) (r : Roster Attorney) : Lpa :=
  match role with
  | .primary => { l with attorneys := r }
  | .replacement => { l with replacements := r }

/-- The number of actors in a collection. -/
def count (l : Lpa) : Collection → Nat
  | .attorneys => l.attorneys.size
  | .replacements => l.replacements.size
  | .peopleToNotify => l.peopleToNotify.size

/-- Whether an actor of a collection has an id. -/
def hasActor (l : Lpa) (c : Collection) (id : String) : Bool :=
  match c with
  | .attorneys => l.attorneys.contains id
  | .replacements => l.replacements.contains id
  | .peopleToNotify => l.peopleToNotify.contains id

/-- The ids of a collection. -/
def ids (l : Lpa) : Collection → List String
  | .attorneys => l.attorneys.ids
  | .replacements => l.replacements.ids
  | .peopleToNotify => l.peopleToNotify.ids

/-- Whether the replacement attorneys have to say how they step in: only where several attorneys act jointly and
    severally. -/
def asksStepIn (l : Lpa) : Bool := 1 < l.attorneys.size && l.attorneysDecide == some .jointlyAndSeverally

/-- The LPA with another arrangement between the attorneys. Any but jointly and severally leaves the answer about
    stepping in without a meaning. -/
def arrange (l : Lpa) (mode : Option DecisionMode) : Lpa :=
  { l with
    attorneysDecide := mode
    replacementsStepIn := if mode = some .jointlyAndSeverally then l.replacementsStepIn else none }

/-- The LPA without the arrangements of collections that have shrunk to one actor or none. -/
def prune (l : Lpa) : Lpa :=
  let l := if l.attorneys.size ≤ 1 then l.arrange none else l
  if l.replacements.size ≤ 1 then { l with replacementsDecide := none } else l

/-- The LPA without replacement attorneys and all that they were asked. -/
def clearReplacements (l : Lpa) : Lpa :=
  { l with replacements := {}, replacementsDecide := none, replacementsStepIn := none }

/-- Whether the donor's identity has been confirmed. -/
def identityConfirmed (l : Lpa) : Bool := l.identity.any (·.ok)

theorem hasActor_iff {l : Lpa} {c : Collection} {id : String} : l.hasActor c id = true ↔ id ∈ l.ids c := by
  cases c <;> exact Roster.contains_iff

theorem ids_collection (l : Lpa) (role : AttorneyRole) : l.ids role.collection = (l.attorneysOf role).ids := by
  cases role <;> rfl

theorem count_collection (l : Lpa) (role : AttorneyRole) : l.count role.collection = (l.attorneysOf role).size := by
  cases role <;> rfl

/-- A collection in which an id is in use is not empty. -/
theorem count_pos_of_mem {l : Lpa} {c : Collection} {id : String} (h : id ∈ l.ids c) : 0 < l.count c := by
  have length : (l.ids c).length = l.count c := by cases c <;> exact List.length_map _
  rw [← length]
  exact List.length_pos_of_mem h

theorem withAttorneys_attorneysOf (l : Lpa) (role : AttorneyRole) : l.withAttorneys role (l.attorneysOf role) = l := by
  cases role <;> rfl

/-! ### When stepping in is asked, and what pruning leaves -/

theorem asksStepIn_iff {l : Lpa} :
    l.asksStepIn = true ↔ 1 < l.attorneys.size ∧ l.attorneysDecide = some .jointlyAndSeverally := by
  simp [asksStepIn]

variable (l : Lpa)

/-- Pruning drops answers about arrangements, and changes nothing else. -/
theorem prune_eq : l.prune = { l with
    attorneysDecide := if l.attorneys.size ≤ 1 then none else l.attorneysDecide
    replacementsDecide := if l.replacements.size ≤ 1 then none else l.replacementsDecide
    replacementsStepIn := if l.attorneys.size ≤ 1 then none else l.replacementsStepIn } := by
  unfold prune arrange
  by_cases attorneys : l.attorneys.size ≤ 1 <;> by_cases replacements : l.replacements.size ≤ 1 <;>
    simp [attorneys, replacements]

@[simp] theorem prune_attorneys : l.prune.attorneys = l.attorneys := by rw [prune_eq]

@[simp] theorem prune_replacements : l.prune.replacements = l.replacements := by rw [prune_eq]

@[simp] theorem prune_certificateProvider : l.prune.certificateProvider = l.certificateProvider := by rw [prune_eq]

@[simp] theorem prune_peopleToNotify : l.prune.peopleToNotify = l.peopleToNotify := by rw [prune_eq]

theorem prune_attorneysDecide :
    l.prune.attorneysDecide = if l.attorneys.size ≤ 1 then none else l.attorneysDecide := by rw [prune_eq]

theorem prune_replacementsDecide :
    l.prune.replacementsDecide = if l.replacements.size ≤ 1 then none else l.replacementsDecide := by rw [prune_eq]

theorem prune_replacementsStepIn :
    l.prune.replacementsStepIn = if l.attorneys.size ≤ 1 then none else l.replacementsStepIn := by rw [prune_eq]

end Lpa

end PowerOfAttorney
