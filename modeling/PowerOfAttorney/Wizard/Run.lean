import PowerOfAttorney.Wizard.Operation

/-!
An operation on a store: one read, and the writes that follow from it.

What is left of an operation once the store was read is a `Course`, so that other operations may come between its
read and its writes. An LPA is created on the first use of a session, unless a certain LPA is asked for.
-/

namespace PowerOfAttorney.Wizard

/-- What has become of an operation. -/
structure Outcome where
  result : Except Failure Reply
  /-- The source of texts as it is left. -/
  source : Source
  /-- The postcodes asked for. -/
  lookedUp : List String := []

/-- What is left of an operation after its read: it is done, or it writes and goes on with the answer to that. -/
inductive Course where
  | done (o : Outcome)
  | write (l : Lpa) (next : Except StoreError Nat → Course)

/-- What follows from a decision. -/
def Decision.course (d : Decision) : Course :=
  let ends := fun result => Course.done { result, source := d.source, lookedUp := d.lookedUp }
  match d.verdict with
  | .answer reply => ends (.ok reply)
  | .fail f => ends (.error f)
  | .save l reply => .write l fun
    | .ok _ => ends (.ok reply)
    | .error e => ends (.error (.store e))

/-- What is left of an operation after its read. `scope` is the id of the LPA asked for, if one is. -/
def Operation.course (w : Surroundings) (scope : Option String) (op : Operation)
    (stored : Except StoreError (Option Lpa)) : Course :=
  let fails := fun f => Course.done { result := .error f, source := w.source }
  match stored, scope with
  | .error e, _ => fails (.store e)
  | .ok (some l), none => (op.decide w l).course
  | .ok (some l), some id => if l.id = id then (op.decide w l).course else fails .notFound
  | .ok none, some _ => fails .notFound
  | .ok none, none => .write (.empty w.newId) fun
    | .ok version => (op.decide w { Lpa.empty w.newId with version }).course
    | .error e => fails (.store e)

/-- Goes through with what is left of an operation. -/
def Course.run {σ : Type} (store : Store σ) (session : String) : Course → σ → Outcome × σ
  | .done o, s => (o, s)
  | .write l next, s =>
    let (answer, s) := store.put session l s
    (next answer).run store session s

/-- Carries out an operation for a session. -/
def Operation.run {σ : Type} (store : Store σ) (w : Surroundings) (session : String) (scope : Option String)
    (op : Operation) (s : σ) : Outcome × σ :=
  let (stored, s) := store.get session s
  (op.course w scope stored).run store session s

end PowerOfAttorney.Wizard
