import PowerOfAttorney.Store

/-!
A store that fails when it is told to: once for the next read, once for the next write. The store below it is not
reached then.
-/

namespace PowerOfAttorney

/-- The content of a store, and the failures that wait for the next read and the next write. -/
structure Faulty (σ : Type) where
  content : σ
  nextGet : Option StoreError := none
  nextPut : Option StoreError := none
deriving Repr

namespace Faulty

/-- Lets the next read fail, where there is something to fail with. -/
def armGet {σ : Type} (s : Faulty σ) (e : Option StoreError) : Faulty σ :=
  { s with nextGet := e.orElse fun _ => s.nextGet }

/-- Lets the next write fail, where there is something to fail with. -/
def armPut {σ : Type} (s : Faulty σ) (e : Option StoreError) : Faulty σ :=
  { s with nextPut := e.orElse fun _ => s.nextPut }

/-- A store with such failures before it. -/
def store {σ : Type} (below : Store σ) : Store (Faulty σ) where
  get session s := match s.nextGet with
    | some e => (.error e, { s with nextGet := none })
    | none =>
      let (answer, content) := below.get session s.content
      (answer, { s with content })
  put session l s := match s.nextPut with
    | some e => (.error e, { s with nextPut := none })
    | none =>
      let (answer, content) := below.put session l s.content
      (answer, { s with content })

/-- A write that fails leaves the content alone, and is the only one that does. -/
theorem store_put_armed {σ : Type} (below : Store σ) (s : Faulty σ) (e : StoreError) (session : String) (l : Lpa) :
    (store below).put session l { s with nextPut := some e } = (.error e, { s with nextPut := none }) := rfl

/-- A read that fails leaves the content alone, and is the only one that does. -/
theorem store_get_armed {σ : Type} (below : Store σ) (s : Faulty σ) (e : StoreError) (session : String) :
    (store below).get session { s with nextGet := some e } = (.error e, { s with nextGet := none }) := rfl

end Faulty

end PowerOfAttorney
