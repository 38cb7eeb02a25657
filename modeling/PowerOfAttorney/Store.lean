import PowerOfAttorney.Lpa
import PowerOfAttorney.Text.Decimal

/-!
Where LPAs are kept: one for each session, written as a whole.

A write names the version that was read. It succeeds only on that version, zero where nothing is stored, and
answers the next one.
-/

namespace PowerOfAttorney

/-- Why a store did not do what it was asked to. -/
inductive StoreError where
  | unavailable (reason : String)
  | serialization (reason : String)
  | conflict (expected found : Nat)
  | operation (reason : String)
deriving DecidableEq, Repr

namespace StoreError

/-- What is said of the error. -/
def message : StoreError → String
  | .unavailable reason => "lpa store unavailable: " ++ reason
  | .serialization reason => "lpa serialization error: " ++ reason
  | .conflict expected found =>
    "lpa version conflict: expected " ++ Text.Decimal.ofNat expected ++ ", found " ++ Text.Decimal.ofNat found
  | .operation reason => "lpa store error: " ++ reason

/-- Whether another write came first. -/
def isConflict : StoreError → Bool
  | .conflict _ _ => true
  | _ => false

end StoreError

/-- A store whose content is a `σ`. -/
structure Store (σ : Type) where
  /-- What is stored for a session. -/
  get : String → σ → Except StoreError (Option Lpa) × σ
  /-- Writes the LPA of a session, which carries the version it was read with. -/
  put : String → Lpa → σ → Except StoreError Nat × σ

end PowerOfAttorney
