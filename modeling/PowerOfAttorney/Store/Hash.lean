import PowerOfAttorney.Lpa.Storage
import PowerOfAttorney.Store

/-!
LPAs in a server that keeps hashes by key.

The hash of a session has two fields: the version, and the text of the LPA, which was written before its version
was raised. Reading asks for both at once; writing is a script, which the server runs as a whole and which writes
only on the version expected. The numbers of the script are doubles.
-/

namespace PowerOfAttorney.HashStore

open Text

/-! ### Commands and replies -/

/-- What the server is asked to do. -/
inductive Command where
  /-- Give the version and the data of a key. -/
  | read (key : String)
  /-- Set the data of a key, and raise its version, if it has the version expected. -/
  | write (key : String) (expected : Nat) (payload : String)
deriving DecidableEq, Repr

/-- A value that the server gives. -/
inductive Value where
  | nil
  | int (n : Int)
  | text (s : String)
deriving DecidableEq, Repr

/-- What the server answers. -/
inductive Reply where
  | values (vs : List Value)
  | error (reason : String)
deriving DecidableEq, Repr

namespace Value

/-- A value as a version: a number below the bound of versions, as such or as its digits. -/
def version? : Value → Option Nat
  | .int (.ofNat n) => if n < versionBound then some n else none
  | .text s => match Decimal.natural? s with
    | some n => if n < versionBound then some n else none
    | none => none
  | _ => none

/-- A value as a text. -/
def text? : Value → Option String
  | .int n => some (Decimal.ofInt n)
  | .text s => some s
  | .nil => none

/-- A value that may be missing. -/
def optional {α : Type} (f : Value → Option α) : Value → Option (Option α)
  | .nil => some none
  | v => (f v).map some

end Value

/-! ### Asking -/

/-- The text before the keys of sessions, unless the settings name another. -/
def defaultLead : String := "lpa:donor"

/-- The key of a session. -/
def key (lead session : String) : String := lead ++ ":" ++ session

/-- The command that reads the LPA of a session. -/
def readCommand (lead session : String) : Command := .read (key lead session)

/-- The command that writes the LPA of a session. -/
def writeCommand (lead session : String) (l : Lpa) : Command := .write (key lead session) l.version l.encode

/-- The LPA that the reply to a read gives. Nothing is stored unless both fields are there. -/
def readResult : Reply → Except StoreError (Option Lpa)
  | .error reason => .error (.operation reason)
  | .values [v, d] => match v.optional Value.version?, d.optional Value.text? with
    | some (some version), some (some payload) => match Lpa.decode? payload version with
      | some l => .ok (some l)
      | none => .error (.serialization "malformed lpa")
    | some _, some _ => .ok none
    | _, _ => .error (.operation "malformed reply")
  | .values _ => .error (.operation "malformed reply")

/-- Numbers as a list with brackets around it. -/
def listText (ns : List Nat) : String := "[" ++ ", ".intercalate (ns.map Decimal.ofNat) ++ "]"

/-- The new version that the reply to a write gives: 1 and the new version where it was written, 0 and the version
    found where it was not. -/
def writeResult (expected : Nat) : Reply → Except StoreError Nat
  | .error reason => .error (.operation reason)
  | .values vs => match vs.mapM Value.version? with
    | some [1, version] => .ok version
    | some [0, found] => .error (.conflict expected found)
    | some other => .error (.operation ("unexpected put reply: " ++ listText other))
    | none => .error (.operation "malformed reply")

/-! ### The numbers of the script -/

/-- How many bits of a number are kept. -/
def precision : Nat := 53

/-- The nearest of the numbers to a whole one; of two that are as near, the one whose last bit is zero. -/
def rounded (n : Nat) : Nat :=
  let unit := Nat.pow 2 (n.log2 + 1 - precision)
  let kept := n / unit
  let rest := n % unit
  if 2 * rest < unit ∨ (2 * rest = unit ∧ kept % 2 = 0) then kept * unit else (kept + 1) * unit

/-- The number that a text writes in digits, if it does. -/
def number? (s : String) : Option Nat := (Decimal.natural? s).map rounded

/-! ### The server -/

/-- The texts of a server, by key and field. -/
abbrev Hashes := String → String → Option String

namespace Hashes

def empty : Hashes := fun _ _ => none

/-- The hashes with other texts for fields of a key. -/
def set (h : Hashes) (key : String) (fields : List (String × String)) : Hashes := fun k field =>
  if k = key then (fields.lookup field).or (h k field) else h k field

end Hashes

/-- A field as the server gives it. -/
def Value.ofField : Option String → Value
  | none => .nil
  | some s => .text s

/-- The script that writes: it compares the version stored, zero where there is none, with the one expected, and
    raises it where they are equal. What it gives ends before a number that is missing. -/
def putScript (key expected payload : String) (h : Hashes) : Reply × Hashes :=
  let stored := number? ((h key "version").getD "0")
  if stored ≠ number? expected then (.values (.int 0 :: stored.toList.map fun n : Nat => .int n), h)
  else match stored with
    | some stored =>
      let next := rounded (stored + 1)
      (.values [.int 1, .int next], h.set key [("version", Decimal.ofNat next), ("data", payload)])
    | none => (.error "attempt to perform arithmetic on a nil value", h)

/-- What the server answers to a command, and its hashes afterwards. -/
def Command.run : Command → Hashes → Reply × Hashes
  | .read key, h => (.values [.ofField (h key "version"), .ofField (h key "data")], h)
  | .write key expected payload, h => putScript key (Decimal.ofNat expected) payload h

/-- The hashes of a server as a store. -/
def store (lead : String) : Store Hashes where
  get session h :=
    let (reply, h) := (readCommand lead session).run h
    (readResult reply, h)
  put session l h :=
    let (reply, h) := (writeCommand lead session l).run h
    (writeResult l.version reply, h)

end PowerOfAttorney.HashStore
