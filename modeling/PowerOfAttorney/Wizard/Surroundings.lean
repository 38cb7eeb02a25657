import PowerOfAttorney.Calendar
import PowerOfAttorney.Email
import PowerOfAttorney.Lookup
import PowerOfAttorney.Text.Decimal

/-!
What an operation takes from outside: the time, new texts for ids, the addresses of a postcode, and which texts are
taken for an e-mail address.

An id is minted by drawing texts until one is not taken, however many draws that takes. A source that only repeats ids
that are taken never ends it.
-/

namespace PowerOfAttorney.Wizard

/-- A source of new texts. -/
structure Source where
  /-- The text of the `n`-th draw, from 0, of the length asked for. -/
  text : (n length : Nat) → String
  /-- The number of draws made. -/
  drawn : Nat := 0

namespace Source

/-- Draws a text. -/
def draw (s : Source) (length : Nat) : String × Source := (s.text s.drawn length, { s with drawn := s.drawn + 1 })

/-- The source as so many more draws leave it. -/
def after (s : Source) (draws : Nat) : Source := { s with drawn := s.drawn + draws }

/-- The number of characters of an actor's id. -/
def idLength : Nat := 8

/-- Draws texts until one is not taken; `none` if that never ends. -/
def untilFree? (taken : List String) (s : Source) : Option (String × Source) :=
  let (id, s) := s.draw idLength
  if taken.contains id then (s |>.untilFree? taken) else some (id, s)
partial_fixpoint

/-- The same within so many draws; `none` if all that they give are taken. -/
def mintWithin? (taken : List String) : (draws : Nat) → Source → Option (String × Source)
  | 0, _ => none
  | draws + 1, s =>
    let (id, s) := s.draw idLength
    if taken.contains id then mintWithin? taken draws s else some (id, s)

/-- Draws up to the first text that is not taken.

    A source that does not repeat itself gives one within as many draws as there are ids taken and one more. These are
    counted, so that they can be evaluated; after them the search goes on without a bound. -/
def mint? (s : Source) (taken : List String) : Option (String × Source) :=
  match mintWithin? taken (taken.length + 1) s with
  | some minted => some minted
  | none => untilFree? taken (s.after (taken.length + 1))

/-- A source that gives these texts, whatever the length asked for, and then counts from 1 in numbers of that
    length. -/
def scripted (texts : List String) : Source where
  text n length := match texts[n]? with
    | some t => t
    | none => Text.Decimal.padded length (n - texts.length + 1)

end Source

/-- What an operation takes from outside. -/
structure Surroundings where
  today : Date
  /-- The time in milliseconds. -/
  now : Int
  /-- The id of the LPA that is created if the session has none. -/
  newId : String
  source : Source
  lookup : Lookup
  /-- Which texts are taken for an e-mail address. -/
  isEmail : String → Bool := Email.isValid

end PowerOfAttorney.Wizard
