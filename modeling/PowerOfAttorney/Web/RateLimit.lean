import PowerOfAttorney.IpAddress

/-!
How many requests a client may make: a number of them at once, and then one for each period.

For each client a time is kept, at which it would be back to its full number: every request moves it on by a
period, and it may not be further ahead than the number allows.
-/

namespace PowerOfAttorney.Web

/-- The limit for each client. Times are in seconds. -/
structure RateLimit where
  period : Nat
  burst : Nat
deriving DecidableEq, Repr

namespace RateLimit

/-- The times kept for the clients seen so far. -/
abbrev Clients := List (IpAddress × Nat)

/-- The time kept for a client, which is past where none is kept. -/
def timeOf (cs : Clients) (client : IpAddress) : Nat := ((cs.find? fun c => c.1 == client).map (·.2)).getD 0

/-- A request of a client; `none` if it has to wait. -/
def admit? (r : RateLimit) (cs : Clients) (client : IpAddress) (now : Nat) : Option Clients :=
  let due := max (timeOf cs client) now
  if due ≤ now + (r.burst - 1) * r.period then
    some ((client, due + r.period) :: cs.filter fun c => c.1 != client)
  else none

end RateLimit

end PowerOfAttorney.Web
