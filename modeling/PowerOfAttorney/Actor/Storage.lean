import PowerOfAttorney.Actor
import PowerOfAttorney.Json.Record

/-!
Actors as JSON values, as they are stored and shown.

A date is the list of its year and its place in the year.
-/

namespace PowerOfAttorney

open Json

namespace Date

/-- A date as a value. -/
def toJson (d : Date) : Json := .array [.int d.year, nat d.dayOfYear]

/-- Reads a date. -/
def ofJson? : Json → Option Date
  | .array [y, n] => do
    let year ← intWithin? (-9999) 9999 y
    let place ← natBelow? 65536 n
    ofDayOfYear? year place
  | _ => none

end Date

namespace Address

def names : List String := ["line1", "line2", "line3", "town_or_city", "postcode"]

/-- An address as a value. -/
def toJson (a : Address) : Json := .object (names.zip (a.parts.map .text))

def ofJson? (j : Json) : Option Address := do
  let r ← record? names j
  return {
    line1 := ← r.required "line1" text?
    line2 := ← r.required "line2" text?
    line3 := ← r.required "line3" text?
    townOrCity := ← r.required "town_or_city" text?
    postcode := ← r.required "postcode" text? }

end Address

namespace Donor

def names : List String := ["first_names", "last_name", "other_names", "email", "date_of_birth", "address"]

/-- The donor as a value. -/
def toJson (d : Donor) : Json := .object
  [("first_names", .text d.firstNames), ("last_name", .text d.lastName), ("other_names", .text d.otherNames),
    ("email", .text d.email), ("date_of_birth", optional Date.toJson d.birth), ("address", d.address.toJson)]

/-- Reads a donor. -/
def ofJson? (j : Json) : Option Donor := do
  let r ← record? names j
  return {
    firstNames := ← r.required "first_names" text?
    lastName := ← r.required "last_name" text?
    otherNames := ← r.required "other_names" text?
    email := ← r.required "email" text?
    birth := ← r.optional "date_of_birth" Date.ofJson?
    address := ← r.required "address" Address.ofJson? }

end Donor

namespace Attorney

def names : List String := ["id", "first_names", "last_name", "email", "date_of_birth", "address"]

/-- An attorney as a value. -/
def toJson (a : Attorney) : Json := .object
  [("id", .text a.id), ("first_names", .text a.firstNames), ("last_name", .text a.lastName),
    ("email", .text a.email), ("date_of_birth", optional Date.toJson a.birth), ("address", a.address.toJson)]

/-- Reads an attorney. -/
def ofJson? (j : Json) : Option Attorney := do
  let r ← record? names j
  return {
    id := ← r.required "id" text?
    firstNames := ← r.required "first_names" text?
    lastName := ← r.required "last_name" text?
    email := ← r.required "email" text?
    birth := ← r.optional "date_of_birth" Date.ofJson?
    address := ← r.required "address" Address.ofJson? }

end Attorney

namespace PersonToNotify

def names : List String := ["id", "first_names", "last_name", "email", "address"]

/-- A person to notify as a value. -/
def toJson (p : PersonToNotify) : Json := .object
  [("id", .text p.id), ("first_names", .text p.firstNames), ("last_name", .text p.lastName),
    ("email", .text p.email), ("address", p.address.toJson)]

/-- Reads a person to notify. -/
def ofJson? (j : Json) : Option PersonToNotify := do
  let r ← record? names j
  return {
    id := ← r.required "id" text?
    firstNames := ← r.required "first_names" text?
    lastName := ← r.required "last_name" text?
    email := ← r.required "email" text?
    address := ← r.required "address" Address.ofJson? }

end PersonToNotify

namespace CertificateProvider

def names : List String :=
  ["first_names", "last_name", "email", "mobile", "date_of_birth", "relationship", "relationship_description",
    "relationship_length", "address"]

/-- The certificate provider as a value. -/
def toJson (p : CertificateProvider) : Json := .object
  [("first_names", .text p.firstNames), ("last_name", .text p.lastName), ("email", .text p.email),
    ("mobile", .text p.mobile), ("date_of_birth", optional Date.toJson p.birth),
    ("relationship", optional ofWord p.relationship),
    ("relationship_description", .text p.relationshipDescription),
    ("relationship_length", optional ofWord p.acquaintance), ("address", p.address.toJson)]

/-- Reads a certificate provider. -/
def ofJson? (j : Json) : Option CertificateProvider := do
  let r ← record? names j
  return {
    firstNames := ← r.required "first_names" text?
    lastName := ← r.required "last_name" text?
    email := ← r.required "email" text?
    mobile := ← r.required "mobile" text?
    birth := ← r.optional "date_of_birth" Date.ofJson?
    relationship := ← r.optional "relationship" word?
    relationshipDescription := ← r.required "relationship_description" text?
    acquaintance := ← r.optional "relationship_length" word?
    address := ← r.required "address" Address.ofJson? }

end CertificateProvider

namespace Roster

/-- Actors as a list of values. -/
def toJson {α : Type} (f : α → Json) (r : Roster α) : Json := .array (r.members.map f)

/-- Reads a list of actors. -/
def ofJson? {α : Type} (f : Json → Option α) (j : Json) : Option (Roster α) := (list? f j).map Roster.mk

end Roster

end PowerOfAttorney
