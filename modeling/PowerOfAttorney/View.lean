import PowerOfAttorney.Lpa.Storage
import PowerOfAttorney.Settings
import PowerOfAttorney.Wizard.Reply

/-!
What is shown of errors, warnings, dates in boxes, destinations, the task list, actors and settings, as JSON
values.
-/

namespace PowerOfAttorney

open Json

namespace FieldError

/-- The word of the kind of error. -/
def kind : FieldError → String
  | .enter _ => "enter"
  | .select _ => "select"
  | .tooLong _ _ => "string_too_long"
  | .dateNotReal _ => "date_must_be_real"
  | .dateNotPast _ => "date_must_be_past"
  | .dateMissing _ _ _ _ => "date_missing"
  | .email _ => "email"
  | .custom _ => "custom"

/-- What an error has besides its kind and label. -/
def details : FieldError → List (String × Json)
  | .tooLong _ limit => [("length", nat limit)]
  | .dateMissing _ day month year =>
    [("missing_day", .bool day), ("missing_month", .bool month), ("missing_year", .bool year)]
  | _ => []

/-- The members of an error. -/
def members (e : FieldError) : List (String × Json) :=
  ("kind", .text e.kind) :: ("label", .text e.label) :: e.details

/-- An error as a value. -/
def toJson (e : FieldError) : Json := .object e.members

/-- Reads an error. -/
def ofJson? (j : Json) : Option FieldError := do
  let r ← record? ["kind", "label", "length", "missing_day", "missing_month", "missing_year"] j
  let kind ← r.required "kind" text?
  let label ← r.required "label" text?
  let flag := fun (name : String) => r.defaulted name false bool?
  match kind with
  | "enter" => some (.enter label)
  | "select" => some (.select label)
  | "string_too_long" => (r.required "length" (natBelow? versionBound)).map (.tooLong label)
  | "date_must_be_real" => some (.dateNotReal label)
  | "date_must_be_past" => some (.dateNotPast label)
  | "date_missing" => return .dateMissing label (← flag "missing_day") (← flag "missing_month") (← flag "missing_year")
  | "email" => some (.email label)
  | "custom" => some (.custom label)
  | _ => none

end FieldError

/-- An error of a field as a value. -/
def Issue.toJson (i : Issue) : Json := .object [("name", .text i.field), ("error", i.error.toJson)]

/-- A list of errors as a value. -/
def ErrorList.toJson (l : ErrorList) : Json := .array (l.issues.map Issue.toJson)

namespace DateBoxes

/-- The names of the boxes. -/
def names : List String := ["day", "month", "year"]

/-- The boxes as a value. -/
def toJson (b : DateBoxes) : Json := .object [("day", .text b.day), ("month", .text b.month), ("year", .text b.year)]

/-- Reads boxes, all of which have to be there. -/
def ofJson? (j : Json) : Option DateBoxes := do
  let r ← record? names j
  return { day := ← r.required "day" text?, month := ← r.required "month" text?, year := ← r.required "year" text? }

end DateBoxes

/-- The members of a destination. -/
def Destination.members (d : Destination) : List (String × Json) :=
  [("page", .text d.page.name), ("id", optional .text d.id), ("add_another", .bool d.addAnother)]

/-- A namesake as a value. -/
def Namesake.toJson (n : Namesake) : Json :=
  .object [("subject", ofWord n.subject), ("matched", ofWord n.matched), ("matched_id", .text n.matchedId)]

/-- A name warning as a value. -/
def NameWarning.toJson (w : NameWarning) : Json :=
  .object [("code", .text w.code), ("key", .text w.key), ("subject", ofWord w.subject),
    ("first_names", .text w.firstNames), ("last_name", .text w.lastName)]

/-- A line of the task list as a value. -/
def TaskLine.toJson (t : TaskLine) : Json :=
  .object [("section", ofWord t.task), ("state", ofWord t.state), ("count", optional nat t.count),
    ("path", .text t.url)]

/-- An actor on its page as a value. -/
def Wizard.ShownActor.toJson : ShownActor → Json
  | .attorney a => a.toJson
  | .person p => p.toJson

/-- The settings as a value. -/
def Settings.toJson (s : Settings) : Json :=
  .object [("app_env", .text s.appEnv), ("port", nat s.port), ("log_level", .text s.logLevel),
    ("data_backend", .text s.dataBackend), ("redis_url", .text s.redisUrl),
    ("redis_key_prefix", .text s.redisKeyPrefix), ("session_secret", .text s.sessionSecret),
    ("session_cookie", .text s.sessionCookie), ("os_places_base_url", .text s.placesBaseUrl),
    ("os_places_api_key", .text s.placesApiKey), ("address_lookup_timeout_ms", nat s.addressLookupTimeoutMs),
    ("app_public_url", .text s.appPublicUrl), ("request_timeout_ms", nat s.requestTimeoutMs),
    ("rate_limit_per_second", nat s.rateLimitPerSecond), ("rate_limit_burst", nat s.rateLimitBurst),
    ("is_production", .bool s.isProduction), ("uses_redis", .bool s.usesRedis)]

end PowerOfAttorney
