import PowerOfAttorney.IpAddress
import PowerOfAttorney.Text.Utf8
import PowerOfAttorney.View
import PowerOfAttorney.Web.Session
import PowerOfAttorney.Web.Target

/-! Requests and responses, and how the answers of the wizard are shown. -/

namespace PowerOfAttorney.Web

open Json Wizard

/-- What a request wants done. -/
inductive Method where
  | get
  /-- Like `get`, but the body of the response is left out. -/
  | head
  | post
  | other
deriving DecidableEq, Repr

/-- The method of a name; `none` if it is no token. -/
def Method.ofName? (name : String) : Option Method :=
  match name with
  | "GET" => some .get
  | "HEAD" => some .head
  | "POST" => some .post
  | _ => if Text.isToken name.toList then some .other else none

/-- A request. -/
structure Request where
  method : Method
  target : Target
  headers : Headers := []
  /-- The octets of the body. -/
  body : List Nat := []
  peer : Option IpAddress := none

/-- The request that asks with a method for a target; `none` if what is asked or a header cannot be written so. -/
def Request.of? (method target : String) (headers : Headers) (body : String) (peer : Option IpAddress) :
    Option Request :=
  match Method.ofName? method, Target.parse? target with
  | some method, some target =>
    if headers.areSound then some { method, target, headers, body := Text.Utf8.encode body.toList, peer } else none
  | _, _ => none

/-- A response. -/
structure Response where
  status : Nat
  body : Option Json := none
  location : Option String := none
  setCookie : Option String := none
  requestId : Option String := none
  correlationId : Option String := none
deriving Repr

namespace Response

/-- A response without a body that is meant for programs. -/
def bare (status : Nat) : Response := { status }

/-- A response with a JSON body. -/
def json (status : Nat) (body : Json) : Response := { status, body := some body }

/-- Sends the user to another page. -/
def seeOther (url : String) : Response := { status := 303, location := some url }

end Response

/-! ### Problems -/

/-- Why a request is not answered as it was meant. -/
inductive Problem where
  | validation (reason : String)
  | unauthorized
  | notFound
  | conflict
  | internal
deriving DecidableEq, Repr

namespace Problem

/-- The status of the response. -/
def status : Problem → Nat
  | .validation _ => 400
  | .unauthorized => 401
  | .notFound => 404
  | .conflict => 409
  | .internal => 500

/-- The word of the problem. -/
def code : Problem → String
  | .validation _ => "validation_error"
  | .unauthorized => "unauthorized"
  | .notFound => "not_found"
  | .conflict => "conflict"
  | .internal => "internal_error"

/-- What is said of the problem. -/
def message : Problem → String
  | .validation reason => "validation failed: " ++ reason
  | .unauthorized => "unauthorized"
  | .notFound => "not found"
  | .conflict => "the lpa was changed by another request"
  | .internal => "internal error"

/-- The response to a problem. -/
def response (p : Problem) : Response :=
  .json p.status (.object [("error", .object [("code", .text p.code), ("message", .text p.message)])])

/-- The problem that a failed operation makes. Nothing is said of what went wrong inside. -/
def ofFailure (f : Failure) : Problem :=
  if f.isConflict then .conflict
  else match f with
    | .notFound => .notFound
    | _ => .internal

end Problem

/-! ### Answers -/

/-- An error of a field as it is shown. -/
def issueView (i : Issue) : Json :=
  .object (("field", .text i.field) :: ("code", .text i.error.code) :: i.error.members)

/-- A warning about an age as it is shown. -/
def ageWarningView (w : AgeWarning) : Json := .object [("code", .text w.code), ("warning", .text w.word)]

/-- A rejected form as it is shown. -/
def rejectionView (r : Rejection) : Json :=
  .object [("errors", .array (r.errors.issues.map issueView)),
    ("name_warning", optional NameWarning.toJson r.nameWarning),
    ("dob_warning", optional ageWarningView r.ageWarning),
    ("addresses", .array (r.addresses.map Address.toJson))]

/-- The response to the answer of an operation for an LPA that was called on a page. -/
def replyResponse (page : Page) (lpaId : String) : Reply → Response
  | .loaded l =>
    let cost := if page = .aboutPayment then [("cost_pence", nat Lpa.costInPence)] else []
    .json 200 (.object (("lpa", l.toJson) :: cost))
  | .tasks l lines => .json 200 (.object [("lpa", l.toJson), ("tasks", .array (lines.map TaskLine.toJson))])
  | .shown l actor => .json 200 (.object [("lpa", l.toJson), ("actor", optional ShownActor.toJson actor)])
  | .redirect d => .seeOther (d.url lpaId)
  | .invalid r => .json 422 (rejectionView r)
  | .addresses found => .json 200 (.object [("addresses", .array (found.map Address.toJson))])
  | .paid p =>
    .json 200 (.object [("payment", p.toJson), ("next", .text ((Destination.of .taskList).url lpaId))])

end PowerOfAttorney.Web
