import PowerOfAttorney.Web.Message
import PowerOfAttorney.Web.PageTable
import PowerOfAttorney.Web.RateLimit
import PowerOfAttorney.Web.Route
import PowerOfAttorney.Web.Urlencoded
import PowerOfAttorney.Wizard.Run

/-!
Answering requests.

Every page asks for a session first. Every operation of a page is confined to the LPA that its path names.
-/

namespace PowerOfAttorney.Web

open Text Wizard

/-- What a server works with. -/
structure Server (σ : Type) where
  settings : Settings
  tokens : TokenScheme
  store : Store σ

/-- A response, with the source of texts as it is left and the postcodes asked for. -/
structure Served where
  response : Response
  source : Source
  lookedUp : List String := []

/-- What is to be done for a request: answer at once, or carry out an operation for a session and show its
    answer. -/
inductive Plan where
  | answer (r : Response)
  | operate (session : String) (scope : Option String) (op : Operation) (view : Reply → Response)

/-! ### Reading requests -/

/-- What the content type of a form begins with. -/
def formType : List Char := "application/x-www-form-urlencoded".toList

/-- The most octets of a body. -/
def bodyLimit : Nat := 2097152

/-- The fields of the form in a body, or the status of the response if there is none. -/
def formFields (r : Request) : Except Nat Json :=
  match r.headers.readable? "content-type" with
  | none => .error 415
  | some t =>
    if !formType.isPrefixOf t then .error 415
    else if bodyLimit < r.body.length then .error 413
    else .ok (Urlencoded.fields r.body)

/-- The fields of a query. -/
def queryFields (r : Request) : Json := Urlencoded.fields (Utf8.encode r.target.query)

/-- The actor that the query of a page names; `none` if the query cannot be read. -/
def actorQuery? (p : Page) (r : Request) : Option ActorQuery :=
  if readsActor p then ActorQuery.ofJson? (queryFields r) else some {}

/-! ### Pages -/

/-- What is to be done to show a page. Coming back from a payment records it. -/
def planView (session lpaId : String) (p : Page) (r : Request) : Plan :=
  let operate := fun op => Plan.operate session (some lpaId) op (replyResponse p lpaId)
  if p = .paymentConfirmation then
    match paymentId? (queryFields r) with
    | none => .answer (.bare 400)
    | some id =>
      if isPaymentId id then operate (.confirmPayment id)
      else .answer (Problem.validation "payment_id: Validation error: length").response
  else match actorQuery? p r with
    | none => .answer (.bare 400)
    | some q => operate (viewOperation p q)

/-- What is to be done with a form sent to a page. -/
def planForm (session lpaId : String) (p : Page) (r : Request) : Plan :=
  match actorQuery? p r with
  | none => .answer (.bare 400)
  | some q => match formFields r with
    | .error status => .answer (.bare status)
    | .ok fields => match submission? p q fields with
      | none => .answer (.bare 422)
      | some s => .operate session (some lpaId) (.submit s) (replyResponse p lpaId)

/-- What is to be done for a request to a page. -/
def planPage (session : Option String) (lpaId : List Char) (p : Page) (r : Request) : Plan :=
  match session with
  | none => .answer Problem.unauthorized.response
  | some session =>
    let shows := r.method = .get ∨ r.method = .head
    let takes := r.method = .post ∧ takesForm p
    if shows ∨ takes then
      match Route.decodeId? lpaId with
      | none => .answer (.bare 400)
      | some id => if takes then planForm session id p r else planView session id p r
    else .answer (.bare 405)

/-! ### The rest -/

/-- The version of the program. -/
def version : String := "0.1.0"

/-- The state of the program. -/
def health (s : Settings) : Response :=
  .json 200 (.object [("status", .text "ok"), ("version", .text version), ("environment", .text s.appEnv)])

/-- The response that opens a session: its token, and the way to the task list of its new LPA. There is no such
    response if the cookie may not stand in a header. -/
def Server.started {σ : Type} (v : Server σ) (session : String) : Reply → Response
  | .loaded l =>
    let cookie := Session.cookie v.settings (v.tokens.sign v.settings.sessionSecret session)
    if Headers.isValue cookie.toList then
      { Response.seeOther ((Destination.of .taskList).url l.id) with setCookie := some cookie }
    else .bare 500
  | _ => Problem.internal.response

/-- What is to be done for a request. `newSession` is the name of the session that is opened if one is. -/
def Server.plan {σ : Type} (v : Server σ) (newSession : String) (r : Request) : Plan :=
  let session := (Session.token? r.headers v.settings.sessionCookie).bind
    (v.tokens.session? v.settings.sessionSecret)
  let shows := r.method = .get ∨ r.method = .head
  match Route.ofPath? r.target.path with
  | none => .answer (.bare 404)
  | some .health => .answer (if shows then health v.settings else .bare 405)
  | some .metrics => .answer (.bare (if shows then 503 else 405))
  | some .start =>
    if r.method = .post then .operate newSession none .load (v.started newSession) else .answer (.bare 405)
  | some (.page lpaId p) => planPage session lpaId p r

/-- Carries out a plan. -/
def Server.carryOut {σ : Type} (v : Server σ) (w : Surroundings) (plan : Plan) (s : σ) : Served × σ :=
  match plan with
  | .answer response => ({ response, source := w.source }, s)
  | .operate session scope op view =>
    let (o, s) := op.run v.store w session scope s
    let response := match o.result with
      | .ok reply => view reply
      | .error f => (Problem.ofFailure f).response
    ({ response, source := o.source, lookedUp := o.lookedUp }, s)

/-- The header by which a caller tells its requests apart. -/
def correlationHeader : String := "x-correlation-id"

/-- The header that names a request. -/
def requestIdHeader : String := "x-request-id"

/-- Whether a response goes out without its body: the rest of something that is shown was asked for. -/
def Request.asksForHead (r : Request) : Bool := r.method = .head && (Route.ofPath? r.target.path).any Route.isShown

/-- The response without its body where only the rest was asked for. -/
def Response.trim (r : Request) (response : Response) : Response :=
  if r.asksForHead then { response with body := none } else response

/-- The response with the headers that go back as they came. -/
def Response.echo (r : Request) (response : Response) : Response :=
  { response with
    requestId := (r.headers.first? requestIdHeader).map String.ofList
    correlationId := (r.headers.first? correlationHeader).map String.ofList }

/-- Answers a request. -/
def Server.handle {σ : Type} (v : Server σ) (w : Surroundings) (newSession : String) (r : Request) (s : σ) :
    Served × σ :=
  if (r.headers.first? correlationHeader).any fun c => !Headers.isReadable c then
    ({ response := (Problem.validation "invalid correlation id").response.trim r, source := w.source }, s)
  else
    let (served, s) := v.carryOut w (v.plan newSession r) s
    ({ served with response := (served.response.trim r).echo r }, s)

/-- The limit of requests that the settings give. -/
def rateLimit (s : Settings) : RateLimit := ⟨max s.rateLimitPerSecond 1, max s.rateLimitBurst 1⟩

/-- Answers a request unless its client has made too many. Nothing is counted under test. -/
def Server.serve {σ : Type} (v : Server σ) (w : Surroundings) (newSession : String) (r : Request)
    (clients : RateLimit.Clients) (s : σ) : Served × RateLimit.Clients × σ :=
  let handled := fun clients =>
    let (served, s) := v.handle w newSession r s
    (served, clients, s)
  let refused := fun status => (({ response := .bare status, source := w.source } : Served), clients, s)
  if v.settings.isTest then handled clients
  else match r.peer with
    | none => refused 500
    | some client => match (rateLimit v.settings).admit? clients client (w.now / 1000).toNat with
      | none => refused 429
      | some clients => handled clients

end PowerOfAttorney.Web
