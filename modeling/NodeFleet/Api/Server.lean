import NodeFleet.Api.Limiter
import NodeFleet.Api.Route

/-!
The server of the HTTP interface.

A request is matched with a route, its sender is checked, its call is read and run, and the answer
is completed by the fields that all answers have. The calls of agents are limited in number for
each client. A deletion leaves a job, which `Server.settle` does after the answer is sent.
-/

namespace NodeFleet.Api

open Http (Request Response)

/-- The settings of the server, the panel, the limiter, and the jobs that wait. -/
structure Server where
  settings : Settings
  panel : Panel
  limiter : Limiter
  jobs : List ReassignJob

namespace Server

/-- Runs an action on the panel. -/
def act {α : Type} (s : Server) (action : Action α) : Except Error α × Server :=
  let (result, panel) := action s.panel
  (result, { s with panel := panel })

/-- The answer to what came of a call. -/
def reply : Except Error Response → Response
  | .ok response => response
  | .error e => errorResponse e

/-- Answers a call that needs no credentials. -/
def answerOpen (s : Server) (moment : Moment) (reading : Reading OpenCall) (input : Input) :
    Response × Server :=
  match reading input with
  | .error e => (errorResponse e, s)
  | .ok call =>
    let (result, s) := s.act (call.run s.settings moment)
    (reply (result.map success), s)

/-- Whether a request bears a valid token of the administrator. -/
def checkAdmin (s : Server) (moment : Moment) (r : Request) : Except Error Claims := do
  let token ← bearer r
  (AdminToken.check s.settings.secret moment.time.second token).mapError fun fault =>
    .unauthorized ("Невалидный токен: " ++ fault.message)

/-- Answers a call of the administrator. -/
def answerAdmin (s : Server) (moment : Moment) (reading : Reading AdminCall) (input : Input) :
    Response × Server :=
  match s.checkAdmin moment input.request with
  | .error e => (errorResponse e, s)
  | .ok _ =>
    match reading input with
    | .error e => (errorResponse e, s)
    | .ok call =>
      match s.act (call.run s.settings moment) with
      | (.error e, s) => (errorResponse e, s)
      | (.ok done, s) => (success done.data, { s with jobs := s.jobs ++ done.job.toList })

/-- The node whose agent sends a request. -/
def checkAgent (r : Request) : Action Int := do
  let token ← Action.check (bearer r)
  match ← Action.read fun f => .ok (f.authenticate token) with
  | some id => pure id
  | none => throw (.unauthorized "Токен узла недействителен или отозван")

/-- Answers a call of an agent. -/
def answerAgent (s : Server) (moment : Moment) (reading : Reading AgentCall) (input : Input) :
    Response × Server :=
  let (result, s) := s.act do
    let nodeId ← checkAgent input.request
    let call ← Action.check (reading input)
    call.run s.settings moment input.request nodeId
  (reply result, s)

/-- Counts a request against the limit of its client. -/
def letThrough (s : Server) (moment : Moment) (r : Request) : Bool × Server :=
  let (admitted, limiter) := s.limiter.check moment.reading (clientAddress r)
  (admitted, { s with limiter := limiter })

/-- The answer to a method that a route does not have. -/
def wrongMethod : Response := .empty 405

/-- Answers a request on the calls of a route. -/
def answerRoute (s : Server) (moment : Moment) (r : Request) (parameters : Parameters) :
    Calls → Response × Server
  | .forAll methods =>
    match readingOf? methods r.method with
    | none => (wrongMethod, s)
    | some reading => s.answerOpen moment reading ⟨parameters, r⟩
  | .forAdmin methods =>
    match readingOf? methods r.method with
    | none => (wrongMethod, s)
    | some reading => s.answerAdmin moment reading ⟨parameters, r⟩
  | .forAgent methods =>
    match s.letThrough moment r with
    | (false, s) => (errorResponse .tooManyRequests, s)
    | (true, s) =>
      match readingOf? methods r.method with
      | none => (wrongMethod, s)
      | some reading => s.answerAgent moment reading ⟨parameters, r⟩

/-- The header fields that let pages of any origin use the interface. -/
def sharing : Http.Headers :=
  [("access-control-allow-origin", "*"),
    ("vary", "origin, access-control-request-method, access-control-request-headers")]

/-- The answer to the question what pages of other origins may do. -/
def sharingAnswer : Response :=
  ⟨200, sharing ++ [("access-control-allow-methods", "*"), ("access-control-allow-headers", "*")],
    []⟩

/-- Adds the fields that all answers have. -/
def complete (r : Request) (allow : Option String) (response : Response) : Response :=
  let shared := sharing.foldl (fun response field => response.withHeader field.1 field.2) response
  let told := match allow with
    | some methods => shared.withHeader "allow" methods
    | none => shared
  let sized := told.withLength
  if r.method = "HEAD" then sized.withoutBody else sized

/-- Answers a request. -/
def handle (s : Server) (moment : Moment) (r : Request) : Response × Server :=
  let found := findRoute? r.path
  let allow := found.bind fun (calls, _) =>
    if calls.hasMethod r.method then none else some calls.allowed
  if r.method = "OPTIONS" then (complete r allow sharingAnswer, s)
  else
    match found with
    | none => (complete r allow (.empty 404), s)
    | some (calls, parameters) =>
      let (response, s) := s.answerRoute moment r parameters calls
      (complete r allow response, s)

/-- Does the jobs that wait, one after the other. -/
def settle (s : Server) (now : Instant) : Server :=
  s.jobs.foldl (fun s job => (s.act (Action.reassign now job)).2) { s with jobs := [] }

end Server

end NodeFleet.Api
