import NodeFleet.Api.Call
import NodeFleet.Api.Extract

/-!
The routes of the HTTP interface.

A route is a pattern of paths and, for each method, the reading of a call from a request. Who may
make the calls of a route is told by `Calls`.
-/

namespace NodeFleet.Api

/-- A part of the pattern of a path. -/
inductive Segment where
  | word (text : String)
  | parameter (name : String)
  deriving DecidableEq, Repr

/-- Reads a call from a request. -/
abbrev Reading (α : Type) := Input → Except Error α

/-- The calls of a route by their methods. -/
abbrev Methods (α : Type) := List (String × Reading α)

/-- The calls of a route, by who may make them. -/
inductive Calls where
  | forAll (methods : Methods OpenCall)
  | forAdmin (methods : Methods AdminCall)
  | forAgent (methods : Methods AgentCall)

/-- A route. -/
structure Route where
  pattern : List Segment
  calls : Calls

/-- The parameters of a path that matches a pattern. A parameter takes one part that is not
empty. -/
def matchParts? : List Segment → List (List Char) → Option Parameters
  | [], [] => some []
  | .word text :: segments, part :: parts =>
    if text.toList = part then matchParts? segments parts else none
  | .parameter name :: segments, part :: parts =>
    if part.isEmpty then none else (matchParts? segments parts).map ((name, part) :: ·)
  | _, _ => none

/-- The parameters of a path that a route matches. -/
def Route.match? (r : Route) (path : String) : Option Parameters :=
  match Text.splitAll '/' path.toList with
  | [] :: parts => matchParts? r.pattern parts
  | _ => none

/-- A pattern of words, and of parameters whose names follow a colon. -/
def pattern (parts : List String) : List Segment :=
  parts.map fun part =>
    match part.toList with
    | ':' :: name => .parameter (String.ofList name)
    | _ => .word part

/-- A request to log in. -/
def loginCall : Json.Decoder OpenCall :=
  (OpenCall.login <$> .required "username" Json.text <*> .required "password" Json.text
    : Json.Record OpenCall).decoder "LoginRequest" false

/-- The field of a request to enable or disable a node. -/
def enabledField : Json.Decoder Bool :=
  (Json.Record.required "enabled" Json.bool).decoder "EnabledRequest" false

/-- The field of a request to assign a user. -/
def userField : Json.Decoder String :=
  (Json.Record.required "user_id" Json.text).decoder "AssignRequest" false

/-- The field of a request to add a member to a group. -/
def memberField : Json.Decoder Int :=
  (Json.Record.required "node_id" Json.int32).decoder "AddMemberRequest" false

/-- The call on the row of a number. -/
def onNumber {α : Type} (call : Int → α) : Reading α := fun input => call <$> input.number

/-- The call on the row of a number with what the body holds. -/
def withBody {α β : Type} (call : Int → β → α) (d : Json.Decoder β) : Reading α := fun input => do
  let id ← input.number
  call id <$> input.body d

/-- The call that changes a node. -/
def nodeUpdate : Reading AdminCall := fun input => do
  let id ← input.number
  let body ← input.body Json.anything
  AdminCall.updateNode id <$> NodePatch.ofValue body

/-- The routes that are open to all. -/
def openRoutes : List (List String × Methods OpenCall) :=
  [(["health"], [("GET", fun _ => .ok .health)]),
    (["api", "auth", "login"], [("POST", fun input => input.body loginCall)])]

/-- The routes of the administrator, after their common beginning. -/
def adminRoutes : List (List String × Methods AdminCall) :=
  [(["nodes"],
      [("GET", fun input => .listNodes <$> input.filter),
        ("POST", fun input => .createNode <$> input.body CreateNode.decoder)]),
    (["nodes", ":id"],
      [("GET", onNumber .getNode), ("PUT", nodeUpdate), ("DELETE", onNumber .deleteNode)]),
    (["nodes", ":id", "enabled"], [("PUT", withBody .setEnabled enabledField)]),
    (["nodes", ":id", "token"],
      [("GET", onNumber .tokenInfo), ("POST", onNumber .issueToken),
        ("DELETE", onNumber .revokeToken)]),
    (["nodes", ":id", "token", "rotate"], [("POST", onNumber .rotateToken)]),
    (["nodes", ":id", "install"],
      [("GET", onNumber .lastInstall), ("POST", withBody .reinstall InstallRequest.decoder)]),
    (["nodes", ":id", "assignments"], [("POST", withBody .assign userField)]),
    (["groups"],
      [("GET", fun _ => .ok .listGroups),
        ("POST", fun input => .createGroup <$> input.body CreateGroup.decoder)]),
    (["groups", ":id"],
      [("GET", onNumber .getGroup), ("PUT", withBody .updateGroup GroupPatch.decoder),
        ("DELETE", onNumber .deleteGroup)]),
    (["groups", ":id", "nodes"], [("POST", withBody .addMember memberField)]),
    (["groups", ":id", "nodes", ":node_id"],
      [("DELETE", fun input => (fun (id, nodeId) => .removeMember id nodeId) <$> input.numbers)]),
    (["stats"], [("GET", fun _ => .ok .statistics)]),
    (["assignments", ":user_id"], [("DELETE", fun input => .unassign <$> input.text)])]

/-- The routes of agents, after their common beginning. -/
def agentRoutes : List (List String × Methods AgentCall) :=
  [(["heartbeat"], [("POST", fun input => .heartbeat <$> input.body Heartbeat.decoder)]),
    (["config"], [("GET", fun _ => .ok .config)]),
    (["binary"], [("GET", fun _ => .ok .binary)])]

/-- All routes. -/
def routes : List Route :=
  (openRoutes.map fun (parts, methods) => ⟨pattern parts, .forAll methods⟩)
    ++ (adminRoutes.map fun (parts, methods) =>
      ⟨pattern ("api" :: "admin" :: parts), .forAdmin methods⟩)
    ++ (agentRoutes.map fun (parts, methods) =>
      ⟨pattern ("api" :: "agent" :: parts), .forAgent methods⟩)

/-- The route of a path, and the parameters in it. -/
def findRoute? (path : String) : Option (Calls × Parameters) :=
  routes.findSome? fun r => (r.match? path).map fun parameters => (r.calls, parameters)

/-- The reading of a method; a request for the head only is read like one for the whole. -/
def readingOf? {α : Type} (methods : Methods α) (method : String) : Option (Reading α) :=
  methods.lookup (if method = "HEAD" then "GET" else method)

/-- The methods of a route, for the header field that tells them. -/
def allowed {α : Type} (methods : Methods α) : String :=
  ",".intercalate (methods.flatMap fun (name, _) => if name = "GET" then [name, "HEAD"] else [name])

/-- The methods of the calls of a route. -/
def Calls.allowed : Calls → String
  | .forAll methods => Api.allowed methods
  | .forAdmin methods => Api.allowed methods
  | .forAgent methods => Api.allowed methods

/-- Whether the calls of a route have a method. -/
def Calls.hasMethod (method : String) : Calls → Bool
  | .forAll methods => (readingOf? methods method).isSome
  | .forAdmin methods => (readingOf? methods method).isSome
  | .forAgent methods => (readingOf? methods method).isSome

end NodeFleet.Api
