import NodeFleet.Api.AdminToken
import NodeFleet.Fleet.Nodes
import NodeFleet.Fleet.Reconciler
import NodeFleet.Fleet.Statistics
import NodeFleet.Fleet.Groups
import NodeFleet.Http.StoredFile

/-!
The calls of the HTTP interface.

There are calls for everybody, for the administrator, and for the agents of nodes. A call is run on
the panel under the `Settings` of the panel and at a `Moment`. The answer to a successful call holds
its data in an envelope; errors are answered by `errorResponse`.
-/

namespace NodeFleet.Api

open Http (Request Response)

/-- The settings of the panel. -/
structure Settings where
  /-- The secret under which tokens of the administrator are signed. -/
  secret : String
  adminName : String
  /-- The digest of the administrator's password. -/
  passwordDigest : String
  install : InstallConfig
  /-- The program that agents are installed from. -/
  agentBinary : Option Http.StoredFile

/-- What a call meets: the time, the reading of a clock in nanoseconds, and the value of the next
new token. -/
structure Moment where
  time : Instant
  reading : Nat
  token : String

/-- The digest of a password. -/
def passwordDigest (password : String) : String := Digest.sha256Hex password

/-- Whether a password has a digest. -/
def hasDigest (password digest : String) : Bool := passwordDigest password == digest

/-- Data in the envelope of success. -/
def envelope (data : Json.Value) : Json.Value :=
  .object [("code", .ofNat 200), ("message", .str "success"), ("data", data)]

/-- The answer to a successful call. -/
def success (data : Json.Value) : Response := .json 200 (envelope data)

/-- The answer to a call that failed. -/
def errorResponse (e : Error) : Response := .json e.status e.body

/-- A call that needs no credentials. -/
inductive OpenCall where
  | health
  | login (user password : String)
  deriving DecidableEq, Repr

/-- A call of the administrator. -/
inductive AdminCall where
  | listNodes (filter : NodeFilter)
  | createNode (request : CreateNode)
  | getNode (id : Int)
  | updateNode (id : Int) (patch : NodePatch)
  | setEnabled (id : Int) (enabled : Bool)
  | deleteNode (id : Int)
  | tokenInfo (id : Int)
  | issueToken (id : Int)
  | rotateToken (id : Int)
  | revokeToken (id : Int)
  | lastInstall (id : Int)
  | reinstall (id : Int) (request : InstallRequest)
  | assign (id : Int) (user : String)
  | unassign (user : String)
  | listGroups
  | createGroup (request : CreateGroup)
  | getGroup (id : Int)
  | updateGroup (id : Int) (patch : GroupPatch)
  | deleteGroup (id : Int)
  | addMember (id nodeId : Int)
  | removeMember (id nodeId : Int)
  | statistics
  deriving DecidableEq, Repr

/-- A call of the agent of a node. -/
inductive AgentCall where
  | heartbeat (report : Heartbeat)
  | config
  | binary

/-- The configuration that the agent of a node is to run. -/
def agentConfig (n : Node) : Json.Value :=
  .object [("node_id", .ofInt n.id), ("name", .str n.name), ("address", .str n.address),
    ("port", .ofInt n.port), ("max_users", .ofInt n.maxUsers),
    ("config_revision", .ofInt n.configRevision), ("tags", .ofTexts n.tagList),
    ("ip_whitelist", .ofTexts n.whitelistEntries)]

/-- An assignment as JSON. -/
def assignmentJson (a : Assignment) : Json.Value :=
  .object [("user_id", .str a.userId), ("node_id", .ofInt a.nodeId),
    ("assigned_at", .str a.assignedAt)]

/-- A new token as JSON. -/
def issuedJson (id : Int) (token : String) : Json.Value :=
  .object [("node_id", .ofInt id), ("token", .str token)]

/-- Refuses the number of a node that does not exist. -/
def existing (id : Int) : Action Unit := do
  let _ ← Action.read (Fleet.findNode id)

/-- Runs a call that needs no credentials. -/
def OpenCall.run (settings : Settings) (moment : Moment) : OpenCall → Action Json.Value
  | .health => fun panel =>
    (.ok (.object [("status", .str (if panel.isOpen then "ok" else "error")),
      ("database", .bool panel.isOpen), ("service", .str "panel-server")]), panel)
  | .login user password =>
    if user = settings.adminName ∧ hasDigest password settings.passwordDigest then
      pure (.object [("token", .str (AdminToken.issue settings.secret user moment.time.second))])
    else throw (.unauthorized "Неверные учётные данные")

/-- What comes of a call of the administrator: data, and the users that are to be given new nodes
once the answer is sent. -/
structure Reply where
  data : Json.Value
  job : Option ReassignJob

/-- A reply that leaves no job. -/
def Reply.of (data : Json.Value) : Reply := ⟨data, none⟩

/-- Deletes a node; its users are left for a job. -/
def deletion (id : Int) : Action Reply := do
  let job ← Action.transact (Fleet.deleteNode id)
  let data := Json.Value.object
    [("id", .ofInt id), ("reassigning_users", .ofNat job.userIds.length)]
  pure ⟨data, if job.userIds.isEmpty then none else some job⟩

/-- The account of the last installation on a node. -/
def storedInstall (id : Int) : Action InstallResult := do
  existing id
  match ← Action.read (Fleet.loadInstall id) with
  | some result => pure result
  | none => throw (.notFound ("Узел " ++ Text.showInt id ++ " не устанавливался автоматически"))

/-- Revokes the token of a node. -/
def revocation (moment : Moment) (id : Int) : Action Json.Value := do
  existing id
  let outcome ← Action.transact (Fleet.revokeToken moment.time id)
  pure (.object [("node_id", .ofInt id), ("already_revoked", .bool (outcome = .alreadyRevoked))])

/-- Runs a call of the administrator. -/
def AdminCall.run (settings : Settings) (moment : Moment) : AdminCall → Action Reply
  | .listNodes filter => do
    pure (.of (.arr ((← Action.read (Fleet.listNodes filter)).map NodeView.toJson)))
  | .createNode request => do
    let created ← Action.createNode moment.time moment.token settings.install request
    pure (.of created.toJson)
  | .getNode id => do pure (.of (← Action.read (Fleet.getNode id)).toJson)
  | .updateNode id patch => do pure (.of (← Action.updateNode moment.time id patch).toJson)
  | .setEnabled id enabled => do pure (.of (← Action.setEnabled moment.time id enabled).toJson)
  | .deleteNode id => deletion id
  | .tokenInfo id => do
    existing id
    pure (.of (← Action.read fun f => .ok (f.tokenInfo id)).toJson)
  | .issueToken id => do
    pure (.of (issuedJson id
      (← Action.transact (Fleet.issueToken moment.time moment.token id))))
  | .rotateToken id => do
    existing id
    pure (.of (issuedJson id
      (← Action.transact (Fleet.rotateToken moment.time moment.token id))))
  | .revokeToken id => do pure (.of (← revocation moment id))
  | .lastInstall id => do pure (.of (← storedInstall id).toJson)
  | .reinstall id request => do
    let result ← Action.reinstall moment.time moment.token settings.install id request
    pure (.of result.toJson)
  | .assign id user => do pure (.of (assignmentJson (← Action.assign moment.time id user)))
  | .unassign user => do
    Action.transact (Fleet.unassign user)
    pure (.of (.object [("user_id", .str user)]))
  | .listGroups => do
    pure (.of (.arr ((← Action.read Fleet.listGroups).map GroupView.toJson)))
  | .createGroup request => do
    pure (.of (← Action.createGroup moment.time request).toJson)
  | .getGroup id => do pure (.of (← Action.read (Fleet.getGroup id)).toJson)
  | .updateGroup id patch => do pure (.of (← Action.updateGroup moment.time id patch).toJson)
  | .deleteGroup id => do
    Action.transact (Fleet.deleteGroup id)
    pure (.of (.object [("id", .ofInt id)]))
  | .addMember id nodeId => do pure (.of (← Action.addMember moment.time id nodeId).toJson)
  | .removeMember id nodeId => do pure (.of (← Action.removeMember id nodeId).toJson)
  | .statistics => do pure (.of (← Action.read fun f => .ok f.statistics).toJson)

/-- The answer with the program of the agent. -/
def binaryResponse (settings : Settings) (request : Request) : Except Error Response :=
  match settings.agentBinary with
  | none => .error (.notFound "Бинарник агента не настроен")
  | some file =>
    match file.content with
    | none =>
      .error (.internal ("Не удалось прочитать " ++ file.path
        ++ ": No such file or directory (os error 2)"))
    | some content => .ok (file.answer content request)

/-- Runs a call of the agent of a node. -/
def AgentCall.run (settings : Settings) (moment : Moment) (request : Request) (nodeId : Int) :
    AgentCall → Action Response
  | .heartbeat report => do
    let revision ← Action.transact (Fleet.recordHeartbeat moment.time nodeId report)
    pure (success (.object [("config_revision", .ofInt revision)]))
  | .config => do pure (success (agentConfig (← Action.read (Fleet.findNode nodeId))))
  | .binary => Action.check (binaryResponse settings request)

end NodeFleet.Api
