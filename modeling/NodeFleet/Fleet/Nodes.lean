import NodeFleet.Fleet.Tokens
import NodeFleet.Install.Record
import NodeFleet.Node.Search

/-!
The register of nodes: creation, installation, changes, and deletion.

A change of what the agent of a node has to know (name, address, port, limit, tags, white list)
raises the revision of its configuration by one and makes it pending. Deletion removes all rows
about a node and leaves the job of finding new nodes for its users.
-/

namespace NodeFleet

/-- The row of a new node: enabled, not yet heard of, and with the first revision to be run. -/
def NodeDraft.toNode (now : Instant) (id : Int) (d : NodeDraft) : Node where
  id := id
  name := d.name
  region := d.region
  address := d.address
  port := d.port
  weight := d.weight
  maxUsers := d.maxUsers
  enabled := true
  health := .offline
  latency := 0
  lastSeenAt := none
  syncStatus := .pending
  syncedAt := none
  configRevision := 1
  appliedRevision := 0
  syncError := none
  tags := columnOfTexts d.tags
  whitelist := columnOfTexts d.whitelist
  createdAt := now.toText
  updatedAt := now.toText

namespace Fleet

/-- The tables with a new node under the next number. -/
def withNode (now : Instant) (d : NodeDraft) (f : Fleet) : Fleet :=
  { f with nodes := f.nodes ++ [d.toNode now (f.lastNode + 1)], lastNode := f.lastNode + 1 }

/-- Adds a node under the next number. -/
def insertNode (now : Instant) (d : NodeDraft) : Transaction Node := fun f =>
  .ok (d.toNode now (f.lastNode + 1), f.withNode now d)

/-- What an installation leaves in the row of its node. -/
def noteInstall (now : Instant) (failedStep : Option String) (n : Node) : Node :=
  match failedStep with
  | none => { n with syncStatus := .pending, syncError := none, updatedAt := now.toText }
  | some step =>
    { n with
      syncStatus := .failed
      syncError := some ("install failed at step " ++ step)
      updatedAt := now.toText }

/-- Refuses a limit below the number of users. -/
def checkLimit (maxUsers : Int) (current : Nat) : Except Error Unit :=
  if 0 < maxUsers ∧ maxUsers < current then
    .error (.conflict ("max_users (" ++ Text.showInt maxUsers
      ++ ") меньше числа закреплённых пользователей (" ++ Text.showNat current ++ ")"))
  else .ok ()

/-- The value of a field after a change that has a rule. -/
def patched {α β : Type} (rule : α → Except Error β) (old : β) : Option α → Except Error β
  | some x => rule x
  | none => .ok old

/-- A list of texts after a change: whether it differs from the stored one, and its column. -/
def patchedTexts (rule : List String → Except Error (List String)) (old : List String)
    (column : String) : Option (List String) → Except Error (Bool × String)
  | some texts => (rule texts).map fun new => (new ≠ old, columnOfTexts new)
  | none => .ok (false, column)

/-- A node with changes made to it; the first broken rule is told. -/
def patchNode (now : Instant) (patch : NodePatch) (current : Nat) (n : Node) :
    Except Error Node := do
  let name ← patched Field.name n.name patch.name
  let address ← patched Field.address n.address patch.address
  let port ← patched Field.port n.port patch.port
  let weight ← patched Field.weight n.weight patch.weight
  let maxUsers ← patched (fun m => do
    let m ← Field.maxUsers m
    checkLimit m current
    .ok m) n.maxUsers patch.maxUsers
  let (newTags, tags) ← patchedTexts Field.tags n.tagList n.tags patch.tags
  let (newWhitelist, whitelist) ←
    patchedTexts Network.whitelist n.whitelistEntries n.whitelist patch.whitelist
  let needsSync := name ≠ n.name || address ≠ n.address || port ≠ n.port
    || maxUsers ≠ n.maxUsers || newTags || newWhitelist
  .ok { n with
    name := name
    region := (patch.region.map Text.trim).getD n.region
    address := address
    port := port
    weight := weight
    maxUsers := maxUsers
    enabled := patch.enabled.getD n.enabled
    tags := tags
    whitelist := whitelist
    configRevision := if needsSync then n.configRevision + 1 else n.configRevision
    syncStatus := if needsSync then .pending else n.syncStatus
    updatedAt := now.toText }

/-- Changes a node. -/
def changeNode (now : Instant) (id : Int) (patch : NodePatch) : Transaction Unit := do
  let node ← Transaction.read (findNode id)
  let current ← Transaction.read fun f => .ok (f.userCount id)
  let changed ← Transaction.check (patchNode now patch current node)
  Transaction.change fun f => f.updateNode id fun _ => changed

/-- Enables or disables a node; nothing changes when it is so already. -/
def enableNode (now : Instant) (id : Int) (enabled : Bool) : Transaction Unit := do
  let node ← Transaction.read (findNode id)
  Transaction.change fun f =>
    if node.enabled = enabled then f
    else f.updateNode id fun n => { n with enabled := enabled, updatedAt := now.toText }

/-- The tables without a node and without all rows about it. -/
def withoutNode (id : Int) (f : Fleet) : Fleet :=
  { f with
    members := f.members.filter (·.nodeId ≠ id)
    tokens := f.tokens.filter (·.nodeId ≠ id)
    assignments := f.assignments.filter (·.nodeId ≠ id)
    installs := f.installs.filter (·.nodeId ≠ id)
    nodes := f.nodes.filter (·.id ≠ id) }

/-- The groups and the users of a node. -/
def jobOf (id : Int) (f : Fleet) : ReassignJob where
  fromNode := id
  groupIds := (f.members.filter (·.nodeId = id)).map (·.groupId)
  userIds := (f.assignments.filter (·.nodeId = id)).map (·.userId)

/-- Removes a node and all rows about it. -/
def deleteNode (id : Int) : Transaction ReassignJob := do
  let _ ← Transaction.read (findNode id)
  let job ← Transaction.read fun f => .ok (jobOf id f)
  Transaction.change (withoutNode id)
  pure job

end Fleet

namespace Action

/-- Issues a token to a node and installs the agent there. The account is stored, and the row of
the node tells how it went. An account that is too long is refused, when the token is issued and the
scripts have been run. -/
def installNode (now : Instant) (token : String) (config : InstallConfig) (node : Node)
    (target : SshTarget) (panelUrl : String) : Action InstallResult := do
  let token ← transact (Fleet.issueToken now token node.id)
  let plan : InstallPlan := ⟨node.id, node.port, panelUrl, token⟩
  let (result, finish) ← withShell fun shell =>
    let (result, finish, shell) := runInstall shell target plan config now
    ((result, finish), shell)
  transact (Fleet.saveInstall (result.toRecord node.id))
  transact do
    let _ ← Transaction.read (Fleet.findNode node.id)
    Transaction.change fun f => f.updateNode node.id (Fleet.noteInstall finish result.failedStep)
  pure result

/-- A new node and, where there was one, the account of its installation. -/
structure Created where
  view : NodeView
  install : Option InstallResult
  deriving DecidableEq, Repr

/-- Creates a node, and installs the agent there if that is asked for. The node stays when the
installation fails. -/
def createNode (now : Instant) (token : String) (config : InstallConfig) (r : CreateNode) :
    Action Created := do
  let draft ← check r.draft
  let installation ← check r.installation
  let node ← transact (Fleet.insertNode now draft)
  let install ← match installation with
    | none => pure none
    | some (target, url) => some <$> installNode now token config node target url
  let view ← read (Fleet.getNode node.id)
  pure ⟨view, install⟩

/-- Installs the agent on a node again, on request. -/
def reinstall (now : Instant) (token : String) (config : InstallConfig) (id : Int)
    (r : InstallRequest) : Action InstallResult := do
  let node ← read (Fleet.findNode id)
  let target ← check r.ssh.check
  let url ← check (Url.panelUrl r.panelUrl)
  installNode now token config node target url

/-- Changes a node. -/
def updateNode (now : Instant) (id : Int) (patch : NodePatch) : Action NodeView := do
  transact (Fleet.changeNode now id patch)
  read (Fleet.getNode id)

/-- Enables or disables a node. -/
def setEnabled (now : Instant) (id : Int) (enabled : Bool) : Action NodeView := do
  transact (Fleet.enableNode now id enabled)
  read (Fleet.getNode id)

end Action

/-- A new node as JSON. -/
def Action.Created.toJson (c : Action.Created) : Json.Value :=
  .object [("node", c.view.toJson),
    ("install_result", match c.install with
      | some r => r.toJson
      | none => .null)]

end NodeFleet
