import NodeFleet.Group.Strategy
import NodeFleet.Node.Status

/-!
The tables of the fleet.

Each table is a list of rows in the order of their insertion; a row that is changed keeps its
place. Nodes and groups have numbers that grow with each new row and are never used again. The
numbers of stored nodes and groups fit 32 bits; here they have no end, which differs only from the
2^31st node or group on. Times are texts in the format of RFC 3339, and lists of texts are stored as
JSON.
-/

namespace NodeFleet

/-- A node of the fleet. -/
structure Node where
  id : Int
  name : String
  /-- A label of the administrator. -/
  region : String
  address : String
  port : Int
  /-- The share of the load that the node takes. -/
  weight : Int
  /-- The greatest number of users, zero for no limit. -/
  maxUsers : Int
  enabled : Bool
  health : Health
  /-- The answer time of the last probe, in milliseconds. -/
  latency : Int
  /-- The time of the last heartbeat. -/
  lastSeenAt : Option String
  syncStatus : SyncStatus
  /-- The time at which the node became synced. -/
  syncedAt : Option String
  /-- The revision of the configuration that the node is to run. -/
  configRevision : Int
  /-- The revision that the agent of the node runs, by its own account. -/
  appliedRevision : Int
  /-- The last error of the agent or of an installation. -/
  syncError : Option String
  /-- A JSON array of texts. -/
  tags : String
  /-- A JSON array of addresses and networks. -/
  whitelist : String
  createdAt : String
  updatedAt : String
  deriving DecidableEq, Repr

/-- The token of a node, by the digest of its value. -/
structure Token where
  nodeId : Int
  digest : String
  issuedAt : String
  /-- The time of its revocation, while it is revoked. -/
  revokedAt : Option String
  deriving DecidableEq, Repr

/-- A group of nodes. -/
structure Group where
  id : Int
  name : String
  description : String
  region : String
  strategy : Strategy
  createdAt : String
  updatedAt : String
  deriving DecidableEq, Repr

/-- A node as a member of a group. -/
structure Membership where
  groupId : Int
  nodeId : Int
  addedAt : String
  deriving DecidableEq, Repr

/-- The node of a user. -/
structure Assignment where
  userId : String
  nodeId : Int
  assignedAt : String
  deriving DecidableEq, Repr

/-- The record of the last installation on a node. -/
structure InstallRecord where
  nodeId : Int
  success : Bool
  failedStep : Option String
  errorCode : Option String
  /-- A JSON array of steps. -/
  steps : String
  logs : String
  startedAt : String
  finishedAt : String
  deriving DecidableEq, Repr

/-- Stores a row in the place of the one with the same key, or as a new row. -/
def upsert {α κ : Type} [DecidableEq κ] (key : α → κ) (row : α) (rows : List α) : List α :=
  if rows.any (key · = key row) then rows.map fun r => if key r = key row then row else r
  else rows ++ [row]

/-- The tables, and the numbers given last to a node and to a group, which are taken as
unbounded. -/
structure Fleet where
  nodes : List Node
  tokens : List Token
  groups : List Group
  members : List Membership
  assignments : List Assignment
  installs : List InstallRecord
  lastNode : Int
  lastGroup : Int
  deriving DecidableEq, Repr

namespace Fleet

/-- A fleet without rows. -/
def empty : Fleet := ⟨[], [], [], [], [], [], 0, 0⟩

/-- The node of a number. -/
def node? (f : Fleet) (id : Int) : Option Node := f.nodes.find? (·.id = id)

/-- The group of a number. -/
def group? (f : Fleet) (id : Int) : Option Group := f.groups.find? (·.id = id)

/-- The token of a node. -/
def token? (f : Fleet) (nodeId : Int) : Option Token := f.tokens.find? (·.nodeId = nodeId)

/-- The assignment of a user. -/
def assignment? (f : Fleet) (userId : String) : Option Assignment :=
  f.assignments.find? (·.userId = userId)

/-- The record of the last installation on a node. -/
def install? (f : Fleet) (nodeId : Int) : Option InstallRecord :=
  f.installs.find? (·.nodeId = nodeId)

/-- Whether a node belongs to a group. -/
def isMember (f : Fleet) (groupId nodeId : Int) : Bool :=
  f.members.any fun m => m.groupId = groupId ∧ m.nodeId = nodeId

/-- The number of users of a node. -/
def userCount (f : Fleet) (nodeId : Int) : Nat :=
  f.assignments.countP (·.nodeId = nodeId)

/-- Changes the node of a number. -/
def updateNode (f : Fleet) (id : Int) (change : Node → Node) : Fleet :=
  { f with nodes := f.nodes.map fun n => if n.id = id then change n else n }

/-- Changes the group of a number. -/
def updateGroup (f : Fleet) (id : Int) (change : Group → Group) : Fleet :=
  { f with groups := f.groups.map fun g => if g.id = id then change g else g }

end Fleet

end NodeFleet
