import NodeFleet.Fleet.Assignments
import NodeFleet.Fleet.Groups
import NodeFleet.Fleet.Nodes
import NodeFleet.Fleet.Reconciler
import NodeFleet.Fleet.Statistics
import NodeFleet.Fleet.Tokens

/-!
The operations on the fleet.

An `Operation α` is a request to the panel with an answer of type `α`. Operations get the time, the
value of a new token and the results of probes from outside, so what they do is determined by the
panel alone.
-/

namespace NodeFleet

/-- A request to the panel. -/
inductive Operation : Type → Type where
  | createNode (now : Instant) (token : String) (config : InstallConfig) (request : CreateNode) :
      Operation Action.Created
  | updateNode (now : Instant) (id : Int) (patch : NodePatch) : Operation NodeView
  | setEnabled (now : Instant) (id : Int) (enabled : Bool) : Operation NodeView
  | deleteNode (id : Int) : Operation ReassignJob
  | getNode (id : Int) : Operation NodeView
  | findNode (id : Int) : Operation Node
  | listNodes (filter : NodeFilter) : Operation (List NodeView)
  | installNode (now : Instant) (token : String) (config : InstallConfig) (node : Node)
      (target : SshTarget) (panelUrl : String) : Operation InstallResult
  | reinstall (now : Instant) (token : String) (config : InstallConfig) (id : Int)
      (request : InstallRequest) : Operation InstallResult
  | loadInstall (id : Int) : Operation (Option InstallResult)
  | issueToken (now : Instant) (token : String) (id : Int) : Operation String
  | rotateToken (now : Instant) (token : String) (id : Int) : Operation String
  | revokeToken (now : Instant) (id : Int) : Operation RevokeOutcome
  | tokenInfo (id : Int) : Operation TokenInfo
  | authenticate (token : String) : Operation (Option Int)
  | createGroup (now : Instant) (request : CreateGroup) : Operation GroupView
  | updateGroup (now : Instant) (id : Int) (patch : GroupPatch) : Operation GroupView
  | deleteGroup (id : Int) : Operation Unit
  | getGroup (id : Int) : Operation GroupView
  | listGroups : Operation (List GroupView)
  | addMember (now : Instant) (id nodeId : Int) : Operation GroupView
  | removeMember (id nodeId : Int) : Operation GroupView
  | assign (now : Instant) (id : Int) (user : String) : Operation Assignment
  | unassign (user : String) : Operation Unit
  | reassign (now : Instant) (job : ReassignJob) : Operation ReassignReport
  | userCount (id : Int) : Operation Nat
  | userCounts : Operation UserCounts
  | statistics : Operation Statistics
  | recordHeartbeat (now : Instant) (id : Int) (report : Heartbeat) : Operation Int
  | reconcile (config : ReconcilerConfig) (probe : Node → Probe) (now : Instant) : Operation Nat
  | applyEvaluation (snapshot : Node) (evaluation : Evaluation) (now : Instant) : Operation Bool

namespace Operation

/-- Carries out an operation. -/
def run {α : Type} : Operation α → Action α
  | createNode now token config request => Action.createNode now token config request
  | updateNode now id patch => Action.updateNode now id patch
  | setEnabled now id enabled => Action.setEnabled now id enabled
  | deleteNode id => Action.transact (Fleet.deleteNode id)
  | getNode id => Action.read (Fleet.getNode id)
  | findNode id => Action.read (Fleet.findNode id)
  | listNodes filter => Action.read (Fleet.listNodes filter)
  | installNode now token config node target panelUrl =>
    Action.installNode now token config node target panelUrl
  | reinstall now token config id request => Action.reinstall now token config id request
  | loadInstall id => Action.read (Fleet.loadInstall id)
  | issueToken now token id => Action.transact (Fleet.issueToken now token id)
  | rotateToken now token id => Action.transact (Fleet.rotateToken now token id)
  | revokeToken now id => Action.transact (Fleet.revokeToken now id)
  | tokenInfo id => Action.read fun f => .ok (f.tokenInfo id)
  | authenticate token => Action.read fun f => .ok (f.authenticate token)
  | createGroup now request => Action.createGroup now request
  | updateGroup now id patch => Action.updateGroup now id patch
  | deleteGroup id => Action.transact (Fleet.deleteGroup id)
  | getGroup id => Action.read (Fleet.getGroup id)
  | listGroups => Action.read Fleet.listGroups
  | addMember now id nodeId => Action.addMember now id nodeId
  | removeMember id nodeId => Action.removeMember id nodeId
  | assign now id user => Action.assign now id user
  | unassign user => Action.transact (Fleet.unassign user)
  | reassign now job => Action.reassign now job
  | userCount id => Action.read fun f => .ok (f.userCount id)
  | userCounts => Action.read fun f => .ok f.userCounts
  | statistics => Action.read fun f => .ok f.statistics
  | recordHeartbeat now id report => Action.transact (Fleet.recordHeartbeat now id report)
  | reconcile config probe now => Action.reconcile config probe now
  | applyEvaluation snapshot evaluation now =>
    Action.transact (Fleet.applyEvaluation snapshot evaluation now)

/-- The panel after an operation. -/
def after {α : Type} (op : Operation α) (panel : Panel) : Panel := (op.run panel).2

/-- The answer to an operation. -/
def answer {α : Type} (op : Operation α) (panel : Panel) : Except Error α := (op.run panel).1

end Operation

end NodeFleet
