import NodeFleet.Fleet.Panel
import NodeFleet.Number.Rounding

/-!
Assignments of users to nodes, and the reassignment of the users of a deleted node.

A user has one node at most. A node takes users while it is enabled, not offline, and below its
limit. Reassignment prefers nodes that share a group with the deleted one, then the least load,
which is the number of users divided by the weight.
-/

namespace NodeFleet

/-- The numbers of users of the nodes that have any. -/
abbrev UserCounts := List (Int × Int)

/-- The number of users of a node. -/
def UserCounts.of (counts : UserCounts) (nodeId : Int) : Int :=
  (counts.lookup nodeId).getD 0

/-- Counts one more user of a node. -/
def UserCounts.add (counts : UserCounts) (nodeId : Int) : UserCounts :=
  match counts with
  | [] => [(nodeId, 1)]
  | (id, n) :: rest =>
    if id = nodeId then (id, n + 1) :: rest else (id, n) :: UserCounts.add rest nodeId

/-- The users of a deleted node, and the groups that it belonged to. -/
structure ReassignJob where
  fromNode : Int
  groupIds : List Int
  userIds : List String
  deriving DecidableEq, Repr

/-- The users that were given a new node, and those that were not. -/
structure ReassignReport where
  moved : List (String × Int)
  unplaced : List String
  deriving DecidableEq, Repr

namespace Node

/-- Whether a node with `current` users takes one more. -/
def acceptsUsers (n : Node) (current : Int) : Bool :=
  n.enabled && n.health != .offline && (n.maxUsers == 0 || current < n.maxUsers)

/-- The load of a node: users for each unit of weight, as precisely as 53 binary digits tell. -/
def load (n : Node) (users : Int) : Rat :=
  Number.round53 (Number.round53 users / (max n.weight 1 : Int))

/-- Whether a node is to be chosen before another: first the preferred ones, then the one with the
smaller load, then the one with the smaller number. -/
def goesBefore (counts : UserCounts) (preferred : List Int) (n m : Node) : Bool :=
  let known (k : Node) : Bool := preferred.contains k.id
  let ofN := n.load (counts.of n.id)
  let ofM := m.load (counts.of m.id)
  if known n != known m then known n
  else if ofN != ofM then ofN < ofM
  else n.id < m.id

end Node

/-- The better of the nodes met so far and the next one. -/
def betterTarget (counts : UserCounts) (preferred : List Int) (best : Option Node) (n : Node) :
    Option Node :=
  match best with
  | none => some n
  | some b => if n.goesBefore counts preferred b then some n else some b

/-- The node that a user is to be given: the first in the order of `Node.goesBefore` among the
online nodes that take users. -/
def pickTarget (candidates : List Node) (counts : UserCounts) (preferred : List Int) :
    Option Int :=
  let ready := candidates.filter fun n => n.health == .online && n.acceptsUsers (counts.of n.id)
  (ready.foldl (betterTarget counts preferred) none).map (·.id)

namespace Fleet

/-- The numbers of users of all nodes that have any. -/
def userCounts (f : Fleet) : UserCounts :=
  f.assignments.foldl (fun counts a => counts.add a.nodeId) []

/-- Refuses a node that takes no more users. -/
def checkRoom (node : Node) (current : Nat) : Except Error Unit :=
  let id := Text.showInt node.id
  if !node.enabled then .error (.conflict ("Узел " ++ id ++ " отключён"))
  else if node.health = .offline then
    .error (.conflict ("Узел " ++ id ++ " offline и не принимает пользователей"))
  else if !node.acceptsUsers current then
    .error (.conflict ("Узел " ++ id ++ " заполнен (" ++ Text.showNat current ++ "/"
      ++ Text.showInt node.maxUsers ++ ")"))
  else .ok ()

/-- Stores an assignment in the place of the one that its user has, or as a new row. -/
def putAssignment (assignment : Assignment) (f : Fleet) : Fleet :=
  { f with assignments := upsert (·.userId) assignment f.assignments }

/-- Gives a user a node, in the place of an earlier one; a user who has the node keeps it. -/
def place (now : Instant) (nodeId : Int) (userId : String) : Transaction Assignment := do
  let node ← Transaction.read (findNode nodeId)
  let existing ← Transaction.read fun f => .ok (f.assignment? userId)
  match existing.filter (·.nodeId = nodeId) with
  | some a => pure a
  | none =>
    Transaction.read fun f => checkRoom node (f.userCount nodeId)
    let assignment : Assignment := ⟨userId, nodeId, now.toText⟩
    Transaction.change (putAssignment assignment)
    pure assignment

/-- Takes its node from a user. -/
def unassign (userId : String) : Transaction Unit := fun f =>
  if f.assignments.any (·.userId = userId) then
    .ok ((), { f with assignments := f.assignments.filter (·.userId ≠ userId) })
  else .error (.notFound ("Пользователь " ++ userId ++ " ни за кем не закреплён"))

/-- The nodes that share one of some groups. -/
def membersOf (f : Fleet) (groupIds : List Int) : List Int :=
  (f.members.filter fun m => groupIds.contains m.groupId).map (·.nodeId)

end Fleet

namespace Action

/-- Assigns a user, named up to blanks at the ends, to a node. -/
def assign (now : Instant) (nodeId : Int) (userId : String) : Action Assignment := do
  let user := Text.trim userId
  if user.isEmpty then throw (.validation "user_id обязателен")
  transact (Fleet.place now nodeId user)

/-- Runs an action and tells whether it succeeded. -/
def succeeds {α : Type} (action : Action α) : Action Bool := fun panel =>
  match action panel with
  | (.ok _, after) => (.ok true, after)
  | (.error _, after) => (.ok false, after)

/-- Gives the remaining users of a job new nodes, one after the other. A user without a node to go
to, or whose assignment fails, is left out. -/
def reassignEach (now : Instant) (candidates : List Node) (preferred : List Int) :
    List String → UserCounts → Action ReassignReport
  | [], _ => pure ⟨[], []⟩
  | user :: users, counts => do
    match pickTarget candidates counts preferred with
    | none =>
      let report ← reassignEach now candidates preferred users counts
      pure { report with unplaced := user :: report.unplaced }
    | some target =>
      if ← succeeds (assign now target user) then
        let report ← reassignEach now candidates preferred users (counts.add target)
        pure { report with moved := (user, target) :: report.moved }
      else
        let report ← reassignEach now candidates preferred users counts
        pure { report with unplaced := user :: report.unplaced }

/-- Gives the users of a job new nodes, with the candidates and the counts read at the start. The
groups of the job are values of the statement that finds the preferred nodes. -/
def reassign (now : Instant) (job : ReassignJob) : Action ReassignReport := do
  let (candidates, preferred, counts) ← read fun f =>
    (checkValues job.groupIds.length).map fun _ =>
      (f.nodes.filter fun n => n.enabled && n.health == .online, f.membersOf job.groupIds,
        f.userCounts)
  reassignEach now candidates preferred job.userIds counts

end Action

end NodeFleet
