import NodeFleet.Fleet.Assignments
import NodeFleet.Node.Field

/-!
Groups of nodes: their rows, their members, and their figures.

The figures of a group are taken from the tables each time it is looked at.
-/

namespace NodeFleet

/-- A request for a new group. -/
structure CreateGroup where
  name : String
  description : String
  region : String
  strategy : Strategy
  deriving DecidableEq, Repr

/-- The fields of a request for a new group. -/
def CreateGroup.fields : Json.Record CreateGroup :=
  CreateGroup.mk <$> .required "name" Json.text
    <*> .withDefault "description" Json.text ""
    <*> .withDefault "region" Json.text ""
    <*> .withDefault "strategy" Strategy.naming.decoder .roundRobin

/-- Reads a request for a new group. -/
def CreateGroup.decoder : Json.Decoder CreateGroup :=
  CreateGroup.fields.decoder "CreateGroupRequest" false

/-- Changes to a group; what is absent stays. -/
structure GroupPatch where
  name : Option String
  description : Option String
  region : Option String
  strategy : Option Strategy
  deriving DecidableEq, Repr

/-- The fields of changes to a group. -/
def GroupPatch.fields : Json.Record GroupPatch :=
  GroupPatch.mk <$> .optional "name" Json.text
    <*> .optional "description" Json.text
    <*> .optional "region" Json.text
    <*> .optional "strategy" Strategy.naming.decoder

/-- Reads changes to a group; unknown keys are refused. -/
def GroupPatch.decoder : Json.Decoder GroupPatch := GroupPatch.fields.decoder "GroupPatch" true

/-- The figures of a list of nodes. -/
structure Rollup where
  totalNodes : Nat
  healthyNodes : Nat
  totalUsers : Int
  deriving DecidableEq, Repr

/-- The figures of members with given numbers of users. -/
def Rollup.of (members : List Node) (counts : UserCounts) : Rollup where
  totalNodes := members.length
  healthyNodes := members.countP (·.health = .online)
  totalUsers := (members.map fun n => counts.of n.id).foldr (· + ·) 0

/-- A group with its members and figures. -/
structure GroupView where
  group : Group
  nodeIds : List Int
  rollup : Rollup
  deriving DecidableEq, Repr

/-- A group as JSON. -/
def GroupView.toJson (v : GroupView) : Json.Value :=
  .object [("id", .ofInt v.group.id), ("name", .str v.group.name),
    ("description", .str v.group.description), ("region", .str v.group.region),
    ("strategy", .str v.group.strategy.name), ("node_ids", .arr (v.nodeIds.map .ofInt)),
    ("total_nodes", .ofNat v.rollup.totalNodes), ("healthy_nodes", .ofNat v.rollup.healthyNodes),
    ("total_users", .ofInt v.rollup.totalUsers), ("created_at", .str v.group.createdAt),
    ("updated_at", .str v.group.updatedAt)]

/-- Puts a number before the first one that is not smaller. -/
def insertNumber (n : Int) : List Int → List Int
  | [] => [n]
  | m :: ms => if n ≤ m then n :: m :: ms else m :: insertNumber n ms

/-- Numbers in ascending order. -/
def sortNumbers (ns : List Int) : List Int := ns.foldr insertNumber []

/-- The members of groups, each list under the number of its group. -/
abbrev Rolls := List (Int × List Int)

namespace Rolls

/-- Enters a member into the list of its group. -/
def enter (rolls : Rolls) (m : Membership) : Rolls :=
  match rolls with
  | [] => [(m.groupId, [m.nodeId])]
  | (id, members) :: rest =>
    if id = m.groupId then (id, members ++ [m.nodeId]) :: rest
    else (id, members) :: enter rest m

/-- The list of a group. -/
def of (rolls : Rolls) (groupId : Int) : List Int := (rolls.lookup groupId).getD []

/-- The lists of the other groups. -/
def without (rolls : Rolls) (groupId : Int) : Rolls := rolls.filter (·.1 ≠ groupId)

end Rolls

namespace Fleet

/-- The members of some groups, group by group. -/
def rolls (f : Fleet) (groupIds : List Int) : Rolls :=
  (f.members.filter fun m => groupIds.contains m.groupId).foldl Rolls.enter []

/-- Groups as they are shown; the list of members of a group is taken out as it is read. -/
def viewsFrom (f : Fleet) (counts : UserCounts) : List Group → Rolls → List GroupView
  | [], _ => []
  | g :: groups, rolls =>
    let ids := sortNumbers (rolls.of g.id)
    ⟨g, ids, .of (ids.filterMap f.node?) counts⟩ :: viewsFrom f counts groups (rolls.without g.id)

/-- Groups as they are shown, with memberships, nodes and assignments read once for all. -/
def groupViews (f : Fleet) (groups : List Group) : List GroupView :=
  f.viewsFrom f.userCounts groups (f.rolls (groups.map (·.id)))

/-- All groups, in the order of their numbers. The memberships of all are asked for at once, with
the number of each group as a value. -/
def listGroups (f : Fleet) : Except Error (List GroupView) :=
  (checkValues f.groups.length).map fun _ => f.groupViews f.groups

/-- One group. -/
def getGroup (id : Int) (f : Fleet) : Except Error GroupView := do
  let group ← Fleet.findGroup id f
  match (f.groupViews [group]).getLast? with
  | some view => .ok view
  | none => .error (.internal ("Группа " ++ Text.showInt id ++ " пропала при чтении"))

/-- The row of a new group. -/
def newGroup (now : Instant) (id : Int) (name : String) (r : CreateGroup) : Group :=
  ⟨id, name, Text.trim r.description, Text.trim r.region, r.strategy, now.toText, now.toText⟩

/-- The tables with a new group under the next number. -/
def withGroup (now : Instant) (name : String) (r : CreateGroup) (f : Fleet) : Fleet :=
  { f with
    groups := f.groups ++ [newGroup now (f.lastGroup + 1) name r]
    lastGroup := f.lastGroup + 1 }

/-- Adds a group under the next number. -/
def insertGroup (now : Instant) (name : String) (r : CreateGroup) : Transaction Int := fun f =>
  .ok (f.lastGroup + 1, f.withGroup now name r)

/-- A group with changes made to it. -/
def patchGroup (patch : GroupPatch) (now : Instant) (g : Group) : Except Error Group := do
  let name ← match patch.name with
    | some name => Field.name name
    | none => .ok g.name
  .ok { g with
    name := name
    description := (patch.description.map Text.trim).getD g.description
    region := (patch.region.map Text.trim).getD g.region
    strategy := patch.strategy.getD g.strategy
    updatedAt := now.toText }

/-- Changes a group. -/
def changeGroup (now : Instant) (id : Int) (patch : GroupPatch) : Transaction Unit := do
  let group ← Transaction.read (Fleet.findGroup id)
  let changed ← Transaction.check (patchGroup patch now group)
  Transaction.change fun f => f.updateGroup id fun _ => changed

/-- The tables without a group and its memberships. -/
def withoutGroup (id : Int) (f : Fleet) : Fleet :=
  { f with
    members := f.members.filter (·.groupId ≠ id)
    groups := f.groups.filter (·.id ≠ id) }

/-- Removes a group and its memberships. -/
def deleteGroup (id : Int) : Transaction Unit := do
  let _ ← Transaction.read (Fleet.findGroup id)
  Transaction.change (withoutGroup id)

/-- Makes a node a member of a group; a member stays one. -/
def joinGroup (now : Instant) (groupId nodeId : Int) : Transaction Unit := do
  let _ ← Transaction.read (Fleet.findGroup groupId)
  let _ ← Transaction.read (findNode nodeId)
  Transaction.change fun f =>
    if f.isMember groupId nodeId then f
    else { f with members := f.members ++ [⟨groupId, nodeId, now.toText⟩] }

/-- Ends the membership of a node in a group. -/
def leaveGroup (groupId nodeId : Int) : Transaction Unit := fun f =>
  if f.isMember groupId nodeId then
    .ok ((), { f with
      members := f.members.filter fun m => ¬(m.groupId = groupId ∧ m.nodeId = nodeId) })
  else
    .error (.notFound ("Узел " ++ Text.showInt nodeId ++ " не состоит в группе "
      ++ Text.showInt groupId))

end Fleet

namespace Action

/-- Creates a group. -/
def createGroup (now : Instant) (r : CreateGroup) : Action GroupView := do
  let name ← check (Field.name r.name)
  let id ← transact (Fleet.insertGroup now name r)
  read (Fleet.getGroup id)

/-- Changes a group. -/
def updateGroup (now : Instant) (id : Int) (patch : GroupPatch) : Action GroupView := do
  transact (Fleet.changeGroup now id patch)
  read (Fleet.getGroup id)

/-- Adds a node to a group. -/
def addMember (now : Instant) (groupId nodeId : Int) : Action GroupView := do
  transact (Fleet.joinGroup now groupId nodeId)
  read (Fleet.getGroup groupId)

/-- Removes a node from a group. -/
def removeMember (groupId nodeId : Int) : Action GroupView := do
  transact (Fleet.leaveGroup groupId nodeId)
  read (Fleet.getGroup groupId)

end Action

end NodeFleet
