import NodeFleet.Fleet.Assignments

/-!
Figures of the whole fleet.
-/

namespace NodeFleet

/-- The figures of the fleet. -/
structure Statistics where
  totalNodes : Nat
  online : Nat
  unhealthy : Nat
  offline : Nat
  syncFailed : Nat
  groups : Nat
  assignedUsers : Int
  deriving DecidableEq, Repr

/-- The figures as JSON. -/
def Statistics.toJson (s : Statistics) : Json.Value :=
  .object [("total_nodes", .ofNat s.totalNodes), ("online", .ofNat s.online),
    ("unhealthy", .ofNat s.unhealthy), ("offline", .ofNat s.offline),
    ("sync_failed", .ofNat s.syncFailed), ("groups", .ofNat s.groups),
    ("assigned_users", .ofInt s.assignedUsers)]

namespace Fleet

/-- The figures of the fleet as it is. -/
def statistics (f : Fleet) : Statistics where
  totalNodes := f.nodes.length
  online := f.nodes.countP (·.health = .online)
  unhealthy := f.nodes.countP (·.health = .unhealthy)
  offline := f.nodes.countP (·.health = .offline)
  syncFailed := f.nodes.countP (·.syncStatus = .failed)
  groups := f.groups.length
  assignedUsers := (f.userCounts.map (·.2)).foldr (· + ·) 0

end Fleet

end NodeFleet
