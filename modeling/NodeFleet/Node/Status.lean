import NodeFleet.Naming

/-!
The states of a node: its health, the progress of its configuration, and its token.
-/

namespace NodeFleet

/-- The health of a node. -/
inductive Health where
  | online
  | offline
  | unhealthy
  deriving DecidableEq, Repr

/-- Whether a node runs the configuration published last. -/
inductive SyncStatus where
  | synced
  | pending
  | failed
  deriving DecidableEq, Repr

/-- What is known of the token of a node. -/
inductive TokenState where
  | none
  | issued
  | revoked
  deriving DecidableEq, Repr

/-- The name of a health. -/
def Health.name : Health → String
  | .online => "online"
  | .offline => "offline"
  | .unhealthy => "unhealthy"

/-- The names of the healths. -/
def Health.naming : Naming Health :=
  ⟨"NodeStatus", [.online, .offline, .unhealthy].map fun h => (h.name, h)⟩

/-- The name of a sync status. -/
def SyncStatus.name : SyncStatus → String
  | .synced => "synced"
  | .pending => "pending"
  | .failed => "failed"

/-- The names of the sync statuses. -/
def SyncStatus.naming : Naming SyncStatus :=
  ⟨"SyncStatus", [.synced, .pending, .failed].map fun s => (s.name, s)⟩

/-- The name of a token state. -/
def TokenState.name : TokenState → String
  | .none => "none"
  | .issued => "issued"
  | .revoked => "revoked"

end NodeFleet
