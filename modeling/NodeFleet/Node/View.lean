import NodeFleet.Fleet.Tokens

/-!
A node as an administrator sees it.
-/

namespace NodeFleet

/-- The texts of a JSON array in a column; none when the column holds anything else. -/
def textsOfColumn (column : String) : List String :=
  match (Json.list Json.text).ofText column with
  | .ok texts => texts
  | .error _ => []

/-- Texts as the JSON array of a column. -/
def columnOfTexts (texts : List String) : String := (Json.Value.ofTexts texts).render

namespace Node

/-- The tags of a node. -/
def tagList (n : Node) : List String := textsOfColumn n.tags

/-- The white list of a node. -/
def whitelistEntries (n : Node) : List String := textsOfColumn n.whitelist

end Node

/-- A node with what is computed for each look at it. -/
structure NodeView where
  node : Node
  tags : List String
  whitelist : List String
  currentUsers : Int
  tokenState : TokenState
  deriving DecidableEq, Repr

namespace NodeView

/-- The view of a node with given users and token. -/
def of (node : Node) (currentUsers : Int) (tokenState : TokenState) : NodeView :=
  ⟨node, node.tagList, node.whitelistEntries, currentUsers, tokenState⟩

/-- A view as JSON. -/
def toJson (v : NodeView) : Json.Value :=
  let n := v.node
  .object [("id", .ofInt n.id), ("name", .str n.name), ("region", .str n.region),
    ("address", .str n.address), ("port", .ofInt n.port), ("weight", .ofInt n.weight),
    ("max_users", .ofInt n.maxUsers), ("current_users", .ofInt v.currentUsers),
    ("enabled", .bool n.enabled), ("status", .str n.health.name), ("latency", .ofInt n.latency),
    ("last_seen_at", .ofText? n.lastSeenAt), ("sync_status", .str n.syncStatus.name),
    ("synced_at", .ofText? n.syncedAt), ("sync_error", .ofText? n.syncError),
    ("config_revision", .ofInt n.configRevision), ("applied_revision", .ofInt n.appliedRevision),
    ("tags", .ofTexts v.tags), ("ip_whitelist", .ofTexts v.whitelist),
    ("token_state", .str v.tokenState.name), ("created_at", .str n.createdAt),
    ("updated_at", .str n.updatedAt)]

end NodeView

end NodeFleet
