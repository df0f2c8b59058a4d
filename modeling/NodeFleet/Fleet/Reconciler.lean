import NodeFleet.Fleet.Panel

/-!
Heartbeats and the reconciler.

Agents report that they are alive and which revision they run. A tick of the reconciler takes a
snapshot of all nodes, evaluates each, and writes what has changed, unless the revisions of a node
have moved since the snapshot.
-/

namespace NodeFleet

/-- The report of an agent. -/
structure Heartbeat where
  appliedRevision : Int
  syncError : Option String
  deriving DecidableEq, Repr

/-- The fields of a report. -/
def Heartbeat.fields : Json.Record Heartbeat :=
  Heartbeat.mk <$> .required "applied_revision" Json.int64
    <*> .optional "sync_error" Json.text

/-- Reads a report. -/
def Heartbeat.decoder : Json.Decoder Heartbeat := Heartbeat.fields.decoder "HeartbeatReport" false

/-- How the reconciler works; times in nanoseconds. -/
structure ReconcilerConfig where
  /-- The time between two ticks. -/
  interval : Nat
  /-- The age of a heartbeat beyond which a node is unhealthy. -/
  unhealthyAfter : Nat
  /-- The age of a heartbeat beyond which a node is offline. -/
  offlineAfter : Nat
  probeTimeout : Nat
  /-- Whether nodes are probed by opening a connection. -/
  probeEnabled : Bool
  deriving DecidableEq, Repr

/-- The configuration when none is given. -/
def ReconcilerConfig.standard : ReconcilerConfig where
  interval := 15000000000
  unhealthyAfter := 45000000000
  offlineAfter := 120000000000
  probeTimeout := 3000000000
  probeEnabled := true

/-- What came of probing a node: nothing was tried, the probe failed, or it took some
milliseconds. -/
inductive Probe where
  | skipped
  | failed
  | answered (millis : Int)
  deriving DecidableEq, Repr

/-- The health of a node by the age of its last heartbeat and its probe. -/
def evaluateHealth (lastSeen : Option Instant) (now : Instant) (probe : Probe)
    (config : ReconcilerConfig) : Health :=
  match lastSeen with
  | none => .offline
  | some seen =>
    let age := now.ageSince seen
    if config.offlineAfter < age then .offline
    else if config.unhealthyAfter < age ∨ probe = .failed then .unhealthy
    else .online

namespace Node

/-- The progress of the configuration, by the error and the revisions. -/
def evaluateSync (n : Node) : SyncStatus :=
  if n.syncError.isSome then .failed
  else if n.appliedRevision = n.configRevision then .synced
  else .pending

/-- The time of the last heartbeat, if there is one that can be read. -/
def lastSeen (n : Node) : Option Instant := n.lastSeenAt.bind Instant.ofText?

end Node

/-- What a tick writes to a node. -/
structure Evaluation where
  health : Health
  syncStatus : SyncStatus
  latency : Int
  deriving DecidableEq, Repr

/-- The latency after a tick: kept without a probe, and zero unless the node is online. -/
def evaluateLatency (health : Health) (probe : Probe) (old : Int) : Int :=
  match health, probe with
  | .online, .answered millis => millis
  | .online, .skipped => old
  | _, _ => 0

/-- Evaluates a node. A node that was never heard of keeps its sync status, so that a failed
installation stays visible until the first heartbeat. -/
def Node.evaluate (n : Node) (now : Instant) (probe : Probe) (config : ReconcilerConfig) :
    Evaluation :=
  let health := evaluateHealth n.lastSeen now probe config
  { health := health
    syncStatus := if n.lastSeenAt.isNone then n.syncStatus else n.evaluateSync
    latency := evaluateLatency health probe n.latency }

/-- What a node has of an evaluation. -/
def Node.evaluation (n : Node) : Evaluation := ⟨n.health, n.syncStatus, n.latency⟩

namespace Fleet

/-- What a report leaves in the row of its node. -/
def noteHeartbeat (now : Instant) (report : Heartbeat) (n : Node) : Node :=
  { n with
    lastSeenAt := some now.toText
    appliedRevision := report.appliedRevision
    syncError := report.syncError.filter fun e => !Text.isBlankText e }

/-- Takes the report of the agent of a node; the answer is the revision that it is to run. -/
def recordHeartbeat (now : Instant) (nodeId : Int) (report : Heartbeat) : Transaction Int := do
  let node ← Transaction.read (findNode nodeId)
  Transaction.change fun f => f.updateNode nodeId (noteHeartbeat now report)
  pure node.configRevision

/-- Whether a node is the one of a snapshot, with its revisions unmoved. -/
def isUnmoved (snapshot n : Node) : Bool :=
  n.id = snapshot.id ∧ n.configRevision = snapshot.configRevision
    ∧ n.appliedRevision = snapshot.appliedRevision

/-- Writes an evaluation into a row. -/
def writeEvaluation (snapshot : Node) (e : Evaluation) (now : Instant) (n : Node) : Node :=
  { n with
    health := e.health
    syncStatus := e.syncStatus
    latency := e.latency
    syncedAt :=
      if e.syncStatus = .synced ∧ snapshot.syncStatus ≠ .synced then some now.toText
      else n.syncedAt }

/-- Writes the evaluation of a snapshot, unless the node is gone or its revisions have moved; the
answer tells whether it was written. -/
def applyEvaluation (snapshot : Node) (e : Evaluation) (now : Instant) : Transaction Bool :=
  fun f =>
  .ok (f.nodes.any (isUnmoved snapshot),
    { f with
      nodes := f.nodes.map fun n =>
        if isUnmoved snapshot n then writeEvaluation snapshot e now n else n })

end Fleet

namespace Action

/-- Writes the evaluations of the nodes of a snapshot; the answer is the number written. -/
def applyAll (now : Instant) : List (Node × Evaluation) → Action Nat
  | [] => pure 0
  | (node, e) :: rest => do
    if e = node.evaluation then applyAll now rest
    else
      let written ← transact (Fleet.applyEvaluation node e now)
      let more ← applyAll now rest
      pure (if written then more + 1 else more)

/-- The probe of a node in a tick: nodes that are disabled or were never heard of are left out. -/
def probeOf (config : ReconcilerConfig) (probe : Node → Probe) (n : Node) : Probe :=
  if config.probeEnabled && n.enabled && n.lastSeenAt.isSome then probe n else .skipped

/-- One tick of the reconciler: the answer is the number of nodes written. -/
def reconcile (config : ReconcilerConfig) (probe : Node → Probe) (now : Instant) : Action Nat := do
  let snapshot ← read fun f => .ok f.nodes
  applyAll now (snapshot.map fun n => (n, n.evaluate now (probeOf config probe n) config))

end Action

end NodeFleet
