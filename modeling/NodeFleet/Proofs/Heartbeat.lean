import NodeFleet.Proofs.InstantText
import NodeFleet.Proofs.Tick

/-!
# What a heartbeat decides

The time of a heartbeat is stored as text and read back by the next tick as it was, so the health of
the node is decided by the nanoseconds between the two, whatever the row of the node was before.
-/

namespace NodeFleet

variable {now seen : Instant} {report : Heartbeat} {n : Node} {config : ReconcilerConfig}

theorem lastSeen_noteHeartbeat (hseen : seen.Writable) :
    (Fleet.noteHeartbeat seen report n).lastSeen = some seen := by
  simp only [Node.lastSeen, Fleet.noteHeartbeat, Option.bind_some, Instant.ofText?_toText hseen]

/-- The sync status at the tick after a heartbeat. -/
theorem nextSyncStatus_noteHeartbeat :
    (Fleet.noteHeartbeat seen report n).nextSyncStatus =
      if report.syncError.any fun e => !Text.isBlankText e then .failed
      else if report.appliedRevision = n.configRevision then .synced
      else .pending := by
  have herror : (report.syncError.filter fun e => !Text.isBlankText e).isSome =
      report.syncError.any fun e => !Text.isBlankText e := by
    cases report.syncError with
    | none => rfl
    | some e => cases h : Text.isBlankText e <;> simp [Option.filter, h]
  rw [Node.nextSyncStatus, if_neg (by simp [Fleet.noteHeartbeat]), Node.evaluateSync,
    ← herror]
  rfl

/-- The health by the age of the last heartbeat, which may be negative. -/
theorem evaluateHealth_eq :
    evaluateHealth (some seen) now .skipped config =
      if (config.offlineAfter : Int) < now.since seen then .offline
      else if (config.unhealthyAfter : Int) < now.since seen then .unhealthy
      else .online := by
  have hlt (bound : Nat) : bound < now.ageSince seen ↔ (bound : Int) < now.since seen := by
    unfold Instant.ageSince
    omega
  simp only [evaluateHealth, hlt, reduceCtorEq, or_false]

/-- After a heartbeat and a tick without probes, the health of the node is decided by the time
between the two, and its sync status by the report. -/
theorem Panel.heartbeat_decides_tick (shell : Shell) (run : List Event) {id : Int} {n : Node}
    (hopen : ((fresh shell).after run).isOpen = true)
    (hn : ((fresh shell).after run).fleet.node? id = some n)
    {config : ReconcilerConfig} (hprobe : config.probeEnabled = false) (probe : Node → Probe)
    {seen : Instant} (hseen : seen.Writable) (now : Instant) (report : Heartbeat) :
    let p := (fresh shell).after run
    let heartbeat := Operation.recordHeartbeat seen id report
    let tick := Operation.reconcile config probe now
    heartbeat.answer p = .ok n.configRevision ∧
      (∃ count, tick.answer (heartbeat.after p) = .ok count) ∧
      ∃ m, (tick.after (heartbeat.after p)).fleet.node? id = some m ∧
        m.health =
          (if (config.offlineAfter : Int) < now.since seen then .offline
          else if (config.unhealthyAfter : Int) < now.since seen then .unhealthy
          else .online) ∧
        m.syncStatus =
          (if report.syncError.any fun e => !Text.isBlankText e then .failed
          else if report.appliedRevision = n.configRevision then .synced
          else .pending) := by
  intro p heartbeat tick
  have hs : p.fleet.Sound := sound_fresh shell run
  let q : Panel := { p with fleet := p.fleet.updateNode id (Fleet.noteHeartbeat seen report) }
  have hheartbeat : heartbeat.run.on p = (.ok n.configRevision, q) :=
    Action.on_transact_eq_ok.2 ⟨hopen, _, Fleet.recordHeartbeat_eq_ok.2 ⟨n, hn, rfl⟩, rfl⟩
  obtain ⟨hanswer, hafter⟩ := heartbeat.answer_of_on hheartbeat
  have hq : q.fleet.Sound := hs.updateNode fun _ _ hid => hid
  have hmem : Fleet.noteHeartbeat seen report n ∈ q.fleet.nodes := by
    obtain ⟨hmem, hid⟩ := Fleet.node?_eq_some hn
    exact List.mem_map.2 ⟨n, hmem, if_pos hid⟩
  obtain ⟨htick, hticked⟩ := tick.answer_of_on
    (Action.on_reconcile_of_nodup (p := q) hopen hq.nodes_ascend.nodup hprobe probe now)
  have hrow : (q.withNodes (q.fleet.nodes.map (Node.ticked config now))).fleet.node? id =
      some ((Fleet.noteHeartbeat seen report n).ticked config now) := by
    have hsound : (q.withNodes (q.fleet.nodes.map (Node.ticked config now))).fleet.Sound :=
      hq.mapNodes fun _ _ => rfl
    have hticked : (Fleet.noteHeartbeat seen report n).ticked config now ∈
        (q.withNodes (q.fleet.nodes.map (Node.ticked config now))).fleet.nodes :=
      List.mem_map.2 ⟨_, hmem, rfl⟩
    have hfind := hsound.node?_eq hticked
    rwa [Node.ticked_id, show (Fleet.noteHeartbeat seen report n).id = id from
      (Fleet.node?_eq_some hn).2] at hfind
  have hhealth : ((Fleet.noteHeartbeat seen report n).ticked config now).health =
      evaluateHealth (some seen) now .skipped config := by
    rw [Node.ticked_health, lastSeen_noteHeartbeat hseen]
  rw [hafter, hticked, hanswer]
  refine ⟨rfl, ⟨_, htick⟩, _, hrow, ?_, nextSyncStatus_noteHeartbeat⟩
  rw [hhealth, evaluateHealth_eq]

/-- A node that has told of an error is heard of in the last nanosecond of the year 9999. A
nanosecond after the bound it is unhealthy; a blank error counts as none. -/
theorem Panel.heartbeat_decides_tick_late :
    let run : List Event :=
      [.ask (.createNode ⟨0, 0⟩ "" .standard
        ⟨"node", "", some "host", some 443, 1, 0, [], [], .manual, none, none⟩),
      .ask (.recordHeartbeat ⟨0, 0⟩ 1 ⟨0, some "disk full"⟩)]
    let p := (fresh .silent).after run
    let config := { ReconcilerConfig.standard with probeEnabled := false }
    let seen : Instant := ⟨253402300799, 999999999⟩
    seen.Writable ∧
      ∃ m, ((Operation.reconcile config (fun _ => .skipped) ⟨253402300845, 0⟩).after
          ((Operation.recordHeartbeat seen 1 ⟨1, some " "⟩).after p)).fleet.node? 1 = some m ∧
        m.health = .unhealthy ∧ m.syncStatus = .synced := by
  intro run p config seen
  have hseen : seen.Writable := ⟨by decide +kernel, .inl (by decide)⟩
  have hfind : ((p.fleet.node? 1).map (·.configRevision)) = some 1 := by decide +kernel
  obtain ⟨n, hn, hrevision⟩ := Option.map_eq_some_iff.1 hfind
  obtain ⟨-, -, m, hm, hhealth, hsync⟩ :=
    heartbeat_decides_tick .silent run (by decide +kernel) hn
      (rfl : config.probeEnabled = false)
      (fun _ => .skipped) hseen ⟨253402300845, 0⟩ ⟨1, some " "⟩
  refine ⟨hseen, m, hm, hhealth.trans (by decide), hsync.trans ?_⟩
  rw [hrevision]
  decide +kernel

end NodeFleet
