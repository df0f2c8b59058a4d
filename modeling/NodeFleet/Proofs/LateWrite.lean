import NodeFleet.Proofs.Interleaving
import NodeFleet.Proofs.SyncError

/-!
# Writes of a tick that come late

A tick writes what it has made of its snapshot if the revisions of a row are still those of the
snapshot. The sync status of a row also depends on its error, and a heartbeat or an installation may
set or clear that without a move of the revisions. So a write says of the row what is the case
exactly if the row has an error now as it had one then.

Only nodes that have been heard of are written: the others are evaluated as they stand.
-/

namespace NodeFleet

namespace Node

/-- A node that was never heard of is offline and has no latency. -/
def Idle (n : Node) : Prop := n.lastSeenAt = none → n.health = .offline ∧ n.latency = 0

/-- A node that was never heard of is evaluated as it stands. -/
theorem Idle.evaluate_eq {n : Node} (h : n.Idle) (hunseen : n.lastSeenAt = none) (now : Instant)
    (probe : Probe) (config : ReconcilerConfig) : n.evaluate now probe config = n.evaluation := by
  obtain ⟨hhealth, hlatency⟩ := h hunseen
  have hlast : n.lastSeen = none := by
    unfold lastSeen
    rw [hunseen]
    rfl
  unfold evaluate evaluation
  simp only [hlast, hunseen, hhealth, hlatency, evaluateHealth, evaluateLatency, Option.isNone_none,
    if_true]

theorem Step.idle {f : Fleet} {d : Deed} {n m : Node} (h : Node.Step f d n m)
    (hd : ∀ id, d ≠ .evaluate id) (hn : n.Idle) : m.Idle := by
  intro hunseen
  have hidle := hn (h.of_unseen hunseen).1
  cases h with
  | update hpatch =>
    obtain ⟨_, _, _, _, _, _, _, -, -, -, -, -, -, -, rfl⟩ := Fleet.patchNode_eq_ok.1 hpatch
    exact hidle
  | @install _ failedStep =>
    cases failedStep with
    | none => exact hidle
    | some step => exact hidle
  | evaluate => exact absurd rfl (hd _)
  | keep | enable | heartbeat => exact hidle

/-- Rows with the same revisions are told to be in the same progress exactly if both have an error
or neither has one. -/
theorem evaluateSync_eq_iff {n m : Node} (hunmoved : Fleet.isUnmoved n m = true) :
    n.evaluateSync = m.evaluateSync ↔ n.syncError.isSome = m.syncError.isSome := by
  simp only [Fleet.isUnmoved, decide_eq_true_eq] at hunmoved
  obtain ⟨-, hconfig, happlied⟩ := hunmoved
  have hprogress : (if n.appliedRevision = n.configRevision then SyncStatus.synced else .pending)
      ≠ .failed := by
    split
    · exact SyncStatus.noConfusion
    · exact SyncStatus.noConfusion
  unfold evaluateSync
  rw [hconfig, happlied]
  cases n.syncError.isSome with
  | true =>
    cases m.syncError.isSome with
    | true => simp
    | false => simpa using hprogress.symm
  | false =>
    cases m.syncError.isSome with
    | true => simpa using hprogress
    | false => simp

end Node

/-- All nodes that were never heard of are idle. -/
def Fleet.Idle (f : Fleet) : Prop := ∀ n ∈ f.nodes, n.Idle

theorem Fleet.Writes.idle {f f' : Fleet} {D : Deed → Prop} (h : Fleet.Writes D f f')
    (hD : ∀ id, ¬D (.evaluate id)) (hf : f.Idle) : f'.Idle := by
  refine h.keep (I := Fleet.Idle) ?_ hf
  intro d g g' hdeed hw hg m hm
  cases hw.rowFrom hm with
  | step hn hstep => exact hstep.idle (fun id he => hD id (he ▸ hdeed)) (hg _ hn)
  | new => exact fun _ => ⟨rfl, rfl⟩

namespace Interleaving

variable {s : State} {place : Nat} {id : Int}

/-! ### Rows through moves -/

/-- A node that was heard of stays so. -/
theorem State.rowsFollow_seen (s : State) (run : List Move) :
    Fleet.RowsFollow (fun n m => m.lastSeenAt = none → n.lastSeenAt = none) s.panel.fleet
      (s.after run).panel.fleet := by
  induction run generalizing s with
  | nil => exact .refl (fun _ => id) _
  | cons move run ih =>
    have hmove := (move.writes s).rowsFollow
      (R := fun n m => m.lastSeenAt = none → n.lastSeenAt = none) (fun _ => id)
      (fun _ hnm hmk => hnm ∘ hmk) (fun _ hstep hunseen => (hstep.of_unseen hunseen).1)
    exact hmove.trans (ih (move.after s)) fun _ hnm hmk => hnm ∘ hmk

/-- A move that may set or clear the error of a node. -/
def Move.ReportsOn (id : Int) : Move → Prop
  | event e _ => e.ReportsOn id
  | start .. | write _ => False

/-- A write of a tick leaves the errors. -/
theorem rowsFollow_write :
    Fleet.RowsFollow (fun n m => m.syncError = n.syncError) s.panel.fleet
      ((Move.write place).after s).panel.fleet := by
  dsimp only [Move.after]
  split
  · apply (Operation.writes _ s.panel).rowsFollow
    · exact fun _ => rfl
    · exact fun _ hnm hmk => hmk.trans hnm
    · intro d f n m hdeed hstep
      cases hdeed
      exact hstep.syncError_eq nofun nofun
  · exact .refl (R := fun n m => m.syncError = n.syncError) (fun _ => rfl) _

/-- A move that does not report on a node leaves its error. -/
theorem Move.rowsFollow_syncError {move : Move} (hs : s.panel.fleet.Sound)
    (h : ¬move.ReportsOn id) :
    Fleet.RowsFollow (fun n m => n.id = id → m.syncError = n.syncError) s.panel.fleet
      (move.after s).panel.fleet := by
  cases move with
  | event e he => exact Event.rowsFollow_syncError hs h
  | start =>
    rw [panel_after_start]
    exact .refl (fun _ _ => rfl) _
  | write place => exact rowsFollow_write.mono fun hsame _ => hsame

/-- Moves that do not report on a node leave its error. -/
theorem State.rowsFollow_syncError (hs : Sane s) {run : List Move}
    (h : ∀ move ∈ run, ¬move.ReportsOn id) :
    Fleet.RowsFollow (fun n m => n.id = id → m.syncError = n.syncError) s.panel.fleet
      (s.after run).panel.fleet := by
  induction run generalizing s with
  | nil => exact .refl (fun _ _ => rfl) _
  | cons move run ih =>
    have hmove := move.rowsFollow_syncError hs.sound (h move List.mem_cons_self)
    have hrun := ih (hs.move move) fun m hm => h m (List.mem_cons_of_mem _ hm)
    refine hmove.trans hrun ?_
    intro n m k hid hnm hmk hn
    exact (hmk (hid.trans hn)).trans (hnm hn)

/-! ### Where a tick comes from -/

/-- A tick has to write the evaluations of rows of its snapshot, where they are not what the rows
have. -/
theorem mem_start {config : ReconcilerConfig} {probe : Node → Probe} {now : Instant}
    {snapshot : List Node} {n : Node} {e : Evaluation}
    (h : (n, e) ∈ (Tick.start config probe now snapshot).rest) :
    n ∈ snapshot ∧ e = n.evaluate now (Action.probeOf config probe n) config ∧
      e ≠ n.evaluation := by
  obtain ⟨hmem, hchanged⟩ := List.mem_filter.1 h
  obtain ⟨k, hk, heq⟩ := List.mem_map.1 hmem
  cases heq
  exact ⟨hk, rfl, by simpa using hchanged⟩

/-- If nodes that were never heard of are idle, a tick has nothing to write to them. -/
theorem isSome_of_mem_start {config : ReconcilerConfig} {probe : Node → Probe} {now : Instant}
    {snapshot : List Node} (hidle : ∀ n ∈ snapshot, n.Idle) {n : Node} {e : Evaluation}
    (h : (n, e) ∈ (Tick.start config probe now snapshot).rest) : n.lastSeenAt.isSome := by
  obtain ⟨hn, heval, hchanged⟩ := mem_start h
  rw [Option.isSome_iff_ne_none]
  intro hunseen
  rw [(hidle n hn).evaluate_eq hunseen] at heval
  exact hchanged heval

/-- A tick under way after a run was started in it, and has still to write the end of what it had to
write then. -/
structure StartedIn (shell : Shell) (run : List Move) (tick : Tick) (first : List Move)
    (config : ReconcilerConfig) (probe : Node → Probe) (second : List Move) : Prop where
  run_eq : run = first ++ .start config probe tick.now :: second
  rest_suffix : tick.rest <:+
    (Tick.start config probe tick.now ((State.fresh shell).after first).panel.fleet.nodes).rest

namespace StartedIn

variable {shell : Shell} {run first second : List Move} {tick : Tick} {config : ReconcilerConfig}
  {probe : Node → Probe}

theorem concat (h : StartedIn shell run tick first config probe second) (move : Move) :
    StartedIn shell (run ++ [move]) tick first config probe (second ++ [move]) where
  run_eq := by
    rw [h.run_eq]
    simp
  rest_suffix := h.rest_suffix

/-- A tick that has gone on was started where it was. -/
theorem of_suffix {old : Tick} (h : StartedIn shell run old first config probe second)
    (hnow : old.now = tick.now) (hrest : tick.rest <:+ old.rest) :
    StartedIn shell run tick first config probe second where
  run_eq := hnow ▸ h.run_eq
  rest_suffix := hrest.trans (hnow ▸ h.rest_suffix)

end StartedIn

/-- Every tick under way was started in the run. -/
theorem exists_startedIn (shell : Shell) (run : List Move) :
    ∀ tick ∈ ((State.fresh shell).after run).ticks,
      ∃ first config probe second, StartedIn shell run tick first config probe second := by
  induction run using List.reverseRecOn with
  | nil => exact fun _ htick => nomatch htick
  | append_singleton run move ih =>
    rw [State.after_concat]
    intro tick htick
    cases move with
    | event e he =>
      obtain ⟨first, config, probe, second, hstarted⟩ := ih tick htick
      exact ⟨first, config, probe, _, hstarted.concat _⟩
    | start config probe now =>
      rcases tick_of_start htick with hold | rfl
      · obtain ⟨first, config, probe, second, hstarted⟩ := ih tick hold
        exact ⟨first, config, probe, _, hstarted.concat _⟩
      · exact ⟨run, config, probe, [], rfl, List.suffix_rfl⟩
    | write place =>
      obtain ⟨old, hold, hnow, hrest⟩ := tick_of_write htick
      obtain ⟨first, config, probe, second, hstarted⟩ := ih old hold
      exact ⟨first, config, probe, _, (hstarted.of_suffix hnow hrest).concat _⟩

/-- A node that had been heard of at the snapshot of a tick has been heard of. -/
theorem StartedIn.isSome_lastSeenAt {shell : Shell} {run first second : List Move} {tick : Tick}
    {config : ReconcilerConfig} {probe : Node → Probe}
    (h : StartedIn shell run tick first config probe second) {n m : Node} {e : Evaluation}
    (hne : (n, e) ∈ tick.rest) (hseen : n.lastSeenAt.isSome)
    (hm : m ∈ ((State.fresh shell).after run).panel.fleet.nodes) (hid : m.id = n.id) :
    m.lastSeenAt.isSome := by
  have hs := ((Sane.fresh shell).run first).sound
  have hn := (mem_start (h.rest_suffix.subset hne)).1
  have hrows := State.rowsFollow_seen ((State.fresh shell).after first)
    (.start config probe tick.now :: second)
  rw [← State.after_append, ← h.run_eq] at hrows
  have hle : m.id ≤ ((State.fresh shell).after first).panel.fleet.lastNode := by
    rw [hid]
    exact hs.nodes_le n.id (List.mem_map_of_mem hn)
  obtain ⟨k, hk, hmk, hfollow⟩ := hrows.rows m hm hle
  cases hs.node_inj hk hn (hmk.symm.trans hid)
  rw [Option.isSome_iff_ne_none] at hseen ⊢
  exact mt hfollow hseen

/-- What ticks have still to write are evaluations of nodes that were heard of. -/
def State.Informed (s : State) : Prop :=
  ∀ tick ∈ s.ticks, ∀ ne ∈ tick.rest, ne.1.lastSeenAt.isSome

/-- A write changes no node that was never heard of. -/
theorem idle_of_write {shell : Shell} {run : List Move}
    (hidle : ((State.fresh shell).after run).panel.fleet.Idle)
    (hinformed : ((State.fresh shell).after run).Informed) :
    ((Move.write place).after ((State.fresh shell).after run)).panel.fleet.Idle := by
  rcases after_write_cases ((State.fresh shell).after run) place with
    ⟨-, hafter⟩ | ⟨now, n, e, rest, hplace, ⟨-, hafter⟩ | ⟨-, hafter⟩⟩
  · rw [hafter]
    exact hidle
  · rw [hafter]
    have htick := List.mem_of_getElem? hplace
    obtain ⟨first, config, probe, second, hstarted⟩ := exists_startedIn shell run _ htick
    intro m hm
    obtain ⟨k, hk, rfl⟩ := List.mem_map.1 hm
    split
    · next hunmoved =>
      -- the row is the one of the snapshot, some moves later
      have hseen := hinformed _ htick _ List.mem_cons_self
      have hsome := hstarted.isSome_lastSeenAt List.mem_cons_self hseen hk
        (Fleet.isUnmoved_id hunmoved)
      intro hunseen
      exact absurd hunseen (Option.isSome_iff_ne_none.1 hsome)
    · exact hidle k hk
  · rw [hafter]
    exact hidle

/-- In every state of every run, nodes that were never heard of are idle, and the ticks write to the
others only. -/
theorem idle_and_informed (shell : Shell) (run : List Move) :
    ((State.fresh shell).after run).panel.fleet.Idle ∧
      ((State.fresh shell).after run).Informed := by
  induction run using List.reverseRecOn with
  | nil =>
    constructor
    · exact fun _ hn => nomatch hn
    · exact fun _ htick => nomatch htick
  | append_singleton run move ih =>
    obtain ⟨hidle, hinformed⟩ := ih
    rw [State.after_concat]
    cases move with
    | event e he => exact ⟨(e.writes _).idle he hidle, hinformed⟩
    | start config probe now =>
      rw [panel_after_start]
      refine ⟨hidle, ?_⟩
      intro tick htick ne hne
      rcases tick_of_start htick with hold | rfl
      · exact hinformed tick hold ne hne
      · exact isSome_of_mem_start hidle hne
    | write place =>
      refine ⟨idle_of_write hidle hinformed, ?_⟩
      intro tick htick ne hne
      obtain ⟨old, hold, -, hrest⟩ := tick_of_write htick
      exact hinformed old hold ne (hrest.subset hne)

/-! ### What is written -/

/-- An evaluation that is written goes to the row of its node. -/
theorem after_write_of_written {n : Node} {e : Evaluation} {now : Instant}
    {rest : List (Node × Evaluation)} (hs : s.panel.fleet.Sound)
    (htick : s.ticks[place]? = some ⟨now, (n, e) :: rest⟩)
    (hanswer : (Operation.applyEvaluation n e now).answer s.panel = .ok true) :
    ∃ m, s.panel.fleet.node? n.id = some m ∧ Fleet.isUnmoved n m = true ∧
      ((Move.write place).after s).panel.fleet.node? n.id =
        some (Fleet.writeEvaluation n e now m) := by
  obtain ⟨hopen, m, hm, hunmoved⟩ := exists_isUnmoved hanswer
  have hid := Fleet.isUnmoved_id hunmoved
  refine ⟨m, hid ▸ hs.node?_eq hm, hunmoved, ?_⟩
  have hmem : Fleet.writeEvaluation n e now m ∈
      ((Move.write place).after s).panel.fleet.nodes := by
    rw [after_write_of_open hopen htick]
    exact List.mem_map.2 ⟨m, hm, if_pos hunmoved⟩
  have hfind := (((Move.write place).writes s).sound hs).node?_eq hmem
  rwa [show (Fleet.writeEvaluation n e now m).id = n.id from hid] at hfind

/-- In every state of every run, ticks and other operations in any order: a tick writes a node only
if it has been heard of. The sync status written is what the snapshot of the tick says, and it is
what the row says at the time of the write exactly if the row has an error then or both times not.
It is so if, since the snapshot, the node has sent no heartbeat and nothing was installed on it. -/
theorem syncStatus_of_write (shell : Shell) (run : List Move) (place : Nat) (id : Int)
    (hwrite : (Move.write place).Writes ((State.fresh shell).after run) id) :
    ∃ tick first config probe second n m k,
      ((State.fresh shell).after run).ticks[place]? = some tick ∧
      StartedIn shell run tick first config probe second ∧
      ((State.fresh shell).after first).panel.fleet.node? id = some n ∧
      ((State.fresh shell).after run).panel.fleet.node? id = some m ∧
      ((State.fresh shell).after (run ++ [.write place])).panel.fleet.node? id = some k ∧
      m.lastSeenAt.isSome ∧ k.syncStatus = n.evaluateSync ∧
      (k.syncStatus = m.evaluateSync ↔ n.syncError.isSome = m.syncError.isSome) ∧
      ((∀ move ∈ second, ¬move.ReportsOn id) → k.syncStatus = m.evaluateSync) := by
  obtain ⟨_, now, n, e, rest, hplace, htick, rfl, hanswer⟩ := hwrite
  cases hplace
  have hsane := (Sane.fresh shell).run run
  have hmem := List.mem_of_getElem? htick
  obtain ⟨first, config, probe, second, hstarted⟩ := exists_startedIn shell run _ hmem
  have hfirst := (Sane.fresh shell).run first
  obtain ⟨hn, heval, -⟩ := mem_start (hstarted.rest_suffix.subset List.mem_cons_self)
  have hn? := hfirst.sound.node?_eq hn
  obtain ⟨m, hm, hunmoved, hk⟩ := after_write_of_written hsane.sound htick hanswer
  rw [← State.after_concat] at hk
  have hseen := (idle_and_informed shell run).2 _ hmem _ List.mem_cons_self
  have hsync : e.syncStatus = n.evaluateSync := by
    rw [heval]
    exact if_neg (by simpa using Option.isSome_iff_ne_none.1 hseen)
  obtain ⟨hmmem, hmid⟩ := Fleet.node?_eq_some hm
  have hiff : e.syncStatus = m.evaluateSync ↔ n.syncError.isSome = m.syncError.isSome := by
    rw [hsync]
    exact Node.evaluateSync_eq_iff hunmoved
  refine ⟨_, first, config, probe, second, n, m, _, htick, hstarted, hn?, hm, hk,
    hstarted.isSome_lastSeenAt List.mem_cons_self hseen hmmem hmid, hsync, hiff, ?_⟩
  intro hquiet
  -- from the snapshot on, starting with the start of the tick
  have hsilent : ∀ move ∈ .start config probe now :: second, ¬move.ReportsOn n.id := by
    intro move hmove
    rcases List.mem_cons.1 hmove with rfl | hlater
    · exact id
    · exact hquiet move hlater
  have hrows := State.rowsFollow_syncError hfirst hsilent
  rw [← State.after_append, ← hstarted.run_eq] at hrows
  have herror := hrows.of_node? hfirst.sound hn? hm rfl
  exact hiff.2 (by rw [herror])

theorem not_deeds_createNode {now : Instant} {token : String} {config : InstallConfig}
    {r : CreateNode} (id : Int) :
    ¬(Event.ask (.createNode now token config r)).deeds (.evaluate id) := by
  rintro (h | ⟨other, h⟩)
  · cases h
  · cases h

theorem not_deeds_recordHeartbeat {now : Instant} {heard : Int} {report : Heartbeat} (id : Int) :
    ¬(Event.ask (.recordHeartbeat now heard report)).deeds (.evaluate id) := by
  intro h
  cases h

/-- A request for a node. -/
def Move.create (now : Instant) (r : CreateNode) : Move :=
  .event (.ask (.createNode now "" .standard r)) not_deeds_createNode

/-- A heartbeat of a node. -/
def Move.hear (now : Instant) (id : Int) (report : Heartbeat) : Move :=
  .event (.ask (.recordHeartbeat now id report)) not_deeds_recordHeartbeat

/-- A heartbeat that tells of an error comes between the snapshot of a tick and its write. -/
def overtaken : List Move :=
  let now : Instant := ⟨0, 0⟩
  [.create now ⟨"node", "", some "host", some 443, 1, 0, [], [], .manual, none, none⟩,
    .hear now 1 ⟨1, none⟩,
    .start { ReconcilerConfig.standard with probeEnabled := false } (fun _ => .skipped) now,
    .hear now 1 ⟨1, some "disk full"⟩]

theorem writes_overtaken : (Move.write 0).Writes ((State.fresh .silent).after overtaken) 1 := by
  have hrows : (∀ m ∈ ((State.fresh .silent).after overtaken).panel.fleet.nodes,
      m.syncStatus ≠ .synced) ∧
      ∃ k ∈ ((Move.write 0).after ((State.fresh .silent).after overtaken)).panel.fleet.nodes,
        k.id = 1 ∧ k.syncStatus = .synced := by
    decide +kernel
  obtain ⟨hunsynced, k, hk, hid, hsynced⟩ := hrows
  rcases row_after_write ((Sane.fresh .silent).run overtaken) hk with ⟨hwrites, -⟩ | ⟨hold, -⟩
  · rwa [hid] at hwrites
  · exact absurd hsynced (hunsynced k hold)

theorem syncStatus_overtaken :
    (Move.write 0).Writes ((State.fresh .silent).after overtaken) 1 ∧
    ∃ tick first config probe second n m k,
      ((State.fresh .silent).after overtaken).ticks[0]? = some tick ∧
      StartedIn .silent overtaken tick first config probe second ∧
      ((State.fresh .silent).after first).panel.fleet.node? 1 = some n ∧
      ((State.fresh .silent).after overtaken).panel.fleet.node? 1 = some m ∧
      ((State.fresh .silent).after (overtaken ++ [.write 0])).panel.fleet.node? 1 = some k ∧
      m.lastSeenAt.isSome ∧ k.syncStatus = n.evaluateSync ∧
      (k.syncStatus = m.evaluateSync ↔ n.syncError.isSome = m.syncError.isSome) ∧
      ((∀ move ∈ second, ¬move.ReportsOn 1) → k.syncStatus = m.evaluateSync) :=
  ⟨writes_overtaken, syncStatus_of_write .silent overtaken 0 1 writes_overtaken⟩

/-- A write may hide an error: the node has told of one, and is synced after the write. -/
theorem late_write_hides_error :
    (Move.write 0).Writes ((State.fresh .silent).after overtaken) 1 ∧
    (∃ m ∈ ((State.fresh .silent).after overtaken).panel.fleet.nodes, m.id = 1 ∧
      m.lastSeenAt.isSome ∧ m.syncError = some "disk full" ∧ m.evaluateSync = .failed) ∧
    ∃ k ∈ ((State.fresh .silent).after (overtaken ++ [.write 0])).panel.fleet.nodes, k.id = 1 ∧
      k.syncError = some "disk full" ∧ k.syncStatus = .synced := by
  refine ⟨writes_overtaken, ?_, ?_⟩
  · decide +kernel
  · decide +kernel

end Interleaving

end NodeFleet
