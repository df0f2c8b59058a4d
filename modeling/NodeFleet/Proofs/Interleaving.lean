import Mathlib.Data.List.Induction
import NodeFleet.Proofs.Failure
import NodeFleet.Proofs.Revision

/-!
# Ticks that other operations come in between

A tick takes a snapshot of all nodes and writes the evaluations of those that have changed, one by
one. `State` is a panel with the ticks that are under way on it, and a `Move` is an operation, the
start of a tick, or the next write of one. A tick without anything in between is `Action.reconcile`.

A row that is synced but does not run its revision has been heard of after the last write of a tick
to it: a write makes a row synced only if its revisions are equal, updates make a row pending if
they raise its revision, and only heartbeats move the other one.
-/

namespace NodeFleet

/-! ### Rows and their steps -/

namespace Node

/-- What holds of every row: a node that was never heard of runs no revision and is not synced. -/
structure Credible (n : Node) : Prop where
  revision_pos : 1 ≤ n.configRevision
  unseen : n.lastSeenAt = none → n.appliedRevision = 0 ∧ n.syncStatus ≠ .synced

/-- The evaluation of a row as synced tells that the node runs its revision. -/
theorem Credible.of_evaluate_synced {n : Node} (h : n.Credible) {now : Instant} {probe : Probe}
    {config : ReconcilerConfig} (hsynced : (n.evaluate now probe config).syncStatus = .synced) :
    n.appliedRevision = n.configRevision := by
  simp only [evaluate] at hsynced
  split at hsynced
  · next hunseen => exact absurd hsynced (h.unseen (Option.isNone_iff_eq_none.1 hunseen)).2
  · unfold evaluateSync at hsynced
    split at hsynced
    · cases hsynced
    · split at hsynced
      · assumption
      · cases hsynced

theorem credible_toNode {d : NodeDraft} {now : Instant} {id : Int} :
    (d.toNode now id).Credible :=
  ⟨Int.le_refl _, fun _ => ⟨rfl, SyncStatus.noConfusion⟩⟩

namespace Step

variable {f : Fleet} {d : Deed} {n m : Node}

/-- Apart from evaluations, no step makes a row synced, and none moves the revision of a row that it
leaves synced. -/
theorem of_synced (h : Node.Step f d n m) (hd : ∀ id, d ≠ .evaluate id)
    (hsynced : m.syncStatus = .synced) :
    n.syncStatus = .synced ∧ n.configRevision = m.configRevision ∧
      (d ≠ .heartbeat m.id → n.appliedRevision = m.appliedRevision) := by
  cases h with
  | update hpatch =>
    obtain ⟨hchanged, hsame⟩ := Fleet.patchNode_revision hpatch
    by_cases hsettings : m.agentSettings = n.agentSettings
    · obtain ⟨hrevision, hsync⟩ := hsame hsettings
      obtain ⟨_, _, _, _, _, _, _, -, -, -, -, -, -, -, rfl⟩ := Fleet.patchNode_eq_ok.1 hpatch
      exact ⟨hsync ▸ hsynced, hrevision.symm, fun _ => rfl⟩
    · cases hsynced.symm.trans (hchanged hsettings).2
  | @install _ failedStep =>
    cases failedStep with
    | none => cases hsynced
    | some step => cases hsynced
  | heartbeat => exact ⟨hsynced, rfl, fun hne => absurd rfl hne⟩
  | evaluate => exact absurd rfl (hd _)
  | keep | enable => exact ⟨hsynced, rfl, fun _ => rfl⟩

/-- A row that was never heard of keeps the revision that it runs. -/
theorem of_unseen (h : Node.Step f d n m) (hunseen : m.lastSeenAt = none) :
    n.lastSeenAt = none ∧ m.appliedRevision = n.appliedRevision := by
  cases h with
  | update hpatch =>
    obtain ⟨_, _, _, _, _, _, _, -, -, -, -, -, -, -, rfl⟩ := Fleet.patchNode_eq_ok.1 hpatch
    exact ⟨hunseen, rfl⟩
  | @install _ failedStep =>
    cases failedStep with
    | none => exact ⟨hunseen, rfl⟩
    | some step => exact ⟨hunseen, rfl⟩
  | heartbeat => cases hunseen
  | keep | enable | evaluate => exact ⟨hunseen, rfl⟩

theorem credible (h : Node.Step f d n m) (hd : ∀ id, d ≠ .evaluate id) (hn : n.Credible) :
    m.Credible := by
  refine ⟨Int.le_trans hn.revision_pos h.configRevision_le.1, fun hunseen => ?_⟩
  obtain ⟨hunseen', happlied⟩ := h.of_unseen hunseen
  obtain ⟨hzero, hsync⟩ := hn.unseen hunseen'
  exact ⟨happlied.trans hzero, fun hsynced => hsync (h.of_synced hd hsynced).1⟩

end Step

end Node

namespace Fleet

variable {f f' : Fleet} {D : Deed → Prop}

/-- All rows are credible. -/
def Credible (f : Fleet) : Prop := ∀ n ∈ f.nodes, n.Credible

theorem Writes.credible (h : Writes D f f') (hD : ∀ id, ¬D (.evaluate id)) (hf : f.Credible) :
    f'.Credible := by
  refine h.keep (I := Credible) (fun d g g' hdeed hw hg m hm => ?_) hf
  cases hw.rowFrom hm with
  | step hn hstep => exact hstep.credible (fun id he => hD id (he ▸ hdeed)) (hg _ hn)
  | new => exact Node.credible_toNode

/-- A row that is synced after writes without evaluations was so before, and its revisions have not
moved, but by a heartbeat. -/
theorem Writes.of_synced (h : Writes D f f') (hD : ∀ id, ¬D (.evaluate id)) :
    ∀ m ∈ f'.nodes, m.syncStatus = .synced →
      ∃ n ∈ f.nodes, n.id = m.id ∧ n.syncStatus = .synced ∧ n.configRevision = m.configRevision ∧
        (¬D (.heartbeat m.id) → n.appliedRevision = m.appliedRevision) := by
  refine h.relate (R := fun f f' => ∀ m ∈ f'.nodes, m.syncStatus = .synced →
      ∃ n ∈ f.nodes, n.id = m.id ∧ n.syncStatus = .synced ∧ n.configRevision = m.configRevision ∧
        (¬D (.heartbeat m.id) → n.appliedRevision = m.appliedRevision)) ?_ ?_ ?_
  · exact fun f m hm hsynced => ⟨m, hm, rfl, hsynced, rfl, fun _ => rfl⟩
  · intro a b c hab hbc k hk hsynced
    obtain ⟨m, hm, hid, hsynced, hrevision, happlied⟩ := hbc k hk hsynced
    obtain ⟨n, hn, hid', hsynced, hrevision', happlied'⟩ := hab m hm hsynced
    exact ⟨n, hn, hid'.trans hid, hsynced, hrevision'.trans hrevision,
      fun hheard => (happlied' (hid ▸ hheard)).trans (happlied hheard)⟩
  · intro d g g' hdeed hw m hm hsynced
    cases hw.rowFrom hm with
    | step hn hstep =>
      obtain ⟨hsynced, hrevision, happlied⟩ :=
        hstep.of_synced (fun id he => hD id (he ▸ hdeed)) hsynced
      exact ⟨_, hn, hstep.id_eq.symm, hsynced, hrevision, fun hheard =>
        happlied fun he => hheard (he ▸ hdeed)⟩
    | new => cases hsynced

end Fleet

/-! ### Ticks under way -/

/-- A tick under way: its time, and the evaluations that it has still to write, with the rows of its
snapshot. -/
structure Tick where
  now : Instant
  rest : List (Node × Evaluation)

/-- A tick on a snapshot. Rows that are evaluated as they stand are not written. -/
def Tick.start (config : ReconcilerConfig) (probe : Node → Probe) (now : Instant)
    (snapshot : List Node) : Tick where
  now := now
  rest := (snapshot.map fun n => (n, n.evaluate now (Action.probeOf config probe n) config)).filter
    fun ne => ne.2 ≠ ne.1.evaluation

namespace Interleaving

/-- A panel and the ticks that are under way on it. -/
structure State where
  panel : Panel
  ticks : List Tick

/-- What happens to a panel with ticks under way. -/
inductive Move : Type 1 where
  /-- An event that evaluates no node. -/
  | event (e : Event) (h : ∀ id, ¬e.deeds (.evaluate id))
  /-- A tick takes its snapshot. -/
  | start (config : ReconcilerConfig) (probe : Node → Probe) (now : Instant)
  /-- The tick in a place writes its next evaluation. -/
  | write (place : Nat)

/-- The state after a move. A tick that cannot read the nodes does not start, and one that cannot
write ends. -/
def Move.after : Move → State → State
  | event e _, s => { s with panel := e.after s.panel }
  | start config probe now, s =>
    if s.panel.isOpen then
      { s with ticks := s.ticks ++ [.start config probe now s.panel.fleet.nodes] }
    else s
  | write place, s =>
    match s.ticks[place]? with
    | some ⟨now, (n, e) :: rest⟩ =>
      let op := Operation.applyEvaluation n e now
      { panel := op.after s.panel
        ticks := s.ticks.set place ⟨now, if (op.answer s.panel).isOk then rest else []⟩ }
    | _ => s

namespace State

/-- The state after a run of moves. -/
def after (s : State) (run : List Move) : State := run.foldl (fun s m => m.after s) s

/-- A new panel, without ticks. -/
def fresh (shell : Shell) : State := ⟨.fresh shell, []⟩

@[simp] theorem after_nil (s : State) : s.after [] = s := rfl

@[simp] theorem after_cons (s : State) (m : Move) (run : List Move) :
    s.after (m :: run) = (m.after s).after run := rfl

theorem after_append (s : State) (run later : List Move) :
    s.after (run ++ later) = (s.after run).after later :=
  List.foldl_append

theorem after_concat (s : State) (run : List Move) (m : Move) :
    s.after (run ++ [m]) = m.after (s.after run) := by
  rw [after_append]
  rfl

end State

/-! ### The writes of a tick -/

variable {s : State} {place : Nat} {now : Instant} {n : Node} {e : Evaluation}
  {rest : List (Node × Evaluation)}

/-- An evaluation that is written goes to a row that has not moved. -/
theorem exists_isUnmoved {p : Panel}
    (h : (Operation.applyEvaluation n e now).answer p = .ok true) :
    p.isOpen = true ∧ ∃ m ∈ p.fleet.nodes, Fleet.isUnmoved n m = true := by
  cases hopen : p.isOpen with
  | false =>
    have hclosed : (Operation.applyEvaluation n e now).answer p = .error databaseClosed :=
      congrArg Prod.fst (Action.on_transact_of_closed hopen _)
    cases hclosed.symm.trans h
  | true =>
    have hany : (Operation.applyEvaluation n e now).answer p =
        .ok (p.fleet.nodes.any (Fleet.isUnmoved n)) :=
      congrArg Prod.fst (Action.on_applyEvaluation hopen n e now)
    exact ⟨rfl, List.any_eq_true.1 (Except.ok.inj (hany.symm.trans h))⟩

theorem after_write_of_open (hopen : s.panel.isOpen = true)
    (htick : s.ticks[place]? = some ⟨now, (n, e) :: rest⟩) :
    (Move.write place).after s =
      ⟨{ s.panel with fleet := s.panel.fleet.withEvaluation n e now },
        s.ticks.set place ⟨now, rest⟩⟩ := by
  obtain ⟨hanswer, hafter⟩ := (Operation.applyEvaluation n e now).answer_of_on
    (Action.on_applyEvaluation hopen n e now)
  unfold Move.after
  simp only [htick, hanswer, hafter, Except.isOk, Except.toBool, if_true]

theorem after_write_of_closed (hclosed : s.panel.isOpen = false)
    (htick : s.ticks[place]? = some ⟨now, (n, e) :: rest⟩) :
    (Move.write place).after s = ⟨s.panel, s.ticks.set place ⟨now, []⟩⟩ := by
  have hon : (Operation.applyEvaluation n e now).run.on s.panel =
      (.error databaseClosed, s.panel) :=
    Action.on_transact_of_closed hclosed (Fleet.applyEvaluation n e now)
  obtain ⟨hanswer, hafter⟩ := Operation.answer_of_on _ hon
  unfold Move.after
  simp only [htick, hanswer, hafter, Except.isOk, Except.toBool, Bool.false_eq_true, if_false]

theorem after_write_of_done (h : ∀ now n e rest, s.ticks[place]? ≠ some ⟨now, (n, e) :: rest⟩) :
    (Move.write place).after s = s := by
  dsimp only [Move.after]
  split
  · next htick => exact absurd htick (h _ _ _ _)
  · rfl

/-- There is nothing to write, or the next evaluation is written, or its tick ends. -/
theorem after_write_cases (s : State) (place : Nat) :
    ((∀ now n e rest, s.ticks[place]? ≠ some ⟨now, (n, e) :: rest⟩) ∧
      (Move.write place).after s = s) ∨
    ∃ now n e rest, s.ticks[place]? = some ⟨now, (n, e) :: rest⟩ ∧
      (s.panel.isOpen = true ∧ (Move.write place).after s =
          ⟨{ s.panel with fleet := s.panel.fleet.withEvaluation n e now },
            s.ticks.set place ⟨now, rest⟩⟩ ∨
        s.panel.isOpen = false ∧ (Move.write place).after s =
          ⟨s.panel, s.ticks.set place ⟨now, []⟩⟩) := by
  by_cases hdone : ∀ now n e rest, s.ticks[place]? ≠ some ⟨now, (n, e) :: rest⟩
  · exact .inl ⟨hdone, after_write_of_done hdone⟩
  · simp only [ne_eq, not_forall, not_not] at hdone
    obtain ⟨now, n, e, rest, htick⟩ := hdone
    refine .inr ⟨now, n, e, rest, htick, ?_⟩
    cases hopen : s.panel.isOpen with
    | true => exact .inl ⟨rfl, after_write_of_open hopen htick⟩
    | false => exact .inr ⟨rfl, after_write_of_closed hopen htick⟩

/-- After a write, a tick is as it was or has gone on. -/
theorem tick_of_write {tick : Tick} (htick : tick ∈ ((Move.write place).after s).ticks) :
    ∃ old ∈ s.ticks, old.now = tick.now ∧ tick.rest <:+ old.rest := by
  rcases after_write_cases s place with
    ⟨-, hafter⟩ | ⟨now, n, e, rest, hplace, ⟨-, hafter⟩ | ⟨-, hafter⟩⟩
  · rw [hafter] at htick
    exact ⟨tick, htick, rfl, List.suffix_rfl⟩
  · rw [hafter] at htick
    rcases List.mem_or_eq_of_mem_set htick with hold | rfl
    · exact ⟨tick, hold, rfl, List.suffix_rfl⟩
    · exact ⟨_, List.mem_of_getElem? hplace, rfl, List.suffix_cons _ _⟩
  · rw [hafter] at htick
    rcases List.mem_or_eq_of_mem_set htick with hold | rfl
    · exact ⟨tick, hold, rfl, List.suffix_rfl⟩
    · exact ⟨_, List.mem_of_getElem? hplace, rfl, List.nil_suffix⟩

/-- The start of a tick leaves the panel. -/
theorem panel_after_start {config : ReconcilerConfig} {probe : Node → Probe} :
    ((Move.start config probe now).after s).panel = s.panel := by
  dsimp only [Move.after]
  split
  · rfl
  · rfl

/-- After the start of a tick, there are the ticks from before and the new one. -/
theorem tick_of_start {config : ReconcilerConfig} {probe : Node → Probe} {tick : Tick}
    (htick : tick ∈ ((Move.start config probe now).after s).ticks) :
    tick ∈ s.ticks ∨ tick = .start config probe now s.panel.fleet.nodes := by
  dsimp only [Move.after] at htick
  split at htick
  · simpa using htick
  · exact .inl htick

/-- A move changes the tables by transactions. -/
theorem Move.writes (m : Move) (s : State) :
    Fleet.Writes (fun _ => True) s.panel.fleet (m.after s).panel.fleet := by
  cases m with
  | event e _ => exact (e.writes s.panel).mono fun _ _ => trivial
  | start =>
    rw [panel_after_start]
    exact .refl
  | write place =>
    dsimp only [Move.after]
    split
    · exact (Operation.writes _ s.panel).mono fun _ _ => trivial
    · exact .refl

/-! ### A tick without anything in between -/

/-- The writes of a tick with nothing in between. -/
theorem panel_after_writes {p : Panel} {ticks : List Tick} (hopen : p.isOpen = true)
    (evaluations : List (Node × Evaluation)) :
    let rest := evaluations.filter fun ne => ne.2 ≠ ne.1.evaluation
    ((State.mk p (ticks ++ [⟨now, rest⟩])).after
        (List.replicate rest.length (.write ticks.length))).panel =
      ((Action.applyAll now evaluations).on p).2 := by
  induction evaluations generalizing p with
  | nil => rfl
  | cons ne more ih =>
    intro rest
    unfold Action.applyAll
    by_cases hsame : ne.2 = ne.1.evaluation
    · have hrest : rest = more.filter fun ne => ne.2 ≠ ne.1.evaluation :=
        List.filter_cons_of_neg (by simpa using hsame)
      rw [if_pos hsame, hrest]
      exact ih hopen
    · have hrest : rest = ne :: more.filter fun ne => ne.2 ≠ ne.1.evaluation :=
        List.filter_cons_of_pos (by simpa using hsame)
      have htick : (ticks ++ [⟨now, rest⟩])[ticks.length]? =
          some ⟨now, ne :: more.filter fun ne => ne.2 ≠ ne.1.evaluation⟩ := by
        rw [List.getElem?_concat_length, hrest]
      have hafter := after_write_of_open (s := ⟨p, ticks ++ [⟨now, rest⟩]⟩) hopen htick
      have hwrite := Action.on_applyEvaluation hopen ne.1 ne.2 now
      have hmore := ih (p := { p with fleet := p.fleet.withEvaluation ne.1 ne.2 now }) hopen
      rw [if_neg hsame, Action.on_bind_of_ok hwrite, Action.on_bind_pure_snd, ← hmore,
        congrArg List.length hrest, List.length_cons, List.replicate_succ, State.after_cons, hafter]
      simp only [List.set_append_right _ _ (Nat.le_refl _), Nat.sub_self, List.set_cons_zero]

/-- A tick with nothing in between is the operation of the reconciler. -/
theorem reconcile_after_eq (config : ReconcilerConfig) (probe : Node → Probe) (now : Instant)
    (s : State) :
    let writes := (Tick.start config probe now s.panel.fleet.nodes).rest.length
    (Operation.reconcile config probe now).after s.panel =
      (s.after (.start config probe now ::
        List.replicate writes (.write s.ticks.length))).panel := by
  intro writes
  change ((Action.reconcile config probe now).on s.panel).2 = _
  rw [State.after_cons]
  cases hopen : s.panel.isOpen with
  | true =>
    have hstart : (Move.start config probe now).after s =
        ⟨s.panel, s.ticks ++ [.start config probe now s.panel.fleet.nodes]⟩ := if_pos hopen
    rw [hstart, Action.on_reconcile_of_open hopen]
    exact (panel_after_writes hopen _).symm
  | false =>
    have hstart : (Move.start config probe now).after s = s := if_neg (by simp [hopen])
    rw [hstart, Action.on_reconcile_of_closed hopen]
    -- there is no tick that could write
    clear_value writes
    induction writes with
    | zero => rfl
    | succ k ih =>
      rw [List.replicate_succ, State.after_cons, after_write_of_done]
      · exact ih
      · simp

/-! ### What holds in every state -/

/-- What holds of a panel and the ticks under way on it. -/
structure Sane (s : State) : Prop where
  sound : s.panel.fleet.Sound
  credible : s.panel.fleet.Credible
  /-- An evaluation as synced that is still to be written is of a row that runs its revision. -/
  pending : ∀ tick ∈ s.ticks, ∀ ne ∈ tick.rest, ne.2.syncStatus = .synced →
    ne.1.appliedRevision = ne.1.configRevision

/-- The tick in a place writes the evaluation of a node, and the row takes it. -/
def Move.Writes (m : Move) (s : State) (id : Int) : Prop :=
  ∃ place now n e rest, m = .write place ∧ s.ticks[place]? = some ⟨now, (n, e) :: rest⟩ ∧
    n.id = id ∧ (Operation.applyEvaluation n e now).answer s.panel = .ok true

/-- What is written is the next evaluation of the tick. -/
theorem Move.Writes.of_tick {id : Int} (h : (Move.write place).Writes s id)
    (htick : s.ticks[place]? = some ⟨now, (n, e) :: rest⟩) :
    n.id = id ∧ (Operation.applyEvaluation n e now).answer s.panel = .ok true := by
  obtain ⟨_, _, _, _, _, hplace, htick', hid, hanswer⟩ := h
  cases hplace
  cases htick.symm.trans htick'
  exact ⟨hid, hanswer⟩

/-- The heartbeat of a node is recorded. -/
def Move.Hears (m : Move) (s : State) (id : Int) : Prop :=
  ∃ now report revision h, m = .event (.ask (.recordHeartbeat now id report)) h ∧
    (Operation.recordHeartbeat now id report).answer s.panel = .ok revision

namespace Sane

theorem fresh (shell : Shell) : Sane (.fresh shell) where
  sound := Fleet.Sound.empty
  credible _ hn := nomatch hn
  pending _ htick := nomatch htick

theorem event (h : Sane s) {e : Event} (he : ∀ id, ¬e.deeds (.evaluate id)) :
    Sane ((Move.event e he).after s) where
  sound := (e.writes s.panel).sound h.sound
  credible := (e.writes s.panel).credible he h.credible
  pending := h.pending

/-- A new tick evaluates credible rows. -/
theorem start (h : Sane s) {config : ReconcilerConfig} {probe : Node → Probe} {now : Instant} :
    Sane ((Move.start config probe now).after s) := by
  refine ⟨?_, ?_, ?_⟩
  · rw [panel_after_start]
    exact h.sound
  · rw [panel_after_start]
    exact h.credible
  · intro tick htick ne hne hsynced
    rcases tick_of_start htick with hold | rfl
    · exact h.pending tick hold ne hne hsynced
    · obtain ⟨n, hn, rfl⟩ := List.mem_map.1 (List.mem_filter.1 hne).1
      exact (h.credible n hn).of_evaluate_synced hsynced

/-- What a tick writes as synced runs its revision; the row it is written to has the same
revisions. -/
theorem withEvaluation_row (h : Sane s) (htick : s.ticks[place]? = some ⟨now, (n, e) :: rest⟩)
    {m : Node} (hm : m ∈ s.panel.fleet.nodes) (hunmoved : Fleet.isUnmoved n m = true) :
    (Fleet.writeEvaluation n e now m).Credible ∧
      (e.syncStatus = .synced → m.appliedRevision = m.configRevision) := by
  have hpending : e.syncStatus = .synced → m.appliedRevision = m.configRevision := by
    intro hsynced
    simp only [Fleet.isUnmoved, decide_eq_true_eq] at hunmoved
    rw [hunmoved.2.1, hunmoved.2.2]
    exact h.pending _ (List.mem_of_getElem? htick) (n, e) List.mem_cons_self hsynced
  refine ⟨⟨(h.credible m hm).revision_pos, fun hunseen => ?_⟩, hpending⟩
  obtain ⟨hzero, -⟩ := (h.credible m hm).unseen hunseen
  refine ⟨hzero, fun hsynced => ?_⟩
  -- a row that runs its revision runs one above zero
  have := hpending hsynced
  have := (h.credible m hm).revision_pos
  omega

theorem write (h : Sane s) : Sane ((Move.write place).after s) := by
  have hpending : ∀ tick ∈ ((Move.write place).after s).ticks, ∀ ne ∈ tick.rest,
      ne.2.syncStatus = .synced → ne.1.appliedRevision = ne.1.configRevision := by
    intro tick htick ne hne hsynced
    obtain ⟨old, hold, -, hrest⟩ := tick_of_write htick
    exact h.pending old hold ne (hrest.subset hne) hsynced
  refine ⟨?_, ?_, hpending⟩
  · exact ((Move.write place).writes s).sound h.sound
  · rcases after_write_cases s place with
      ⟨-, hafter⟩ | ⟨now, n, e, rest, htick, ⟨-, hafter⟩ | ⟨-, hafter⟩⟩
    · rw [hafter]
      exact h.credible
    · rw [hafter]
      intro m hm
      obtain ⟨k, hk, rfl⟩ := List.mem_map.1 hm
      split
      · next hunmoved => exact (h.withEvaluation_row htick hk hunmoved).1
      · exact h.credible k hk
    · rw [hafter]
      exact h.credible

theorem move (h : Sane s) (m : Move) : Sane (m.after s) := by
  cases m with
  | event e he => exact h.event he
  | start => exact h.start
  | write place => exact h.write

theorem run (h : Sane s) (moves : List Move) : Sane (s.after moves) := by
  induction moves generalizing s with
  | nil => exact h
  | cons m moves ih => exact ih (h.move m)

end Sane

/-! ### Synced rows -/

/-- A row after a write: it has taken the evaluation, and runs its revision if it is synced, or it
is as before. -/
theorem row_after_write (h : Sane s) {m : Node}
    (hm : m ∈ ((Move.write place).after s).panel.fleet.nodes) :
    ((Move.write place).Writes s m.id ∧
      (m.syncStatus = .synced → m.appliedRevision = m.configRevision)) ∨
    m ∈ s.panel.fleet.nodes ∧ ¬(Move.write place).Writes s m.id := by
  rcases after_write_cases s place with
    ⟨hdone, hafter⟩ | ⟨now, n, e, rest, htick, ⟨hopen, hafter⟩ | ⟨hclosed, hafter⟩⟩
  · rw [hafter] at hm
    refine .inr ⟨hm, ?_⟩
    rintro ⟨_, now, n, e, rest, hplace, htick, -⟩
    cases hplace
    exact hdone now n e rest htick
  · have hanswer : (Operation.applyEvaluation n e now).answer s.panel =
        .ok (s.panel.fleet.nodes.any (Fleet.isUnmoved n)) :=
      congrArg Prod.fst (Action.on_applyEvaluation hopen n e now)
    rw [hafter] at hm
    obtain ⟨k, hk, rfl⟩ := List.mem_map.1 hm
    split
    · next hunmoved =>
      left
      refine ⟨⟨place, now, n, e, rest, rfl, htick, (Fleet.isUnmoved_id hunmoved).symm, ?_⟩,
        (h.withEvaluation_row htick hk hunmoved).2⟩
      rw [hanswer, List.any_eq_true.2 ⟨k, hk, hunmoved⟩]
    · next hmoved =>
      refine .inr ⟨hk, fun hw => ?_⟩
      -- the row that takes the evaluation would be this one
      obtain ⟨hid, htrue⟩ := hw.of_tick htick
      obtain ⟨-, k', hk', hunmoved⟩ := exists_isUnmoved htrue
      cases h.sound.node_inj hk' hk ((Fleet.isUnmoved_id hunmoved).trans hid)
      exact hmoved hunmoved
  · rw [hafter] at hm
    refine .inr ⟨hm, fun hw => ?_⟩
    obtain ⟨hopen, -⟩ := exists_isUnmoved (hw.of_tick htick).2
    cases hclosed.symm.trans hopen

theorem deeds_heartbeat {e : Event} {id : Int} (h : e.deeds (.heartbeat id)) :
    ∃ now report, e = .ask (.recordHeartbeat now id report) := by
  cases e with
  | world isOpen shell => exact h.elim
  | ask op =>
    cases op with
    | recordHeartbeat now id' report =>
      cases h
      exact ⟨now, report, rfl⟩
    | _ => simp [Event.deeds, Operation.deeds] at h

/-- A row that is synced after an event was so before, and if its revisions differ, then they did so
before, or the node was heard of. -/
theorem row_after_event {e : Event} (he : ∀ id, ¬e.deeds (.evaluate id)) {m : Node}
    (hm : m ∈ ((Move.event e he).after s).panel.fleet.nodes) (hsynced : m.syncStatus = .synced) :
    ∃ n ∈ s.panel.fleet.nodes, n.id = m.id ∧ n.syncStatus = .synced ∧
      (m.appliedRevision ≠ m.configRevision →
        n.appliedRevision ≠ n.configRevision ∨ (Move.event e he).Hears s m.id) := by
  obtain ⟨n, hn, hid, hsynced', hrevision, happlied⟩ :=
    (e.writes s.panel).of_synced he m hm hsynced
  by_cases hdeed : e.deeds (.heartbeat m.id)
  · obtain ⟨now, report, rfl⟩ := deeds_heartbeat hdeed
    rcases Action.on_transact_cases (Fleet.recordHeartbeat now m.id report) s.panel with
      ⟨revision, f, -, -, hon⟩ | ⟨_, hon⟩
    · refine ⟨n, hn, hid, hsynced', fun _ => .inr ⟨now, report, revision, he, rfl, ?_⟩⟩
      exact congrArg Prod.fst hon
    · -- a heartbeat that is refused leaves the row
      have hsame : (Move.event (.ask (.recordHeartbeat now m.id report)) he).after s = s :=
        congrArg (State.mk · s.ticks) (congrArg Prod.snd hon)
      rw [hsame] at hm
      exact ⟨m, hm, rfl, hsynced, .inl⟩
  · refine ⟨n, hn, hid, hsynced', fun hstale => .inl ?_⟩
    rw [happlied hdeed, hrevision]
    exact hstale

/-! ### The history of a row -/

/-- No move of a run writes the evaluation of a node. -/
def State.Unwritten (id : Int) : State → List Move → Prop
  | _, [] => True
  | s, m :: run => ¬m.Writes s id ∧ Unwritten id (m.after s) run

theorem unwritten_concat {id : Int} {run : List Move} {m : Move} :
    s.Unwritten id (run ++ [m]) ↔ s.Unwritten id run ∧ ¬m.Writes (s.after run) id := by
  induction run generalizing s with
  | nil => simp [State.Unwritten]
  | cons m' run ih => simp only [List.cons_append, State.Unwritten, ih, State.after_cons, and_assoc]

/-- The heartbeat of a node is recorded in a run. -/
def State.Heard (id : Int) (s : State) (run : List Move) : Prop :=
  ∃ before m later, run = before ++ m :: later ∧ m.Hears (s.after before) id

theorem State.Heard.concat {id : Int} {run : List Move} (h : s.Heard id run) (m : Move) :
    s.Heard id (run ++ [m]) := by
  obtain ⟨before, m', later, rfl, hheard⟩ := h
  exact ⟨before, m', later ++ [m], by simp, hheard⟩

/-- The last write of a tick to a node, and what follows it. -/
structure LastWrite (shell : Shell) (id : Int) (first : List Move) (w : Move) (second : List Move) :
    Prop where
  writes : w.Writes ((State.fresh shell).after first) id
  unwritten : ((State.fresh shell).after (first ++ [w])).Unwritten id second

/-- A row that is synced was written by a tick, and if its revisions differ, then its node was heard
of after the last time. -/
theorem lastWrite_of_synced (shell : Shell) (run : List Move) {n : Node}
    (hn : n ∈ ((State.fresh shell).after run).panel.fleet.nodes)
    (hsynced : n.syncStatus = .synced) :
    ∃ first w second, run = first ++ w :: second ∧ LastWrite shell n.id first w second ∧
      (n.appliedRevision ≠ n.configRevision →
        ((State.fresh shell).after (first ++ [w])).Heard n.id second) := by
  induction run using List.reverseRecOn generalizing n with
  | nil => cases hn
  | append_singleton run m ih =>
    rw [State.after_concat] at hn
    have hsane := (Sane.fresh shell).run run
    -- a row that the move does not write has its history from before
    have hkeep {k : Node} (hk : k ∈ ((State.fresh shell).after run).panel.fleet.nodes)
        (hid : k.id = n.id) (hksynced : k.syncStatus = .synced)
        (hunwritten : ¬m.Writes ((State.fresh shell).after run) n.id)
        (hstale : n.appliedRevision ≠ n.configRevision → k.appliedRevision ≠ k.configRevision ∨
          m.Hears ((State.fresh shell).after run) n.id) :
        ∃ first w second, run ++ [m] = first ++ w :: second ∧ LastWrite shell n.id first w second ∧
          (n.appliedRevision ≠ n.configRevision →
            ((State.fresh shell).after (first ++ [w])).Heard n.id second) := by
      obtain ⟨first, w, second, rfl, ⟨hwrites, hlast⟩, hheard⟩ := ih hk hksynced
      rw [hid] at hwrites hlast hheard
      have hmid : ((State.fresh shell).after (first ++ [w])).after second =
          (State.fresh shell).after (first ++ w :: second) := by
        rw [← State.after_append]
        simp
      refine ⟨first, w, second ++ [m], by simp, ⟨hwrites, unwritten_concat.2 ⟨hlast, ?_⟩⟩,
        fun hne => ?_⟩
      · rw [hmid]
        exact hunwritten
      · rcases hstale hne with hne | hhears
        · exact (hheard hne).concat m
        · exact ⟨second, m, [], rfl, hmid ▸ hhears⟩
    cases m with
    | event e he =>
      obtain ⟨k, hk, hid, hksynced, hstale⟩ := row_after_event he hn hsynced
      exact hkeep hk hid hksynced (fun ⟨_, _, _, _, _, h, _⟩ => nomatch h) hstale
    | start config probe now =>
      rw [panel_after_start] at hn
      exact hkeep hn rfl hsynced (fun ⟨_, _, _, _, _, h, _⟩ => nomatch h) .inl
    | write place =>
      rcases row_after_write hsane hn with ⟨hwrites, hfresh⟩ | ⟨hk, hunwritten⟩
      · exact ⟨run, .write place, [], rfl, ⟨hwrites, trivial⟩,
          fun hne => absurd (hfresh hsynced) hne⟩
      · exact hkeep hk rfl hsynced hunwritten .inl

/-- In every state of every run, ticks and other operations in any order: if a node is synced and
does not run its revision, then its heartbeat was recorded after the last write of a tick to it. -/
theorem heard_since_last_write (shell : Shell) (run : List Move) (n : Node)
    (hn : n ∈ ((State.fresh shell).after run).panel.fleet.nodes)
    (hsynced : n.syncStatus = .synced) (hstale : n.appliedRevision ≠ n.configRevision) :
    ∃ first w second, run = first ++ w :: second ∧ LastWrite shell n.id first w second ∧
      ((State.fresh shell).after (first ++ [w])).Heard n.id second := by
  obtain ⟨first, w, second, hrun, hlast, hheard⟩ := lastWrite_of_synced shell run hn hsynced
  exact ⟨first, w, second, hrun, hlast, hheard hstale⟩

/-- A node is evaluated as synced, and then its agent goes back to another revision. -/
def fallback : List Move :=
  let now : Instant := ⟨0, 0⟩
  [.event (.ask (.createNode now "" .standard
      ⟨"node", "", some "host", some 443, 1, 0, [], [], .manual, none, none⟩))
      (by simp [Event.deeds, Operation.deeds]),
    .event (.ask (.recordHeartbeat now 1 ⟨1, none⟩)) (by simp [Event.deeds, Operation.deeds]),
    .start { ReconcilerConfig.standard with probeEnabled := false } (fun _ => .skipped) now,
    .write 0,
    .event (.ask (.recordHeartbeat now 1 ⟨0, none⟩)) (by simp [Event.deeds, Operation.deeds])]

theorem heard_fallback :
    ∃ n ∈ ((State.fresh .silent).after fallback).panel.fleet.nodes,
      n.syncStatus = .synced ∧ n.appliedRevision = 0 ∧ n.configRevision = 1 ∧
      ∃ first w second, fallback = first ++ w :: second ∧ LastWrite .silent n.id first w second ∧
        ((State.fresh .silent).after (first ++ [w])).Heard n.id second := by
  have hnode : ∃ n ∈ ((State.fresh .silent).after fallback).panel.fleet.nodes,
      n.syncStatus = .synced ∧ n.appliedRevision = 0 ∧ n.configRevision = 1 := by
    decide +kernel
  obtain ⟨n, hn, hsynced, happlied, hrevision⟩ := hnode
  refine ⟨n, hn, hsynced, happlied, hrevision, ?_⟩
  exact heard_since_last_write .silent fallback n hn hsynced (by omega)

end Interleaving

end NodeFleet
