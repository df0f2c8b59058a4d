import NodeFleet.Proofs.Failure

/-!
# Ticks without probes

A tick looks at every node once and writes the rows that its evaluation changes. Rows have distinct
numbers, so no write reaches the row of another node, and what a tick makes of a row is told by that
row alone. A second tick at the same time finds nothing to do, and a later tick makes up for an
earlier one that was missed.
-/

namespace NodeFleet

/-! ### Time -/

namespace Instant

/-- The order of time, in which a leap second comes after the second before it. -/
instance : LE Instant := ⟨fun t u => t.second < u.second ∨ t.second = u.second ∧ t.nano ≤ u.nano⟩

theorem le_def {t u : Instant} :
    t ≤ u ↔ t.second < u.second ∨ t.second = u.second ∧ t.nano ≤ u.nano := Iff.rfl

instance (t u : Instant) : Decidable (t ≤ u) := decidable_of_iff _ le_def.symm

/-- Whether an instant lies in a leap second. -/
def InLeapSecond (t : Instant) : Prop := nanosPerSecond ≤ t.nano

instance (t : Instant) : Decidable t.InLeapSecond := inferInstanceAs (Decidable (_ ≤ _))

variable {t u earlier : Instant}

/-- Outside of leap seconds, the time between instants is the difference of their nanoseconds. -/
theorem since_eq (ht : ¬t.InLeapSecond) (hearlier : ¬earlier.InLeapSecond) :
    t.since earlier =
      (t.second * nanosPerSecond + t.nano) - (earlier.second * nanosPerSecond + earlier.nano) := by
  unfold InLeapSecond at ht hearlier
  simp only [since, if_neg fun h => hearlier (And.right h), if_neg fun h => ht (And.right h),
    Int.add_zero, Int.sub_mul]
  omega

/-- Outside of leap seconds, an instant is at least as long ago later on. -/
theorem ageSince_mono (ht : ¬t.InLeapSecond) (hu : ¬u.InLeapSecond)
    (hearlier : ¬earlier.InLeapSecond) (h : t ≤ u) : t.ageSince earlier ≤ u.ageSince earlier := by
  have hmono : t.since earlier ≤ u.since earlier := by
    rw [since_eq ht hearlier, since_eq hu hearlier]
    unfold InLeapSecond nanosPerSecond at ht
    unfold nanosPerSecond
    rcases le_def.1 h with h | ⟨h, hnano⟩
    · omega
    · omega
  exact Int.toNat_le_toNat hmono

end Instant

/-! ### Health -/

section Health

variable {lastSeen : Option Instant} {now now₁ now₂ : Instant} {config : ReconcilerConfig}

theorem evaluateHealth_eq_online :
    evaluateHealth lastSeen now .skipped config = .online ↔
      ∃ seen, lastSeen = some seen ∧ now.ageSince seen ≤ config.offlineAfter ∧
        now.ageSince seen ≤ config.unhealthyAfter := by
  cases lastSeen with
  | none => simp [evaluateHealth]
  | some seen =>
    simp only [evaluateHealth, Option.some.injEq, exists_eq_left', reduceCtorEq, or_false]
    split
    · simp only [reduceCtorEq, false_iff]
      omega
    · split
      · simp only [reduceCtorEq, false_iff]
        omega
      · simp only [true_iff]
        omega

/-- A node that is online was online before, since its last heartbeat was more recent then. -/
theorem online_of_online (h : evaluateHealth lastSeen now₂ .skipped config = .online)
    (hle : now₁ ≤ now₂) (hnow₁ : ¬now₁.InLeapSecond) (hnow₂ : ¬now₂.InLeapSecond)
    (hseen : ∀ seen, lastSeen = some seen → ¬seen.InLeapSecond) :
    evaluateHealth lastSeen now₁ .skipped config = .online := by
  obtain ⟨seen, hlast, hoffline, hunhealthy⟩ := evaluateHealth_eq_online.1 h
  have hage := Instant.ageSince_mono hnow₁ hnow₂ (hseen seen hlast) hle
  exact evaluateHealth_eq_online.2 ⟨seen, hlast, by omega, by omega⟩

end Health

/-! ### Rows -/

namespace Node

/-- The sync status after a tick. -/
def nextSyncStatus (n : Node) : SyncStatus :=
  if n.lastSeenAt = none then n.syncStatus else n.evaluateSync

/-- Whether a tick finds that the node has become synced. -/
def BecomesSynced (n : Node) : Prop := n.nextSyncStatus = .synced ∧ n.syncStatus ≠ .synced

instance (n : Node) : Decidable n.BecomesSynced := inferInstanceAs (Decidable (_ ∧ _))

/-- The row of a node after a tick without a probe. -/
def ticked (config : ReconcilerConfig) (now : Instant) (n : Node) : Node :=
  { n with
    health := evaluateHealth n.lastSeen now .skipped config
    syncStatus := n.nextSyncStatus
    latency := if evaluateHealth n.lastSeen now .skipped config = .online then n.latency else 0
    syncedAt := if n.BecomesSynced then some now.toText else n.syncedAt }

variable {config : ReconcilerConfig} {now now₁ now₂ : Instant} {n : Node}

@[simp] theorem ticked_id : (n.ticked config now).id = n.id := rfl

@[simp] theorem lastSeen_ticked : (n.ticked config now).lastSeen = n.lastSeen := rfl

theorem ticked_health :
    (n.ticked config now).health = evaluateHealth n.lastSeen now .skipped config := rfl

theorem ticked_latency :
    (n.ticked config now).latency =
      if (n.ticked config now).health = .online then n.latency else 0 := rfl

@[simp] theorem nextSyncStatus_ticked :
    (n.ticked config now).nextSyncStatus = n.nextSyncStatus := by
  by_cases hseen : n.lastSeenAt = none
  · simp [nextSyncStatus, ticked, hseen]
  · simp [nextSyncStatus, ticked, hseen, evaluateSync]

/-- The row after two ticks is that of the second one, but for the latency, which the first one may
have set to zero, and for the time at which the node became synced. -/
theorem ticked_ticked :
    (n.ticked config now₁).ticked config now₂ =
      { n.ticked config now₂ with
        latency :=
          if (n.ticked config now₂).health = .online then (n.ticked config now₁).latency else 0
        syncedAt := if n.BecomesSynced then some now₁.toText else n.syncedAt } := by
  have hsynced : ¬(n.ticked config now₁).BecomesSynced := by
    rintro ⟨hnext, hne⟩
    rw [nextSyncStatus_ticked] at hnext
    exact hne hnext
  rw [ticked, if_neg hsynced, nextSyncStatus_ticked, lastSeen_ticked]
  rfl

/-- After a tick, another one at the same time changes nothing. -/
theorem ticked_idem : (n.ticked config now).ticked config now = n.ticked config now := by
  have hlatency : (if (n.ticked config now).health = .online then (n.ticked config now).latency
      else 0) = (n.ticked config now).latency := by
    rw [ticked_latency]
    split
    · rfl
    · rfl
  rw [ticked_ticked, hlatency]
  rfl

/-- Whether a leap second lies at one of two ticks or at the last heartbeat of a node. -/
def MeetsLeapSecond (n : Node) (now₁ now₂ : Instant) : Prop :=
  now₁.InLeapSecond ∨ now₂.InLeapSecond ∨ ∃ seen, n.lastSeen = some seen ∧ seen.InLeapSecond

/-- An earlier tick leaves no mark in the latency, unless a leap second makes it find the last
heartbeat longer ago than the later tick does. -/
theorem latency_ticked_ticked (hle : now₁ ≤ now₂) :
    ((n.ticked config now₁).ticked config now₂).latency = (n.ticked config now₂).latency ∨
      ((n.ticked config now₁).ticked config now₂).latency = 0 ∧ n.MeetsLeapSecond now₁ now₂ := by
  have hboth : ((n.ticked config now₁).ticked config now₂).latency =
      if (n.ticked config now₂).health = .online then (n.ticked config now₁).latency else 0 :=
    congrArg Node.latency ticked_ticked
  have halone : (n.ticked config now₂).latency = _ := ticked_latency
  by_cases hlater : (n.ticked config now₂).health = .online
  · rw [if_pos hlater] at hboth halone
    rw [hboth, halone, ticked_latency]
    by_cases hearlier : (n.ticked config now₁).health = .online
    · exact .inl (if_pos hearlier)
    · refine .inr ⟨if_neg hearlier, ?_⟩
      by_contra hleap
      simp only [MeetsLeapSecond, not_or, not_exists, not_and] at hleap
      obtain ⟨hnow₁, hnow₂, hseen⟩ := hleap
      exact hearlier (online_of_online hlater hle hnow₁ hnow₂ hseen)
  · rw [if_neg hlater] at hboth halone
    exact .inl (hboth.trans halone.symm)

end Node

namespace Fleet

variable {now : Instant} {n : Node} {e : Evaluation}

@[simp] theorem writeEvaluation_id {snapshot : Node} :
    (writeEvaluation snapshot e now n).id = n.id := rfl

/-- An evaluation that finds nothing new changes nothing. -/
theorem writeEvaluation_evaluation : writeEvaluation n n.evaluation now n = n := by
  have hsynced : ¬(n.evaluation.syncStatus = .synced ∧ n.syncStatus ≠ .synced) := fun h => h.2 h.1
  rw [writeEvaluation, if_neg hsynced]
  rfl

theorem writeEvaluation_skipped (config : ReconcilerConfig) :
    writeEvaluation n (n.evaluate now .skipped config) now n = n.ticked config now := by
  have hlatency (health : Health) (old : Int) :
      evaluateLatency health .skipped old = if health = .online then old else 0 := by
    cases health with
    | online => rfl
    | offline => rfl
    | unhealthy => rfl
  simp only [writeEvaluation, Node.evaluate, Node.ticked, Node.nextSyncStatus, Node.BecomesSynced,
    hlatency, Option.isNone_iff_eq_none]
  rfl

/-- Among rows with distinct numbers, an evaluation is written to one. -/
theorem map_writeEvaluation {before after : List Node}
    (h : ((before ++ n :: after).map (·.id)).Nodup) :
    ((before ++ n :: after).map fun m => if isUnmoved n m then writeEvaluation n e now m else m)
      = before ++ writeEvaluation n e now n :: after := by
  have hself : isUnmoved n n = true := by simp [isUnmoved]
  have hother {rows : List Node} (hrows : ∀ m ∈ rows, m.id ≠ n.id) :
      (rows.map fun m => if isUnmoved n m then writeEvaluation n e now m else m) = rows := by
    refine (List.map_congr_left fun m hm => ?_).trans (List.map_id rows)
    exact if_neg fun hm' => hrows m hm (of_decide_eq_true hm').1
  simp only [List.map_append, List.map_cons, List.nodup_append, List.nodup_cons, List.mem_map,
    List.mem_cons] at h
  obtain ⟨-, ⟨hafter, -⟩, hbefore⟩ := h
  rw [List.map_append, List.map_cons, if_pos hself,
    hother fun m hm => hbefore _ ⟨m, hm, rfl⟩ _ (.inl rfl),
    hother fun m hm he => hafter ⟨m, hm, he⟩]

end Fleet

/-! ### Ticks -/

/-- A panel with other rows of nodes. -/
def Panel.withNodes (p : Panel) (nodes : List Node) : Panel :=
  { p with fleet := { p.fleet with nodes := nodes } }

namespace Action

variable {p : Panel} {now : Instant}

/-- The rows after the evaluations of some of the nodes are written; the rows before them are done
with. -/
theorem on_applyAll_of_nodup (hopen : p.isOpen = true) (evaluation : Node → Evaluation)
    (done : List Node) {rest : List Node} (hrows : p.fleet.nodes = done ++ rest)
    (hids : ((done ++ rest).map (·.id)).Nodup) :
    (applyAll now (rest.map fun n => (n, evaluation n))).on p =
      (.ok (rest.countP fun n => evaluation n ≠ n.evaluation),
        p.withNodes (done ++ rest.map fun n =>
          Fleet.writeEvaluation n (evaluation n) now n)) := by
  induction rest generalizing done p with
  | nil =>
    rw [List.append_nil] at hrows
    rw [List.map_nil, List.map_nil, List.append_nil, ← hrows]
    rfl
  | cons n rest ih =>
    rw [List.append_cons] at hrows hids
    rw [List.map_cons, List.map_cons, applyAll]
    by_cases hsame : evaluation n = n.evaluation
    · have hrest := ih hopen _ hrows hids
      rw [if_pos hsame, hrest, hsame, Fleet.writeEvaluation_evaluation, List.append_assoc,
        List.singleton_append, List.countP_cons_of_neg (by simpa using hsame)]
    · let rows := done ++ [Fleet.writeEvaluation n (evaluation n) now n] ++ rest
      have hwritten : p.fleet.withEvaluation n (evaluation n) now = (p.withNodes rows).fleet := by
        rw [List.append_assoc, List.singleton_append] at hrows hids
        rw [Fleet.withEvaluation, hrows, Fleet.map_writeEvaluation hids, List.append_cons]
        rfl
      have hany : p.fleet.nodes.any (Fleet.isUnmoved n) = true := by
        rw [List.any_eq_true]
        exact ⟨n, by simp [hrows], by simp [Fleet.isUnmoved]⟩
      have hon : (transact (Fleet.applyEvaluation n (evaluation n) now)).on p
          = (.ok true, p.withNodes rows) := by
        rw [on_applyEvaluation hopen, hany, hwritten]
        rfl
      have hrest := ih (p := p.withNodes rows) hopen _ rfl (by simpa using hids)
      rw [if_neg hsame, on_bind_of_ok hon, on_bind_of_ok hrest,
        List.countP_cons_of_pos (by simpa using hsame), List.append_assoc, List.singleton_append]
      rfl

/-- A tick without probes: the rows after it, and how many of them were written. -/
theorem on_reconcile_of_nodup (hopen : p.isOpen = true) (hids : p.fleet.nodeIds.Nodup)
    {config : ReconcilerConfig} (hprobe : config.probeEnabled = false) (probe : Node → Probe)
    (now : Instant) :
    (reconcile config probe now).on p =
      (.ok (p.fleet.nodes.countP fun n => (n.ticked config now).evaluation ≠ n.evaluation),
        p.withNodes (p.fleet.nodes.map (Node.ticked config now))) := by
  have hskip (n : Node) : probeOf config probe n = .skipped := by simp [probeOf, hprobe]
  have hevaluation (n : Node) :
      n.evaluate now .skipped config = (n.ticked config now).evaluation := by
    rw [← Fleet.writeEvaluation_skipped]
    rfl
  have hwritten (n : Node) :
      Fleet.writeEvaluation n (n.ticked config now).evaluation now n = n.ticked config now := by
    rw [← hevaluation, Fleet.writeEvaluation_skipped]
  rw [on_reconcile_of_open hopen]
  simp only [hskip, hevaluation]
  rw [on_applyAll_of_nodup hopen _ [] rfl hids]
  simp only [hwritten]
  rfl

end Action

namespace Panel

/-- With probes disabled, a tick evaluates every node and answers how many rows it has changed. A
second tick at the same time changes nothing, and an earlier tick leaves a mark only in the times at
which nodes became synced and, where a leap second is met, in latencies. -/
theorem reconcile_absorbs {p : Panel} (hopen : p.isOpen = true) (hids : p.fleet.nodeIds.Nodup)
    {config : ReconcilerConfig} (hprobe : config.probeEnabled = false) (probe : Node → Probe)
    {now₁ now₂ : Instant} (hle : now₁ ≤ now₂) :
    let tick (now : Instant) := Operation.reconcile config probe now
    (tick now₂).answer p =
        .ok (p.fleet.nodes.countP fun n => (n.ticked config now₂).evaluation ≠ n.evaluation) ∧
      (tick now₂).after p = p.withNodes (p.fleet.nodes.map (Node.ticked config now₂)) ∧
      (tick now₂).answer ((tick now₂).after p) = .ok 0 ∧
      (tick now₂).after ((tick now₂).after p) = (tick now₂).after p ∧
      (tick now₂).after ((tick now₁).after p) =
        p.withNodes (p.fleet.nodes.map fun n => (n.ticked config now₁).ticked config now₂) ∧
      ∀ n ∈ p.fleet.nodes,
        let alone := n.ticked config now₂
        let both := (n.ticked config now₁).ticked config now₂
        both = { alone with
            latency := both.latency
            syncedAt := if n.BecomesSynced then some now₁.toText else n.syncedAt } ∧
          (both.latency = alone.latency ∨ both.latency = 0 ∧ n.MeetsLeapSecond now₁ now₂) := by
  intro tick
  have hon {p : Panel} (hopen : p.isOpen = true) (hids : p.fleet.nodeIds.Nodup) (now : Instant) :=
    (tick now).answer_of_on (Action.on_reconcile_of_nodup hopen hids hprobe probe now)
  have hagain (now now' : Instant) :
      let q := p.withNodes (p.fleet.nodes.map (Node.ticked config now))
      (tick now').answer q = .ok (p.fleet.nodes.countP fun n =>
          ((n.ticked config now).ticked config now').evaluation ≠
            (n.ticked config now).evaluation) ∧
        (tick now').after q = p.withNodes (p.fleet.nodes.map fun n =>
          (n.ticked config now).ticked config now') := by
    intro q
    have hq : q.fleet.nodeIds.Nodup := by
      have hsame : q.fleet.nodeIds = p.fleet.nodeIds := Fleet.nodeIds_mapNodes fun _ _ => rfl
      rwa [hsame]
    obtain ⟨hanswer, hafter⟩ := hon (p := q) hopen hq now'
    refine ⟨?_, ?_⟩
    · rw [hanswer]
      exact congrArg Except.ok List.countP_map
    · rw [hafter]
      exact congrArg p.withNodes (List.map_map ..)
  obtain ⟨hanswer, hafter⟩ := hon hopen hids now₂
  obtain ⟨-, hfirst⟩ := hon hopen hids now₁
  obtain ⟨hzero, hsame⟩ := hagain now₂ now₂
  obtain ⟨-, hboth⟩ := hagain now₁ now₂
  refine ⟨hanswer, hafter, ?_, ?_, ?_, ?_⟩
  · rw [hafter, hzero]
    simp [Node.ticked_idem]
  · rw [hafter, hsame]
    simp only [Node.ticked_idem]
  · rw [hfirst, hboth]
  · intro n hn alone both
    refine ⟨?_, Node.latency_ticked_ticked hle⟩
    simp only [both, Node.ticked_ticked]
    rfl

/-- A node that was heard of a minute before the year 2017, and took 42 milliseconds to answer a
probe. -/
def heardBeforeLeapSecond : List Event :=
  let seen : Instant := ⟨1483228740, 0⟩
  [.ask (.createNode seen "" .standard
      ⟨"node", "", some "host", some 443, 1, 0, [], [], .manual, none, none⟩),
    .ask (.recordHeartbeat seen 1 ⟨1, none⟩),
    .ask (.reconcile .standard (fun _ => .answered 42) seen)]

/-- Without probes, and nodes unhealthy a little more than a minute after their last heartbeat. -/
def impatient : ReconcilerConfig :=
  { ReconcilerConfig.standard with unhealthyAfter := 60200000000, probeEnabled := false }

/-- Half a minute later the node is online still, and three minutes later it is not. -/
theorem reconcile_absorbs_heard :
    let p := (fresh .silent).after heardBeforeLeapSecond
    let tick (now : Instant) := Operation.reconcile impatient (fun _ => .skipped) now
    let now₁ : Instant := ⟨1483228770, 0⟩
    let now₂ : Instant := ⟨1483228920, 0⟩
    now₁ ≤ now₂ ∧ (tick now₂).answer p = .ok 1 ∧
      (tick now₂).answer ((tick now₂).after p) = .ok 0 ∧
      (tick now₂).after ((tick now₁).after p) =
        p.withNodes (p.fleet.nodes.map fun n =>
          (n.ticked impatient now₁).ticked impatient now₂) := by
  intro p tick now₁ now₂
  have hle : now₁ ≤ now₂ := by decide
  obtain ⟨hanswer, -, hagain, -, hboth, -⟩ :=
    reconcile_absorbs (p := p) (by decide +kernel) (by decide +kernel)
      (rfl : impatient.probeEnabled = false)
      (fun _ => .skipped) hle
  refine ⟨hle, hanswer.trans ?_, hagain, hboth⟩
  have hcount : (p.fleet.nodes.countP fun n =>
      (n.ticked impatient now₂).evaluation ≠ n.evaluation) = 1 := by decide +kernel
  rw [hcount]

/-- Half a second into the leap second at the end of 2016, the last heartbeat is 60.5 seconds ago;
at the beginning of 2017 it is 60 seconds ago. A tick at the first time loses the latency that a
tick at the second time alone keeps. -/
theorem leap_second_loses_latency :
    let p := (fresh .silent).after heardBeforeLeapSecond
    let tick (now : Instant) := Operation.reconcile impatient (fun _ => .skipped) now
    let now₁ : Instant := ⟨1483228799, 1500000000⟩
    let now₂ : Instant := ⟨1483228800, 0⟩
    now₁ ≤ now₂ ∧ impatient.unhealthyAfter < impatient.offlineAfter ∧
      ((tick now₂).after p).fleet.nodes.map (·.latency) = [42] ∧
      ((tick now₂).after ((tick now₁).after p)).fleet.nodes.map (·.latency) = [0] := by
  decide +kernel

end Panel

end NodeFleet
