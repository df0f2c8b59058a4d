import NodeFleet.Proofs.Failure
import NodeFleet.Proofs.SyncError

/-!
# Failed installations

An installation that fails leaves an error in the row of its node, and the node is failed. The error
stays until the node is heard of, an installation on it succeeds, or the node is deleted; while it
stays, no tick makes the node synced. Only an update of the settings makes the node pending, and it
raises the revision: at the revision of the installation, the node is failed.
-/

namespace NodeFleet

/-! ### Rows with the error of an installation -/

/-- A row with an error, since revision `c` at the latest. -/
structure Node.Broken (c : Int) (n : Node) : Prop where
  revision_le : c ≤ n.configRevision
  isSome_syncError : n.syncError.isSome
  not_synced : n.syncStatus ≠ .synced
  failed : n.configRevision = c → n.syncStatus = .failed

namespace Node.Broken

variable {c : Int} {n m : Node}

/-- Only heartbeats, installations and ticks have to do with the error of a row. -/
theorem step {f : Fleet} {d : Deed} (h : Node.Step f d n m) (hinstall : d ≠ .install n.id)
    (hheard : d ≠ .heartbeat n.id) (hevaluate : d ≠ .evaluate n.id) (hn : n.Broken c) :
    m.Broken c := by
  cases h with
  | update hpatch =>
    obtain ⟨hchanged, hsame⟩ := Fleet.patchNode_revision hpatch
    have herror : m.syncError.isSome := by
      rw [(Node.Step.update hpatch).syncError_eq hinstall hheard]
      exact hn.isSome_syncError
    have hle := hn.revision_le
    by_cases hsettings : m.agentSettings = n.agentSettings
    · obtain ⟨hrevision, hsync⟩ := hsame hsettings
      refine ⟨by omega, herror, ?_, ?_⟩
      · rw [hsync]
        exact hn.not_synced
      · rw [hrevision, hsync]
        exact hn.failed
    · -- the row becomes pending, at a revision above `c`
      obtain ⟨hrevision, hsync⟩ := hchanged hsettings
      refine ⟨by omega, herror, ?_, fun _ => by omega⟩
      rw [hsync]
      exact SyncStatus.noConfusion
  | install => exact absurd rfl hinstall
  | heartbeat => exact absurd rfl hheard
  | evaluate => exact absurd rfl hevaluate
  | keep | enable => exact ⟨hn.revision_le, hn.isSome_syncError, hn.not_synced, hn.failed⟩

/-- A tick tells that the row has an error, or leaves what it says. -/
theorem evaluate (hn : n.Broken c) (now : Instant) (probe : Probe) (config : ReconcilerConfig) :
    (n.evaluate now probe config).syncStatus ≠ .synced ∧
      (n.configRevision = c → (n.evaluate now probe config).syncStatus = .failed) := by
  have hsync : n.evaluateSync = .failed := if_pos hn.isSome_syncError
  unfold Node.evaluate
  cases n.lastSeenAt with
  | none => exact ⟨hn.not_synced, hn.failed⟩
  | some seen =>
    simp only [Option.isNone_some, Bool.false_eq_true, if_false, hsync]
    exact ⟨SyncStatus.noConfusion, fun _ => trivial⟩

theorem writeEvaluation (hn : n.Broken c) (hm : m.Broken c) (hunmoved : Fleet.isUnmoved n m = true)
    (now : Instant) (probe : Probe) (config : ReconcilerConfig) :
    (Fleet.writeEvaluation n (n.evaluate now probe config) now m).Broken c := by
  obtain ⟨hnot, hfailed⟩ := hn.evaluate now probe config
  simp only [Fleet.isUnmoved, decide_eq_true_eq] at hunmoved
  refine ⟨hm.revision_le, hm.isSome_syncError, hnot, ?_⟩
  intro hrevision
  exact hfailed (hunmoved.2.1.symm.trans hrevision)

theorem noteInstall (h : c ≤ n.configRevision) {finish : Instant} {step : String} :
    (Fleet.noteInstall finish (some step) n).Broken c :=
  ⟨h, rfl, SyncStatus.noConfusion, fun _ => rfl⟩

end Node.Broken

/-- What a row may become of the row of node `id`: it stays broken. -/
def Node.StaysBroken (id c : Int) (n m : Node) : Prop := n.id = id → n.Broken c → m.Broken c

namespace Node.StaysBroken

variable {id c : Int} {n m k : Node}

theorem refl (n : Node) : StaysBroken id c n n := fun _ hn => hn

theorem trans (hid : m.id = n.id) (h : StaysBroken id c n m) (h' : StaysBroken id c m k) :
    StaysBroken id c n k :=
  fun hn hbroken => h' (hid.trans hn) (h hn hbroken)

end Node.StaysBroken

/-- A node whose row has an error since revision `c` at the latest. -/
def Fleet.Broken (id c : Int) (f : Fleet) : Prop := ∃ n, f.node? id = some n ∧ n.Broken c

/-! ### Installations and ticks -/

namespace Action

variable {R : Node → Node → Prop} {p p' : Panel} {now : Instant} {id c : Int} {token : String}
  {install : InstallConfig} {node : Node} {target : SshTarget} {url : String}

/-- An installation marks the row of its node and leaves the rest of it. -/
theorem node?_installNode {result : InstallResult} (hs : p'.fleet.Sound)
    (h : (installNode now token install node target url).on p = (.ok result, p')) :
    ∃ n finish, p.fleet.node? node.id = some n ∧
      p'.fleet.node? node.id = some (Fleet.noteInstall finish result.failedStep n) := by
  obtain ⟨hid, -, finish, hnodes⟩ := nodes_installNode h
  obtain ⟨k, hk, hkid⟩ := List.mem_map.1 hid
  obtain ⟨n, hn⟩ := Fleet.node?_of_mem hk
  rw [hkid] at hn
  obtain ⟨hmem, hnid⟩ := Fleet.node?_eq_some hn
  have hmarked : Fleet.noteInstall finish result.failedStep n ∈ p'.fleet.nodes := by
    rw [hnodes]
    exact List.mem_map.2 ⟨n, hmem, if_pos hnid⟩
  have hfind := hs.node?_eq hmarked
  rw [Fleet.noteInstall_id, hnid] at hfind
  exact ⟨n, finish, hn, hfind⟩

/-- After an installation that fails, its node is broken. -/
theorem broken_installNode {result : InstallResult} (hs : p'.fleet.Sound)
    (h : (installNode now token install node target url).on p = (.ok result, p'))
    (hfailed : result.success = false) :
    ∃ n, p'.fleet.node? node.id = some n ∧ n.Broken n.configRevision := by
  obtain ⟨-, hsuccess, -⟩ := nodes_installNode h
  obtain ⟨n, finish, -, hrow⟩ := node?_installNode hs h
  cases hstep : result.failedStep with
  | none => simp [hsuccess, hstep] at hfailed
  | some step =>
    rw [hstep] at hrow
    exact ⟨_, hrow, .noteInstall (Int.le_of_eq Fleet.noteInstall_configRevision)⟩

theorem broken_reinstall {r : InstallRequest} {result : InstallResult} (hs : p'.fleet.Sound)
    (h : (reinstall now token install id r).on p = (.ok result, p'))
    (hfailed : result.success = false) :
    ∃ n, p'.fleet.node? id = some n ∧ n.Broken n.configRevision := by
  rcases on_reinstall_cases now token install id r p with
    ⟨_, hrefused⟩ | ⟨node, target, url, rfl, hinstall⟩
  · cases hrefused.symm.trans h
  · exact broken_installNode hs (hinstall.symm.trans h) hfailed

theorem broken_createNode {r : CreateNode} {created : Created} {result : InstallResult}
    (hs : p'.fleet.Sound) (h : (createNode now token install r).on p = (.ok created, p'))
    (hresult : created.install = some result) (hfailed : result.success = false) :
    ∃ n, p'.fleet.node? created.view.node.id = some n ∧ n.Broken n.configRevision := by
  rcases on_createNode_cases now token install r p with
    ⟨_, hrefused⟩ | ⟨d, -, -, ⟨view, -, hnew⟩ | ⟨target, url, ⟨_, _, -, hrefused⟩ |
      ⟨account, view, q, hinstall, hid, hnew⟩⟩⟩
  · cases hrefused.symm.trans h
  · cases hnew.symm.trans h
    cases hresult
  · cases hrefused.symm.trans h
  · cases hnew.symm.trans h
    cases hresult
    rw [hid]
    exact broken_installNode hs hinstall hfailed

/-- An installation that does not succeed leaves its node broken. -/
theorem rowsFollow_installNode {r : Except Error InstallResult}
    (h : (installNode now token install node target url).on p = (r, p'))
    (hfailed : ∀ result, r = .ok result → result.success = false) :
    Fleet.RowsFollow (Node.StaysBroken id c) p.fleet p'.fleet := by
  cases r with
  | error e =>
    obtain ⟨tokens, hfleet⟩ := fleet_of_installNode_error h
    rw [hfleet]
    exact ⟨Int.le_refl _, fun m hm _ => ⟨m, hm, rfl, .refl m⟩⟩
  | ok result =>
    obtain ⟨-, hsuccess, finish, hnodes⟩ := nodes_installNode h
    cases hstep : result.failedStep with
    | none =>
      have hfalse := hfailed result rfl
      simp [hsuccess, hstep] at hfalse
    | some step =>
      have hwrites : Fleet.Writes (fun _ => True) p.fleet p'.fleet :=
        (writes_installNode trivial).of_on h
      refine ⟨hwrites.follows.lastNode_le, ?_⟩
      intro m hm _
      rw [hnodes, hstep] at hm
      obtain ⟨k, hk, rfl⟩ := List.mem_map.1 hm
      split
      · exact ⟨k, hk, Fleet.noteInstall_id, fun _ hbroken => .noteInstall hbroken.revision_le⟩
      · exact ⟨k, hk, rfl, .refl k⟩

/-- If each evaluation that is written is in `R`, then so are the rows before and after a tick. -/
theorem rowsFollow_applyAll (hrefl : ∀ n, R n n)
    (htrans : ∀ {n m k}, m.id = n.id → R n m → R m k → R n k) (hopen : p.isOpen = true)
    {evaluations : List (Node × Evaluation)}
    (hwrite : ∀ ne ∈ evaluations, ∀ m, Fleet.isUnmoved ne.1 m = true →
      R m (Fleet.writeEvaluation ne.1 ne.2 now m)) :
    Fleet.RowsFollow R p.fleet ((applyAll now evaluations).on p).2.fleet := by
  induction evaluations generalizing p with
  | nil => exact .refl hrefl _
  | cons ne rest ih =>
    have hrest : ∀ ne' ∈ rest, ∀ m, Fleet.isUnmoved ne'.1 m = true →
        R m (Fleet.writeEvaluation ne'.1 ne'.2 now m) :=
      fun ne' hne' => hwrite ne' (List.mem_cons_of_mem _ hne')
    unfold applyAll
    split
    · exact ih hopen hrest
    · rw [on_bind_of_ok (on_applyEvaluation hopen ne.1 ne.2 now), on_bind_pure_snd]
      have hfirst : Fleet.RowsFollow R p.fleet (p.fleet.withEvaluation ne.1 ne.2 now) := by
        refine ⟨Int.le_refl _, ?_⟩
        intro m hm _
        obtain ⟨k, hk, rfl⟩ := List.mem_map.1 hm
        split
        · next hunmoved =>
          exact ⟨k, hk, rfl, hwrite ne List.mem_cons_self k hunmoved⟩
        · exact ⟨k, hk, rfl, hrefl k⟩
      exact hfirst.trans (ih (p := { p with fleet := p.fleet.withEvaluation ne.1 ne.2 now }) hopen
        hrest) htrans

/-- A tick leaves a broken node broken. -/
theorem rowsFollow_reconcile {config : ReconcilerConfig} {probe : Node → Probe}
    (hs : p.fleet.Sound) (hb : p.fleet.Broken id c) :
    Fleet.RowsFollow (Node.StaysBroken id c) p.fleet
      ((reconcile config probe now).on p).2.fleet := by
  cases hopen : p.isOpen with
  | false =>
    rw [on_reconcile_of_closed hopen]
    exact .refl Node.StaysBroken.refl _
  | true =>
    rw [on_reconcile_of_open hopen]
    refine rowsFollow_applyAll Node.StaysBroken.refl Node.StaysBroken.trans hopen ?_
    intro ne hne m hunmoved hm hbroken
    obtain ⟨n, hn, rfl⟩ := List.mem_map.1 hne
    -- the row of the snapshot is the one that is broken
    obtain ⟨k, hk, hkbroken⟩ := hb
    have hid : n.id = id := (Fleet.isUnmoved_id hunmoved).symm.trans hm
    rw [← hid, hs.node?_eq hn] at hk
    cases hk
    exact hkbroken.writeEvaluation hbroken hunmoved _ _ _

end Action

/-! ### Events -/

/-- What a successful answer tells about an installation: the node, and the account. -/
def Operation.installed {α : Type} : Operation α → α → Option (Int × InstallResult)
  | installNode _ _ _ node _ _, result => some (node.id, result)
  | reinstall _ _ _ id _, result => some (id, result)
  | createNode .., created => created.install.map fun result => (created.view.node.id, result)
  | _, _ => none

/-- The node whose failed installation is past, by a successful answer: the node was heard of, an
installation on it succeeded, or it was deleted. -/
def Operation.recovered {α : Type} : Operation α → α → Option Int
  | recordHeartbeat _ id _, _ => some id
  | deleteNode id, _ => some id
  | installNode _ _ _ node _ _, result => if result.success then some node.id else none
  | reinstall _ _ _ id _, result => if result.success then some id else none
  | _, _ => none

namespace Event

variable {e : Event} {p : Panel} {id c : Int}

/-- An answer brings what there is to take from it. -/
theorem brings_of_on {α β : Type} (take : {α : Type} → Operation α → α → Option β)
    (op : Operation α) {x : α} {q : Panel} (h : op.run.on p = (.ok x, q)) :
    (ask op).brings take p = take op x := by
  obtain ⟨hanswer, -⟩ := op.answer_of_on h
  simp only [brings, hanswer]
  rfl

/-- An installation that has failed leaves its node broken. -/
theorem broken_of_installed {result : InstallResult} (hs : p.fleet.Sound)
    (h : e.brings Operation.installed p = some (id, result)) (hfailed : result.success = false) :
    ∃ n, (e.after p).fleet.node? id = some n ∧ n.Broken n.configRevision := by
  have hs' : (e.after p).fleet.Sound := (e.writes p).sound hs
  cases e with
  | world isOpen shell => cases h
  | ask op =>
    obtain ⟨x, hon, htake⟩ := brings_ask_eq_some.1 h
    rw [after_ask] at hs' ⊢
    generalize op.after p = q at hs' hon ⊢
    cases op with
    | installNode =>
      cases htake
      exact Action.broken_installNode hs' hon hfailed
    | reinstall =>
      cases htake
      exact Action.broken_reinstall hs' hon hfailed
    | createNode =>
      obtain ⟨account, haccount, htake⟩ := Option.map_eq_some_iff.1 htake
      cases htake
      exact Action.broken_createNode hs' hon haccount hfailed
    | _ => cases htake

theorem rowsFollow_of_refused {α : Type} {op : Operation α} {error : Error}
    (h : op.run.on p = (.error error, p)) :
    Fleet.RowsFollow (Node.StaysBroken id c) p.fleet ((ask op).after p).fleet := by
  obtain ⟨-, hafter⟩ := op.answer_of_on h
  rw [after_ask, hafter]
  exact .refl Node.StaysBroken.refl _

/-- An event that reports on a broken node leaves it broken, unless that is past. -/
theorem rowsFollow_of_reportsOn (h : e.ReportsOn id)
    (hlasting : e.brings Operation.recovered p ≠ some id) :
    Fleet.RowsFollow (Node.StaysBroken id c) p.fleet (e.after p).fleet := by
  cases e with
  | world isOpen shell => exact h.elim
  | ask op =>
    cases op with
    | recordHeartbeat now heard report =>
      obtain rfl : heard = id := h
      rcases Action.on_transact_cases (Fleet.recordHeartbeat now heard report) p with
        ⟨revision, f, -, -, hon⟩ | ⟨_, hon⟩
      · exact absurd (brings_of_on _ (.recordHeartbeat now heard report) hon) hlasting
      · exact rowsFollow_of_refused hon
    | installNode now token install node target url =>
      obtain rfl : node.id = id := h
      refine Action.rowsFollow_installNode rfl ?_
      intro result hanswer
      have hbrings := brings_of_on Operation.recovered
        (.installNode now token install node target url) (Prod.ext hanswer rfl)
      rw [hbrings] at hlasting
      simpa [Operation.recovered] using hlasting
    | reinstall now token install installed r =>
      obtain rfl : installed = id := h
      rcases Action.on_reinstall_cases now token install installed r p with
        ⟨_, hon⟩ | ⟨node, target, url, -, hon⟩
      · exact rowsFollow_of_refused hon
      · refine Action.rowsFollow_installNode hon.symm ?_
        intro result hanswer
        have hbrings := brings_of_on Operation.recovered
          (.reinstall now token install installed r) (Prod.ext hanswer rfl)
        rw [hbrings] at hlasting
        simpa [Operation.recovered] using hlasting
    | _ => exact h.elim

/-- An event leaves a broken node broken, unless that is past. -/
theorem rowsFollow_broken (hs : p.fleet.Sound) (hb : p.fleet.Broken id c)
    (hlasting : e.brings Operation.recovered p ≠ some id)
    (htick : e.deeds (.evaluate id) →
      ∃ config probe now, e = ask (.reconcile config probe now)) :
    Fleet.RowsFollow (Node.StaysBroken id c) p.fleet (e.after p).fleet := by
  by_cases hreports : e.ReportsOn id
  · exact rowsFollow_of_reportsOn hreports hlasting
  by_cases hevaluate : e.deeds (.evaluate id)
  · obtain ⟨config, probe, now, rfl⟩ := htick hevaluate
    exact Action.rowsFollow_reconcile hs hb
  by_cases hdeeds : e.deeds (.install id) ∨ e.deeds (.heartbeat id)
  · rcases reportsOn_of_deeds hdeeds with h | ⟨now, token, install, r, he⟩
    · exact absurd h hreports
    · -- the installation is one on the new node
      apply (rowsFollow_createNode hs he).mono
      rintro n m rfl
      exact .refl m
  · refine (e.writes p).rowsFollow Node.StaysBroken.refl Node.StaysBroken.trans ?_
    intro d f n m hdeed hstep hn hrow
    apply hrow.step hstep
    · rintro rfl
      exact hdeeds (.inl (hn ▸ hdeed))
    · rintro rfl
      exact hdeeds (.inr (hn ▸ hdeed))
    · rintro rfl
      exact hevaluate (hn ▸ hdeed)

/-- A node stays unless it is deleted. -/
theorem mem_nodeIds_after (hid : id ∈ p.fleet.nodeIds)
    (hlasting : e.brings Operation.recovered p ≠ some id) : id ∈ (e.after p).fleet.nodeIds := by
  by_cases hdelete : e.deeds (.deleteNode id)
  · have he : e = ask (.deleteNode id) := by
      cases e with
      | world isOpen shell => exact hdelete.elim
      | ask op =>
        cases op with
        | deleteNode gone =>
          cases hdelete
          rfl
        | _ => simp [deeds, Operation.deeds] at hdelete
    subst he
    rcases Action.on_deleteNode_cases id p with ⟨_, hon⟩ | hon
    · have hafter : (ask (.deleteNode id)).after p = p := congrArg Prod.snd hon
      rwa [hafter]
    · exact absurd (brings_of_on _ (.deleteNode id) hon) hlasting
  · refine (e.writes p).keep (I := fun f => id ∈ f.nodeIds) ?_ hid
    intro d f f' hdeed hw hmem
    refine hw.mem_nodeIds_of_mem ?_ hmem
    rintro rfl
    exact hdelete hdeed

theorem broken_after (hs : p.fleet.Sound) (hb : p.fleet.Broken id c)
    (hlasting : e.brings Operation.recovered p ≠ some id)
    (htick : e.deeds (.evaluate id) →
      ∃ config probe now, e = ask (.reconcile config probe now)) :
    (e.after p).fleet.Broken id c := by
  have hrows := rowsFollow_broken hs hb hlasting htick
  obtain ⟨n, hn, hrow⟩ := hb
  obtain ⟨k, hk, hkid⟩ := List.mem_map.1 (mem_nodeIds_after (Fleet.node?_mem_nodeIds hn) hlasting)
  obtain ⟨m, hm⟩ := Fleet.node?_of_mem hk
  rw [hkid] at hm
  exact ⟨m, hm, hrows.of_node? hs hn hm (Fleet.node?_eq_some hn).2 hrow⟩

end Event

namespace Panel

/-- A broken node stays so in a run in which it is not heard of, installed or deleted. -/
theorem broken_after {p : Panel} {id c : Int} (hs : p.fleet.Sound) (hb : p.fleet.Broken id c)
    {run : List Event} (hlasting : id ∉ p.collect (Event.brings Operation.recovered) run)
    (hticks : ∀ e ∈ run, e.deeds (.evaluate id) →
      ∃ config probe now, e = .ask (.reconcile config probe now)) :
    (p.after run).fleet.Broken id c := by
  induction run generalizing p with
  | nil => exact hb
  | cons e run ih =>
    rw [collect, List.mem_append, not_or] at hlasting
    have hfirst : e.brings Operation.recovered p ≠ some id := by
      intro hbrings
      rw [hbrings] at hlasting
      exact hlasting.1 (List.mem_singleton.2 rfl)
    have hbroken := Event.broken_after hs hb hfirst (hticks e List.mem_cons_self)
    exact ih ((e.writes p).sound hs) hbroken hlasting.2
      fun e' he' => hticks e' (List.mem_cons_of_mem _ he')

/-- After an installation that has failed, with or without the creation of its node, and as long as
no heartbeat of the node is recorded, no installation on it succeeds, and it is not deleted: the row
has an error and is not synced, and it is failed unless the settings have been changed, which has
raised the revision. That is so whatever else is asked for, ticks included. -/
theorem failed_after_install (shell : Shell) (first later : List Event) (e : Event) (id : Int)
    (result : InstallResult)
    (hinstall : e.brings Operation.installed ((fresh shell).after first) = some (id, result))
    (hfailed : result.success = false)
    (hlasting : id ∉ ((fresh shell).after (first ++ [e])).collect
      (Event.brings Operation.recovered) later)
    (hticks : ∀ e' ∈ later, e'.deeds (.evaluate id) →
      ∃ config probe now, e' = .ask (.reconcile config probe now)) :
    ∃ n m, ((fresh shell).after (first ++ [e])).fleet.node? id = some n ∧ n.syncStatus = .failed ∧
      ((fresh shell).after (first ++ e :: later)).fleet.node? id = some m ∧ m.syncError.isSome ∧
      m.syncStatus ≠ .synced ∧ n.configRevision ≤ m.configRevision ∧
      (m.configRevision = n.configRevision → m.syncStatus = .failed) := by
  have hs := sound_fresh shell (first ++ [e])
  obtain ⟨n, hn, hrow⟩ := Event.broken_of_installed (sound_fresh shell first) hinstall hfailed
  rw [← after_concat] at hn
  obtain ⟨m, hm, hstill⟩ := broken_after hs ⟨n, hn, hrow⟩ hlasting hticks
  rw [← after_append, List.append_assoc] at hm
  exact ⟨n, m, hn, hrow.failed rfl, hm, hstill.isSome_syncError, hstill.not_synced,
    hstill.revision_le, hstill.failed⟩

/-- A node is created, without an installation. -/
def enrolled : List Event :=
  [.ask (.createNode ⟨0, 0⟩ "" .standard
      ⟨"node", "", some "host", some 443, 1, 0, [], [], .manual, none, none⟩)]

/-- The agent is to be installed on the node. -/
def attempt : Event :=
  let draft : NodeDraft := ⟨"node", "", "host", 443, 1, 0, [], []⟩
  .ask (.installNode ⟨0, 0⟩ "token" .standard (draft.toNode ⟨0, 0⟩ 1)
    ⟨"host", 22, "root", .password "secret"⟩ "http://panel")

/-- The node is switched off, gets another token, and a tick passes. -/
def neglected : List Event :=
  [.ask (.setEnabled ⟨1, 0⟩ 1 false), .ask (.issueToken ⟨2, 0⟩ "other" 1),
    .ask (.reconcile .standard (fun _ => .failed) ⟨3, 0⟩)]

/-- The host does not answer. -/
theorem installed_attempt :
    ∃ result, attempt.brings Operation.installed ((fresh .silent).after enrolled) =
      some (1, result) ∧ result.success = false := by
  have hresult : (attempt.brings Operation.installed ((fresh .silent).after enrolled)).map
      (fun installed => (installed.1, installed.2.success)) = some (1, false) := by
    decide +kernel
  obtain ⟨⟨id, result⟩, hinstalled, heq⟩ := Option.map_eq_some_iff.1 hresult
  obtain ⟨rfl, hfailed⟩ := Prod.mk.inj heq
  exact ⟨result, hinstalled, hfailed⟩

theorem failed_after_attempt :
    ∃ result, attempt.brings Operation.installed ((fresh .silent).after enrolled) =
        some (1, result) ∧ result.success = false ∧
      1 ∉ ((fresh .silent).after (enrolled ++ [attempt])).collect
        (Event.brings Operation.recovered) neglected ∧
      (∀ e ∈ neglected, e.deeds (.evaluate 1) →
        ∃ config probe now, e = .ask (.reconcile config probe now)) ∧
      ∃ n m, ((fresh .silent).after (enrolled ++ [attempt])).fleet.node? 1 = some n ∧
        n.syncStatus = .failed ∧
        ((fresh .silent).after (enrolled ++ attempt :: neglected)).fleet.node? 1 = some m ∧
        m.syncError.isSome ∧ m.syncStatus ≠ .synced ∧ n.configRevision ≤ m.configRevision ∧
        (m.configRevision = n.configRevision → m.syncStatus = .failed) := by
  obtain ⟨result, hinstalled, hfailed⟩ := installed_attempt
  have hlasting : 1 ∉ ((fresh .silent).after (enrolled ++ [attempt])).collect
      (Event.brings Operation.recovered) neglected := by
    decide +kernel
  have hticks : ∀ e ∈ neglected, e.deeds (.evaluate 1) →
      ∃ config probe now, e = .ask (.reconcile config probe now) := by
    simp [neglected, Event.deeds, Operation.deeds]
  exact ⟨result, hinstalled, hfailed, hlasting, hticks,
    failed_after_install .silent enrolled neglected attempt 1 result hinstalled hfailed hlasting
      hticks⟩

/-- A new name makes a node pending on which the agent could not be installed. -/
theorem rename_hides_failed_install :
    let rename : Event := .ask (.updateNode ⟨1, 0⟩ 1
      ⟨some "other", none, none, none, none, none, none, none, none⟩)
    ∃ result, attempt.brings Operation.installed ((fresh .silent).after enrolled) =
        some (1, result) ∧ result.success = false ∧
      1 ∉ ((fresh .silent).after (enrolled ++ [attempt])).collect
        (Event.brings Operation.recovered) [rename] ∧
      ∃ m ∈ ((fresh .silent).after (enrolled ++ [attempt, rename])).fleet.nodes, m.id = 1 ∧
        m.lastSeenAt = none ∧ m.syncError.isSome ∧ m.syncStatus = .pending := by
  obtain ⟨result, hinstalled, hfailed⟩ := installed_attempt
  refine ⟨result, hinstalled, hfailed, ?_, ?_⟩
  · decide +kernel
  · decide +kernel

end Panel

end NodeFleet
