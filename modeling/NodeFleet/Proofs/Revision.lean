import Mathlib.Data.List.Induction
import NodeFleet.Api.Call
import NodeFleet.Proofs.Numbering
import NodeFleet.Proofs.TextColumn

/-!
# The revision identifies the configuration

An agent that runs a revision does not ask for it again, so the same revision has to mean the same
settings. `Node.Succeeds` is what a row may become of another: its revision does not go down, and
its settings are the same while the revision is. Each step of a row is of that kind, the relation
composes, and rows of one number follow each other through a run.
-/

namespace NodeFleet

/-- What the agent of a node has to know, besides the revision. -/
structure AgentSettings where
  name : String
  address : String
  port : Int
  maxUsers : Int
  tags : List String
  whitelist : List String
  deriving DecidableEq, Repr

namespace Node

/-- The settings of a row. -/
def agentSettings (n : Node) : AgentSettings :=
  ⟨n.name, n.address, n.port, n.maxUsers, n.tagList, n.whitelistEntries⟩

/-- The agent is served the number, the settings and the revision of its node. -/
theorem agentConfig_congr {n m : Node} (hid : n.id = m.id)
    (hrevision : n.configRevision = m.configRevision)
    (hsettings : n.agentSettings = m.agentSettings) : Api.agentConfig n = Api.agentConfig m := by
  simp only [agentSettings, AgentSettings.mk.injEq] at hsettings
  obtain ⟨hname, haddress, hport, hmax, htags, hwhitelist⟩ := hsettings
  simp only [Api.agentConfig, hid, hrevision, hname, haddress, hport, hmax, htags, hwhitelist]

/-- A later row of the same node. -/
structure Succeeds (n m : Node) : Prop where
  id_eq : m.id = n.id
  revision_le : n.configRevision ≤ m.configRevision
  settings_eq : n.configRevision = m.configRevision → n.agentSettings = m.agentSettings

namespace Succeeds

theorem refl (n : Node) : Succeeds n n := ⟨rfl, Int.le_refl _, fun _ => rfl⟩

theorem trans {n m k : Node} (h : Succeeds n m) (h' : Succeeds m k) : Succeeds n k where
  id_eq := h'.id_eq.trans h.id_eq
  revision_le := Int.le_trans h.revision_le h'.revision_le
  settings_eq heq := by
    -- in between, the revision cannot have moved
    have hle := h.revision_le
    have hle' := h'.revision_le
    have hnm : n.configRevision = m.configRevision := by omega
    have hmk : m.configRevision = k.configRevision := by omega
    exact (h.settings_eq hnm).trans (h'.settings_eq hmk)

end Succeeds

end Node

namespace Fleet

/-! ### Changes of one row -/

/-- A list of texts is told to differ exactly if reading its column gives something else. -/
theorem patchedTexts_eq_ok {rule : List String → Except Error (List String)} {column : String}
    {patch : Option (List String)} {changed : Bool × String}
    (h : patchedTexts rule (textsOfColumn column) column patch = .ok changed) :
    changed.1 = true ↔ textsOfColumn changed.2 ≠ textsOfColumn column := by
  cases patch with
  | none =>
    cases h
    simp
  | some texts =>
    simp only [patchedTexts] at h
    cases hrule : rule texts with
    | error e =>
      rw [hrule] at h
      cases h
    | ok new =>
      rw [hrule] at h
      cases h
      simp

/-- A change that is accepted raises the revision and asks for a new synchronisation if it changes
the settings, and leaves both otherwise. -/
theorem patchNode_revision {now : Instant} {patch : NodePatch} {current : Nat} {n n' : Node}
    (h : patchNode now patch current n = .ok n') :
    (n'.agentSettings ≠ n.agentSettings →
      n'.configRevision = n.configRevision + 1 ∧ n'.syncStatus = .pending) ∧
    (n'.agentSettings = n.agentSettings →
      n'.configRevision = n.configRevision ∧ n'.syncStatus = n.syncStatus) := by
  obtain ⟨name, address, port, weight, maxUsers, tags, whitelist, -, -, -, -, -, htags, hwhitelist,
    rfl⟩ := patchNode_eq_ok.1 h
  have hsync : (name ≠ n.name || address ≠ n.address || port ≠ n.port || maxUsers ≠ n.maxUsers
      || tags.1 || whitelist.1) = true ↔
      (⟨name, address, port, maxUsers, textsOfColumn tags.2, textsOfColumn whitelist.2⟩ :
        AgentSettings) ≠ n.agentSettings := by
    simp only [Bool.or_eq_true, decide_eq_true_eq, patchedTexts_eq_ok htags,
      patchedTexts_eq_ok hwhitelist, Node.agentSettings, Node.tagList, Node.whitelistEntries, ne_eq,
      AgentSettings.mk.injEq]
    tauto
  constructor
  · intro hne
    have hneeds := hsync.2 hne
    exact ⟨if_pos hneeds, if_pos hneeds⟩
  · intro heq
    have hneeds := mt hsync.1 (not_not_intro heq)
    exact ⟨if_neg hneeds, if_neg hneeds⟩

/-- The changed row stands in the place of the old one. -/
theorem node?_of_patchNode {now : Instant} {patch : NodePatch} {f : Fleet} {id : Int} {n n' : Node}
    (hs : Sound f) (hn : f.node? id = some n)
    (h : patchNode now patch (f.userCount id) n = .ok n') :
    (f.updateNode id fun _ => n').node? id = some n' := by
  obtain ⟨hmem, hid⟩ := node?_eq_some hn
  have hs' := (Write.updateNode hn h).sound hs
  have hid' : n'.id = id := (patchNode_id h).trans hid
  have hfind := hs'.node?_eq (n := n') (List.mem_map.2 ⟨n, hmem, if_pos hid⟩)
  rwa [hid'] at hfind

@[simp] theorem noteInstall_agentSettings {now : Instant} {failedStep : Option String} {n : Node} :
    (noteInstall now failedStep n).agentSettings = n.agentSettings := by
  cases failedStep with
  | none => rfl
  | some step => rfl

@[simp] theorem noteInstall_configRevision {now : Instant} {failedStep : Option String}
    {n : Node} : (noteInstall now failedStep n).configRevision = n.configRevision := by
  cases failedStep with
  | none => rfl
  | some step => rfl

end Fleet

namespace Node.Step

variable {f : Fleet} {d : Deed} {n m : Node}

/-- Only an update changes the revision. -/
theorem configRevision_eq (h : Node.Step f d n m) (hd : d ≠ .updateNode n.id) :
    m.configRevision = n.configRevision := by
  cases h with
  | update => exact absurd rfl hd
  | install => exact Fleet.noteInstall_configRevision
  | keep | enable | heartbeat | evaluate => rfl

theorem succeeds (h : Node.Step f d n m) : Node.Succeeds n m := by
  cases h with
  | update hpatch =>
    obtain ⟨hchanged, hsame⟩ := Fleet.patchNode_revision hpatch
    by_cases hsettings : m.agentSettings = n.agentSettings
    · exact ⟨Fleet.patchNode_id hpatch, Int.le_of_eq (hsame hsettings).1.symm,
        fun _ => hsettings.symm⟩
    · have hrevision := (hchanged hsettings).1
      exact ⟨Fleet.patchNode_id hpatch, by omega, fun heq => by omega⟩
  | install =>
    exact ⟨Fleet.noteInstall_id, Int.le_of_eq Fleet.noteInstall_configRevision.symm,
      fun _ => Fleet.noteInstall_agentSettings.symm⟩
  | keep | enable | heartbeat | evaluate => exact ⟨rfl, Int.le_refl _, fun _ => rfl⟩

/-- A step raises the revision by one at most. -/
theorem configRevision_le (h : Node.Step f d n m) :
    n.configRevision ≤ m.configRevision ∧ m.configRevision ≤ n.configRevision + 1 := by
  refine ⟨h.succeeds.revision_le, ?_⟩
  cases h with
  | update hpatch =>
    obtain ⟨hchanged, hsame⟩ := Fleet.patchNode_revision hpatch
    by_cases hsettings : m.agentSettings = n.agentSettings
    · have := (hsame hsettings).1
      omega
    · have := (hchanged hsettings).1
      omega
  | install =>
    rw [Fleet.noteInstall_configRevision]
    omega
  | keep | enable | heartbeat | evaluate => exact Int.le_of_lt (Int.lt_succ _)

end Node.Step

/-! ### Rows through a run -/

namespace Fleet

/-- The rows of later tables whose numbers had been given before come from the rows there were,
one related to the other by `R`. -/
structure RowsFollow (R : Node → Node → Prop) (f f' : Fleet) : Prop where
  lastNode_le : f.lastNode ≤ f'.lastNode
  rows : ∀ m ∈ f'.nodes, m.id ≤ f.lastNode → ∃ n ∈ f.nodes, m.id = n.id ∧ R n m

variable {R : Node → Node → Prop} {f f' : Fleet}

theorem RowsFollow.refl (hrefl : ∀ n, R n n) (f : Fleet) : RowsFollow R f f :=
  ⟨Int.le_refl _, fun m hm _ => ⟨m, hm, rfl, hrefl m⟩⟩

theorem RowsFollow.trans {f'' : Fleet} (h : RowsFollow R f f') (h' : RowsFollow R f' f'')
    (htrans : ∀ {n m k}, m.id = n.id → R n m → R m k → R n k) : RowsFollow R f f'' := by
  refine ⟨Int.le_trans h.lastNode_le h'.lastNode_le, ?_⟩
  intro k hk hle
  obtain ⟨m, hm, hkm, hRm⟩ := h'.rows k hk (Int.le_trans hle h.lastNode_le)
  obtain ⟨n, hn, hmn, hRn⟩ := h.rows m hm (hkm ▸ hle)
  exact ⟨n, hn, hkm.trans hmn, htrans hmn hRn hRm⟩

theorem RowsFollow.mono {R' : Node → Node → Prop} (h : RowsFollow R f f')
    (hR : ∀ {n m}, R n m → R' n m) : RowsFollow R' f f' := by
  refine ⟨h.lastNode_le, ?_⟩
  intro m hm hle
  obtain ⟨n, hn, hid, hnm⟩ := h.rows m hm hle
  exact ⟨n, hn, hid, hR hnm⟩

/-- If each step of a row is in `R`, then so are the rows before and after writes. -/
theorem Writes.rowsFollow {D : Deed → Prop} (h : Writes D f f') (hrefl : ∀ n, R n n)
    (htrans : ∀ {n m k}, m.id = n.id → R n m → R m k → R n k)
    (hstep : ∀ {d f n m}, D d → Node.Step f d n m → R n m) : RowsFollow R f f' := by
  have hcompose : ∀ {a b c : Fleet}, RowsFollow R a b → RowsFollow R b c → RowsFollow R a c :=
    fun hab hbc => hab.trans hbc htrans
  refine h.relate (RowsFollow.refl hrefl) hcompose ?_
  intro d g g' hd hw
  refine ⟨hw.lastNode_le, ?_⟩
  intro m hm hle
  cases hw.rowFrom hm with
  | step hn hs => exact ⟨_, hn, hs.id_eq, hstep hd hs⟩
  | new =>
    -- the number of a new row had not been given
    exact absurd hle (Int.not_le.2 (Int.lt_succ _))

/-- The rows of one number, where they are unique. -/
theorem RowsFollow.of_node? (h : RowsFollow R f f') (hs : Sound f) {id : Int} {n m : Node}
    (hn : f.node? id = some n) (hm : f'.node? id = some m) : R n m := by
  obtain ⟨hnmem, hnid⟩ := node?_eq_some hn
  obtain ⟨hmmem, hmid⟩ := node?_eq_some hm
  have hle : m.id ≤ f.lastNode := by
    rw [hmid]
    exact hs.nodes_le id (node?_mem_nodeIds hn)
  obtain ⟨k, hk, hkid, hR⟩ := h.rows m hmmem hle
  have hkn : k = n := hs.node_inj hk hnmem (by rw [← hkid, hmid, hnid])
  exact hkn ▸ hR

end Fleet

/-! ### The growth of revisions -/

namespace Fleet

/-- All revisions are from one to `k`. -/
def RevisionsUpTo (k : Int) (f : Fleet) : Prop :=
  ∀ n ∈ f.nodes, 1 ≤ n.configRevision ∧ n.configRevision ≤ k

variable {f f' : Fleet} {d : Deed} {k : Int}

theorem RevisionsUpTo.mono {l : Int} (h : f.RevisionsUpTo k) (hle : k ≤ l) :
    f.RevisionsUpTo l :=
  fun n hn => ⟨(h n hn).1, Int.le_trans (h n hn).2 hle⟩

/-- A new node has the first revision. -/
theorem Write.revisionsUpTo (h : Write d f f') (hk : 1 ≤ k) (hd : ∀ id, d ≠ .updateNode id)
    (hf : f.RevisionsUpTo k) : f'.RevisionsUpTo k := by
  intro m hm
  cases h.rowFrom hm with
  | step hn hstep =>
    rw [hstep.configRevision_eq (hd _)]
    exact hf _ hn
  | new => exact ⟨Int.le_refl _, hk⟩

theorem Write.revisionsUpTo_succ (h : Write d f f') (hk : 1 ≤ k) (hf : f.RevisionsUpTo k) :
    f'.RevisionsUpTo (k + 1) := by
  intro m hm
  cases h.rowFrom hm with
  | step hn hstep =>
    have hbounds := hf _ hn
    have hle := hstep.configRevision_le
    omega
  | new => exact ⟨Int.le_refl _, Int.le_trans hk (Int.le_of_lt (Int.lt_succ _))⟩

end Fleet

/-! ### Updates and other events -/

/-- A change of a node is refused, or it takes the place of the row. -/
theorem Action.on_updateNode_cases (now : Instant) (id : Int) (patch : NodePatch) (p : Panel) :
    (∃ e, (updateNode now id patch).on p = (.error e, p)) ∨
    ∃ n n' view, p.fleet.node? id = some n ∧
      Fleet.patchNode now patch (p.fleet.userCount id) n = .ok n' ∧
      (updateNode now id patch).on p =
        (.ok view, { p with fleet := p.fleet.updateNode id fun _ => n' }) := by
  unfold updateNode
  rcases on_transact_cases (Fleet.changeNode now id patch) p with ⟨u, f, hopen, h, hon⟩ | ⟨e, hon⟩
  · obtain ⟨n, n', hn, hpatch, he⟩ := Fleet.changeNode_eq_ok.1 h
    cases he
    obtain ⟨hmem, rfl⟩ := Fleet.node?_eq_some hn
    have hmem' : n' ∈ (p.fleet.updateNode n.id fun _ => n').nodes :=
      List.mem_map.2 ⟨n, hmem, if_pos rfl⟩
    obtain ⟨view, hview, -⟩ := Fleet.getNode_of_mem hmem'
    rw [Fleet.patchNode_id hpatch] at hview
    refine .inr ⟨n, n', view, hn, hpatch, ?_⟩
    rw [on_bind_of_ok hon]
    exact on_read_eq_ok.2 ⟨hopen, hview, rfl⟩
  · exact .inl ⟨e, on_bind_of_error hon⟩

/-- An update that succeeds raises the revision of the node by one, and makes it pending, if it
changes the settings; otherwise it leaves both. -/
theorem Operation.updateNode_revision {now : Instant} {id : Int} {patch : NodePatch}
    {view : NodeView} {p : Panel} (hs : p.fleet.Sound)
    (h : (Operation.updateNode now id patch).answer p = .ok view) :
    ∃ n m, p.fleet.node? id = some n ∧
      ((Operation.updateNode now id patch).after p).fleet.node? id = some m ∧
      (m.agentSettings ≠ n.agentSettings →
        m.configRevision = n.configRevision + 1 ∧ m.syncStatus = .pending) ∧
      (m.agentSettings = n.agentSettings →
        m.configRevision = n.configRevision ∧ m.syncStatus = n.syncStatus) := by
  rcases Action.on_updateNode_cases now id patch p with
    ⟨e, hon⟩ | ⟨n, m, view', hn, hpatch, hon⟩
  · cases h.symm.trans (congrArg Prod.fst hon)
  · have hafter : (Operation.updateNode now id patch).after p =
        { p with fleet := p.fleet.updateNode id fun _ => m } := congrArg Prod.snd hon
    refine ⟨n, m, hn, ?_, Fleet.patchNode_revision hpatch⟩
    rw [hafter]
    exact Fleet.node?_of_patchNode hs hn hpatch

namespace Event

variable {e : Event} {p : Panel} {id : Int}

/-- Only a request for it updates a node. -/
theorem deeds_updateNode (h : e.deeds (.updateNode id)) :
    ∃ now patch, e = .ask (.updateNode now id patch) := by
  cases e with
  | world isOpen shell => exact h.elim
  | ask op =>
    cases op with
    | updateNode now id' patch =>
      cases h
      exact ⟨now, patch, rfl⟩
    | _ => simp [deeds, Operation.deeds] at h

/-- Whatever is no successful update of a node leaves its revision. -/
theorem configRevision_eq (hs : p.fleet.Sound)
    (h : ∀ now patch view, e = .ask (.updateNode now id patch) →
      (Operation.updateNode now id patch).answer p ≠ .ok view)
    {n m : Node} (hn : p.fleet.node? id = some n) (hm : (e.after p).fleet.node? id = some m) :
    m.configRevision = n.configRevision := by
  by_cases hd : e.deeds (.updateNode id)
  · obtain ⟨now, patch, rfl⟩ := deeds_updateNode hd
    rcases Action.on_updateNode_cases now id patch p with ⟨e, hon⟩ | ⟨_, _, view, -, -, hon⟩
    · have hafter : (ask (.updateNode now id patch)).after p = p := congrArg Prod.snd hon
      rw [hafter, hn] at hm
      rw [Option.some.inj hm]
    · exact absurd (congrArg Prod.fst hon) (h now patch view rfl)
  · have hrows := (e.writes p).rowsFollow
      (R := fun n m => n.id = id → m.configRevision = n.configRevision) (fun _ _ => rfl)
      (fun hid hnm hmk hn => (hmk (hid.trans hn)).trans (hnm hn))
      (fun hdeed hstep hn => hstep.configRevision_eq fun he => hd (hn ▸ he ▸ hdeed))
    exact hrows.of_node? hs hn hm (Fleet.node?_eq_some hn).2

/-- An event raises the greatest revision by one at most. -/
theorem revisionsUpTo {k : Int} (hk : 1 ≤ k) (h : p.fleet.RevisionsUpTo k) :
    (e.after p).fleet.RevisionsUpTo (k + 1) := by
  by_cases hd : ∃ id, e.deeds (.updateNode id)
  · obtain ⟨id, hd⟩ := hd
    obtain ⟨now, patch, rfl⟩ := deeds_updateNode hd
    rcases Action.on_updateNode_cases now id patch p with ⟨e, hon⟩ | ⟨_, m, _, hn, hpatch, hon⟩
    · have hafter : (ask (.updateNode now id patch)).after p = p := congrArg Prod.snd hon
      rw [hafter]
      exact h.mono (by omega)
    · have hafter : (ask (.updateNode now id patch)).after p =
          { p with fleet := p.fleet.updateNode id fun _ => m } := congrArg Prod.snd hon
      rw [hafter]
      exact (Fleet.Write.updateNode hn hpatch).revisionsUpTo_succ hk h
  · have hkeep := (e.writes p).keep (I := Fleet.RevisionsUpTo k)
      (fun d _ _ hdeed hw => hw.revisionsUpTo hk fun id he => hd ⟨id, he ▸ hdeed⟩)
    exact (hkeep h).mono (by omega)

end Event

namespace Panel

theorem revisionsUpTo_fresh (shell : Shell) (run : List Event) :
    ((fresh shell).after run).fleet.RevisionsUpTo (run.length + 1) := by
  induction run using List.reverseRecOn with
  | nil =>
    intro n hn
    cases hn
  | append_singleton run e ih =>
    have hstep := Event.revisionsUpTo (e := e) (by omega) ih
    rw [after_concat]
    exact hstep.mono (by simp)

/-- After any operations: the revision of a node does not go down from then on, and while it is the
same, the agent is served the same configuration. An update that succeeds raises it by one, and
makes the node pending, if it changes what the agent has to know, and leaves both otherwise;
whatever is no such update leaves the revision. The revisions are from one to one more than the
number of operations. -/
theorem revision_identifies_config (shell : Shell) (first second : List Event) :
    let p := (fresh shell).after first
    let q := (fresh shell).after (first ++ second)
    (∀ id n m, p.fleet.node? id = some n → q.fleet.node? id = some m →
      n.configRevision ≤ m.configRevision ∧
      (n.configRevision = m.configRevision →
        n.agentSettings = m.agentSettings ∧ Api.agentConfig n = Api.agentConfig m)) ∧
    (∀ now id patch view, (Operation.updateNode now id patch).answer p = .ok view →
      ∃ n m, p.fleet.node? id = some n ∧
        ((Operation.updateNode now id patch).after p).fleet.node? id = some m ∧
        (m.agentSettings ≠ n.agentSettings →
          m.configRevision = n.configRevision + 1 ∧ m.syncStatus = .pending) ∧
        (m.agentSettings = n.agentSettings →
          m.configRevision = n.configRevision ∧ m.syncStatus = n.syncStatus)) ∧
    (∀ (e : Event) (id : Int) (n m : Node),
      (∀ now patch view, e = .ask (.updateNode now id patch) →
        (Operation.updateNode now id patch).answer p ≠ .ok view) →
      p.fleet.node? id = some n → (e.after p).fleet.node? id = some m →
      m.configRevision = n.configRevision) ∧
    ∀ n ∈ p.fleet.nodes, 1 ≤ n.configRevision ∧ n.configRevision ≤ first.length + 1 := by
  intro p q
  have hs : p.fleet.Sound := sound_fresh shell first
  refine ⟨?_, fun _ _ _ _ h => Operation.updateNode_revision hs h,
    fun _ _ _ _ h hn hm => Event.configRevision_eq hs h hn hm, revisionsUpTo_fresh shell first⟩
  intro id n m hn hm
  have hq : q = p.after second := after_append _ _ _
  rw [hq] at hm
  have hrows := (p.writes_after second).rowsFollow Node.Succeeds.refl
    (fun _ h h' => h.trans h') (fun _ hstep => hstep.succeeds)
  have hsucceeds := hrows.of_node? hs hn hm
  refine ⟨hsucceeds.revision_le, fun heq => ?_⟩
  have hsettings := hsucceeds.settings_eq heq
  exact ⟨hsettings, Node.agentConfig_congr hsucceeds.id_eq.symm heq hsettings⟩

/-- A synced node that is disabled is served what it was served before; under a new name, it is
pending at the next revision. -/
theorem revision_identifies_config_renamed :
    let now : Instant := ⟨0, 0⟩
    let first : List Event :=
      [.ask (.createNode now "" .standard
          ⟨"node", "", some "host", some 443, 1, 0, [], [], .manual, none, none⟩),
        .ask (.recordHeartbeat now 1 ⟨1, none⟩),
        .ask (.reconcile { ReconcilerConfig.standard with probeEnabled := false }
          (fun _ => .skipped) now)]
    let disable : Event := .ask (.setEnabled now 1 false)
    let rename : Operation NodeView :=
      .updateNode now 1 ⟨some "renamed", none, none, none, none, none, none, none, none⟩
    let p := (fresh .silent).after first
    ∃ n m k, p.fleet.node? 1 = some n ∧ n.enabled = true ∧ n.syncStatus = .synced ∧
      ((fresh .silent).after (first ++ [disable])).fleet.node? 1 = some m ∧ m.enabled = false ∧
      Api.agentConfig n = Api.agentConfig m ∧
      (rename.after p).fleet.node? 1 = some k ∧ k.configRevision = n.configRevision + 1 ∧
      k.syncStatus = .pending := by
  intro now first disable rename p
  have hn : (p.fleet.node? 1).map (fun n => (n.name, n.enabled, n.syncStatus)) =
      some ("node", true, .synced) := by decide +kernel
  have hm : (((fresh .silent).after (first ++ [disable])).fleet.node? 1).map (·.enabled) =
      some false := by decide +kernel
  have hk : ((rename.after p).fleet.node? 1).map (·.name) = some "renamed" := by decide +kernel
  have hview : ∃ view, rename.answer p = .ok view := Except.exists_eq_ok (by decide +kernel)
  obtain ⟨n, hn, hrow⟩ := Option.map_eq_some_iff.1 hn
  obtain ⟨hname, henabled, hsynced⟩ :
      n.name = "node" ∧ n.enabled = true ∧ n.syncStatus = .synced := by simpa using hrow
  obtain ⟨m, hm, hdisabled⟩ := Option.map_eq_some_iff.1 hm
  obtain ⟨k, hk, hrenamed⟩ := Option.map_eq_some_iff.1 hk
  obtain ⟨view, hview⟩ := hview
  obtain ⟨hserved, hupdate, hother, -⟩ := revision_identifies_config .silent first [disable]
  have hkept : m.configRevision = n.configRevision :=
    hother disable 1 n m (fun _ _ _ h => by simp [disable] at h) hn (after_concat _ _ _ ▸ hm)
  obtain ⟨n', k', hn', hk', hchanged, -⟩ := hupdate now 1 _ view hview
  obtain rfl : n = n' := Option.some.inj (hn.symm.trans hn')
  obtain rfl : k = k' := Option.some.inj (hk.symm.trans hk')
  have hsettings : k.agentSettings ≠ n.agentSettings := by
    intro h
    have hnames : k.name = n.name := congrArg AgentSettings.name h
    rw [hname, hrenamed] at hnames
    exact absurd hnames (by decide)
  obtain ⟨hraised, hpending⟩ := hchanged hsettings
  obtain ⟨-, hsame⟩ := hserved 1 n m hn hm
  exact ⟨n, m, k, hn, henabled, hsynced, hm, hdisabled, (hsame hkept.symm).2, hk, hraised,
    hpending⟩

end Panel

end NodeFleet
