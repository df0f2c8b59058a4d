import NodeFleet.Proofs.Revision

/-!
# Who sets the error of a node

The error in the row of a node is set or cleared by the heartbeats of the node and by the
installations on it, and by nothing else. A new node may be installed at once, but that leaves the
rows that are there.
-/

namespace NodeFleet

theorem Node.Step.syncError_eq {f : Fleet} {d : Deed} {n m : Node} (h : Node.Step f d n m)
    (hinstall : d ≠ .install n.id) (hheard : d ≠ .heartbeat n.id) : m.syncError = n.syncError := by
  cases h with
  | update hpatch =>
    obtain ⟨_, _, _, _, _, _, _, -, -, -, -, -, -, -, rfl⟩ := Fleet.patchNode_eq_ok.1 hpatch
    rfl
  | install => exact absurd rfl hinstall
  | heartbeat => exact absurd rfl hheard
  | keep | enable | evaluate => rfl

/-! ### Installations -/

/-- The rows after a mark in the row of a number that no earlier row has. -/
theorem Fleet.nodes_updateNode_append {f : Fleet} {rows new : List Node} {id : Int}
    {change : Node → Node} (hf : f.nodes = rows ++ new) (hrows : ∀ n ∈ rows, n.id ≠ id)
    (hnew : ∀ n ∈ new, n.id = id) : (f.updateNode id change).nodes = rows ++ new.map change := by
  unfold updateNode
  rw [hf, List.map_append]
  have hleft : (rows.map fun n => if n.id = id then change n else n) = rows := by
    conv_rhs => rw [← List.map_id rows]
    exact List.map_congr_left fun n hn => if_neg (hrows n hn)
  have hright : (new.map fun n => if n.id = id then change n else n) = new.map change :=
    List.map_congr_left fun n hn => if_pos (hnew n hn)
  rw [hleft, hright]

namespace Action

variable {p : Panel} {now : Instant} {token : String} {config : InstallConfig}

/-- The rows after an installation: that of its node is marked. -/
theorem nodes_installNode {node : Node} {target : SshTarget} {url : String}
    {result : InstallResult} {p' : Panel}
    (h : (installNode now token config node target url).on p = (.ok result, p')) :
    node.id ∈ p.fleet.nodeIds ∧ result.success = result.failedStep.isNone ∧
      ∃ finish, p'.fleet.nodes =
        (p.fleet.updateNode node.id (Fleet.noteInstall finish result.failedStep)).nodes := by
  obtain ⟨-, ⟨n, hn⟩, rfl, rfl⟩ := on_installNode_eq_ok h
  refine ⟨Fleet.node?_mem_nodeIds hn, ?_, _, rfl⟩
  simp [runInstall]

/-- A new node leaves the rows that are there, and has the next number. -/
theorem nodes_createNode (now : Instant) (token : String) (config : InstallConfig) (r : CreateNode)
    (hs : p.fleet.Sound) :
    ∃ new : List Node, ((createNode now token config r).on p).2.fleet.nodes = p.fleet.nodes ++ new ∧
      ∀ n ∈ new, n.id = p.fleet.lastNode + 1 := by
  rcases on_createNode_cases now token config r p with
    ⟨e, hon⟩ | ⟨d, -, -, ⟨view, -, hon⟩ | ⟨target, url, ⟨e, q, hinstall, hon⟩ |
      ⟨result, view, q, hinstall, -, hon⟩⟩⟩
  · rw [hon]
    exact ⟨[], by rw [List.append_nil], by simp⟩
  · rw [hon]
    exact ⟨[d.toNode now (p.fleet.lastNode + 1)], rfl, by simp [NodeDraft.toNode]⟩
  · obtain ⟨tokens, hfleet⟩ := fleet_of_installNode_error hinstall
    rw [hon, hfleet]
    exact ⟨[d.toNode now (p.fleet.lastNode + 1)], rfl, by simp [NodeDraft.toNode]⟩
  · obtain ⟨-, -, finish, hnodes⟩ := nodes_installNode hinstall
    have hrows : ∀ n ∈ p.fleet.nodes, n.id ≠ p.fleet.lastNode + 1 := by
      intro n hn he
      exact hs.next_not_mem (he ▸ List.mem_map_of_mem hn)
    have hsplit : ((p.fleet.withNode now d).updateNode (p.fleet.lastNode + 1)
        (Fleet.noteInstall finish result.failedStep)).nodes = p.fleet.nodes ++
          [d.toNode now (p.fleet.lastNode + 1)].map (Fleet.noteInstall finish result.failedStep) :=
      Fleet.nodes_updateNode_append rfl hrows (by simp [NodeDraft.toNode])
    rw [hon]
    exact ⟨_, hnodes.trans hsplit, by simp [NodeDraft.toNode]⟩

end Action

/-! ### Reports on a node -/

/-- An operation that may set or clear the error of a node. -/
def Operation.ReportsOn (id : Int) {α : Type} : Operation α → Prop
  | recordHeartbeat _ heard _ => heard = id
  | installNode _ _ _ node _ _ => node.id = id
  | reinstall _ _ _ installed _ => installed = id
  | _ => False

namespace Event

/-- An event that may set or clear the error of a node. -/
def ReportsOn (id : Int) : Event → Prop
  | ask op => op.ReportsOn id
  | world _ _ => False

variable {e : Event} {p : Panel} {id : Int}

/-- An event that may install on a node or hear of it reports on the node, or makes a new one. -/
theorem reportsOn_of_deeds (h : e.deeds (.install id) ∨ e.deeds (.heartbeat id)) :
    e.ReportsOn id ∨ ∃ now token config r, e = .ask (.createNode now token config r) := by
  cases e with
  | world isOpen shell => exact h.elim False.elim False.elim
  | ask op =>
    cases op with
    | createNode now token config r => exact .inr ⟨now, token, config, r, rfl⟩
    | recordHeartbeat | installNode | reinstall =>
      simp only [deeds, Operation.deeds, Deed.install.injEq, Deed.heartbeat.injEq, reduceCtorEq,
        or_false, false_or] at h
      exact .inl h.symm
    | _ => simp [deeds, Operation.deeds] at h

/-- Rows after a new node come from the same rows. -/
theorem rowsFollow_createNode {now : Instant} {token : String} {config : InstallConfig}
    {r : CreateNode} (hs : p.fleet.Sound) (he : e = ask (.createNode now token config r)) :
    Fleet.RowsFollow (fun n m => m = n) p.fleet (e.after p).fleet := by
  have hafter : e.after p = ((Action.createNode now token config r).on p).2 := by
    have hrun : (Operation.createNode now token config r).run =
        Action.createNode now token config r := rfl
    rw [he, after_ask, Operation.after_eq_on, hrun]
  obtain ⟨new, hnodes, hnew⟩ := Action.nodes_createNode now token config r hs
  refine ⟨(e.follows p).lastNode_le, ?_⟩
  intro m hm hle
  rw [hafter, hnodes] at hm
  rcases List.mem_append.1 hm with hmem | hmem
  · exact ⟨m, hmem, rfl, rfl⟩
  · have := hnew m hmem
    omega

/-- An event that does not report on a node leaves its error. -/
theorem rowsFollow_syncError (hs : p.fleet.Sound) (h : ¬e.ReportsOn id) :
    Fleet.RowsFollow (fun n m => n.id = id → m.syncError = n.syncError) p.fleet
      (e.after p).fleet := by
  by_cases hdeeds : e.deeds (.install id) ∨ e.deeds (.heartbeat id)
  · rcases reportsOn_of_deeds hdeeds with hreports | ⟨now, token, config, r, he⟩
    · exact absurd hreports h
    · apply (rowsFollow_createNode hs he).mono
      rintro n m rfl _
      rfl
  · apply (e.writes p).rowsFollow
    · exact fun _ _ => rfl
    · intro n m k hid hnm hmk hn
      exact (hmk (hid.trans hn)).trans (hnm hn)
    · intro d f n m hdeed hstep hn
      apply hstep.syncError_eq
      · rintro rfl
        exact hdeeds (.inl (hn ▸ hdeed))
      · rintro rfl
        exact hdeeds (.inr (hn ▸ hdeed))

end Event

end NodeFleet
