import NodeFleet.Proofs.SyncError

/-!
# Who writes which field

Each field in the row of a node has its owners: ticks own the health, the agent owns what it
reports, the administrator owns the settings. `Node.Framed` says which fields a row keeps where
some deeds are left out; each step of a row is framed, and the relation composes. A request about
one node leaves the rows about all other nodes, which are the tables without that node.
-/

namespace NodeFleet

/-! ### Rows -/

/-- The fields that a row keeps when only deeds out of `D` are done: each field changes by a deed of
one of its owners on the node. -/
structure Node.Framed (D : Deed → Prop) (n m : Node) : Prop where
  id_eq : m.id = n.id
  createdAt_eq : m.createdAt = n.createdAt
  measured_eq : ¬D (.evaluate n.id) →
    m.health = n.health ∧ m.latency = n.latency ∧ m.syncedAt = n.syncedAt
  reported_eq : ¬D (.heartbeat n.id) →
    m.lastSeenAt = n.lastSeenAt ∧ m.appliedRevision = n.appliedRevision
  syncError_eq : ¬D (.heartbeat n.id) → ¬D (.install n.id) → m.syncError = n.syncError
  syncStatus_eq : ¬D (.evaluate n.id) → ¬D (.install n.id) →
    m.syncStatus = n.syncStatus ∨ D (.updateNode n.id) ∧ m.syncStatus = .pending
  settings_eq : ¬D (.updateNode n.id) →
    m.name = n.name ∧ m.region = n.region ∧ m.address = n.address ∧ m.port = n.port ∧
    m.weight = n.weight ∧ m.maxUsers = n.maxUsers ∧ m.tags = n.tags ∧
    m.whitelist = n.whitelist ∧ m.configRevision = n.configRevision
  enabled_eq : ¬D (.updateNode n.id) → ¬D (.setEnabled n.id) → m.enabled = n.enabled

namespace Node.Framed

variable {D : Deed → Prop} {n m k : Node}

theorem refl (n : Node) : Framed D n n where
  id_eq := rfl
  createdAt_eq := rfl
  measured_eq _ := ⟨rfl, rfl, rfl⟩
  reported_eq _ := ⟨rfl, rfl⟩
  syncError_eq _ _ := rfl
  syncStatus_eq _ _ := .inl rfl
  settings_eq _ := ⟨rfl, rfl, rfl, rfl, rfl, rfl, rfl, rfl, rfl⟩
  enabled_eq _ _ := rfl

theorem trans (h : Framed D n m) (h' : Framed D m k) : Framed D n k := by
  obtain ⟨hid, hcreated, hmeasured, hreported, herror, hstatus, hsettings, henabled⟩ := h'
  rw [h.id_eq] at hid hmeasured hreported herror hstatus hsettings henabled
  constructor
  · exact hid
  · exact hcreated.trans h.createdAt_eq
  · intro hD
    have := h.measured_eq hD
    have := hmeasured hD
    simp_all only [and_self]
  · intro hD
    have := h.reported_eq hD
    have := hreported hD
    simp_all only [and_self]
  · intro hheard hinstall
    exact (herror hheard hinstall).trans (h.syncError_eq hheard hinstall)
  · intro hevaluate hinstall
    -- the later step decides, unless it keeps what the earlier one has left
    rcases hstatus hevaluate hinstall with hkept | hpending
    · rw [hkept]
      exact h.syncStatus_eq hevaluate hinstall
    · exact .inr hpending
  · intro hD
    have := h.settings_eq hD
    have := hsettings hD
    simp_all only [and_self]
  · intro hupdate henable
    exact (henabled hupdate henable).trans (h.enabled_eq hupdate henable)

end Node.Framed

/-- Each deed writes the fields of its owner. -/
theorem Node.Step.framed {D : Deed → Prop} {f : Fleet} {d : Deed} {n m : Node}
    (h : Node.Step f d n m) (hd : D d) : Node.Framed D n m := by
  have hrefl := Node.Framed.refl (D := D) n
  cases h with
  | keep => exact hrefl
  | update hpatch =>
    obtain ⟨name, address, port, weight, maxUsers, tags, whitelist, -, -, -, -, -, -, -, rfl⟩ :=
      Fleet.patchNode_eq_ok.1 hpatch
    refine { hrefl with
      syncStatus_eq := ?_
      settings_eq := fun hupdate => absurd hd hupdate
      enabled_eq := fun hupdate => absurd hd hupdate }
    intro _ _
    dsimp only
    split
    · exact .inr ⟨hd, rfl⟩
    · exact .inl rfl
  | enable => exact { hrefl with enabled_eq := fun _ henable => absurd hd henable }
  | @install finish failedStep =>
    cases failedStep with
    | none =>
      exact { hrefl with
        syncError_eq := fun _ hinstall => absurd hd hinstall
        syncStatus_eq := fun _ hinstall => absurd hd hinstall }
    | some step =>
      exact { hrefl with
        syncError_eq := fun _ hinstall => absurd hd hinstall
        syncStatus_eq := fun _ hinstall => absurd hd hinstall }
  | heartbeat =>
    exact { hrefl with
      reported_eq := fun hheard => absurd hd hheard
      syncError_eq := fun hheard => absurd hd hheard }
  | evaluate =>
    exact { hrefl with
      measured_eq := fun hevaluate => absurd hd hevaluate
      syncStatus_eq := fun hevaluate => absurd hd hevaluate }

/-! ### The rows about other nodes -/

/-- The node that a deed is about, if it is about one node only. -/
def Deed.node? : Deed → Option Int
  | updateNode id | setEnabled id | deleteNode id | install id | issueToken id | rotateToken id
  | revokeToken id | heartbeat id | evaluate id => some id
  | createNode | createGroup | updateGroup _ | deleteGroup _ | addMember _ _ | removeMember _ _
  | assign _ _ | unassign _ => none

section Tables

variable {α : Type} {key : α → Int} {rows : List α} {id : Int}

/-- Changing the rows of a key leaves the others. -/
theorem filter_key_map {change : α → α} (hself : ∀ r, key r = id → key (change r) = id)
    (hother : ∀ r, key r ≠ id → change r = r) :
    (rows.map change).filter (key · ≠ id) = rows.filter (key · ≠ id) := by
  induction rows with
  | nil => rfl
  | cons r rs ih =>
    rw [List.map_cons, List.filter_cons, List.filter_cons, ih]
    by_cases hr : key r = id
    · simp [hr, hself r hr]
    · simp [hr, hother r hr]

/-- Storing the row of a key leaves the others. -/
theorem filter_key_upsert {row : α} (hrow : key row = id) :
    (upsert key row rows).filter (key · ≠ id) = rows.filter (key · ≠ id) := by
  subst hrow
  induction rows with
  | nil => simp [upsert]
  | cons r rs ih =>
    by_cases hr : key r = key row
    · unfold upsert
      rw [if_pos (by simp [hr])]
      apply filter_key_map
      · intro s hs
        rw [if_pos hs]
      · intro s hs
        exact if_neg hs
    · rw [upsert_cons_of_ne hr, List.filter_cons, List.filter_cons, ih]

/-- Leaving out the rows of a key keeps those of another. -/
theorem filter_filter_key {other : Int} (hother : other ≠ id) :
    (rows.filter (key · ≠ id)).filter (key · = other) = rows.filter (key · = other) := by
  rw [List.filter_filter]
  apply List.filter_congr
  intro r _
  by_cases hr : key r = other
  · simp [hr, hother]
  · simp [hr]

end Tables

namespace Fleet

variable {f f' : Fleet} {d : Deed} {id : Int}

/-- A change of the row of a node. -/
theorem withoutNode_mapNodes {rows : List Node}
    (hrows : rows.filter (·.id ≠ id) = f.nodes.filter (·.id ≠ id)) :
    withoutNode id { f with nodes := rows } = f.withoutNode id := by
  unfold withoutNode
  dsimp only
  rw [hrows]

theorem withoutNode_updateNode {change : Node → Node}
    (hchange : ∀ n, n.id = id → (change n).id = id) :
    (f.updateNode id change).withoutNode id = f.withoutNode id := by
  apply withoutNode_mapNodes
  apply filter_key_map
  · intro n hn
    rw [if_pos hn]
    exact hchange n hn
  · intro n hn
    exact if_neg hn

theorem withoutNode_putToken {token : Token} (htoken : token.nodeId = id) :
    (f.putToken token).withoutNode id = f.withoutNode id := by
  unfold withoutNode putToken
  dsimp only
  rw [filter_key_upsert htoken]

theorem withoutNode_putInstall {record : InstallRecord} (hrecord : record.nodeId = id) :
    (f.putInstall record).withoutNode id = f.withoutNode id := by
  unfold withoutNode putInstall
  dsimp only
  rw [filter_key_upsert hrecord]

theorem withoutNode_updateValidToken {change : Token → Token}
    (hchange : ∀ t, (change t).nodeId = t.nodeId) :
    (f.updateValidToken id change).withoutNode id = f.withoutNode id := by
  have hrows : (f.updateValidToken id change).tokens.filter (·.nodeId ≠ id) =
      f.tokens.filter (·.nodeId ≠ id) := by
    apply filter_key_map
    · intro t ht
      split
      · exact (hchange t).trans ht
      · exact ht
    · intro t ht
      rw [if_neg fun h => ht h.1]
  unfold withoutNode
  rw [hrows]
  rfl

/-- A deed about one node changes no row about another. -/
theorem Write.withoutNode_eq (h : Write d f f') (hd : d.node? = some id) :
    f'.withoutNode id = f.withoutNode id := by
  cases h with
  | same => rfl
  | updateNode hn hpatch =>
    obtain rfl := Option.some.inj hd
    exact withoutNode_updateNode fun _ _ => (patchNode_id hpatch).trans (node?_eq_some hn).2
  | setEnabled =>
    obtain rfl := Option.some.inj hd
    exact withoutNode_updateNode fun _ hn => hn
  | deleteNode =>
    obtain rfl := Option.some.inj hd
    simp [withoutNode]
  | install _ _ hr =>
    obtain rfl := Option.some.inj hd
    rw [withoutNode_updateNode fun _ hn => noteInstall_id.trans hn, withoutNode_putInstall hr]
    exact withoutNode_putToken rfl
  | refusedInstall | issueToken =>
    obtain rfl := Option.some.inj hd
    exact withoutNode_putToken rfl
  | rotateToken =>
    obtain rfl := Option.some.inj hd
    exact withoutNode_updateValidToken fun _ => rfl
  | revokeToken =>
    obtain rfl := Option.some.inj hd
    exact withoutNode_updateValidToken fun _ => rfl
  | heartbeat =>
    obtain rfl := Option.some.inj hd
    exact withoutNode_updateNode fun _ hn => hn
  | evaluate =>
    obtain rfl := Option.some.inj hd
    apply withoutNode_mapNodes
    apply filter_key_map
    · intro n hn
      split
      · exact hn
      · exact hn
    · intro n hn
      rw [if_neg fun hunmoved => hn (isUnmoved_id hunmoved)]
  | createNode | createGroup | updateGroup | deleteGroup | addMember | removeMember | assign
  | unassign => cases hd

/-- Deeds about one node change no row about another. -/
theorem Writes.withoutNode_eq {D : Deed → Prop} (h : Writes D f f')
    (hD : ∀ d, D d → d.node? = some id) : f'.withoutNode id = f.withoutNode id :=
  h.part_eq fun d _ _ hd hw => hw.withoutNode_eq (hD d hd)

/-- Two tables have the same rows about a node: its own row, its token, the record of its
installation, and its memberships and assignments in their order. -/
structure SameAbout (id : Int) (f f' : Fleet) : Prop where
  node_eq : f'.node? id = f.node? id
  token_eq : f'.token? id = f.token? id
  install_eq : f'.install? id = f.install? id
  members_eq : f'.members.filter (·.nodeId = id) = f.members.filter (·.nodeId = id)
  assignments_eq : f'.assignments.filter (·.nodeId = id) = f.assignments.filter (·.nodeId = id)

namespace SameAbout

variable {other : Int}

theorem symm (h : SameAbout id f f') : SameAbout id f' f :=
  ⟨h.node_eq.symm, h.token_eq.symm, h.install_eq.symm, h.members_eq.symm, h.assignments_eq.symm⟩

theorem trans {f'' : Fleet} (h : SameAbout id f f') (h' : SameAbout id f' f'') :
    SameAbout id f f'' :=
  ⟨h'.node_eq.trans h.node_eq, h'.token_eq.trans h.token_eq, h'.install_eq.trans h.install_eq,
    h'.members_eq.trans h.members_eq, h'.assignments_eq.trans h.assignments_eq⟩

/-- Removing a node leaves the rows about another. -/
theorem withoutNode (hother : other ≠ id) : SameAbout other f (f.withoutNode id) where
  node_eq := (find?_filter_key id other).trans (if_neg hother.symm)
  token_eq := (find?_filter_key id other).trans (if_neg hother.symm)
  install_eq := (find?_filter_key id other).trans (if_neg hother.symm)
  members_eq := filter_filter_key hother
  assignments_eq := filter_filter_key hother

/-- Tables that differ in the rows about one node have the same rows about another. -/
theorem of_withoutNode (h : f'.withoutNode id = f.withoutNode id) (hother : other ≠ id) :
    SameAbout other f f' := by
  have hbefore : SameAbout other f (f'.withoutNode id) := h ▸ withoutNode hother
  exact hbefore.trans (withoutNode hother).symm

end SameAbout

end Fleet

/-! ### Events -/

/-- The node that an operation is about, if it changes the rows about one node only. -/
def Operation.target? {α : Type} : Operation α → Option Int
  | updateNode _ id _ | setEnabled _ id _ | deleteNode id | reinstall _ _ _ id _
  | issueToken _ _ id | rotateToken _ _ id | revokeToken _ id | recordHeartbeat _ id _ => some id
  | installNode _ _ _ node _ _ => some node.id
  | applyEvaluation snapshot .. => some snapshot.id
  | _ => none

theorem Operation.node?_of_deeds {α : Type} {op : Operation α} {id : Int} {d : Deed}
    (h : op.target? = some id) (hd : op.deeds d) : d.node? = some id := by
  cases op with
  | updateNode | setEnabled | deleteNode | reinstall | issueToken | rotateToken | revokeToken
  | recordHeartbeat | installNode | applyEvaluation =>
    obtain rfl : d = _ := hd
    exact h
  | _ => cases h

namespace Event

/-- The node that an event is about, if it changes the rows about one node only. -/
def target? : Event → Option Int
  | ask op => op.target?
  | world _ _ => none

/-- The deeds that an event may do to the nodes that are there: making a node does none. -/
def touches : Event → Deed → Prop
  | ask (.createNode ..), _ => False
  | e, d => e.deeds d

variable {e : Event} {p : Panel}

/-- A row before an event and after it differ in fields whose owner the event is. -/
theorem rowsFollow_framed (hs : p.fleet.Sound) :
    Fleet.RowsFollow (Node.Framed e.touches) p.fleet (e.after p).fleet := by
  by_cases hcreate : ∃ now token config r, e = .ask (.createNode now token config r)
  · obtain ⟨now, token, config, r, he⟩ := hcreate
    apply (rowsFollow_createNode hs he).mono
    rintro n m rfl
    exact .refl m
  · have htouches : e.touches = e.deeds := by
      funext d
      unfold touches
      split
      · exact absurd ⟨_, _, _, _, rfl⟩ hcreate
      · rfl
    rw [htouches]
    apply (e.writes p).rowsFollow
    · exact .refl
    · exact fun _ => .trans
    · exact fun hd hstep => hstep.framed hd

/-- An event about one node leaves the rows about all others. -/
theorem sameAbout {id other : Int} (h : e.target? = some id) (hother : other ≠ id) :
    Fleet.SameAbout other p.fleet (e.after p).fleet := by
  refine .of_withoutNode ((e.writes p).withoutNode_eq fun d hd => ?_) hother
  cases e with
  | ask op => exact Operation.node?_of_deeds h hd
  | world => cases hd

end Event

/-- In every state of a run, the next event changes a field in the row of a node only as one of the
owners of the field, and an event about one node changes no row about another. -/
theorem Panel.field_ownership (shell : Shell) (run : List Event) (e : Event) :
    let p := (fresh shell).after run
    let q := e.after p
    (∀ id n m, p.fleet.node? id = some n → q.fleet.node? id = some m →
      Node.Framed e.touches n m) ∧
    ∀ id other, e.target? = some id → other ≠ id → Fleet.SameAbout other p.fleet q.fleet := by
  intro p q
  have hs : p.fleet.Sound := sound_fresh shell run
  constructor
  · intro id n m hn hm
    exact (Event.rowsFollow_framed hs).of_node? hs hn hm
  · intro id other htarget hother
    exact Event.sameAbout htarget hother

/-- The first of two nodes is disabled. -/
theorem Panel.field_ownership_disabled :
    let now : Instant := ⟨0, 0⟩
    let create : Event := .ask (.createNode now "" .standard
      ⟨"node", "", some "host", some 443, 1, 0, [], [], .manual, none, none⟩)
    let e : Event := .ask (.setEnabled now 1 false)
    let p := (fresh .silent).after [create, create]
    let q := e.after p
    (∃ n m, p.fleet.node? 1 = some n ∧ q.fleet.node? 1 = some m ∧ n.enabled = true ∧
      m.enabled = false ∧ Node.Framed e.touches n m) ∧ Fleet.SameAbout 2 p.fleet q.fleet := by
  intro now create e p q
  have hn : (p.fleet.node? 1).map (·.enabled) = some true := by decide +kernel
  have hm : (q.fleet.node? 1).map (·.enabled) = some false := by decide +kernel
  obtain ⟨n, hn, henabled⟩ := Option.map_eq_some_iff.1 hn
  obtain ⟨m, hm, hdisabled⟩ := Option.map_eq_some_iff.1 hm
  obtain ⟨hframed, hsame⟩ := field_ownership .silent [create, create] e
  exact ⟨⟨n, m, hn, hm, henabled, hdisabled, hframed 1 n m hn hm⟩, hsame 1 2 rfl (by decide)⟩

end NodeFleet
