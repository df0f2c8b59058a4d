import NodeFleet.Proofs.GroupView

/-!
# Memberships in any number

A run after which a node is in as many groups as one likes, and nothing else has changed; and a run
after which a group has as many nodes as one likes. With more than the database takes values, what
asks for all of them at once is refused.
-/

namespace NodeFleet

/-- Rows that all have one key are as many as those with the key. -/
theorem length_filter_of_replicate {α β : Type} [DecidableEq β] {key : α → β} {rows : List α}
    {k : β} {count : Nat} (h : rows.map key = List.replicate count k) :
    (rows.filter (key · = k)).length = count := by
  have hall : ∀ r ∈ rows, key r = k := by
    intro r hr
    have hkey : key r ∈ rows.map key := List.mem_map_of_mem hr
    rw [h] at hkey
    exact List.eq_of_mem_replicate hkey
  have hlength := congrArg List.length h
  rw [List.length_map, List.length_replicate] at hlength
  rw [List.filter_eq_self.2 fun r hr => decide_eq_true (hall r hr), hlength]

namespace Operation

variable {p : Panel}

/-- While the database is open, a node with data that pass is there after its creation by hand. -/
theorem after_createNode (hopen : p.isOpen = true) (now : Instant) (token : String)
    (config : InstallConfig) {r : CreateNode} {d : NodeDraft} (hdraft : r.draft = .ok d)
    (hmanual : r.installation = .ok none) :
    (createNode now token config r).after p = { p with fleet := p.fleet.withNode now d } := by
  have hinsert : (Action.transact (Fleet.insertNode now d)).on p =
      (.ok (d.toNode now (p.fleet.lastNode + 1)), { p with fleet := p.fleet.withNode now d }) :=
    Action.on_transact_eq_ok.2 ⟨hopen, _, rfl, rfl⟩
  have haction : (createNode now token config r).run = Action.createNode now token config r := rfl
  rw [after_eq_on, haction]
  unfold Action.createNode
  rw [hdraft, hmanual, Action.on_bind_of_ok (Action.on_check _ _),
    Action.on_bind_of_ok (Action.on_check _ _), Action.on_bind_of_ok hinsert,
    Action.on_bind_of_ok (Action.on_pure none _)]
  let created : Panel := { p with fleet := p.fleet.withNode now d }
  have hcreated : created.isOpen = true := hopen
  exact congrArg Prod.snd (Action.on_bind_pure (Action.on_read_of_open hcreated _) _)

/-- While the database is open, a group with a name that passes is there after its creation. -/
theorem after_createGroup (hopen : p.isOpen = true) (now : Instant) {r : CreateGroup}
    {name : String} (hname : Field.name r.name = .ok name) :
    (createGroup now r).after p = { p with fleet := p.fleet.withGroup now name r } := by
  have hinsert : (Action.transact (Fleet.insertGroup now name r)).on p =
      (.ok (p.fleet.lastGroup + 1), { p with fleet := p.fleet.withGroup now name r }) :=
    Action.on_transact_eq_ok.2 ⟨hopen, _, rfl, rfl⟩
  have hrun : (Action.createGroup now r).on p =
      (Action.read (Fleet.getGroup (p.fleet.lastGroup + 1))).on
        { p with fleet := p.fleet.withGroup now name r } := by
    unfold Action.createGroup
    rw [hname, Action.on_bind_of_ok (Action.on_check _ _), Action.on_bind_of_ok hinsert]
  have haction : (createGroup now r).run = Action.createGroup now r := rfl
  rw [after_eq_on, haction, hrun, Action.on_read_snd]

/-- While the database is open, a node joins a group that it is not in. -/
theorem after_addMember {groupId nodeId : Int} (hopen : p.isOpen = true) (now : Instant)
    (hg : ∃ g, p.fleet.group? groupId = some g) (hn : ∃ n, p.fleet.node? nodeId = some n)
    (hnew : p.fleet.isMember groupId nodeId = false) :
    (addMember now groupId nodeId).after p =
      { p with fleet :=
        { p.fleet with members := p.fleet.members ++ [⟨groupId, nodeId, now.toText⟩] } } := by
  have hjoin : (Action.transact (Fleet.joinGroup now groupId nodeId)).on p =
      (.ok (), { p with fleet :=
        { p.fleet with members := p.fleet.members ++ [⟨groupId, nodeId, now.toText⟩] } }) := by
    refine Action.on_transact_eq_ok.2 ⟨hopen, _, Fleet.joinGroup_eq_ok.2 ⟨hg, hn, ?_⟩, rfl⟩
    rw [hnew]
    rfl
  have haction : (addMember now groupId nodeId).run = Action.addMember now groupId nodeId := rfl
  rw [after_eq_on, haction]
  unfold Action.addMember
  rw [Action.on_bind_of_ok hjoin, Action.on_read_snd]

end Operation

/-! ### A node in many groups -/

namespace Fleet

/-- The tables after a node has joined so many new groups, which are all that there are. -/
structure Joined (f f' : Fleet) (nodeId : Int) (count : Nat) : Prop where
  nodes_eq : f'.nodes = f.nodes
  assignments_eq : f'.assignments = f.assignments
  lastGroup_eq : f'.lastGroup = count
  length_groups : f'.groups.length = count
  members_eq : f'.members.map (·.nodeId) = List.replicate count nodeId
  members_le : ∀ m ∈ f'.members, m.groupId ≤ count

namespace Joined

variable {f f' : Fleet} {nodeId : Int} {count : Nat}

/-- The node is not in the group that comes next. -/
theorem isMember_next (h : Joined f f' nodeId count) :
    f'.isMember (f'.lastGroup + 1) nodeId = false := by
  simp only [isMember, List.any_eq_false, decide_eq_true_eq]
  rintro m hm ⟨hgroup, -⟩
  have hle := h.members_le m hm
  rw [h.lastGroup_eq] at hgroup
  omega

/-- One more group, and the node in it. -/
theorem step (h : Joined f f' nodeId count) (g : Group) (addedAt : String) :
    Joined f { f' with
      groups := f'.groups ++ [g]
      members := f'.members ++ [⟨f'.lastGroup + 1, nodeId, addedAt⟩]
      lastGroup := f'.lastGroup + 1 } nodeId (count + 1) where
  nodes_eq := h.nodes_eq
  assignments_eq := h.assignments_eq
  lastGroup_eq := by
    rw [h.lastGroup_eq]
    rfl
  length_groups := by rw [List.length_append, h.length_groups, List.length_singleton]
  members_eq := by
    rw [List.map_append, h.members_eq, List.replicate_succ', List.map_singleton]
  members_le := by
    intro m hm
    rcases List.mem_append.1 hm with hold | hnew
    · have hle := h.members_le m hold
      omega
    · rw [List.mem_singleton.1 hnew, h.lastGroup_eq]
      exact Int.le_refl _

/-- The node is in all groups. -/
theorem length_joined (h : Joined f f' nodeId count) :
    (f'.members.filter (·.nodeId = nodeId)).length = count :=
  length_filter_of_replicate h.members_eq

end Joined

end Fleet

/-- A new group has the number that is given next. -/
theorem Fleet.group?_withGroup (now : Instant) (name : String) (r : CreateGroup) (f : Fleet) :
    ∃ g, (f.withGroup now name r).group? (f.lastGroup + 1) = some g := by
  refine Option.isSome_iff_exists.1
    (List.find?_isSome.2 ⟨newGroup now (f.lastGroup + 1) name r, ?_, ?_⟩)
  · exact List.mem_append_right _ List.mem_cons_self
  · exact decide_eq_true rfl

namespace Panel

/-- A node joins so many new groups. -/
def joining (nodeId : Int) : Nat → List Event
  | 0 => []
  | count + 1 => joining nodeId count ++
      [.ask (.createGroup ⟨0, 0⟩ ⟨"group", "", "", .weighted⟩),
        .ask (.addMember ⟨0, 0⟩ (count + 1) nodeId)]

/-- A node that is there can join any number of groups. -/
theorem after_joining {p : Panel} {nodeId : Int} {n : Node} (hopen : p.isOpen = true)
    (hn : p.fleet.node? nodeId = some n) (hgroups : p.fleet.groups = [])
    (hmembers : p.fleet.members = []) (hlast : p.fleet.lastGroup = 0) (count : Nat) :
    (p.after (joining nodeId count)).isOpen = true ∧
      p.fleet.Joined (p.after (joining nodeId count)).fleet nodeId count := by
  induction count with
  | zero =>
    refine ⟨hopen, rfl, rfl, hlast, congrArg List.length hgroups, congrArg (List.map _) hmembers,
      ?_⟩
    intro m hm
    exact absurd (hmembers ▸ hm) List.not_mem_nil
  | succ count ih =>
    rw [joining, after_append]
    generalize p.after (joining nodeId count) = q at ih
    obtain ⟨hq, hjoined⟩ := ih
    let r : CreateGroup := ⟨"group", "", "", .weighted⟩
    let created : Panel := { q with fleet := q.fleet.withGroup ⟨0, 0⟩ "group" r }
    have hname : Field.name r.name = .ok "group" := by decide +kernel
    have hnode : created.fleet.node? nodeId = some n := by
      rw [← hn]
      exact congrArg (List.find? _) hjoined.nodes_eq
    have hadded := Operation.after_addMember (p := created) hq ⟨0, 0⟩
      (q.fleet.group?_withGroup ⟨0, 0⟩ "group" r) ⟨n, hnode⟩ hjoined.isMember_next
    -- the new group has the number that the node joins next
    have hnext : (count + 1 : Int) = q.fleet.lastGroup + 1 := by rw [hjoined.lastGroup_eq]
    have hafter : q.after [.ask (.createGroup ⟨0, 0⟩ r),
        .ask (.addMember ⟨0, 0⟩ (count + 1) nodeId)] =
        (Operation.addMember ⟨0, 0⟩ (q.fleet.lastGroup + 1) nodeId).after created := by
      have hcreated : (Operation.createGroup ⟨0, 0⟩ r).after q = created :=
        Operation.after_createGroup hq ⟨0, 0⟩ hname
      rw [hnext, ← hcreated]
      rfl
    rw [hafter, hadded]
    exact ⟨hq, hjoined.step _ _⟩

end Panel

/-! ### A group of many nodes -/

namespace Fleet

/-- The tables with so many nodes, which are all in the first group. -/
structure Gathered (f : Fleet) (count : Nat) : Prop where
  group : ∃ g, f.group? 1 = some g
  lastNode_eq : f.lastNode = count
  members_eq : f.members.map (·.groupId) = List.replicate count 1
  members_le : ∀ m ∈ f.members, m.nodeId ≤ count

namespace Gathered

variable {f : Fleet} {count : Nat}

/-- One more node, which is in the group. -/
theorem step (h : Gathered f count) (n : Node) (addedAt : String) :
    Gathered { f with
      nodes := f.nodes ++ [n]
      members := f.members ++ [⟨1, f.lastNode + 1, addedAt⟩]
      lastNode := f.lastNode + 1 } (count + 1) where
  group := h.group
  lastNode_eq := by
    rw [h.lastNode_eq]
    rfl
  members_eq := by
    rw [List.map_append, h.members_eq, List.replicate_succ', List.map_singleton]
  members_le := by
    intro m hm
    rcases List.mem_append.1 hm with hold | hnew
    · have hle := h.members_le m hold
      omega
    · rw [List.mem_singleton.1 hnew, h.lastNode_eq]
      exact Int.le_refl _

/-- The node that comes next is not in the group. -/
theorem isMember_next (h : Gathered f count) : f.isMember 1 (f.lastNode + 1) = false := by
  simp only [isMember, List.any_eq_false, decide_eq_true_eq]
  rintro m hm ⟨-, hnode⟩
  have hle := h.members_le m hm
  rw [h.lastNode_eq] at hnode
  omega

/-- All nodes are in the group. -/
theorem length_joined (h : Gathered f count) : (f.joined 1).length = count :=
  (List.length_map _).trans (length_filter_of_replicate h.members_eq)

end Gathered

/-- A new node has the number that is given next. -/
theorem node?_withNode (now : Instant) (d : NodeDraft) (f : Fleet) :
    ∃ n, (f.withNode now d).node? (f.lastNode + 1) = some n := by
  refine Option.isSome_iff_exists.1
    (List.find?_isSome.2 ⟨d.toNode now (f.lastNode + 1), ?_, ?_⟩)
  · exact List.mem_append_right _ List.mem_cons_self
  · exact decide_eq_true rfl

end Fleet

namespace Panel

/-- So many new nodes join the first group. -/
def gathering : Nat → List Event
  | 0 => [.ask (.createGroup ⟨0, 0⟩ ⟨"group", "", "", .weighted⟩)]
  | count + 1 => gathering count ++
      [.ask (.createNode ⟨0, 0⟩ "" .standard
          ⟨"node", "", some "host", some 443, 1, 0, [], [], .manual, none, none⟩),
        .ask (.addMember ⟨0, 0⟩ 1 (count + 1))]

/-- Any number of nodes can join a group. -/
theorem after_gathering (count : Nat) :
    ((fresh .silent).after (gathering count)).isOpen = true ∧
      ((fresh .silent).after (gathering count)).fleet.Gathered count := by
  induction count with
  | zero =>
    refine ⟨by decide +kernel, Option.isSome_iff_exists.1 (by decide +kernel), by decide +kernel,
      by decide +kernel, ?_⟩
    have hmembers : ((fresh .silent).after (gathering 0)).fleet.members = [] := by decide +kernel
    intro m hm
    exact absurd (hmembers ▸ hm) List.not_mem_nil
  | succ count ih =>
    rw [gathering, after_append]
    generalize (fresh .silent).after (gathering count) = q at ih
    obtain ⟨hq, hgathered⟩ := ih
    let r : CreateNode :=
      ⟨"node", "", some "host", some 443, 1, 0, [], [], .manual, none, none⟩
    obtain ⟨d, hdraft⟩ : ∃ d, r.draft = .ok d := Except.exists_eq_ok (by decide +kernel)
    let created : Panel := { q with fleet := q.fleet.withNode ⟨0, 0⟩ d }
    have hadded := Operation.after_addMember (p := created) hq ⟨0, 0⟩ hgathered.group
      (q.fleet.node?_withNode ⟨0, 0⟩ d) hgathered.isMember_next
    -- the new node has the number that joins the group next
    have hnext : (count + 1 : Int) = q.fleet.lastNode + 1 := by rw [hgathered.lastNode_eq]
    have hafter : q.after [.ask (.createNode ⟨0, 0⟩ "" .standard r),
        .ask (.addMember ⟨0, 0⟩ 1 (count + 1))] =
        (Operation.addMember ⟨0, 0⟩ 1 (q.fleet.lastNode + 1)).after created := by
      have hcreated : (Operation.createNode ⟨0, 0⟩ "" .standard r).after q = created :=
        Operation.after_createNode hq ⟨0, 0⟩ "" .standard hdraft rfl
      rw [hnext, ← hcreated]
      rfl
    rw [hafter, hadded]
    exact ⟨hq, hgathered.step _ _⟩

end Panel

end NodeFleet
