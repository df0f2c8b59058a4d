import NodeFleet.Proofs.NodeRow
import NodeFleet.Proofs.Table

/-!
# Integrity of the tables

`Fleet.Sound` says that the tables belong together: the rows about a node name a node that exists,
memberships name a group that exists, keys are unique, and numbers are given in ascending order.
There is one lemma for each way in which the tables are changed, and from these follows that every
write keeps the tables sound.
-/

namespace NodeFleet.Fleet

/-- The numbers of the nodes. -/
def nodeIds (f : Fleet) : List Int := f.nodes.map (·.id)

/-- The numbers of the groups. -/
def groupIds (f : Fleet) : List Int := f.groups.map (·.id)

/-- Tables whose rows belong together. -/
structure Sound (f : Fleet) : Prop where
  /-- Nodes stand in the order of their numbers, which are distinct. -/
  nodes_ascend : f.nodeIds.Pairwise (· < ·)
  nodes_le : ∀ id ∈ f.nodeIds, id ≤ f.lastNode
  groups_ascend : f.groupIds.Pairwise (· < ·)
  groups_le : ∀ id ∈ f.groupIds, id ≤ f.lastGroup
  /-- A node has one token at most, and no two tokens share a digest. -/
  token_keys : (f.tokens.map (·.nodeId)).Nodup
  token_digests : (f.tokens.map (·.digest)).Nodup
  /-- A node has one installation at most. -/
  install_keys : (f.installs.map (·.nodeId)).Nodup
  /-- A user has one node at most. -/
  assignment_keys : (f.assignments.map (·.userId)).Nodup
  /-- A node is in a group once at most. -/
  member_keys : (f.members.map fun m => (m.groupId, m.nodeId)).Nodup
  token_nodes : ∀ t ∈ f.tokens, t.nodeId ∈ f.nodeIds
  install_nodes : ∀ r ∈ f.installs, r.nodeId ∈ f.nodeIds
  assignment_nodes : ∀ a ∈ f.assignments, a.nodeId ∈ f.nodeIds
  member_nodes : ∀ m ∈ f.members, m.nodeId ∈ f.nodeIds
  member_groups : ∀ m ∈ f.members, m.groupId ∈ f.groupIds

variable {f f' : Fleet} {id : Int}

theorem nodeIds_mapNodes {g : Node → Node} (hg : ∀ n ∈ f.nodes, (g n).id = n.id) :
    ({ f with nodes := f.nodes.map g } : Fleet).nodeIds = f.nodeIds := by
  simp only [nodeIds, List.map_map]
  exact List.map_congr_left hg

theorem nodeIds_updateNode {change : Node → Node}
    (hc : ∀ n ∈ f.nodes, n.id = id → (change n).id = id) :
    (f.updateNode id change).nodeIds = f.nodeIds := by
  apply nodeIds_mapNodes
  intro n hn
  split
  · next hid => rw [hc n hn hid, hid]
  · rfl

theorem node?_mem_nodeIds {n : Node} (h : f.node? id = some n) : id ∈ f.nodeIds := by
  obtain ⟨hn, rfl⟩ := node?_eq_some h
  exact List.mem_map_of_mem hn

theorem group?_mem_groupIds {g : Group} (h : f.group? id = some g) : id ∈ f.groupIds := by
  obtain ⟨hg, rfl⟩ := group?_eq_some h
  exact List.mem_map_of_mem hg

namespace Sound

theorem empty : Sound Fleet.empty := by
  constructor <;> simp [Fleet.empty, nodeIds, groupIds]

/-! ### Nodes and groups -/

/-- A node is told by its number. -/
theorem node_inj (h : Sound f) {n m : Node} (hn : n ∈ f.nodes) (hm : m ∈ f.nodes)
    (hid : n.id = m.id) : n = m :=
  List.inj_on_of_nodup_map (f := Node.id) h.nodes_ascend.nodup hn hm hid

theorem node?_eq (h : Sound f) {n : Node} (hn : n ∈ f.nodes) : f.node? n.id = some n := by
  obtain ⟨m, hfind⟩ := node?_of_mem hn
  obtain ⟨hm, hid⟩ := node?_eq_some hfind
  rw [hfind, h.node_inj hm hn hid]

/-- The next number is not taken. -/
theorem next_not_mem (h : Sound f) : f.lastNode + 1 ∉ f.nodeIds := by
  intro hmem
  have := h.nodes_le _ hmem
  omega

/-- Changing rows of nodes without their numbers. -/
theorem mapNodes (h : Sound f) {g : Node → Node} (hg : ∀ n ∈ f.nodes, (g n).id = n.id) :
    Sound { f with nodes := f.nodes.map g } := by
  have hids := nodeIds_mapNodes hg
  exact { h with
    nodes_ascend := hids ▸ h.nodes_ascend
    nodes_le := hids ▸ h.nodes_le
    token_nodes := hids ▸ h.token_nodes
    install_nodes := hids ▸ h.install_nodes
    assignment_nodes := hids ▸ h.assignment_nodes
    member_nodes := hids ▸ h.member_nodes }

theorem updateNode (h : Sound f) {change : Node → Node}
    (hc : ∀ n ∈ f.nodes, n.id = id → (change n).id = id) : Sound (f.updateNode id change) := by
  refine h.mapNodes fun n hn => ?_
  split
  · next hid => rw [hc n hn hid, hid]
  · rfl

/-- A new node has the next number. -/
theorem withNode (h : Sound f) {now : Instant} {d : NodeDraft} : Sound (f.withNode now d) := by
  have hids : (f.withNode now d).nodeIds = f.nodeIds ++ [f.lastNode + 1] := List.map_append
  have hgrow (i : Int) (hi : i ∈ f.nodeIds) : i ∈ f.nodeIds ++ [f.lastNode + 1] :=
    List.mem_append_left _ hi
  have hnext := pairwise_append_next h.nodes_ascend h.nodes_le
  exact { h with
    nodes_ascend := hids ▸ hnext.1
    nodes_le := hids ▸ hnext.2
    token_nodes := fun t ht => hids ▸ hgrow _ (h.token_nodes t ht)
    install_nodes := fun r hr => hids ▸ hgrow _ (h.install_nodes r hr)
    assignment_nodes := fun a ha => hids ▸ hgrow _ (h.assignment_nodes a ha)
    member_nodes := fun m hm => hids ▸ hgrow _ (h.member_nodes m hm) }

/-- Rows about other nodes name a node that stays. -/
theorem mem_nodeIds_withoutNode {i : Int} :
    i ∈ (f.withoutNode id).nodeIds ↔ i ∈ f.nodeIds ∧ i ≠ id := by
  simp only [nodeIds, withoutNode, List.mem_map, List.mem_filter, decide_eq_true_eq]
  constructor
  · rintro ⟨n, ⟨hn, hne⟩, rfl⟩
    exact ⟨⟨n, hn, rfl⟩, hne⟩
  · rintro ⟨⟨n, hn, rfl⟩, hne⟩
    exact ⟨n, ⟨hn, hne⟩, rfl⟩

/-- The rows about a node go with it. -/
theorem withoutNode (h : Sound f) : Sound (f.withoutNode id) := by
  have hsub : (f.withoutNode id).nodeIds.Sublist f.nodeIds := List.filter_sublist.map _
  have hstay {α : Type} {key : α → Int} {rows : List α} (hrows : ∀ r ∈ rows, key r ∈ f.nodeIds) :
      ∀ r ∈ rows.filter (key · ≠ id), key r ∈ (f.withoutNode id).nodeIds := by
    intro r hr
    simp only [List.mem_filter, decide_eq_true_eq] at hr
    exact mem_nodeIds_withoutNode.2 ⟨hrows r hr.1, hr.2⟩
  exact { h with
    nodes_ascend := h.nodes_ascend.sublist hsub
    nodes_le := fun i hi => h.nodes_le i (hsub.subset hi)
    token_keys := h.token_keys.sublist (List.filter_sublist.map _)
    token_digests := h.token_digests.sublist (List.filter_sublist.map _)
    install_keys := h.install_keys.sublist (List.filter_sublist.map _)
    assignment_keys := h.assignment_keys.sublist (List.filter_sublist.map _)
    member_keys := h.member_keys.sublist (List.filter_sublist.map _)
    token_nodes := hstay h.token_nodes
    install_nodes := hstay h.install_nodes
    assignment_nodes := hstay h.assignment_nodes
    member_nodes := hstay h.member_nodes
    member_groups := fun m hm => h.member_groups m (List.mem_filter.1 hm).1 }

theorem updateGroup (h : Sound f) {change : Group → Group}
    (hc : ∀ g ∈ f.groups, g.id = id → (change g).id = id) : Sound (f.updateGroup id change) := by
  have hids : (f.updateGroup id change).groupIds = f.groupIds := by
    simp only [groupIds, Fleet.updateGroup, List.map_map]
    refine List.map_congr_left fun g hg => ?_
    simp only [Function.comp_apply]
    split
    · next hid => rw [hc g hg hid, hid]
    · rfl
  exact { h with
    groups_ascend := hids ▸ h.groups_ascend
    groups_le := hids ▸ h.groups_le
    member_groups := hids ▸ h.member_groups }

/-- A new group has the next number. -/
theorem withGroup (h : Sound f) {now : Instant} {name : String} {r : CreateGroup} :
    Sound (f.withGroup now name r) := by
  have hids : (f.withGroup now name r).groupIds = f.groupIds ++ [f.lastGroup + 1] :=
    List.map_append
  have hnext := pairwise_append_next h.groups_ascend h.groups_le
  exact { h with
    groups_ascend := hids ▸ hnext.1
    groups_le := hids ▸ hnext.2
    member_groups := fun m hm => hids ▸ List.mem_append_left _ (h.member_groups m hm) }

/-- The memberships of a group go with it. -/
theorem withoutGroup (h : Sound f) : Sound (f.withoutGroup id) := by
  have hsub : (f.withoutGroup id).groupIds.Sublist f.groupIds := List.filter_sublist.map _
  refine { h with
    groups_ascend := h.groups_ascend.sublist hsub
    groups_le := fun i hi => h.groups_le i (hsub.subset hi)
    member_keys := h.member_keys.sublist (List.filter_sublist.map _)
    member_nodes := fun m hm => h.member_nodes m (List.mem_filter.1 hm).1
    member_groups := ?_ }
  intro m hm
  simp only [Fleet.withoutGroup, List.mem_filter, decide_eq_true_eq] at hm
  obtain ⟨g, hg, hgid⟩ := List.mem_map.1 (h.member_groups m hm.1)
  refine List.mem_map.2 ⟨g, ?_, hgid⟩
  simp only [Fleet.withoutGroup, List.mem_filter, decide_eq_true_eq]
  exact ⟨hg, hgid ▸ hm.2⟩

/-! ### Tokens and installations -/

/-- A token is told by its digest. -/
theorem token_inj (h : Sound f) {t u : Token} (ht : t ∈ f.tokens) (hu : u ∈ f.tokens)
    (hd : t.digest = u.digest) : t = u :=
  List.inj_on_of_nodup_map (f := Token.digest) h.token_digests ht hu hd

theorem putToken (h : Sound f) {token : Token} (hnode : token.nodeId ∈ f.nodeIds)
    (hdigest : ∀ t ∈ f.tokens, t.digest = token.digest → t.nodeId = token.nodeId) :
    Sound (f.putToken token) := by
  refine { h with
    token_keys := nodup_map_upsert h.token_keys
    token_digests := ?_
    token_nodes := ?_ }
  · -- the tokens of the other nodes have other digests
    refine ((upsert_perm h.token_keys).map Token.digest).nodup_iff.2 ?_
    rw [List.map_cons, List.nodup_cons]
    refine ⟨?_, h.token_digests.sublist (List.filter_sublist.map _)⟩
    simp only [List.mem_map, List.mem_filter, decide_eq_true_eq, not_exists, not_and]
    rintro t ⟨ht, hne⟩ hd
    exact hne (hdigest t ht hd)
  · intro t ht
    rcases mem_upsert.1 ht with rfl | ⟨ht, -⟩
    · exact hnode
    · exact h.token_nodes t ht

/-- Changing the valid token of a node to one whose digest no other node has. -/
theorem updateValidToken (h : Sound f) {change : Token → Token}
    (hkey : ∀ t, (change t).nodeId = t.nodeId)
    (hdigest : ∀ t ∈ f.tokens, t.nodeId = id →
      ∀ u ∈ f.tokens, u.digest = (change t).digest → u.nodeId = id) :
    Sound (f.updateValidToken id change) := by
  let g (t : Token) : Token := if t.nodeId = id ∧ t.revokedAt = none then change t else t
  have hg (t : Token) : (g t).nodeId = t.nodeId := by
    dsimp only [g]
    split
    · exact hkey t
    · rfl
  have hkeys : (f.tokens.map g).map (·.nodeId) = f.tokens.map (·.nodeId) := by
    rw [List.map_map]
    exact List.map_congr_left fun t _ => hg t
  refine { h with
    token_keys := ?_
    token_digests := ?_
    token_nodes := ?_ }
  · change ((f.tokens.map g).map (·.nodeId)).Nodup
    exact hkeys ▸ h.token_keys
  · change ((f.tokens.map g).map (·.digest)).Nodup
    have hboth := (List.pairwise_map.1 h.token_keys).and (List.pairwise_map.1 h.token_digests)
    rw [List.map_map]
    refine List.pairwise_map.2 (hboth.imp_of_mem ?_)
    rintro t u ht hu ⟨hid, hd⟩
    simp only [Function.comp_apply, g]
    -- of two tokens, the node has one at most
    split
    · next hct =>
      rw [if_neg fun hcu => hid (hct.1.trans hcu.1.symm)]
      intro he
      exact hid (hct.1.trans (hdigest t ht hct.1 u hu he.symm).symm)
    · split
      · next hcu =>
        intro he
        exact hid ((hdigest u hu hcu.1 t ht he).trans hcu.1.symm)
      · exact hd
  · intro t ht
    obtain ⟨u, hu, rfl⟩ := List.mem_map.1 ht
    change (g u).nodeId ∈ f.nodeIds
    rw [hg]
    exact h.token_nodes u hu

theorem putInstall (h : Sound f) {record : InstallRecord} (hnode : record.nodeId ∈ f.nodeIds) :
    Sound (f.putInstall record) := by
  refine { h with
    install_keys := nodup_map_upsert h.install_keys
    install_nodes := ?_ }
  intro r hr
  rcases mem_upsert.1 hr with rfl | ⟨hr, -⟩
  · exact hnode
  · exact h.install_nodes r hr

/-! ### Assignments and memberships -/

theorem putAssignment (h : Sound f) {a : Assignment} (hnode : a.nodeId ∈ f.nodeIds) :
    Sound (f.putAssignment a) := by
  refine { h with
    assignment_keys := nodup_map_upsert h.assignment_keys
    assignment_nodes := ?_ }
  intro b hb
  rcases mem_upsert.1 hb with rfl | ⟨hb, -⟩
  · exact hnode
  · exact h.assignment_nodes b hb

theorem filterAssignments (h : Sound f) {p : Assignment → Bool} :
    Sound { f with assignments := f.assignments.filter p } :=
  { h with
    assignment_keys := h.assignment_keys.sublist (List.filter_sublist.map _)
    assignment_nodes := fun a ha => h.assignment_nodes a (List.mem_filter.1 ha).1 }

theorem addMember (h : Sound f) {m : Membership} (hgroup : m.groupId ∈ f.groupIds)
    (hnode : m.nodeId ∈ f.nodeIds) (hnew : f.isMember m.groupId m.nodeId = false) :
    Sound { f with members := f.members ++ [m] } := by
  refine { h with
    member_keys := ?_
    member_nodes := ?_
    member_groups := ?_ }
  · rw [List.map_append, List.nodup_append]
    refine ⟨h.member_keys, by simp, ?_⟩
    intro k hk k' hk' he
    obtain ⟨x, hx, rfl⟩ := List.mem_map.1 hk
    simp only [List.map_cons, List.map_nil, List.mem_singleton] at hk'
    subst hk'
    simp only [Prod.mk.injEq] at he
    simp only [isMember, List.any_eq_false, decide_eq_true_eq] at hnew
    exact hnew x hx he
  · intro x hx
    rcases List.mem_append.1 hx with hx | hx
    · exact h.member_nodes x hx
    · exact List.mem_singleton.1 hx ▸ hnode
  · intro x hx
    rcases List.mem_append.1 hx with hx | hx
    · exact h.member_groups x hx
    · exact List.mem_singleton.1 hx ▸ hgroup

theorem filterMembers (h : Sound f) {p : Membership → Bool} :
    Sound { f with members := f.members.filter p } :=
  { h with
    member_keys := h.member_keys.sublist (List.filter_sublist.map _)
    member_nodes := fun m hm => h.member_nodes m (List.mem_filter.1 hm).1
    member_groups := fun m hm => h.member_groups m (List.mem_filter.1 hm).1 }

end Sound

theorem patchGroup_id {now : Instant} {patch : GroupPatch} {g g' : Group}
    (h : patchGroup patch now g = .ok g') : g'.id = g.id := by
  unfold patchGroup at h
  split at h
  · obtain ⟨name, -, h⟩ := Except.bind_eq_ok.1 h
    cases h
    rfl
  · cases h
    rfl

/-- Every write keeps the tables sound. -/
theorem Write.sound {d : Deed} (h : Write d f f') (hf : Sound f) : Sound f' := by
  cases h with
  | same => exact hf
  | createNode => exact hf.withNode
  | updateNode hn hpatch =>
    refine hf.updateNode fun _ _ _ => ?_
    rw [patchNode_id hpatch, (node?_eq_some hn).2]
  | setEnabled => exact hf.updateNode fun _ _ hid => hid
  | deleteNode => exact hf.withoutNode
  | install hn hdigest hr =>
    -- storing the token and the account leaves the numbers of the nodes
    have hid := node?_mem_nodeIds hn
    refine Sound.updateNode (Sound.putInstall (hf.putToken hid hdigest) ?_) fun _ _ hid => ?_
    · rw [hr]
      exact hid
    · exact noteInstall_id.trans hid
  | refusedInstall hn hdigest | issueToken hn hdigest =>
    exact hf.putToken (node?_mem_nodeIds hn) hdigest
  | rotateToken hdigest => exact hf.updateValidToken (fun _ => rfl) fun _ _ _ => hdigest
  | revokeToken =>
    refine hf.updateValidToken (fun _ => rfl) fun t ht hid u hu hd => ?_
    rw [hf.token_inj hu ht hd, hid]
  | createGroup => exact hf.withGroup
  | updateGroup hg hpatch =>
    refine hf.updateGroup fun _ _ _ => ?_
    rw [patchGroup_id hpatch, (group?_eq_some hg).2]
  | deleteGroup => exact hf.withoutGroup
  | addMember hg hn hnew =>
    exact hf.addMember (group?_mem_groupIds hg) (node?_mem_nodeIds hn) hnew
  | removeMember => exact hf.filterMembers
  | assign hn => exact hf.putAssignment (node?_mem_nodeIds hn)
  | unassign => exact hf.filterAssignments
  | heartbeat => exact hf.updateNode fun _ _ hid => hid
  | evaluate =>
    refine hf.mapNodes fun n _ => ?_
    split
    · rfl
    · rfl

theorem Writes.sound {D : Deed → Prop} (h : Writes D f f') (hf : Sound f) : Sound f' :=
  h.keep (fun _ _ _ _ hw hs => hw.sound hs) hf

end NodeFleet.Fleet
