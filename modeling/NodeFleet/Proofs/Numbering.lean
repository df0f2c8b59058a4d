import NodeFleet.Proofs.Run

/-!
# Numbers of nodes and groups

Numbers are given in ascending order and never twice. `Fleet.Follows` is what a write says about
numbers; it composes, so it holds between any two states of a run.
-/

namespace NodeFleet

namespace Fleet

/-- Tables that come after others: a number that is taken was taken before, or is a later one. -/
structure Follows (f f' : Fleet) : Prop where
  lastNode_le : f.lastNode ≤ f'.lastNode
  lastGroup_le : f.lastGroup ≤ f'.lastGroup
  nodes : ∀ id ∈ f'.nodeIds, id ∈ f.nodeIds ∨ f.lastNode < id
  groups : ∀ id ∈ f'.groupIds, id ∈ f.groupIds ∨ f.lastGroup < id

namespace Follows

variable {f g h : Fleet}

theorem refl (f : Fleet) : Follows f f :=
  ⟨Int.le_refl _, Int.le_refl _, fun _ hid => .inl hid, fun _ hid => .inl hid⟩

theorem trans (hfg : Follows f g) (hgh : Follows g h) : Follows f h where
  lastNode_le := Int.le_trans hfg.lastNode_le hgh.lastNode_le
  lastGroup_le := Int.le_trans hfg.lastGroup_le hgh.lastGroup_le
  nodes := by
    intro id hid
    rcases hgh.nodes id hid with hid | hlt
    · exact hfg.nodes id hid
    · exact .inr (Int.lt_of_le_of_lt hfg.lastNode_le hlt)
  groups := by
    intro id hid
    rcases hgh.groups id hid with hid | hlt
    · exact hfg.groups id hid
    · exact .inr (Int.lt_of_le_of_lt hfg.lastGroup_le hlt)

end Follows

namespace Write

variable {f f' : Fleet} {d : Deed}

/-- A node after a write was there before, or it is new. -/
theorem mem_nodeIds (h : Write d f f') : ∀ id ∈ f'.nodeIds, id ∈ f.nodeIds ∨ f.lastNode < id := by
  intro id hid
  obtain ⟨n, hn, rfl⟩ := List.mem_map.1 hid
  cases h.rowFrom hn with
  | step hm hstep =>
    rw [hstep.id_eq]
    exact .inl (List.mem_map_of_mem hm)
  | new _ => exact .inr (Int.lt_succ _)

/-- A node stays unless it is deleted. -/
theorem mem_nodeIds_of_mem (h : Write d f f') {id : Int} (hd : d ≠ .deleteNode id)
    (hid : id ∈ f.nodeIds) : id ∈ f'.nodeIds := by
  cases h with
  | createNode =>
    unfold withNode nodeIds
    rw [List.map_append]
    exact List.mem_append_left _ hid
  | updateNode hn hpatch =>
    rwa [nodeIds_updateNode]
    intro _ _ _
    rw [patchNode_id hpatch, (node?_eq_some hn).2]
  | setEnabled | heartbeat =>
    rwa [nodeIds_updateNode]
    exact fun _ _ h => h
  | deleteNode =>
    refine Sound.mem_nodeIds_withoutNode.2 ⟨hid, ?_⟩
    rintro rfl
    exact hd rfl
  | install =>
    rw [nodeIds_updateNode]
    · exact hid
    · exact fun _ _ h => noteInstall_id.trans h
  | evaluate =>
    rwa [nodeIds_mapNodes]
    intro n _
    split
    · rfl
    · rfl
  | same | refusedInstall | issueToken | rotateToken | revokeToken | createGroup | updateGroup
  | deleteGroup | addMember | removeMember | assign | unassign => exact hid

/-- A group after a write was there before, or it is new. -/
theorem mem_groupIds (h : Write d f f') :
    ∀ id ∈ f'.groupIds, id ∈ f.groupIds ∨ f.lastGroup < id := by
  intro id hid
  obtain ⟨g', hg', rfl⟩ := List.mem_map.1 hid
  cases h with
  | createGroup =>
    rcases List.mem_append.1 hg' with hg' | hg'
    · exact .inl (List.mem_map_of_mem hg')
    · obtain rfl := List.mem_singleton.1 hg'
      exact .inr (Int.lt_succ _)
  | updateGroup hg hpatch =>
    obtain ⟨m, hm, rfl⟩ := List.mem_map.1 hg'
    split
    · rw [patchGroup_id hpatch]
      exact .inl (List.mem_map_of_mem (group?_eq_some hg).1)
    · exact .inl (List.mem_map_of_mem hm)
  | deleteGroup => exact .inl (List.mem_map_of_mem (List.mem_filter.1 hg').1)
  | same | createNode | updateNode | setEnabled | deleteNode | install | refusedInstall | issueToken
  | rotateToken | revokeToken | addMember | removeMember | assign | unassign | heartbeat
  | evaluate =>
    exact .inl hid

theorem lastNode_le (h : Write d f f') : f.lastNode ≤ f'.lastNode := by
  cases h with
  | createNode => exact Int.le_of_lt (Int.lt_succ _)
  | same | updateNode | setEnabled | deleteNode | install | refusedInstall | issueToken
  | rotateToken | revokeToken | createGroup | updateGroup | deleteGroup | addMember | removeMember
  | assign | unassign | heartbeat | evaluate => exact Int.le_refl _

theorem lastGroup_le (h : Write d f f') : f.lastGroup ≤ f'.lastGroup := by
  cases h with
  | createGroup => exact Int.le_of_lt (Int.lt_succ _)
  | same | createNode | updateNode | setEnabled | deleteNode | install | refusedInstall | issueToken
  | rotateToken | revokeToken | updateGroup | deleteGroup | addMember | removeMember | assign
  | unassign | heartbeat | evaluate => exact Int.le_refl _

theorem follows (h : Write d f f') : Follows f f' :=
  ⟨h.lastNode_le, h.lastGroup_le, h.mem_nodeIds, h.mem_groupIds⟩

end Write

theorem Writes.follows {D : Deed → Prop} {f f' : Fleet} (h : Writes D f f') : Follows f f' :=
  h.relate Follows.refl Follows.trans fun _ _ _ _ hw => hw.follows

end Fleet

/-! ### New numbers -/

theorem Fleet.getGroup_id {f : Fleet} {id : Int} {view : GroupView}
    (h : getGroup id f = .ok view) : view.group.id = id := by
  unfold getGroup at h
  cases hg : findGroup id f with
  | error e =>
    rw [hg] at h
    cases h
  | ok g =>
    rw [hg] at h
    cases h
    exact (group?_eq_some (findGroup_eq_ok.1 hg)).2

/-- The number of the node that an answer presents as new. -/
def Operation.newNode {α : Type} : Operation α → α → Option Int
  | createNode .., created => some created.view.node.id
  | _, _ => none

/-- The number of the group that an answer presents as new. -/
def Operation.newGroup {α : Type} : Operation α → α → Option Int
  | createGroup .., view => some view.group.id
  | _, _ => none

namespace Event

theorem follows (e : Event) (p : Panel) : Fleet.Follows p.fleet (e.after p).fleet :=
  (e.writes p).follows

/-- A new node has a number above the last one. -/
theorem newNode_eq_some {e : Event} {p : Panel} {id : Int}
    (h : e.brings Operation.newNode p = some id) :
    p.fleet.lastNode < id ∧ id ≤ (e.after p).fleet.lastNode := by
  cases e with
  | world isOpen shell => cases h
  | ask op =>
    obtain ⟨answer, hanswer, hid⟩ := brings_ask_eq_some.1 h
    rw [after_ask]
    cases op with
    | createNode now token config r =>
      cases hid
      rcases Action.on_createNode_cases now token config r p with
        ⟨e, hon⟩ | ⟨d, -, -, ⟨view, hid, hon⟩ | ⟨target, url, ⟨e, q, -, hon⟩ |
          ⟨result, view, p', hinstall, hid, hon⟩⟩⟩
      · cases hon.symm.trans hanswer
      · obtain ⟨hview, hafter⟩ := Prod.mk.inj (hon.symm.trans hanswer)
        cases hview
        rw [← hafter, hid]
        exact ⟨Int.lt_succ _, Int.le_refl _⟩
      · cases hon.symm.trans hanswer
      · obtain ⟨hview, hafter⟩ := Prod.mk.inj (hon.symm.trans hanswer)
        cases hview
        rw [← hafter, hid]
        refine ⟨Int.lt_succ _, ?_⟩
        -- the installation does not take numbers back
        have hw : Fleet.Writes (fun _ => True) (p.fleet.withNode now d) p'.fleet :=
          Action.Writes.of_on (Action.writes_installNode trivial) hinstall
        exact hw.follows.lastNode_le
    | _ => cases hid

/-- A new group has a number above the last one. -/
theorem newGroup_eq_some {e : Event} {p : Panel} {id : Int}
    (h : e.brings Operation.newGroup p = some id) :
    p.fleet.lastGroup < id ∧ id ≤ (e.after p).fleet.lastGroup := by
  cases e with
  | world isOpen shell => cases h
  | ask op =>
    obtain ⟨answer, hanswer, hid⟩ := brings_ask_eq_some.1 h
    rw [after_ask]
    cases op with
    | createGroup now r =>
      cases hid
      simp only [Operation.run, Action.createGroup, Action.on_bind_eq_ok, Action.on_check,
        Action.on_transact_eq_ok, Action.on_read_eq_ok, Fleet.insertGroup_eq_ok,
        Prod.mk.injEq] at hanswer
      obtain ⟨name, _, ⟨-, rfl⟩, _, _, ⟨-, f, ⟨rfl, rfl⟩, rfl⟩, -, hview, hafter⟩ := hanswer
      rw [← hafter, Fleet.getGroup_id hview]
      exact ⟨Int.lt_succ _, Int.le_refl _⟩
    | _ => cases hid

end Event

namespace Panel

theorem follows_after (p : Panel) (run : List Event) :
    Fleet.Follows p.fleet (p.after run).fleet :=
  (p.writes_after run).follows

/-- Numbers that are above the last one, and up to the last one afterwards, come in ascending
order. -/
theorem pairwise_collect (last : Panel → Int) (bring : Event → Panel → Option Int)
    (hlast : ∀ (e : Event) (p : Panel), last p ≤ last (e.after p))
    (hbring : ∀ {e : Event} {p : Panel} {id : Int}, bring e p = some id →
      last p < id ∧ id ≤ last (e.after p)) (p : Panel) (run : List Event) :
    (p.collect bring run).Pairwise (· < ·) ∧ ∀ id ∈ p.collect bring run, last p < id := by
  induction run generalizing p with
  | nil => simp [collect]
  | cons e run ih =>
    obtain ⟨hpairwise, hlt⟩ := ih (e.after p)
    have hlater (id : Int) (hid : id ∈ (e.after p).collect bring run) : last p < id :=
      Int.lt_of_le_of_lt (hlast e p) (hlt id hid)
    unfold collect
    cases hnew : bring e p with
    | none => exact ⟨hpairwise, hlater⟩
    | some new =>
      obtain ⟨hgt, hle⟩ := hbring hnew
      simp only [Option.toList_some, List.singleton_append, List.pairwise_cons, List.mem_cons,
        forall_eq_or_imp]
      exact ⟨⟨fun id hid => Int.lt_of_le_of_lt hle (hlt id hid), hpairwise⟩, hgt, hlater⟩

/-- Any number of operations, in any order and with any arguments, leave the tables sound. The
numbers that new nodes are presented with ascend, so do those of new groups, and a number that has
named a node or a group, and does so no more, never names one again. -/
theorem integrity_after (shell : Shell) (run : List Event) :
    ((fresh shell).after run).fleet.Sound ∧
    ((fresh shell).collect (Event.brings Operation.newNode) run).Pairwise (· < ·) ∧
    ((fresh shell).collect (Event.brings Operation.newGroup) run).Pairwise (· < ·) ∧
    ∀ first second third, run = first ++ second ++ third →
      let f (beginning : List Event) : Fleet := ((fresh shell).after beginning).fleet
      (∀ id ∈ (f first).nodeIds, id ∉ (f (first ++ second)).nodeIds → id ∉ (f run).nodeIds) ∧
      (∀ id ∈ (f first).groupIds, id ∉ (f (first ++ second)).groupIds →
        id ∉ (f run).groupIds) := by
  refine ⟨sound_fresh shell run, ?_, ?_, ?_⟩
  · exact (pairwise_collect (·.fleet.lastNode) (Event.brings Operation.newNode)
      (fun e p => (e.follows p).lastNode_le) Event.newNode_eq_some _ run).1
  · exact (pairwise_collect (·.fleet.lastGroup) (Event.brings Operation.newGroup)
      (fun e p => (e.follows p).lastGroup_le) Event.newGroup_eq_some _ run).1
  · rintro first second third rfl
    have hsound := sound_fresh shell first
    have hsecond := ((fresh shell).after first).follows_after second
    have hthird := ((fresh shell).after (first ++ second)).follows_after third
    rw [← after_append] at hsecond hthird
    constructor
    · intro id hfirst hgone hagain
      rcases hthird.nodes id hagain with hid | hlt
      · exact hgone hid
      · have := hsound.nodes_le id hfirst
        have := hsecond.lastNode_le
        omega
    · intro id hfirst hgone hagain
      rcases hthird.groups id hagain with hid | hlt
      · exact hgone hid
      · have := hsound.groups_le id hfirst
        have := hsecond.lastGroup_le
        omega

/-- The number of a deleted node is not given to the next one, nor is that of a deleted group. -/
theorem integrity_after_deleted :
    let now : Instant := ⟨0, 0⟩
    let node : Event := .ask (.createNode now "" .standard
      ⟨"node", "", some "host", some 443, 1, 0, [], [], .manual, none, none⟩)
    let group : Event := .ask (.createGroup now ⟨"group", "", "", .weighted⟩)
    let p := (fresh .silent).after
      ([node, group] ++ [.ask (.deleteNode 1), .ask (.deleteGroup 1)] ++ [node, group])
    p.fleet.nodeIds.length = 1 ∧ 1 ∉ p.fleet.nodeIds ∧
      p.fleet.groupIds.length = 1 ∧ 1 ∉ p.fleet.groupIds := by
  intro now node group p
  obtain ⟨-, -, -, hgone⟩ := integrity_after .silent
    ([node, group] ++ [.ask (.deleteNode 1), .ask (.deleteGroup 1)] ++ [node, group])
  obtain ⟨hnodes, hgroups⟩ := hgone _ _ _ rfl
  exact ⟨by decide +kernel, hnodes 1 (by decide +kernel) (by decide +kernel), by decide +kernel,
    hgroups 1 (by decide +kernel) (by decide +kernel)⟩

end Panel

end NodeFleet
