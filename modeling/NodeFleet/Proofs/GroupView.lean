import Mathlib.Data.List.Sort
import NodeFleet.Proofs.Census

/-!
# Groups as they are shown

All groups are put together from one reading of the tables, in which the list of members of a group
is taken out of a table of lists as the group is met. `Fleet.groupView` is a group looked at by
itself. The two agree, since a group has one row; the figures of a group are those of its nodes as
each is shown.
-/

namespace NodeFleet

/-! ### Numbers in order -/

theorem sortNumbers_eq_insertionSort (ns : List Int) :
    sortNumbers ns = ns.insertionSort (· ≤ ·) := by
  have hinsert (n : Int) (ms : List Int) : insertNumber n ms = ms.orderedInsert (· ≤ ·) n := by
    induction ms with
    | nil => rfl
    | cons m ms ih => rw [insertNumber, ih, List.orderedInsert_cons]
  induction ns with
  | nil => rfl
  | cons n ns ih =>
    change insertNumber n (sortNumbers ns) = _
    rw [ih, hinsert, List.insertionSort_cons]

theorem mem_sortNumbers {n : Int} {ns : List Int} : n ∈ sortNumbers ns ↔ n ∈ ns := by
  rw [sortNumbers_eq_insertionSort]
  exact (List.perm_insertionSort _ ns).mem_iff

theorem pairwise_sortNumbers {ns : List Int} (h : ns.Nodup) :
    (sortNumbers ns).Pairwise (· < ·) := by
  rw [sortNumbers_eq_insertionSort]
  have hnodup := (List.perm_insertionSort (· ≤ ·) ns).nodup_iff.2 h
  have hle := List.pairwise_insertionSort (· ≤ ·) ns
  refine (hle.and hnodup).imp ?_
  rintro m n ⟨hmn, hne⟩
  exact lt_of_le_of_ne hmn hne

/-! ### The table of lists -/

namespace Rolls

theorem of_cons (id : Int) (members : List Int) (rolls : Rolls) (groupId : Int) :
    Rolls.of ((id, members) :: rolls) groupId =
      if groupId = id then members else rolls.of groupId := by
  unfold Rolls.of
  by_cases h : groupId = id
  · simp [h]
  · have hne : (groupId == id) = false := by simpa using h
    rw [List.lookup_cons, hne, if_neg h]

theorem of_enter (rolls : Rolls) (m : Membership) (groupId : Int) :
    (rolls.enter m).of groupId =
      rolls.of groupId ++ if m.groupId = groupId then [m.nodeId] else [] := by
  induction rolls with
  | nil =>
    have hnil : Rolls.of [] groupId = [] := rfl
    rw [enter, of_cons, hnil, List.nil_append]
    by_cases h : m.groupId = groupId
    · rw [if_pos h.symm, if_pos h]
    · rw [if_neg (Ne.symm h), if_neg h]
  | cons roll rest ih =>
    obtain ⟨id, members⟩ := roll
    rw [enter]
    by_cases hid : id = m.groupId
    · subst hid
      rw [if_pos rfl, of_cons, of_cons]
      by_cases h : groupId = m.groupId
      · rw [if_pos h, if_pos h, if_pos h.symm]
      · rw [if_neg h, if_neg h, if_neg (Ne.symm h), List.append_nil]
    · rw [if_neg hid, of_cons, of_cons, ih]
      by_cases h : groupId = id
      · have hne : m.groupId ≠ groupId := by
          intro he
          exact hid (h.symm.trans he.symm)
        rw [if_pos h, if_pos h, if_neg hne, List.append_nil]
      · rw [if_neg h, if_neg h]

/-- The list of a group has its members in the order in which they were entered. -/
theorem of_foldl_enter (members : List Membership) (rolls : Rolls) (groupId : Int) :
    (members.foldl enter rolls).of groupId =
      rolls.of groupId ++ (members.filter (·.groupId = groupId)).map (·.nodeId) := by
  induction members generalizing rolls with
  | nil => simp
  | cons m members ih =>
    rw [List.foldl_cons, ih, of_enter, List.append_assoc]
    by_cases h : m.groupId = groupId
    · simp [h]
    · simp [h]

theorem of_without (rolls : Rolls) {groupId other : Int} (h : groupId ≠ other) :
    (rolls.without other).of groupId = rolls.of groupId := by
  induction rolls with
  | nil => rfl
  | cons roll rest ih =>
    obtain ⟨id, members⟩ := roll
    unfold without at ih ⊢
    by_cases hid : id = other
    · have hne : groupId ≠ id := by rwa [hid]
      rw [List.filter_cons_of_neg (by simpa using hid), ih, of_cons, if_neg hne]
    · rw [List.filter_cons_of_pos (by simpa using hid), of_cons, of_cons, ih]

end Rolls

namespace Fleet

variable {f : Fleet} {id n : Int}

/-- The nodes of a group, in the order in which they joined it. -/
def joined (f : Fleet) (groupId : Int) : List Int :=
  (f.members.filter (·.groupId = groupId)).map (·.nodeId)

theorem isMember_eq_true {groupId nodeId : Int} :
    f.isMember groupId nodeId = true ↔
      ∃ m ∈ f.members, m.groupId = groupId ∧ m.nodeId = nodeId := by
  simp only [isMember, List.any_eq_true, decide_eq_true_eq]

theorem mem_joined {groupId nodeId : Int} :
    nodeId ∈ f.joined groupId ↔ f.isMember groupId nodeId = true := by
  simp only [isMember_eq_true, joined, List.mem_map, List.mem_filter, decide_eq_true_eq]
  constructor
  · rintro ⟨m, ⟨hm, hgroup⟩, hnode⟩
    exact ⟨m, hm, hgroup, hnode⟩
  · rintro ⟨m, hm, hgroup, hnode⟩
    exact ⟨m, ⟨hm, hgroup⟩, hnode⟩

/-- Only the memberships of the groups that are asked for are read. -/
theorem of_rolls {groupIds : List Int} {groupId : Int} (h : groupId ∈ groupIds) :
    (f.rolls groupIds).of groupId = f.joined groupId := by
  have hnil : Rolls.of [] groupId = [] := rfl
  rw [rolls, Rolls.of_foldl_enter, hnil, List.nil_append, List.filter_filter, joined]
  congr 1
  apply List.filter_congr
  intro m _
  by_cases hm : m.groupId = groupId
  · simp [hm, h]
  · simp [hm]

/-! ### One group by itself -/

/-- A group as it is shown, looked at by itself. -/
def groupView (f : Fleet) (g : Group) : GroupView :=
  let ids := sortNumbers (f.joined g.id)
  ⟨g, ids, .of (ids.filterMap f.node?) f.userCounts⟩

theorem mem_nodeIds_groupView {g : Group} :
    n ∈ (f.groupView g).nodeIds ↔ f.isMember g.id n = true := by
  change n ∈ sortNumbers (f.joined g.id) ↔ _
  rw [mem_sortNumbers, mem_joined]

/-- Taking the list of one group out leaves those of the groups that follow. -/
theorem viewsFrom_eq {groups : List Group} (hids : (groups.map (·.id)).Nodup) {rolls : Rolls}
    (hrolls : ∀ g ∈ groups, rolls.of g.id = f.joined g.id) :
    f.viewsFrom f.userCounts groups rolls = groups.map f.groupView := by
  induction groups generalizing rolls with
  | nil => rfl
  | cons g groups ih =>
    rw [List.map_cons, List.nodup_cons] at hids
    obtain ⟨hg, hids⟩ := hids
    have hrest : ∀ g' ∈ groups, (rolls.without g.id).of g'.id = f.joined g'.id := by
      intro g' hg'
      have hne : g'.id ≠ g.id := by
        intro he
        exact hg (he ▸ List.mem_map_of_mem hg')
      rw [rolls.of_without hne]
      exact hrolls g' (List.mem_cons_of_mem _ hg')
    rw [viewsFrom, ih hids hrest, hrolls g List.mem_cons_self, List.map_cons]
    rfl

theorem groupViews_eq {groups : List Group} (hids : (groups.map (·.id)).Nodup) :
    f.groupViews groups = groups.map f.groupView := by
  refine viewsFrom_eq hids ?_
  intro g hg
  exact of_rolls (List.mem_map_of_mem hg)

/-- All groups at once, as far as the database takes their numbers. -/
theorem Sound.listGroups_of_le (hs : Sound f) (h : f.groups.length ≤ maxValues) :
    f.listGroups = .ok (f.groups.map f.groupView) := by
  rw [listGroups, checkValues_of_le h, groupViews_eq hs.groups_ascend.nodup]
  rfl

theorem listGroups_of_gt (h : maxValues < f.groups.length) :
    f.listGroups = .error tooManyValues := by
  rw [listGroups, checkValues_of_gt h]
  rfl

theorem getGroup_eq_ok {view : GroupView} :
    getGroup id f = .ok view ↔ ∃ g, f.group? id = some g ∧ f.groupView g = view := by
  have hone (g : Group) : f.groupViews [g] = [f.groupView g] :=
    groupViews_eq (List.nodup_singleton _)
  unfold getGroup
  rw [Except.bind_eq_ok]
  simp only [findGroup_eq_ok, hone, List.getLast?_singleton, Except.ok.injEq]

/-- A group is told by its number. -/
theorem Sound.group?_eq_some (hs : Sound f) {g : Group} :
    f.group? id = some g ↔ g ∈ f.groups ∧ g.id = id := by
  have hkeys : (f.groups.map Group.id).Nodup := hs.groups_ascend.nodup
  exact find?_key_eq_some hkeys

/-- The nodes of a group that is shown are its members. -/
theorem Sound.exists_getGroup_mem_nodeIds (hs : Sound f) {groupId nodeId : Int} :
    (∃ view, getGroup groupId f = .ok view ∧ nodeId ∈ view.nodeIds) ↔
      f.isMember groupId nodeId = true := by
  constructor
  · rintro ⟨view, hview, hmem⟩
    obtain ⟨g, hg, rfl⟩ := getGroup_eq_ok.1 hview
    rw [mem_nodeIds_groupView, (Fleet.group?_eq_some hg).2] at hmem
    exact hmem
  · intro hmember
    obtain ⟨m, hm, rfl, -⟩ := isMember_eq_true.1 hmember
    obtain ⟨g, hg, hid⟩ := List.mem_map.1 (hs.member_groups m hm)
    refine ⟨f.groupView g, getGroup_eq_ok.2 ⟨g, hs.group?_eq_some.2 ⟨hg, hid⟩, rfl⟩, ?_⟩
    rwa [mem_nodeIds_groupView, hid]

/-- A node is in a group once. -/
theorem Sound.pairwise_nodeIds (hs : Sound f) (g : Group) :
    (f.groupView g).nodeIds.Pairwise (· < ·) := by
  have hkeys := (List.pairwise_map.1 hs.member_keys).filter fun m => m.groupId = g.id
  refine pairwise_sortNumbers (List.pairwise_map.2 (hkeys.imp_of_mem ?_))
  intro m m' hm hm' hne hnode
  have hgroup : m.groupId = g.id := by simpa using (List.mem_filter.1 hm).2
  have hgroup' : m'.groupId = g.id := by simpa using (List.mem_filter.1 hm').2
  exact hne (Prod.ext (hgroup.trans hgroup'.symm) hnode)

/-! ### Figures -/

theorem getNode_eq_ok {v : NodeView} :
    getNode id f = .ok v ↔ ∃ n, f.node? id = some n ∧ f.nodeView n = v := by
  unfold getNode
  cases hfind : findNode id f with
  | error e =>
    constructor
    · intro h
      cases h
    · rintro ⟨n, hn, -⟩
      cases hfind.symm.trans (findNode_eq_ok.2 hn)
  | ok n =>
    have hn := findNode_eq_ok.1 hfind
    rw [hn]
    simp [Except.map]

/-- Numbers that all name nodes, and these nodes as they are shown. -/
theorem map_getNode_eq {ids : List Int} (h : ∀ id ∈ ids, id ∈ f.nodeIds) :
    ids.map (fun id => getNode id f) =
      ((ids.filterMap f.node?).map f.nodeView).map Except.ok := by
  induction ids with
  | nil => rfl
  | cons id ids ih =>
    obtain ⟨n, hn⟩ : ∃ n, f.node? id = some n := by
      obtain ⟨m, hm, rfl⟩ := List.mem_map.1 (h id List.mem_cons_self)
      exact node?_of_mem hm
    have hrest := ih fun i hi => h i (List.mem_cons_of_mem _ hi)
    rw [List.map_cons, List.filterMap_cons_some hn, List.map_cons, List.map_cons, hrest,
      getNode_eq_ok.2 ⟨n, hn, rfl⟩]

/-- The figures of a group are those of its nodes, each as it is shown by itself. -/
theorem Sound.rollup_groupView (hs : Sound f) (g : Group) :
    ∃ members : List NodeView,
      (f.groupView g).nodeIds.map (fun id => getNode id f) = members.map Except.ok ∧
      (f.groupView g).rollup.totalNodes = (f.groupView g).nodeIds.length ∧
      (f.groupView g).rollup.healthyNodes = members.countP (·.node.health = .online) ∧
      (f.groupView g).rollup.totalUsers = (members.map (·.currentUsers)).sum := by
  have hnodes : ∀ id ∈ (f.groupView g).nodeIds, id ∈ f.nodeIds := by
    intro id hid
    obtain ⟨m, hm, -, rfl⟩ := isMember_eq_true.1 (mem_nodeIds_groupView.1 hid)
    exact hs.member_nodes m hm
  have hviews := map_getNode_eq hnodes
  refine ⟨_, hviews, ?_, ?_, ?_⟩
  · -- no member is dropped: each number in the list names a node
    have hlength := congrArg List.length hviews
    simp only [List.length_map] at hlength
    exact hlength.symm
  · rw [List.countP_map]
    rfl
  · rw [List.map_map]
    change (List.map (fun n : Node => f.userCounts.of n.id) _).sum = _
    congr 1
    apply List.map_congr_left
    intro m _
    exact of_userCounts m.id

end Fleet

end NodeFleet
