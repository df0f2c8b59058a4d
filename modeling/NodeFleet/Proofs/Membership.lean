import NodeFleet.Proofs.Failure
import NodeFleet.Proofs.Listing
import NodeFleet.Proofs.ManyMembers
import NodeFleet.Proofs.Numbering

/-!
# Groups by the history of a run

A node belongs to a group exactly if the last event about the two has put it there; what an event is
about is read off its answer. A group that is deleted takes its memberships with it, and its number
is not given again, so the deletion need not be counted among the events. What is shown of a group
are these nodes, and figures of them as each is shown.
-/

namespace NodeFleet

/-! ### Changes of the memberships -/

namespace Fleet

variable {f f' : Fleet} {groupId nodeId g n : Int} {d : Deed}

theorem isMember_congr (h : f'.members = f.members) : f'.isMember g n = f.isMember g n := by
  rw [isMember, isMember, h]

theorem isMember_joinGroup {now : Instant} {u : Unit}
    (h : joinGroup now groupId nodeId f = .ok (u, f')) :
    f'.isMember g n = if groupId = g ∧ nodeId = n then true else f.isMember g n := by
  obtain ⟨-, -, he⟩ := joinGroup_eq_ok.1 h
  cases he
  by_cases hpair : groupId = g ∧ nodeId = n
  · rw [if_pos hpair]
    obtain ⟨rfl, rfl⟩ := hpair
    split
    · next hmember => exact hmember
    · simp [isMember]
  · rw [if_neg hpair]
    split
    · rfl
    · simp [isMember, hpair]

theorem isMember_leaveGroup {u : Unit} (h : leaveGroup groupId nodeId f = .ok (u, f')) :
    f'.isMember g n = if groupId = g ∧ nodeId = n then false else f.isMember g n := by
  obtain ⟨-, he⟩ := leaveGroup_eq_ok.1 h
  cases he
  rw [Bool.eq_iff_iff]
  simp only [isMember_eq_true, List.mem_filter, decide_eq_true_eq]
  by_cases hpair : groupId = g ∧ nodeId = n
  · obtain ⟨rfl, rfl⟩ := hpair
    rw [if_pos ⟨rfl, rfl⟩]
    constructor
    · rintro ⟨m, ⟨-, hother⟩, hm⟩
      exact absurd hm hother
    · intro hfalse
      cases hfalse
  · rw [if_neg hpair, isMember_eq_true]
    constructor
    · rintro ⟨m, ⟨hm, -⟩, hgroup, hnode⟩
      exact ⟨m, hm, hgroup, hnode⟩
    · rintro ⟨m, hm, rfl, rfl⟩
      refine ⟨m, ⟨hm, ?_⟩, rfl, rfl⟩
      rintro ⟨hgroup, hnode⟩
      exact hpair ⟨hgroup.symm, hnode.symm⟩

theorem isMember_withoutNode :
    (f.withoutNode nodeId).isMember g n = if nodeId = n then false else f.isMember g n := by
  rw [Bool.eq_iff_iff]
  simp only [isMember_eq_true, withoutNode, List.mem_filter, decide_eq_true_eq]
  by_cases hnode : nodeId = n
  · subst hnode
    rw [if_pos rfl]
    constructor
    · rintro ⟨m, ⟨-, hother⟩, -, hm⟩
      exact absurd hm hother
    · intro hfalse
      cases hfalse
  · rw [if_neg hnode, isMember_eq_true]
    constructor
    · rintro ⟨m, ⟨hm, -⟩, hgroup, hmnode⟩
      exact ⟨m, hm, hgroup, hmnode⟩
    · rintro ⟨m, hm, rfl, rfl⟩
      exact ⟨m, ⟨hm, Ne.symm hnode⟩, rfl, rfl⟩

/-- The memberships in the other groups stay when a group is deleted. -/
theorem isMember_withoutGroup (hne : g ≠ groupId) :
    (f.withoutGroup groupId).isMember g n = f.isMember g n := by
  rw [Bool.eq_iff_iff]
  simp only [isMember_eq_true, withoutGroup, List.mem_filter, decide_eq_true_eq]
  constructor
  · rintro ⟨m, ⟨hm, -⟩, hgroup, hnode⟩
    exact ⟨m, hm, hgroup, hnode⟩
  · rintro ⟨m, hm, rfl, rfl⟩
    exact ⟨m, ⟨hm, hne⟩, rfl, rfl⟩

/-- Only a group that exists has members. -/
theorem Sound.isMember_eq_false (hs : Sound f) (h : g ∉ f.groupIds) : f.isMember g n = false := by
  cases hmember : f.isMember g n with
  | false => rfl
  | true => exact absurd (isMember_groupIds hs hmember) h

end Fleet

/-- Whether a deed is about memberships. -/
def Deed.touchesMembers : Deed → Prop
  | deleteNode _ | deleteGroup _ | addMember _ _ | removeMember _ _ => True
  | _ => False

theorem Fleet.Write.members_eq {f f' : Fleet} {d : Deed} (h : Write d f f')
    (hd : ¬d.touchesMembers) : f'.members = f.members := by
  cases h with
  | deleteNode | deleteGroup | addMember | removeMember => exact absurd trivial hd
  | same | createNode | updateNode | setEnabled | install | refusedInstall | issueToken
  | rotateToken | revokeToken | createGroup | updateGroup | assign | unassign | heartbeat
  | evaluate => rfl

/-! ### What answers tell about memberships -/

/-- What a successful answer tells about a group and a node: that the node belongs to the group from
then on, or that it does not. -/
def Operation.membership (groupId nodeId : Int) {α : Type} : Operation α → α → Option Bool
  | addMember _ group node, _ => if group = groupId ∧ node = nodeId then some true else none
  | removeMember group node, _ => if group = groupId ∧ node = nodeId then some false else none
  | deleteNode node, _ => if node = nodeId then some false else none
  | _, _ => none

namespace Operation

variable {α : Type} {p : Panel} {g n : Int}

/-- An operation that is not about memberships. -/
theorem membership_of_quiet {op : Operation α} (hquiet : ∀ x, op.membership g n x = none)
    (hd : ∀ d, op.deeds d → ¬d.touchesMembers) :
    op.Recounts p (·.isMember g n) (membership g n) := by
  have hmembers : (op.after p).fleet.members = p.fleet.members :=
    (op.writes p).part_eq fun d _ _ hop hw => hw.members_eq (hd d hop)
  exact recounts_of_quiet hquiet (Fleet.isMember_congr hmembers)

theorem membership_addMember (now : Instant) (group node : Int) :
    (addMember now group node).Recounts p (·.isMember g n) (membership g n) := by
  rcases Action.on_transact_read_cases
      (fun _ _ h => Fleet.getGroup_of_joinGroup h) with ⟨_, f, view, hjoin, hon⟩ | ⟨e, hon⟩
  · refine recounts_of_ok hon ?_
    exact (Fleet.isMember_joinGroup hjoin).trans (getD_ite true _).symm
  · exact recounts_of_refused hon

theorem membership_removeMember (hs : p.fleet.Sound) (group node : Int) :
    (removeMember group node).Recounts p (·.isMember g n) (membership g n) := by
  rcases Action.on_transact_read_cases
      (fun _ _ h => Fleet.getGroup_of_leaveGroup hs h) with ⟨_, f, view, hleave, hon⟩ | ⟨e, hon⟩
  · refine recounts_of_ok hon ?_
    exact (Fleet.isMember_leaveGroup hleave).trans (getD_ite false _).symm
  · exact recounts_of_refused hon

theorem membership_deleteNode (id : Int) :
    (deleteNode id).Recounts p (·.isMember g n) (membership g n) := by
  rcases Action.on_deleteNode_cases id p with ⟨e, hon⟩ | hon
  · exact recounts_of_refused hon
  · refine recounts_of_ok hon ?_
    exact Fleet.isMember_withoutNode.trans (getD_ite false _).symm

/-- The memberships in a group that is still there afterwards. -/
theorem membership_deleteGroup {id : Int} (hg : g ∈ ((deleteGroup id).after p).fleet.groupIds) :
    (deleteGroup id).Recounts p (·.isMember g n) (membership g n) := by
  rcases Action.on_transact_cases (Fleet.deleteGroup id) p with ⟨_, f, -, h, hon⟩ | ⟨e, hon⟩
  · obtain ⟨-, he⟩ := Fleet.deleteGroup_eq_ok.1 h
    cases he
    obtain ⟨-, hafter⟩ := (deleteGroup id).answer_of_on hon
    rw [hafter] at hg
    obtain ⟨group, hmem, rfl⟩ := List.mem_map.1 hg
    have hne : group.id ≠ id := by simpa using (List.mem_filter.1 hmem).2
    exact recounts_of_ok hon (Fleet.isMember_withoutGroup hne)
  · exact recounts_of_refused hon

end Operation

/-! ### The history of a group and a node -/

/-- Each event sets, clears or leaves a membership in a group that is there afterwards, as its
answer tells. -/
theorem Event.isMember_after (e : Event) {p : Panel} (hs : p.fleet.Sound) {g n : Int}
    (hg : g ∈ (e.after p).fleet.groupIds) :
    (e.after p).fleet.isMember g n =
      (e.brings (Operation.membership g n) p).getD (p.fleet.isMember g n) := by
  cases e with
  | world isOpen shell => rfl
  | ask op =>
    cases op with
    | addMember now group node => exact Operation.membership_addMember now group node
    | removeMember group node => exact Operation.membership_removeMember hs group node
    | deleteNode id => exact Operation.membership_deleteNode id
    | deleteGroup id => exact Operation.membership_deleteGroup hg
    | createNode =>
      apply Operation.membership_of_quiet (fun _ => rfl)
      rintro d (rfl | ⟨id, rfl⟩)
      · exact not_false
      · exact not_false
    | reassign =>
      apply Operation.membership_of_quiet (fun _ => rfl)
      rintro d ⟨user, hu, id, rfl⟩
      exact not_false
    | reconcile =>
      apply Operation.membership_of_quiet (fun _ => rfl)
      rintro d ⟨id, rfl⟩
      exact not_false
    | updateNode | setEnabled | installNode | reinstall | issueToken | rotateToken | revokeToken
    | createGroup | updateGroup | assign | unassign | recordHeartbeat | applyEvaluation =>
      apply Operation.membership_of_quiet (fun _ => rfl)
      rintro d rfl
      exact not_false
    | getNode | findNode | listNodes | loadInstall | tokenInfo | authenticate | getGroup
    | listGroups | userCount | userCounts | statistics =>
      exact Operation.membership_of_quiet (fun _ => rfl) fun _ hd => hd.elim

/-- A node joins only a group that exists. -/
theorem Event.mem_groupIds_of_brings {e : Event} {p : Panel} {g n : Int}
    (h : e.brings (Operation.membership g n) p = some true) : g ∈ p.fleet.groupIds := by
  cases e with
  | world isOpen shell => cases h
  | ask op =>
    obtain ⟨answer, hanswer, htold⟩ := brings_ask_eq_some.1 h
    cases op with
    | addMember now group node =>
      change (if group = g ∧ node = n then some true else none) = some true at htold
      have hpair : group = g ∧ node = n := by
        by_contra hother
        rw [if_neg hother] at htold
        cases htold
      obtain ⟨rfl, rfl⟩ := hpair
      obtain ⟨_, m, hjoin, -⟩ := Action.on_bind_eq_ok.1 hanswer
      obtain ⟨-, f, hok, -⟩ := Action.on_transact_eq_ok.1 hjoin
      obtain ⟨⟨group, hgroup⟩, -, -⟩ := Fleet.joinGroup_eq_ok.1 hok
      exact Fleet.group?_mem_groupIds hgroup
    | removeMember group node =>
      change (if group = g ∧ node = n then some false else none) = some true at htold
      split at htold
      · cases htold
      · cases htold
    | deleteNode id =>
      change (if id = n then some false else none) = some true at htold
      split at htold
      · cases htold
      · cases htold
    | _ => cases htold

namespace Panel

/-- The last thing that the answers of a run tell about a group and a node. -/
def lastMembership (p : Panel) (run : List Event) (g n : Int) : Option Bool :=
  (p.collect (Event.brings (Operation.membership g n)) run).getLast?

theorem lastMembership_concat (p : Panel) (run : List Event) (e : Event) (g n : Int) :
    p.lastMembership (run ++ [e]) g n =
      (e.brings (Operation.membership g n) (p.after run)).or (p.lastMembership run g n) :=
  getLast?_collect_concat _ p run e

/-- A group that a node has joined has a number that was given. -/
theorem le_lastGroup_of_lastMembership (shell : Shell) (run : List Event) {g n : Int}
    (h : (fresh shell).lastMembership run g n = some true) :
    g ≤ ((fresh shell).after run).fleet.lastGroup := by
  induction run using List.reverseRecOn with
  | nil => cases h
  | append_singleton run e ih =>
    have hmono := (e.follows ((fresh shell).after run)).lastGroup_le
    rw [lastMembership_concat] at h
    rw [after_concat]
    cases hbrings : e.brings (Operation.membership g n) ((fresh shell).after run) with
    | none =>
      rw [hbrings, Option.none_or] at h
      exact Int.le_trans (ih h) hmono
    | some told =>
      rw [hbrings, Option.some_or] at h
      cases h
      have hg := Event.mem_groupIds_of_brings hbrings
      exact Int.le_trans ((sound_fresh shell run).groups_le g hg) hmono

/-- After any run, a node belongs to a group that exists exactly if the last event about the two has
put it there. -/
theorem isMember_iff_last (shell : Shell) (run : List Event) {g n : Int}
    (hg : g ∈ ((fresh shell).after run).fleet.groupIds) :
    ((fresh shell).after run).fleet.isMember g n = true ↔
      (fresh shell).lastMembership run g n = some true := by
  induction run using List.reverseRecOn with
  | nil => cases hg
  | append_singleton run e ih =>
    have hs := sound_fresh shell run
    rw [after_concat] at hg ⊢
    rw [e.isMember_after hs hg, lastMembership_concat]
    cases hbrings : e.brings (Operation.membership g n) ((fresh shell).after run) with
    | some told => simp
    | none =>
      rw [Option.getD_none, Option.none_or]
      rcases (e.follows ((fresh shell).after run)).groups g hg with hbefore | hnew
      · exact ih hbefore
      · -- the group is new, so nothing has been told of it yet
        have hgone : g ∉ ((fresh shell).after run).fleet.groupIds := by
          intro hmem
          have := hs.groups_le g hmem
          omega
        rw [hs.isMember_eq_false hgone]
        constructor
        · intro hfalse
          cases hfalse
        · intro hlast
          have := le_lastGroup_of_lastMembership shell run hlast
          omega

/-- After any run, while the tables can be read: every group that exists is shown. Of it are shown,
in ascending order, the nodes for which the last event about group and node has made the node a
member; their number, the number of those that are shown online, and the sum of the users that are
shown for each. The list of groups has every group once, in ascending order of their numbers, each
as it is shown by itself; it is refused only if there are more groups than the database takes
values. -/
theorem groups_agree (shell : Shell) (run : List Event)
    (hopen : ((fresh shell).after run).isOpen = true) :
    let p := (fresh shell).after run
    (∀ g, g ∈ p.fleet.groupIds ↔ ∃ v, (Operation.getGroup g).answer p = .ok v) ∧
    (∀ g v, (Operation.getGroup g).answer p = .ok v →
      v.group.id = g ∧ v.group ∈ p.fleet.groups ∧
      v.nodeIds.Pairwise (· < ·) ∧
      (∀ n, n ∈ v.nodeIds ↔ (fresh shell).lastMembership run g n = some true) ∧
      ∃ members : List NodeView,
        v.nodeIds.map (fun n => (Operation.getNode n).answer p) = members.map .ok ∧
        v.rollup.totalNodes = v.nodeIds.length ∧
        v.rollup.healthyNodes = members.countP (·.node.health = .online) ∧
        v.rollup.totalUsers = (members.map (·.currentUsers)).sum) ∧
    (p.fleet.groups.length ≤ maxValues → ∃ views, Operation.listGroups.answer p = .ok views ∧
      views.map (·.group) = p.fleet.groups ∧
      (views.map (·.group.id)).Pairwise (· < ·) ∧
      ∀ g v, (Operation.getGroup g).answer p = .ok v ↔ v ∈ views ∧ v.group.id = g) ∧
    (maxValues < p.fleet.groups.length →
      Operation.listGroups.answer p = .error tooManyValues) := by
  intro p
  have hs : p.fleet.Sound := sound_fresh shell run
  have hread : ∀ n, (Operation.getNode n).answer p = Fleet.getNode n p.fleet := answer_getNode hopen
  have hgroup : ∀ g, (Operation.getGroup g).answer p = Fleet.getGroup g p.fleet :=
    answer_getGroup hopen
  have hlist : Operation.listGroups.answer p = p.fleet.listGroups := answer_read hopen _
  refine ⟨?_, ?_, ?_, fun hmany => hlist.trans (Fleet.listGroups_of_gt hmany)⟩
  · intro g
    simp only [hgroup]
    constructor
    · exact Fleet.getGroup_of_mem
    · rintro ⟨v, hv⟩
      obtain ⟨group, hfound, -⟩ := Fleet.getGroup_eq_ok.1 hv
      exact Fleet.group?_mem_groupIds hfound
  · intro g v hv
    rw [hgroup] at hv
    obtain ⟨group, hfound, rfl⟩ := Fleet.getGroup_eq_ok.1 hv
    obtain ⟨hmem, rfl⟩ := Fleet.group?_eq_some hfound
    refine ⟨rfl, hmem, hs.pairwise_nodeIds group, ?_, ?_⟩
    · intro n
      rw [Fleet.mem_nodeIds_groupView]
      exact isMember_iff_last shell run (List.mem_map_of_mem hmem)
    · simp only [hread]
      exact hs.rollup_groupView group
  · intro hfew
    refine ⟨p.fleet.groups.map p.fleet.groupView, hlist.trans (hs.listGroups_of_le hfew), ?_, ?_,
      ?_⟩
    · rw [List.map_map]
      exact List.map_id _
    · rw [List.map_map]
      exact hs.groups_ascend
    · intro g v
      rw [hgroup, Fleet.getGroup_eq_ok, List.mem_map]
      constructor
      · rintro ⟨group, hfound, rfl⟩
        obtain ⟨hmem, hid⟩ := Fleet.group?_eq_some hfound
        exact ⟨⟨group, hmem, rfl⟩, hid⟩
      · rintro ⟨⟨group, hmem, rfl⟩, hid⟩
        exact ⟨group, hs.group?_eq_some.2 ⟨hmem, hid⟩, rfl⟩

/-- Three nodes join a group, one leaves it and joins again, and one is deleted. -/
def rejoined : List Event :=
  let now : Instant := ⟨0, 0⟩
  let join (id : Int) : Event := .ask (.addMember now 1 id)
  housed ++ [.ask (.createGroup now ⟨"group", "", "", .weighted⟩), join 3, join 2, join 1,
    .ask (.removeMember 1 2), join 2, .ask (.deleteNode 3)]

/-- Two nodes are left, both online, and one of them has a user. -/
theorem groups_agree_rejoined :
    let p := (fresh .silent).after rejoined
    p.isOpen = true ∧ p.fleet.groups.length ≤ maxValues ∧
      ∃ views v, Operation.listGroups.answer p = .ok views ∧ v ∈ views ∧
        (Operation.getGroup 1).answer p = .ok v ∧
        v.nodeIds = [1, 2] ∧ v.rollup = ⟨2, 2, 1⟩ ∧
        ∀ n, n ∈ v.nodeIds ↔ (fresh .silent).lastMembership rejoined 1 n = some true := by
  intro p
  have hopen : p.isOpen = true := by decide +kernel
  have hfew : p.fleet.groups.length ≤ maxValues := by decide +kernel
  have hshown : ((Operation.getGroup 1).answer p).toOption.map (fun v => (v.nodeIds, v.rollup)) =
      some ([1, 2], ⟨2, 2, 1⟩) := by decide +kernel
  obtain ⟨-, hview, hlist, -⟩ := groups_agree .silent rejoined hopen
  obtain ⟨views, hviews, -, -, hagree⟩ := hlist hfew
  cases hanswer : (Operation.getGroup 1).answer p with
  | error e =>
    rw [hanswer] at hshown
    cases hshown
  | ok v =>
    rw [hanswer] at hshown
    obtain ⟨hids, hrollup⟩ := Prod.mk.inj (Option.some.inj hshown)
    obtain ⟨-, -, -, hlast, -⟩ := hview 1 v hanswer
    exact ⟨hopen, hfew, views, v, hviews, ((hagree 1 v).1 hanswer).1, rfl, hids, hrollup, hlast⟩

/-- With a node in more groups than the database takes values, each of them is shown by itself, but
the list of groups is refused. -/
theorem listGroups_of_many {count : Nat} (h : maxValues < count) :
    let p := (fresh .silent).after (housed ++ joining 1 count)
    p.isOpen = true ∧ p.fleet.groups.length = count ∧
      (∀ g ∈ p.fleet.groupIds, ∃ v, (Operation.getGroup g).answer p = .ok v) ∧
      Operation.listGroups.answer p = .error tooManyValues := by
  obtain ⟨n, hn⟩ : ∃ n, ((fresh .silent).after housed).fleet.node? 1 = some n :=
    Option.isSome_iff_exists.1 (by decide +kernel)
  obtain ⟨hopen, hjoined⟩ := after_joining (p := (fresh .silent).after housed)
    (by decide +kernel) hn (by decide +kernel) (by decide +kernel) (by decide +kernel) count
  intro p
  rw [← after_append] at hopen hjoined
  refine ⟨hopen, hjoined.length_groups, ?_, ?_⟩
  · intro g hg
    rw [answer_getGroup hopen]
    exact Fleet.getGroup_of_mem hg
  · refine (answer_read hopen _).trans (Fleet.listGroups_of_gt ?_)
    rw [hjoined.length_groups]
    exact h

/-- There are 32767 groups, and no list of them is given, though each is shown by itself. While the
database is closed, a group is not shown at all. -/
theorem listGroups_refused :
    (let p := (fresh .silent).after (housed ++ joining 1 32767);
      p.isOpen = true ∧ p.fleet.groups.length = 32767 ∧
      (∀ g ∈ p.fleet.groupIds, ∃ v, (Operation.getGroup g).answer p = .ok v) ∧
      ∀ views, Operation.listGroups.answer p ≠ .ok views) ∧
    (let p := (fresh .silent).after [.ask (.createGroup ⟨0, 0⟩ ⟨"group", "", "", .weighted⟩),
        .world false .silent];
      p.fleet.groupIds = [1] ∧ (∀ v, (Operation.getGroup 1).answer p ≠ .ok v) ∧
      ∀ views, Operation.listGroups.answer p ≠ .ok views) := by
  constructor
  · have hmany : maxValues < 32767 := by decide
    obtain ⟨hopen, hlength, hshown, hrefused⟩ := listGroups_of_many hmany
    refine ⟨hopen, hlength, hshown, ?_⟩
    intro views h
    cases hrefused.symm.trans h
  · intro p
    have hclosed : p.isOpen = false := rfl
    refine ⟨by decide +kernel, ?_, ?_⟩
    · intro v h
      cases (congrArg Prod.fst (Action.on_read_of_closed hclosed _)).symm.trans h
    · intro views h
      cases (congrArg Prod.fst (Action.on_read_of_closed hclosed _)).symm.trans h

end Panel

end NodeFleet
