import Mathlib.Algebra.BigOperators.Ring.Finset
import NodeFleet.Proofs.Housing

/-!
# Figures of users and nodes

The users of the fleet are counted in several ways: by a table of counts that grows with each row,
by its sum, node by node in the list, and as the users that have a node. The ways agree, since a
user has one row and each row names a node that exists. With `Housing` this is the conservation of
users.
-/

namespace NodeFleet

/-! ### The table of counts -/

namespace UserCounts

variable {counts : UserCounts}

/-- The number of all users in the table. -/
def total (counts : UserCounts) : Int := (counts.map (·.2)).sum

theorem of_cons {id n nodeId : Int} :
    UserCounts.of ((id, n) :: counts) nodeId = if nodeId = id then n else counts.of nodeId := by
  unfold UserCounts.of
  by_cases h : nodeId = id
  · simp [h]
  · have hne : (nodeId == id) = false := by simpa using h
    rw [List.lookup_cons, hne, if_neg h]

theorem of_add (id nodeId : Int) :
    (counts.add id).of nodeId = counts.of nodeId + if id = nodeId then 1 else 0 := by
  induction counts with
  | nil =>
    have hnil : UserCounts.of [] nodeId = 0 := rfl
    rw [UserCounts.add, of_cons, hnil]
    by_cases h : id = nodeId
    · simp [h]
    · simp [h, Ne.symm h]
  | cons entry rest ih =>
    obtain ⟨other, n⟩ := entry
    rw [UserCounts.add]
    split
    · next heq =>
      subst heq
      rw [of_cons, of_cons]
      by_cases h : nodeId = other
      · simp [h]
      · simp [h, Ne.symm h]
    · next hne =>
      rw [of_cons, of_cons, ih]
      by_cases h : nodeId = other
      · have hid : id ≠ nodeId := fun he => hne (h ▸ he.symm)
        simp [h, h ▸ hid]
      · simp [h]

theorem total_add (id : Int) : (counts.add id).total = counts.total + 1 := by
  induction counts with
  | nil => rfl
  | cons entry rest ih =>
    obtain ⟨other, n⟩ := entry
    rw [UserCounts.add]
    unfold total at ih ⊢
    split
    · simp only [List.map_cons, List.sum_cons]
      omega
    · simp only [List.map_cons, List.sum_cons, ih]
      omega

end UserCounts

/-! ### Sums over the nodes -/

/-- Rows are as many as those of each key together, where every row has one of the keys. -/
theorem sum_countP_key {α : Type} (key : α → Int) {rows : List α} {keys : List Int}
    (hkeys : keys.Nodup) (hrows : ∀ r ∈ rows, key r ∈ keys) :
    (keys.map fun k => rows.countP (key · = k)).sum = rows.length := by
  have hcount (k : Int) : rows.countP (key · = k) = Multiset.count k ↑(rows.map key) := by
    rw [Multiset.coe_count, List.count, List.countP_map]
    exact List.countP_congr fun r _ => by simp
  have hmem : ∀ k ∈ (↑(rows.map key) : Multiset Int), k ∈ keys.toFinset := by
    intro k hk
    obtain ⟨r, hr, rfl⟩ := List.mem_map.1 (Multiset.mem_coe.1 hk)
    exact List.mem_toFinset.2 (hrows r hr)
  calc (keys.map fun k => rows.countP (key · = k)).sum
      = ∑ k ∈ keys.toFinset, Multiset.count k ↑(rows.map key) := by
        rw [List.sum_toFinset _ hkeys]
        exact congrArg List.sum (List.map_congr_left fun k _ => hcount k)
    _ = Multiset.card (↑(rows.map key) : Multiset Int) := Multiset.sum_count_eq_card hmem
    _ = rows.length := by rw [Multiset.coe_card, List.length_map]

namespace Fleet

variable {f : Fleet}

/-- The count of a node in the table is the number of its users. -/
theorem of_userCounts (id : Int) : f.userCounts.of id = f.userCount id := by
  have hfold (rows : List Assignment) (counts : UserCounts) :
      (rows.foldl (fun counts a => counts.add a.nodeId) counts).of id =
        counts.of id + (rows.countP (·.nodeId = id) : Nat) := by
    induction rows generalizing counts with
    | nil => simp
    | cons a rows ih =>
      rw [List.foldl_cons, ih, UserCounts.of_add, List.countP_cons]
      by_cases h : a.nodeId = id
      · simp only [h, if_true, decide_true]
        push_cast
        omega
      · simp [h]
  rw [userCounts, hfold f.assignments []]
  simp [UserCounts.of, userCount]

theorem total_userCounts : f.userCounts.total = f.assignments.length := by
  have hfold (rows : List Assignment) (counts : UserCounts) :
      (rows.foldl (fun counts a => counts.add a.nodeId) counts).total =
        counts.total + rows.length := by
    induction rows generalizing counts with
    | nil => simp
    | cons a rows ih =>
      rw [List.foldl_cons, ih, UserCounts.total_add, List.length_cons]
      push_cast
      omega
  rw [userCounts, hfold f.assignments []]
  simp [UserCounts.total]

/-- Each row of a user is one of a node that exists. -/
theorem Sound.sum_userCount (hs : Sound f) :
    (f.nodes.map fun n => f.userCount n.id).sum = f.assignments.length := by
  have hsum := sum_countP_key Assignment.nodeId hs.nodes_ascend.nodup hs.assignment_nodes
  rw [nodeIds, List.map_map] at hsum
  exact hsum

/-- A user has one row. -/
theorem Sound.card_users (hs : Sound f) :
    (f.assignments.map (·.userId)).toFinset.card = f.assignments.length := by
  rw [List.toFinset_card_of_nodup hs.assignment_keys, List.length_map]

/-- Every node has one of the three healths. -/
theorem length_nodes :
    f.nodes.length = f.nodes.countP (·.health = .online) + f.nodes.countP (·.health = .unhealthy) +
      f.nodes.countP (·.health = .offline) := by
  induction f.nodes with
  | nil => rfl
  | cons n nodes ih =>
    simp only [List.length_cons, List.countP_cons]
    cases n.health with
    | online => simp; omega
    | unhealthy => simp; omega
    | offline => simp; omega

/-- The list without a filter has all nodes with their users. -/
theorem listNodes_all :
    listNodes ⟨none, none, none, none⟩ f =
      .ok (f.nodes.map fun n => .of n (f.userCount n.id) (f.listedToken n.id)) := by
  have hselect : Search.select ⟨none, none, none, none⟩ f = .ok f.nodes := by
    -- a statement without criteria has no values
    have hall : f.nodes.filter (Search.admits ⟨none, none, none, none⟩ []) = f.nodes :=
      List.filter_eq_self.2 fun _ _ => rfl
    exact congrArg Except.ok hall
  rw [listNodes, hselect]
  simp only [of_userCounts]
  rfl

end Fleet

/-- The job of a node that is deleted has the users of the node. -/
theorem Operation.mem_userIds_deleteNode {p : Panel} (hs : p.fleet.Sound) {id : Int}
    {job : ReassignJob} (h : (deleteNode id).answer p = .ok job) (user : String) :
    user ∈ job.userIds ↔ ∃ a ∈ p.fleet.assignments, a.userId = user ∧ a.nodeId = id := by
  rcases Action.on_deleteNode_cases id p with ⟨e, hon⟩ | hon
  · obtain ⟨hanswer, -⟩ := (deleteNode id).answer_of_on hon
    cases hanswer.symm.trans h
  · obtain ⟨hanswer, -⟩ := (deleteNode id).answer_of_on hon
    cases hanswer.symm.trans h
    rw [hs.mem_jobOf, hs.nodeOf?_eq_some]

/-- After any run: a user is on a node exactly if the last event that placed the user, took the node
from the user or deleted it has placed the user there; the users whose node is deleted are those
that are on it. While the tables can be read, the users of the statistics, those of the list of all
nodes, those of the table of counts and the users that have a node are equally many, and the nodes
of the statistics are those of each health together and those of the list. -/
theorem Panel.users_conserved (shell : Shell) (run : List Event) :
    let p := (fresh shell).after run
    (∀ user id, (∃ a ∈ p.fleet.assignments, a.userId = user ∧ a.nodeId = id) ↔
      ((fresh shell).collect (Event.brings (Operation.housing user)) run).getLast? =
        some (some id)) ∧
    (∀ id job, (Operation.deleteNode id).answer p = .ok job → ∀ user,
      user ∈ job.userIds ↔ ∃ a ∈ p.fleet.assignments, a.userId = user ∧ a.nodeId = id) ∧
    (p.isOpen = true → ∃ figures views counts,
      Operation.statistics.answer p = .ok figures ∧
      (Operation.listNodes ⟨none, none, none, none⟩).answer p = .ok views ∧
      Operation.userCounts.answer p = .ok counts ∧
      figures.assignedUsers = (views.map (·.currentUsers)).sum ∧
      figures.assignedUsers = (counts.map (·.2)).sum ∧
      figures.assignedUsers = (p.fleet.assignments.map (·.userId)).toFinset.card ∧
      figures.totalNodes = figures.online + figures.unhealthy + figures.offline ∧
      figures.totalNodes = views.length) := by
  intro p
  have hs : p.fleet.Sound := sound_fresh shell run
  refine ⟨?_, fun id job hjob user => Operation.mem_userIds_deleteNode hs hjob user, ?_⟩
  · intro user id
    rw [← hs.nodeOf?_eq_some, nodeOf?_eq_last]
    cases ((fresh shell).collect (Event.brings (Operation.housing user)) run).getLast? with
    | none => simp
    | some node => simp
  · intro hopen
    have hread {α : Type} (query : Fleet → Except Error α) :
        ((Action.read query).on p).1 = query p.fleet :=
      congrArg Prod.fst (Action.on_read_of_open hopen query)
    have htotal : p.fleet.statistics.assignedUsers = p.fleet.assignments.length :=
      Fleet.total_userCounts
    refine ⟨p.fleet.statistics,
      p.fleet.nodes.map fun n => .of n (p.fleet.userCount n.id) (p.fleet.listedToken n.id),
      p.fleet.userCounts, hread _, (hread _).trans Fleet.listNodes_all, hread _, ?_, rfl, ?_,
      Fleet.length_nodes, ?_⟩
    · rw [htotal, ← hs.sum_userCount, Nat.cast_list_sum, List.map_map, List.map_map]
      rfl
    · rw [htotal, hs.card_users]
    · exact (List.length_map _).symm

/-- A user of the first of three nodes who is assigned to the second one is counted there, and is in
the job when that node is deleted. -/
theorem Panel.users_conserved_housed :
    let now : Instant := ⟨0, 0⟩
    let run := housed ++ [.ask (.assign now 2 "user")]
    let p := (fresh .silent).after run
    (∃ a ∈ p.fleet.assignments, a.userId = "user" ∧ a.nodeId = 2) ∧
      (∃ job, (Operation.deleteNode 2).answer p = .ok job ∧ "user" ∈ job.userIds) ∧
      ∃ figures views, Operation.statistics.answer p = .ok figures ∧ figures.assignedUsers = 1 ∧
        (Operation.listNodes ⟨none, none, none, none⟩).answer p = .ok views ∧
        views.length = 3 ∧ (views.map (·.currentUsers)).sum = 1 := by
  intro now run p
  have hlast : ((fresh .silent).collect (Event.brings (Operation.housing "user")) run).getLast? =
      some (some 2) := by decide +kernel
  have hdelete : ∃ job, (Operation.deleteNode 2).answer p = .ok job :=
    Except.exists_eq_ok (by decide +kernel)
  have hfigures : (Operation.statistics.answer p).toOption.map
      (fun figures => (figures.assignedUsers, figures.totalNodes)) = some (1, 3) := by
    decide +kernel
  obtain ⟨hhoused, hjob, hcounts⟩ := users_conserved .silent run
  have hplaced : ∃ a ∈ p.fleet.assignments, a.userId = "user" ∧ a.nodeId = 2 :=
    (hhoused "user" 2).2 hlast
  obtain ⟨job, hdelete⟩ := hdelete
  obtain ⟨figures, views, -, hstatistics, hlist, -, hsum, -, -, -, hlength⟩ :=
    hcounts (by decide +kernel)
  rw [hstatistics] at hfigures
  obtain ⟨hone, hthree⟩ := Prod.mk.inj (Option.some.inj hfigures)
  exact ⟨hplaced, ⟨job, hdelete, (hjob 2 job hdelete "user").2 hplaced⟩, figures, views,
    hstatistics, hone, hlist, hlength.symm.trans hthree, hsum.symm.trans hone⟩

end NodeFleet
