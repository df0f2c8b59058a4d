import Mathlib.Data.ENat.Lattice
import NodeFleet.Proofs.Census

/-!
# How far a reassignment gets

The room of a node is the number of users that it may still be given, and the spare room of the
fleet is that of its enabled online nodes together. A reassignment takes one place with each user
that it moves, and stops moving users only when no place is left. So it moves the first users of the
job, as many as there are places.
-/

namespace NodeFleet

/-! ### The preference -/

section Preference

variable {counts : UserCounts} {preferred : List Int} {n b : Node} {nodes : List Node}

/-- The better of two nodes is the next one if it goes before, and otherwise the one so far. -/
theorem betterTarget_cases (counts : UserCounts) (preferred : List Int) (b n : Node) :
    n.goesBefore counts preferred b = true ∧ betterTarget counts preferred (some b) n = some n ∨
    n.goesBefore counts preferred b = false ∧
      betterTarget counts preferred (some b) n = some b := by
  unfold betterTarget
  dsimp only
  cases n.goesBefore counts preferred b with
  | true => exact .inl ⟨rfl, rfl⟩
  | false => exact .inr ⟨rfl, rfl⟩

/-- A node met leads to a choice. -/
theorem isSome_foldl_betterTarget :
    (nodes.foldl (betterTarget counts preferred) (some b)).isSome = true := by
  induction nodes generalizing b with
  | nil => rfl
  | cons n nodes ih =>
    rw [List.foldl_cons]
    rcases betterTarget_cases counts preferred b n with ⟨-, h⟩ | ⟨-, h⟩
    · rw [h]
      exact ih
    · rw [h]
      exact ih

/-- There is no node to choose exactly if no online candidate takes users. -/
theorem pickTarget_eq_none {candidates : List Node} :
    pickTarget candidates counts preferred = none ↔
      ∀ n ∈ candidates, n.health = .online → n.acceptsUsers (counts.of n.id) = false := by
  have hready : (candidates.filter fun n =>
      n.health == .online && n.acceptsUsers (counts.of n.id)) = [] ↔
      ∀ n ∈ candidates, n.health = .online → n.acceptsUsers (counts.of n.id) = false := by
    simp [List.filter_eq_nil_iff]
  rw [← hready]
  unfold pickTarget
  dsimp only
  rw [Option.map_eq_none_iff]
  cases candidates.filter fun n => n.health == .online && n.acceptsUsers (counts.of n.id) with
  | nil => exact ⟨fun _ => rfl, fun _ => rfl⟩
  | cons n rest =>
    have hsome : (rest.foldl (betterTarget counts preferred) (some n)).isSome = true :=
      isSome_foldl_betterTarget
    rw [← Option.not_isSome_iff_eq_none]
    exact ⟨fun h => absurd hsome h, nofun⟩

/-- Between two nodes of which one is preferred, that one goes first. -/
theorem goesBefore_of_ne (h : preferred.contains n.id ≠ preferred.contains b.id) :
    n.goesBefore counts preferred b = preferred.contains n.id := by
  unfold Node.goesBefore
  exact if_pos (bne_iff_ne.2 h)

/-- If the better of two nodes is not preferred, neither of them is. -/
theorem not_preferred_of_betterTarget {m : Node}
    (h : betterTarget counts preferred (some b) n = some m)
    (hm : preferred.contains m.id = false) :
    preferred.contains b.id = false ∧ preferred.contains n.id = false := by
  by_cases hne : preferred.contains n.id = preferred.contains b.id
  · rcases betterTarget_cases counts preferred b n with ⟨-, hn⟩ | ⟨-, hb⟩
    · obtain rfl := Option.some.inj (hn.symm.trans h)
      exact ⟨hne ▸ hm, hm⟩
    · obtain rfl := Option.some.inj (hb.symm.trans h)
      exact ⟨hm, hne ▸ hm⟩
  · have hgoes : n.goesBefore counts preferred b = preferred.contains n.id :=
      goesBefore_of_ne hne
    rcases betterTarget_cases counts preferred b n with ⟨hbefore, hn⟩ | ⟨hbefore, hb⟩
    · obtain rfl := Option.some.inj (hn.symm.trans h)
      rw [hgoes, hm] at hbefore
      cases hbefore
    · obtain rfl := Option.some.inj (hb.symm.trans h)
      exact ⟨hm, hgoes.symm.trans hbefore⟩

/-- If the chosen node is not preferred, none of the nodes is. -/
theorem not_preferred_of_foldl {m : Node} (hm : preferred.contains m.id = false)
    (h : nodes.foldl (betterTarget counts preferred) (some b) = some m) :
    preferred.contains b.id = false ∧ ∀ n ∈ nodes, preferred.contains n.id = false := by
  induction nodes generalizing b with
  | nil =>
    rw [List.foldl_nil, Option.some.injEq] at h
    subst h
    exact ⟨hm, List.forall_mem_nil _⟩
  | cons n nodes ih =>
    rw [List.foldl_cons] at h
    obtain ⟨k, hk⟩ : ∃ k, betterTarget counts preferred (some b) n = some k := by
      rcases betterTarget_cases counts preferred b n with ⟨-, hn⟩ | ⟨-, hb⟩
      · exact ⟨n, hn⟩
      · exact ⟨b, hb⟩
    rw [hk] at h
    obtain ⟨hbest, hrest⟩ := ih h
    obtain ⟨hb, hn⟩ := not_preferred_of_betterTarget hk hbest
    exact ⟨hb, List.forall_mem_cons.2 ⟨hn, hrest⟩⟩

/-- A node that is not preferred is chosen only if no preferred online candidate takes users. -/
theorem full_of_pickTarget {candidates : List Node} {id : Int}
    (h : pickTarget candidates counts preferred = some id)
    (hid : preferred.contains id = false) {n : Node} (hn : n ∈ candidates)
    (honline : n.health = .online) (hpreferred : preferred.contains n.id = true) :
    n.acceptsUsers (counts.of n.id) = false := by
  obtain ⟨m, hm, rfl⟩ := Option.map_eq_some_iff.1 h
  cases haccepts : n.acceptsUsers (counts.of n.id) with
  | false => rfl
  | true =>
    have hready : n ∈ candidates.filter fun n =>
        n.health == .online && n.acceptsUsers (counts.of n.id) :=
      List.mem_filter.2 ⟨hn, by simp [honline, haccepts]⟩
    cases hlist : candidates.filter fun n =>
        n.health == .online && n.acceptsUsers (counts.of n.id) with
    | nil =>
      rw [hlist] at hready
      cases hready
    | cons first rest =>
      rw [hlist] at hready hm
      obtain ⟨hfirst, hrest⟩ := not_preferred_of_foldl hid hm
      rcases List.mem_cons.1 hready with rfl | hmem
      · cases hpreferred.symm.trans hfirst
      · cases hpreferred.symm.trans (hrest n hmem)

end Preference

/-! ### Room -/

namespace Fleet

/-- The nodes to which a reassignment gives users as long as they have room. -/
def targets (f : Fleet) : List Node := f.nodes.filter fun n => n.enabled && n.health == .online

/-- The number of users that a node may still be given. -/
def room (f : Fleet) (n : Node) : ℕ∞ :=
  if n.maxUsers = 0 then ⊤ else ((n.maxUsers - f.userCount n.id).toNat : ℕ)

/-- The room of all nodes to which a reassignment gives users. -/
def spare (f : Fleet) : ℕ∞ := (f.targets.map f.room).sum

/-- The tables with a row more for each of some moves. -/
def withMoves (now : Instant) (moves : List (String × Int)) (f : Fleet) : Fleet :=
  { f with
    assignments := f.assignments ++ moves.map fun move => ⟨move.1, move.2, now.toText⟩ }

variable {f : Fleet} {now : Instant} {n : Node} {user : String} {id other : Int}

theorem mem_targets : n ∈ f.targets ↔ n ∈ f.nodes ∧ n.enabled = true ∧ n.health = .online := by
  simp [targets, List.mem_filter]

@[simp] theorem withMoves_nil : f.withMoves now [] = f := by
  simp [withMoves]

theorem withMoves_cons {move : String × Int} {moves : List (String × Int)} :
    f.withMoves now (move :: moves) = (f.withMoves now [move]).withMoves now moves := by
  simp [withMoves]

theorem userCount_withMoves_single :
    (f.withMoves now [(user, id)]).userCount other =
      f.userCount other + if id = other then 1 else 0 := by
  simp [userCount, withMoves, List.countP_append, List.countP_cons]

/-- An enabled online node takes users exactly while it has room. -/
theorem room_eq_zero (hn : n ∈ f.targets) :
    f.room n = 0 ↔ n.acceptsUsers (f.userCount n.id) = false := by
  obtain ⟨-, henabled, honline⟩ := mem_targets.1 hn
  unfold room Node.acceptsUsers
  rw [henabled, honline]
  by_cases hmax : n.maxUsers = 0
  · simp [hmax]
  · rw [if_neg hmax, Nat.cast_eq_zero, Int.toNat_eq_zero]
    simp [hmax]

/-- A user takes one place of the node, and leaves all others. -/
theorem room_withMoves_of_ne (hid : id ≠ n.id) :
    (f.withMoves now [(user, id)]).room n = f.room n := by
  unfold room
  rw [userCount_withMoves_single, if_neg hid, Nat.add_zero]

theorem room_withMoves_self (haccepts : n.acceptsUsers (f.userCount n.id) = true) :
    f.room n = (f.withMoves now [(user, n.id)]).room n + 1 := by
  obtain ⟨-, -, hroom⟩ := Node.acceptsUsers_iff.1 haccepts
  unfold room
  rw [userCount_withMoves_single, if_pos rfl]
  by_cases hmax : n.maxUsers = 0
  · simp [hmax]
  · have hlt : (f.userCount n.id : Int) < n.maxUsers := hroom.resolve_left hmax
    have hnext : (n.maxUsers - f.userCount n.id).toNat =
        (n.maxUsers - (f.userCount n.id + 1 : Nat)).toNat + 1 := by omega
    rw [if_neg hmax, if_neg hmax, hnext]
    push_cast
    rfl

/-- A sum in which one term goes down by one. -/
theorem sum_map_of_pred {α : Type} {g h : α → ℕ∞} {rows : List α} {x : α} (hx : x ∈ rows)
    (hnodup : rows.Nodup) (hself : g x = h x + 1) (hother : ∀ y ∈ rows, y ≠ x → g y = h y) :
    (rows.map g).sum = (rows.map h).sum + 1 := by
  obtain ⟨before, later, rfl⟩ := List.append_of_mem hx
  have hbefore : before.map g = before.map h := by
    apply List.map_congr_left
    intro y hy
    apply hother y (List.mem_append_left _ hy)
    rintro rfl
    exact List.disjoint_of_nodup_append hnodup hy List.mem_cons_self
  have hlater : later.map g = later.map h := by
    apply List.map_congr_left
    intro y hy
    apply hother y (List.mem_append_right _ (List.mem_cons_of_mem _ hy))
    rintro rfl
    exact (List.nodup_cons.1 (List.nodup_append.1 hnodup).2.1).1 hy
  simp only [List.map_append, List.map_cons, List.sum_append, List.sum_cons, hbefore, hlater, hself]
  ac_rfl

theorem Sound.nodup_targets (hs : Sound f) : f.targets.Nodup :=
  (List.Nodup.of_map _ (hs.nodes_ascend.imp Int.ne_of_lt)).filter _

/-- A user who is given a node takes one place of the spare room. -/
theorem spare_withMoves (hs : Sound f) (hn : n ∈ f.targets)
    (haccepts : n.acceptsUsers (f.userCount n.id) = true) :
    f.spare = (f.withMoves now [(user, n.id)]).spare + 1 := by
  refine sum_map_of_pred hn hs.nodup_targets (room_withMoves_self haccepts) ?_
  intro m hm hne
  refine (room_withMoves_of_ne ?_).symm
  intro hid
  exact hne (hs.node_inj (mem_targets.1 hm).1 (mem_targets.1 hn).1 hid.symm)

/-- There is no spare room if no target takes users. -/
theorem spare_eq_zero (h : ∀ n ∈ f.targets, n.acceptsUsers (f.userCount n.id) = false) :
    f.spare = 0 := by
  apply List.sum_eq_zero
  intro room hroom
  obtain ⟨n, hn, rfl⟩ := List.mem_map.1 hroom
  exact (room_eq_zero hn).2 (h n hn)

end Fleet

/-! ### The users of a job -/

/-- Users under the names that are stored, each once, and none of them with a node. -/
structure Fleet.Homeless (f : Fleet) (users : List String) : Prop where
  nodup : users.Nodup
  named : ∀ user ∈ users, Text.trim user = user ∧ user ≠ ""
  unplaced : ∀ user ∈ users, f.assignment? user = none

/-- What a reassignment makes of users without nodes: it moves the first of them, as many as there
are places, with one row for each and no other change. As long as a preferred node has room, no user
is moved to one that is not preferred. -/
structure Fleet.Fills (now : Instant) (preferred : List Int) (users : List String) (f : Fleet)
    (report : ReassignReport) (f' : Fleet) : Prop where
  users_eq : users = report.moved.map (·.1) ++ report.unplaced
  length_eq : (report.moved.length : ℕ∞) = min (users.length : ℕ∞) f.spare
  fleet_eq : f' = f.withMoves now report.moved
  preferred_full : ∀ before user target later, report.moved = before ++ (user, target) :: later →
    preferred.contains target = false →
    ∀ n ∈ f.targets, preferred.contains n.id = true → (f.withMoves now before).room n = 0

namespace Fleet

variable {f f' : Fleet} {now : Instant} {preferred : List Int} {users : List String}
  {user : String} {id : Int}

theorem Homeless.tail (h : f.Homeless (user :: users)) : f.Homeless users where
  nodup := (List.nodup_cons.1 h.nodup).2
  named u hu := h.named u (List.mem_cons_of_mem _ hu)
  unplaced u hu := h.unplaced u (List.mem_cons_of_mem _ hu)

/-- The other users have no node either when one is moved. -/
theorem Homeless.withMoves (h : f.Homeless (user :: users)) :
    (f.withMoves now [(user, id)]).Homeless users where
  nodup := h.tail.nodup
  named := h.tail.named
  unplaced u hu := by
    have hne : user ≠ u := by
      rintro rfl
      exact (List.nodup_cons.1 h.nodup).1 hu
    have hnone : f.assignments.find? (·.userId = u) = none := h.tail.unplaced u hu
    unfold assignment? Fleet.withMoves
    rw [List.find?_append, hnone]
    simp [hne]

/-- A user without a node gets a new row. -/
theorem putAssignment_of_unplaced (h : f.assignment? user = none) :
    f.putAssignment ⟨user, id, now.toText⟩ = f.withMoves now [(user, id)] := by
  have hnone : ¬(f.assignments.any (·.userId = user)) = true := by
    simpa [assignment?] using h
  unfold putAssignment withMoves upsert
  rw [if_neg hnone]
  rfl

theorem Fills.nil : Fills now preferred [] f ⟨[], []⟩ f where
  users_eq := rfl
  length_eq := by simp
  fleet_eq := withMoves_nil.symm
  preferred_full before _ _ later h := by simp at h

/-- Without spare room, a user more is left out. -/
theorem Fills.unplaced {report : ReassignReport} (h : Fills now preferred users f report f')
    (hspare : f.spare = 0) :
    Fills now preferred (user :: users) f
      { report with unplaced := user :: report.unplaced } f' := by
  have hmoved : report.moved = [] := by
    have hlength := h.length_eq
    rw [hspare, min_eq_right zero_le, Nat.cast_eq_zero] at hlength
    exact List.length_eq_zero_iff.1 hlength
  constructor
  · have husers := h.users_eq
    rw [hmoved] at husers ⊢
    exact congrArg (user :: ·) husers
  · rw [hmoved, hspare]
    simp
  · exact h.fleet_eq
  · exact h.preferred_full

/-- A user who is moved comes before those that are moved later. -/
theorem Fills.moved {report : ReassignReport}
    (h : Fills now preferred users (f.withMoves now [(user, id)]) report f')
    (hspare : f.spare = (f.withMoves now [(user, id)]).spare + 1)
    (hfull : preferred.contains id = false →
      ∀ n ∈ f.targets, preferred.contains n.id = true → f.room n = 0) :
    Fills now preferred (user :: users) f
      { report with moved := (user, id) :: report.moved } f' := by
  constructor
  · rw [List.map_cons, List.cons_append, ← h.users_eq]
  · rw [hspare, List.length_cons, List.length_cons]
    push_cast
    rw [min_add_add_right, h.length_eq]
  · rw [withMoves_cons]
    exact h.fleet_eq
  · intro before name target later hmoved htarget n hn hpreferred
    cases before with
    | nil =>
      obtain ⟨⟨rfl, rfl⟩, rfl⟩ : (user = name ∧ id = target) ∧ report.moved = later := by
        simpa using hmoved
      rw [withMoves_nil]
      exact hfull htarget n hn hpreferred
    | cons first before =>
      obtain ⟨rfl, hrest⟩ := List.cons.inj hmoved
      rw [withMoves_cons]
      exact h.preferred_full before name target later hrest htarget n hn hpreferred

end Fleet

namespace Action

variable {now : Instant} {candidates : List Node} {preferred : List Int} {users : List String}
  {counts : UserCounts} {p p' : Panel} {report : ReassignReport} {user : String} {target : Int}

/-- The chosen node takes the user, if the counts are right. -/
theorem on_assign_of_pickTarget (hopen : p.isOpen = true) (hs : p.fleet.Sound)
    (hfree : p.fleet.Homeless (user :: users))
    (hcounts : ∀ id, counts.of id = p.fleet.userCount id)
    (htarget : pickTarget p.fleet.targets counts preferred = some target) :
    ∃ n ∈ p.fleet.targets, n.id = target ∧
      n.acceptsUsers (p.fleet.userCount target) = true ∧
      (assign now target user).on p =
        (.ok ⟨user, target, now.toText⟩,
          { p with fleet := p.fleet.withMoves now [(user, target)] }) := by
  obtain ⟨n, hn, rfl, -, haccepts⟩ := pickTarget_eq_some htarget
  rw [hcounts] at haccepts
  obtain ⟨htrim, hname⟩ := hfree.named user List.mem_cons_self
  have hnone := hfree.unplaced user List.mem_cons_self
  refine ⟨n, hn, rfl, haccepts, ?_⟩
  have hplace : Fleet.place now n.id user p.fleet =
      .ok (⟨user, n.id, now.toText⟩, p.fleet.withMoves now [(user, n.id)]) := by
    rw [Fleet.place_eq_ok]
    refine ⟨n, hs.node?_eq (Fleet.mem_targets.1 hn).1, .inr ⟨?_, haccepts, ?_⟩⟩
    · rw [hnone]
      exact nofun
    · rw [Fleet.putAssignment_of_unplaced hnone]
  have hnonempty : ¬(Text.trim user).isEmpty = true := by
    rw [htrim, String.isEmpty_iff]
    exact hname
  dsimp only [assign]
  rw [if_neg hnonempty, htrim]
  exact on_transact_eq_ok.2 ⟨hopen, _, hplace, rfl⟩

/-- Users without nodes fill the fleet, as long as the counts are right. -/
theorem Reassigned.fills (h : Reassigned now candidates preferred users counts p report p')
    (hopen : p.isOpen = true) (hs : p.fleet.Sound) (hfree : p.fleet.Homeless users)
    (hcandidates : candidates = p.fleet.targets)
    (hcounts : ∀ id, counts.of id = p.fleet.userCount id) :
    Fleet.Fills now preferred users p.fleet report p'.fleet := by
  induction h with
  | done => exact .nil
  | unplaced htarget _ ih =>
    refine (ih hopen hs hfree.tail hcandidates hcounts).unplaced (Fleet.spare_eq_zero ?_)
    intro n hn
    have hfull := pickTarget_eq_none.1 htarget n (hcandidates ▸ hn) (Fleet.mem_targets.1 hn).2.2
    rwa [hcounts] at hfull
  | refused htarget hassign _ _ =>
    rw [hcandidates] at htarget
    obtain ⟨n, -, -, -, hon⟩ := on_assign_of_pickTarget hopen hs hfree hcounts htarget
    cases hassign.symm.trans hon
  | @moved user users counts p m p' report target a htarget hassign _ ih =>
    rw [hcandidates] at htarget
    obtain ⟨n, hn, rfl, haccepts, hon⟩ :=
      on_assign_of_pickTarget hopen hs hfree hcounts htarget
    have hplaced := place_of_on_assign hassign
    cases hassign.symm.trans hon
    apply Fleet.Fills.moved
    · refine ih hopen ((Fleet.write_place hplaced).sound hs) hfree.withMoves hcandidates ?_
      intro id
      rw [UserCounts.of_add, hcounts, Fleet.userCount_withMoves_single]
      push_cast
      rfl
    · exact Fleet.spare_withMoves hs hn haccepts
    · intro hid m hm hpreferred
      rw [Fleet.room_eq_zero hm, ← hcounts]
      exact full_of_pickTarget htarget hid hm (Fleet.mem_targets.1 hm).2.2 hpreferred

end Action

end NodeFleet
