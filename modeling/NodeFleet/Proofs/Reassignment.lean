import NodeFleet.Proofs.Integrity

/-!
# Assignments and reassignments

What an assignment does, and what a reassignment does user by user. `Reassigned` has one case for
each way in which a user of the job may fare; a statement about a whole reassignment is an induction
over it.
-/

namespace NodeFleet

/-! ### The choice of a node -/

theorem mem_of_foldl_betterTarget {counts : UserCounts} {preferred : List Int} {n : Node}
    {best : Option Node} {nodes : List Node}
    (h : nodes.foldl (betterTarget counts preferred) best = some n) :
    best = some n ∨ n ∈ nodes := by
  induction nodes generalizing best with
  | nil => exact .inl h
  | cons m nodes ih =>
    rw [List.foldl_cons] at h
    rcases ih h with hbest | hmem
    · -- the better of two nodes is one of them
      cases best with
      | none => exact .inr (List.mem_cons.2 (.inl (Option.some.inj hbest).symm))
      | some b =>
        simp only [betterTarget] at hbest
        split at hbest
        · exact .inr (List.mem_cons.2 (.inl (Option.some.inj hbest).symm))
        · exact .inl hbest
    · exact .inr (List.mem_cons_of_mem m hmem)

/-- The chosen node is an online candidate that takes users. -/
theorem pickTarget_eq_some {candidates : List Node} {counts : UserCounts} {preferred : List Int}
    {id : Int} (h : pickTarget candidates counts preferred = some id) :
    ∃ n ∈ candidates, n.id = id ∧ n.health = .online ∧ n.acceptsUsers (counts.of id) = true := by
  obtain ⟨n, hn, rfl⟩ := Option.map_eq_some_iff.1 h
  rcases mem_of_foldl_betterTarget hn with hnone | hmem
  · cases hnone
  · simp only [List.mem_filter, Bool.and_eq_true, beq_iff_eq] at hmem
    exact ⟨n, hmem.1, rfl, hmem.2⟩

/-! ### The assignment of a user -/

namespace Fleet

/-- The node that a user has. -/
def nodeOf? (f : Fleet) (user : String) : Option Int := (f.assignment? user).map (·.nodeId)

variable {f f' : Fleet} {user : String} {id : Int}

theorem Sound.nodeOf?_eq_some (h : Sound f) :
    f.nodeOf? user = some id ↔ ∃ a ∈ f.assignments, a.userId = user ∧ a.nodeId = id := by
  simp only [nodeOf?, Option.map_eq_some_iff, assignment?, find?_key_eq_some h.assignment_keys,
    and_assoc]

theorem nodeOf?_congr (h : f'.assignments = f.assignments) : f'.nodeOf? user = f.nodeOf? user := by
  rw [nodeOf?, nodeOf?, assignment?, assignment?, h]

/-- Storing an assignment gives its user the node, and leaves all other users their nodes. -/
theorem nodeOf?_putAssignment {a : Assignment} :
    (f.putAssignment a).nodeOf? user =
      if a.userId = user then some a.nodeId else f.nodeOf? user := by
  have hrow : (f.putAssignment a).assignment? user =
      if a.userId = user then some a else f.assignment? user :=
    find?_upsert user
  unfold nodeOf?
  rw [hrow]
  split
  · rfl
  · rfl

/-- A user who loses the assignment has no node, and all other users keep their nodes. -/
theorem nodeOf?_filter_userId {name : String} :
    nodeOf? { f with assignments := f.assignments.filter (·.userId ≠ name) } user =
      if name = user then none else f.nodeOf? user := by
  have hrow : (f.assignments.filter (·.userId ≠ name)).find? (·.userId = user) =
      if name = user then none else f.assignments.find? (·.userId = user) :=
    find?_filter_key name user
  unfold nodeOf? assignment?
  rw [hrow]
  split
  · rfl
  · rfl

/-- A user gets the node, on which the user is already or which takes users; all other users keep
their nodes, and the nodes stay as they are. -/
theorem place_spec {now : Instant} {a : Assignment} (h : place now id user f = .ok (a, f')) :
    f'.nodes = f.nodes ∧
      (∀ u, f'.nodeOf? u = if user = u then some id else f.nodeOf? u) ∧
      (f.nodeOf? user = some id ∨
        ∃ n, f.node? id = some n ∧ n.acceptsUsers (f.userCount id) = true) := by
  obtain ⟨n, hn, ⟨b, hb, hid, he⟩ | ⟨-, hroom, he⟩⟩ := place_eq_ok.1 h
  · cases he
    have hplaced : f.nodeOf? user = some id := by rw [nodeOf?, hb, Option.map_some, hid]
    refine ⟨rfl, fun u => ?_, .inl hplaced⟩
    split
    · next hu => rw [← hu, hplaced]
    · rfl
  · cases he
    exact ⟨rfl, fun u => nodeOf?_putAssignment, .inr ⟨n, hn, hroom⟩⟩

/-! ### The users of a node -/

/-- The job of a deleted node has the users of the node. -/
theorem Sound.mem_jobOf (hs : Sound f) {user : String} {id : Int} :
    user ∈ (f.jobOf id).userIds ↔ f.nodeOf? user = some id := by
  rw [hs.nodeOf?_eq_some]
  simp only [Fleet.jobOf, List.mem_map, List.mem_filter, decide_eq_true_eq]
  constructor
  · rintro ⟨a, ⟨ha, hid⟩, hname⟩
    exact ⟨a, ha, hname, hid⟩
  · rintro ⟨a, ha, hname, hid⟩
    exact ⟨a, ⟨ha, hid⟩, hname⟩

/-- The users of a node lose it when it goes. -/
theorem Sound.nodeOf?_withoutNode (hs : Sound f) {user : String} {id : Int} :
    (f.withoutNode id).nodeOf? user =
      if f.nodeOf? user = some id then none else f.nodeOf? user := by
  have hrow (other : Int) :
      (f.withoutNode id).nodeOf? user = some other ↔ f.nodeOf? user = some other ∧ other ≠ id := by
    rw [hs.nodeOf?_eq_some, hs.withoutNode.nodeOf?_eq_some]
    simp only [Fleet.withoutNode, List.mem_filter, decide_eq_true_eq]
    constructor
    · rintro ⟨a, ⟨ha, hne⟩, hname, rfl⟩
      exact ⟨⟨a, ha, hname, rfl⟩, hne⟩
    · rintro ⟨⟨a, ha, hname, rfl⟩, hne⟩
      exact ⟨a, ⟨ha, hne⟩, hname, rfl⟩
  apply Option.ext
  intro other
  rw [hrow]
  split
  · next hbefore =>
    rw [hbefore]
    simp [eq_comm]
  · next hbefore =>
    constructor
    · exact And.left
    · intro hother
      refine ⟨hother, ?_⟩
      rintro rfl
      exact hbefore hother

end Fleet

/-! ### Moves -/

/-- The node to which moves take a user last. -/
def lastMove? (user : String) (moves : List (String × Int)) : Option Int :=
  ((moves.filter fun move => Text.trim move.1 = user).getLast?).map (·.2)

theorem lastMove?_cons {user name : String} {id : Int} {moves : List (String × Int)} :
    lastMove? user ((name, id) :: moves) =
      (lastMove? user moves).or (if Text.trim name = user then some id else none) := by
  unfold lastMove?
  by_cases hname : Text.trim name = user
  · rw [List.filter_cons_of_pos (by simpa using hname), List.getLast?_cons, if_pos hname]
    cases (moves.filter fun move => Text.trim move.1 = user).getLast? with
    | none => rfl
    | some move => rfl
  · rw [List.filter_cons_of_neg (by simpa using hname), if_neg hname, Option.or_none]

theorem mem_of_lastMove? {user : String} {id : Int} {moves : List (String × Int)}
    (h : lastMove? user moves = some id) : ∃ name, (name, id) ∈ moves ∧ Text.trim name = user := by
  obtain ⟨⟨name, target⟩, hlast, rfl⟩ := Option.map_eq_some_iff.1 h
  have hmem := List.mem_filter.1 (List.mem_of_getLast? hlast)
  exact ⟨name, hmem.1, of_decide_eq_true hmem.2⟩

namespace Action

variable {now : Instant} {p p' : Panel}

/-- An assignment is refused, or it places the user. -/
theorem on_assign_cases (now : Instant) (id : Int) (user : String) (p : Panel) :
    (∃ e, (assign now id user).on p = (.error e, p)) ∨
    ∃ a f, Fleet.place now id (Text.trim user) p.fleet = .ok (a, f) ∧
      (assign now id user).on p = (.ok a, { p with fleet := f }) := by
  dsimp only [assign]
  split
  · exact .inl ⟨_, rfl⟩
  · rcases on_transact_cases (Fleet.place now id (Text.trim user)) p with
      ⟨a, f, -, h, hon⟩ | ⟨e, hon⟩
    · exact .inr ⟨a, f, h, hon⟩
    · exact .inl ⟨e, hon⟩

theorem place_of_on_assign {id : Int} {user : String} {a : Assignment}
    (h : (assign now id user).on p = (.ok a, p')) :
    Fleet.place now id (Text.trim user) p.fleet = .ok (a, p'.fleet) := by
  rcases on_assign_cases now id user p with ⟨e, hon⟩ | ⟨b, f, hplace, hon⟩
  · cases hon.symm.trans h
  · cases hon.symm.trans h
    exact hplace

/-! ### The users of a job -/

/-- A reassignment of users with given counts, from a panel to a report and the panel after it. -/
inductive Reassigned (now : Instant) (candidates : List Node) (preferred : List Int) :
    List String → UserCounts → Panel → ReassignReport → Panel → Prop where
  | done {counts : UserCounts} {p : Panel} :
      Reassigned now candidates preferred [] counts p ⟨[], []⟩ p
  /-- There is no node for the user. -/
  | unplaced {user : String} {users : List String} {counts : UserCounts} {p p' : Panel}
      {report : ReassignReport} (htarget : pickTarget candidates counts preferred = none)
      (h : Reassigned now candidates preferred users counts p report p') :
      Reassigned now candidates preferred (user :: users) counts p
        { report with unplaced := user :: report.unplaced } p'
  /-- The chosen node does not take the user. -/
  | refused {user : String} {users : List String} {counts : UserCounts} {p p' : Panel}
      {report : ReassignReport} {target : Int} {e : Error}
      (htarget : pickTarget candidates counts preferred = some target)
      (hassign : (assign now target user).on p = (.error e, p))
      (h : Reassigned now candidates preferred users counts p report p') :
      Reassigned now candidates preferred (user :: users) counts p
        { report with unplaced := user :: report.unplaced } p'
  /-- The user gets the chosen node. -/
  | moved {user : String} {users : List String} {counts : UserCounts} {p m p' : Panel}
      {report : ReassignReport} {target : Int} {a : Assignment}
      (htarget : pickTarget candidates counts preferred = some target)
      (hassign : (assign now target user).on p = (.ok a, m))
      (h : Reassigned now candidates preferred users (counts.add target) m report p') :
      Reassigned now candidates preferred (user :: users) counts p
        { report with moved := (user, target) :: report.moved } p'

/-- Trying an action tells whether it succeeded. -/
theorem on_succeeds {α : Type} (action : Action α) (p : Panel) :
    (succeeds action).on p = (.ok (action.on p).1.isOk, (action.on p).2) := by
  simp only [on, succeeds]
  split
  · next h => rw [h]; rfl
  · next h => rw [h]; rfl

/-- The users of a job always get through. -/
theorem reassigned_reassignEach (now : Instant) (candidates : List Node) (preferred : List Int)
    (users : List String) (counts : UserCounts) (p : Panel) :
    ∃ report p', (reassignEach now candidates preferred users counts).on p = (.ok report, p') ∧
      Reassigned now candidates preferred users counts p report p' := by
  induction users generalizing counts p with
  | nil => exact ⟨⟨[], []⟩, p, rfl, .done⟩
  | cons user users ih =>
    unfold reassignEach
    cases htarget : pickTarget candidates counts preferred with
    | none =>
      obtain ⟨report, p', hon, hrest⟩ := ih counts p
      exact ⟨_, p', on_bind_of_ok hon, .unplaced htarget hrest⟩
    | some target =>
      rcases on_assign_cases now target user p with ⟨e, hassign⟩ | ⟨a, f, -, hassign⟩
      · obtain ⟨report, p', hon, hrest⟩ := ih counts p
        have htry : (succeeds (assign now target user)).on p = (.ok false, p) := by
          rw [on_succeeds, hassign]
          rfl
        exact ⟨_, p', (on_bind_of_ok htry).trans (on_bind_of_ok hon),
          .refused htarget hassign hrest⟩
      · obtain ⟨report, p', hon, hrest⟩ := ih (counts.add target) { p with fleet := f }
        have htry : (succeeds (assign now target user)).on p =
            (.ok true, { p with fleet := f }) := by
          rw [on_succeeds, hassign]
          rfl
        exact ⟨_, p', (on_bind_of_ok htry).trans (on_bind_of_ok hon),
          .moved htarget hassign hrest⟩

/-- With an open database, a reassignment goes through the users of the job, with the enabled online
nodes as candidates, if its groups can be asked for. -/
theorem on_reassign_of_open (hopen : p.isOpen = true) (now : Instant) {job : ReassignJob}
    (hgroups : job.groupIds.length ≤ maxValues) :
    ∃ report p', (reassign now job).on p = (.ok report, p') ∧
      Reassigned now (p.fleet.nodes.filter fun n => n.enabled && n.health == .online)
        (p.fleet.membersOf job.groupIds) job.userIds p.fleet.userCounts p report p' := by
  obtain ⟨report, p', hon, hrest⟩ := reassigned_reassignEach now
    (p.fleet.nodes.filter fun n => n.enabled && n.health == .online)
    (p.fleet.membersOf job.groupIds) job.userIds p.fleet.userCounts p
  unfold reassign
  refine ⟨report, p', ?_, hrest⟩
  rw [on_bind, on_read_of_open hopen, checkValues_of_le hgroups]
  exact hon

/-- A job with too many groups is refused. -/
theorem on_reassign_of_many (hopen : p.isOpen = true) (now : Instant) {job : ReassignJob}
    (hgroups : maxValues < job.groupIds.length) :
    (reassign now job).on p = (.error tooManyValues, p) := by
  unfold reassign
  apply on_bind_of_error
  rw [on_read_of_open hopen, checkValues_of_gt hgroups]
  rfl

/-- A reassignment is refused, or it goes through the users of the job. -/
theorem on_reassign_cases (now : Instant) (job : ReassignJob) (p : Panel) :
    (∃ e, (reassign now job).on p = (.error e, p)) ∨
    ∃ report p', (reassign now job).on p = (.ok report, p') ∧
      Reassigned now (p.fleet.nodes.filter fun n => n.enabled && n.health == .online)
        (p.fleet.membersOf job.groupIds) job.userIds p.fleet.userCounts p report p' := by
  cases hopen : p.isOpen with
  | false =>
    unfold reassign
    exact .inl ⟨databaseClosed, on_bind_of_error (on_read_of_closed hopen _)⟩
  | true =>
    rcases Nat.lt_or_ge maxValues job.groupIds.length with hmany | hfew
    · exact .inl ⟨tooManyValues, on_reassign_of_many hopen now hmany⟩
    · exact .inr (on_reassign_of_open hopen now hfew)

namespace Reassigned

variable {candidates : List Node} {preferred : List Int} {users : List String}
  {counts : UserCounts} {report : ReassignReport}

theorem nodes_eq (h : Reassigned now candidates preferred users counts p report p') :
    p'.fleet.nodes = p.fleet.nodes := by
  induction h with
  | done => rfl
  | unplaced _ _ ih => exact ih
  | refused _ _ _ ih => exact ih
  | moved _ hassign _ ih => exact ih.trans (Fleet.place_spec (place_of_on_assign hassign)).1

/-- A user that is told to be moved is a user of the job, and the node was an online candidate. -/
theorem of_mem_moved (h : Reassigned now candidates preferred users counts p report p')
    {user : String} {id : Int} (hm : (user, id) ∈ report.moved) :
    user ∈ users ∧ ∃ n ∈ candidates, n.id = id ∧ n.health = .online := by
  induction h with
  | done => cases hm
  | unplaced _ _ ih => exact (ih hm).imp_left (List.mem_cons_of_mem _)
  | refused _ _ _ ih => exact (ih hm).imp_left (List.mem_cons_of_mem _)
  | moved htarget _ _ ih =>
    rcases List.mem_cons.1 hm with he | hm
    · cases he
      obtain ⟨n, hn, hid, honline, -⟩ := pickTarget_eq_some htarget
      exact ⟨List.mem_cons_self, n, hn, hid, honline⟩
    · exact (ih hm).imp_left (List.mem_cons_of_mem _)

/-- A user whose node is another one afterwards is told to be moved to it, at a moment at which that
node took users. -/
theorem gain (h : Reassigned now candidates preferred users counts p report p') {user : String}
    {id : Int} (hbefore : p.fleet.nodeOf? user ≠ some id)
    (hafter : p'.fleet.nodeOf? user = some id) :
    (∃ name, (name, id) ∈ report.moved ∧ Text.trim name = user) ∧
      ∃ (n : Node) (current : Nat), p.fleet.node? id = some n ∧ n.acceptsUsers current = true := by
  induction h with
  | done => exact absurd hafter hbefore
  | unplaced _ _ ih => exact ih hbefore hafter
  | refused _ _ _ ih => exact ih hbefore hafter
  | @moved name _ _ p m p' _ target a _ hassign _ ih =>
    obtain ⟨hnodes, hnode, hroom⟩ := Fleet.place_spec (place_of_on_assign hassign)
    by_cases hmid : m.fleet.nodeOf? user = some id
    · -- it is this move that changes the node of the user
      rw [hnode] at hmid
      split at hmid
      · next hname =>
        cases hmid
        refine ⟨⟨name, List.mem_cons_self, hname⟩, ?_⟩
        rcases hroom with hplaced | ⟨n, hn, haccepts⟩
        · exact absurd (hname ▸ hplaced) hbefore
        · exact ⟨n, _, hn, haccepts⟩
      · exact absurd hmid hbefore
    · obtain ⟨⟨name', hmoved, hname⟩, n, current, hn, haccepts⟩ := ih hmid hafter
      refine ⟨⟨name', List.mem_cons_of_mem _ hmoved, hname⟩, n, current, ?_, haccepts⟩
      rw [Fleet.node?, ← hnodes]
      exact hn

/-- A user has the node of the last move of the report that is about the user, and otherwise the
node from before. -/
theorem nodeOf?_eq (h : Reassigned now candidates preferred users counts p report p')
    (user : String) :
    p'.fleet.nodeOf? user = (lastMove? user report.moved).or (p.fleet.nodeOf? user) := by
  induction h with
  | done => rfl
  | unplaced _ _ ih => exact ih
  | refused _ _ _ ih => exact ih
  | @moved name _ _ p m _ _ target _ _ hassign _ ih =>
    obtain ⟨-, hnode, -⟩ := Fleet.place_spec (place_of_on_assign hassign)
    rw [ih, hnode user, lastMove?_cons, Option.or_assoc]
    split
    · rfl
    · rfl

/-- A user who has a node has one afterwards: the same, or the one that the user is told to be moved
to. -/
theorem keep (h : Reassigned now candidates preferred users counts p report p') {user : String}
    {id : Int} (hbefore : p.fleet.nodeOf? user = some id) :
    ∃ other, p'.fleet.nodeOf? user = some other ∧
      (other = id ∨ ∃ name, (name, other) ∈ report.moved ∧ Text.trim name = user) := by
  have hnode := h.nodeOf?_eq user
  cases hlast : lastMove? user report.moved with
  | none =>
    rw [hlast, Option.none_or, hbefore] at hnode
    exact ⟨id, hnode, .inl rfl⟩
  | some other =>
    rw [hlast, Option.some_or] at hnode
    exact ⟨other, hnode, .inr (mem_of_lastMove? hlast)⟩

end Reassigned

end Action

end NodeFleet
