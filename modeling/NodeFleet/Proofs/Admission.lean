import NodeFleet.Proofs.Capacity
import NodeFleet.Proofs.Reassignment

/-!
# Who comes to a node, and who leaves it

A user comes to a node by an assignment or a reassignment only, and only if the node takes users
then. A user leaves a node by going to another one, by losing the assignment, or with the node. All
other events leave the nodes of the users as they are.
-/

namespace NodeFleet

/-- Whether a deed is about the nodes of users. -/
def Deed.touchesAssignments : Deed → Prop
  | deleteNode _ | assign _ _ | unassign _ => True
  | _ => False

theorem Fleet.Write.assignments_eq {f f' : Fleet} {d : Deed} (h : Write d f f')
    (hd : ¬d.touchesAssignments) : f'.assignments = f.assignments := by
  cases h with
  | deleteNode | assign | unassign => exact absurd trivial hd
  | same | createNode | updateNode | setEnabled | install | refusedInstall | issueToken
  | rotateToken | revokeToken | createGroup | updateGroup | deleteGroup | addMember | removeMember
  | heartbeat | evaluate => rfl

theorem Node.acceptsUsers_iff {n : Node} {current : Int} :
    n.acceptsUsers current = true ↔
      n.enabled = true ∧ n.health ≠ .offline ∧ (n.maxUsers = 0 ∨ current < n.maxUsers) := by
  simp [acceptsUsers, and_assoc]

namespace Event

variable {e : Event} {p : Panel} {user : String} {id : Int}

/-- An assignment that succeeds in giving a node to a user. -/
def Assigns (e : Event) (p : Panel) (user : String) (id : Int) : Prop :=
  ∃ now name a, e = .ask (.assign now id name) ∧ Text.trim name = user ∧
    (Operation.assign now id name).answer p = .ok a

/-- A reassignment that tells that it has moved a user of its job to a node. -/
def Reassigns (e : Event) (p : Panel) (user : String) (id : Int) : Prop :=
  ∃ now job report name, e = .ask (.reassign now job) ∧ Text.trim name = user ∧
    (Operation.reassign now job).answer p = .ok report ∧ name ∈ job.userIds ∧
    (name, id) ∈ report.moved

/-- Only four kinds of events are about the nodes of users. -/
theorem of_touchesAssignments {d : Deed} (h : e.deeds d) (hd : d.touchesAssignments) :
    (∃ now id name, e = .ask (.assign now id name)) ∨
    (∃ now job, e = .ask (.reassign now job)) ∨
    (∃ name, e = .ask (.unassign name)) ∨ ∃ id, e = .ask (.deleteNode id) := by
  cases e with
  | world isOpen shell => exact h.elim
  | ask op =>
    cases op with
    | assign now id name => exact .inl ⟨now, id, name, rfl⟩
    | reassign now job => exact .inr (.inl ⟨now, job, rfl⟩)
    | unassign name => exact .inr (.inr (.inl ⟨name, rfl⟩))
    | deleteNode id => exact .inr (.inr (.inr ⟨id, rfl⟩))
    | createNode => obtain rfl | ⟨_, rfl⟩ := h <;> exact hd.elim
    | reconcile => obtain ⟨_, rfl⟩ := h; exact hd.elim
    | getNode | findNode | listNodes | loadInstall | tokenInfo | authenticate | getGroup
    | listGroups | userCount | userCounts | statistics => exact h.elim
    | _ => cases h; exact hd.elim

/-- All other events leave the nodes of the users. -/
theorem assignments_eq (h : ∀ d, e.deeds d → ¬d.touchesAssignments) :
    (e.after p).fleet.assignments = p.fleet.assignments :=
  (e.writes p).part_eq fun d _ _ hd hw => hw.assignments_eq (h d hd)

/-- How an event changes the nodes of users: not at all, by an assignment, by the moves of a job, by
the loss of an assignment, or by the loss of a node. -/
inductive Rehouses (p : Panel) : Event → Panel → Prop where
  | none {e : Event} {q : Panel} (h : q.fleet.assignments = p.fleet.assignments) : Rehouses p e q
  | assign {now : Instant} {id : Int} {name : String} {a : Assignment} {q : Panel}
      (hanswer : (Operation.assign now id name).answer p = .ok a)
      (hplace : Fleet.place now id (Text.trim name) p.fleet = .ok (a, q.fleet)) :
      Rehouses p (.ask (.assign now id name)) q
  | reassign {now : Instant} {job : ReassignJob} {report : ReassignReport} {q : Panel}
      (hanswer : (Operation.reassign now job).answer p = .ok report)
      (hmoves : Action.Reassigned now
        (p.fleet.nodes.filter fun n => n.enabled && n.health == .online)
        (p.fleet.membersOf job.groupIds) job.userIds p.fleet.userCounts p report q) :
      Rehouses p (.ask (.reassign now job)) q
  | unassign {name : String} {q : Panel}
      (h : q.fleet = { p.fleet with
        assignments := p.fleet.assignments.filter (·.userId ≠ name) }) :
      Rehouses p (.ask (.unassign name)) q
  | deleteNode {id : Int} {q : Panel} (h : q.fleet = p.fleet.withoutNode id) :
      Rehouses p (.ask (.deleteNode id)) q

/-- An operation that is refused changes no user's node. -/
theorem Rehouses.of_refused {α : Type} {op : Operation α} {error : Error}
    (hon : op.run.on p = (.error error, p)) : Rehouses p (.ask op) ((Event.ask op).after p) := by
  obtain ⟨-, hafter⟩ := op.answer_of_on hon
  exact .none (by rw [after_ask, hafter])

theorem rehouses_after (e : Event) (p : Panel) : Rehouses p e (e.after p) := by
  by_cases hd : ∃ d, e.deeds d ∧ d.touchesAssignments
  · obtain ⟨d, hdeed, hd⟩ := hd
    rcases of_touchesAssignments hdeed hd with
      ⟨now, id, name, rfl⟩ | ⟨now, job, rfl⟩ | ⟨name, rfl⟩ | ⟨id, rfl⟩
    · rcases Action.on_assign_cases now id name p with ⟨_, hon⟩ | ⟨a, f, hplace, hon⟩
      · exact .of_refused hon
      · obtain ⟨hanswer, hafter⟩ := (Operation.assign now id name).answer_of_on hon
        rw [after_ask, hafter]
        exact .assign hanswer hplace
    · rcases Action.on_reassign_cases now job p with ⟨_, hon⟩ | ⟨report, q, hon, hmoves⟩
      · exact .of_refused hon
      · obtain ⟨hanswer, hafter⟩ := (Operation.reassign now job).answer_of_on hon
        rw [after_ask, hafter]
        exact .reassign hanswer hmoves
    · rcases Action.on_unassign_cases name p with ⟨_, hon⟩ | ⟨-, hon⟩
      · exact .of_refused hon
      · obtain ⟨-, hafter⟩ := (Operation.unassign name).answer_of_on hon
        rw [after_ask, hafter]
        exact .unassign rfl
    · rcases Action.on_deleteNode_cases id p with ⟨_, hon⟩ | hon
      · exact .of_refused hon
      · obtain ⟨-, hafter⟩ := (Operation.deleteNode id).answer_of_on hon
        rw [after_ask, hafter]
        exact .deleteNode rfl
  · exact .none (assignments_eq fun d hdeed ht => hd ⟨d, hdeed, ht⟩)

namespace Rehouses

variable {q : Panel}

/-- A node that a user is told to be moved to was online. -/
theorem reassigns {now : Instant} {job : ReassignJob} {report : ReassignReport} {name : String}
    (hs : p.fleet.Sound) (hanswer : (Operation.reassign now job).answer p = .ok report)
    (hmoves : Action.Reassigned now
      (p.fleet.nodes.filter fun n => n.enabled && n.health == .online)
      (p.fleet.membersOf job.groupIds) job.userIds p.fleet.userCounts p report q)
    (hmoved : (name, id) ∈ report.moved) (hname : Text.trim name = user) :
    Reassigns (.ask (.reassign now job)) p user id ∧
      ∃ n, p.fleet.node? id = some n ∧ n.health = .online := by
  obtain ⟨hjob, n, hn, rfl, honline⟩ := hmoves.of_mem_moved hmoved
  exact ⟨⟨now, job, report, name, rfl, hname, hanswer, hjob, hmoved⟩, n,
    hs.node?_eq (List.mem_filter.1 hn).1, honline⟩

/-- A user comes to a node by an assignment or a reassignment, which leave the nodes as they are,
and the node took users. -/
theorem gain (h : Rehouses p e q) (hs : p.fleet.Sound) (hbefore : p.fleet.nodeOf? user ≠ some id)
    (hafter : q.fleet.nodeOf? user = some id) :
    q.fleet.nodes = p.fleet.nodes ∧ ∃ (n : Node) (current : Nat),
      p.fleet.node? id = some n ∧ n.acceptsUsers current = true ∧
        (e.Assigns p user id ∨ e.Reassigns p user id ∧ n.health = .online) := by
  cases h with
  | none h =>
    rw [Fleet.nodeOf?_congr h] at hafter
    exact absurd hafter hbefore
  | assign hanswer hplace =>
    obtain ⟨hnodes, hnode, hroom⟩ := Fleet.place_spec hplace
    rw [hnode] at hafter
    split at hafter
    · next hname =>
      cases hafter
      rcases hroom with hplaced | ⟨n, hn, haccepts⟩
      · exact absurd (hname ▸ hplaced) hbefore
      · exact ⟨hnodes, n, _, hn, haccepts, .inl ⟨_, _, _, rfl, hname, hanswer⟩⟩
    · exact absurd hafter hbefore
  | reassign hanswer hmoves =>
    obtain ⟨⟨name, hmoved, hname⟩, n, current, hn, haccepts⟩ := hmoves.gain hbefore hafter
    obtain ⟨hreassigns, m, hm, honline⟩ := reassigns hs hanswer hmoves hmoved hname
    cases hn.symm.trans hm
    exact ⟨hmoves.nodes_eq, n, current, hn, haccepts, .inr ⟨hreassigns, honline⟩⟩
  | unassign h =>
    rw [h, Fleet.nodeOf?_filter_userId] at hafter
    split at hafter
    · cases hafter
    · exact absurd hafter hbefore
  | deleteNode h =>
    rw [h, hs.nodeOf?_withoutNode] at hafter
    split at hafter
    · cases hafter
    · exact absurd hafter hbefore

/-- A user leaves a node by losing the assignment, with the node, or for another node. -/
theorem loss (h : Rehouses p e q) (hs : p.fleet.Sound) (hbefore : p.fleet.nodeOf? user = some id)
    (hafter : q.fleet.nodeOf? user ≠ some id) :
    e = .ask (.unassign user) ∨ e = .ask (.deleteNode id) ∨
      ∃ other ≠ id, q.fleet.nodeOf? user = some other ∧
        (e.Assigns p user other ∨ e.Reassigns p user other) := by
  cases h with
  | none h =>
    rw [Fleet.nodeOf?_congr h] at hafter
    exact absurd hbefore hafter
  | @assign _ other _ _ _ hanswer hplace =>
    obtain ⟨-, hnode, -⟩ := Fleet.place_spec hplace
    rw [hnode] at hafter
    split at hafter
    · next hname =>
      refine .inr (.inr ⟨other, fun he => hafter (by rw [he]), ?_, .inl ?_⟩)
      · rw [hnode, if_pos hname]
      · exact ⟨_, _, _, rfl, hname, hanswer⟩
    · exact absurd hbefore hafter
  | reassign hanswer hmoves =>
    obtain ⟨other, hother, heq | ⟨name, hmoved, hname⟩⟩ := hmoves.keep hbefore
    · exact absurd (heq ▸ hother) hafter
    · refine .inr (.inr ⟨other, fun he => hafter (he ▸ hother), hother, .inr ?_⟩)
      exact (reassigns hs hanswer hmoves hmoved hname).1
  | @unassign name _ h =>
    left
    rw [h, Fleet.nodeOf?_filter_userId] at hafter
    split at hafter
    · next hname => rw [hname]
    · exact absurd hbefore hafter
  | @deleteNode id' _ h =>
    right; left
    rw [h, hs.nodeOf?_withoutNode] at hafter
    split at hafter
    · next hgone =>
      cases hgone.symm.trans hbefore
      rfl
    · exact absurd hbefore hafter

end Rehouses

end Event

namespace Panel

/-- The rule of admission. A user comes to a node only by an assignment to it, while it is enabled,
not offline and not full, or by a reassignment, while it is enabled, online and not full. A user
leaves a node only by losing the assignment, with the node, or by going to another node in one of
these two ways. -/
theorem admission (shell : Shell) (run : List Event) (e : Event) (user : String) (id : Int) :
    let p := (fresh shell).after run
    let q := e.after p
    (p.fleet.nodeOf? user ≠ some id → q.fleet.nodeOf? user = some id →
      ∃ n, p.fleet.node? id = some n ∧ n.enabled = true ∧
        (n.maxUsers = 0 ∨ (q.fleet.userCount id : Int) ≤ n.maxUsers) ∧
        (e.Assigns p user id ∧ n.health ≠ .offline ∨
          e.Reassigns p user id ∧ n.health = .online)) ∧
    (p.fleet.nodeOf? user = some id → q.fleet.nodeOf? user ≠ some id →
      e = .ask (.unassign user) ∨ e = .ask (.deleteNode id) ∨
      ∃ other ≠ id, q.fleet.nodeOf? user = some other ∧
        (e.Assigns p user other ∨ e.Reassigns p user other)) := by
  intro p q
  have hs : p.fleet.Sound := sound_fresh shell run
  have hrehouses : Event.Rehouses p e q := e.rehouses_after p
  refine ⟨fun hbefore hafter => ?_, hrehouses.loss hs⟩
  obtain ⟨hnodes, n, current, hn, haccepts, hway⟩ := hrehouses.gain hs hbefore hafter
  obtain ⟨henabled, hhealth, hroom⟩ := Node.acceptsUsers_iff.1 haccepts
  refine ⟨n, hn, henabled, ?_, hway.imp_left fun h => ⟨h, hhealth⟩⟩
  refine hroom.imp_right fun hlt => ?_
  -- the row of the node is still there, and the limits hold after the event
  have hlimits : q.fleet.WithinLimits := by
    have := withinLimits_fresh shell (run ++ [e])
    rwa [after_concat] at this
  obtain ⟨hmem, hid⟩ := Fleet.node?_eq_some hn
  rw [← hid]
  exact hlimits n (hnodes ▸ hmem) (by omega)

/-- A user of one node is assigned to another one, which has room for one user. -/
theorem admission_moved :
    let now : Instant := ⟨0, 0⟩
    let create (maxUsers : Int) : Event := .ask (.createNode now "" .standard
      ⟨"node", "", some "host", some 443, 1, maxUsers, [], [], .manual, none, none⟩)
    let hear (id : Int) : Event := .ask (.recordHeartbeat now id ⟨1, none⟩)
    let run : List Event :=
      [create 0, create 1, hear 1, hear 2,
        .ask (.reconcile { ReconcilerConfig.standard with probeEnabled := false }
          (fun _ => .skipped) now),
        .ask (.assign now 1 "user")]
    let e : Event := .ask (.assign now 2 "user")
    let p := (fresh .silent).after run
    let q := e.after p
    p.fleet.nodeOf? "user" = some 1 ∧ q.fleet.nodeOf? "user" = some 2 ∧
      (∃ n, p.fleet.node? 2 = some n ∧ n.enabled = true ∧
        (n.maxUsers = 0 ∨ (q.fleet.userCount 2 : Int) ≤ n.maxUsers) ∧
        (e.Assigns p "user" 2 ∧ n.health ≠ .offline ∨
          e.Reassigns p "user" 2 ∧ n.health = .online)) ∧
      ∃ other ≠ 1, q.fleet.nodeOf? "user" = some other ∧
        (e.Assigns p "user" other ∨ e.Reassigns p "user" other) := by
  intro now create hear run e p q
  have hbefore : p.fleet.nodeOf? "user" = some 1 := by decide +kernel
  have hafter : q.fleet.nodeOf? "user" = some 2 := by decide +kernel
  obtain ⟨hgain, -⟩ := admission .silent run e "user" 2
  obtain ⟨-, hloss⟩ := admission .silent run e "user" 1
  have hmoved : ∃ other ≠ 1, q.fleet.nodeOf? "user" = some other ∧
      (e.Assigns p "user" other ∨ e.Reassigns p "user" other) := by
    -- after the other two events the user has no node
    rcases hloss hbefore (by rw [hafter]; decide) with hleft | hdeleted | hmoved
    · have hq : q = (Event.ask (.unassign "user")).after p := congrArg (Event.after · p) hleft
      rw [hq] at hafter
      exact absurd hafter (by decide +kernel)
    · have hq : q = (Event.ask (.deleteNode 1)).after p := congrArg (Event.after · p) hdeleted
      rw [hq] at hafter
      exact absurd hafter (by decide +kernel)
    · exact hmoved
  exact ⟨hbefore, hafter, hgain (by rw [hbefore]; decide) hafter, hmoved⟩

end Panel

end NodeFleet
