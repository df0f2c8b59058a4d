import Mathlib.Data.List.Induction
import NodeFleet.Proofs.Admission
import NodeFleet.Proofs.Canonical

/-!
# The nodes of users by the history of a run

A user has the node that the last event about the user told: an assignment, a move of a
reassignment, the loss of the assignment, or the deletion of the node. What an event is about is
read off its answer, with users named up to blanks at the ends.

A reassignment asks only for a node that takes users, and not whether the user has one by now. So it
leaves the users that its report does not move, and takes the others away from a node that they may
have been given after the job was made.
-/

namespace NodeFleet

/-! ### Names of users -/

namespace Fleet

/-- Users are stored under names without blanks at the ends. -/
def Trimmed (f : Fleet) : Prop := ∀ a ∈ f.assignments, Text.trim a.userId = a.userId

variable {f f' : Fleet} {d : Deed}

/-- A name that has a row has no blanks at the ends. -/
theorem Trimmed.trim_eq (h : f.Trimmed) {name : String}
    (hrow : ∃ a ∈ f.assignments, a.userId = name) : Text.trim name = name := by
  obtain ⟨a, ha, rfl⟩ := hrow
  exact h a ha

theorem Write.trimmed (h : Write d f f')
    (hd : ∀ user id, d = .assign user id → Text.trim user = user) (hf : f.Trimmed) :
    f'.Trimmed := by
  intro a ha
  cases h with
  | @assign now user nodeId _ _ _ _ _ =>
    rcases mem_upsert.1 ha with rfl | ⟨hmem, -⟩
    · exact hd user nodeId rfl
    · exact hf a hmem
  | deleteNode => exact hf a (List.mem_filter.1 ha).1
  | unassign => exact hf a (List.mem_filter.1 ha).1
  | same | createNode | updateNode | setEnabled | install | refusedInstall | issueToken
  | rotateToken | revokeToken | createGroup | updateGroup | deleteGroup | addMember | removeMember
  | heartbeat | evaluate =>
    exact hf a ha

end Fleet

theorem Event.trim_of_deeds {e : Event} {user : String} {id : Int}
    (h : e.deeds (.assign user id)) : Text.trim user = user := by
  cases e with
  | world isOpen shell => exact h.elim
  | ask op =>
    cases op with
    | assign now id' name =>
      cases h
      exact Text.trim_trim name
    | reassign now job =>
      obtain ⟨name, -, id', he⟩ := h
      cases he
      exact Text.trim_trim name
    | _ => simp [Event.deeds, Operation.deeds] at h

theorem Panel.trimmed_fresh (shell : Shell) (run : List Event) :
    ((fresh shell).after run).fleet.Trimmed := by
  have hwrites := (fresh shell).writes_after run
  refine hwrites.keep (I := Fleet.Trimmed) ?_ ?_
  · intro d f f' hdeed hw hf
    obtain ⟨e, -, hd⟩ := hdeed
    refine hw.trimmed ?_ hf
    intro user id he
    subst he
    exact Event.trim_of_deeds hd
  · intro a ha
    cases ha

/-! ### What answers tell about users -/

/-- Whether an operation is about the nodes of users. -/
def Operation.isAboutUsers {α : Type} : Operation α → Bool
  | assign .. | reassign .. | unassign _ | deleteNode _ => true
  | _ => false

/-- All other operations leave the nodes of the users. -/
theorem Operation.assignments_after {α : Type} {op : Operation α} (h : op.isAboutUsers = false)
    (p : Panel) : (op.after p).fleet.assignments = p.fleet.assignments := by
  refine Event.assignments_eq (e := .ask op) fun d hdeed hd => ?_
  rcases Event.of_touchesAssignments hdeed hd with
    ⟨now, id, name, he⟩ | ⟨now, job, he⟩ | ⟨name, he⟩ | ⟨id, he⟩
  all_goals
    cases he
    cases h

/-- What a successful answer tells about the node of a user: the node that the user has from then
on, or that the user has none. -/
def Operation.housing (user : String) {α : Type} : Operation α → α → Option (Option Int)
  | assign _ id name, _ => if Text.trim name = user then some (some id) else none
  | reassign _ _, report => (lastMove? user report.moved).map some
  | unassign name, _ => if Text.trim name = user then some none else none
  | deleteNode _, job => if user ∈ job.userIds then some none else none
  | _, _ => none

namespace Operation

variable {α : Type} {p : Panel} {user : String}

theorem housing_assign (now : Instant) (id : Int) (name : String) :
    (assign now id name).Recounts p (·.nodeOf? user) (housing user) := by
  rcases Action.on_assign_cases now id name p with ⟨e, hon⟩ | ⟨a, f, hplace, hon⟩
  · exact recounts_of_refused hon
  · obtain ⟨-, hnode, -⟩ := Fleet.place_spec hplace
    refine recounts_of_ok hon ?_
    exact (hnode user).trans (getD_ite (some id) _).symm

theorem housing_reassign (now : Instant) (job : ReassignJob) :
    (reassign now job).Recounts p (·.nodeOf? user) (housing user) := by
  rcases Action.on_reassign_cases now job p with ⟨e, hon⟩ | ⟨report, q, hon, hmoves⟩
  · exact recounts_of_refused hon
  · refine recounts_of_ok hon ?_
    change q.fleet.nodeOf? user =
      ((lastMove? user report.moved).map some).getD (p.fleet.nodeOf? user)
    rw [hmoves.nodeOf?_eq user]
    cases lastMove? user report.moved with
    | none => rfl
    | some id => rfl

/-- Only a name without blanks at the ends has an assignment to lose. -/
theorem housing_unassign (ht : p.fleet.Trimmed) (name : String) :
    (unassign name).Recounts p (·.nodeOf? user) (housing user) := by
  rcases Action.on_unassign_cases name p with ⟨e, hon⟩ | ⟨hrow, hon⟩
  · exact recounts_of_refused hon
  · refine recounts_of_ok hon ?_
    change Fleet.nodeOf? _ user =
      (if Text.trim name = user then some none else none).getD (p.fleet.nodeOf? user)
    rw [ht.trim_eq hrow, Fleet.nodeOf?_filter_userId, getD_ite]

/-- The users of a deleted node are those of its job. -/
theorem housing_deleteNode (hs : p.fleet.Sound) (id : Int) :
    (deleteNode id).Recounts p (·.nodeOf? user) (housing user) := by
  rcases Action.on_deleteNode_cases id p with ⟨e, hon⟩ | hon
  · exact recounts_of_refused hon
  · refine recounts_of_ok hon ?_
    change (p.fleet.withoutNode id).nodeOf? user =
      (if user ∈ (p.fleet.jobOf id).userIds then some none else none).getD (p.fleet.nodeOf? user)
    rw [hs.nodeOf?_withoutNode]
    by_cases hjob : user ∈ (p.fleet.jobOf id).userIds
    · rw [if_pos hjob, if_pos (hs.mem_jobOf.1 hjob), Option.getD_some]
    · rw [if_neg hjob, if_neg (mt hs.mem_jobOf.2 hjob), Option.getD_none]

/-- An operation that is not about users. -/
theorem housing_of_quiet {op : Operation α} (hquiet : ∀ x, op.housing user x = none)
    (h : op.isAboutUsers = false) : op.Recounts p (·.nodeOf? user) (housing user) :=
  recounts_of_quiet hquiet (Fleet.nodeOf?_congr (assignments_after h p))

end Operation

/-! ### The history of a user -/

/-- Each event sets, clears or leaves the node of a user, as its answer tells. -/
theorem Event.nodeOf?_after (e : Event) {p : Panel} (hs : p.fleet.Sound) (ht : p.fleet.Trimmed)
    (user : String) :
    (e.after p).fleet.nodeOf? user =
      (e.brings (Operation.housing user) p).getD (p.fleet.nodeOf? user) := by
  cases e with
  | world isOpen shell => rfl
  | ask op =>
    cases op with
    | assign now id name => exact Operation.housing_assign now id name
    | reassign now job => exact Operation.housing_reassign now job
    | unassign name => exact Operation.housing_unassign ht name
    | deleteNode id => exact Operation.housing_deleteNode hs id
    | _ => exact Operation.housing_of_quiet (fun _ => rfl) rfl

namespace Panel

/-- After any run, a user has the node that the last event about the user told. -/
theorem nodeOf?_eq_last (shell : Shell) (run : List Event) (user : String) :
    ((fresh shell).after run).fleet.nodeOf? user =
      ((fresh shell).collect (Event.brings (Operation.housing user)) run).getLast?.join := by
  induction run using List.reverseRecOn with
  | nil => rfl
  | append_singleton run e ih =>
    have hs := sound_fresh shell run
    have ht := trimmed_fresh shell run
    rw [after_concat, e.nodeOf?_after hs ht, getLast?_collect_concat, ih]
    cases e.brings (Operation.housing user) ((fresh shell).after run) with
    | none => rfl
    | some node => rfl

/-! ### Reassignments and newer assignments -/

/-- After any run, a reassignment gives a user the node of the last move that its report tells of
the user, and leaves the user as before if there is none. The report moves users of the job only, to
nodes that are enabled and online; so a user who has a node keeps it if the job does not name the
user, or if it is the one to which the user is moved. -/
theorem nodeOf?_after_reassign (shell : Shell) (run : List Event) (now : Instant)
    (job : ReassignJob) (user : String) :
    let p := (fresh shell).after run
    let reassign := Operation.reassign now job
    let move := (reassign.answer p).toOption.bind fun report => lastMove? user report.moved
    (reassign.after p).fleet.nodeOf? user = move.or (p.fleet.nodeOf? user) ∧
      ((∀ name ∈ job.userIds, Text.trim name ≠ user) →
        (reassign.after p).fleet.nodeOf? user = p.fleet.nodeOf? user) ∧
      ∀ id, move = some id → (∃ name ∈ job.userIds, Text.trim name = user) ∧
        ∃ n, p.fleet.node? id = some n ∧ n.enabled = true ∧ n.health = .online := by
  intro p reassign move
  have hs : p.fleet.Sound := sound_fresh shell run
  rcases Action.on_reassign_cases now job p with ⟨e, hon⟩ | ⟨report, q, hon, hmoves⟩
  · obtain ⟨hanswer, hafter⟩ := reassign.answer_of_on hon
    have hmove : move = none := by
      simp only [move, hanswer]
      rfl
    rw [hmove, hafter]
    exact ⟨rfl, fun _ => rfl, nofun⟩
  · obtain ⟨hanswer, hafter⟩ := reassign.answer_of_on hon
    have hmove : move = lastMove? user report.moved := by
      simp only [move, hanswer]
      rfl
    have hjob : ∀ id, move = some id → (∃ name ∈ job.userIds, Text.trim name = user) ∧
        ∃ n, p.fleet.node? id = some n ∧ n.enabled = true ∧ n.health = .online := by
      intro id hid
      rw [hmove] at hid
      obtain ⟨name, hmem, hname⟩ := mem_of_lastMove? hid
      obtain ⟨huser, n, hn, rfl, honline⟩ := hmoves.of_mem_moved hmem
      obtain ⟨hnode, hcandidate⟩ := List.mem_filter.1 hn
      simp only [Bool.and_eq_true] at hcandidate
      exact ⟨⟨name, huser, hname⟩, n, hs.node?_eq hnode, hcandidate.1, honline⟩
    have hnode : (reassign.after p).fleet.nodeOf? user = move.or (p.fleet.nodeOf? user) := by
      rw [hafter, hmove]
      exact hmoves.nodeOf?_eq user
    refine ⟨hnode, ?_, hjob⟩
    intro hother
    rw [hnode]
    cases hcase : move with
    | none => rfl
    | some id =>
      obtain ⟨⟨name, hmem, hname⟩, -⟩ := hjob id hcase
      exact absurd hname (hother name hmem)

/-- A user on the first of three nodes. -/
def housed : List Event :=
  let now : Instant := ⟨0, 0⟩
  let create : Event := .ask (.createNode now "" .standard
    ⟨"node", "", some "host", some 443, 1, 0, [], [], .manual, none, none⟩)
  let hear (id : Int) : Event := .ask (.recordHeartbeat now id ⟨1, none⟩)
  [create, create, create, hear 1, hear 2, hear 3,
    .ask (.reconcile { ReconcilerConfig.standard with probeEnabled := false } (fun _ => .skipped)
      now),
    .ask (.assign now 1 "user")]

/-- Of two users of a job, the one of the deleted node is moved to an online node, and the node of a
third user is as before. -/
theorem nodeOf?_after_reassign_housed :
    let now : Instant := ⟨0, 0⟩
    let run := housed ++ [.ask (.assign now 3 "other"), .ask (.deleteNode 1)]
    let p := (fresh .silent).after run
    let q := (Operation.reassign now ⟨1, [], ["user", "late"]⟩).after p
    p.fleet.nodeOf? "user" = none ∧ q.fleet.nodeOf? "user" = some 2 ∧
      (∃ n, p.fleet.node? 2 = some n ∧ n.enabled = true ∧ n.health = .online) ∧
      q.fleet.nodeOf? "other" = some 3 := by
  intro now run p q
  have hmove : ((Operation.reassign now ⟨1, [], ["user", "late"]⟩).answer p).toOption.bind
      (fun report => lastMove? "user" report.moved) = some 2 := by decide +kernel
  obtain ⟨hnode, -, hmoved⟩ :=
    nodeOf?_after_reassign .silent run now ⟨1, [], ["user", "late"]⟩ "user"
  obtain ⟨-, hother, -⟩ :=
    nodeOf?_after_reassign .silent run now ⟨1, [], ["user", "late"]⟩ "other"
  have hq : q.fleet.nodeOf? "user" = some 2 := by
    rw [hnode, hmove]
    rfl
  have hstays : q.fleet.nodeOf? "other" = p.fleet.nodeOf? "other" := hother (by decide)
  exact ⟨by decide +kernel, hq, (hmoved 2 hmove).2, hstays.trans (by decide +kernel)⟩

/-- The first node is deleted, and its user assigned to the second one before the job of the
deletion is run: the job takes the user to the third node, which has fewer users. -/
theorem reassign_overrides_assign :
    let now : Instant := ⟨0, 0⟩
    let job : ReassignJob := ⟨1, [], ["user"]⟩
    let p := (fresh .silent).after (housed ++ [.ask (.deleteNode 1), .ask (.assign now 2 "user")])
    ((Operation.deleteNode 1).answer ((fresh .silent).after housed)).toOption = some job ∧
      p.fleet.nodeOf? "user" = some 2 ∧
      ((Operation.reassign now job).after p).fleet.nodeOf? "user" = some 3 := by
  decide +kernel

end Panel

end NodeFleet
