import NodeFleet.Proofs.AgentAccess
import NodeFleet.Proofs.Membership
import NodeFleet.Proofs.Placement

/-!
# The users of a deleted node

The users of a deleted node have no node when the reassignment begins, so it fills the remaining
nodes with them as far as these have room. The server deletes a node by the same transaction and
leaves the job to the end of the queue.
-/

namespace NodeFleet

/-! ### Names of users -/

/-- No user is stored under the empty name. -/
def Fleet.Named (f : Fleet) : Prop := ∀ a ∈ f.assignments, a.userId ≠ ""

theorem Fleet.Named.place {f f' : Fleet} {now : Instant} {id : Int} {user : String}
    {a : Assignment} (hf : f.Named) (huser : user ≠ "")
    (h : Fleet.place now id user f = .ok (a, f')) : f'.Named := by
  obtain ⟨n, -, ⟨b, -, -, he⟩ | ⟨-, -, he⟩⟩ := place_eq_ok.1 h
  · cases he
    exact hf
  · cases he
    intro b hb
    rcases mem_upsert.1 hb with rfl | ⟨hmem, -⟩
    · exact huser
    · exact hf b hmem

namespace Action

variable {now : Instant} {p p' : Panel} {user : String} {id : Int} {a : Assignment}

/-- An empty name is not assigned. -/
theorem name_of_on_assign (h : (assign now id user).on p = (.ok a, p')) :
    Text.trim user ≠ "" := by
  intro hempty
  dsimp only [assign] at h
  rw [hempty] at h
  cases h

theorem Reassigned.named {candidates : List Node} {preferred : List Int} {users : List String}
    {counts : UserCounts} {report : ReassignReport}
    (h : Reassigned now candidates preferred users counts p report p') (hp : p.fleet.Named) :
    p'.fleet.Named := by
  induction h with
  | done => exact hp
  | unplaced _ _ ih => exact ih hp
  | refused _ _ _ ih => exact ih hp
  | moved _ hassign _ ih =>
    exact ih (hp.place (name_of_on_assign hassign) (place_of_on_assign hassign))

end Action

theorem Event.named_after (e : Event) {p : Panel} (hp : p.fleet.Named) :
    (e.after p).fleet.Named := by
  have hrehouses := e.rehouses_after p
  generalize e.after p = q at hrehouses
  cases hrehouses with
  | none h =>
    unfold Fleet.Named
    rw [h]
    exact hp
  | @assign now id name a _ hanswer hplace =>
    have hon := Operation.answer_eq_some.1 (congrArg Except.toOption hanswer)
    change (Action.assign now id name).on p = _ at hon
    exact hp.place (Action.name_of_on_assign hon) hplace
  | reassign _ hmoves => exact hmoves.named hp
  | unassign h =>
    rw [h]
    exact fun a ha => hp a (List.mem_filter.1 ha).1
  | deleteNode h =>
    rw [h]
    exact fun a ha => hp a (List.mem_filter.1 ha).1

theorem Panel.named_fresh (shell : Shell) (run : List Event) :
    ((fresh shell).after run).fleet.Named := by
  induction run using List.reverseRecOn with
  | nil => exact fun a ha => nomatch ha
  | append_singleton run e ih =>
    rw [after_concat]
    exact e.named_after ih

namespace Fleet

variable {f : Fleet} {id other : Int}

/-- The users of a node are without one when it is gone. -/
theorem homeless_jobOf (hs : f.Sound) (ht : f.Trimmed) (hnamed : f.Named) (id : Int) :
    (f.withoutNode id).Homeless (f.jobOf id).userIds where
  nodup := by
    have hsub : (f.jobOf id).userIds.Sublist (f.assignments.map (·.userId)) :=
      List.filter_sublist.map _
    exact hsub.nodup hs.assignment_keys
  named user huser := by
    obtain ⟨a, ha, rfl⟩ := List.mem_map.1 huser
    have hrow := (List.mem_filter.1 ha).1
    exact ⟨ht a hrow, hnamed a hrow⟩
  unplaced user huser := by
    have hnone : (f.withoutNode id).nodeOf? user = none := by
      rw [hs.nodeOf?_withoutNode, if_pos (hs.mem_jobOf.1 huser)]
    exact Option.map_eq_none_iff.1 hnone

/-! ### Groups in common -/

/-- Two nodes are members of one group. -/
def ShareGroup (f : Fleet) (n m : Int) : Prop :=
  ∃ g, f.isMember g n = true ∧ f.isMember g m = true

theorem mem_membersOf_iff {groupIds : List Int} :
    other ∈ f.membersOf groupIds ↔ ∃ g ∈ groupIds, f.isMember g other = true := by
  simp only [membersOf, List.mem_map, List.mem_filter, List.contains_iff_mem, isMember_eq_true]
  constructor
  · rintro ⟨m, ⟨hm, hgroup⟩, hnode⟩
    exact ⟨m.groupId, hgroup, m, hm, rfl, hnode⟩
  · rintro ⟨g, hg, m, hm, rfl, hnode⟩
    exact ⟨m, ⟨hm, hg⟩, hnode⟩

theorem mem_groupIds_jobOf {g : Int} :
    g ∈ (f.jobOf id).groupIds ↔ f.isMember g id = true := by
  simp only [jobOf, List.mem_map, List.mem_filter, decide_eq_true_eq, isMember_eq_true]
  constructor
  · rintro ⟨m, ⟨hm, hnode⟩, hgroup⟩
    exact ⟨m, hm, hgroup, hnode⟩
  · rintro ⟨m, hm, hgroup, hnode⟩
    exact ⟨m, ⟨hm, hnode⟩, hgroup⟩

/-- The nodes that a reassignment prefers are the others that shared a group with the node. -/
theorem mem_membersOf_jobOf :
    other ∈ (f.withoutNode id).membersOf (f.jobOf id).groupIds ↔
      id ≠ other ∧ f.ShareGroup other id := by
  simp only [mem_membersOf_iff, mem_groupIds_jobOf, isMember_withoutNode]
  constructor
  · rintro ⟨g, hid, hleft⟩
    split at hleft
    · cases hleft
    · next hother => exact ⟨hother, g, hleft, hid⟩
  · rintro ⟨hother, g, hleft, hid⟩
    refine ⟨g, hid, ?_⟩
    rw [if_neg hother]
    exact hleft

/-- When users fill the fleet without the node, the nodes that shared a group with it are full
before a user is moved to another one. -/
theorem Fills.shared_full {now : Instant} {users : List String} {report : ReassignReport}
    {f' : Fleet}
    (h : Fills now ((f.withoutNode id).membersOf (f.jobOf id).groupIds) users (f.withoutNode id)
      report f') {before later : List (String × Int)} {user : String} {target : Int}
    (hmoved : report.moved = before ++ (user, target) :: later)
    (htarget : ¬f.ShareGroup target id) {m : Node} (hm : m ∈ (f.withoutNode id).targets)
    (hshare : f.ShareGroup m.id id) : ((f.withoutNode id).withMoves now before).room m = 0 := by
  have hpreferred (other : Int) :
      ((f.withoutNode id).membersOf (f.jobOf id).groupIds).contains other = true ↔
        id ≠ other ∧ f.ShareGroup other id := by
    rw [List.contains_iff_mem, mem_membersOf_jobOf]
  have hother : id ≠ m.id := by
    have hleft := (mem_targets.1 hm).1
    exact fun he => of_decide_eq_true (List.mem_filter.1 hleft).2 he.symm
  apply h.preferred_full before user target later hmoved
  · rw [← Bool.not_eq_true, hpreferred]
    exact fun h => htarget h.2
  · exact hm
  · rw [hpreferred]
    exact ⟨hother, hshare⟩

end Fleet

/-! ### Deletion and reassignment -/

/-- An open panel deletes a node that is there. -/
theorem on_deleteNode {p : Panel} {n : Node} {id : Int} (hopen : p.isOpen = true)
    (hn : p.fleet.node? id = some n) :
    (Operation.deleteNode id).run.on p =
      (.ok (p.fleet.jobOf id), { p with fleet := p.fleet.withoutNode id }) :=
  Action.on_transact_eq_ok.2 ⟨hopen, _, Fleet.deleteNode_eq_ok.2 ⟨⟨n, hn⟩, rfl⟩, rfl⟩

/-- A job without users changes nothing. -/
theorem after_reassign_of_empty {job : ReassignJob} (hjob : job.userIds = []) (now : Instant)
    (p : Panel) : (Operation.reassign now job).after p = p := by
  rcases Action.on_reassign_cases now job p with ⟨e, hon⟩ | ⟨report, q, hon, hmoves⟩
  · exact ((Operation.reassign now job).answer_of_on hon).2
  · rw [((Operation.reassign now job).answer_of_on hon).2]
    rw [hjob] at hmoves
    cases hmoves
    rfl

/-- The users of a deleted node fill the remaining nodes, if the database takes the numbers of its
groups. -/
theorem Panel.fills_after_delete {p : Panel} {n : Node} (hopen : p.isOpen = true)
    (hs : p.fleet.Sound) (ht : p.fleet.Trimmed) (hnamed : p.fleet.Named) (hn : n ∈ p.fleet.nodes)
    (hgroups : (p.fleet.jobOf n.id).groupIds.length ≤ maxValues) (now : Instant) :
    let left := (Operation.deleteNode n.id).after p
    let job := p.fleet.jobOf n.id
    ∃ report, (Operation.reassign now job).answer left = .ok report ∧
      Fleet.Fills now (left.fleet.membersOf job.groupIds) job.userIds left.fleet report
        ((Operation.reassign now job).after left).fleet := by
  intro left job
  obtain ⟨-, hleft⟩ :=
    (Operation.deleteNode n.id).answer_of_on (on_deleteNode hopen (hs.node?_eq hn))
  have hleftOpen : left.isOpen = true := by
    simp only [left, hleft]
    exact hopen
  have hfleet : left.fleet = p.fleet.withoutNode n.id := by
    simp only [left, hleft]
  obtain ⟨report, q, hon, hmoves⟩ := Action.on_reassign_of_open hleftOpen now hgroups
  obtain ⟨hanswer, hafter⟩ := (Operation.reassign now job).answer_of_on hon
  refine ⟨report, hanswer, ?_⟩
  rw [hafter]
  refine hmoves.fills hleftOpen ?_ ?_ rfl Fleet.of_userCounts
  · rw [hfleet]
    exact hs.withoutNode
  · rw [hfleet]
    exact Fleet.homeless_jobOf hs ht hnamed n.id

/-! ### Deletion by a request -/

namespace Api

variable {r : Http.Request} {id : Int}

/-- A request to delete a node, with the number of the node as the last part of the path. -/
def IsDeletion (r : Http.Request) (id : Int) : Prop :=
  r.method = "DELETE" ∧ ∃ text : String, '/' ∉ text.toList ∧
    r.path = "/api/admin/nodes/" ++ text ∧ Input.number ⟨[("id", text.toList)], r⟩ = .ok id

/-- The calls on one node. -/
def nodeMethods : Methods AdminCall :=
  [("GET", onNumber .getNode), ("PUT", nodeUpdate), ("DELETE", onNumber .deleteNode)]

theorem findRoute?_node {text : String} (hslash : '/' ∉ text.toList) (htext : text.toList ≠ []) :
    findRoute? ("/api/admin/nodes/" ++ text) =
      some (.forAdmin nodeMethods, [("id", text.toList)]) := by
  have hpath : "/api/admin/nodes/" ++ text = "/api/" ++ "admin" ++ "/" ++ ("nodes/" ++ text) := by
    rw [← String.append_assoc]
    rfl
  have hrest : ("nodes/" ++ text).toList = "nodes".toList ++ '/' :: text.toList := by
    rw [String.toList_append]
    rfl
  have hparts : Text.splitAll '/' ("/api/admin/nodes/" ++ text).toList =
      [[], "api".toList, "admin".toList, "nodes".toList, text.toList] := by
    rw [hpath, splitAll_below_api (by decide), hrest, Text.splitAll_append _ (by decide),
      Text.splitAll_of_not_mem hslash]
  unfold findRoute? Route.match?
  rw [hparts]
  cases htextcases : text.toList with
  | nil => exact absurd htextcases htext
  | cons c cs => rfl

/-- An empty part of a path is no number. -/
theorem number_nil : Input.number ⟨[("id", [])], r⟩ ≠ .ok id := by
  have hparameter : parameterText ("id", []) = .ok "" :=
    Except.toOption_eq_some.1 (by decide +kernel)
  have htext : Input.text ⟨[("id", [])], r⟩ = .ok "" := by
    simp only [Input.text, Input.texts, List.mapM_cons, List.mapM_nil, hparameter]
    rfl
  unfold Input.number
  rw [htext]
  exact nofun

/-- A deletion leads to the call on the node. -/
theorem IsDeletion.route (h : IsDeletion r id) :
    ∃ parameters, findRoute? r.path = some (.forAdmin nodeMethods, parameters) ∧
      onNumber AdminCall.deleteNode ⟨parameters, r⟩ = .ok (.deleteNode id) := by
  obtain ⟨-, text, hslash, hpath, hnumber⟩ := h
  have htext : text.toList ≠ [] := by
    intro hnil
    rw [hnil] at hnumber
    exact number_nil hnumber
  refine ⟨[("id", text.toList)], ?_, ?_⟩
  · rw [hpath]
    exact findRoute?_node hslash htext
  · unfold onNumber
    rw [hnumber]
    rfl

namespace Server

variable {s : Server} {moment : Moment} {now : Instant}

/-- The panel after the jobs that wait. -/
theorem panel_settle (s : Server) (now : Instant) :
    (s.settle now).panel =
      s.jobs.foldl (fun p job => (Operation.reassign now job).after p) s.panel := by
  have hfold (jobs : List ReassignJob) (t : Server) :
      (jobs.foldl (fun t job => (t.act (Action.reassign now job)).2) t).panel =
        jobs.foldl (fun p job => (Operation.reassign now job).after p) t.panel := by
    induction jobs generalizing t with
    | nil => rfl
    | cons job jobs ih => exact ih _
  exact hfold s.jobs _

/-- The answer to a call of the administrator that succeeds. -/
theorem answerAdmin_eq {reading : Reading AdminCall} {input : Input} {call : AdminCall}
    {answer : Reply} {q : Panel} (hadmin : s.IsAdmin moment input.request)
    (hreading : reading input = .ok call)
    (hcall : (call.run s.settings moment).on s.panel = (.ok answer, q)) :
    s.answerAdmin moment reading input =
      (success answer.data, { s with panel := q, jobs := s.jobs ++ answer.job.toList }) := by
  obtain ⟨claims, hclaims⟩ := hadmin
  unfold answerAdmin
  rw [hclaims, hreading]
  dsimp only
  rw [act_eq hcall]

/-- A deletion by a request is that of the panel, and leaves a job for the users, if there are
any. -/
theorem handle_deletion {n : Node} (hopen : s.panel.isOpen = true)
    (hn : s.panel.fleet.node? id = some n) (hadmin : s.IsAdmin moment r) (hr : IsDeletion r id) :
    let job := s.panel.fleet.jobOf id
    (s.handle moment r).2 =
      { s with
        panel := (Operation.deleteNode id).after s.panel
        jobs := s.jobs ++ (if job.userIds.isEmpty then none else some job).toList } := by
  intro job
  obtain ⟨parameters, hroute, hreading⟩ := hr.route
  obtain ⟨-, hafter⟩ := (Operation.deleteNode id).answer_of_on (on_deleteNode hopen hn)
  have hdelete : ((AdminCall.deleteNode id).run s.settings moment).on s.panel =
      (.ok ⟨.object [("id", .ofInt id), ("reassigning_users", .ofNat job.userIds.length)],
          if job.userIds.isEmpty then none else some job⟩,
        (Operation.deleteNode id).after s.panel) := by
    rw [hafter]
    exact Action.on_bind_of_ok (on_deleteNode hopen hn)
  have hmethod : readingOf? nodeMethods r.method = some (onNumber .deleteNode) := by
    rw [hr.1]
    rfl
  have hoptions : r.method ≠ "OPTIONS" := by
    rw [hr.1]
    decide
  unfold handle
  rw [hroute]
  dsimp only [answerRoute]
  rw [hmethod, if_neg hoptions]
  dsimp only
  rw [answerAdmin_eq hadmin hreading hdelete]

/-- After a deletion by a request, the users of the node are reassigned when the jobs that waited
are done. -/
theorem panel_settle_deletion {n : Node} (hopen : s.panel.isOpen = true)
    (hn : s.panel.fleet.node? id = some n) (hadmin : s.IsAdmin moment r) (hr : IsDeletion r id) :
    let left := (Operation.deleteNode id).after s.panel
    ((s.handle moment r).2.settle now).panel =
      (Operation.reassign now (s.panel.fleet.jobOf id)).after
        (({ s with panel := left } : Server).settle now).panel := by
  intro left
  rw [handle_deletion hopen hn hadmin hr, panel_settle, panel_settle, List.foldl_append]
  dsimp only
  split
  · next hempty =>
    rw [after_reassign_of_empty (List.isEmpty_iff.1 hempty)]
    rfl
  · rfl

end Server

end Api

open Api in
/-- In every state of a run, the deletion of a node and the reassignment of its users move the first
users of the job, as many as the remaining nodes have room for, and leave out the others. Each move
adds one row, and nothing else changes. As long as a node that shared a group with the deleted one
has room, no user is moved to one that did not. If the node was in more groups than the database
takes values, the reassignment is refused instead and moves nobody. A request to delete the node
leaves the same job to the end of the queue. -/
theorem Panel.reassign_fills_fleet (shell : Shell) (run : List Event) (now : Instant) (n : Node)
    (hopen : ((fresh shell).after run).isOpen = true)
    (hn : n ∈ ((fresh shell).after run).fleet.nodes) :
    let p := (fresh shell).after run
    let left := (Operation.deleteNode n.id).after p
    ∃ job, (Operation.deleteNode n.id).answer p = .ok job ∧
      (job.groupIds.length ≤ maxValues →
        ∃ report, (Operation.reassign now job).answer left = .ok report ∧
          job.userIds = report.moved.map (·.1) ++ report.unplaced ∧
          (report.moved.length : ℕ∞) = min (job.userIds.length : ℕ∞) left.fleet.spare ∧
          ((Operation.reassign now job).after left).fleet = left.fleet.withMoves now report.moved ∧
          ∀ before user target later, report.moved = before ++ (user, target) :: later →
            ¬p.fleet.ShareGroup target n.id →
            ∀ m ∈ left.fleet.targets, p.fleet.ShareGroup m.id n.id →
              (left.fleet.withMoves now before).room m = 0) ∧
      (maxValues < job.groupIds.length →
        (Operation.reassign now job).answer left = .error tooManyValues ∧
          (Operation.reassign now job).after left = left) ∧
      ∀ (s : Server) (moment : Moment) (r : Http.Request), s.panel = p →
        s.IsAdmin moment r → IsDeletion r n.id →
        ((s.handle moment r).2.settle now).panel =
            (Operation.reassign now job).after (({ s with panel := left }).settle now).panel ∧
          (s.jobs = [] → ((s.handle moment r).2.settle now).panel =
            (Operation.reassign now job).after left) := by
  intro p left
  have hs : p.fleet.Sound := sound_fresh shell run
  obtain ⟨hdelete, hafter⟩ :=
    (Operation.deleteNode n.id).answer_of_on (on_deleteNode hopen (hs.node?_eq hn))
  have hleft : left.fleet = p.fleet.withoutNode n.id := by
    simp only [left, p, hafter]
  have hleftOpen : left.isOpen = true := by
    simp only [left, p, hafter]
    exact hopen
  refine ⟨p.fleet.jobOf n.id, hdelete, ?_, ?_, ?_⟩
  · intro hgroups
    obtain ⟨report, hreassign, hfills⟩ := fills_after_delete hopen hs (trimmed_fresh shell run)
      (named_fresh shell run) hn hgroups now
    refine ⟨report, hreassign, hfills.users_eq, hfills.length_eq, hfills.fleet_eq, ?_⟩
    intro before user target later hmoved htarget m hm hshare
    rw [hleft] at hm ⊢
    change Fleet.Fills _ (left.fleet.membersOf _) _ left.fleet _ _ at hfills
    rw [hleft] at hfills
    exact hfills.shared_full hmoved htarget hm hshare
  · intro hgroups
    exact (Operation.reassign now _).answer_of_on
      (Action.on_reassign_of_many hleftOpen now hgroups)
  · intro s moment r hpanel hadmin hr
    have hrow : s.panel.fleet.node? n.id = some n := by
      rw [hpanel]
      exact hs.node?_eq hn
    have hsettle : ((s.handle moment r).2.settle now).panel =
        (Operation.reassign now (p.fleet.jobOf n.id)).after
          (({ s with panel := left }).settle now).panel := by
      rw [Server.panel_settle_deletion (hpanel ▸ hopen) hrow hadmin hr, hpanel]
    refine ⟨hsettle, ?_⟩
    intro hjobs
    rw [hsettle, Server.panel_settle, hjobs]
    rfl

/-- A node with three users, a node for one user, and another one that shares a group with the
first. -/
def Panel.crowded : List Event :=
  let now : Instant := ⟨0, 0⟩
  let create (maxUsers : Int) : Event := .ask (.createNode now "" .standard
    ⟨"node", "", some "host", some 443, 1, maxUsers, [], [], .manual, none, none⟩)
  let hear (id : Int) : Event := .ask (.recordHeartbeat now id ⟨1, none⟩)
  [create 0, create 1, create 1, hear 1, hear 2, hear 3,
    .ask (.reconcile { ReconcilerConfig.standard with probeEnabled := false } (fun _ => .skipped)
      now),
    .ask (.createGroup now ⟨"group", "", "", .weighted⟩), .ask (.addMember now 1 1),
    .ask (.addMember now 1 3), .ask (.assign now 1 "first"), .ask (.assign now 1 "second"),
    .ask (.assign now 1 "third")]

open Api in
/-- The first user goes to the node of the group, the second to the other one, and the third is left
out, also when a request deletes the node. -/
theorem Panel.reassign_fills_fleet_crowded :
    let now : Instant := ⟨0, 0⟩
    let moment : Moment := ⟨now, 0, ""⟩
    let p := (fresh .silent).after crowded
    let left := (Operation.deleteNode 1).after p
    let job : ReassignJob := ⟨1, [1], ["first", "second", "third"]⟩
    let report : ReassignReport := ⟨[("first", 3), ("second", 2)], ["third"]⟩
    let s := Server.plain p
    let token := AdminToken.issue "secret" "admin" 0
    let r := { Server.bearing token "/api/admin/nodes/1" with method := "DELETE" }
    ((Operation.deleteNode 1).answer p).toOption = some job ∧
      job.groupIds.length ≤ maxValues ∧
      ((Operation.reassign now job).answer left).toOption = some report ∧
      (2 : ℕ∞) = min 3 left.fleet.spare ∧
      ((s.handle moment r).2.settle now).panel.fleet.nodeOf? "first" = some 3 := by
  intro now moment p left job report s token r
  have hnode : ∃ n ∈ p.fleet.nodes, n.id = 1 := by decide +kernel
  obtain ⟨n, hn, hid⟩ := hnode
  have hdelete : ((Operation.deleteNode 1).answer p).toOption = some job := by decide +kernel
  have hreassign : ((Operation.reassign now job).answer left).toOption = some report := by
    decide +kernel
  have hadmin : s.IsAdmin moment r := Except.exists_eq_ok (by decide +kernel)
  have hdeletion : IsDeletion r 1 := by
    have hnumber : Input.number ⟨[("id", "1".toList)], r⟩ = .ok 1 :=
      Except.toOption_eq_some.1 (by decide +kernel)
    exact ⟨rfl, "1", by decide, by decide, hnumber⟩
  obtain ⟨job', hdelete', hfills, -, hrequest⟩ :=
    reassign_fills_fleet .silent crowded now n (by decide +kernel) hn
  rw [hid] at hdelete' hfills hrequest
  obtain rfl : job' = job := by
    rw [hdelete'] at hdelete
    exact Option.some.inj hdelete
  have hgroups : job.groupIds.length ≤ maxValues := by decide
  obtain ⟨report', hreassign', -, hlength, -⟩ := hfills hgroups
  obtain rfl : report' = report := by
    rw [hreassign'] at hreassign
    exact Option.some.inj hreassign
  refine ⟨hdelete, hgroups, hreassign, hlength, ?_⟩
  rw [(hrequest s moment r rfl hadmin hdeletion).2 rfl]
  decide +kernel

/-- The job of a node in so many groups names them all, and the nodes and users are those from
before. -/
theorem Fleet.Joined.jobOf {f f' : Fleet} {id : Int} {count : Nat} (h : Joined f f' id count) :
    (f'.jobOf id).groupIds.length = count ∧ (f'.jobOf id).userIds = (f.jobOf id).userIds ∧
      (f'.withoutNode id).nodes = (f.withoutNode id).nodes := by
  refine ⟨?_, ?_, ?_⟩
  · exact (List.length_map _).trans h.length_joined
  · simp only [Fleet.jobOf, h.assignments_eq]
  · simp only [Fleet.withoutNode, h.nodes_eq]

/-- A node with a user is in more groups than the database takes values: its user goes to none of
the two nodes that are left, which take any number of users. -/
theorem Panel.reassign_of_many {count : Nat} (h : maxValues < count) :
    let p := (fresh .silent).after (housed ++ joining 1 count)
    let left := (Operation.deleteNode 1).after p
    p.isOpen = true ∧
      (left.fleet.nodes.map fun n => (n.enabled, n.health, n.maxUsers)) =
        [(true, .online, 0), (true, .online, 0)] ∧
      ∃ job, (Operation.deleteNode 1).answer p = .ok job ∧ job.userIds = ["user"] ∧
        ∀ now, (Operation.reassign now job).answer left = .error tooManyValues := by
  obtain ⟨n, hn⟩ : ∃ n, ((fresh .silent).after housed).fleet.node? 1 = some n :=
    Option.isSome_iff_exists.1 (by decide +kernel)
  obtain ⟨hopen, hjoined⟩ := after_joining (p := (fresh .silent).after housed)
    (by decide +kernel) hn (by decide +kernel) (by decide +kernel) (by decide +kernel) count
  intro p left
  rw [← after_append] at hopen hjoined
  have hnode : p.fleet.node? 1 = some n := by
    rw [← hn]
    exact congrArg (List.find? _) hjoined.nodes_eq
  obtain ⟨hgroups, husers, hnodes⟩ := hjoined.jobOf
  obtain ⟨hdelete, hafter⟩ := (Operation.deleteNode 1).answer_of_on (on_deleteNode hopen hnode)
  have hleft : left = { p with fleet := p.fleet.withoutNode 1 } := hafter
  refine ⟨hopen, ?_, p.fleet.jobOf 1, hdelete, ?_, ?_⟩
  · rw [hleft]
    change List.map _ (p.fleet.withoutNode 1).nodes = _
    rw [hnodes]
    decide +kernel
  · rw [husers]
    decide +kernel
  · intro now
    have hleftOpen : left.isOpen = true := by
      rw [hleft]
      exact hopen
    have hmany : maxValues < (p.fleet.jobOf 1).groupIds.length := hgroups ▸ h
    exact congrArg Prod.fst (Action.on_reassign_of_many hleftOpen now hmany)

/-- The user of a deleted node that was in 32767 groups is moved to no node, and no report is
given, though there is room. While the database is closed, no node is deleted. -/
theorem Panel.reassign_refused :
    (let p := (fresh .silent).after (housed ++ joining 1 32767);
      let left := (Operation.deleteNode 1).after p;
      p.isOpen = true ∧
        (left.fleet.nodes.map fun n => (n.enabled, n.health, n.maxUsers)) =
          [(true, .online, 0), (true, .online, 0)] ∧
        ∃ job, (Operation.deleteNode 1).answer p = .ok job ∧ job.userIds = ["user"] ∧
          ∀ now report, (Operation.reassign now job).answer left ≠ .ok report) ∧
    (let p := (fresh .silent).after (housed ++ [.world false .silent]);
      p.fleet.nodeOf? "user" = some 1 ∧ ∀ job, (Operation.deleteNode 1).answer p ≠ .ok job) := by
  constructor
  · have hmany : maxValues < 32767 := by decide
    obtain ⟨hopen, hnodes, job, hjob, husers, hrefused⟩ := reassign_of_many hmany
    refine ⟨hopen, hnodes, job, hjob, husers, ?_⟩
    intro now report h
    cases (hrefused now).symm.trans h
  · intro p
    have hclosed : p.isOpen = false := rfl
    refine ⟨by decide +kernel, ?_⟩
    intro job h
    cases (congrArg Prod.fst (Action.on_transact_of_closed hclosed _)).symm.trans h

end NodeFleet
