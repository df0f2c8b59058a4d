import NodeFleet.Proofs.Arrival
import NodeFleet.Proofs.Authentication
import NodeFleet.Proofs.Deletion

/-!
# Deletion of a node

A deletion takes the rows that name the node out of five tables, and leaves all other rows. Its job
tells the users and the groups of the node as they were. The number is not given again, so in no
later state there is a node of the number, and the tokens that were issued to it authenticate no
one.
-/

namespace NodeFleet

namespace Fleet

variable {f : Fleet} {id : Int}

/-- A number of no node is not found. -/
theorem getNode_of_not_mem (h : id ∉ f.nodeIds) :
    getNode id f = .error (.notFound ("Узел не найден: " ++ Text.showInt id)) := by
  have hnone : f.node? id = none := by
    cases hrow : f.node? id with
    | none => rfl
    | some n => exact absurd (node?_mem_nodeIds hrow) h
  unfold getNode findNode
  rw [hnone]
  rfl

/-- Only a node that exists is authenticated. -/
theorem Sound.mem_nodeIds_of_authenticate (hs : Sound f) {value : String}
    (h : f.authenticate value = some id) : id ∈ f.nodeIds := by
  obtain ⟨t, ht, hid, -⟩ := hs.validDigest?_eq_some.1 (hs.authenticate_eq_some.1 h)
  exact hid ▸ hs.token_nodes t ht

/-- The job of a node has its users each once, in the order of their rows. -/
theorem userIds_jobOf_sublist : (f.jobOf id).userIds.Sublist f.users := List.filter_sublist.map _

/-- A node is in each of its groups once. -/
theorem Sound.nodup_groupIds_jobOf (hs : Sound f) (id : Int) : (f.jobOf id).groupIds.Nodup := by
  have hkeys := (List.pairwise_map.1 hs.member_keys).filter fun m => m.nodeId = id
  refine List.pairwise_map.2 (hkeys.imp_of_mem ?_)
  intro m m' hm hm' hne hgroup
  have hnode : m.nodeId = id := by simpa using (List.mem_filter.1 hm).2
  have hnode' : m'.nodeId = id := by simpa using (List.mem_filter.1 hm').2
  exact hne (Prod.ext hgroup (hnode.trans hnode'.symm))

end Fleet

namespace Panel

variable {shell : Shell} {run later : List Event} {id : Int}

/-- The number of a deleted node names no node later. -/
theorem not_mem_nodeIds_after_delete (hopen : ((fresh shell).after run).isOpen = true)
    (hid : id ∈ ((fresh shell).after run).fleet.nodeIds) :
    id ∉ ((fresh shell).after (run ++ .ask (.deleteNode id) :: later)).fleet.nodeIds := by
  have hs := sound_fresh shell run
  obtain ⟨n, hn, rfl⟩ := List.mem_map.1 hid
  have hdelete := on_deleteNode hopen (hs.node?_eq hn)
  obtain ⟨-, hafter⟩ := (Operation.deleteNode n.id).answer_of_on hdelete
  rw [List.append_cons, after_append, after_concat, Event.after_ask, hafter]
  intro hmem
  rcases (follows_after { (fresh shell).after run with
      fleet := ((fresh shell).after run).fleet.withoutNode n.id } later).nodes n.id hmem with
    hleft | hnew
  · exact (Fleet.Sound.mem_nodeIds_withoutNode.1 hleft).2 rfl
  · exact absurd (hs.nodes_le n.id hid) (Int.not_le.2 hnew)

/-- A value that is issued to one node only authenticates this node or none. -/
theorem authenticate_of_issued_once {value : String}
    (honly : ∀ m w, .issued m w ∈ (fresh shell).collect Event.tokenChange run →
      tokenDigest w = tokenDigest value → m = id)
    (hgone : id ∉ ((fresh shell).after run).fleet.nodeIds) :
    ((fresh shell).after run).fleet.authenticate value = none := by
  have hs := sound_fresh shell run
  rw [Option.eq_none_iff_forall_ne_some]
  intro m hm
  obtain ⟨w, hholds, hdigest⟩ :=
    (validDigest?_eq_some_iff shell run m _).1 (hs.authenticate_eq_some.1 hm)
  obtain rfl : m = id := honly m w hholds.mem_collect hdigest
  exact hgone (hs.mem_nodeIds_of_authenticate hm)

/-- In every state of a run with the database open, the deletion of a node succeeds, and takes
exactly the rows that name the node out of the tables. The job names the users of the node, each
once, in the order in which their present stays began, and the groups that show the node, each once.
In every later state the node is not found, no value authenticates it, and a value that was issued
to it authenticates no other node either, unless one with the same digest was issued to that one. -/
theorem delete_complete (shell : Shell) (run : List Event) (n : Node)
    (hopen : ((fresh shell).after run).isOpen = true)
    (hn : n ∈ ((fresh shell).after run).fleet.nodes) :
    let p := (fresh shell).after run
    let deletion := Operation.deleteNode n.id
    ∃ job, deletion.answer p = .ok job ∧
      deletion.after p =
        { p with
          fleet :=
            { p.fleet with
              nodes := p.fleet.nodes.filter (·.id ≠ n.id)
              tokens := p.fleet.tokens.filter (·.nodeId ≠ n.id)
              members := p.fleet.members.filter (·.nodeId ≠ n.id)
              assignments := p.fleet.assignments.filter (·.nodeId ≠ n.id)
              installs := p.fleet.installs.filter (·.nodeId ≠ n.id) } } ∧
      job.fromNode = n.id ∧
      (∀ user, user ∈ job.userIds ↔ p.fleet.nodeOf? user = some n.id) ∧
      job.userIds.Nodup ∧
      job.userIds.Pairwise (Stay.CameBefore ((fresh shell).stays run)) ∧
      (∀ g, g ∈ job.groupIds ↔
        ∃ view, (Operation.getGroup g).answer p = .ok view ∧ n.id ∈ view.nodeIds) ∧
      job.groupIds.Nodup ∧
      ∀ later : List Event,
        let whole := run ++ .ask deletion :: later
        let q := (fresh shell).after whole
        let issued := (fresh shell).collect Event.tokenChange
        n.id ∉ q.fleet.nodeIds ∧
        (∀ value, q.fleet.authenticate value ≠ some n.id) ∧
        (∀ value, .issued n.id value ∈ issued run →
          (∀ m w, .issued m w ∈ issued whole → tokenDigest w = tokenDigest value → m = n.id) →
          q.fleet.authenticate value = none) ∧
        (q.isOpen = true → (Operation.getNode n.id).answer q =
          .error (.notFound ("Узел не найден: " ++ Text.showInt n.id))) := by
  intro p deletion
  have hs : p.fleet.Sound := sound_fresh shell run
  have hid : n.id ∈ p.fleet.nodeIds := List.mem_map_of_mem hn
  obtain ⟨hanswer, hafter⟩ := deletion.answer_of_on (on_deleteNode hopen (hs.node?_eq hn))
  refine ⟨p.fleet.jobOf n.id, hanswer, hafter, rfl, ?_, ?_, ?_, ?_, ?_, ?_⟩
  · exact fun user => hs.mem_jobOf
  · exact Fleet.userIds_jobOf_sublist.nodup hs.assignment_keys
  · exact (pairwise_users shell run).sublist Fleet.userIds_jobOf_sublist
  · intro g
    rw [Fleet.mem_groupIds_jobOf, answer_getGroup hopen, hs.exists_getGroup_mem_nodeIds]
  · exact hs.nodup_groupIds_jobOf n.id
  · intro later whole q issued
    have hgone : n.id ∉ q.fleet.nodeIds := not_mem_nodeIds_after_delete hopen hid
    refine ⟨hgone, ?_, ?_, ?_⟩
    · intro value hvalue
      exact hgone ((sound_fresh shell whole).mem_nodeIds_of_authenticate hvalue)
    · intro value _ honly
      exact authenticate_of_issued_once honly hgone
    · intro hqopen
      rw [answer_getNode hqopen]
      exact Fleet.getNode_of_not_mem hgone

/-- A node in a group with a token and two users; the first of them has been on another node in
between. -/
def returned : List Event :=
  let now : Instant := ⟨0, 0⟩
  let create : Event := .ask (.createNode now "" .standard
    ⟨"node", "", some "host", some 443, 1, 0, [], [], .manual, none, none⟩)
  let hear (id : Int) : Event := .ask (.recordHeartbeat now id ⟨1, none⟩)
  [create, create, hear 1, hear 2,
    .ask (.reconcile { ReconcilerConfig.standard with probeEnabled := false } (fun _ => .skipped)
      now),
    .ask (.createGroup now ⟨"group", "", "", .weighted⟩), .ask (.addMember now 1 1),
    .ask (.assign now 1 "first"), .ask (.assign now 1 "second"), .ask (.assign now 2 "first"),
    .ask (.assign now 1 "first"), .ask (.issueToken now "value" 1)]

/-- The first user is still named first. The next node gets another number, and the token of the
deleted one authenticates no one. -/
theorem delete_complete_returned :
    let now : Instant := ⟨0, 0⟩
    let p := (fresh .silent).after returned
    let create : Event := .ask (.createNode now "" .standard
      ⟨"node", "", some "host", some 443, 1, 0, [], [], .manual, none, none⟩)
    let q := (fresh .silent).after (returned ++ [.ask (.deleteNode 1), create])
    ((Operation.deleteNode 1).answer p).toOption = some ⟨1, [1], ["first", "second"]⟩ ∧
      q.fleet.nodeIds = [2, 3] ∧ q.fleet.authenticate "value" = none := by
  intro now p create q
  have hnode : ∃ n ∈ p.fleet.nodes, n.id = 1 := by decide +kernel
  obtain ⟨n, hn, hid⟩ := hnode
  obtain ⟨job, hdelete, -, -, -, -, -, -, -, hlater⟩ :=
    delete_complete .silent returned n (by decide +kernel) hn
  obtain ⟨-, -, htoken, -⟩ := hlater [create]
  rw [hid] at hdelete htoken
  have hjob : ((Operation.deleteNode 1).answer p).toOption =
      some ⟨1, [1], ["first", "second"]⟩ := by decide +kernel
  have hissued : (fresh .silent).collect Event.tokenChange
      (returned ++ [.ask (.deleteNode 1), create]) = [.issued 1 "value", .ended 1] := by
    decide +kernel
  refine ⟨hjob, by decide +kernel, htoken "value" (by decide +kernel) ?_⟩
  intro m w hmem _
  rw [hissued] at hmem
  simp only [List.mem_cons, TokenChange.issued.injEq, reduceCtorEq, List.not_mem_nil, or_false]
    at hmem
  exact hmem.1

end Panel

end NodeFleet
