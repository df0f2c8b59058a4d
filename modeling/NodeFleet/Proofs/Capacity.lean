import NodeFleet.Proofs.Run

/-!
# The limits of the nodes

A node with a limit never has more users than that. Users come to a node only by an assignment,
which needs room, and a limit changes only if the users fit under the new one.
-/

namespace NodeFleet

namespace Fleet

/-- Every node with a limit has at most so many users. -/
def WithinLimits (f : Fleet) : Prop :=
  ∀ n ∈ f.nodes, 0 < n.maxUsers → (f.userCount n.id : Int) ≤ n.maxUsers

/-- A new limit has room for the users that are there. -/
theorem patchNode_maxUsers {now : Instant} {patch : NodePatch} {current : Nat} {n n' : Node}
    (h : patchNode now patch current n = .ok n') :
    n'.maxUsers = n.maxUsers ∨ (0 < n'.maxUsers → (current : Int) ≤ n'.maxUsers) := by
  obtain ⟨_, _, _, _, maxUsers, _, _, -, -, -, -, hmax, -, -, rfl⟩ := patchNode_eq_ok.1 h
  cases hp : patch.maxUsers with
  | none =>
    rw [hp] at hmax
    cases hmax
    exact .inl rfl
  | some m =>
    rw [hp] at hmax
    simp only [patched, Except.bind_eq_ok, checkLimit_eq_ok, Except.ok.injEq] at hmax
    obtain ⟨m', -, u, hlimit, rfl⟩ := hmax
    exact .inr hlimit

end Fleet

/-- A row keeps its limit, or its users fit under the new one. -/
theorem Node.Step.maxUsers {f : Fleet} {d : Deed} {n n' : Node} (h : Node.Step f d n n') :
    n'.maxUsers = n.maxUsers ∨ (0 < n'.maxUsers → (f.userCount n.id : Int) ≤ n'.maxUsers) := by
  cases h with
  | update h => exact Fleet.patchNode_maxUsers h
  | @install _ failedStep =>
    cases failedStep with
    | none => exact .inl rfl
    | some step => exact .inl rfl
  | keep | enable | heartbeat | evaluate => exact .inl rfl

/-- A node with a limit takes a user only below it. -/
theorem Node.acceptsUsers_lt {n : Node} {current : Int} (h : n.acceptsUsers current = true)
    (hpos : 0 < n.maxUsers) : current < n.maxUsers := by
  simp only [acceptsUsers, Bool.and_eq_true, Bool.or_eq_true, beq_iff_eq,
    decide_eq_true_eq] at h
  omega

namespace Fleet

variable {f f' : Fleet} {d : Deed}

/-- Storing the assignment of a user takes the user from other nodes. -/
theorem userCount_putAssignment (hs : Sound f) {a : Assignment} (id : Int) :
    (f.putAssignment a).userCount id =
      (if a.nodeId = id then 1 else 0) +
        (f.assignments.filter (·.userId ≠ a.userId)).countP (·.nodeId = id) := by
  unfold userCount putAssignment
  rw [(upsert_perm hs.assignment_keys).countP_eq, List.countP_cons]
  simp [Nat.add_comm]

/-- The number of users of a node grows only by an assignment to it. -/
theorem Write.userCount_le (h : Write d f f') (hs : Sound f) {id : Int}
    (hd : ∀ user, d ≠ .assign user id) : f'.userCount id ≤ f.userCount id := by
  have hfilter (p : Assignment → Bool) :
      (f.assignments.filter p).countP (·.nodeId = id) ≤ f.userCount id :=
    List.filter_sublist.countP_le
  cases h with
  | @assign _ user nodeId =>
    have hne : nodeId ≠ id := by
      rintro rfl
      exact hd user rfl
    rw [userCount_putAssignment hs, if_neg hne, Nat.zero_add]
    exact hfilter _
  | deleteNode => exact hfilter _
  | unassign => exact hfilter _
  | same | createNode | updateNode | setEnabled | install | refusedInstall | issueToken
  | rotateToken | revokeToken | createGroup | updateGroup | deleteGroup | addMember | removeMember
  | heartbeat | evaluate =>
    exact Nat.le_refl _

/-- No user has a node that does not exist yet. -/
theorem Sound.userCount_next (hs : Sound f) : f.userCount (f.lastNode + 1) = 0 := by
  unfold userCount
  rw [List.countP_eq_zero]
  intro a ha hid
  simp only [decide_eq_true_eq] at hid
  exact hs.next_not_mem (hid ▸ hs.assignment_nodes a ha)

/-- Every write keeps the limits. -/
theorem Write.withinLimits (h : Write d f f') (hs : Sound f) (hf : f.WithinLimits) :
    f'.WithinLimits := by
  intro n' hn' hpos
  by_cases hd : ∃ user, d = .assign user n'.id
  · obtain ⟨user, rfl⟩ := hd
    generalize hid : n'.id = id at h
    cases h with
    | same => exact hid ▸ hf n' hn' hpos
    | @assign now _ _ _ _ hn _ hroom =>
      obtain ⟨hmem, hnid⟩ := node?_eq_some hn
      obtain rfl := hs.node_inj hmem hn' (hnid.trans hid.symm)
      -- the user comes on top of those that were there
      have hlt := Node.acceptsUsers_lt hroom hpos
      have hle : (f.assignments.filter (·.userId ≠ user)).countP (·.nodeId = id) ≤
          f.userCount id :=
        List.filter_sublist.countP_le
      rw [userCount_putAssignment hs, if_pos rfl]
      push_cast
      omega
  · simp only [not_exists] at hd
    have hle := h.userCount_le hs hd
    cases h.rowFrom hn' with
    | step hm hstep =>
      rw [hstep.id_eq] at hle ⊢
      rcases hstep.maxUsers with heq | hlimit
      · have := hf _ hm (heq ▸ hpos)
        omega
      · have := hlimit hpos
        omega
    | new _ =>
      have hzero := hs.userCount_next
      change f'.userCount (f.lastNode + 1) ≤ f.userCount (f.lastNode + 1) at hle
      change (f'.userCount (f.lastNode + 1) : Int) ≤ _
      omega

end Fleet

namespace Panel

theorem withinLimits_fresh (shell : Shell) (run : List Event) :
    ((fresh shell).after run).fleet.WithinLimits := by
  have h := ((fresh shell).writes_after run).keep (I := fun f => f.Sound ∧ f.WithinLimits)
    (fun _ _ _ _ hw hI => ⟨hw.sound hI.1, hw.withinLimits hI.1 hI.2⟩)
  refine (h ⟨Fleet.Sound.empty, ?_⟩).2
  intro n hn
  cases hn

/-- After any operations, a node with a limit has at most so many users. -/
theorem userCount_le_maxUsers (shell : Shell) (run : List Event) (n : Node)
    (hn : n ∈ ((fresh shell).after run).fleet.nodes) (hlimit : 0 < n.maxUsers) :
    (((fresh shell).after run).fleet.userCount n.id : Int) ≤ n.maxUsers :=
  withinLimits_fresh shell run n hn hlimit

/-- A node for one user, and two users who ask for it. -/
def oneSeat : List Event :=
  let now : Instant := ⟨0, 0⟩
  [.ask (.createNode now "" .standard
      ⟨"node", "", some "host", some 443, 1, 1, [], [], .manual, none, none⟩),
    .ask (.recordHeartbeat now 1 ⟨1, none⟩),
    .ask (.reconcile { ReconcilerConfig.standard with probeEnabled := false } (fun _ => .skipped)
      now),
    .ask (.assign now 1 "first"),
    .ask (.assign now 1 "second")]

/-- The node takes the first user, and then no other. -/
theorem userCount_oneSeat :
    let f := ((fresh .silent).after oneSeat).fleet
    ∃ n ∈ f.nodes, n.maxUsers = 1 ∧ f.userCount n.id = 1 ∧
      (f.userCount n.id : Int) ≤ n.maxUsers := by
  intro f
  have hnode : ∃ n ∈ f.nodes, n.maxUsers = 1 ∧ f.userCount n.id = 1 := by decide +kernel
  obtain ⟨n, hn, hmax, hcount⟩ := hnode
  exact ⟨n, hn, hmax, hcount, userCount_le_maxUsers .silent oneSeat n hn (by omega)⟩

end Panel

end NodeFleet
