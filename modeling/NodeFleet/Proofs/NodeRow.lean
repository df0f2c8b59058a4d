import NodeFleet.Proofs.Write

/-!
# What a transaction does to the row of a node

`Node.Step` says how each deed changes a row. Every row after a write is a row before it after one
step, or the row of a new node.
-/

namespace NodeFleet

namespace Fleet

variable {now : Instant} {patch : NodePatch} {current : Nat} {n n' : Node}

/-- The parts of a change that is accepted: each field passes its rule, a new limit is not below
the number of users, and the revision goes up if the agent has to know of the change. -/
theorem patchNode_eq_ok :
    patchNode now patch current n = .ok n' ↔
      ∃ name address port weight maxUsers tags whitelist,
        patched Field.name n.name patch.name = .ok name ∧
        patched Field.address n.address patch.address = .ok address ∧
        patched Field.port n.port patch.port = .ok port ∧
        patched Field.weight n.weight patch.weight = .ok weight ∧
        patched (fun m => do
          let m ← Field.maxUsers m
          checkLimit m current
          .ok m) n.maxUsers patch.maxUsers = .ok maxUsers ∧
        patchedTexts Field.tags n.tagList n.tags patch.tags = .ok tags ∧
        patchedTexts Network.whitelist n.whitelistEntries n.whitelist patch.whitelist
          = .ok whitelist ∧
        let needsSync := name ≠ n.name || address ≠ n.address || port ≠ n.port
          || maxUsers ≠ n.maxUsers || tags.1 || whitelist.1
        { n with
          name := name
          region := (patch.region.map Text.trim).getD n.region
          address := address
          port := port
          weight := weight
          maxUsers := maxUsers
          enabled := patch.enabled.getD n.enabled
          tags := tags.2
          whitelist := whitelist.2
          configRevision := if needsSync then n.configRevision + 1 else n.configRevision
          syncStatus := if needsSync then .pending else n.syncStatus
          updatedAt := now.toText } = n' := by
  unfold patchNode
  simp only [Except.bind_eq_ok, Except.ok.injEq]
  constructor
  · rintro ⟨name, hn, address, ha, port, hp, weight, hw, maxUsers, hm, tags, ht, whitelist, hl, h⟩
    exact ⟨name, address, port, weight, maxUsers, tags, whitelist, hn, ha, hp, hw, hm, ht, hl, h⟩
  · rintro ⟨name, address, port, weight, maxUsers, tags, whitelist, hn, ha, hp, hw, hm, ht, hl, h⟩
    exact ⟨name, hn, address, ha, port, hp, weight, hw, maxUsers, hm, tags, ht, whitelist, hl, h⟩

/-- A change that is accepted leaves the number of the node. -/
theorem patchNode_id (h : patchNode now patch current n = .ok n') : n'.id = n.id := by
  obtain ⟨_, _, _, _, _, _, _, -, -, -, -, -, -, -, rfl⟩ := patchNode_eq_ok.1 h
  rfl

theorem isUnmoved_id {snapshot : Node} (h : isUnmoved snapshot n = true) : n.id = snapshot.id := by
  simp only [isUnmoved, decide_eq_true_eq] at h
  exact h.1

end Fleet

/-- What a deed makes of the row of a node, in tables `f`: most leave it, and the others change the
row of their own node. -/
inductive Node.Step (f : Fleet) : Deed → Node → Node → Prop where
  | keep {d : Deed} {n : Node} : Step f d n n
  | update {now : Instant} {patch : NodePatch} {n n' : Node}
      (h : Fleet.patchNode now patch (f.userCount n.id) n = .ok n') :
      Step f (.updateNode n.id) n n'
  | enable {now : Instant} {enabled : Bool} {n : Node} :
      Step f (.setEnabled n.id) n { n with enabled := enabled, updatedAt := now.toText }
  | install {finish : Instant} {failedStep : Option String} {n : Node} :
      Step f (.install n.id) n (Fleet.noteInstall finish failedStep n)
  | heartbeat {now : Instant} {report : Heartbeat} {n : Node} :
      Step f (.heartbeat n.id) n (Fleet.noteHeartbeat now report n)
  | evaluate {snapshot : Node} {e : Evaluation} {now : Instant} {n : Node} :
      Step f (.evaluate n.id) n (Fleet.writeEvaluation snapshot e now n)

theorem Node.Step.id_eq {f : Fleet} {d : Deed} {n n' : Node} (h : Node.Step f d n n') :
    n'.id = n.id := by
  cases h with
  | keep => rfl
  | update h => exact Fleet.patchNode_id h
  | enable => rfl
  | install => exact Fleet.noteInstall_id
  | heartbeat => rfl
  | evaluate => rfl

namespace Fleet

/-- A row of `f'` follows from the tables `f` by a deed: it is a row of `f` after one step, or the
row of a new node. -/
inductive RowFrom (f : Fleet) : Deed → Node → Prop where
  | step {d : Deed} {n n' : Node} (hn : n ∈ f.nodes) (h : Node.Step f d n n') : RowFrom f d n'
  | new {now : Instant} {r : CreateNode} {draft : NodeDraft} (hd : r.draft = .ok draft) :
      RowFrom f .createNode (draft.toNode now (f.lastNode + 1))

/-- The rows after the row of one number has changed. -/
theorem rowFrom_updateNode {f : Fleet} {d : Deed} {id : Int} {change : Node → Node} {n : Node}
    (h : ∀ m ∈ f.nodes, m.id = id → RowFrom f d (change m))
    (hn : n ∈ (f.updateNode id change).nodes) : RowFrom f d n := by
  obtain ⟨m, hm, rfl⟩ := List.mem_map.1 hn
  split
  · next hid => exact h m hm hid
  · exact .step hm .keep

/-- Every row after a write is a row before it after one step, or the row of a new node. -/
theorem Write.rowFrom {f f' : Fleet} {d : Deed} (h : Write d f f') {n : Node}
    (hn : n ∈ f'.nodes) : RowFrom f d n := by
  cases h with
  | createNode hd =>
    rcases List.mem_append.1 hn with hn | hn
    · exact .step hn .keep
    · obtain rfl := List.mem_singleton.1 hn
      exact .new hd
  | updateNode hm hpatch =>
    obtain ⟨hmem, rfl⟩ := node?_eq_some hm
    exact rowFrom_updateNode (fun _ _ _ => .step hmem (.update hpatch)) hn
  | setEnabled =>
    refine rowFrom_updateNode ?_ hn
    rintro m hm rfl
    exact .step hm .enable
  | deleteNode => exact .step (List.mem_filter.1 hn).1 .keep
  | install =>
    obtain ⟨m, hm, rfl⟩ := List.mem_map.1 hn
    split
    · next hid => subst hid; exact .step hm .install
    · exact .step hm .keep
  | heartbeat =>
    refine rowFrom_updateNode ?_ hn
    rintro m hm rfl
    exact .step hm .heartbeat
  | evaluate =>
    obtain ⟨m, hm, rfl⟩ := List.mem_map.1 hn
    split
    · next hun =>
      rw [← isUnmoved_id hun]
      exact .step hm .evaluate
    · exact .step hm .keep
  | same | refusedInstall | issueToken | rotateToken | revokeToken | createGroup | updateGroup
  | deleteGroup | addMember | removeMember | assign | unassign => exact .step hn .keep

end Fleet

end NodeFleet
