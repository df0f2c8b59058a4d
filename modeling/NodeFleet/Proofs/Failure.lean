import NodeFleet.Proofs.Reassignment
import NodeFleet.Proofs.Run

/-!
# Failures

An operation that fails has changed nothing, neither the tables nor what the remote hosts were told.
Operations of several transactions have all their refusals before the first one that takes effect;
what follows it cannot fail, but for one thing: the database refuses the account of an installation
that is longer than a row may be.
-/

namespace NodeFleet

namespace Fleet

variable {f f' : Fleet} {id groupId nodeId : Int}

/-- No token has the digest of a value. -/
def Unused (f : Fleet) (value : String) : Prop := ∀ t ∈ f.tokens, t.digest ≠ tokenDigest value

theorem getGroup_of_mem (h : id ∈ f.groupIds) : ∃ view, getGroup id f = .ok view := by
  obtain ⟨g, hg, hid⟩ := List.mem_map.1 h
  cases hfind : f.group? id with
  | none => exact absurd (decide_eq_true hid) (List.find?_eq_none.1 hfind g hg)
  | some m =>
    rw [getGroup, findGroup_eq_ok.2 hfind]
    exact ⟨_, rfl⟩

theorem getGroup_of_group? {g : Group} (h : f.group? id = some g) (hf : f'.groups = f.groups) :
    ∃ view, getGroup id f' = .ok view := by
  refine getGroup_of_mem ?_
  rw [groupIds, hf]
  exact group?_mem_groupIds h

theorem isMember_groupIds (hs : Sound f) (h : f.isMember groupId nodeId = true) :
    groupId ∈ f.groupIds := by
  simp only [isMember, List.any_eq_true, decide_eq_true_eq] at h
  obtain ⟨m, hm, rfl, -⟩ := h
  exact hs.member_groups m hm

/-- A group stays when a node joins it. -/
theorem getGroup_of_joinGroup {now : Instant} {u : Unit}
    (h : joinGroup now groupId nodeId f = .ok (u, f')) :
    ∃ view, getGroup groupId f' = .ok view := by
  obtain ⟨⟨g, hg⟩, -, he⟩ := joinGroup_eq_ok.1 h
  cases he
  refine getGroup_of_group? hg ?_
  split
  · rfl
  · rfl

/-- A group that a node leaves exists, since memberships name groups that do. -/
theorem getGroup_of_leaveGroup (hs : Sound f) {u : Unit}
    (h : leaveGroup groupId nodeId f = .ok (u, f')) :
    ∃ view, getGroup groupId f' = .ok view := by
  obtain ⟨hmember, he⟩ := leaveGroup_eq_ok.1 h
  cases he
  have hgroup : groupId ∈ f.groupIds := isMember_groupIds hs hmember
  exact getGroup_of_mem hgroup

/-- The tables after an evaluation is written to the row of its snapshot, if the revisions of that
row have not moved. -/
def withEvaluation (snapshot : Node) (e : Evaluation) (now : Instant) (f : Fleet) : Fleet :=
  { f with
    nodes := f.nodes.map fun n =>
      if isUnmoved snapshot n then writeEvaluation snapshot e now n else n }

end Fleet

/-! ### Actions -/

namespace Action

variable {α β : Type} {p : Panel} {now : Instant}

theorem on_bind_pure_snd (a : Action α) (g : α → β) (p : Panel) :
    ((a >>= fun x => pure (g x)).on p).2 = (a.on p).2 :=
  congrArg Prod.snd (on_bind_pure rfl g)

/-- While the database is open, an evaluation is written or found outdated. -/
theorem on_applyEvaluation (hopen : p.isOpen = true) (snapshot : Node) (e : Evaluation)
    (now : Instant) :
    (transact (Fleet.applyEvaluation snapshot e now)).on p =
      (.ok (p.fleet.nodes.any (Fleet.isUnmoved snapshot)),
        { p with fleet := p.fleet.withEvaluation snapshot e now }) :=
  on_transact_eq_ok.2 ⟨hopen, _, Fleet.applyEvaluation_eq_ok.2 rfl, rfl⟩

/-- While the database is open, a tick evaluates all nodes. -/
theorem on_reconcile_of_open (hopen : p.isOpen = true) (config : ReconcilerConfig)
    (probe : Node → Probe) (now : Instant) :
    (reconcile config probe now).on p =
      (applyAll now (p.fleet.nodes.map fun n =>
        (n, n.evaluate now (probeOf config probe n) config))).on p :=
  on_bind_of_ok (on_read_of_open hopen _)

theorem on_reconcile_of_closed (hclosed : p.isOpen = false) (config : ReconcilerConfig)
    (probe : Node → Probe) (now : Instant) :
    (reconcile config probe now).on p = (.error databaseClosed, p) :=
  on_bind_of_error (on_read_of_closed hclosed _)

end Action

/-! ### Operations -/

/-- Whether an operation may install an agent. -/
def Operation.installs {α : Type} : Operation α → Bool
  | createNode _ _ _ _ | installNode _ _ _ _ _ _ | reinstall _ _ _ _ _ => true
  | _ => false

end NodeFleet
