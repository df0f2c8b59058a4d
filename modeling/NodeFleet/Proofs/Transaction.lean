import Mathlib.Tactic.ByContra
import NodeFleet.Fleet.Operation
import NodeFleet.Proofs.Panel

/-!
# What each transaction does

One statement for each transaction: the tables on which it succeeds, its answer, and the tables
that it leaves. Later proofs use these and do not open the transactions.
-/

namespace NodeFleet.Fleet

variable {f f' : Fleet} {now : Instant} {id nodeId groupId : Int}

/-! ### Checks -/

/-- No other node has the digest. -/
theorem checkDigest_eq_ok {digest : String} {u : Unit} :
    checkDigest nodeId digest f = .ok u ↔
      ∀ t ∈ f.tokens, t.digest = digest → t.nodeId = nodeId := by
  unfold checkDigest
  split
  · next h =>
    simp only [List.any_eq_true, decide_eq_true_eq] at h
    obtain ⟨t, ht, hne, hd⟩ := h
    simp only [reduceCtorEq, false_iff, not_forall]
    exact ⟨t, ht, hd, hne⟩
  · next h =>
    simp only [List.any_eq_true, decide_eq_true_eq, not_exists, not_and] at h
    simp only [true_iff]
    intro t ht hd
    by_contra hne
    exact h t ht hne hd

/-- There is room exactly if the node takes users. -/
theorem checkRoom_eq_ok {n : Node} {current : Nat} {u : Unit} :
    checkRoom n current = .ok u ↔ n.acceptsUsers current = true := by
  unfold checkRoom Node.acceptsUsers
  cases n.enabled with
  | false => simp
  | true =>
    by_cases hh : n.health = .offline
    · simp [hh]
    · simp [hh, Classical.or_iff_not_imp_left]

theorem checkLimit_eq_ok {maxUsers : Int} {current : Nat} {u : Unit} :
    checkLimit maxUsers current = .ok u ↔ (0 < maxUsers → (current : Int) ≤ maxUsers) := by
  unfold checkLimit
  split
  · next h => simp only [reduceCtorEq, false_iff]; omega
  · next h => simp only [true_iff]; omega

/-! ### Nodes -/

theorem insertNode_eq_ok {d : NodeDraft} {r : Node × Fleet} :
    insertNode now d f = .ok r ↔
      (d.toNode now (f.lastNode + 1), f.withNode now d) = r := by
  simp [insertNode]

theorem changeNode_eq_ok {patch : NodePatch} {r : Unit × Fleet} :
    changeNode now id patch f = .ok r ↔
      ∃ n n', f.node? id = some n ∧ patchNode now patch (f.userCount id) n = .ok n' ∧
        ((), f.updateNode id fun _ => n') = r := by
  simp [changeNode, and_assoc]

theorem enableNode_eq_ok {enabled : Bool} {r : Unit × Fleet} :
    enableNode now id enabled f = .ok r ↔
      ∃ n, f.node? id = some n ∧
        ((), if n.enabled = enabled then f
          else f.updateNode id fun n => { n with enabled := enabled, updatedAt := now.toText })
          = r := by
  simp [enableNode, and_assoc]

theorem deleteNode_eq_ok {r : ReassignJob × Fleet} :
    deleteNode id f = .ok r ↔
      (∃ n, f.node? id = some n) ∧ (f.jobOf id, f.withoutNode id) = r := by
  simp [deleteNode, and_assoc]

/-! ### Tokens -/

theorem issueToken_eq_ok {value : String} {r : String × Fleet} :
    issueToken now value id f = .ok r ↔
      (∃ n, f.node? id = some n) ∧
        (∀ t ∈ f.tokens, t.digest = tokenDigest value → t.nodeId = id) ∧
        (value, f.putToken ⟨id, tokenDigest value, now.toText, none⟩) = r := by
  simp [issueToken, checkDigest_eq_ok, and_assoc]

theorem saveInstall_eq_ok {record : InstallRecord} {r : Unit × Fleet} :
    saveInstall record f = .ok r ↔
      record.storedBytes ≤ maxRow ∧ ((), f.putInstall record) = r := by
  by_cases h : maxRow < record.storedBytes
  · simp [saveInstall, h, Nat.not_le_of_lt h]
  · simp [saveInstall, h, Nat.le_of_not_lt h]

/-- An account that is too long is refused. -/
theorem saveInstall_of_long {record : InstallRecord} (h : maxRow < record.storedBytes) :
    saveInstall record f = .error rowTooBig := by
  rw [saveInstall, if_pos h]
  rfl

theorem rotateToken_eq_ok {value : String} {r : String × Fleet} :
    rotateToken now value id f = .ok r ↔
      (∃ t ∈ f.tokens, t.nodeId = id ∧ t.revokedAt = none) ∧
        (∀ t ∈ f.tokens, t.digest = tokenDigest value → t.nodeId = id) ∧
        (value, f.updateValidToken id fun t =>
          { t with digest := tokenDigest value, issuedAt := now.toText }) = r := by
  simp only [rotateToken, Transaction.bind_eq_ok, Transaction.read_eq_ok,
    Transaction.change_eq_ok, Transaction.pure_eq_ok]
  by_cases h : f.tokens.any fun t => t.nodeId = id ∧ t.revokedAt = none
  · have hvalid := h
    simp only [List.any_eq_true, decide_eq_true_eq] at hvalid
    simp only [h, if_true, checkDigest_eq_ok]
    constructor
    · rintro ⟨_, _, ⟨hdigest, rfl⟩, _, _, he, rfl⟩
      cases he
      exact ⟨hvalid, hdigest, rfl⟩
    · rintro ⟨-, hdigest, rfl⟩
      exact ⟨(), f, ⟨hdigest, rfl⟩, (), _, rfl, rfl⟩
  · have hnone := h
    simp only [List.any_eq_true, decide_eq_true_eq] at hnone
    simp [hnone]

/-- A revocation finds a token; it changes the tables unless the token is revoked already. -/
theorem revokeToken_eq_ok {r : RevokeOutcome × Fleet} :
    revokeToken now id f = .ok r ↔
      ∃ t, f.token? id = some t ∧
        (if t.revokedAt.isSome then (.alreadyRevoked, f)
          else (.revoked, f.updateValidToken id fun t => { t with revokedAt := some now.toText }))
          = r := by
  unfold revokeToken
  cases f.token? id with
  | none => simp
  | some t =>
    cases h : t.revokedAt.isSome with
    | false => simp [h]
    | true => simp [h]

/-! ### Groups -/

theorem insertGroup_eq_ok {name : String} {request : CreateGroup} {r : Int × Fleet} :
    insertGroup now name request f = .ok r ↔
      (f.lastGroup + 1, f.withGroup now name request) = r := by
  simp [insertGroup]

theorem changeGroup_eq_ok {patch : GroupPatch} {r : Unit × Fleet} :
    changeGroup now id patch f = .ok r ↔
      ∃ g g', f.group? id = some g ∧ patchGroup patch now g = .ok g' ∧
        ((), f.updateGroup id fun _ => g') = r := by
  simp [changeGroup, and_assoc]

theorem deleteGroup_eq_ok {r : Unit × Fleet} :
    deleteGroup id f = .ok r ↔ (∃ g, f.group? id = some g) ∧ ((), f.withoutGroup id) = r := by
  simp [deleteGroup, and_assoc]

theorem joinGroup_eq_ok {r : Unit × Fleet} :
    joinGroup now groupId nodeId f = .ok r ↔
      (∃ g, f.group? groupId = some g) ∧ (∃ n, f.node? nodeId = some n) ∧
        ((), if f.isMember groupId nodeId then f
          else { f with members := f.members ++ [⟨groupId, nodeId, now.toText⟩] }) = r := by
  simp [joinGroup, and_assoc]

theorem leaveGroup_eq_ok {r : Unit × Fleet} :
    leaveGroup groupId nodeId f = .ok r ↔
      f.isMember groupId nodeId = true ∧
        ((), { f with
          members := f.members.filter fun m => ¬(m.groupId = groupId ∧ m.nodeId = nodeId) })
          = r := by
  unfold leaveGroup
  cases f.isMember groupId nodeId with
  | false => simp
  | true => simp

/-! ### Assignments -/

/-- A user who has the node keeps it; another one gets it if there is room. -/
theorem place_eq_ok {user : String} {r : Assignment × Fleet} :
    place now nodeId user f = .ok r ↔
      ∃ n, f.node? nodeId = some n ∧
        ((∃ a, f.assignment? user = some a ∧ a.nodeId = nodeId ∧ (a, f) = r) ∨
          ((∀ a, f.assignment? user = some a → a.nodeId ≠ nodeId) ∧
            n.acceptsUsers (f.userCount nodeId) = true ∧
            (⟨user, nodeId, now.toText⟩, f.putAssignment ⟨user, nodeId, now.toText⟩) = r)) := by
  simp only [place, Transaction.bind_eq_ok, Transaction.read_eq_ok, findNode_eq_ok,
    Except.ok.injEq]
  constructor
  · rintro ⟨n, _, ⟨hn, rfl⟩, _, _, ⟨rfl, rfl⟩, h⟩
    refine ⟨n, hn, ?_⟩
    cases ha : (f.assignment? user).filter (·.nodeId = nodeId) with
    | some a =>
      simp only [Option.filter_eq_some_iff, decide_eq_true_eq] at ha
      simp only [ha.1, Option.filter_some, ha.2, decide_true, if_true] at h
      exact .inl ⟨a, ha.1, ha.2, by simpa using h⟩
    | none =>
      rw [ha] at h
      simp only [Option.filter_eq_none_iff, decide_eq_true_eq] at ha
      simp only [Transaction.bind_eq_ok, Transaction.read_eq_ok, checkRoom_eq_ok] at h
      obtain ⟨_, _, ⟨hroom, rfl⟩, h⟩ := h
      exact .inr ⟨fun a h => ha a h, hroom, by simpa using h⟩
  · rintro ⟨n, hn, h⟩
    refine ⟨n, f, ⟨hn, rfl⟩, _, f, ⟨rfl, rfl⟩, ?_⟩
    rcases h with ⟨a, ha, hid, rfl⟩ | ⟨ha, hroom, rfl⟩
    · simp [ha, Option.filter_some, hid]
    · have hnone : (f.assignment? user).filter (·.nodeId = nodeId) = none := by
        simpa [Option.filter_eq_none_iff] using ha
      simp [hnone, checkRoom_eq_ok, hroom]

theorem unassign_eq_ok {user : String} {r : Unit × Fleet} :
    unassign user f = .ok r ↔
      (∃ a ∈ f.assignments, a.userId = user) ∧
        ((), { f with assignments := f.assignments.filter (·.userId ≠ user) }) = r := by
  unfold unassign
  by_cases h : f.assignments.any (·.userId = user)
  · have h' := h
    simp only [List.any_eq_true, decide_eq_true_eq] at h'
    simp [h, h']
  · have h' := h
    simp only [List.any_eq_true, decide_eq_true_eq] at h'
    simp [h, h']

/-! ### Heartbeats and evaluations -/

theorem recordHeartbeat_eq_ok {report : Heartbeat} {r : Int × Fleet} :
    recordHeartbeat now id report f = .ok r ↔
      ∃ n, f.node? id = some n ∧
        (n.configRevision, f.updateNode id (noteHeartbeat now report)) = r := by
  simp only [recordHeartbeat, Transaction.bind_eq_ok, Transaction.read_eq_ok, findNode_eq_ok,
    Transaction.change_eq_ok, Transaction.pure_eq_ok, Prod.mk.injEq]
  constructor
  · rintro ⟨n, _, ⟨hn, rfl⟩, _, _, ⟨-, rfl⟩, rfl⟩
    exact ⟨n, hn, rfl⟩
  · rintro ⟨n, hn, rfl⟩
    exact ⟨n, f, ⟨hn, rfl⟩, (), _, ⟨trivial, rfl⟩, rfl⟩

theorem applyEvaluation_eq_ok {snapshot : Node} {e : Evaluation} {r : Bool × Fleet} :
    applyEvaluation snapshot e now f = .ok r ↔
      (f.nodes.any (isUnmoved snapshot),
        { f with
          nodes := f.nodes.map fun n =>
            if isUnmoved snapshot n then writeEvaluation snapshot e now n else n }) = r := by
  simp [applyEvaluation]

end NodeFleet.Fleet

namespace NodeFleet.Action

/-! ### Actions of one transaction -/

/-- A deletion is refused, or it takes away the node and answers with the job of its users. -/
theorem on_deleteNode_cases (id : Int) (p : Panel) :
    (∃ e, (transact (Fleet.deleteNode id)).on p = (.error e, p)) ∨
      (transact (Fleet.deleteNode id)).on p =
        (.ok (p.fleet.jobOf id), { p with fleet := p.fleet.withoutNode id }) := by
  rcases on_transact_cases (Fleet.deleteNode id) p with ⟨job, f, -, h, hon⟩ | ⟨e, hon⟩
  · obtain ⟨-, he⟩ := Fleet.deleteNode_eq_ok.1 h
    cases he
    exact .inr hon
  · exact .inl ⟨e, hon⟩

/-- Taking the node from a user is refused, or the row of the user goes. -/
theorem on_unassign_cases (user : String) (p : Panel) :
    (∃ e, (transact (Fleet.unassign user)).on p = (.error e, p)) ∨
      (∃ a ∈ p.fleet.assignments, a.userId = user) ∧
        (transact (Fleet.unassign user)).on p =
          (.ok (), { p with fleet := { p.fleet with
            assignments := p.fleet.assignments.filter (·.userId ≠ user) } }) := by
  rcases on_transact_cases (Fleet.unassign user) p with ⟨_, f, -, h, hon⟩ | ⟨e, hon⟩
  · obtain ⟨hrow, he⟩ := Fleet.unassign_eq_ok.1 h
    cases he
    exact .inr ⟨hrow, hon⟩
  · exact .inl ⟨e, hon⟩

end NodeFleet.Action
