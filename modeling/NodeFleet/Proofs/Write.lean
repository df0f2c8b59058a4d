import Mathlib.Logic.Relation
import NodeFleet.Proofs.Install

/-!
# What operations write

Every operation changes the tables by a sequence of transactions out of a fixed set.
`Fleet.Write` is that set, with a `Deed` that tells what a transaction is about, and
`Operation.deeds` says which deeds an operation may do. A property of the tables that every write
keeps is kept by every operation; a write that an operation has no deed for does not occur in it.
-/

namespace NodeFleet

/-- What a transaction is about. An installation is one deed: the token, the stored account, and
the mark in the row of the node, or the token alone if the account is refused. -/
inductive Deed where
  | createNode
  | updateNode (id : Int)
  | setEnabled (id : Int)
  | deleteNode (id : Int)
  | install (id : Int)
  | issueToken (id : Int)
  | rotateToken (id : Int)
  | revokeToken (id : Int)
  | createGroup
  | updateGroup (id : Int)
  | deleteGroup (id : Int)
  | addMember (groupId nodeId : Int)
  | removeMember (groupId nodeId : Int)
  | assign (user : String) (nodeId : Int)
  | unassign (user : String)
  | heartbeat (id : Int)
  | evaluate (id : Int)

namespace Fleet

/-- A successful transaction: its deed, the tables before it, and the tables after it. What the
transaction has checked is kept where it says something about the tables. -/
inductive Write : Deed → Fleet → Fleet → Prop where
  /-- A transaction that found nothing to change. -/
  | same {d : Deed} {f : Fleet} : Write d f f
  | createNode {now : Instant} {r : CreateNode} {d : NodeDraft} {f : Fleet}
      (hd : r.draft = .ok d) : Write .createNode f (f.withNode now d)
  | updateNode {now : Instant} {id : Int} {patch : NodePatch} {n n' : Node} {f : Fleet}
      (hn : f.node? id = some n) (h : patchNode now patch (f.userCount id) n = .ok n') :
      Write (.updateNode id) f (f.updateNode id fun _ => n')
  | setEnabled {now : Instant} {id : Int} {enabled : Bool} {f : Fleet} :
      Write (.setEnabled id) f
        (f.updateNode id fun n => { n with enabled := enabled, updatedAt := now.toText })
  | deleteNode {id : Int} {f : Fleet} : Write (.deleteNode id) f (f.withoutNode id)
  | install {now finish : Instant} {token : String} {id : Int} {n : Node} {record : InstallRecord}
      {failedStep : Option String} {f : Fleet} (hn : f.node? id = some n)
      (hdigest : ∀ t ∈ f.tokens, t.digest = tokenDigest token → t.nodeId = id)
      (hr : record.nodeId = id) :
      Write (.install id) f
        (((f.putToken ⟨id, tokenDigest token, now.toText, none⟩).putInstall record).updateNode id
          (noteInstall finish failedStep))
  | refusedInstall {now : Instant} {token : String} {id : Int} {n : Node} {f : Fleet}
      (hn : f.node? id = some n)
      (hdigest : ∀ t ∈ f.tokens, t.digest = tokenDigest token → t.nodeId = id) :
      Write (.install id) f (f.putToken ⟨id, tokenDigest token, now.toText, none⟩)
  | issueToken {now : Instant} {token : String} {id : Int} {n : Node} {f : Fleet}
      (hn : f.node? id = some n)
      (hdigest : ∀ t ∈ f.tokens, t.digest = tokenDigest token → t.nodeId = id) :
      Write (.issueToken id) f (f.putToken ⟨id, tokenDigest token, now.toText, none⟩)
  | rotateToken {now : Instant} {token : String} {id : Int} {f : Fleet}
      (hdigest : ∀ t ∈ f.tokens, t.digest = tokenDigest token → t.nodeId = id) :
      Write (.rotateToken id) f
        (f.updateValidToken id fun t =>
          { t with digest := tokenDigest token, issuedAt := now.toText })
  | revokeToken {now : Instant} {id : Int} {f : Fleet} :
      Write (.revokeToken id) f
        (f.updateValidToken id fun t => { t with revokedAt := some now.toText })
  | createGroup {now : Instant} {name : String} {r : CreateGroup} {f : Fleet}
      (hn : Field.name r.name = .ok name) : Write .createGroup f (f.withGroup now name r)
  | updateGroup {now : Instant} {id : Int} {patch : GroupPatch} {g g' : Group} {f : Fleet}
      (hg : f.group? id = some g) (h : patchGroup patch now g = .ok g') :
      Write (.updateGroup id) f (f.updateGroup id fun _ => g')
  | deleteGroup {id : Int} {f : Fleet} : Write (.deleteGroup id) f (f.withoutGroup id)
  | addMember {now : Instant} {groupId nodeId : Int} {g : Group} {n : Node} {f : Fleet}
      (hg : f.group? groupId = some g) (hn : f.node? nodeId = some n)
      (hnew : f.isMember groupId nodeId = false) :
      Write (.addMember groupId nodeId) f
        { f with members := f.members ++ [⟨groupId, nodeId, now.toText⟩] }
  | removeMember {groupId nodeId : Int} {f : Fleet} :
      Write (.removeMember groupId nodeId) f
        { f with
          members := f.members.filter fun m => ¬(m.groupId = groupId ∧ m.nodeId = nodeId) }
  | assign {now : Instant} {user : String} {nodeId : Int} {n : Node} {f : Fleet}
      (hn : f.node? nodeId = some n)
      (hnew : ∀ a, f.assignment? user = some a → a.nodeId ≠ nodeId)
      (hroom : n.acceptsUsers (f.userCount nodeId) = true) :
      Write (.assign user nodeId) f (f.putAssignment ⟨user, nodeId, now.toText⟩)
  | unassign {user : String} {f : Fleet} :
      Write (.unassign user) f
        { f with assignments := f.assignments.filter (·.userId ≠ user) }
  | heartbeat {now : Instant} {id : Int} {report : Heartbeat} {f : Fleet} :
      Write (.heartbeat id) f (f.updateNode id (noteHeartbeat now report))
  | evaluate {now : Instant} {snapshot : Node} {e : Evaluation} {f : Fleet} :
      Write (.evaluate snapshot.id) f
        { f with
          nodes := f.nodes.map fun n =>
            if isUnmoved snapshot n then writeEvaluation snapshot e now n else n }

/-! ### The transactions are writes -/

section Transactions

variable {now : Instant} {id groupId nodeId : Int} {f f' : Fleet}

theorem write_insertNode {r : CreateNode} {d : NodeDraft} {n : Node} (hd : r.draft = .ok d)
    (h : insertNode now d f = .ok (n, f')) : Write .createNode f f' := by
  simp only [insertNode_eq_ok, Prod.mk.injEq] at h
  obtain ⟨-, rfl⟩ := h
  exact .createNode hd

theorem write_changeNode {patch : NodePatch} {u : Unit}
    (h : changeNode now id patch f = .ok (u, f')) : Write (.updateNode id) f f' := by
  obtain ⟨n, n', hn, hpatch, he⟩ := changeNode_eq_ok.1 h
  cases he
  exact .updateNode hn hpatch

theorem write_enableNode {enabled : Bool} {u : Unit}
    (h : enableNode now id enabled f = .ok (u, f')) : Write (.setEnabled id) f f' := by
  obtain ⟨n, -, he⟩ := enableNode_eq_ok.1 h
  cases he
  split
  · exact .same
  · exact .setEnabled

theorem write_deleteNode {job : ReassignJob} (h : deleteNode id f = .ok (job, f')) :
    Write (.deleteNode id) f f' := by
  obtain ⟨-, he⟩ := deleteNode_eq_ok.1 h
  cases he
  exact .deleteNode

theorem write_issueToken {token value : String} (h : issueToken now token id f = .ok (value, f')) :
    Write (.issueToken id) f f' := by
  obtain ⟨⟨n, hn⟩, hdigest, he⟩ := issueToken_eq_ok.1 h
  cases he
  exact .issueToken hn hdigest

theorem write_rotateToken {token value : String}
    (h : rotateToken now token id f = .ok (value, f')) : Write (.rotateToken id) f f' := by
  obtain ⟨-, hdigest, he⟩ := rotateToken_eq_ok.1 h
  cases he
  exact .rotateToken hdigest

theorem write_revokeToken {outcome : RevokeOutcome}
    (h : revokeToken now id f = .ok (outcome, f')) : Write (.revokeToken id) f f' := by
  obtain ⟨t, -, he⟩ := revokeToken_eq_ok.1 h
  split at he
  · cases he
    exact .same
  · cases he
    exact .revokeToken

theorem write_insertGroup {name : String} {r : CreateGroup} {i : Int}
    (hn : Field.name r.name = .ok name) (h : insertGroup now name r f = .ok (i, f')) :
    Write .createGroup f f' := by
  simp only [insertGroup_eq_ok, Prod.mk.injEq] at h
  obtain ⟨-, rfl⟩ := h
  exact .createGroup hn

theorem write_changeGroup {patch : GroupPatch} {u : Unit}
    (h : changeGroup now id patch f = .ok (u, f')) : Write (.updateGroup id) f f' := by
  obtain ⟨g, g', hg, hpatch, he⟩ := changeGroup_eq_ok.1 h
  cases he
  exact .updateGroup hg hpatch

theorem write_deleteGroup {u : Unit} (h : deleteGroup id f = .ok (u, f')) :
    Write (.deleteGroup id) f f' := by
  obtain ⟨-, he⟩ := deleteGroup_eq_ok.1 h
  cases he
  exact .deleteGroup

theorem write_joinGroup {u : Unit} (h : joinGroup now groupId nodeId f = .ok (u, f')) :
    Write (.addMember groupId nodeId) f f' := by
  obtain ⟨⟨g, hg⟩, ⟨n, hn⟩, he⟩ := joinGroup_eq_ok.1 h
  cases he
  split
  · exact .same
  · next hnew => exact .addMember hg hn (by simpa using hnew)

theorem write_leaveGroup {u : Unit} (h : leaveGroup groupId nodeId f = .ok (u, f')) :
    Write (.removeMember groupId nodeId) f f' := by
  obtain ⟨-, he⟩ := leaveGroup_eq_ok.1 h
  cases he
  exact .removeMember

theorem write_place {user : String} {a : Assignment} (h : place now nodeId user f = .ok (a, f')) :
    Write (.assign user nodeId) f f' := by
  obtain ⟨n, hn, ⟨b, -, -, he⟩ | ⟨hnew, hroom, he⟩⟩ := place_eq_ok.1 h
  · cases he
    exact .same
  · cases he
    exact .assign hn hnew hroom

theorem write_unassign {user : String} {u : Unit} (h : unassign user f = .ok (u, f')) :
    Write (.unassign user) f f' := by
  obtain ⟨-, he⟩ := unassign_eq_ok.1 h
  cases he
  exact .unassign

theorem write_recordHeartbeat {report : Heartbeat} {revision : Int}
    (h : recordHeartbeat now id report f = .ok (revision, f')) : Write (.heartbeat id) f f' := by
  obtain ⟨n, -, he⟩ := recordHeartbeat_eq_ok.1 h
  cases he
  exact .heartbeat

theorem write_applyEvaluation {snapshot : Node} {e : Evaluation} {written : Bool}
    (h : applyEvaluation snapshot e now f = .ok (written, f')) :
    Write (.evaluate snapshot.id) f f' := by
  have he := applyEvaluation_eq_ok.1 h
  cases he
  exact .evaluate

end Transactions

/-- A sequence of transactions with deeds out of `D`. -/
def Writes (D : Deed → Prop) : Fleet → Fleet → Prop :=
  Relation.ReflTransGen fun f f' => ∃ d, D d ∧ Write d f f'

namespace Writes

variable {D : Deed → Prop} {f f' : Fleet}

theorem single {d : Deed} (hd : D d) (h : Write d f f') : Writes D f f' :=
  Relation.ReflTransGen.single ⟨d, hd, h⟩

theorem mono {D' : Deed → Prop} (h : Writes D f f') (hD : ∀ d, D d → D' d) : Writes D' f f' := by
  refine Relation.ReflTransGen.mono ?_ _ _ h
  rintro g g' ⟨d, hd, hw⟩
  exact ⟨d, hD d hd, hw⟩

/-- A property that each write keeps holds after a sequence of writes. -/
theorem keep {I : Fleet → Prop} (hI : ∀ d g g', D d → Write d g g' → I g → I g')
    (h : Writes D f f') (hf : I f) : I f' := by
  induction h with
  | refl => exact hf
  | tail _ hstep ih =>
    obtain ⟨d, hd, hw⟩ := hstep
    exact hI d _ _ hd hw ih

/-- A relation of the tables before and after each write, if it is reflexive and transitive, is one
of the tables before and after a sequence of writes. -/
theorem relate {R : Fleet → Fleet → Prop} (hrefl : ∀ g, R g g)
    (htrans : ∀ {a b c}, R a b → R b c → R a c) (hR : ∀ d g g', D d → Write d g g' → R g g')
    (h : Writes D f f') : R f f' := by
  induction h with
  | refl => exact hrefl _
  | tail _ hstep ih =>
    obtain ⟨d, hd, hw⟩ := hstep
    exact htrans ih (hR d _ _ hd hw)

/-- What none of the writes changes is the same afterwards. -/
theorem part_eq {β : Type} {part : Fleet → β} (h : Writes D f f')
    (hpart : ∀ d g g', D d → Write d g g' → part g' = part g) : part f' = part f :=
  h.relate (R := fun g g' => part g' = part g) (fun _ => rfl) (fun hab hbc => hbc.trans hab) hpart

end Writes

end Fleet

/-- The deeds that an operation may do. -/
def Operation.deeds {α : Type} : Operation α → Deed → Prop
  | createNode .., d => d = .createNode ∨ ∃ id, d = .install id
  | updateNode _ id _, d => d = .updateNode id
  | setEnabled _ id _, d => d = .setEnabled id
  | deleteNode id, d => d = .deleteNode id
  | installNode _ _ _ node _ _, d => d = .install node.id
  | reinstall _ _ _ id _, d => d = .install id
  | issueToken _ _ id, d => d = .issueToken id
  | rotateToken _ _ id, d => d = .rotateToken id
  | revokeToken _ id, d => d = .revokeToken id
  | createGroup .., d => d = .createGroup
  | updateGroup _ id _, d => d = .updateGroup id
  | deleteGroup id, d => d = .deleteGroup id
  | addMember _ id nodeId, d => d = .addMember id nodeId
  | removeMember id nodeId, d => d = .removeMember id nodeId
  | assign _ id user, d => d = .assign (Text.trim user) id
  | unassign user, d => d = .unassign user
  | reassign _ job, d => ∃ user ∈ job.userIds, ∃ id, d = .assign (Text.trim user) id
  | recordHeartbeat _ id _, d => d = .heartbeat id
  | reconcile .., d => ∃ id, d = .evaluate id
  | applyEvaluation snapshot .., d => d = .evaluate snapshot.id
  | getNode _, _ | findNode _, _ | listNodes _, _ | loadInstall _, _ | tokenInfo _, _
  | authenticate _, _ | getGroup _, _ | listGroups, _ | userCount _, _ | userCounts, _
  | statistics, _ => False

namespace Action

variable {α β : Type} {D : Deed → Prop} {p : Panel}

/-- On a panel, an action changes the tables by transactions with deeds out of `D` only. -/
def Writes (D : Deed → Prop) (a : Action α) (p : Panel) : Prop :=
  Fleet.Writes D p.fleet (a.on p).2.fleet

/-- An action that leaves the tables as they are. -/
theorem Writes.of_fleet_eq {a : Action α} (h : (a.on p).2.fleet = p.fleet) : a.Writes D p := by
  unfold Writes
  rw [h]
  exact .refl

theorem Writes.of_on {a : Action α} {r : Except Error α} {p' : Panel} (h : a.Writes D p)
    (hon : a.on p = (r, p')) : Fleet.Writes D p.fleet p'.fleet := by
  unfold Writes at h
  rw [hon] at h
  exact h

theorem writes_read (query : Fleet → Except Error α) : (read query).Writes D p :=
  .of_fleet_eq (by rw [on_read_snd])

theorem writes_check (result : Except Error α) : (check result).Writes D p :=
  .of_fleet_eq rfl

theorem writes_pure (x : α) : (pure x : Action α).Writes D p :=
  .of_fleet_eq rfl

theorem writes_transact {t : Transaction α} {d : Deed} (hd : D d)
    (h : ∀ x f', t p.fleet = .ok (x, f') → Fleet.Write d p.fleet f') :
    (transact t).Writes D p := by
  rcases on_transact_cases t p with ⟨x, f', -, ht, hon⟩ | ⟨e, hon⟩
  · unfold Writes
    rw [hon]
    exact .single hd (h x f' ht)
  · exact .of_fleet_eq (by rw [hon])

theorem writes_bind {a : Action α} {k : α → Action β} (ha : a.Writes D p)
    (hk : ∀ x m, a.on p = (.ok x, m) → (k x).Writes D m) : (a >>= k).Writes D p := by
  unfold Writes at ha ⊢
  rw [on_bind]
  cases h : a.on p with
  | mk r m =>
    rw [h] at ha
    cases r with
    | error e => exact ha
    | ok x => exact ha.trans (hk x m h)

theorem writes_map {a : Action α} {g : α → β} (ha : a.Writes D p) : (g <$> a).Writes D p := by
  rw [map_eq_pure_bind]
  exact writes_bind ha fun x _ _ => writes_pure (g x)

/-! ### Installations -/

theorem writes_installNode {now : Instant} {token : String} {config : InstallConfig}
    {node : Node} {target : SshTarget} {url : String} (hD : D (.install node.id)) :
    (installNode now token config node target url).Writes D p := by
  rcases on_installNode_cases now token config node target url p with
    ⟨e, hon⟩ | ⟨-, ⟨n, hn⟩, hdigest, ⟨-, hon⟩ | ⟨-, hon⟩⟩
  · exact .of_fleet_eq (by rw [hon])
  · unfold Writes
    rw [hon]
    exact .single hD (.refusedInstall hn hdigest)
  · unfold Writes
    rw [hon]
    exact .single hD (.install hn hdigest rfl)

theorem writes_createNode {now : Instant} {token : String} {config : InstallConfig}
    {r : CreateNode} (hD : D .createNode) (hI : ∀ id, D (.install id)) :
    (createNode now token config r).Writes D p := by
  refine writes_bind (writes_check _) fun draft m hdraft => ?_
  simp only [on_check, Prod.mk.injEq] at hdraft
  refine writes_bind (writes_check _) fun installation m _ => ?_
  refine writes_bind (writes_transact hD fun _ _ h =>
    Fleet.write_insertNode hdraft.1 h) fun node m _ => ?_
  cases installation with
  | none =>
    refine writes_bind (writes_pure none) fun _ _ _ => ?_
    exact writes_bind (writes_read _) fun _ _ _ => writes_pure _
  | some i =>
    refine writes_bind (writes_map (writes_installNode (hI node.id))) fun _ _ _ => ?_
    exact writes_bind (writes_read _) fun _ _ _ => writes_pure _

theorem writes_reinstall {now : Instant} {token : String} {config : InstallConfig} {id : Int}
    {r : InstallRequest} (hD : D (.install id)) :
    (reinstall now token config id r).Writes D p := by
  refine writes_bind (writes_read _) fun node m hnode => ?_
  simp only [on_read_eq_ok, Fleet.findNode_eq_ok] at hnode
  have hid : node.id = id := (Fleet.node?_eq_some hnode.2.1).2
  refine writes_bind (writes_check _) fun target _ _ => ?_
  refine writes_bind (writes_check _) fun url _ _ => ?_
  exact writes_installNode (hid ▸ hD)

/-! ### Reassignments and ticks -/

theorem writes_assign {now : Instant} {id : Int} {user : String}
    (hD : D (.assign (Text.trim user) id)) : (assign now id user).Writes D p := by
  dsimp only [assign]
  split
  · exact .of_fleet_eq rfl
  · exact writes_transact hD fun _ _ h => Fleet.write_place h

@[simp] theorem on_succeeds_snd (a : Action α) (p : Panel) :
    ((succeeds a).on p).2 = (a.on p).2 := by
  simp only [on, succeeds]
  split <;> simp_all

/-- Each user of a job is assigned at most, one after the other. -/
theorem writes_reassignEach {now : Instant} {candidates : List Node} {preferred : List Int}
    {users : List String} (hD : ∀ user ∈ users, ∀ id, D (.assign (Text.trim user) id))
    (counts : UserCounts) (p : Panel) :
    (reassignEach now candidates preferred users counts).Writes D p := by
  induction users generalizing counts p with
  | nil => exact writes_pure _
  | cons user users ih =>
    have hrest := ih fun u hu => hD u (List.mem_cons_of_mem _ hu)
    unfold reassignEach
    cases pickTarget candidates counts preferred with
    | none => exact writes_bind (hrest counts p) fun _ _ _ => writes_pure _
    | some target =>
      refine writes_bind ?_ fun placed m _ => ?_
      · unfold Writes
        rw [on_succeeds_snd]
        exact writes_assign (hD user List.mem_cons_self target)
      · cases placed with
        | true => exact writes_bind (hrest _ m) fun _ _ _ => writes_pure _
        | false => exact writes_bind (hrest _ m) fun _ _ _ => writes_pure _

/-- A tick evaluates nodes and does nothing else. -/
theorem writes_applyAll {now : Instant} (hD : ∀ id, D (.evaluate id))
    (evaluations : List (Node × Evaluation)) (p : Panel) :
    (applyAll now evaluations).Writes D p := by
  induction evaluations generalizing p with
  | nil => exact writes_pure _
  | cons ne rest ih =>
    unfold applyAll
    split
    · exact ih p
    · refine writes_bind ?_ fun _ m _ => ?_
      · exact writes_transact (hD ne.1.id) fun _ _ h => Fleet.write_applyEvaluation h
      · exact writes_bind (ih m) fun _ _ _ => writes_pure _

end Action

open NodeFleet.Action NodeFleet.Fleet in
/-- An operation changes the tables by a sequence of transactions whose deeds are its own. -/
theorem Operation.writes {α : Type} (op : Operation α) (p : Panel) :
    Fleet.Writes op.deeds p.fleet (op.after p).fleet := by
  change op.run.Writes op.deeds p
  cases op with
  | createNode => exact writes_createNode (.inl rfl) fun id => .inr ⟨id, rfl⟩
  | updateNode =>
    exact writes_bind (writes_transact rfl fun _ _ h => write_changeNode h)
      fun _ _ _ => writes_read _
  | setEnabled =>
    exact writes_bind (writes_transact rfl fun _ _ h => write_enableNode h)
      fun _ _ _ => writes_read _
  | deleteNode => exact writes_transact rfl fun _ _ h => write_deleteNode h
  | installNode => exact writes_installNode rfl
  | reinstall => exact writes_reinstall rfl
  | issueToken => exact writes_transact rfl fun _ _ h => write_issueToken h
  | rotateToken => exact writes_transact rfl fun _ _ h => write_rotateToken h
  | revokeToken => exact writes_transact rfl fun _ _ h => write_revokeToken h
  | createGroup =>
    refine writes_bind (writes_check _) fun name m hname => ?_
    simp only [on_check, Prod.mk.injEq] at hname
    exact writes_bind (writes_transact rfl fun _ _ h => write_insertGroup hname.1 h)
      fun _ _ _ => writes_read _
  | updateGroup =>
    exact writes_bind (writes_transact rfl fun _ _ h => write_changeGroup h)
      fun _ _ _ => writes_read _
  | deleteGroup => exact writes_transact rfl fun _ _ h => write_deleteGroup h
  | addMember =>
    exact writes_bind (writes_transact rfl fun _ _ h => write_joinGroup h)
      fun _ _ _ => writes_read _
  | removeMember =>
    exact writes_bind (writes_transact rfl fun _ _ h => write_leaveGroup h)
      fun _ _ _ => writes_read _
  | assign now id user =>
    change (Action.assign now id user).Writes _ p
    exact writes_assign rfl
  | unassign => exact writes_transact rfl fun _ _ h => write_unassign h
  | reassign now job =>
    exact writes_bind (writes_read _) fun _ m _ =>
      writes_reassignEach (fun user hu id => ⟨user, hu, id, rfl⟩) _ m
  | recordHeartbeat => exact writes_transact rfl fun _ _ h => write_recordHeartbeat h
  | reconcile =>
    exact writes_bind (writes_read _) fun _ m _ => writes_applyAll (fun id => ⟨id, rfl⟩) _ m
  | applyEvaluation => exact writes_transact rfl fun _ _ h => write_applyEvaluation h
  | getNode | findNode | listNodes | loadInstall | tokenInfo | authenticate | getGroup
  | listGroups | userCount | userCounts | statistics => exact writes_read _

end NodeFleet
