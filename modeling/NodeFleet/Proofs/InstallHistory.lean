import Mathlib.Data.List.Induction
import NodeFleet.Proofs.FailedInstall
import NodeFleet.Proofs.InstallRun
import NodeFleet.Proofs.Printed

/-!
# Accounts of installations by the history of a run

The stored account of a node is the one that the last installation on the node has answered, as long
as the node is not deleted. The steps come back from their text as they were stored, and the last
completed step, which is not stored, is found from them.
-/

namespace NodeFleet

/-! ### Steps -/

namespace InstallStep

theorem floatless_toJson (s : InstallStep) : s.toJson.Floatless := by
  unfold toJson
  apply Json.Value.Floatless.obj
  intro e he
  simp only [List.mem_cons, List.not_mem_nil, or_false] at he
  rcases he with rfl | rfl | rfl
  · exact .str s.name
  · exact .str s.status.name
  · cases s.message with
    | none => exact .null
    | some message => exact .str message

/-- A step is read back from its JSON. -/
theorem decoder_toJson (s : InstallStep) : decoder .text s.toJson.toDoc = .ok s := by
  obtain ⟨name, status, message⟩ := s
  cases status <;> cases message <;> rfl

end InstallStep

/-! ### The last completed step -/

theorem lastCompletedOf_cons {name : String} {message : Option String}
    {steps : List InstallStep} :
    InstallResult.lastCompletedOf (⟨name, .success, message⟩ :: steps) =
      (InstallResult.lastCompletedOf steps).or (some name) := by
  unfold InstallResult.lastCompletedOf
  rw [List.takeWhile_cons_of_pos (by simp), List.getLast?_cons]
  cases (steps.takeWhile (·.status = .success)).getLast? with
  | none => rfl
  | some step => rfl

/-- The steps tell which of them was completed last. -/
theorem lastCompleted_runSteps (target : SshTarget) (timeout : Nat)
    (steps : List (String × String)) (last : Option String) (elapsed : Nat) (shell : Shell) :
    let p := runSteps target timeout steps last elapsed shell
    p.lastCompleted = (InstallResult.lastCompletedOf p.steps).or last := by
  induction steps generalizing last elapsed shell with
  | nil => rfl
  | cons step rest ih =>
    obtain ⟨name, script⟩ := step
    rw [runSteps]
    dsimp only [Shell.exec]
    split
    · next spent output hwithin =>
      rw [lastCompletedOf_cons, Option.or_assoc, Option.some_or]
      exact ih (some name) (elapsed + spent) _
    · rfl
    · rfl

/-- The account of an installation comes back from its row as it was stored. -/
theorem toResult_toRecord (shell : Shell) (target : SshTarget) (plan : InstallPlan)
    (config : InstallConfig) (now : Instant) (nodeId : Int) :
    let result := (runInstall shell target plan config now).1
    (result.toRecord nodeId).toResult = .ok result := by
  intro result
  have hsteps : (Json.list InstallStep.decoder).ofText (result.toRecord nodeId).steps =
      .ok result.steps :=
    Json.ofText_list InstallStep.floatless_toJson InstallStep.decoder_toJson result.steps
  have hlast : InstallResult.lastCompletedOf result.steps = result.lastCompletedStep := by
    have h := lastCompleted_runSteps target config.timeout (plan.steps config) none 0 shell
    exact (h.trans Option.or_none).symm
  unfold InstallRecord.toResult
  rw [hsteps]
  dsimp only
  rw [hlast]
  rfl

/-! ### The table of accounts -/

namespace Fleet

variable {f f' : Fleet} {id : Int}

theorem loadInstall_congr (h : f'.installs = f.installs) :
    f'.loadInstall id = f.loadInstall id := by
  unfold loadInstall install?
  rw [h]

theorem loadInstall_withoutNode {gone : Int} :
    (f.withoutNode gone).loadInstall id = if gone = id then .ok none else f.loadInstall id := by
  have hrow : (f.withoutNode gone).install? id = if gone = id then none else f.install? id :=
    find?_filter_key gone id
  unfold loadInstall
  rw [hrow]
  by_cases h : gone = id
  · rw [if_pos h, if_pos h]
  · rw [if_neg h, if_neg h]

/-- A row that is stored takes the place of the one of its node. -/
theorem loadInstall_putInstall {record : InstallRecord} {result : InstallResult}
    (h : record.toResult = .ok result) :
    (f.putInstall record).loadInstall id =
      if record.nodeId = id then .ok (some result) else f.loadInstall id := by
  have hrow : (f.putInstall record).install? id =
      if record.nodeId = id then some record else f.install? id :=
    find?_upsert id
  unfold loadInstall
  rw [hrow]
  by_cases hid : record.nodeId = id
  · rw [if_pos hid, if_pos hid]
    dsimp only
    rw [h]
    rfl
  · rw [if_neg hid, if_neg hid]

end Fleet

/-- Whether a deed is about the accounts of installations. -/
def Deed.touchesInstalls : Deed → Prop
  | deleteNode _ | install _ => True
  | _ => False

theorem Fleet.Write.installs_eq {f f' : Fleet} {d : Deed} (h : Write d f f')
    (hd : ¬d.touchesInstalls) : f'.installs = f.installs := by
  cases h with
  | deleteNode | install => exact absurd trivial hd
  | same | createNode | updateNode | setEnabled | refusedInstall | issueToken | rotateToken
  | revokeToken | createGroup | updateGroup | deleteGroup | addMember | removeMember | assign
  | unassign | heartbeat | evaluate => rfl

/-- An installation stores its account, and leaves those of other nodes. -/
theorem Action.loadInstall_installNode {p p' : Panel} {now : Instant} {token : String}
    {config : InstallConfig} {node : Node} {target : SshTarget} {url : String}
    {result : InstallResult} {id : Int}
    (h : (installNode now token config node target url).on p = (.ok result, p')) :
    p'.fleet.loadInstall id =
      if node.id = id then .ok (some result) else p.fleet.loadInstall id := by
  obtain ⟨-, -, rfl, rfl⟩ := on_installNode_eq_ok h
  -- neither the token nor the mark in the row of the node touches the accounts
  exact Fleet.loadInstall_putInstall (f := p.fleet)
    (toResult_toRecord p.shell target ⟨node.id, node.port, url, token⟩ config now node.id)

/-! ### What answers tell about accounts -/

/-- What a successful answer tells about the account of a node: the one of an installation on the
node, or that there is none since the node is deleted. -/
def Operation.account (id : Int) {α : Type} : Operation α → α → Option (Option InstallResult)
  | deleteNode gone, _ => if gone = id then some none else none
  | op, x => (op.installed x).bind fun (nodeId, result) =>
      if nodeId = id then some (some result) else none

/-- What a look at the account of a node then answers. -/
def Operation.loaded (id : Int) {α : Type} (op : Operation α) (x : α) :
    Option (Except Error (Option InstallResult)) :=
  (op.account id x).map .ok

namespace Operation

variable {α : Type} {p : Panel} {id : Int}

/-- An answer that tells of an installation, after which the account of the node is loaded. -/
theorem recounts_of_installed {op : Operation α} {x : α} {q : Panel} {nodeId : Int}
    {result : InstallResult} (h : op.run.on p = (.ok x, q))
    (haccount : op.account id x = if nodeId = id then some (some result) else none)
    (hload : q.fleet.loadInstall id =
      if nodeId = id then .ok (some result) else p.fleet.loadInstall id) :
    op.Recounts p (·.loadInstall id) (loaded id) := by
  refine recounts_of_ok h ?_
  change q.fleet.loadInstall id = ((op.account id x).map .ok).getD (p.fleet.loadInstall id)
  rw [haccount, hload]
  split
  · rfl
  · rfl

/-- An operation that is an installation on a node. -/
theorem recounts_of_installNode {op : Operation InstallResult} {now : Instant} {token : String}
    {config : InstallConfig} {node : Node} {target : SshTarget} {url : String}
    (hrun : op.run.on p = (Action.installNode now token config node target url).on p)
    (haccount : ∀ result, op.account id result =
      if node.id = id then some (some result) else none) :
    op.Recounts p (·.loadInstall id) (loaded id) := by
  cases hon : (Action.installNode now token config node target url).on p with
  | mk answer q =>
    rw [hon] at hrun
    cases answer with
    | error e =>
      obtain ⟨tokens, hfleet⟩ := Action.fleet_of_installNode_error hon
      exact recounts_of_error hrun (by rw [hfleet]; rfl)
    | ok result =>
      exact recounts_of_installed hrun (haccount result) (Action.loadInstall_installNode hon)

theorem account_reinstall (now : Instant) (token : String) (config : InstallConfig) (nodeId : Int)
    (r : InstallRequest) :
    (reinstall now token config nodeId r).Recounts p (·.loadInstall id) (loaded id) := by
  rcases Action.on_reinstall_cases now token config nodeId r p with
    ⟨e, hon⟩ | ⟨node, target, url, rfl, hon⟩
  · exact recounts_of_refused hon
  · exact recounts_of_installNode hon fun _ => rfl

/-- A new node has an account if there was an installation on it. -/
theorem account_createNode (now : Instant) (token : String) (config : InstallConfig)
    (r : CreateNode) :
    (createNode now token config r).Recounts p (·.loadInstall id) (loaded id) := by
  rcases Action.on_createNode_cases now token config r p with
    ⟨e, hon⟩ | ⟨d, -, -, ⟨view, -, hon⟩ | ⟨target, url, ⟨e, q, hinstall, hon⟩ |
      ⟨result, view, q, hinstall, hid, hon⟩⟩⟩
  · exact recounts_of_refused hon
  · exact recounts_of_ok hon rfl
  · -- the node stays when the installation on it fails, and has no account
    obtain ⟨tokens, hfleet⟩ := Action.fleet_of_installNode_error hinstall
    exact recounts_of_error hon (by rw [hfleet]; rfl)
  · have hload : q.fleet.loadInstall id =
        if p.fleet.lastNode + 1 = id then .ok (some result) else p.fleet.loadInstall id :=
      Action.loadInstall_installNode hinstall
    refine recounts_of_installed hon ?_ hload
    change (if view.node.id = id then some (some result) else none) = _
    rw [hid]

/-- The account of a node is gone with the node. -/
theorem account_deleteNode (gone : Int) :
    (deleteNode gone).Recounts p (·.loadInstall id) (loaded id) := by
  rcases Action.on_deleteNode_cases gone p with ⟨e, hon⟩ | hon
  · exact recounts_of_refused hon
  · refine recounts_of_ok hon ?_
    change (p.fleet.withoutNode gone).loadInstall id =
      ((if gone = id then some none else none).map .ok).getD (p.fleet.loadInstall id)
    rw [Fleet.loadInstall_withoutNode]
    split
    · rfl
    · rfl

/-- An operation that is not about accounts. -/
theorem account_of_quiet {op : Operation α} (hquiet : ∀ x, op.loaded id x = none)
    (hd : ∀ d, op.deeds d → ¬d.touchesInstalls) :
    op.Recounts p (·.loadInstall id) (loaded id) := by
  have hsame : (op.after p).fleet.installs = p.fleet.installs :=
    (op.writes p).part_eq fun d _ _ hop hw => hw.installs_eq (hd d hop)
  exact recounts_of_quiet hquiet (Fleet.loadInstall_congr hsame)

end Operation

/-! ### The history of an account -/

/-- Each event replaces, clears or leaves the account of a node, as its answer tells. -/
theorem Event.loadInstall_after (e : Event) (p : Panel) (id : Int) :
    (e.after p).fleet.loadInstall id =
      (e.brings (Operation.loaded id) p).getD (p.fleet.loadInstall id) := by
  cases e with
  | world isOpen shell => rfl
  | ask op =>
    cases op with
    | installNode => exact Operation.recounts_of_installNode rfl fun _ => rfl
    | reinstall now token config nodeId r =>
      exact Operation.account_reinstall now token config nodeId r
    | createNode now token config r => exact Operation.account_createNode now token config r
    | deleteNode gone => exact Operation.account_deleteNode gone
    | reassign =>
      apply Operation.account_of_quiet (fun _ => rfl)
      rintro d ⟨name, -, nodeId, rfl⟩
      exact not_false
    | reconcile =>
      apply Operation.account_of_quiet (fun _ => rfl)
      rintro d ⟨nodeId, rfl⟩
      exact not_false
    | updateNode | setEnabled | issueToken | rotateToken | revokeToken | createGroup | updateGroup
    | deleteGroup | addMember | removeMember | assign | unassign | recordHeartbeat
    | applyEvaluation =>
      apply Operation.account_of_quiet (fun _ => rfl)
      rintro d rfl
      exact not_false
    | getNode | findNode | listNodes | loadInstall | tokenInfo | authenticate | getGroup
    | listGroups | userCount | userCounts | statistics =>
      exact Operation.account_of_quiet (fun _ => rfl) fun _ hd => hd.elim

theorem Event.brings_loaded (e : Event) (p : Panel) (id : Int) :
    e.brings (Operation.loaded id) p = (e.brings (Operation.account id) p).map .ok := by
  cases e with
  | world isOpen shell => rfl
  | ask op => exact (Option.map_bind ..).symm

/-- After any run, the account that is stored of a node is the whole answer of the last installation
on the node, and there is none if there was no installation or the node is deleted since. -/
theorem Panel.loadInstall_eq_last (shell : Shell) (run : List Event) (id : Int) :
    let p := (fresh shell).after run
    let last := ((fresh shell).collect (Event.brings (Operation.account id)) run).getLast?.join
    p.fleet.loadInstall id = .ok last ∧
      (Operation.loadInstall id).answer p =
        if p.isOpen then .ok last else .error databaseClosed := by
  intro p last
  have hload : p.fleet.loadInstall id = .ok last := by
    subst p last
    induction run using List.reverseRecOn with
    | nil => rfl
    | append_singleton run e ih =>
      rw [after_concat, e.loadInstall_after, e.brings_loaded, getLast?_collect_concat, ih]
      cases e.brings (Operation.account id) ((fresh shell).after run) with
      | none => rfl
      | some account => rfl
  refine ⟨hload, ?_⟩
  change ((Action.read (Fleet.loadInstall id)).on p).1 = _
  cases hopen : p.isOpen with
  | false =>
    rw [Action.on_read_of_closed hopen]
    rfl
  | true =>
    rw [Action.on_read_of_open hopen, hload]
    rfl

end NodeFleet
