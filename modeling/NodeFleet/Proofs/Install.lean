import NodeFleet.Proofs.Transaction

/-!
# Installations and new nodes

What the operations of several transactions come to. An installation fails before it has done
anything, or it succeeds, whatever the steps on the host came to; only an account that is too long
for a row is refused when the token is issued and the scripts have been run. A new node stays when
the installation on it fails.
-/

namespace NodeFleet

namespace Shell

/-- Running steps makes no call undone. -/
theorem count_le_runSteps (target : SshTarget) (timeout : Nat) (steps : List (String × String))
    (last : Option String) (elapsed : Nat) (s : Shell) :
    s.count ≤ (runSteps target timeout steps last elapsed s).shell.count := by
  induction steps generalizing last elapsed s with
  | nil => exact Nat.le_refl _
  | cons step rest ih =>
    obtain ⟨name, script⟩ := step
    have hcall : s.count ≤ (s.exec target script).2.count := Nat.le_succ _
    rw [runSteps]
    dsimp only [exec] at hcall ⊢
    split
    · next spent output _ =>
      exact Nat.le_trans hcall (ih (some name) (elapsed + spent) (s.exec target script).2)
    · exact hcall
    · exact hcall

/-- An installation calls the host at least once. -/
theorem count_lt_runInstall (s : Shell) (target : SshTarget) (plan : InstallPlan)
    (config : InstallConfig) (now : Instant) :
    s.count < (runInstall s target plan config now).2.2.count := by
  unfold runInstall InstallPlan.steps
  rw [runSteps]
  dsimp only [exec]
  split
  · exact count_le_runSteps target config.timeout _ _ _ (s.exec target _).2
  · exact Nat.lt_succ_self _
  · exact Nat.lt_succ_self _

end Shell

namespace Fleet

@[simp] theorem noteInstall_id {now : Instant} {failedStep : Option String} {n : Node} :
    (noteInstall now failedStep n).id = n.id := by
  cases failedStep with
  | none => rfl
  | some step => rfl

/-- A node that exists can be looked at. -/
theorem getNode_of_mem {f : Fleet} {n : Node} (hn : n ∈ f.nodes) :
    ∃ view, getNode n.id f = .ok view ∧ view.node.id = n.id := by
  obtain ⟨m, hm⟩ := node?_of_mem hn
  refine ⟨f.nodeView m, ?_, (node?_eq_some hm).2⟩
  rw [getNode, findNode_eq_ok.2 hm]
  rfl

/-- A change of rows that leaves their numbers leaves the nodes to be looked at. -/
theorem getNode_updateNode {f : Fleet} {id : Int} {change : Node → Node} {n : Node}
    (hc : ∀ m, (change m).id = m.id) (hn : n ∈ f.nodes) :
    ∃ view, getNode n.id (f.updateNode id change) = .ok view ∧ view.node.id = n.id := by
  have hid : (if n.id = id then change n else n).id = n.id := by
    split
    · exact hc n
    · rfl
  rw [← hid]
  exact getNode_of_mem (List.mem_map_of_mem hn)

theorem toNode_mem_withNode {now : Instant} {d : NodeDraft} {f : Fleet} :
    d.toNode now (f.lastNode + 1) ∈ (f.withNode now d).nodes :=
  List.mem_append_right _ List.mem_cons_self

end Fleet

namespace Action

variable {α : Type} {p : Panel}

@[simp] theorem on_withShell (g : Shell → α × Shell) (p : Panel) :
    (withShell g).on p = (.ok (g p.shell).1, { p with shell := (g p.shell).2 }) := rfl

/-- An installation whose token is issued runs the scripts. Then it stores the account and marks the
row of the node, whatever the steps came to; an account that is too long is refused. -/
theorem on_installNode_of_ok {now : Instant} {token value : String} (config : InstallConfig)
    {node : Node} (target : SshTarget) (url : String) {f : Fleet} (hopen : p.isOpen = true)
    (h : Fleet.issueToken now token node.id p.fleet = .ok (value, f)) :
    let run := runInstall p.shell target ⟨node.id, node.port, url, value⟩ config now
    let record := run.1.toRecord node.id
    (installNode now token config node target url).on p =
      if maxRow < record.storedBytes then
        (.error rowTooBig, { p with fleet := f, shell := run.2.2 })
      else
        (.ok run.1,
          { fleet := (f.putInstall record).updateNode node.id
              (Fleet.noteInstall run.2.1 run.1.failedStep)
            isOpen := p.isOpen
            shell := run.2.2 }) := by
  have hissue : (transact (Fleet.issueToken now token node.id)).on p =
      (.ok value, { p with fleet := f }) := by
    rw [on_transact_eq_ok]
    exact ⟨hopen, f, h, rfl⟩
  obtain ⟨⟨n, hn⟩, -, hf⟩ := Fleet.issueToken_eq_ok.1 h
  simp only [Prod.mk.injEq] at hf
  unfold installNode
  rw [on_bind_of_ok hissue, on_bind_of_ok (on_withShell _ _)]
  -- what the scripts come to makes no difference
  generalize runInstall p.shell target ⟨node.id, node.port, url, value⟩ config now = run
  obtain ⟨result, finish, shell⟩ := run
  intro run record
  by_cases hlong : maxRow < record.storedBytes
  · rw [if_pos hlong]
    exact on_bind_of_error (on_transact_of_error hopen (Fleet.saveInstall_of_long hlong))
  · rw [if_neg hlong]
    -- neither the token nor the account touches the rows of the nodes
    have hnode : (f.putInstall record).node? node.id = some n := by
      rw [← hf.2]
      exact hn
    have hstore : (transact (Fleet.saveInstall record)).on { p with fleet := f, shell := shell } =
        (.ok (), { p with fleet := f.putInstall record, shell := shell }) := by
      rw [on_transact_eq_ok]
      exact ⟨hopen, _, Fleet.saveInstall_eq_ok.2 ⟨Nat.le_of_not_lt hlong, rfl⟩, rfl⟩
    refine (on_bind_of_ok hstore).trans (on_bind_eq_ok.2 ⟨(), _, ?_, rfl⟩)
    simp only [on_transact_eq_ok, Transaction.bind_eq_ok, Transaction.read_eq_ok,
      Fleet.findNode_eq_ok, Transaction.change_eq_ok]
    exact ⟨hopen, _, ⟨n, _, ⟨hnode, rfl⟩, rfl⟩, rfl⟩

/-- An installation does nothing, as its token is not issued; or it has issued the token of a node
that is there and run the scripts, and then refuses the account or succeeds. -/
theorem on_installNode_cases (now : Instant) (token : String) (config : InstallConfig)
    (node : Node) (target : SshTarget) (url : String) (p : Panel) :
    (∃ e, (installNode now token config node target url).on p = (.error e, p)) ∨
    p.isOpen = true ∧ (∃ n, p.fleet.node? node.id = some n) ∧
      (∀ t ∈ p.fleet.tokens, t.digest = tokenDigest token → t.nodeId = node.id) ∧
      let run := runInstall p.shell target ⟨node.id, node.port, url, token⟩ config now
      let record := run.1.toRecord node.id
      let stored := p.fleet.putToken ⟨node.id, tokenDigest token, now.toText, none⟩
      (maxRow < record.storedBytes ∧ (installNode now token config node target url).on p =
        (.error rowTooBig, { p with fleet := stored, shell := run.2.2 })) ∨
      (record.storedBytes ≤ maxRow ∧ (installNode now token config node target url).on p =
        (.ok run.1,
          { fleet := (stored.putInstall record).updateNode node.id
              (Fleet.noteInstall run.2.1 run.1.failedStep)
            isOpen := p.isOpen
            shell := run.2.2 })) := by
  rcases on_transact_cases (Fleet.issueToken now token node.id) p with
    ⟨value, f, hopen, h, -⟩ | ⟨e, h⟩
  · obtain ⟨hnode, hdigest, he⟩ := Fleet.issueToken_eq_ok.1 h
    have hon := on_installNode_of_ok config target url hopen h
    cases he
    refine .inr ⟨hopen, hnode, hdigest, ?_⟩
    intro run record stored
    by_cases hlong : maxRow < record.storedBytes
    · exact .inl ⟨hlong, hon.trans (if_pos hlong)⟩
    · exact .inr ⟨Nat.le_of_not_lt hlong, hon.trans (if_neg hlong)⟩
  · exact .inl ⟨e, on_bind_of_error h⟩

section Installed

variable {now : Instant} {token : String} {config : InstallConfig} {node : Node}
  {target : SshTarget} {url : String} {p' : Panel}

/-- An installation that succeeds has stored the token of a node that is there, has run the scripts
with it, and has put down what they came to in the account and in the row of the node. -/
theorem on_installNode_eq_ok {result : InstallResult}
    (h : (installNode now token config node target url).on p = (.ok result, p')) :
    let run := runInstall p.shell target ⟨node.id, node.port, url, token⟩ config now
    let stored := p.fleet.putToken ⟨node.id, tokenDigest token, now.toText, none⟩
    p.isOpen = true ∧ (∃ n, p.fleet.node? node.id = some n) ∧ result = run.1 ∧
      p' =
        { fleet := (stored.putInstall (run.1.toRecord node.id)).updateNode node.id
            (Fleet.noteInstall run.2.1 run.1.failedStep)
          isOpen := p.isOpen
          shell := run.2.2 } := by
  rcases on_installNode_cases now token config node target url p with
    ⟨e, hon⟩ | ⟨hopen, hnode, -, ⟨-, hon⟩ | ⟨-, hon⟩⟩
  · cases hon.symm.trans h
  · cases hon.symm.trans h
  · cases hon.symm.trans h
    exact ⟨hopen, hnode, rfl, rfl⟩

/-- An installation that fails has changed nothing, unless its account was refused: then the token
stays, and the calls have been made. -/
theorem on_installNode_eq_error {e : Error}
    (h : (installNode now token config node target url).on p = (.error e, p')) :
    p' = p ∨ e = rowTooBig ∧
      p' =
        { fleet := p.fleet.putToken ⟨node.id, tokenDigest token, now.toText, none⟩
          isOpen := p.isOpen
          shell :=
            (runInstall p.shell target ⟨node.id, node.port, url, token⟩ config now).2.2 } := by
  rcases on_installNode_cases now token config node target url p with
    ⟨e', hon⟩ | ⟨-, -, -, ⟨-, hon⟩ | ⟨-, hon⟩⟩
  · cases hon.symm.trans h
    exact .inl rfl
  · cases hon.symm.trans h
    exact .inr ⟨rfl, rfl⟩
  · cases hon.symm.trans h

/-- An installation that fails has touched no table but that of the tokens. -/
theorem fleet_of_installNode_error {e : Error}
    (h : (installNode now token config node target url).on p = (.error e, p')) :
    ∃ tokens, p'.fleet = { p.fleet with tokens := tokens } := by
  rcases on_installNode_eq_error h with rfl | ⟨-, rfl⟩
  · exact ⟨_, rfl⟩
  · exact ⟨_, rfl⟩

end Installed

/-- A request to install again is refused, or it is an installation on the node. -/
theorem on_reinstall_cases (now : Instant) (token : String) (config : InstallConfig) (id : Int)
    (r : InstallRequest) (p : Panel) :
    (∃ e, (reinstall now token config id r).on p = (.error e, p)) ∨
    ∃ node target url, node.id = id ∧
      (reinstall now token config id r).on p =
        (installNode now token config node target url).on p := by
  unfold reinstall
  cases hread : (read (Fleet.findNode id)).on p with
  | mk answer m =>
    have hm : m = p := by rw [← on_read_snd (Fleet.findNode id) p, hread]
    subst hm
    cases answer with
    | error e => exact .inl ⟨e, on_bind_of_error hread⟩
    | ok node =>
      rw [on_bind_of_ok hread]
      cases htarget : r.ssh.check with
      | error e => exact .inl ⟨e, rfl⟩
      | ok target =>
        cases hurl : Url.panelUrl r.panelUrl with
        | error e => exact .inl ⟨e, rfl⟩
        | ok url =>
          have hnode := Fleet.findNode_eq_ok.1 (on_read_eq_ok.1 hread).2.1
          exact .inr ⟨node, target, url, (Fleet.node?_eq_some hnode).2, rfl⟩

/-- An installation leaves the node, which can be looked at. -/
theorem getNode_after_installNode {now : Instant} {token : String} {config : InstallConfig}
    {node : Node} {target : SshTarget} {url : String} {result : InstallResult} {p' : Panel}
    (h : (installNode now token config node target url).on p = (.ok result, p'))
    (hn : node ∈ p.fleet.nodes) :
    p'.isOpen = true ∧ ∃ view, Fleet.getNode node.id p'.fleet = .ok view ∧
      view.node.id = node.id := by
  obtain ⟨hopen, -, -, rfl⟩ := on_installNode_eq_ok h
  -- the row of the node is marked, but still there
  exact ⟨hopen, Fleet.getNode_updateNode (fun _ => Fleet.noteInstall_id) hn⟩

/-- A request for a new node is refused, or the node is there: without an installation, or with one
that has failed or has been carried out. -/
theorem on_createNode_cases (now : Instant) (token : String) (config : InstallConfig)
    (r : CreateNode) (p : Panel) :
    (∃ e, (createNode now token config r).on p = (.error e, p)) ∨
    ∃ d, p.isOpen = true ∧ r.draft = .ok d ∧
      let m : Panel := { p with fleet := p.fleet.withNode now d }
      let node := d.toNode now (p.fleet.lastNode + 1)
      (∃ view, view.node.id = p.fleet.lastNode + 1 ∧
        (createNode now token config r).on p = (.ok ⟨view, none⟩, m)) ∨
      ∃ target url,
        (∃ e q, (installNode now token config node target url).on m = (.error e, q) ∧
          (createNode now token config r).on p = (.error e, q)) ∨
        ∃ result view q, (installNode now token config node target url).on m = (.ok result, q) ∧
          view.node.id = p.fleet.lastNode + 1 ∧
          (createNode now token config r).on p = (.ok ⟨view, some result⟩, q) := by
  unfold createNode
  cases hd : r.draft with
  | error e => exact .inl ⟨e, rfl⟩
  | ok d =>
    cases hi : r.installation with
    | error e => exact .inl ⟨e, rfl⟩
    | ok installation =>
      rw [on_bind_of_ok (on_check _ _), on_bind_of_ok (on_check _ _)]
      rcases on_transact_cases (Fleet.insertNode now d) p with ⟨n, f, hopen, h, hon⟩ | ⟨e, hon⟩
      · have he := Fleet.insertNode_eq_ok.1 h
        cases he
        refine .inr ⟨d, hopen, rfl, ?_⟩
        rw [on_bind_of_ok hon]
        intro m node
        have hmem : node ∈ m.fleet.nodes := Fleet.toNode_mem_withNode
        cases installation with
        | none =>
          obtain ⟨view, hview, hid⟩ := Fleet.getNode_of_mem hmem
          refine .inl ⟨view, hid, ?_⟩
          have hread : (read (Fleet.getNode (p.fleet.lastNode + 1))).on m = (.ok view, m) :=
            on_read_eq_ok.2 ⟨hopen, hview, rfl⟩
          exact (on_bind_of_ok (on_pure _ _)).trans (on_bind_of_ok hread)
        | some i =>
          refine .inr ⟨i.1, i.2, ?_⟩
          cases hinstall : (installNode now token config node i.1 i.2).on m with
          | mk answer q =>
            cases answer with
            | ok result =>
              obtain ⟨hopen', view, hview, hid⟩ := getNode_after_installNode hinstall hmem
              refine .inr ⟨result, view, q, rfl, hid, ?_⟩
              have hread : (read (Fleet.getNode (p.fleet.lastNode + 1))).on q = (.ok view, q) :=
                on_read_eq_ok.2 ⟨hopen', hview, rfl⟩
              exact (on_bind_of_ok (on_map_of_ok hinstall)).trans (on_bind_of_ok hread)
            | error e => exact .inl ⟨e, q, rfl, on_bind_of_error (on_map_of_error hinstall)⟩
      · exact .inl ⟨e, on_bind_of_error hon⟩

end Action

end NodeFleet
