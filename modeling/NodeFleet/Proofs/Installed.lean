import NodeFleet.Proofs.Authentication
import NodeFleet.Proofs.Failure
import NodeFleet.Proofs.InstallHistory
import NodeFleet.Proofs.InstallScript
import NodeFleet.Proofs.Listing

/-!
# What an installation leaves

An installation writes a token, an account and the row of its node, and runs scripts in between. The
four tell of the same: the scripts carry the token whose digest is stored, and the row tells how the
account ended.
-/

namespace NodeFleet

/-! ### The steps that were begun -/

section Steps

variable (target : SshTarget) (timeout : Nat) (steps : List (String × String))
  (last : Option String) (elapsed : Nat) (shell : Shell)

/-- The step that failed is the first one that has no success. -/
theorem failure_runSteps :
    let p := runSteps target timeout steps last elapsed shell
    p.failure.map (·.1) = (p.steps.find? (·.status ≠ .success)).map (·.name) := by
  induction steps generalizing last elapsed shell with
  | nil => rfl
  | cons step rest ih =>
    obtain ⟨name, script⟩ := step
    rw [runSteps]
    dsimp only [Shell.exec]
    split
    · next spent output hwithin => exact ih (some name) (elapsed + spent) _
    · rfl
    · rfl

/-- The shell is called for the first steps, which are those that are no longer pending. -/
theorem exists_begun_runSteps :
    let p := runSteps target timeout steps last elapsed shell
    ∃ begun, begun <+: steps ∧ p.shell.calls = (shell.afterSteps target begun).calls ∧
      begun.map (·.1) = (p.steps.filter (·.status ≠ .pending)).map (·.name) := by
  induction steps generalizing last elapsed shell with
  | nil => exact ⟨[], List.prefix_refl [], by simp [runSteps, Shell.afterSteps], rfl⟩
  | cons step rest ih =>
    obtain ⟨name, script⟩ := step
    -- a step that fails is the last one that was begun
    have hstopped (message code : String) (elapsed' : Nat) :
        let p := Progress.stopped name message code rest last elapsed'
          (shell.exec target script).2
        ∃ begun, begun <+: (name, script) :: rest ∧
          p.shell.calls = (shell.afterSteps target begun).calls ∧
          begun.map (·.1) = (p.steps.filter (·.status ≠ .pending)).map (·.name) := by
      refine ⟨[(name, script)], ⟨rest, rfl⟩, rfl, ?_⟩
      simp [Progress.stopped, List.filter_map, Function.comp_def]
    rw [runSteps]
    dsimp only [Shell.exec] at hstopped ⊢
    split
    · next spent output hwithin =>
      obtain ⟨begun, hfirst, hcalls, hnames⟩ := ih (some name) (elapsed + spent)
        (shell.exec target script).2
      refine ⟨(name, script) :: begun, List.cons_prefix_cons.2 ⟨rfl, hfirst⟩, ?_, ?_⟩
      · refine hcalls.trans ?_
        simp [Shell.afterSteps, Shell.exec]
      · rw [List.filter_cons_of_pos (by simp), List.map_cons, List.map_cons, hnames]
        rfl
    · exact hstopped _ _ _
    · exact hstopped _ _ _

end Steps

/-! ### What is left -/

/-- A script asks for the agent with a token. -/
def SendsToken (token script : String) : Prop :=
  ∃ commands, Posix.commandsOf script = some commands ∧
    ∃ c ∈ commands, ["-H", "Authorization: Bearer " ++ token] <:+: c.words

/-- A script writes the configuration of a node and a token. If a JSON number can hold the number
and the port of the node, the configuration is what the JSON text in the script is read as. -/
def StoresToken (id port : Int) (token script : String) : Prop :=
  ∃ commands, Posix.commandsOf script = some commands ∧
    ∃ c ∈ commands, ∃ config : Json.Value, c.document = some [config.render] ∧
      config.get? "token" = some (.str token) ∧
      (Json.Holds id → Json.Holds port → Json.Value.parse config.render = .ok config)

section Scripts

variable {p : InstallPlan} {c : InstallConfig} {script : String}

theorem InstallPlan.eq_downloadScript (h : ("download_agent", script) ∈ p.steps c) :
    script = p.downloadScript c := by
  simpa [steps] using h

theorem InstallPlan.eq_configureScript (h : ("configure", script) ∈ p.steps c) :
    script = p.configureScript c := by
  simpa [steps] using h

end Scripts

theorem sendsToken_downloadScript (p : InstallPlan) (c : InstallConfig) :
    SendsToken p.token (p.downloadScript c) := by
  refine ⟨_, p.commandsOf_downloadScript c, _, List.mem_cons_of_mem _ List.mem_cons_self, ?_⟩
  exact ⟨["curl", "-fsSL", "--retry", "3"],
    [p.downloadUrl, "-o", c.remoteBinaryPath ++ ".tmp"], rfl⟩

theorem storesToken_configureScript (p : InstallPlan) (c : InstallConfig) :
    StoresToken p.nodeId p.nodePort p.token (p.configureScript c) := by
  refine ⟨_, p.commandsOf_configureScript c, _, List.mem_of_getLast? rfl, p.agentConfig, rfl, ?_,
    fun hid hport => p.parse_agentConfig hid hport⟩
  rw [p.agentConfig_eq]
  rfl

section Runs

variable (shell : Shell) (target : SshTarget) (plan : InstallPlan) (config : InstallConfig)
  (now : Instant)

theorem failedStep_runInstall :
    let result := (runInstall shell target plan config now).1
    result.failedStep = (result.steps.find? (·.status ≠ .success)).map (·.name) :=
  failure_runSteps target config.timeout (plan.steps config) none 0 shell

/-- The scripts of the steps that were begun were sent, and carry the token of the plan. -/
theorem exists_begun_runInstall :
    let run := runInstall shell target plan config now
    ∃ begun : List (String × String),
      run.2.2.calls = shell.calls ++ begun.map (fun step => ⟨target, step.2⟩) ∧
      begun.map (·.1) = (run.1.steps.filter (·.status ≠ .pending)).map (·.name) ∧
      (∀ script, ("download_agent", script) ∈ begun → SendsToken plan.token script) ∧
      ∀ script, ("configure", script) ∈ begun →
        StoresToken plan.nodeId plan.nodePort plan.token script := by
  intro run
  obtain ⟨begun, hfirst, hcalls, hnames⟩ :=
    exists_begun_runSteps target config.timeout (plan.steps config) none 0 shell
  refine ⟨begun, hcalls, hnames, ?_, ?_⟩
  · intro script hscript
    rw [InstallPlan.eq_downloadScript (hfirst.subset hscript)]
    exact sendsToken_downloadScript plan config
  · intro script hscript
    rw [InstallPlan.eq_configureScript (hfirst.subset hscript)]
    exact storesToken_configureScript plan config

end Runs

/-- What an installation leaves: the token and the row of the node, the account, and the scripts
that were sent. -/
structure Installed (before : Shell) (after : Panel) (id port : Int) (token : String)
    (target : SshTarget) (result : InstallResult) : Prop where
  account : after.fleet.loadInstall id = .ok (some result)
  issued : (after.fleet.tokenInfo id).state = .issued
  digest : (after.fleet.token? id).map (·.digest) = some (tokenDigest token)
  authenticates : ∀ value,
    after.fleet.authenticate value = some id ↔ tokenDigest value = tokenDigest token
  /-- The scripts of the steps that were begun were sent, and carry the token. -/
  scripts : ∃ begun : List (String × String),
    after.shell.calls = before.calls ++ begun.map (fun step => ⟨target, step.2⟩) ∧
    begun.map (·.1) = (result.steps.filter (·.status ≠ .pending)).map (·.name) ∧
    (∀ script, ("download_agent", script) ∈ begun → SendsToken token script) ∧
    ∀ script, ("configure", script) ∈ begun → StoresToken id port token script
  pending_of_success : result.success = true →
    ∃ n, after.fleet.node? id = some n ∧ n.syncStatus = .pending ∧ n.syncError = none
  failed_of_failure : result.success = false →
    ∃ n step, after.fleet.node? id = some n ∧
      result.steps.find? (·.status ≠ .success) = some step ∧
      n.syncStatus = .failed ∧ n.syncError = some ("install failed at step " ++ step.name)

/-- A request for an installation that passes the checks has an account on a remote host. -/
theorem CreateNode.installation_eq_ok (r : CreateNode) (hmode : r.mode = .autoInstall)
    {i : Option (SshTarget × String)} (h : r.installation = .ok i) :
    ∃ ssh target url, r.ssh = some ssh ∧ ssh.check = .ok target ∧ i = some (target, url) := by
  unfold installation at h
  rw [hmode] at h
  dsimp only at h
  cases hssh : r.ssh with
  | none =>
    rw [hssh] at h
    cases h
  | some ssh =>
    rw [hssh] at h
    obtain ⟨target, hcheck, h⟩ := Except.bind_eq_ok.1 h
    cases htext : r.panelUrl with
    | none =>
      rw [htext] at h
      cases h
    | some text =>
      rw [htext] at h
      obtain ⟨url, -, h⟩ := Except.bind_eq_ok.1 h
      cases h
      exact ⟨ssh, target, url, rfl, hcheck, rfl⟩

theorem Fleet.noteInstall_port {now : Instant} {failedStep : Option String} {n : Node} :
    (noteInstall now failedStep n).port = n.port := by
  cases failedStep with
  | none => rfl
  | some step => rfl

namespace Action

variable {p p' : Panel} {now : Instant} {token : String} {config : InstallConfig} {n : Node}
  {target : SshTarget} {url : String} {result : InstallResult}

/-- An installation runs the scripts with the token that it has stored. -/
theorem run_installNode
    (h : (installNode now token config n target url).on p = (.ok result, p')) :
    let run := runInstall p.shell target ⟨n.id, n.port, url, token⟩ config now
    result = run.1 ∧ p'.shell = run.2.2 ∧
      p'.fleet.tokens = (p.fleet.putToken ⟨n.id, tokenDigest token, now.toText, none⟩).tokens := by
  obtain ⟨-, -, rfl, rfl⟩ := on_installNode_eq_ok h
  exact ⟨rfl, rfl, rfl⟩

theorem sound_installNode (hs : p.fleet.Sound)
    (h : (installNode now token config n target url).on p = (.ok result, p')) :
    p'.fleet.Sound :=
  ((writes_installNode (D := fun _ => True) trivial).of_on h).sound hs

/-- The token, the scripts, the account and the row of an installation tell of the same. -/
theorem installed_of_on (hs : p.fleet.Sound)
    (h : (installNode now token config n target url).on p = (.ok result, p')) :
    Installed p.shell p' n.id n.port token target result := by
  have hs' := sound_installNode hs h
  have hload : p'.fleet.loadInstall n.id = .ok (some result) :=
    (loadInstall_installNode h).trans (if_pos rfl)
  obtain ⟨_, finish, -, hrow⟩ := node?_installNode hs' h
  obtain ⟨-, hsuccess, -⟩ := nodes_installNode h
  obtain ⟨hresult, hshell, htokens⟩ := run_installNode h
  have htoken : p'.fleet.token? n.id = some ⟨n.id, tokenDigest token, now.toText, none⟩ := by
    rw [Fleet.token?, htokens]
    exact Fleet.token?_putToken.trans (if_pos rfl)
  have hfailed : result.failedStep =
      (result.steps.find? (·.status ≠ .success)).map (·.name) := by
    rw [hresult]
    exact failedStep_runInstall ..
  refine ⟨hload, ?_, ?_, ?_, ?_, ?_, ?_⟩
  · rw [Fleet.tokenInfo, htoken]
    rfl
  · rw [htoken]
    rfl
  · intro value
    rw [hs'.authenticate_eq_some, Fleet.validDigest?_congr htokens, Fleet.validDigest?_putToken,
      if_pos rfl, Option.some.injEq, eq_comm]
  · rw [hshell, hresult]
    exact exists_begun_runInstall ..
  · intro hok
    rw [hsuccess, Option.isNone_iff_eq_none] at hok
    rw [hok] at hrow
    exact ⟨_, hrow, rfl, rfl⟩
  · intro hfail
    cases hstep : result.steps.find? (·.status ≠ .success) with
    | none =>
      rw [hsuccess, hfailed, hstep] at hfail
      cases hfail
    | some step =>
      rw [hfailed, hstep] at hrow
      exact ⟨_, step, hrow, rfl, rfl, rfl⟩

/-- A request for a new node with an installation that succeeds installs the agent on that node. -/
theorem createNode_autoInstall {r : CreateNode} {created : Created} (hmode : r.mode = .autoInstall)
    (h : (createNode now token config r).on p = (.ok created, p')) :
    ∃ ssh target url draft result, r.ssh = some ssh ∧ ssh.check = .ok target ∧
      created.install = some result ∧
      Fleet.getNode (p.fleet.lastNode + 1) p'.fleet = .ok created.view ∧
      (installNode now token config (draft.toNode now (p.fleet.lastNode + 1)) target url).on
        { p with fleet := p.fleet.withNode now draft } = (.ok result, p') := by
  obtain ⟨draft, _, hdraft, h⟩ := on_bind_eq_ok.1 h
  obtain ⟨installation, _, hchecked, h⟩ := on_bind_eq_ok.1 h
  obtain ⟨node, _, hinserted, h⟩ := on_bind_eq_ok.1 h
  obtain ⟨-, hsame⟩ := Prod.mk.inj hdraft
  obtain ⟨hinstallation, hsame'⟩ := Prod.mk.inj hchecked
  subst hsame hsame'
  obtain ⟨-, f, hinsert, hfleet⟩ := on_transact_eq_ok.1 hinserted
  subst hfleet
  cases Fleet.insertNode_eq_ok.1 hinsert
  obtain ⟨ssh, target, url, hssh, hcheck, rfl⟩ := r.installation_eq_ok hmode hinstallation
  obtain ⟨install, _, hmapped, h⟩ := on_bind_eq_ok.1 h
  obtain ⟨view, _, hread, h⟩ := on_bind_eq_ok.1 h
  obtain ⟨-, hview, rfl⟩ := on_read_eq_ok.1 hread
  cases h
  rw [map_eq_pure_bind] at hmapped
  obtain ⟨result, _, hinstall, hpure⟩ := on_bind_eq_ok.1 hmapped
  cases hpure
  exact ⟨ssh, target, url, draft, result, hssh, hcheck, rfl, hview, hinstall⟩

/-- A new node with an installation that succeeds is left as by an installation on it. -/
theorem installed_createNode {r : CreateNode} {created : Created} (hs : p.fleet.Sound)
    (hmode : r.mode = .autoInstall)
    (h : (createNode now token config r).on p = (.ok created, p')) :
    ∃ ssh target result, r.ssh = some ssh ∧ ssh.check = .ok target ∧
      created.install = some result ∧ created.view.node.id = p.fleet.lastNode + 1 ∧
      Installed p.shell p' created.view.node.id created.view.node.port token target result := by
  obtain ⟨ssh, target, url, draft, result, hssh, hcheck, hresult, hview, hinstall⟩ :=
    createNode_autoInstall hmode h
  let m : Panel := { p with fleet := p.fleet.withNode now draft }
  let n := draft.toNode now (p.fleet.lastNode + 1)
  have hs' := sound_installNode (p := m) hs.withNode hinstall
  have hinstalled := installed_of_on (p := m) hs.withNode hinstall
  -- the view shows the row as the installation has marked it
  obtain ⟨k, finish, hk, hrow⟩ := node?_installNode (p := m) hs' hinstall
  have hn : m.fleet.node? n.id = some n := hs.withNode.node?_eq Fleet.toNode_mem_withNode
  cases hn.symm.trans hk
  obtain ⟨_, hfound, hshown⟩ := Fleet.getNode_eq_ok.1 hview
  cases hfound.symm.trans hrow
  have hid : created.view.node.id = n.id := by
    rw [← hshown]
    exact Fleet.noteInstall_id
  have hport : created.view.node.port = n.port := by
    rw [← hshown]
    exact Fleet.noteInstall_port
  rw [hid, hport]
  exact ⟨ssh, target, result, hssh, hcheck, hresult, rfl, hinstalled⟩

end Action

/-! ### Long errors -/

theorem InstallRecord.logs_lt_storedBytes (r : InstallRecord) :
    r.logs.utf8ByteSize < r.storedBytes := by
  unfold storedBytes
  dsimp only [textBytes]
  omega

/-- The error of the first call is in the logs. -/
theorem le_logs_runInstall {shell : Shell} {code : Int} {stderr : String} (target : SshTarget)
    (plan : InstallPlan) (config : InstallConfig) (now : Instant)
    (h : shell.outcome shell.count = ⟨0, some (.error (.failed code stderr))⟩) :
    stderr.utf8ByteSize ≤ (runInstall shell target plan config now).1.logs.utf8ByteSize := by
  unfold runInstall InstallPlan.steps
  rw [runSteps]
  dsimp only [Shell.exec]
  rw [h]
  dsimp only [Outcome.within?]
  rw [if_pos (Nat.zero_le _)]
  dsimp only [Progress.stopped, ShellError.message]
  simp only [String.utf8ByteSize_append]
  omega

/-- An installation does not succeed if the error of the host fills a row. -/
theorem Action.not_ok_of_wordy {p p' : Panel} {now : Instant} {token : String}
    {config : InstallConfig} {n : Node} {target : SshTarget} {url : String}
    {result : InstallResult} {code : Int} {stderr : String}
    (h : p.shell.outcome p.shell.count = ⟨0, some (.error (.failed code stderr))⟩)
    (hlong : maxRow ≤ stderr.utf8ByteSize) :
    (installNode now token config n target url).on p ≠ (.ok result, p') := by
  intro hon
  rcases on_installNode_cases now token config n target url p with
    ⟨e, herror⟩ | ⟨-, -, -, ⟨-, herror⟩ | ⟨hshort, -⟩⟩
  · cases herror.symm.trans hon
  · cases herror.symm.trans hon
  · have hlogs := le_logs_runInstall target ⟨n.id, n.port, url, token⟩ config now h
    have hstored := InstallRecord.logs_lt_storedBytes
      ((runInstall p.shell target ⟨n.id, n.port, url, token⟩ config now).1.toRecord n.id)
    dsimp only [InstallResult.toRecord] at hstored hshort
    omega

/-! ### In every state -/

namespace Panel

/-- After any run, while the tables can be reached: an installation with a new token on a node that
exists succeeds, whatever comes of its calls, and what is left tells of one token and of one
outcome; only an account that is too long for its row is refused, when the token is stored and the
calls are made. A request for a new node with an installation that succeeds leaves the same as an
installation on the new node. -/
theorem installed_after (shell : Shell) (run : List Event) (now : Instant) (token : String)
    (config : InstallConfig) :
    let p := (fresh shell).after run
    (∀ n target url, p.isOpen = true → p.fleet.node? n.id = some n → p.fleet.Unused token →
      let op := Operation.installNode now token config n target url
      let came := runInstall p.shell target ⟨n.id, n.port, url, token⟩ config now
      ((came.1.toRecord n.id).storedBytes ≤ maxRow →
        op.answer p = .ok came.1 ∧
          Installed p.shell (op.after p) n.id n.port token target came.1) ∧
      (maxRow < (came.1.toRecord n.id).storedBytes →
        op.answer p = .error rowTooBig ∧
          op.after p =
            { fleet := p.fleet.putToken ⟨n.id, tokenDigest token, now.toText, none⟩
              isOpen := p.isOpen
              shell := came.2.2 })) ∧
    ∀ r created, r.mode = .autoInstall →
      let op := Operation.createNode now token config r
      op.answer p = .ok created →
      created.view.node.id ∉ p.fleet.nodeIds ∧
      ∃ ssh target result, r.ssh = some ssh ∧ ssh.check = .ok target ∧
        created.install = some result ∧
        Installed p.shell (op.after p) created.view.node.id created.view.node.port token target
          result := by
  intro p
  have hs : p.fleet.Sound := sound_fresh shell run
  constructor
  · intro n target url hopen hn hunused op came
    have hissue : Fleet.issueToken now token n.id p.fleet =
        .ok (token, p.fleet.putToken ⟨n.id, tokenDigest token, now.toText, none⟩) :=
      Fleet.issueToken_eq_ok.2 ⟨⟨n, hn⟩, fun t ht hd => absurd hd (hunused t ht), rfl⟩
    have hon : op.run.on p = _ := Action.on_installNode_of_ok config target url hopen hissue
    constructor
    · intro hshort
      rw [if_neg (Nat.not_lt_of_le hshort)] at hon
      obtain ⟨hanswer, hafter⟩ := op.answer_of_on hon
      refine ⟨hanswer, ?_⟩
      rw [hafter]
      exact Action.installed_of_on hs hon
    · intro hlong
      rw [if_pos hlong] at hon
      exact op.answer_of_on hon
  · intro r created hmode op hanswer
    have hon : op.run.on p = (.ok created, op.after p) :=
      Operation.answer_eq_some.1 (by rw [hanswer, Except.toOption])
    obtain ⟨ssh, target, result, hssh, hcheck, hresult, hid, hinstalled⟩ :=
      Action.installed_createNode hs hmode hon
    rw [hid] at hinstalled ⊢
    exact ⟨hs.next_not_mem, ssh, target, result, hssh, hcheck, hresult, hinstalled⟩

/-- A node whose token is revoked, and a host on which the third script of an installation fails. -/
theorem installed_after_revoked :
    let now : Instant := ⟨0, 0⟩
    let reply (i : Nat) : Except ShellError ShellOutput :=
      if i < 2 then .ok ⟨"", ""⟩ else .error (.failed 1 "no space")
    let p := (fresh ⟨fun i => ⟨0, some (reply i)⟩, 0, []⟩).after
      (rotated ++ [.ask (.revokeToken now 1)])
    let ssh : SshCredentials := ⟨"host", 22, "root", none, some "key"⟩
    let url := "https://[2001:db8::1]"
    let request : CreateNode :=
      ⟨"other", "", some "host", some 443, 1, 0, [], [], .autoInstall, some ssh, some url⟩
    let op := Operation.createNode now "third" .standard request
    p.isOpen = true ∧ p.fleet.Unused "third" ∧ (p.fleet.tokenInfo 1).state = .revoked ∧
      (∃ n target result, p.fleet.node? 1 = some n ∧
        let op := Operation.installNode now "third" .standard n target url
        (result.toRecord 1).storedBytes ≤ maxRow ∧
          op.answer p = .ok result ∧ result.failedStep = some "configure" ∧
          Installed p.shell (op.after p) 1 n.port "third" target result) ∧
      ∃ created target result, op.answer p = .ok created ∧ created.install = some result ∧
        Installed p.shell (op.after p) 2 created.view.node.port "third" target result := by
  intro now reply p ssh url request op
  have hopen : p.isOpen = true := by decide +kernel
  have hunused : p.fleet.Unused "third" := by
    unfold Fleet.Unused
    decide +kernel
  let target : SshTarget := ⟨"host", 22, "root", .key "key"⟩
  let came (n : Node) : InstallResult :=
    (runInstall p.shell target ⟨n.id, n.port, url, "third"⟩ .standard now).1
  have hcame : (p.fleet.node? 1).map (fun n =>
      ((came n).failedStep, decide (((came n).toRecord n.id).storedBytes ≤ maxRow))) =
        some (some "configure", true) := by decide +kernel
  have hcreated : (op.answer p).toOption.map (·.view.node.id) = some 2 := by decide +kernel
  obtain ⟨hall, hnew⟩ := installed_after ⟨fun i => ⟨0, some (reply i)⟩, 0, []⟩
    (rotated ++ [.ask (.revokeToken now 1)]) now "third" .standard
  refine ⟨hopen, hunused, by decide +kernel, ?_, ?_⟩
  · obtain ⟨n, hn, hfacts⟩ := Option.map_eq_some_iff.1 hcame
    obtain ⟨hstep, hdecided⟩ := Prod.mk.inj hfacts
    have hshort : ((came n).toRecord n.id).storedBytes ≤ maxRow := of_decide_eq_true hdecided
    obtain ⟨-, hid⟩ := Fleet.node?_eq_some hn
    have hrow : p.fleet.node? n.id = some n := by rw [hid, hn]
    obtain ⟨hinstall, -⟩ := hall n target url hopen hrow hunused
    dsimp only [came] at hshort hstep
    obtain ⟨hanswer, hinstalled⟩ := hinstall hshort
    generalize
      (runInstall p.shell target ⟨n.id, n.port, url, "third"⟩ .standard now).1 = result at *
    rw [hid] at hinstalled hshort
    exact ⟨n, target, result, hn, hshort, hanswer, hstep, hinstalled⟩
  · obtain ⟨created, hanswer, hid⟩ := Option.map_eq_some_iff.1 hcreated
    have hanswer := Except.toOption_eq_some.1 hanswer
    obtain ⟨-, -, target, result, -, -, hresult, hinstalled⟩ := hnew request created rfl hanswer
    rw [hid] at hinstalled
    exact ⟨created, target, result, hanswer, hresult, hinstalled⟩

/-- A node, and a host whose error fills a row. -/
def wordy : Panel :=
  (fresh ⟨fun _ => ⟨0, some (.error (.failed 1 (String.ofList (List.replicate maxRow 'a'))))⟩, 0,
    []⟩).after [.ask (.createNode ⟨0, 0⟩ "" .standard
      ⟨"node", "", some "host", some 443, 1, 0, [], [], .manual, none, none⟩)]

/-- An installation on a node that is there, with a new token, does not succeed if the error of the
host fills a row, and neither while the database is closed. -/
theorem installNode_refused :
    let target : SshTarget := ⟨"host", 22, "root", .key "key"⟩
    let url := "https://[2001:db8::1]"
    ∃ n, wordy.fleet.node? n.id = some n ∧ wordy.fleet.Unused "token" ∧ wordy.isOpen = true ∧
      let op := Operation.installNode ⟨0, 0⟩ "token" .standard n target url
      (∀ result, op.answer wordy ≠ .ok result) ∧
      ∀ result, op.answer { wordy with isOpen := false } ≠ .ok result := by
  intro target url
  obtain ⟨n, hn⟩ : ∃ n, wordy.fleet.node? 1 = some n :=
    Option.isSome_iff_exists.1 (by decide +kernel)
  have htokens : wordy.fleet.tokens = [] := by decide +kernel
  have hunused : wordy.fleet.Unused "token" := by
    intro t ht
    rw [htokens] at ht
    cases ht
  obtain ⟨-, hid⟩ := Fleet.node?_eq_some hn
  refine ⟨n, by rw [hid, hn], hunused, by decide +kernel, ?_, ?_⟩
  · intro result h
    have hon := Operation.answer_eq_some.1 (congrArg Except.toOption h)
    have hlong : maxRow ≤ (String.ofList (List.replicate maxRow 'a')).utf8ByteSize := by
      have hlength := Search.length_le_utf8ByteSize (List.replicate maxRow 'a')
      rwa [List.length_replicate] at hlength
    exact Action.not_ok_of_wordy rfl hlong hon
  · intro result h
    have hon := Operation.answer_eq_some.1 (congrArg Except.toOption h)
    cases (Action.on_installNode_eq_ok hon).1

end Panel

end NodeFleet
