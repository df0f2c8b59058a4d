import Mathlib.Algebra.BigOperators.Fin
import Mathlib.Data.List.Induction
import NodeFleet.Install.Run

/-!
# What an installation makes of its shell

What comes of the calls decides the whole account of an installation: the first step with a fault,
which is an error or the end of the time for all, ends it. The account is told by the steps before
that one, by the fault, and by the steps after it. The time is counted from the beginning, so the
first of the steps to run out of it may be one that takes no long time itself.
-/

namespace NodeFleet

namespace Shell

/-- The time that the next `n` calls take together. -/
def spent (s : Shell) (n : Nat) : Nat := ∑ i ∈ Finset.range n, (s.outcome (s.count + i)).delay

/-- Why step `k` does not succeed, if so: its message and the code of its error. A call that never
replies, and one that replies after the time for all, runs out of time, whatever the reply is. -/
def fault? (s : Shell) (timeout k : Nat) : Option (String × String) :=
  match (s.outcome (s.count + k)).reply with
  | none => some (timeoutMessage timeout, "timeout")
  | some reply =>
    if timeout < s.spent (k + 1) then some (timeoutMessage timeout, "timeout")
    else
      match reply with
      | .ok _ => none
      | .error e => some (e.message, e.code)

/-- What the step of a name logs if call `i` is its call and succeeds: a heading and what the script
wrote. -/
def logOf (s : Shell) (i : Nat) (name : String) : String :=
  "==> " ++ name ++ "\n" ++
    match (s.outcome (s.count + i)).reply with
    | some (.ok output) => output.stdout ++ output.stderr
    | _ => ""

/-- What steps log that succeed one after the other. -/
def logsOf (s : Shell) (steps : List (String × String)) : String :=
  String.join (steps.mapIdx fun i step => s.logOf i step.1)

/-- The shell after one call for each of some steps. -/
def afterSteps (s : Shell) (target : SshTarget) (steps : List (String × String)) : Shell :=
  { s with
    count := s.count + steps.length
    calls := s.calls ++ steps.map fun step => ⟨target, step.2⟩ }

variable {s : Shell} {timeout k : Nat} {target : SshTarget} {steps : List (String × String)}
  {step : String × String}

theorem spent_succ (s : Shell) (n : Nat) :
    s.spent (n + 1) = s.spent n + (s.outcome (s.count + n)).delay :=
  Finset.sum_range_succ _ _

theorem fault?_eq_none :
    s.fault? timeout k = none ↔
      s.spent (k + 1) ≤ timeout ∧
        ∃ output, (s.outcome (s.count + k)).reply = some (.ok output) := by
  unfold fault?
  cases (s.outcome (s.count + k)).reply with
  | none => simp
  | some reply =>
    dsimp only
    split
    · next hlate =>
      constructor
      · exact nofun
      · rintro ⟨htime, -⟩
        omega
    · next htime =>
      cases reply with
      | error e => simp
      | ok output => exact ⟨fun _ => ⟨Nat.not_lt.1 htime, output, rfl⟩, fun _ => rfl⟩

/-- Steps without faults are within the time. -/
theorem spent_le (h : ∀ i < k, s.fault? timeout i = none) : s.spent k ≤ timeout := by
  cases k with
  | zero => exact Nat.zero_le _
  | succ k => exact (fault?_eq_none.1 (h k (Nat.lt_succ_self k))).1

theorem logsOf_concat (s : Shell) (steps : List (String × String)) (step : String × String) :
    s.logsOf (steps ++ [step]) = s.logsOf steps ++ s.logOf steps.length step.1 := by
  unfold logsOf
  rw [List.mapIdx_concat, String.join_append]
  simp [String.join]

theorem afterSteps_concat :
    s.afterSteps target (steps ++ [step]) = ((s.afterSteps target steps).exec target step.2).2 := by
  simp [afterSteps, exec, Nat.add_assoc]

end Shell

/-- The states of steps that succeeded. -/
def succeeded (steps : List (String × String)) : List InstallStep :=
  steps.map fun step => ⟨step.1, .success, none⟩

/-- The states of steps that were not begun. -/
def untouched (steps : List (String × String)) : List InstallStep :=
  steps.map fun step => ⟨step.1, .pending, none⟩

/-- The account of steps that come after some that succeeded. -/
def Progress.following (p : Progress) (done : List (String × String)) (logs : String) : Progress :=
  { p with steps := succeeded done ++ p.steps, logs := logs ++ p.logs }

section Steps

variable {s : Shell} {timeout : Nat} {target : SshTarget} {done rest : List (String × String)}
  {step : String × String} {last : Option String}

/-- A call that succeeds in time leads to the steps after it. -/
theorem runSteps_cons_of_ok {elapsed delay : Nat} {output : ShellOutput}
    (h : (s.outcome s.count).within? (timeout - elapsed) = some (delay, .ok output)) :
    runSteps target timeout (step :: rest) last elapsed s =
      (runSteps target timeout rest (some step.1) (elapsed + delay)
        (s.exec target step.2).2).following [step]
          ("==> " ++ step.1 ++ "\n" ++ output.stdout ++ output.stderr) := by
  obtain ⟨name, script⟩ := step
  rw [runSteps]
  dsimp only [Shell.exec]
  rw [h]
  rfl

/-- A step without a fault leads to the steps after it. -/
theorem runSteps_of_success (hstep : s.fault? timeout done.length = none) :
    runSteps target timeout (step :: rest) last (s.spent done.length) (s.afterSteps target done) =
      (runSteps target timeout rest (some step.1) (s.spent (done.length + 1))
        (s.afterSteps target (done ++ [step]))).following [step] (s.logOf done.length step.1) := by
  obtain ⟨htime, output, hreply⟩ := Shell.fault?_eq_none.1 hstep
  have hwithin : (s.outcome (s.count + done.length)).within? (timeout - s.spent done.length) =
      some ((s.outcome (s.count + done.length)).delay, .ok output) := by
    rw [Shell.spent_succ] at htime
    unfold Outcome.within?
    rw [hreply]
    exact if_pos (by omega)
  have hlog : s.logOf done.length step.1 =
      "==> " ++ step.1 ++ "\n" ++ output.stdout ++ output.stderr := by
    unfold Shell.logOf
    rw [hreply]
    exact String.append_assoc.symm
  rw [hlog, Shell.spent_succ, Shell.afterSteps_concat]
  exact runSteps_cons_of_ok hwithin

/-- A step with a fault ends the installation. -/
theorem runSteps_of_fault (hfault : ∀ i < done.length, s.fault? timeout i = none)
    {message code : String} (hstep : s.fault? timeout done.length = some (message, code)) :
    ∃ elapsed, runSteps target timeout (step :: rest) last (s.spent done.length)
        (s.afterSteps target done) =
      .stopped step.1 message code rest last elapsed (s.afterSteps target (done ++ [step])) := by
  have htime := Shell.spent_le hfault
  rw [Shell.afterSteps_concat]
  obtain ⟨name, script⟩ := step
  unfold Shell.fault? at hstep
  rw [runSteps]
  dsimp only [Shell.exec, Shell.afterSteps, Outcome.within?]
  cases hreply : (s.outcome (s.count + done.length)).reply with
  | none =>
    rw [hreply] at hstep
    obtain ⟨rfl, rfl⟩ := Prod.mk.inj (Option.some.inj hstep)
    exact ⟨_, rfl⟩
  | some reply =>
    rw [hreply, Shell.spent_succ] at hstep
    dsimp only at hstep ⊢
    split at hstep
    · next hlate =>
      obtain ⟨rfl, rfl⟩ := Prod.mk.inj (Option.some.inj hstep)
      rw [if_neg (by omega)]
      exact ⟨_, rfl⟩
    · next hintime =>
      rw [if_pos (by omega)]
      cases reply with
      | ok output => cases hstep
      | error e =>
        obtain ⟨rfl, rfl⟩ := Prod.mk.inj (Option.some.inj hstep)
        exact ⟨_, rfl⟩

/-- Steps without faults lead to the steps after them. -/
theorem runSteps_append (hfault : ∀ i < done.length, s.fault? timeout i = none) :
    runSteps target timeout (done ++ rest) none 0 s =
      (runSteps target timeout rest (done.getLast?.map (·.1)) (s.spent done.length)
        (s.afterSteps target done)).following done (s.logsOf done) := by
  induction done using List.reverseRecOn generalizing rest with
  | nil =>
    have hnone : s.afterSteps target [] = s := by simp [Shell.afterSteps]
    have hlogs : s.logsOf [] = "" := rfl
    rw [hnone, hlogs]
    simp [Progress.following, succeeded, Shell.spent]
  | append_singleton done step ih =>
    have hbefore : ∀ i < done.length, s.fault? timeout i = none := by
      intro i hi
      apply hfault i
      rw [List.length_append]
      exact Nat.lt_add_right _ hi
    have hstep : s.fault? timeout done.length = none := hfault done.length (by simp)
    rw [List.append_assoc, List.singleton_append, ih hbefore, runSteps_of_success hstep,
      Shell.logsOf_concat]
    simp [Progress.following, succeeded, String.append_assoc]

/-- Steps of which none has a fault are all there is to tell. -/
theorem runSteps_of_no_fault (hfault : ∀ i < done.length, s.fault? timeout i = none) :
    runSteps target timeout done none 0 s =
      ⟨succeeded done, s.logsOf done, none, done.getLast?.map (·.1), s.spent done.length,
        s.afterSteps target done⟩ := by
  have happend : runSteps target timeout (done ++ []) none 0 s = _ := runSteps_append hfault
  rw [List.append_nil] at happend
  rw [happend]
  simp [runSteps, Progress.following]

/-- The first step with a fault ends the installation after the steps before it. -/
theorem runSteps_of_first_fault (hfault : ∀ i < done.length, s.fault? timeout i = none)
    {message code : String} (hstep : s.fault? timeout done.length = some (message, code)) :
    ∃ elapsed, runSteps target timeout (done ++ step :: rest) none 0 s =
      (Progress.stopped step.1 message code rest (done.getLast?.map (·.1)) elapsed
        (s.afterSteps target (done ++ [step]))).following done (s.logsOf done) := by
  rw [runSteps_append hfault]
  obtain ⟨elapsed, hstopped⟩ : ∃ elapsed, runSteps target timeout (step :: rest)
      (done.getLast?.map (·.1)) (s.spent done.length) (s.afterSteps target done) =
        .stopped step.1 message code rest (done.getLast?.map (·.1)) elapsed
          (s.afterSteps target (done ++ [step])) :=
    runSteps_of_fault hfault hstep
  exact ⟨elapsed, by rw [hstopped]⟩

end Steps

/-- What comes of the calls decides the account of an installation. If no step has a fault, all
steps succeed. Otherwise the first step with a fault ends the installation: the steps before it
succeed, it fails with the message and the code of its fault, and the steps after it are not begun.
The shell is called once for each step that is begun, in order, with the script of the step, and the
logs tell of these steps in order. -/
theorem runInstall_account (s : Shell) (target : SshTarget) (plan : InstallPlan)
    (config : InstallConfig) (now : Instant) :
    let steps := plan.steps config
    let run := runInstall s target plan config now
    let r := run.1
    steps.length = 4 ∧
    ((∀ i < steps.length, s.fault? config.timeout i = none) →
      r.steps = succeeded steps ∧ r.success = true ∧ r.failedStep = none ∧ r.errorCode = none ∧
      r.lastCompletedStep = steps.getLast?.map (·.1) ∧ r.logs = s.logsOf steps ∧
      run.2.2 = s.afterSteps target steps) ∧
    ∀ done name script rest message code, steps = done ++ (name, script) :: rest →
      (∀ i < done.length, s.fault? config.timeout i = none) →
      s.fault? config.timeout done.length = some (message, code) →
        r.steps = succeeded done ++ ⟨name, .failed, some message⟩ :: untouched rest ∧
        r.success = false ∧ r.failedStep = some name ∧ r.errorCode = some code ∧
        r.lastCompletedStep = done.getLast?.map (·.1) ∧
        r.logs = s.logsOf done ++ "==> " ++ name ++ "\n" ++ message ++ "\n" ∧
        run.2.2 = s.afterSteps target (done ++ [(name, script)]) := by
  intro steps run r
  refine ⟨rfl, ?_, ?_⟩
  · intro hfault
    have hrun : runSteps target config.timeout steps none 0 s = _ := runSteps_of_no_fault hfault
    simp only [r, run, runInstall]
    rw [hrun]
    exact ⟨rfl, rfl, rfl, rfl, rfl, rfl, rfl⟩
  · intro done name script rest message code hsteps hfault hstep
    obtain ⟨elapsed, hrun⟩ : ∃ elapsed, runSteps target config.timeout steps none 0 s =
        (Progress.stopped name message code rest (done.getLast?.map (·.1)) elapsed
          (s.afterSteps target (done ++ [(name, script)]))).following done (s.logsOf done) := by
      rw [hsteps]
      exact runSteps_of_first_fault hfault hstep
    simp only [r, run, runInstall]
    rw [hrun]
    refine ⟨rfl, rfl, rfl, rfl, rfl, ?_, rfl⟩
    simp [Progress.following, Progress.stopped, String.append_assoc]

/-- Two calls take all of the time, and the error of the third comes too late to be told. -/
theorem runInstall_account_late :
    let reply (i : Nat) : Except ShellError ShellOutput :=
      if i < 2 then .ok ⟨"done\n", ""⟩ else .error (.connect "refused")
    let s : Shell := ⟨fun i => ⟨5, some (reply i)⟩, 0, []⟩
    let plan : InstallPlan := ⟨1, 443, "http://[2001:db8::5]:8080", "token"⟩
    let config : InstallConfig := ⟨10, 1, "/bin/agent", "agent", by decide⟩
    let run := runInstall s ⟨"host", 22, "root", .key "key"⟩ plan config ⟨0, 0⟩
    run.1.steps.map (·.status) = [.success, .success, .failed, .pending] ∧
      run.1.failedStep = some "configure" ∧ run.1.errorCode = some "timeout" ∧
      run.1.lastCompletedStep = some "download_agent" ∧
      run.1.logs = "==> connect\ndone\n==> download_agent\ndone\n==> configure\n" ++
        timeoutMessage 10 ++ "\n" ∧
      run.2.2.calls.length = 3 := by
  intro reply s plan config run
  obtain ⟨-, -, hfailed⟩ :=
    runInstall_account s ⟨"host", 22, "root", .key "key"⟩ plan config ⟨0, 0⟩
  have hbefore : ∀ i < 2, s.fault? 10 i = none := by decide
  have hfault : s.fault? 10 2 = some (timeoutMessage 10, "timeout") := by decide
  obtain ⟨hsteps, -, hstep, hcode, hlast, hlogs, hshell⟩ :=
    hfailed ((plan.steps config).take 2) "configure" (plan.configureScript config)
      ((plan.steps config).drop 3) _ _ rfl hbefore hfault
  exact ⟨congrArg (List.map (·.status)) hsteps, hstep, hcode, hlast, hlogs,
    congrArg (·.calls.length) hshell⟩

/-- A script that fails without output and with an error is logged by the message of the error, and
not by its output alone. -/
theorem runInstall_logs_message :
    let s : Shell := ⟨fun _ => ⟨0, some (.error (.failed 1 "boom"))⟩, 0, []⟩
    let plan : InstallPlan := ⟨1, 443, "http://[2001:db8::5]:8080", "token"⟩
    let run := runInstall s ⟨"host", 22, "root", .key "key"⟩ plan .standard ⟨0, 0⟩
    run.1.logs = "==> connect\nКоманда завершилась с кодом 1: boom\n" ∧
      run.1.logs ≠ "==> connect\n" ++ "" ++ "boom" := by
  decide +kernel

end NodeFleet
