import NodeFleet.Install.Script
import NodeFleet.Install.Shell
import NodeFleet.Naming

/-!
Running an installation.

The steps are run in order, each with what is left of the time for all. The first step that fails
or runs out of time ends the installation; the steps after it stay pending, and nothing is undone.
-/

namespace NodeFleet

/-- How far a step has come. -/
inductive StepStatus where
  | pending
  | running
  | success
  | failed
  deriving DecidableEq, Repr

/-- The name of a step status. -/
def StepStatus.name : StepStatus → String
  | .pending => "pending"
  | .running => "running"
  | .success => "success"
  | .failed => "failed"

/-- The names of the step statuses. -/
def StepStatus.naming : Naming StepStatus :=
  ⟨"StepStatus", [.pending, .running, .success, .failed].map fun s => (s.name, s)⟩

/-- A step of an installation. -/
structure InstallStep where
  name : String
  status : StepStatus
  message : Option String
  deriving DecidableEq, Repr

namespace InstallStep

/-- The fields of a step. -/
def fields : Json.Record InstallStep :=
  InstallStep.mk <$> .required "name" Json.text
    <*> .required "status" StepStatus.naming.decoder
    <*> .optional "message" Json.text

/-- Reads a step. -/
def decoder : Json.Decoder InstallStep := fields.decoder "InstallStep" false

/-- A step as JSON. -/
def toJson (s : InstallStep) : Json.Value :=
  .obj [("name", .str s.name), ("status", .str s.status.name), ("message", .ofText? s.message)]

end InstallStep

/-- The account of an installation. -/
structure InstallResult where
  success : Bool
  steps : List InstallStep
  logs : String
  failedStep : Option String
  lastCompletedStep : Option String
  errorCode : Option String
  startedAt : String
  finishedAt : String
  deriving DecidableEq, Repr

/-- The account of the steps from some step on: their states, what they logged, the step that
failed with its error code, the last step that succeeded, the milliseconds spent, and the shell. -/
structure Progress where
  steps : List InstallStep
  logs : String
  failure : Option (String × String)
  lastCompleted : Option String
  elapsed : Nat
  shell : Shell

/-- The message of an installation that ran out of time. -/
def timeoutMessage (timeout : Nat) : String :=
  "Превышен общий таймаут установки (" ++ Text.showNat (timeout / 1000) ++ " сек)"

/-- The account of a step that fails, with the steps after it left pending. -/
def Progress.stopped (name message code : String) (rest : List (String × String))
    (lastCompleted : Option String) (elapsed : Nat) (shell : Shell) : Progress where
  steps := ⟨name, .failed, some message⟩ :: rest.map fun step => ⟨step.1, .pending, none⟩
  logs := "==> " ++ name ++ "\n" ++ message ++ "\n"
  failure := some (name, code)
  lastCompleted := lastCompleted
  elapsed := elapsed
  shell := shell

/-- Runs steps, after `elapsed` milliseconds and the last completed step. -/
def runSteps (target : SshTarget) (timeout : Nat) :
    List (String × String) → Option String → Nat → Shell → Progress
  | [], lastCompleted, elapsed, shell => ⟨[], "", none, lastCompleted, elapsed, shell⟩
  | (name, script) :: rest, lastCompleted, elapsed, shell =>
    let (outcome, shell) := shell.exec target script
    match outcome.within? (timeout - elapsed) with
    | some (spent, .ok output) =>
      let after := runSteps target timeout rest (some name) (elapsed + spent) shell
      { after with
        steps := ⟨name, .success, none⟩ :: after.steps
        logs := "==> " ++ name ++ "\n" ++ output.stdout ++ output.stderr ++ after.logs }
    | some (spent, .error e) =>
      .stopped name e.message e.code rest lastCompleted (elapsed + spent) shell
    | none =>
      .stopped name (timeoutMessage timeout) "timeout" rest lastCompleted (max timeout elapsed)
        shell

/-- Runs an installation that starts at a given time; the second part is the time at its end. -/
def runInstall (shell : Shell) (target : SshTarget) (plan : InstallPlan) (config : InstallConfig)
    (now : Instant) : InstallResult × Instant × Shell :=
  let p := runSteps target config.timeout (plan.steps config) none 0 shell
  let finish := now.later (p.elapsed * nanosPerMilli)
  ({ success := p.failure.isNone
     steps := p.steps
     logs := p.logs
     failedStep := p.failure.map (·.1)
     lastCompletedStep := p.lastCompleted
     errorCode := p.failure.map (·.2)
     startedAt := now.toText
     finishedAt := finish.toText }, finish, p.shell)

namespace InstallResult

/-- A result as JSON. -/
def toJson (r : InstallResult) : Json.Value :=
  .object [("success", .bool r.success), ("steps", .arr (r.steps.map InstallStep.toJson)),
    ("logs", .str r.logs), ("failed_step", .ofText? r.failedStep),
    ("last_completed_step", .ofText? r.lastCompletedStep), ("error_code", .ofText? r.errorCode),
    ("started_at", .str r.startedAt), ("finished_at", .str r.finishedAt)]

/-- The last step of those that succeeded one after the other from the beginning. -/
def lastCompletedOf (steps : List InstallStep) : Option String :=
  ((steps.takeWhile (·.status = .success)).getLast?).map (·.name)

end InstallResult

end NodeFleet
