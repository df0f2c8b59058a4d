import NodeFleet.Install.Credentials
import NodeFleet.Instant

/-!
Running scripts on a remote host.

A remote shell is known by its behaviour: what comes of its first call, its second call, and so on.
The shell also keeps the calls that were made.
-/

namespace NodeFleet

/-- What a script wrote. -/
structure ShellOutput where
  stdout : String
  stderr : String
  deriving DecidableEq, Repr

/-- Why a script was not run to success. -/
inductive ShellError where
  /-- The host was not reached. -/
  | connect (message : String)
  /-- The script ended with an exit code other than zero. -/
  | failed (code : Int) (stderr : String)
  /-- The client did not start. -/
  | spawn (message : String)
  deriving DecidableEq, Repr

/-- The wording of an error. -/
def ShellError.message : ShellError → String
  | .connect m => "SSH-соединение не установлено: " ++ m
  | .failed code stderr =>
    "Команда завершилась с кодом " ++ Text.showInt code ++ ": " ++ stderr
  | .spawn m => "Ошибка запуска ssh: " ++ m

/-- The code of an error. -/
def ShellError.code : ShellError → String
  | .connect _ => "ssh_connect"
  | .failed .. | .spawn _ => "command_failed"

/-- What comes of a call: after `delay` milliseconds, as timers count them, a reply, or none
ever. -/
structure Outcome where
  delay : Nat
  reply : Option (Except ShellError ShellOutput)

/-- The reply of a call that is given `budget` milliseconds, and the time it took. -/
def Outcome.within? (o : Outcome) (budget : Nat) :
    Option (Nat × Except ShellError ShellOutput) :=
  match o.reply with
  | some reply => if o.delay ≤ budget then some (o.delay, reply) else none
  | none => none

/-- A script and the account that it was sent to. -/
structure ShellCall where
  target : SshTarget
  script : String
  deriving DecidableEq, Repr

/-- A remote shell: what comes of each call, the number of calls made, and the calls kept. -/
structure Shell where
  outcome : Nat → Outcome
  count : Nat
  calls : List ShellCall

/-- Makes one call. -/
def Shell.exec (s : Shell) (target : SshTarget) (script : String) : Outcome × Shell :=
  (s.outcome s.count, { s with count := s.count + 1, calls := s.calls ++ [⟨target, script⟩] })

end NodeFleet
