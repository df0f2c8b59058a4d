import NodeFleet.Install.Shell
import NodeFleet.Text.Utf8

/-!
The remote shell as a call of the client program `ssh`.

A password is handed over in the environment, by way of the program `sshpass`; the script is the
standard input. The client tells by its exit code whether it reached the host.
-/

namespace NodeFleet

/-- A call of a program. -/
structure ClientCall where
  program : String
  arguments : List String
  /-- The password in the environment. -/
  password : Option String
  input : String
  deriving DecidableEq, Repr

/-- How a program ended: its exit code, unless it was killed, and what it wrote. -/
structure ClientExit where
  code : Option Int
  stdout : List UInt8
  stderr : List UInt8

namespace SshTarget

/-- The program that is called, and the arguments about the identity. -/
def identity (t : SshTarget) : String × List String × Option String :=
  match t.auth with
  | .password secret => ("sshpass", ["-e", "ssh"], some secret)
  | .key path => ("ssh", ["-i", path, "-o", "BatchMode=yes"], none)

/-- The arguments that do not depend on the kind of identity. -/
def address (t : SshTarget) (connectTimeout : Nat) : List String :=
  ["-p", Text.showInt t.port, "-o", "StrictHostKeyChecking=accept-new", "-o",
    "ConnectTimeout=" ++ Text.showNat (max (connectTimeout / nanosPerSecond) 1), "--",
    t.username ++ "@" ++ t.host, "sh -s"]

/-- The call that runs a script. -/
def call (t : SshTarget) (connectTimeout : Nat) (script : String) : ClientCall :=
  let (program, arguments, password) := t.identity
  ⟨program, arguments ++ t.address connectTimeout, password, script⟩

end SshTarget

/-- Whether a text can be handed to a program. -/
def isPassable (s : String) : Bool := !s.toList.contains '\x00'

/-- Why a call cannot be made, if it cannot. -/
def ClientCall.fault? (c : ClientCall) (installed : Bool) : Option ShellError :=
  if !(c.arguments ++ c.password.toList).all isPassable then
    some (.spawn "nul byte found in provided data")
  else if !installed then some (.spawn "No such file or directory (os error 2)")
  else none

/-- The exit code of a client that did not reach the host. -/
def unreachedCode : Int := 255

/-- What comes of a call that ended. -/
def ClientExit.result (e : ClientExit) : Except ShellError ShellOutput :=
  let stdout := Text.decodeLossy e.stdout
  let stderr := Text.decodeLossy e.stderr
  match e.code with
  | some code =>
    if code = 0 then .ok ⟨stdout, stderr⟩
    else if code = unreachedCode then .error (.connect (Text.trim stderr))
    else .error (.failed code (Text.trim stderr))
  | none => .error (.connect (Text.trim stderr))

end NodeFleet
