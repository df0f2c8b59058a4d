import NodeFleet.Api.Server
import NodeFleet.CommandLine.Report
import NodeFleet.Schema.Source
import NodeFleet.Tls.Listening

/-!
The start of the panel by a command line.

The settings are checked in a fixed order: the arguments, the mode of encryption, the ages after
which a node is unhealthy and offline, the database, and at last all that listening needs. The first
fault ends the program.
-/

namespace NodeFleet.CommandLine

/-- What a program that has ended leaves: its exit code, and what it wrote. -/
structure Ending where
  code : Nat
  stdout : String
  stderr : String
  deriving DecidableEq, Repr

/-- What a start meets: the environment, the files and directories, and the host. -/
structure Surroundings where
  environment : String → Option String
  isDirectory : String → Bool
  host : Tls.Host

/-- A panel that is to run. -/
structure Configuration where
  databaseUrl : String
  listening : Tls.Listening
  /-- The secret of the administrator's tokens, random when none is given. -/
  secret : Option String
  adminName : String
  passwordDigest : String
  agentBinary : Option String
  reconciler : ReconcilerConfig
  /-- How agents are installed. With a time that the clock cannot count there is none: the panel
  runs, but an installation breaks off once its token is issued. -/
  install : Option InstallConfig

/-- The password of the administrator when none is given. -/
def standardPassword : String := "admin"

/-- A number of seconds in nanoseconds. -/
def seconds (n : Nat) : Nat := n * nanosPerSecond

/-- The reconciler that the choices ask for; its interval and its timeout have at least a second. -/
def reconcilerOf (cs : Choices) : ReconcilerConfig where
  interval := seconds (max (cs.number .reconcileInterval) 1)
  unhealthyAfter := seconds (cs.number .unhealthyAfter)
  offlineAfter := seconds (cs.number .offlineAfter)
  probeTimeout := seconds (max (cs.number .probeTimeout) 1)
  probeEnabled := !cs.has .noProbe

/-- The installation that the choices ask for. -/
def installOf (cs : Choices) : Option InstallConfig :=
  if h : cs.number .installTimeout * 1000 ≤ InstallConfig.maxTimeout then
    some { InstallConfig.standard with
      timeout := cs.number .installTimeout * 1000
      timeout_le := h
      connectTimeout := seconds (cs.number .sshConnectTimeout) }
  else none

/-- The error of ages that are not in their order. -/
def agesFault : String := "--unhealthy-after должен быть меньше --offline-after"

/-- The panel that the choices ask for. -/
def configure (cs : Choices) : Except String Configuration := do
  let mode ← TlsMode.read (cs.text .tlsMode)
  if cs.number .offlineAfter ≤ cs.number .unhealthyAfter then throw agesFault
  .ok
    { databaseUrl := cs.text .dbUrl
      listening :=
        ⟨cs.text .listen, mode, cs.text .domain, cs.text .tlsCert, cs.text .tlsKey⟩
      secret := cs.text? .jwtSecret
      adminName := cs.text .adminUsername
      passwordDigest := Api.passwordDigest ((cs.text? .adminPassword).getD standardPassword)
      agentBinary := cs.text? .agentBinary
      reconciler := reconcilerOf cs
      install := installOf cs }

/-- The lines of a cause, indented. -/
def indented (first next text : String) : String :=
  first ++ ("\n" ++ next).intercalate (text.splitOn "\n")

/-- The causes of an error, numbered if there are several. -/
def causeLines : List String → List String
  | [] => []
  | [cause] => ["", "Caused by:", indented "    " "    " cause]
  | causes =>
    ["", "Caused by:"] ++ causes.zipIdx.map fun (cause, n) =>
      indented ("    " ++ Text.showNat n ++ ": ") "       " cause

/-- The end by an error with its causes. -/
def Ending.ofError (message : String) (causes : List String) : Ending :=
  ⟨1, "", "\n".intercalate (("Error: " ++ message) :: causeLines causes) ++ "\n"⟩

/-- Opens the database of a configuration. -/
def openDatabase (s : Surroundings) (c : Configuration) : Except Schema.SourceFault Unit := do
  let source ← Schema.Source.read c.databaseUrl
  source.connect (fun path => (s.host.file? path).isSome) s.isDirectory

/-- Starts a panel: the end of the program, or the configuration with which it runs. -/
def start (s : Surroundings) (arguments : List String) : Except Ending Configuration :=
  match read s.environment arguments with
  | .error .help => .error ⟨0, help s.environment, ""⟩
  | .error (.fault f) => .error ⟨2, "", f.report⟩
  | .ok choices =>
    match configure choices with
    | .error message => .error (.ofError message [])
    | .ok c =>
      match openDatabase s c with
      | .error f => .error (.ofError f.chain.1 f.chain.2)
      | .ok () =>
        match c.listening.start s.host with
        | .error f => .error (.ofError f.message [])
        | .ok _ => .ok c

end NodeFleet.CommandLine
