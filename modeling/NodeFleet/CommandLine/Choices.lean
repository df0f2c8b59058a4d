import NodeFleet.CommandLine.Setting
import NodeFleet.Text.Similarity
import NodeFleet.Text.Split

/-!
The choices that the arguments of a command line make.

Arguments are read from the left. A value may stand in the argument of its setting after an equals
sign, or be the next argument; then it is only checked when the next setting or the end is reached,
so that a fault of the next argument itself comes first. Each setting is given at most once. Asking
for help ends the reading.
-/

namespace NodeFleet.CommandLine

/-- A value that has been checked. -/
inductive Given where
  | mark
  | text (value : String)
  | number (value : Nat)
  deriving DecidableEq, Repr

/-- Settings and their values, in the order in which they were given. -/
abbrev Choices := List (Setting × Given)

/-- What can be wrong with an argument. `used` are the settings that a hint on the usage shows. -/
inductive Fault where
  | unknown (argument : String) (similar : Option Setting) (used : List Setting)
  | missingValue (setting : Setting)
  | repeated (setting : Setting)
  | needlessValue (setting : Setting) (value : String) (used : List Setting)
  | badNumber (setting : Setting) (value : String) (fault : Text.IntegerFault)
  deriving DecidableEq, Repr

/-- Why the reading of a command line ends early. -/
inductive Stop where
  | help
  | fault (fault : Fault)
  deriving DecidableEq, Repr

/-- Checks the text of a value. -/
def Setting.check (s : Setting) (value : String) : Except Fault Given :=
  match s.kind with
  | .mark => .ok .mark
  | .text => .ok (.text value)
  | .path => if value.isEmpty then .error (.missingValue s) else .ok (.text value)
  | .number =>
    match Text.readNat Text.maxNat64 value.toList with
    | .ok n => .ok (.number n)
    | .error fault => .error (.badNumber s value fault)

/-- What has been read: the choices made, the setting whose value is not checked yet, and whether no
more settings may come. -/
structure Reading where
  choices : Choices
  pending : Option (Setting × Option String)
  isClosed : Bool

namespace Reading

/-- Nothing has been read. -/
def start : Reading := ⟨[], none, false⟩

/-- The settings given so far. -/
def used (r : Reading) : List Setting := r.choices.map (·.1)

/-- Takes a value for a setting; a fault still tells what has been used. -/
def accept (r : Reading) (s : Setting) (value : String) : Reading × Option Fault :=
  if s ∈ r.used then
    ({ r with choices := r.choices.filter (·.1 ≠ s) }, some (.repeated s))
  else
    match s.check value with
    | .ok given => ({ r with choices := r.choices ++ [(s, given)] }, none)
    | .error fault => ({ r with choices := r.choices ++ [(s, .mark)] }, some fault)

/-- Takes the value that is not checked yet. -/
def resolve (r : Reading) : Reading × Option Fault :=
  let waiting := r.pending
  let r := { r with pending := none }
  match waiting with
  | none => (r, none)
  | some (s, none) => (r, some (.missingValue s))
  | some (s, some value) => r.accept s value

/-- Continues unless there is a fault. -/
def orStop : Reading × Option Fault → Except Stop Reading
  | (r, none) => .ok r
  | (_, some fault) => .error (.fault fault)

/-- The similarity from which on a setting is suggested. -/
def suggestedFrom : Float := 0.7

/-- The fault of a name that no setting has. -/
def unknownName (r : Reading) (name : String) : Fault :=
  let similar := (Text.mostSimilar? suggestedFrom name (Setting.all.map (·.name))).bind
    Setting.ofName?
  .unknown ("--" ++ name) similar (r.resolve.1.used ++ similar.toList)

/-- Reads the name of a setting, with its value if that stands in the same argument. -/
def readNamed (r : Reading) (name : String) (value : Option String) : Except Stop Reading :=
  match Setting.ofName? name, value with
  | none, _ => .error (.fault (r.unknownName name))
  | some s, some value =>
    if s.kind = .mark then .error (.fault (.needlessValue s value (r.used ++ [s])))
    else do
      let r ← orStop r.resolve
      orStop (r.accept s value)
  | some s, none => do
    let r ← orStop r.resolve
    if s = .help then .error .help
    else if s.kind = .mark then orStop (r.accept s "")
    else .ok { r with pending := some (s, none) }

/-- Reads a letter after a single hyphen. -/
def readLetter (r : Reading) (c : Char) : Except Stop Reading :=
  if c = 'h' then do
    let _ ← orStop r.resolve
    .error .help
  else .error (.fault (.unknown (String.ofList ['-', c]) none []))

/-- Reads an argument that is no setting. -/
def readValue (r : Reading) (argument : String) : Except Stop Reading :=
  match r.pending with
  | some (s, none) =>
    if r.isClosed then .error (.fault (.unknown argument none []))
    else .ok { r with pending := some (s, some argument) }
  | _ => .error (.fault (.unknown argument none []))

/-- Reads an argument. -/
def step (r : Reading) (argument : String) : Except Stop Reading :=
  if r.isClosed then r.readValue argument
  else
    match argument.toList with
    | ['-', '-'] => .ok { r with isClosed := true }
    | '-' :: '-' :: cs =>
      match Text.splitFirst? '=' cs with
      | some (name, value) => r.readNamed (String.ofList name) (some (String.ofList value))
      | none => r.readNamed (String.ofList cs) none
    | '-' :: c :: _ => r.readLetter c
    | _ => r.readValue argument

end Reading

/-- The value that the environment gives to a setting not given yet. -/
def readVariable (environment : String → Option String) (r : Reading) (s : Setting) :
    Except Stop Reading :=
  if s ∈ r.used then .ok r
  else
    match s.variableName?.bind environment with
    | some value => Reading.orStop (r.accept s value)
    | none => .ok r

/-- Reads the arguments of a command line, and then the environment. -/
def read (environment : String → Option String) (arguments : List String) :
    Except Stop Choices := do
  let r ← arguments.foldlM Reading.step .start
  let r ← Reading.orStop r.resolve
  let r ← Setting.all.foldlM (readVariable environment) r
  .ok r.choices

namespace Choices

/-- Whether a setting was given. -/
def has (cs : Choices) (s : Setting) : Bool := cs.any (·.1 = s)

/-- The text of a setting, if it has one. -/
def text? (cs : Choices) (s : Setting) : Option String :=
  match cs.lookup s with
  | some (.text value) => some value
  | _ => s.standard?

/-- The text of a setting that always has one. -/
def text (cs : Choices) (s : Setting) : String := (cs.text? s).getD ""

/-- The number of a setting. -/
def number (cs : Choices) (s : Setting) : Nat :=
  match cs.lookup s, s.standard? with
  | some (.number n), _ => n
  | _, some standard => (standard.toNat?).getD 0
  | _, none => 0

end Choices

end NodeFleet.CommandLine
