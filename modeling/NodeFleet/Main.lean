import NodeFleet.CommandLine.Start

/-!
The program: it reads its arguments, the environment and the files that these name, and starts the
panel.

A start that fails is reported. The answers of a running panel are those of `Api.Server.handle`; the
connections that carry them are not made here.
-/

open NodeFleet

/-- The contents of a file, unless it cannot be read. -/
def readContents (path : String) : IO (Option (List UInt8)) :=
  try
    let contents ← IO.FS.readBinFile path
    return some contents.toList
  catch _ => return none

/-- Creates the file of a database that is created when it is missing. -/
def createFile (source : Schema.Source) : IO Unit :=
  match source with
  | .file path true =>
    try
      let _ ← IO.FS.Handle.mk path .append
    catch _ => return ()
  | _ => return ()

/-- The paths that a configuration names, with the contents of their files. -/
def readFiles (c : CommandLine.Configuration) : IO (List (String × List UInt8)) := do
  let databasePaths ← match Schema.Source.read c.databaseUrl with
    | .ok source => do
      createFile source
      match source with
      | .file path _ => pure [path]
      | .memory => pure []
    | .error _ => pure []
  let paths := databasePaths ++ [c.listening.certificatePath, c.listening.keyPath]
  paths.filterMapM fun path => do
    return (← readContents path).map fun contents => (path, contents)

/-- The variables of the environment that settings name. -/
def readVariables : IO (List (String × String)) :=
  (CommandLine.Setting.all.filterMap (·.variableName?)).filterMapM fun name => do
    return (← IO.getEnv name).map fun value => (name, value)

/-- Writes what the program leaves at its end. -/
def finish (e : CommandLine.Ending) : IO UInt32 := do
  (← IO.getStdout).putStr e.stdout
  (← IO.getStderr).putStr e.stderr
  return UInt32.ofNat e.code

def main (arguments : List String) : IO UInt32 := do
  let found ← readVariables
  let configuration? := (CommandLine.read (found.lookup ·) arguments).toOption.bind fun choices =>
    (CommandLine.configure choices).toOption
  let files ← match configuration? with
    | some c => readFiles c
    | none => pure []
  let surroundings : CommandLine.Surroundings :=
    { environment := (found.lookup ·)
      isDirectory := fun _ => false
      host := { file? := (files.lookup ·), isOwn := fun _ => true } }
  match CommandLine.start surroundings arguments with
  | .error e => finish e
  | .ok _ => return 0
