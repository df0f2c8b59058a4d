import NodeFleet.Http.Form
import NodeFleet.Text.Percent
import NodeFleet.Text.Quoted
import NodeFleet.Url.Basic

/-!
Where the database is kept: the URL that names it, and what it takes to open it.

A database of the scheme `sqlite` is kept in memory or in a file. Parameters after a question mark
tell how it is opened.
-/

namespace NodeFleet.Schema

/-- The place of a database. -/
inductive Source where
  | memory
  /-- A file; `creates` tells whether it is created when it is missing. -/
  | file (path : String) (creates : Bool)
  deriving DecidableEq, Repr

/-- Why a database cannot be opened. -/
inductive SourceFault where
  | badUrl (url : String)
  | unknownScheme (url : String)
  | badParameter (name value : String)
  | unknownParameter (name : String)
  | unreachable
  deriving DecidableEq, Repr

/-- The error of a fault, and its causes, the nearest first. -/
def SourceFault.chain (f : SourceFault) : String × List String :=
  let around (outer message : String) : List String :=
    [outer ++ message, outer ++ message, message]
  let causes := match f with
    | .badUrl url => ["The connection string '" ++ url ++ "' cannot be parsed."]
    | .unknownScheme url => ["The connection string '" ++ url ++ "' has no supporting driver."]
    | .badParameter name value =>
      around "error with configuration: "
        ("unknown value " ++ Text.quoted value ++ " for \x60" ++ name ++ "\x60")
    | .unknownParameter name =>
      around "error with configuration: "
        ("unknown query parameter \x60" ++ name ++ "\x60 while parsing connection URL")
    | .unreachable =>
      around "error returned from database: " "(code: 14) unable to open database file"
  ("Connection Error: " ++ causes.headD "", causes)

namespace Source

/-- The words that a parameter may have. -/
def parameterWords : List (String × List String) :=
  [("mode", ["ro", "rw", "rwc", "memory"]), ("cache", ["private", "shared"]),
    ("immutable", ["true", "1", "false", "0"])]

/-- Checks a parameter. -/
def checkParameter (name value : String) : Except SourceFault Unit :=
  if name = "vfs" then .ok ()
  else
    match parameterWords.lookup name with
    | none => .error (.unknownParameter name)
    | some words => if words.contains value then .ok () else .error (.badParameter name value)

/-- Drops a word from the start of a text as often as it stands there. -/
def dropAll (word : List Char) (cs : List Char) : List Char :=
  match word with
  | [] => cs
  | c :: rest =>
    if h : (c :: rest).isPrefixOf cs ∧ cs ≠ [] then
      dropAll (c :: rest) (cs.drop (rest.length + 1))
    else cs
  termination_by cs.length
  decreasing_by
    have := List.length_pos_iff.2 h.2
    simp only [List.length_drop]
    omega

/-- The path and the parameters in a URL of the scheme `sqlite`. -/
def ofSqlite (url : String) : Except SourceFault Source := do
  let rest := dropAll "sqlite:".toList (dropAll "sqlite://".toList url.toList)
  let (path, query) := match Text.splitFirst? '?' rest with
    | some (path, query) => (path, query)
    | none => (rest, [])
  let parameters := Http.formPairs (String.ofList query)
  parameters.forM fun (name, value) => checkParameter name value
  let has (mode : String) : Bool := parameters.contains ("mode", mode)
  if path = ":memory:".toList ∨ has "memory" then .ok .memory
  else
    let path := Text.decodeLossy (Text.percentDecode (Text.bytesOf (String.ofList path)))
    .ok (.file path (has "rwc"))

/-- Reads the URL of a database. -/
def read (url : String) : Except SourceFault Source :=
  match Url.read? url with
  | none => .error (.badUrl url)
  | some (.other scheme) =>
    if scheme = "sqlite".toList then ofSqlite url else .error (.unknownScheme url)
  | some (.web _) => .error (.unknownScheme url)

/-- The directory of a file. -/
def directory (path : String) : String :=
  match Url.splitLast? '/' path.toList with
  | some ([], _) => "/"
  | some (place, _) => String.ofList place
  | none => "."

/-- Opens a database, which needs its file, or the directory where that is created. -/
def connect (isFile isDirectory : String → Bool) : Source → Except SourceFault Unit
  | .memory => .ok ()
  | .file path creates =>
    if isFile path || (creates && !path.isEmpty && isDirectory (directory path)) then .ok ()
    else .error .unreachable

end Source

end NodeFleet.Schema
