import NodeFleet.Json.Decode
import NodeFleet.Node.Field

/-!
Credentials for the remote shell of a node.

Credentials come from a request; `SshCredentials.check` turns them into a target for `ssh`, whose
host and user are words that the client cannot take for options.
-/

namespace NodeFleet

/-- Credentials as given in a request. -/
structure SshCredentials where
  host : String
  port : Int
  username : String
  password : Option String
  privateKeyPath : Option String
  deriving DecidableEq, Repr

/-- How to prove one's identity to the remote host. -/
inductive SshAuth where
  | password (secret : String)
  | key (path : String)
  deriving DecidableEq, Repr

/-- A remote account that has passed the checks. -/
structure SshTarget where
  host : String
  port : Int
  username : String
  auth : SshAuth
  deriving DecidableEq, Repr

namespace SshCredentials

/-- The port of a remote shell when none is given. -/
def defaultPort : Int := 22

/-- The fields of credentials. -/
def fields : Json.Record SshCredentials :=
  SshCredentials.mk <$> .required "host" Json.text
    <*> .withDefault "port" Json.int64 defaultPort
    <*> .required "username" Json.text
    <*> .optional "password" Json.text
    <*> .optional "private_key_path" Json.text

/-- Reads credentials. -/
def decoder : Json.Decoder SshCredentials := fields.decoder "SshCredentials" false

/-- A host or a user: a word without `@` that does not start with a hyphen. -/
def word (field value : String) : Except Error String :=
  let trimmed := Text.trim value
  if trimmed.isEmpty then .error (.validation (field ++ " обязателен"))
  else if trimmed.toList.head? = some '-' ∨ trimmed.toList.any Text.isBlank
      ∨ trimmed.toList.contains '@' then
    .error (.validation ("Некорректный " ++ field ++ ": " ++ trimmed))
  else .ok trimmed

/-- The error of credentials that prove nothing. -/
def noAuth : Error := .validation "Нужен ssh.password или ssh.private_key_path"

/-- Identity by a key, unless its path is blank. -/
def keyAuth : Option String → Except Error SshAuth
  | some path => if Text.isBlankText path then .error noAuth else .ok (.key (Text.trim path))
  | none => .error noAuth

/-- The way of proving one's identity: a password unless it is empty, else the path of a key. -/
def auth (c : SshCredentials) : Except Error SshAuth :=
  match c.password with
  | some password => if password.isEmpty then keyAuth c.privateKeyPath else .ok (.password password)
  | none => keyAuth c.privateKeyPath

/-- The target that credentials name. -/
def check (c : SshCredentials) : Except Error SshTarget := do
  let host ← word "ssh.host" c.host
  let port ← Field.port c.port
  let username ← word "ssh.username" c.username
  let auth ← c.auth
  .ok ⟨host, port, username, auth⟩

end SshCredentials

end NodeFleet
