import NodeFleet.Address.Network
import NodeFleet.Fleet.Tables
import NodeFleet.Install.Credentials
import NodeFleet.Node.Field
import NodeFleet.Url.Panel

/-!
Requests about nodes: creation, changes, installation, and the filter of the list.
-/

namespace NodeFleet

/-- How a node comes to its agent: by hand, or by an installation over the remote shell. -/
inductive CreateMode where
  | manual
  | autoInstall
  deriving DecidableEq, Repr

/-- The name of a mode. -/
def CreateMode.name : CreateMode → String
  | .manual => "manual"
  | .autoInstall => "auto_install"

/-- The names of the modes. -/
def CreateMode.naming : Naming CreateMode :=
  ⟨"CreateMode", [.manual, .autoInstall].map fun m => (m.name, m)⟩

/-- A request for a new node. -/
structure CreateNode where
  name : String
  region : String
  address : Option String
  port : Option Int
  weight : Int
  maxUsers : Int
  tags : List String
  whitelist : List String
  mode : CreateMode
  ssh : Option SshCredentials
  panelUrl : Option String
  deriving DecidableEq, Repr

/-- The fields of a request for a new node. -/
def CreateNode.fields : Json.Record CreateNode :=
  CreateNode.mk <$> .required "name" Json.text
    <*> .withDefault "region" Json.text ""
    <*> .optional "address" Json.text
    <*> .optional "port" Json.int64
    <*> .withDefault "weight" Json.int64 1
    <*> .withDefault "max_users" Json.int64 0
    <*> .withDefault "tags" (Json.list Json.text) []
    <*> .withDefault "ip_whitelist" (Json.list Json.text) []
    <*> .withDefault "mode" CreateMode.naming.decoder .manual
    <*> .optional "ssh" SshCredentials.decoder
    <*> .optional "panel_url" Json.text

/-- Reads a request for a new node. -/
def CreateNode.decoder : Json.Decoder CreateNode :=
  CreateNode.fields.decoder "CreateNodeRequest" false

/-- Changes to the identity, the capacity and the labels of a node; what is absent stays. -/
structure NodePatch where
  name : Option String
  region : Option String
  address : Option String
  port : Option Int
  weight : Option Int
  maxUsers : Option Int
  enabled : Option Bool
  tags : Option (List String)
  whitelist : Option (List String)
  deriving DecidableEq, Repr

namespace NodePatch

/-- The fields of changes to a node. -/
def fields : Json.Record NodePatch :=
  NodePatch.mk <$> .optional "name" Json.text
    <*> .optional "region" Json.text
    <*> .optional "address" Json.text
    <*> .optional "port" Json.int64
    <*> .optional "weight" Json.int64
    <*> .optional "max_users" Json.int64
    <*> .optional "enabled" Json.bool
    <*> .optional "tags" (Json.list Json.text)
    <*> .optional "ip_whitelist" (Json.list Json.text)

/-- Reads changes to a node; unknown keys are refused. -/
def decoder : Json.Decoder NodePatch := fields.decoder "NodePatch" true

/-- The keys that the reconciler owns; no administrator may set them. -/
def reconcilerKeys : List String :=
  ["status", "sync_status", "latency", "latency_ms", "last_seen_at", "synced_at", "current_users",
    "applied_revision", "sync_error"]

/-- Reads changes to a node from the body of a request. -/
def ofValue (body : Json.Value) : Except Error NodePatch :=
  match body with
  | .obj _ =>
    let forbidden := reconcilerKeys.filter body.hasKey
    if forbidden.isEmpty then
      (Json.Decoder.ofValue decoder body).mapError fun e =>
        .validation ("Некорректный патч: " ++ e.message)
    else
      .error (.validation ("Поля управляются реконсилером и не могут быть изменены: "
        ++ ", ".intercalate forbidden))
  | _ => .error (.validation "Ожидается JSON-объект")

end NodePatch

/-- A request to install the agent again. -/
structure InstallRequest where
  ssh : SshCredentials
  panelUrl : String
  deriving DecidableEq, Repr

/-- The fields of a request to install the agent. -/
def InstallRequest.fields : Json.Record InstallRequest :=
  InstallRequest.mk <$> .required "ssh" SshCredentials.decoder
    <*> .required "panel_url" Json.text

/-- Reads a request to install the agent. -/
def InstallRequest.decoder : Json.Decoder InstallRequest :=
  InstallRequest.fields.decoder "InstallRequest" false

/-- Which nodes are to be listed; an absent criterion admits all. -/
structure NodeFilter where
  health : Option Health
  region : Option String
  keyword : Option String
  groupId : Option Int
  deriving DecidableEq, Repr

/-- The fields of a filter. -/
def NodeFilter.fields : Json.Record NodeFilter :=
  NodeFilter.mk <$> .optional "status" Health.naming.decoder
    <*> .optional "region" Json.text
    <*> .optional "keyword" Json.text
    <*> .optional "group_id" Json.int32

/-- Reads a filter. -/
def NodeFilter.decoder : Json.Decoder NodeFilter := NodeFilter.fields.decoder "NodeFilter" false

/-- The fields of a new node that have passed their rules. -/
structure NodeDraft where
  name : String
  region : String
  address : String
  port : Int
  weight : Int
  maxUsers : Int
  tags : List String
  whitelist : List String
  deriving DecidableEq, Repr

namespace CreateNode

/-- The port of a node that is installed over the remote shell, when none is given. -/
def defaultPort : Int := 443

/-- The error of an installation without credentials. -/
def noSsh : Error := .validation "ssh обязателен для auto_install"

/-- The address and the port: both given, or taken from the credentials. -/
def endpoint (r : CreateNode) : Except Error (String × Int) :=
  match r.mode with
  | .manual =>
    match r.address, r.port with
    | none, _ => .error (.validation "address обязателен")
    | some _, none => .error (.validation "port обязателен")
    | some address, some port => do .ok (← Field.address address, ← Field.port port)
  | .autoInstall =>
    match r.ssh with
    | none => .error noSsh
    | some ssh => do
      .ok (← Field.address (r.address.getD ssh.host), ← Field.port (r.port.getD defaultPort))

/-- The fields of the new node; the first broken rule is told. -/
def draft (r : CreateNode) : Except Error NodeDraft := do
  let name ← Field.name r.name
  let (address, port) ← r.endpoint
  let weight ← Field.weight r.weight
  let maxUsers ← Field.maxUsers r.maxUsers
  let tags ← Field.tags r.tags
  let whitelist ← Network.whitelist r.whitelist
  .ok ⟨name, Text.trim r.region, address, port, weight, maxUsers, tags, whitelist⟩

/-- Where and for which panel the agent is to be installed, if it is. -/
def installation (r : CreateNode) : Except Error (Option (SshTarget × String)) :=
  match r.mode with
  | .manual => .ok none
  | .autoInstall =>
    match r.ssh with
    | none => .error noSsh
    | some ssh => do
      let target ← ssh.check
      match r.panelUrl with
      | none => .error (.validation "panel_url обязателен для auto_install")
      | some url => do
        let url ← Url.panelUrl url
        .ok (some (target, url))

end CreateNode

end NodeFleet
