import NodeFleet.Json.Value

/-!
The scripts that install the agent on a node.

There are four steps: look at the host, download the agent, write its configuration, and start it
as a service.
-/

namespace NodeFleet

/-- What is to be installed. -/
structure InstallPlan where
  nodeId : Int
  nodePort : Int
  panelUrl : String
  token : String
  deriving DecidableEq, Repr

/-- The greatest time for an installation, `2 ^ 63 - 2 ^ 40` seconds in milliseconds. The clock of a
host counts `2 ^ 63` seconds from its start; a host that is up for less than `2 ^ 40` seconds can
tell when this time is over. -/
def InstallConfig.maxTimeout : Nat := 9223370937343148032 * 1000

/-- How agents are installed. -/
structure InstallConfig where
  /-- The time for all steps together, in milliseconds, which is what timers count. -/
  timeout : Nat
  /-- The time to reach the host, in nanoseconds. -/
  connectTimeout : Nat
  /-- The path of the agent on the node. -/
  remoteBinaryPath : String
  /-- The name of the service of the agent. -/
  serviceName : String
  timeout_le : timeout ≤ InstallConfig.maxTimeout := by decide
  deriving DecidableEq, Repr

/-- The configuration when none is given. -/
def InstallConfig.standard : InstallConfig where
  timeout := 300000
  connectTimeout := 15000000000
  remoteBinaryPath := "/usr/local/bin/node-agent"
  serviceName := "node-agent"

namespace InstallPlan

/-- A character inside single quotes; a single quote leaves them, stands escaped, and enters
again. -/
def quotedChar (c : Char) : List Char :=
  if c = '\'' then ['\'', '\\', '\'', '\''] else [c]

/-- A text as one word of a shell. -/
def shellQuote (s : String) : String :=
  String.ofList ('\'' :: (s.toList.flatMap quotedChar ++ ['\'']))

/-- The address of the agent on the panel. -/
def downloadUrl (p : InstallPlan) : String := p.panelUrl ++ "/api/agent/binary"

/-- The configuration file of the agent. -/
def agentConfig (p : InstallPlan) : Json.Value :=
  .object [("panel_url", .str p.panelUrl), ("node_id", .ofInt p.nodeId), ("token", .str p.token),
    ("listen_port", .ofInt p.nodePort)]

/-- Downloads the agent beside its place and moves it there. -/
def downloadScript (p : InstallPlan) (c : InstallConfig) : String :=
  let bin := shellQuote c.remoteBinaryPath
  let header := shellQuote ("Authorization: Bearer " ++ p.token)
  "set -e\ncurl -fsSL --retry 3 -H " ++ header ++ " " ++ shellQuote p.downloadUrl ++ " -o " ++ bin
    ++ ".tmp\nchmod 755 " ++ bin ++ ".tmp\nmv " ++ bin ++ ".tmp " ++ bin ++ "\n"

/-- The directory of the agent's configuration. -/
def configDir (c : InstallConfig) : String := "/etc/" ++ c.serviceName

/-- Writes the configuration file, for its owner only. -/
def configureScript (p : InstallPlan) (c : InstallConfig) : String :=
  let dir := shellQuote (configDir c)
  "set -e\numask 077\nmkdir -p " ++ dir ++ "\ncat > " ++ dir
    ++ "/config.json <<'AGENT_CONFIG'\n" ++ p.agentConfig.render ++ "\nAGENT_CONFIG\n"

/-- The unit of the agent's service. -/
def serviceUnit (c : InstallConfig) : String :=
  "[Unit]\nDescription=Proxy node agent\nAfter=network-online.target\n\n[Service]\nExecStart="
    ++ c.remoteBinaryPath ++ " --config " ++ configDir c
    ++ "/config.json\nRestart=always\nRestartSec=5\n\n[Install]\nWantedBy=multi-user.target"

/-- Writes the unit and starts the service. -/
def startScript (c : InstallConfig) : String :=
  let name := c.serviceName
  "set -e\ncat > /etc/systemd/system/" ++ name ++ ".service <<'AGENT_UNIT'\n" ++ serviceUnit c
    ++ "\nAGENT_UNIT\nsystemctl daemon-reload\nsystemctl enable " ++ name
    ++ "\nsystemctl restart " ++ name ++ "\nsystemctl is-active " ++ name ++ "\n"

/-- The names and scripts of the steps, in order. -/
def steps (p : InstallPlan) (c : InstallConfig) : List (String × String) :=
  [("connect", "uname -sm && id -u"), ("download_agent", p.downloadScript c),
    ("configure", p.configureScript c), ("start_service", startScript c)]

end InstallPlan

end NodeFleet
