import NodeFleet.Proofs.Posix
import NodeFleet.Proofs.Printed

/-!
# What the installation scripts say

The scripts are read by the shell as the commands that they are meant to be, whatever characters
there are in the token, in the address of the panel and in the path of the agent.
-/

namespace NodeFleet

open Posix

namespace Posix

/-- A word of characters without a meaning. -/
def bare (s : String) : Piece := .word (.plain s) []

@[simp] theorem tokens_bare (s : String) : (bare s).tokens = [.word s] := by
  simp [bare, Piece.tokens, Part.text, String.ofList_toList]

@[simp] theorem tokens_quoted (s : String) : (Piece.word (.quoted s) []).tokens = [.word s] := by
  simp [Piece.tokens, Part.text, String.ofList_toList]

@[simp] theorem tokens_quoted_plain (s t : String) :
    (Piece.word (.quoted s) [.plain t]).tokens = [.word (s ++ t)] := by
  simp [Piece.tokens, Part.text]

theorem tokens_output : Piece.output.tokens = [.output] := rfl

theorem tokens_document (delimiter : String) :
    (Piece.document delimiter).tokens = [.document, .word delimiter] := rfl

end Posix

namespace InstallPlan

variable (p : InstallPlan) (c : InstallConfig)

/-! ### The configuration file -/

/-- The entries of the configuration file in the order of their keys. -/
theorem agentConfig_eq :
    p.agentConfig = .obj [("listen_port", .ofInt p.nodePort), ("node_id", .ofInt p.nodeId),
      ("panel_url", .str p.panelUrl), ("token", .str p.token)] := by
  simp only [agentConfig, Json.Value.object, List.foldl_cons, List.foldl_nil,
    Json.Value.insertEntry, String.reduceLT, String.reduceEq, if_true, if_false]

theorem newline_not_mem_agentConfig : '\n' ∉ p.agentConfig.render.toList := by
  intro hmem
  rw [Json.Value.render, String.toList_ofList, agentConfig_eq] at hmem
  have hprintable := Json.printable_obj ?_ _ hmem
  · exact absurd hprintable (by decide)
  intro e he c hc
  simp only [List.mem_cons, List.not_mem_nil, or_false] at he
  obtain rfl | rfl | rfl | rfl := he
  · exact Json.printable_ofInt hc
  · exact Json.printable_ofInt hc
  · exact Json.printable_str hc
  · exact Json.printable_str hc

theorem agentConfig_ne_delimiter : p.agentConfig.render ≠ "AGENT_CONFIG" := by
  intro h
  have hchars := congrArg String.toList h
  rw [agentConfig_eq, Json.Value.render, String.toList_ofList, Json.Value.chars] at hchars
  cases hchars

variable {p} in
theorem floatless_agentConfig (hid : Json.Holds p.nodeId) (hport : Json.Holds p.nodePort) :
    p.agentConfig.Floatless := by
  rw [agentConfig_eq]
  apply Json.Value.Floatless.obj
  intro e he
  simp only [List.mem_cons, List.not_mem_nil, or_false] at he
  obtain rfl | rfl | rfl | rfl := he
  · exact .int hport
  · exact .int hid
  · exact .str p.panelUrl
  · exact .str p.token

variable {p} in
theorem parse_agentConfig (hid : Json.Holds p.nodeId) (hport : Json.Holds p.nodePort) :
    Json.Value.parse p.agentConfig.render = .ok p.agentConfig := by
  have hread : p.agentConfig.toDoc.read Json.maxDepth = .ok p.agentConfig := by
    rw [agentConfig_eq]
    simp only [Json.Value.toDoc, Json.entryDocs, Json.Doc.read, Json.readEntries, Json.maxDepth,
      Json.Ending.objectFault?, Json.Value.object, List.foldl_cons, List.foldl_nil,
      Json.Value.insertEntry, Json.Value.ofInt, String.reduceLT, String.reduceEq, if_false,
      bind, Except.bind, Except.map]
  rw [Json.Value.parse, Json.ofText_render (floatless_agentConfig hid hport)]
  dsimp only
  rw [hread]
  rfl

/-! ### The scripts -/

theorem toList_downloadScript :
    (p.downloadScript c).toList =
      lineChars [bare "set", bare "-e"] ++ '\n' ::
      (lineChars [bare "curl", bare "-fsSL", bare "--retry", bare "3", bare "-H",
          .word (.quoted ("Authorization: Bearer " ++ p.token)) [],
          .word (.quoted p.downloadUrl) [], bare "-o",
          .word (.quoted c.remoteBinaryPath) [.plain ".tmp"]] ++ '\n' ::
      (lineChars [bare "chmod", bare "755", .word (.quoted c.remoteBinaryPath) [.plain ".tmp"]]
          ++ '\n' ::
      (lineChars [bare "mv", .word (.quoted c.remoteBinaryPath) [.plain ".tmp"],
          .word (.quoted c.remoteBinaryPath) []] ++ '\n' :: []))) := by
  unfold downloadScript
  simp only [lineChars, bare, Piece.chars, Part.chars, List.flatMap_cons,
    List.flatMap_nil, List.append_nil]
  generalize shellQuote ("Authorization: Bearer " ++ p.token) = header
  generalize shellQuote p.downloadUrl = url
  generalize shellQuote c.remoteBinaryPath = bin
  simp [String.toList_append]

theorem commandsOf_downloadScript :
    commandsOf (p.downloadScript c) = some
      [.plain ["set", "-e"],
        .plain ["curl", "-fsSL", "--retry", "3", "-H", "Authorization: Bearer " ++ p.token,
          p.downloadUrl, "-o", c.remoteBinaryPath ++ ".tmp"],
        .plain ["chmod", "755", c.remoteBinaryPath ++ ".tmp"],
        .plain ["mv", c.remoteBinaryPath ++ ".tmp", c.remoteBinaryPath]] := by
  have hurl : p.downloadUrl = p.panelUrl ++ "/api/agent/binary" := rfl
  rw [commandsOf, toList_downloadScript,
    scan_words "set" ["-e"] rfl (by simp) (by decide),
    scan_words "curl" ["-fsSL", "--retry", "3", "-H",
      "Authorization: Bearer " ++ p.token, p.downloadUrl, "-o", c.remoteBinaryPath ++ ".tmp"]
      rfl (by simp) (by decide),
    scan_words "chmod" ["755", c.remoteBinaryPath ++ ".tmp"] rfl (by simp)
      (by decide),
    scan_words "mv" [c.remoteBinaryPath ++ ".tmp", c.remoteBinaryPath] rfl
      (by simp) (by decide)]
  rfl

theorem toList_configureScript :
    (p.configureScript c).toList =
      lineChars [bare "set", bare "-e"] ++ '\n' ::
      (lineChars [bare "umask", bare "077"] ++ '\n' ::
      (lineChars [bare "mkdir", bare "-p", .word (.quoted (configDir c)) []] ++ '\n' ::
      (lineChars [bare "cat", .output, .word (.quoted (configDir c)) [.plain "/config.json"],
          .document "AGENT_CONFIG"] ++ '\n' ::
      (p.agentConfig.render.toList ++ '\n' ::
      ("AGENT_CONFIG".toList ++ '\n' :: []))))) := by
  unfold configureScript
  simp only [lineChars, bare, Piece.chars, Part.chars, List.flatMap_cons, List.flatMap_nil,
    List.append_nil]
  have hdelimiter : (shellQuote "AGENT_CONFIG").toList = "'AGENT_CONFIG'".toList := by decide
  rw [hdelimiter]
  generalize shellQuote (configDir c) = dir
  generalize p.agentConfig.render = text
  simp [String.toList_append]

theorem commandsOf_configureScript :
    commandsOf (p.configureScript c) = some
      [.plain ["set", "-e"], .plain ["umask", "077"], .plain ["mkdir", "-p", configDir c],
        ⟨["cat"], some (configDir c ++ "/config.json"), some [p.agentConfig.render]⟩] := by
  have hcat : commandLine ([bare "cat", .output,
      .word (.quoted (configDir c)) [.plain "/config.json"],
      .document "AGENT_CONFIG"].flatMap Piece.tokens) =
      some ⟨["cat"], some (configDir c ++ "/config.json"), some "AGENT_CONFIG"⟩ := by
    simp only [List.flatMap_cons, List.flatMap_nil, tokens_bare, tokens_quoted_plain,
      tokens_output, tokens_document]
    rfl
  rw [commandsOf, toList_configureScript,
    scan_words "set" ["-e"] rfl (by simp) (by decide),
    scan_words "umask" ["077"] rfl (by simp) (by decide),
    scan_words "mkdir" ["-p", configDir c] rfl (by simp) (by decide),
    scan_line rfl, List.nil_append, scan_lineEnd hcat]
  dsimp only
  rw [scanDocument_line p.newline_not_mem_agentConfig, List.nil_append, String.ofList_toList,
    if_neg p.agentConfig_ne_delimiter,
    scanDocument_line (by decide), List.nil_append, String.ofList_toList, if_pos rfl]
  rfl

/-! ### The steps -/

/-- Whatever the plan and the path of the agent are, the shell reads the scripts as the commands
that they are meant to be. The document of the configuration is one line, the JSON of the plan's
values. -/
theorem steps_read_as_meant (p : InstallPlan) (path : String) (hid : Json.Holds p.nodeId)
    (hport : Json.Holds p.nodePort) :
    let steps := p.steps { InstallConfig.standard with remoteBinaryPath := path }
    ∃ download configure line,
      steps.lookup "download_agent" = some download ∧ steps.lookup "configure" = some configure ∧
      commandsOf download = some
        [.plain ["set", "-e"],
          .plain ["curl", "-fsSL", "--retry", "3", "-H", "Authorization: Bearer " ++ p.token,
            p.panelUrl ++ "/api/agent/binary", "-o", path ++ ".tmp"],
          .plain ["chmod", "755", path ++ ".tmp"],
          .plain ["mv", path ++ ".tmp", path]] ∧
      commandsOf configure = some
        [.plain ["set", "-e"], .plain ["umask", "077"], .plain ["mkdir", "-p", "/etc/node-agent"],
          ⟨["cat"], some "/etc/node-agent/config.json", some [line]⟩] ∧
      line ≠ "AGENT_CONFIG" ∧
      Json.Value.parse line = .ok (.object [("panel_url", .str p.panelUrl),
        ("node_id", .ofInt p.nodeId), ("token", .str p.token),
        ("listen_port", .ofInt p.nodePort)]) := by
  intro steps
  let config := { InstallConfig.standard with remoteBinaryPath := path }
  exact ⟨p.downloadScript config, p.configureScript config, p.agentConfig.render, rfl, rfl,
    p.commandsOf_downloadScript config, p.commandsOf_configureScript config,
    p.agentConfig_ne_delimiter, parse_agentConfig hid hport⟩

/-- Neither quotes nor the delimiter nor the ends of lines in a plan make a command. -/
theorem steps_read_as_meant_hostile :
    let p : InstallPlan := ⟨7, 443, "'; reboot; '", "\nAGENT_CONFIG\n$(reboot) \\"⟩
    let path := "a 'b' > c"
    Json.Holds p.nodeId ∧ Json.Holds p.nodePort ∧
      ∃ download, (p.steps { InstallConfig.standard with remoteBinaryPath := path }).lookup
          "download_agent" = some download ∧
        commandsOf download = some
          [.plain ["set", "-e"],
            .plain ["curl", "-fsSL", "--retry", "3", "-H",
              "Authorization: Bearer \nAGENT_CONFIG\n$(reboot) \\", "'; reboot; '/api/agent/binary",
              "-o", "a 'b' > c.tmp"],
            .plain ["chmod", "755", "a 'b' > c.tmp"],
            .plain ["mv", "a 'b' > c.tmp", "a 'b' > c"]] := by
  intro p path
  have hid : Json.Holds p.nodeId := ⟨by decide, by decide⟩
  have hport : Json.Holds p.nodePort := ⟨by decide, by decide⟩
  obtain ⟨download, -, -, hdownload, -, hcommands, -⟩ := steps_read_as_meant p path hid hport
  exact ⟨hid, hport, download, hdownload, hcommands⟩

end InstallPlan

end NodeFleet
