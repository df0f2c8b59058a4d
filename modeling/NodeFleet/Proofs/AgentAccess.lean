import NodeFleet.Proofs.Credentials

/-!
# The reach of a node's token

A token of a node lets its agent make the calls of agents, which read the row of that node and write
the report of the agent into it. All other rows and tables are out of its reach, and so are the
calls of the administrator.
-/

namespace NodeFleet

/-! ### Routes -/

namespace Api

open NodeFleet.Action

/-- The word of a path below `/api` that leads to calls of an audience. -/
def Calls.place : Calls → String
  | .forAll _ => "auth"
  | .forAdmin _ => "admin"
  | .forAgent _ => "agent"

theorem matchParts?_word {text : String} {segments : List Segment} {part : List Char}
    {parts : List (List Char)} {parameters : Parameters}
    (h : matchParts? (.word text :: segments) (part :: parts) = some parameters) :
    text.toList = part ∧ matchParts? segments parts = some parameters := by
  rw [matchParts?] at h
  split at h
  · next heq => exact ⟨heq, h⟩
  · cases h

/-- A path below `/api` leads to the calls of the audience that its next word stands for. -/
theorem place_of_mem_routes {route : Route} (hmem : route ∈ routes) {word : List Char}
    {parts : List (List Char)} {parameters : Parameters}
    (h : matchParts? route.pattern ("api".toList :: word :: parts) = some parameters) :
    route.calls.place.toList = word := by
  unfold routes at hmem
  simp only [List.mem_append, List.mem_map] at hmem
  rcases hmem with (⟨⟨path, methods⟩, hpath, rfl⟩ | ⟨⟨path, methods⟩, -, rfl⟩) |
    ⟨⟨path, methods⟩, -, rfl⟩
  · simp only [openRoutes, List.mem_cons, List.not_mem_nil, or_false, Prod.mk.injEq] at hpath
    rcases hpath with ⟨rfl, -⟩ | ⟨rfl, -⟩
    · exact absurd (matchParts?_word h).1 (by decide)
    · exact (matchParts?_word (matchParts?_word h).2).1
  · exact (matchParts?_word (matchParts?_word h).2).1
  · exact (matchParts?_word (matchParts?_word h).2).1

theorem splitAll_below_api {word : String} (hword : '/' ∉ word.toList) (rest : String) :
    Text.splitAll '/' ("/api/" ++ word ++ "/" ++ rest).toList =
      [] :: "api".toList :: word.toList :: Text.splitAll '/' rest.toList := by
  have hpath : ("/api/" ++ word ++ "/" ++ rest).toList =
      "/api/".toList ++ (word.toList ++ '/' :: rest.toList) := by
    simp [String.toList_append]
  rw [hpath, ← Text.splitAll_append rest.toList hword]
  rfl

theorem place_of_findRoute? {word rest : String} (hword : '/' ∉ word.toList) {calls : Calls}
    {parameters : Parameters}
    (h : findRoute? ("/api/" ++ word ++ "/" ++ rest) = some (calls, parameters)) :
    calls.place = word := by
  unfold findRoute? at h
  obtain ⟨route, hmem, hroute⟩ := List.exists_of_findSome?_eq_some h
  rw [Option.map_eq_some_iff] at hroute
  obtain ⟨_, hmatch, heq⟩ := hroute
  obtain ⟨rfl, -⟩ := Prod.mk.inj heq
  unfold Route.match? at hmatch
  rw [splitAll_below_api hword rest] at hmatch
  exact String.toList_inj.1 (place_of_mem_routes hmem hmatch)

/-- The paths of agents lead to calls of agents. -/
theorem forAgent_of_findRoute? {rest : String} {calls : Calls} {parameters : Parameters}
    (h : findRoute? ("/api/agent/" ++ rest) = some (calls, parameters)) :
    ∃ methods, calls = .forAgent methods := by
  have hplace : calls.place = "agent" := place_of_findRoute? (by decide) h
  cases calls with
  | forAll methods => exact absurd hplace (by decide : "auth" ≠ "agent")
  | forAdmin methods => exact absurd hplace (by decide : "admin" ≠ "agent")
  | forAgent methods => exact ⟨methods, rfl⟩

/-- The paths of the administrator lead to calls of the administrator. -/
theorem forAdmin_of_findRoute? {rest : String} {calls : Calls} {parameters : Parameters}
    (h : findRoute? ("/api/admin/" ++ rest) = some (calls, parameters)) :
    ∃ methods, calls = .forAdmin methods := by
  have hplace : calls.place = "admin" := place_of_findRoute? (by decide) h
  cases calls with
  | forAll methods => exact absurd hplace (by decide : "auth" ≠ "admin")
  | forAdmin methods => exact ⟨methods, rfl⟩
  | forAgent methods => exact absurd hplace (by decide : "agent" ≠ "admin")

end Api

/-! ### Reports -/

/-- A row that differs from another one at most in what an agent reports: the time of the last
heartbeat, the revision that is applied, and the error. -/
def Node.DiffersByReport (n m : Node) : Prop :=
  m = { n with
    lastSeenAt := m.lastSeenAt
    appliedRevision := m.appliedRevision
    syncError := m.syncError }

/-- An effect on the row of one node that an agent may have by its report. -/
def Fleet.ReportEffect (nodeId : Int) (effect : Fleet → Fleet) : Prop :=
  ∃ change : Node → Node, (∀ n : Node, n.DiffersByReport (change n)) ∧
    effect = fun f => f.updateNode nodeId change

namespace Fleet

theorem reportEffect_id (nodeId : Int) : ReportEffect nodeId id := by
  refine ⟨id, fun _ => rfl, ?_⟩
  funext f
  simp [updateNode]

theorem reportEffect_noteHeartbeat (nodeId : Int) (now : Instant) (report : Heartbeat) :
    ReportEffect nodeId fun f => f.updateNode nodeId (noteHeartbeat now report) :=
  ⟨noteHeartbeat now report, fun _ => rfl, rfl⟩

variable {f g : Fleet} {nodeId : Int}

/-- The row of a node decides what a look for the node finds. -/
theorem findNode_congr (h : f.node? nodeId = g.node? nodeId) :
    findNode nodeId f = findNode nodeId g := by
  unfold findNode
  rw [h]

/-- A heartbeat is refused to a node that does not exist, and noted otherwise. -/
theorem recordHeartbeat_eq (now : Instant) (report : Heartbeat) :
    recordHeartbeat now nodeId report f = (findNode nodeId f).map fun n =>
      (n.configRevision, f.updateNode nodeId (noteHeartbeat now report)) := by
  cases hfind : findNode nodeId f with
  | ok n => exact recordHeartbeat_eq_ok.2 ⟨n, findNode_eq_ok.1 hfind, rfl⟩
  | error e =>
    have hread : Transaction.read (findNode nodeId) f = .error e := by
      unfold Transaction.read
      rw [hfind]
      rfl
    change (Transaction.read (findNode nodeId) f >>= _) = _
    rw [hread]
    rfl

end Fleet

namespace Api

open NodeFleet.Action

variable {m₁ m₂ : Moment} {r : Http.Request} {nodeId : Int} {input : Input}

theorem binaryResponse_congr {settings settings' : Settings}
    (h : settings.agentBinary = settings'.agentBinary) (r : Http.Request) :
    binaryResponse settings r = binaryResponse settings' r := by
  unfold binaryResponse
  rw [h]

/-- The note of a heartbeat has one answer and one effect on all panels with the same row of its
node. -/
theorem on_recordHeartbeat (now : Instant) (report : Heartbeat) {p q : Panel}
    (hp : p.isOpen = true) (hq : q.isOpen = true)
    (hrow : p.fleet.node? nodeId = q.fleet.node? nodeId) :
    ∃ answer effect, Fleet.ReportEffect nodeId effect ∧
      (transact (Fleet.recordHeartbeat now nodeId report)).on p =
        (answer, { p with fleet := effect p.fleet }) ∧
      (transact (Fleet.recordHeartbeat now nodeId report)).on q =
        (answer, { q with fleet := effect q.fleet }) := by
  cases hfind : Fleet.findNode nodeId p.fleet with
  | error e =>
    have hrun (u : Panel) (hu : u.isOpen = true)
        (hmissing : Fleet.findNode nodeId u.fleet = .error e) :
        (transact (Fleet.recordHeartbeat now nodeId report)).on u = (.error e, u) := by
      refine on_transact_of_error hu ?_
      rw [Fleet.recordHeartbeat_eq, hmissing]
      rfl
    refine ⟨.error e, id, Fleet.reportEffect_id nodeId, hrun p hp hfind, hrun q hq ?_⟩
    rw [← hfind, Fleet.findNode_congr hrow]
  | ok n =>
    have hrun (u : Panel) (hu : u.isOpen = true) (hfound : Fleet.findNode nodeId u.fleet = .ok n) :
        (transact (Fleet.recordHeartbeat now nodeId report)).on u =
          (.ok n.configRevision,
            { u with fleet := u.fleet.updateNode nodeId (Fleet.noteHeartbeat now report) }) := by
      refine on_transact_eq_ok.2 ⟨hu, _, ?_, rfl⟩
      rw [Fleet.recordHeartbeat_eq, hfound]
      rfl
    refine ⟨.ok n.configRevision, _, Fleet.reportEffect_noteHeartbeat nodeId now report,
      hrun p hp hfind, hrun q hq ?_⟩
    rw [← hfind, Fleet.findNode_congr hrow]

/-- A call of an agent has one answer and one effect, a report, on all panels with the same row of
its node. -/
theorem AgentCall.on_run (call : AgentCall) {settings settings' : Settings} {p q : Panel}
    (hbinary : settings.agentBinary = settings'.agentBinary) (htime : m₁.time = m₂.time)
    (hp : p.isOpen = true) (hq : q.isOpen = true)
    (hrow : p.fleet.node? nodeId = q.fleet.node? nodeId) :
    ∃ answer effect, Fleet.ReportEffect nodeId effect ∧
      (call.run settings m₁ r nodeId).on p = (answer, { p with fleet := effect p.fleet }) ∧
      (call.run settings' m₂ r nodeId).on q = (answer, { q with fleet := effect q.fleet }) := by
  cases call with
  | heartbeat report =>
    obtain ⟨answer, effect, heffect, hpon, hqon⟩ := on_recordHeartbeat m₁.time report hp hq hrow
    refine ⟨_, effect, heffect, on_bind_pure hpon _, ?_⟩
    rw [htime] at hqon
    exact on_bind_pure hqon _
  | config =>
    have hpon := on_read_of_open hp (Fleet.findNode nodeId)
    have hqon := on_read_of_open hq (Fleet.findNode nodeId)
    rw [← Fleet.findNode_congr hrow] at hqon
    exact ⟨_, id, Fleet.reportEffect_id nodeId, on_bind_pure hpon _, on_bind_pure hqon _⟩
  | binary =>
    refine ⟨binaryResponse settings r, id, Fleet.reportEffect_id nodeId, rfl, ?_⟩
    rw [binaryResponse_congr hbinary]
    rfl

namespace Server

variable {s t : Server}

/-- Two servers with open databases on which a request bears a valid token of the same node. They
may differ in all tables but for the row of the node, and in the settings but for the program of
the agents. -/
structure Shares (s t : Server) (nodeId : Int) (r : Http.Request) : Prop where
  left_open : s.panel.isOpen = true
  right_open : t.panel.isOpen = true
  left_agent : IsAgent s.panel nodeId r
  right_agent : IsAgent t.panel nodeId r
  agentBinary : s.settings.agentBinary = t.settings.agentBinary
  row : s.panel.fleet.node? nodeId = t.panel.fleet.node? nodeId

theorem Shares.matched_answerAgent (h : s.Shares t nodeId input.request)
    (hlimiter : s.limiter = t.limiter) (htime : m₁.time = m₂.time) (reading : Reading AgentCall) :
    Matched (Fleet.ReportEffect nodeId) s t (s.answerAgent m₁ reading input)
      (t.answerAgent m₂ reading input) := by
  have hs := on_checkAgent_of_isAgent h.left_open h.left_agent
  have ht := on_checkAgent_of_isAgent h.right_open h.right_agent
  cases hreading : reading input with
  | error e =>
    have hrefused (u : Server) (m : Moment)
        (hu : (checkAgent input.request).on u.panel = (.ok nodeId, u.panel)) :
        u.answerAgent m reading input = (errorResponse e, u) := by
      refine answerAgent_eq ((on_bind_of_ok hu).trans (on_bind_of_error ?_))
      rw [hreading]
      rfl
    rw [hrefused s m₁ hs, hrefused t m₂ ht]
    exact matched_of_same (Fleet.reportEffect_id nodeId) hlimiter _
  | ok call =>
    have hrun (u : Server) (m : Moment) {answer : Except Error Http.Response} {q : Panel}
        (hu : (checkAgent input.request).on u.panel = (.ok nodeId, u.panel))
        (hcall : (call.run u.settings m input.request nodeId).on u.panel = (answer, q)) :
        u.answerAgent m reading input = (reply answer, { u with panel := q }) := by
      refine answerAgent_eq ((on_bind_of_ok hu).trans ((on_bind_of_ok ?_).trans hcall))
      rw [hreading]
      rfl
    obtain ⟨answer, effect, heffect, hscall, htcall⟩ :=
      call.on_run h.agentBinary htime h.left_open h.right_open h.row
    rw [hrun s m₁ hs hscall, hrun t m₂ ht htcall]
    refine ⟨rfl, effect, s.limiter, heffect, rfl, ?_⟩
    rw [hlimiter]
    rfl

/-- On the paths of agents, two servers that share the row of a node give its agent the same answer
and have the same effect on that row. -/
theorem Shares.matched_handle (h : s.Shares t nodeId r) (hlimiter : s.limiter = t.limiter)
    (hclock : m₁.SameClock m₂) {rest : String} (hpath : r.path = "/api/agent/" ++ rest) :
    Matched (Fleet.ReportEffect nodeId) s t (s.handle m₁ r) (t.handle m₂ r) := by
  refine Server.matched_handle (Fleet.reportEffect_id nodeId) hlimiter ?_
  intro calls parameters hfound
  rw [hpath] at hfound
  obtain ⟨methods, rfl⟩ := forAgent_of_findRoute? hfound
  refine matched_answerRoute_forAgent (Fleet.reportEffect_id nodeId) hlimiter hclock ?_
  intro reading limiter
  apply Shares.matched_answerAgent
  · exact ⟨h.left_open, h.right_open, h.left_agent, h.right_agent, h.agentBinary, h.row⟩
  · rfl
  · exact hclock.time

/-- On the paths of the administrator, two servers with the same secret give all others the same
answer and are left as they are. -/
theorem matched_handle_of_not_isAdmin (hsecret : s.settings.secret = t.settings.secret)
    (hlimiter : s.limiter = t.limiter) (htime : m₁.time = m₂.time) (hadmin : ¬s.IsAdmin m₁ r)
    {rest : String} (hpath : r.path = "/api/admin/" ++ rest) :
    Matched NoEffect s t (s.handle m₁ r) (t.handle m₂ r) := by
  refine Server.matched_handle noEffect_id hlimiter ?_
  intro calls parameters hfound
  rw [hpath] at hfound
  obtain ⟨methods, rfl⟩ := forAdmin_of_findRoute? hfound
  dsimp only [answerRoute]
  cases readingOf? methods r.method with
  | none => exact matched_of_same noEffect_id hlimiter _
  | some reading => exact matched_answerAdmin noEffect_id hsecret hlimiter htime hadmin

/-- With its token, the agent of a node gets an answer that depends on the row of this node alone,
and changes nothing but the time of the last heartbeat, the applied revision and the error in that
row. On the paths of the administrator, the answer to whoever is not the administrator depends on no
table, and nothing is changed. -/
theorem agent_reaches_own_row (nodeId : Int) (hclock : m₁.SameClock m₂)
    (hlimiter : s.limiter = t.limiter) :
    (s.Shares t nodeId r → (∃ rest, r.path = "/api/agent/" ++ rest) →
      (s.handle m₁ r).1 = (t.handle m₂ r).1 ∧
      ∃ change : Node → Node, (∀ n : Node, n.DiffersByReport (change n)) ∧
        (s.handle m₁ r).2.panel =
          { s.panel with fleet := s.panel.fleet.updateNode nodeId change } ∧
        (t.handle m₂ r).2.panel =
          { t.panel with fleet := t.panel.fleet.updateNode nodeId change } ∧
        (s.handle m₁ r).2.jobs = s.jobs ∧ (t.handle m₂ r).2.jobs = t.jobs) ∧
    (¬s.IsAdmin m₁ r → s.settings.secret = t.settings.secret →
      (∃ rest, r.path = "/api/admin/" ++ rest) →
      (s.handle m₁ r).1 = (t.handle m₂ r).1 ∧
      (s.handle m₁ r).2.panel = s.panel ∧ (t.handle m₂ r).2.panel = t.panel ∧
      (s.handle m₁ r).2.jobs = s.jobs ∧ (t.handle m₂ r).2.jobs = t.jobs) := by
  constructor
  · rintro hshares ⟨rest, hpath⟩
    have hmatched := hshares.matched_handle hlimiter hclock hpath
    obtain ⟨effect, limiter, ⟨change, hchange, rfl⟩, hleft, hright⟩ := hmatched.servers
    refine ⟨hmatched.answer, change, hchange, ?_⟩
    rw [hleft, hright]
    exact ⟨rfl, rfl, rfl, rfl⟩
  · rintro hadmin hsecret ⟨rest, hpath⟩
    have hmatched := matched_handle_of_not_isAdmin hsecret hlimiter hclock.time hadmin hpath
    obtain ⟨hleft, hright⟩ := hmatched.unchanged
    refine ⟨hmatched.answer, ?_⟩
    rw [hleft, hright]
    exact ⟨rfl, rfl, rfl, rfl⟩

/-- A node with a token, beside another node that is the only member of a group. -/
def neighbours : List Event :=
  let now : Instant := ⟨0, 0⟩
  Panel.rotated ++ [.ask (.createNode now "" .standard
      ⟨"other", "", some "host", some 443, 1, 0, [], [], .manual, none, none⟩),
    .ask (.createGroup now ⟨"group", "", "", .weighted⟩), .ask (.addMember now 1 2)]

/-- The agent of the first node cannot tell whether there is a second one, neither by its
configuration nor by the list of nodes. -/
theorem agent_reaches_own_row_neighbours :
    let moment : Moment := ⟨⟨0, 0⟩, 0, ""⟩
    let s := plain ((Panel.fresh .silent).after Panel.rotated)
    let t := plain ((Panel.fresh .silent).after neighbours)
    let own := bearing "second" "/api/agent/config"
    let list := bearing "second" "/api/admin/nodes"
    t.panel.fleet ≠ s.panel.fleet ∧
      (s.handle moment own).1 = (t.handle moment own).1 ∧ (s.handle moment own).1.status = 200 ∧
      (s.handle moment list).1 = (t.handle moment list).1 ∧ (s.handle moment list).1.status = 401 ∧
      (t.handle moment list).2.panel = t.panel := by
  intro moment s t own list
  have hagent : ∀ u : Server, u.panel.fleet.authenticate "second" = some 1 →
      IsAgent u.panel 1 own := by
    intro u hu
    exact ⟨"second", by decide +kernel, hu⟩
  have hshares : s.Shares t 1 own :=
    { left_open := by decide +kernel
      right_open := by decide +kernel
      left_agent := hagent s (by decide +kernel)
      right_agent := hagent t (by decide +kernel)
      agentBinary := rfl
      row := by decide +kernel }
  have hadmin : ¬s.IsAdmin moment list := by
    rintro ⟨claims, hclaims⟩
    have hcheck : (s.checkAdmin moment list).toOption = none := by decide +kernel
    rw [hclaims] at hcheck
    cases hcheck
  have hclock : moment.SameClock moment := ⟨rfl, rfl⟩
  have hlimiter : s.limiter = t.limiter := rfl
  have hownPath : ∃ rest, own.path = "/api/agent/" ++ rest := ⟨"config", by decide⟩
  have hlistPath : ∃ rest, list.path = "/api/admin/" ++ rest := ⟨"nodes", by decide⟩
  obtain ⟨hown, -⟩ := (agent_reaches_own_row 1 hclock hlimiter).1 hshares hownPath
  obtain ⟨hlist, -, hpanel, -⟩ :=
    (agent_reaches_own_row 1 hclock hlimiter).2 hadmin rfl hlistPath
  exact ⟨by decide +kernel, hown, by decide +kernel, hlist, by decide +kernel, hpanel⟩

end Server

end Api

end NodeFleet
