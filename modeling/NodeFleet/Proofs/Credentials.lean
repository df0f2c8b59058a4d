import NodeFleet.Proofs.Authentication
import NodeFleet.Proofs.Refusal

/-!
# Requests without credentials

What two servers do with one request is compared. The servers match in it as long as they answer
the same and their tables change by the same effect, which is one of those that are allowed. A
stranger, whose request bears neither a token of the administrator nor one of a node, is allowed no
effect but none, and so learns nothing of the tables.
-/

namespace NodeFleet.Api

open NodeFleet.Action

/-- The clocks show the same at two moments. The value of the next new token may differ. -/
structure Moment.SameClock (m₁ m₂ : Moment) : Prop where
  time : m₁.time = m₂.time
  reading : m₁.reading = m₂.reading

/-- A request bears a valid token of a node. -/
def IsAgent (p : Panel) (id : Int) (r : Http.Request) : Prop :=
  ∃ token, bearer r = .ok token ∧ p.fleet.authenticate token = some id

variable {m₁ m₂ : Moment} {r : Http.Request} {input : Input}

/-- Of the panel, a call without credentials tells whether the database is open. -/
theorem OpenCall.on_run_fst (settings : Settings) {p q : Panel} (hclock : m₁.SameClock m₂)
    (hopen : p.isOpen = q.isOpen) (call : OpenCall) :
    ((call.run settings m₁).on p).1 = ((call.run settings m₂).on q).1 := by
  cases call with
  | health =>
    change Except.ok _ = Except.ok _
    rw [hopen]
  | login user password =>
    dsimp only [run]
    rw [hclock.time]
    split
    · rfl
    · rfl

namespace Server

variable {s t : Server}

/-- A request bears a token of the administrator that is valid at a moment. -/
def IsAdmin (s : Server) (moment : Moment) (r : Http.Request) : Prop :=
  ∃ claims, s.checkAdmin moment r = .ok claims

/-! ### Credentials -/

/-- Who is the administrator depends on the secret and on the time. -/
theorem checkAdmin_congr (hsecret : s.settings.secret = t.settings.secret)
    (htime : m₁.time = m₂.time) (r : Http.Request) : s.checkAdmin m₁ r = t.checkAdmin m₂ r := by
  unfold checkAdmin
  rw [hsecret, htime]

theorem checkAdmin_of_not_isAdmin (h : ¬s.IsAdmin m₁ r) : ∃ e, s.checkAdmin m₁ r = .error e := by
  cases hcheck : s.checkAdmin m₁ r with
  | error e => exact ⟨e, rfl⟩
  | ok claims => exact absurd ⟨claims, hcheck⟩ h

theorem on_checkAgent_of_isAgent {p : Panel} {id : Int} (hopen : p.isOpen = true)
    (h : IsAgent p id r) : (checkAgent r).on p = (.ok id, p) := by
  obtain ⟨token, hbearer, hfound⟩ := h
  have hread : (read fun f => .ok (f.authenticate token)).on p = (.ok (some id), p) := by
    rw [on_read_of_open hopen, hfound]
  unfold checkAgent
  rw [hbearer, on_bind_of_ok (on_check _ _), on_bind_of_ok hread]
  rfl

/-- All panels refuse a stranger with the same error. -/
theorem on_checkAgent_of_not_isAgent (r : Http.Request) :
    ∃ e, ∀ p : Panel, p.isOpen = true → (∀ id, ¬IsAgent p id r) →
      (checkAgent r).on p = (.error e, p) := by
  unfold checkAgent
  cases hbearer : bearer r with
  | error e => exact ⟨e, fun _ _ _ => rfl⟩
  | ok token =>
    refine ⟨.unauthorized "Токен узла недействителен или отозван", ?_⟩
    intro p hopen hstranger
    have hnone : p.fleet.authenticate token = none := by
      rw [Option.eq_none_iff_forall_ne_some]
      intro id hid
      exact hstranger id ⟨token, hbearer, hid⟩
    have hread : (read fun f => .ok (f.authenticate token)).on p = (.ok none, p) := by
      rw [on_read_of_open hopen, hnone]
    rw [on_bind_of_ok (on_check _ _), on_bind_of_ok hread]
    rfl

/-! ### Servers that match -/

/-- The server with its tables changed by an effect, and with another limiter. -/
def changed (s : Server) (effect : Fleet → Fleet) (limiter : Limiter) : Server :=
  { s with panel := { s.panel with fleet := effect s.panel.fleet }, limiter := limiter }

/-- Two servers have answered the same, the tables of both have changed by one effect, which is
allowed, and their limiters are the same. Nothing else of them has changed. -/
structure Matched {α : Type} (allowed : (Fleet → Fleet) → Prop) (s t : Server)
    (a b : α × Server) : Prop where
  answer : a.1 = b.1
  servers : ∃ effect limiter, allowed effect ∧
    a.2 = s.changed effect limiter ∧ b.2 = t.changed effect limiter

variable {α : Type} {allowed : (Fleet → Fleet) → Prop} {a b : α × Server}

/-- Two servers that answer the same and stay as they are. -/
theorem matched_of_same (hid : allowed id) (hlimiter : s.limiter = t.limiter) (answer : α) :
    Matched allowed s t (answer, s) (answer, t) := by
  refine ⟨rfl, id, s.limiter, hid, rfl, ?_⟩
  rw [hlimiter]
  rfl

/-- That a request was counted changes the limiters only. -/
theorem matched_of_counted (s t : Server) (limiter : Limiter)
    (h : Matched allowed { s with limiter := limiter } { t with limiter := limiter } a b) :
    Matched allowed s t a b :=
  ⟨h.answer, h.servers⟩

theorem Matched.map {β : Type} (h : Matched allowed s t a b) (g : α → β) :
    Matched allowed s t (g a.1, a.2) (g b.1, b.2) :=
  ⟨congrArg g h.answer, h.servers⟩

/-- What a request that may change nothing does to the tables. -/
def NoEffect (effect : Fleet → Fleet) : Prop := effect = id

theorem noEffect_id : NoEffect id := rfl

/-- Servers that are allowed no effect stay as they are, but for the limiters. -/
theorem Matched.unchanged (h : Matched NoEffect s t a b) :
    a.2 = { s with limiter := a.2.limiter } ∧ b.2 = { t with limiter := a.2.limiter } := by
  obtain ⟨effect, limiter, rfl, ha, hb⟩ := h.servers
  rw [ha, hb]
  exact ⟨rfl, rfl⟩

/-! ### What the parts of a server do -/

theorem act_eq {α : Type} {action : Action α} {answer : Except Error α} {q : Panel}
    (h : action.on s.panel = (answer, q)) : s.act action = (answer, { s with panel := q }) := by
  unfold act
  rw [show action s.panel = (answer, q) from h]

theorem matched_answerOpen (hid : allowed id) (hsettings : s.settings = t.settings)
    (hlimiter : s.limiter = t.limiter) (hopen : s.panel.isOpen = t.panel.isOpen)
    (hclock : m₁.SameClock m₂) {reading : Reading OpenCall} :
    Matched allowed s t (s.answerOpen m₁ reading input) (t.answerOpen m₂ reading input) := by
  unfold answerOpen
  cases reading input with
  | error e => exact matched_of_same hid hlimiter _
  | ok call =>
    -- the call leaves either panel as it is
    have hstays (u : Server) (m : Moment) :
        u.act (call.run u.settings m) = (((call.run u.settings m).on u.panel).1, u) :=
      act_eq (Prod.ext rfl (OpenCall.on_run_snd call))
    have hsame := call.on_run_fst s.settings hclock hopen
    dsimp only
    rw [hstays, hstays, ← hsettings, hsame]
    exact matched_of_same hid hlimiter _

/-- Without a token of the administrator, neither server looks at anything but the token. -/
theorem matched_answerAdmin (hid : allowed id)
    (hsecret : s.settings.secret = t.settings.secret) (hlimiter : s.limiter = t.limiter)
    (htime : m₁.time = m₂.time) (hadmin : ¬s.IsAdmin m₁ input.request)
    {reading : Reading AdminCall} :
    Matched allowed s t (s.answerAdmin m₁ reading input) (t.answerAdmin m₂ reading input) := by
  obtain ⟨e, hs⟩ := checkAdmin_of_not_isAdmin hadmin
  have ht : t.checkAdmin m₂ input.request = .error e := by
    rw [← checkAdmin_congr hsecret htime, hs]
  unfold answerAdmin
  rw [hs, ht]
  exact matched_of_same hid hlimiter _

/-- An answer to an agent is what comes of the check of its token, the reading of its call and the
call, one after the other. -/
theorem answerAgent_eq {reading : Reading AgentCall} {answer : Except Error Http.Response}
    {q : Panel}
    (h : (do
      let id ← checkAgent input.request
      let call ← check (reading input)
      call.run s.settings m₁ input.request id).on s.panel = (answer, q)) :
    s.answerAgent m₁ reading input = (reply answer, { s with panel := q }) := by
  unfold answerAgent
  rw [act_eq h]

/-- Without the token of a node, neither server goes beyond the check. -/
theorem matched_answerAgent_of_not_isAgent (hid : allowed id) (hlimiter : s.limiter = t.limiter)
    (hs : s.panel.isOpen = true) (ht : t.panel.isOpen = true)
    (hagent : ∀ id, ¬IsAgent s.panel id input.request ∧ ¬IsAgent t.panel id input.request)
    {reading : Reading AgentCall} :
    Matched allowed s t (s.answerAgent m₁ reading input) (t.answerAgent m₂ reading input) := by
  obtain ⟨e, he⟩ := on_checkAgent_of_not_isAgent input.request
  have hrefused (u : Server) (m : Moment)
      (hu : (checkAgent input.request).on u.panel = (.error e, u.panel)) :
      u.answerAgent m reading input = (errorResponse e, u) :=
    answerAgent_eq (on_bind_of_error hu)
  rw [hrefused s m₁ (he s.panel hs fun id => (hagent id).1),
    hrefused t m₂ (he t.panel ht fun id => (hagent id).2)]
  exact matched_of_same hid hlimiter _

/-- The limiters let the same requests of agents through. -/
theorem matched_answerRoute_forAgent (hid : allowed id) (hlimiter : s.limiter = t.limiter)
    (hclock : m₁.SameClock m₂) {parameters : Parameters} {methods : Methods AgentCall}
    (hagent : ∀ reading limiter,
      Matched allowed { s with limiter := limiter } { t with limiter := limiter }
        (answerAgent { s with limiter := limiter } m₁ reading ⟨parameters, r⟩)
        (answerAgent { t with limiter := limiter } m₂ reading ⟨parameters, r⟩)) :
    Matched allowed s t (s.answerRoute m₁ r parameters (.forAgent methods))
      (t.answerRoute m₂ r parameters (.forAgent methods)) := by
  dsimp only [answerRoute, letThrough]
  rw [← hlimiter, ← hclock.reading]
  cases s.limiter.check m₁.reading (clientAddress r) with
  | mk admitted limiter =>
    have hrefused (response : Http.Response) :
        Matched allowed s t (response, { s with limiter := limiter })
          (response, { t with limiter := limiter }) := by
      refine matched_of_counted s t limiter (matched_of_same hid ?_ response)
      rfl
    cases admitted with
    | false => exact hrefused _
    | true =>
      dsimp only
      cases readingOf? methods r.method with
      | none => exact hrefused _
      | some reading => exact matched_of_counted s t limiter (hagent reading limiter)

/-- What is answered without a call is the same on all servers. -/
theorem matched_handle (hid : allowed id) (hlimiter : s.limiter = t.limiter)
    (hroute : ∀ calls parameters, findRoute? r.path = some (calls, parameters) →
      Matched allowed s t (s.answerRoute m₁ r parameters calls)
        (t.answerRoute m₂ r parameters calls)) :
    Matched allowed s t (s.handle m₁ r) (t.handle m₂ r) := by
  unfold handle
  dsimp only
  split
  · exact matched_of_same hid hlimiter _
  · cases hfound : findRoute? r.path with
    | none => exact matched_of_same hid hlimiter _
    | some found =>
      obtain ⟨calls, parameters⟩ := found
      exact (hroute calls parameters hfound).map _

/-! ### Strangers -/

/-- A request that bears neither a token of the administrator nor one of a node. -/
structure IsStranger (s : Server) (moment : Moment) (r : Http.Request) : Prop where
  not_isAdmin : ¬s.IsAdmin moment r
  not_isAgent : ∀ id, ¬IsAgent s.panel id r

/-- Two servers with the same settings and limiters and with open databases, whatever is in them
and whatever jobs wait. -/
structure Alike (s t : Server) : Prop where
  settings : s.settings = t.settings
  limiter : s.limiter = t.limiter
  left_open : s.panel.isOpen = true
  right_open : t.panel.isOpen = true

/-- On every route, two servers give a stranger the same answer and are left as they are. -/
theorem Alike.matched_answerRoute (h : s.Alike t) (hclock : m₁.SameClock m₂)
    (hs : s.IsStranger m₁ r) (ht : t.IsStranger m₂ r) (parameters : Parameters) (calls : Calls) :
    Matched NoEffect s t (s.answerRoute m₁ r parameters calls)
      (t.answerRoute m₂ r parameters calls) := by
  have hopen : s.panel.isOpen = t.panel.isOpen := h.left_open.trans h.right_open.symm
  cases calls with
  | forAll methods =>
    dsimp only [answerRoute]
    cases readingOf? methods r.method with
    | none => exact matched_of_same noEffect_id h.limiter _
    | some reading => exact matched_answerOpen noEffect_id h.settings h.limiter hopen hclock
  | forAdmin methods =>
    dsimp only [answerRoute]
    cases readingOf? methods r.method with
    | none => exact matched_of_same noEffect_id h.limiter _
    | some reading =>
      have hsecret := congrArg Settings.secret h.settings
      exact matched_answerAdmin noEffect_id hsecret h.limiter hclock.time hs.not_isAdmin
  | forAgent methods =>
    refine matched_answerRoute_forAgent noEffect_id h.limiter hclock ?_
    intro reading limiter
    apply matched_answerAgent_of_not_isAgent noEffect_id
    · rfl
    · exact h.left_open
    · exact h.right_open
    · intro id
      exact ⟨hs.not_isAgent id, ht.not_isAgent id⟩

theorem Alike.matched_handle (h : s.Alike t) (hclock : m₁.SameClock m₂) (hs : s.IsStranger m₁ r)
    (ht : t.IsStranger m₂ r) : Matched NoEffect s t (s.handle m₁ r) (t.handle m₂ r) := by
  refine Server.matched_handle noEffect_id h.limiter ?_
  intro calls parameters _
  exact h.matched_answerRoute hclock hs ht parameters calls

/-- The requests of strangers are answered the same by any two servers with the same settings,
clocks and limiters and open databases, whatever the databases hold, and leave the tables, what the
remote hosts were told, and the waiting jobs of both as they are. -/
theorem stranger_learns_nothing (h : s.Alike t) (hclock : m₁.SameClock m₂)
    (hs : s.IsStranger m₁ r) (ht : t.IsStranger m₂ r) :
    (s.handle m₁ r).1 = (t.handle m₂ r).1 ∧
    (s.handle m₁ r).2.panel = s.panel ∧ (s.handle m₁ r).2.jobs = s.jobs ∧
    (t.handle m₂ r).2.panel = t.panel ∧ (t.handle m₂ r).2.jobs = t.jobs ∧
    (s.handle m₁ r).2.limiter = (t.handle m₂ r).2.limiter := by
  have hmatched := h.matched_handle hclock hs ht
  obtain ⟨hleft, hright⟩ := hmatched.unchanged
  refine ⟨hmatched.answer, ?_, ?_, ?_, ?_, ?_⟩
  · rw [hleft]
  · rw [hleft]
  · rw [hright]
  · rw [hright]
  · rw [hright]

/-- A server without an agent's program, without jobs, and with a limit of one request. -/
def plain (panel : Panel) : Server :=
  ⟨⟨"secret", "admin", "", .standard, none⟩, panel, .fresh 1 1, []⟩

/-- A request that bears a token. -/
def bearing (token path : String) : Http.Request :=
  ⟨"GET", path, "", [("authorization", "Bearer " ++ token)], [], none⟩

/-- A value that was the token of a node before its rotation gets the same answer from the panel of
the node as from one without nodes. -/
theorem stranger_learns_nothing_rotated :
    let moment : Moment := ⟨⟨0, 0⟩, 0, ""⟩
    let s := plain (.fresh .silent)
    let t := plain ((Panel.fresh .silent).after Panel.rotated)
    let r := bearing "first" "/api/agent/config"
    t.panel.fleet ≠ s.panel.fleet ∧ (s.handle moment r).1 = (t.handle moment r).1 ∧
      (t.handle moment r).2.panel = t.panel := by
  intro moment s t r
  have hbearer : bearer r = .ok "first" := by decide +kernel
  have hcheck : (s.checkAdmin moment r).toOption = none := by decide +kernel
  have hadmin : ∀ u : Server, u.settings = s.settings → ¬u.IsAdmin moment r := by
    rintro u hsettings ⟨claims, hclaims⟩
    rw [checkAdmin_congr (congrArg Settings.secret hsettings) rfl r] at hclaims
    rw [hclaims] at hcheck
    cases hcheck
  have hagent : ∀ u : Server, u.panel.fleet.authenticate "first" = none →
      ∀ id, ¬IsAgent u.panel id r := by
    rintro u hnone id ⟨token, htoken, hid⟩
    cases hbearer.symm.trans htoken
    rw [hnone] at hid
    cases hid
  have hs : s.IsStranger moment r := ⟨hadmin s rfl, hagent s (by decide +kernel)⟩
  have ht : t.IsStranger moment r := ⟨hadmin t rfl, hagent t (by decide +kernel)⟩
  have halike : s.Alike t := ⟨rfl, rfl, rfl, by decide +kernel⟩
  obtain ⟨hresponse, -, -, hpanel, -⟩ := stranger_learns_nothing halike ⟨rfl, rfl⟩ hs ht
  exact ⟨by decide +kernel, hresponse, hpanel⟩

end Server

end NodeFleet.Api
