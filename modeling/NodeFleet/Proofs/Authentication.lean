import Mathlib.Data.List.Induction
import NodeFleet.Proofs.Run

/-!
# Authentication by the history of a run

A value authenticates a node exactly if it is the one that was issued to the node last, and the
token was not revoked and the node not deleted since. In between stands the digest of the valid
token of a node: each event sets it, clears it or leaves it, as its answer tells. An installation
whose account is refused answers an error, but it has issued a token before.
-/

namespace NodeFleet

namespace Fleet

/-- The digest of the token of a node, while the token is valid. -/
def validDigest? (f : Fleet) (id : Int) : Option String :=
  ((f.token? id).filter fun t => t.revokedAt = none).map (·.digest)

variable {f f' : Fleet} {id n : Int} {d : Deed}

theorem Sound.token?_eq_some (h : Sound f) {t : Token} :
    f.token? n = some t ↔ t ∈ f.tokens ∧ t.nodeId = n :=
  find?_key_eq_some h.token_keys

theorem Sound.validDigest?_eq_some (h : Sound f) {digest : String} :
    f.validDigest? n = some digest ↔
      ∃ t ∈ f.tokens, t.nodeId = n ∧ t.revokedAt = none ∧ t.digest = digest := by
  simp only [validDigest?, Option.map_eq_some_iff, Option.filter_eq_some_iff, h.token?_eq_some,
    decide_eq_true_eq, and_assoc]

/-- A value authenticates the node whose valid token has its digest. -/
theorem Sound.authenticate_eq_some (h : Sound f) {value : String} :
    f.authenticate value = some n ↔ f.validDigest? n = some (tokenDigest value) := by
  rw [h.validDigest?_eq_some]
  simp only [authenticate, Option.map_eq_some_iff]
  constructor
  · rintro ⟨t, hfind, rfl⟩
    have ht := List.find?_some hfind
    simp only [decide_eq_true_eq] at ht
    exact ⟨t, List.mem_of_find?_eq_some hfind, rfl, ht.2, ht.1⟩
  · rintro ⟨t, ht, rfl, hvalid, hd⟩
    cases hfind : f.tokens.find? fun t => t.digest = tokenDigest value ∧ t.revokedAt = none with
    | none =>
      have := List.find?_eq_none.1 hfind t ht
      simp [hd, hvalid] at this
    | some u =>
      -- no other token has the digest
      have hu := List.find?_some hfind
      simp only [decide_eq_true_eq] at hu
      refine ⟨u, rfl, ?_⟩
      rw [h.token_inj (List.mem_of_find?_eq_some hfind) ht (hu.1.trans hd.symm)]

/-! ### Changes of the token of a node -/

theorem validDigest?_congr (h : f'.tokens = f.tokens) : f'.validDigest? n = f.validDigest? n := by
  rw [validDigest?, validDigest?, token?, token?, h]

theorem token?_putToken {t : Token} :
    (f.putToken t).token? n = if t.nodeId = n then some t else f.token? n :=
  find?_upsert n

theorem validDigest?_putToken {digest issuedAt : String} :
    (f.putToken ⟨id, digest, issuedAt, none⟩).validDigest? n =
      if id = n then some digest else f.validDigest? n := by
  unfold validDigest?
  rw [token?_putToken]
  split
  · rfl
  · rfl

theorem token?_updateValidToken {change : Token → Token}
    (hkey : ∀ t, (change t).nodeId = t.nodeId) :
    (f.updateValidToken id change).token? n =
      (f.token? n).map fun t => if t.nodeId = id ∧ t.revokedAt = none then change t else t := by
  unfold token? updateValidToken
  rw [List.find?_map]
  congr 2
  funext t
  simp only [Function.comp_apply]
  split
  · rw [hkey]
  · rfl

/-- The tokens of other nodes stay as they are. -/
theorem validDigest?_updateValidToken_of_ne {change : Token → Token}
    (hkey : ∀ t, (change t).nodeId = t.nodeId) (hne : id ≠ n) :
    (f.updateValidToken id change).validDigest? n = f.validDigest? n := by
  unfold validDigest?
  rw [token?_updateValidToken hkey]
  cases h : f.token? n with
  | none => rfl
  | some t =>
    have hid : t.nodeId = n := by simpa using List.find?_some h
    have hother : ¬(t.nodeId = id ∧ t.revokedAt = none) := fun hc => hne (hc.1.symm.trans hid)
    rw [Option.map_some, if_neg hother]

theorem validDigest?_rotateToken (h : Sound f) {now : Instant} {digest : String}
    (hvalid : ∃ t ∈ f.tokens, t.nodeId = id ∧ t.revokedAt = none) :
    (f.updateValidToken id fun t =>
        { t with digest := digest, issuedAt := now.toText }).validDigest? n =
      if id = n then some digest else f.validDigest? n := by
  split
  · next hid =>
    subst hid
    obtain ⟨t, ht, hid, hrevoked⟩ := hvalid
    unfold validDigest?
    rw [token?_updateValidToken, h.token?_eq_some.2 ⟨ht, hid⟩]
    · simp [hid, hrevoked]
    · exact fun _ => rfl
  · next hne => exact validDigest?_updateValidToken_of_ne (fun _ => rfl) hne

theorem validDigest?_revokeToken {now : Instant} :
    (f.updateValidToken id fun t => { t with revokedAt := some now.toText }).validDigest? n =
      if id = n then none else f.validDigest? n := by
  split
  · next hid =>
    subst hid
    unfold validDigest?
    rw [token?_updateValidToken]
    · cases h : f.token? id with
      | none => rfl
      | some t =>
        have hid : t.nodeId = id := by simpa using List.find?_some h
        by_cases hrevoked : t.revokedAt = none
        · simp [hid, hrevoked]
        · simp [hid, hrevoked]
    · exact fun _ => rfl
  · next hne => exact validDigest?_updateValidToken_of_ne (fun _ => rfl) hne

/-- A revoked token is not valid. -/
theorem validDigest?_of_revoked {t : Token} (ht : f.token? id = some t)
    (hrevoked : t.revokedAt.isSome) :
    f.validDigest? n = if id = n then none else f.validDigest? n := by
  split
  · next hid =>
    subst hid
    obtain ⟨at', hat⟩ := Option.isSome_iff_exists.1 hrevoked
    simp [validDigest?, ht, Option.filter_some, hat]
  · rfl

theorem validDigest?_withoutNode :
    (f.withoutNode id).validDigest? n = if id = n then none else f.validDigest? n := by
  have htoken : (f.withoutNode id).token? n = if id = n then none else f.token? n :=
    find?_filter_key id n
  unfold validDigest?
  rw [htoken]
  split
  · rfl
  · rfl

end Fleet

/-- Whether a deed is about the token of a node. -/
def Deed.touchesTokens : Deed → Prop
  | deleteNode _ | install _ | issueToken _ | rotateToken _ | revokeToken _ => True
  | _ => False

theorem Fleet.Write.tokens_eq {f f' : Fleet} {d : Deed} (h : Write d f f')
    (hd : ¬d.touchesTokens) : f'.tokens = f.tokens := by
  cases h with
  | deleteNode | install | refusedInstall | issueToken | rotateToken | revokeToken =>
    exact absurd trivial hd
  | same | createNode | updateNode | setEnabled | createGroup | updateGroup | deleteGroup
  | addMember | removeMember | assign | unassign | heartbeat | evaluate => rfl

/-! ### What answers tell about tokens -/

/-- What happens to the token of a node. -/
inductive TokenChange where
  /-- A token with the value is issued, in the place of any other one. -/
  | issued (id : Int) (value : String)
  /-- The token is revoked, or the node is deleted. -/
  | ended (id : Int)
  deriving DecidableEq, Repr

/-- What a successful answer tells about the token of a node. An installation has issued one, and so
has the creation of a node with an installation. -/
def Operation.tokenTold {α : Type} : Operation α → α → Option TokenChange
  | issueToken _ _ id, value => some (.issued id value)
  | rotateToken _ _ id, value => some (.issued id value)
  | installNode _ token _ node _ _, _ => some (.issued node.id token)
  | reinstall _ token _ id _, _ => some (.issued id token)
  | createNode _ token _ _, created =>
    created.install.map fun _ => .issued created.view.node.id token
  | revokeToken _ id, _ => some (.ended id)
  | deleteNode id, _ => some (.ended id)
  | _, _ => none

/-- The token that an installation issues before it calls the host. -/
def Operation.tokenTried {α : Type} (p : Panel) : Operation α → Option TokenChange
  | installNode _ token _ node _ _ => some (.issued node.id token)
  | reinstall _ token _ id _ => some (.issued id token)
  | createNode _ token _ _ => some (.issued (p.fleet.lastNode + 1) token)
  | _ => none

/-- What an operation does to the token of a node: what its answer tells, and if it has failed after
it has called the host, the token that was issued for that. -/
def Operation.tokenChange {α : Type} (op : Operation α) (p : Panel) : Option TokenChange :=
  match op.answer p with
  | .ok x => op.tokenTold x
  | .error _ => if p.shell.count < (op.after p).shell.count then op.tokenTried p else none

/-- The digest of the valid token of node `n` after a change. -/
def nextDigest (n : Int) (change : Option TokenChange) (old : Option String) : Option String :=
  match change with
  | some (.issued id value) => if id = n then some (tokenDigest value) else old
  | some (.ended id) => if id = n then none else old
  | none => old

namespace Operation

variable {α : Type} {op : Operation α} {p q : Panel}

theorem tokenChange_of_ok {x : α} (h : op.run.on p = (.ok x, q)) :
    op.tokenChange p = op.tokenTold x := by
  rw [tokenChange, (op.answer_of_on h).1]

theorem tokenChange_of_error {e : Error} (h : op.run.on p = (.error e, q)) :
    op.tokenChange p = if p.shell.count < q.shell.count then op.tokenTried p else none := by
  rw [tokenChange, (op.answer_of_on h).1, (op.answer_of_on h).2]

/-- An operation sets, clears or leaves the digest of the valid token of a node, as its answer tells
or its calls of the host. -/
def TellsToken (op : Operation α) (p : Panel) (n : Int) : Prop :=
  (op.after p).fleet.validDigest? n = nextDigest n (op.tokenChange p) (p.fleet.validDigest? n)

variable {n : Int}

theorem tellsToken_of_refused {e : Error} (h : op.run.on p = (.error e, p)) :
    op.TellsToken p n := by
  rw [TellsToken, tokenChange_of_error h, if_neg (Nat.lt_irrefl _), (op.answer_of_on h).2]
  rfl

theorem tellsToken_of_ok {x : α} (h : op.run.on p = (.ok x, q))
    (htold : q.fleet.validDigest? n = nextDigest n (op.tokenTold x) (p.fleet.validDigest? n)) :
    op.TellsToken p n := by
  rw [TellsToken, tokenChange_of_ok h, (op.answer_of_on h).2]
  exact htold

/-- A transaction changes the token of a node as it does when it succeeds, or not at all. -/
theorem tellsToken_of_transact {t : Transaction α}
    (hrun : op.run.on p = (Action.transact t).on p)
    (hok : ∀ x f, t p.fleet = .ok (x, f) →
      f.validDigest? n = nextDigest n (op.tokenTold x) (p.fleet.validDigest? n)) :
    op.TellsToken p n := by
  rcases Action.on_transact_cases t p with ⟨x, f, -, ht, hon⟩ | ⟨e, hon⟩
  · exact tellsToken_of_ok (hrun.trans hon) (hok x f ht)
  · exact tellsToken_of_refused (hrun.trans hon)

/-! #### Installations -/

/-- An operation that ends as an installation on a panel with the same tokens and the same shell
does, where what it answers tells of the token of the installation. -/
def InstallsAs (op : Operation α) (p : Panel) (nodeId : Int) (token : String) : Prop :=
  ∃ now config node target url m, node.id = nodeId ∧ m.shell = p.shell ∧
    m.fleet.tokens = p.fleet.tokens ∧
    ((∃ e q, (Action.installNode now token config node target url).on m = (.error e, q) ∧
      op.run.on p = (.error e, q)) ∨
    ∃ result q x, (Action.installNode now token config node target url).on m = (.ok result, q) ∧
      op.run.on p = (.ok x, q) ∧ op.tokenTold x = some (.issued nodeId token))

/-- An installation issues a token to its node, if it calls the host. -/
theorem InstallsAs.tellsToken {nodeId : Int} {token : String} (h : op.InstallsAs p nodeId token)
    (htried : op.tokenTried p = some (.issued nodeId token)) : op.TellsToken p n := by
  obtain ⟨now, config, node, target, url, m, rfl, hshell, htokens, hon⟩ := h
  have hold : m.fleet.validDigest? n = p.fleet.validDigest? n := Fleet.validDigest?_congr htokens
  have hissued (f : Fleet) (h : f.tokens =
      (m.fleet.putToken ⟨node.id, tokenDigest token, now.toText, none⟩).tokens) :
      f.validDigest? n =
        nextDigest n (some (.issued node.id token)) (p.fleet.validDigest? n) := by
    rw [Fleet.validDigest?_congr h, Fleet.validDigest?_putToken, hold]
    rfl
  rcases hon with ⟨e, q, hinstall, hrun⟩ | ⟨result, q, x, hinstall, hrun, htold⟩
  · rw [TellsToken, tokenChange_of_error hrun, (op.answer_of_on hrun).2]
    rcases Action.on_installNode_eq_error hinstall with rfl | ⟨-, rfl⟩
    · rw [hshell, if_neg (Nat.lt_irrefl _), hold]
      rfl
    · dsimp only
      rw [hshell, if_pos (Shell.count_lt_runInstall ..), htried]
      exact hissued _ rfl
  · obtain ⟨-, -, -, rfl⟩ := Action.on_installNode_eq_ok hinstall
    refine tellsToken_of_ok hrun ?_
    rw [htold]
    exact hissued _ rfl

/-- An operation that is an installation. -/
theorem installsAs_of_on {op : Operation InstallResult} {now : Instant} {token : String}
    {config : InstallConfig} {node : Node} {target : SshTarget} {url : String}
    (hrun : op.run.on p = (Action.installNode now token config node target url).on p)
    (htold : ∀ result, op.tokenTold result = some (.issued node.id token)) :
    op.InstallsAs p node.id token := by
  refine ⟨now, config, node, target, url, p, rfl, rfl, rfl, ?_⟩
  cases hon : (Action.installNode now token config node target url).on p with
  | mk answer q =>
    cases answer with
    | error e => exact .inl ⟨e, q, rfl, hrun.trans hon⟩
    | ok result => exact .inr ⟨result, q, result, rfl, hrun.trans hon, htold result⟩

theorem tellsToken_reinstall (now : Instant) (token : String) (config : InstallConfig) (id : Int)
    (r : InstallRequest) : (reinstall now token config id r).TellsToken p n := by
  rcases Action.on_reinstall_cases now token config id r p with
    ⟨e, hon⟩ | ⟨node, target, url, rfl, hon⟩
  · exact tellsToken_of_refused hon
  · have has : (reinstall now token config node.id r).InstallsAs p node.id token :=
      installsAs_of_on hon fun _ => rfl
    exact has.tellsToken rfl

/-- A new node has a token if there was an installation. -/
theorem tellsToken_createNode (now : Instant) (token : String) (config : InstallConfig)
    (r : CreateNode) : (createNode now token config r).TellsToken p n := by
  rcases Action.on_createNode_cases now token config r p with
    ⟨e, hon⟩ | ⟨d, -, -, ⟨view, -, hon⟩ | ⟨target, url, hinstall⟩⟩
  · exact tellsToken_of_refused hon
  · exact tellsToken_of_ok hon rfl
  · have has : (createNode now token config r).InstallsAs p (p.fleet.lastNode + 1) token := by
      refine ⟨now, config, d.toNode now (p.fleet.lastNode + 1), target, url,
        { p with fleet := p.fleet.withNode now d }, rfl, rfl, rfl, hinstall.imp_right ?_⟩
      rintro ⟨result, view, q, hok, hid, hon⟩
      refine ⟨result, q, _, hok, hon, ?_⟩
      rw [← hid]
      rfl
    exact has.tellsToken rfl

/-! #### All operations -/

/-- An operation that is not about tokens. -/
theorem tellsToken_of_quiet (hquiet : ∀ x, op.tokenTold x = none) (htried : op.tokenTried p = none)
    (hd : ∀ d, op.deeds d → ¬d.touchesTokens) : op.TellsToken p n := by
  have htokens : (op.after p).fleet.tokens = p.fleet.tokens :=
    (op.writes p).part_eq fun d _ _ hop hw => hw.tokens_eq (hd d hop)
  have hchange : op.tokenChange p = none := by
    rw [tokenChange, htried, ite_self]
    split
    · exact hquiet _
    · rfl
  rw [TellsToken, hchange, Fleet.validDigest?_congr htokens]
  rfl

theorem tellsToken (op : Operation α) (hs : p.fleet.Sound) (n : Int) : op.TellsToken p n := by
  cases op with
  | issueToken =>
    apply tellsToken_of_transact rfl
    intro value f hok
    obtain ⟨-, -, he⟩ := Fleet.issueToken_eq_ok.1 hok
    cases he
    exact Fleet.validDigest?_putToken
  | rotateToken =>
    apply tellsToken_of_transact rfl
    intro value f hok
    obtain ⟨hvalid, -, he⟩ := Fleet.rotateToken_eq_ok.1 hok
    cases he
    exact Fleet.validDigest?_rotateToken hs hvalid
  | revokeToken =>
    apply tellsToken_of_transact rfl
    intro outcome f hok
    obtain ⟨t, ht, he⟩ := Fleet.revokeToken_eq_ok.1 hok
    split at he
    · next hrevoked =>
      cases he
      exact Fleet.validDigest?_of_revoked ht hrevoked
    · cases he
      exact Fleet.validDigest?_revokeToken
  | deleteNode =>
    apply tellsToken_of_transact rfl
    intro job f hok
    obtain ⟨-, he⟩ := Fleet.deleteNode_eq_ok.1 hok
    cases he
    exact Fleet.validDigest?_withoutNode
  | installNode => exact (installsAs_of_on rfl fun _ => rfl).tellsToken rfl
  | reinstall now token config id r => exact tellsToken_reinstall now token config id r
  | createNode now token config r => exact tellsToken_createNode now token config r
  | updateNode | setEnabled | createGroup | updateGroup | deleteGroup | addMember | removeMember
  | assign | unassign | recordHeartbeat | applyEvaluation =>
    apply tellsToken_of_quiet (fun _ => rfl) rfl
    rintro d rfl
    exact not_false
  | reassign =>
    apply tellsToken_of_quiet (fun _ => rfl) rfl
    rintro d ⟨user, hu, id, rfl⟩
    exact not_false
  | reconcile =>
    apply tellsToken_of_quiet (fun _ => rfl) rfl
    rintro d ⟨id, rfl⟩
    exact not_false
  | getNode | findNode | listNodes | loadInstall | tokenInfo | authenticate | getGroup
  | listGroups | userCount | userCounts | statistics =>
    exact tellsToken_of_quiet (fun _ => rfl) rfl fun _ hd => hd.elim

end Operation

/-! ### The history of a run -/

/-- What an event does to the token of a node. -/
def Event.tokenChange : Event → Panel → Option TokenChange
  | ask op, p => op.tokenChange p
  | world _ _, _ => none

theorem Event.validDigest?_after (e : Event) {p : Panel} (hs : p.fleet.Sound) (n : Int) :
    (e.after p).fleet.validDigest? n =
      nextDigest n (e.tokenChange p) (p.fleet.validDigest? n) := by
  cases e with
  | world isOpen shell => rfl
  | ask op => exact op.tellsToken hs n

namespace Panel

/-- In a run from a panel, the value is the one that was issued to the node last, and the token was
not ended since. -/
def Holds (p : Panel) (run : List Event) (n : Int) (value : String) : Prop :=
  ∃ before e later, run = before ++ e :: later ∧
    e.tokenChange (p.after before) = some (.issued n value) ∧
    ∀ middle e' rest, later = middle ++ e' :: rest →
      let change := e'.tokenChange (p.after (before ++ e :: middle))
      (∀ w, change ≠ some (.issued n w)) ∧ change ≠ some (.ended n)

variable {p : Panel} {run : List Event} {n : Int} {value : String}

theorem not_holds_nil : ¬p.Holds [] n value := by
  rintro ⟨before, e, later, h, -⟩
  simp at h

/-- One more event issues the value, or leaves the one that is held. -/
theorem holds_concat {e : Event} :
    p.Holds (run ++ [e]) n value ↔
      e.tokenChange (p.after run) = some (.issued n value) ∨
        (p.Holds run n value ∧
          (∀ w, e.tokenChange (p.after run) ≠ some (.issued n w)) ∧
          e.tokenChange (p.after run) ≠ some (.ended n)) := by
  constructor
  · rintro ⟨before, e', later, h, hissued, hlater⟩
    rcases later.eq_nil_or_concat with rfl | ⟨later, e'', rfl⟩
    · obtain ⟨rfl, he⟩ := List.append_inj' h rfl
      cases he
      exact .inl hissued
    · rw [List.concat_eq_append, ← List.cons_append, ← List.append_assoc] at h
      obtain ⟨rfl, he⟩ := List.append_inj' h rfl
      cases he
      refine .inr ⟨⟨before, e', later, rfl, hissued, ?_⟩, ?_⟩
      · rintro middle e'' rest rfl
        exact hlater middle e'' (rest ++ [e]) (by simp)
      · exact hlater later e [] (by simp)
  · rintro (hissued | ⟨⟨before, e', later, rfl, hissued, hlater⟩, hlast⟩)
    · refine ⟨run, e, [], rfl, hissued, ?_⟩
      intro middle e' rest h
      simp at h
    · refine ⟨before, e', later ++ [e], by simp, hissued, ?_⟩
      intro middle e'' rest h
      rcases rest.eq_nil_or_concat with rfl | ⟨rest, e₁, rfl⟩
      · obtain ⟨rfl, he⟩ := List.append_inj' h rfl
        cases he
        exact hlast
      · rw [List.concat_eq_append, ← List.cons_append, ← List.append_assoc] at h
        obtain ⟨rfl, he⟩ := List.append_inj' h rfl
        exact hlater middle e'' rest rfl

/-- The digest in the tables is that of the value that the history tells. -/
theorem validDigest?_eq_some_iff (shell : Shell) (run : List Event) (n : Int) (digest : String) :
    ((fresh shell).after run).fleet.validDigest? n = some digest ↔
      ∃ value, (fresh shell).Holds run n value ∧ tokenDigest value = digest := by
  induction run using List.reverseRecOn with
  | nil =>
    have hnone : (fresh shell).fleet.validDigest? n = none := rfl
    simp [hnone, not_holds_nil]
  | append_singleton run e ih =>
    rw [after_concat, e.validDigest?_after (sound_fresh shell run)]
    simp only [holds_concat]
    cases e.tokenChange ((fresh shell).after run) with
    | none => simp [nextDigest, ih]
    | some change =>
      cases change with
      | issued id value =>
        by_cases hid : id = n
        · simp [nextDigest, hid]
        · simp [nextDigest, hid, ih]
      | ended id =>
        by_cases hid : id = n
        · simp [nextDigest, hid]
        · simp [nextDigest, hid, ih]

/-- What is held was issued. -/
theorem Holds.mem_collect (h : p.Holds run n value) :
    .issued n value ∈ p.collect Event.tokenChange run := by
  obtain ⟨before, e, later, rfl, hissued, -⟩ := h
  exact Panel.mem_collect hissued

/-- After any operations, a value authenticates a node exactly if it is the one that was issued to
the node last, and the token was not revoked and the node not deleted since; all other values
authenticate none. This is up to collisions of digests among the values that are looked at and those
that were issued. -/
theorem authenticate_eq_some_iff_holds (shell : Shell) (run : List Event) (used : String → Prop)
    (hdigest : ∀ v w, used v → used w → tokenDigest v = tokenDigest w → v = w)
    (hissued : ∀ n v,
      .issued n v ∈ (fresh shell).collect Event.tokenChange run → used v) :
    let f := ((fresh shell).after run).fleet
    (∀ v n, used v → (f.authenticate v = some n ↔ (fresh shell).Holds run n v)) ∧
    (∀ v, used v → (f.authenticate v = none ↔ ∀ n, ¬(fresh shell).Holds run n v)) ∧
    ∀ v w n, used v → used w → f.authenticate v = some n → f.authenticate w = some n → v = w := by
  intro f
  have hiff (v : String) (n : Int) (hv : used v) :
      f.authenticate v = some n ↔ (fresh shell).Holds run n v := by
    rw [(sound_fresh shell run).authenticate_eq_some, validDigest?_eq_some_iff]
    constructor
    · rintro ⟨w, hw, hd⟩
      exact hdigest w v (hissued n w hw.mem_collect) hv hd ▸ hw
    · intro hholds
      exact ⟨v, hholds, rfl⟩
  refine ⟨hiff, ?_, ?_⟩
  · intro v hv
    rw [Option.eq_none_iff_forall_ne_some]
    exact forall_congr' fun n => not_congr (hiff v n hv)
  · intro v w n hv hw hvn hwn
    rw [(sound_fresh shell run).authenticate_eq_some] at hvn hwn
    exact hdigest v w hv hw (Option.some.inj (hvn.symm.trans hwn))

/-- A node whose token is rotated. -/
def rotated : List Event :=
  let now : Instant := ⟨0, 0⟩
  [.ask (.createNode now "" .standard
      ⟨"node", "", some "host", some 443, 1, 0, [], [], .manual, none, none⟩),
    .ask (.issueToken now "first" 1),
    .ask (.rotateToken now "second" 1)]

/-- The second value is held, and the first one no more. -/
theorem holds_rotated :
    (fresh .silent).Holds rotated 1 "second" ∧ ∀ n, ¬(fresh .silent).Holds rotated n "first" := by
  have hne : tokenDigest "first" ≠ tokenDigest "second" := by decide +kernel
  have hchanges : (fresh .silent).collect Event.tokenChange rotated =
      [.issued 1 "first", .issued 1 "second"] := by decide +kernel
  obtain ⟨hsome, hnone, -⟩ := authenticate_eq_some_iff_holds .silent rotated
    (fun v => v = "first" ∨ v = "second")
    (by
      rintro v w (rfl | rfl) (rfl | rfl) h
      · rfl
      · exact absurd h hne
      · exact absurd h.symm hne
      · rfl)
    (by
      intro n v h
      rw [hchanges] at h
      simp only [List.mem_cons, TokenChange.issued.injEq, List.not_mem_nil, or_false] at h
      exact h.imp And.right And.right)
  exact ⟨(hsome "second" 1 (.inr rfl)).1 (by decide +kernel),
    (hnone "first" (.inl rfl)).1 (by decide +kernel)⟩

end Panel

end NodeFleet
