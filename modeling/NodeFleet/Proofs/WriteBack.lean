import NodeFleet.Proofs.Canonical
import NodeFleet.Proofs.Capacity
import NodeFleet.Proofs.Failure
import NodeFleet.Proofs.Revision

/-!
# Writing back what was read

An update of a node that sets each field to the value it has changes nothing but the time of the
last change. There are two kinds of such updates: those with the values of the node's own view,
which are canonical, and those that were carried out already.
-/

namespace NodeFleet

/-- The changes that set each field to the value in a view. -/
def NodeView.toPatch (v : NodeView) : NodePatch where
  name := some v.node.name
  region := some v.node.region
  address := some v.node.address
  port := some v.node.port
  weight := some v.node.weight
  maxUsers := some v.node.maxUsers
  enabled := some v.node.enabled
  tags := some v.tags
  whitelist := some v.whitelist

/-- A row with a new time of its last change. -/
def Node.touched (n : Node) (now : Instant) : Node := { n with updatedAt := now.toText }

@[simp] theorem Node.touched_id (n : Node) (now : Instant) : (n.touched now).id = n.id := by
  -- By `rfl` the two rows would be compared as well, and with them the texts of two instants.
  simp only [touched]

namespace Fleet

variable {now later : Instant} {patch : NodePatch} {current : Nat} {n n' : Node} {f : Fleet}

/-- Changes that give each field the value that it has. -/
theorem patchNode_unchanged (hname : patched Field.name n.name patch.name = .ok n.name)
    (hregion : (patch.region.map Text.trim).getD n.region = n.region)
    (haddress : patched Field.address n.address patch.address = .ok n.address)
    (hport : patched Field.port n.port patch.port = .ok n.port)
    (hweight : patched Field.weight n.weight patch.weight = .ok n.weight)
    (hmax : patched (fun m => do
      let m ← Field.maxUsers m
      checkLimit m current
      .ok m) n.maxUsers patch.maxUsers = .ok n.maxUsers)
    (henabled : patch.enabled.getD n.enabled = n.enabled)
    (htags : patchedTexts Field.tags n.tagList n.tags patch.tags = .ok (false, n.tags))
    (hwhitelist : patchedTexts Network.whitelist n.whitelistEntries n.whitelist patch.whitelist
      = .ok (false, n.whitelist)) :
    patchNode now patch current n = .ok (n.touched now) := by
  refine patchNode_eq_ok.2 ⟨n.name, n.address, n.port, n.weight, n.maxUsers, (false, n.tags),
    (false, n.whitelist), hname, haddress, hport, hweight, hmax, htags, hwhitelist, ?_⟩
  simp [Node.touched, hregion, henabled]

/-! ### The same changes again -/

theorem patched_again {α β : Type} {rule : α → Except Error β} {old new : β} {patch : Option α}
    (h : patched rule old patch = .ok new) : patched rule new patch = .ok new := by
  cases patch with
  | none => rfl
  | some x => exact h

/-- A list of texts that is stored already is not told to differ. -/
theorem patchedTexts_again {rule : List String → Except Error (List String)} {old : List String}
    {column : String} {patch : Option (List String)} {changed : Bool × String}
    (h : patchedTexts rule old column patch = .ok changed) :
    patchedTexts rule (textsOfColumn changed.2) changed.2 patch = .ok (false, changed.2) := by
  cases patch with
  | none => rfl
  | some given =>
    obtain ⟨new, hgiven, rfl⟩ := patchedTexts_some_eq_ok.1 h
    refine patchedTexts_some_eq_ok.2 ⟨new, hgiven, ?_⟩
    simp

/-- Changes that were made are made again without effect. -/
theorem patchNode_again (h : patchNode now patch current n = .ok n') :
    patchNode later patch current n' = .ok (n'.touched later) := by
  obtain ⟨name, address, port, weight, maxUsers, tags, whitelist, hname, haddress, hport, hweight,
    hmax, htags, hwhitelist, rfl⟩ := patchNode_eq_ok.1 h
  refine patchNode_unchanged (patched_again hname) ?_ (patched_again haddress)
    (patched_again hport) (patched_again hweight) (patched_again hmax) ?_
    (patchedTexts_again htags) (patchedTexts_again hwhitelist)
  · cases patch.region with
    | none => rfl
    | some region => rfl
  · cases patch.enabled with
    | none => rfl
    | some enabled => rfl

/-! ### The values of the view -/

theorem patched_self {α : Type} {rule : α → Except Error α} {x : α} (h : rule x = .ok x) :
    patched rule x (some x) = .ok x :=
  h

/-- A column of texts that pass their rule unchanged is written back as it is. -/
theorem patchedTexts_self {rule : List String → Except Error (List String)} {column : String}
    (h : ∃ texts, rule texts = .ok texts ∧ column = columnOfTexts texts) :
    patchedTexts rule (textsOfColumn column) column (some (textsOfColumn column)) =
      .ok (false, column) := by
  obtain ⟨texts, hrule, rfl⟩ := h
  rw [textsOfColumn_columnOfTexts]
  refine patchedTexts_some_eq_ok.2 ⟨texts, hrule, ?_⟩
  simp

theorem patchNode_toPatch (hn : n.Canonical)
    (hlimit : 0 < n.maxUsers → (current : Int) ≤ n.maxUsers) (users : Int) (state : TokenState) :
    patchNode now (NodeView.of n users state).toPatch current n = .ok (n.touched now) := by
  have hregion : ((some n.region).map Text.trim).getD n.region = n.region := by
    rw [Option.map_some, Option.getD_some, hn.region]
  refine patchNode_unchanged (patched_self hn.name) hregion (patched_self hn.address)
    (patched_self hn.port) (patched_self hn.weight) (patched_self ?_) rfl
    (patchedTexts_self hn.tags) (patchedTexts_self hn.whitelist)
  refine Except.bind_eq_ok.2 ⟨n.maxUsers, hn.maxUsers, ?_⟩
  exact Except.bind_eq_ok.2 ⟨(), checkLimit_eq_ok.2 hlimit, rfl⟩

/-- Storing the row of a node with a new time of its last change. -/
theorem updateNode_touched (hs : Sound f) {id : Int} (hn : f.node? id = some n) :
    (f.updateNode id fun _ => n.touched now) = f.updateNode id fun m => m.touched now := by
  obtain ⟨hmem, hid⟩ := node?_eq_some hn
  refine congrArg (fun nodes => { f with nodes := nodes }) (List.map_congr_left fun m hm => ?_)
  split
  · next hmid => rw [hs.node_inj hm hmem (hmid.trans hid.symm)]
  · rfl

end Fleet

/-- An update that leaves all values of a row succeeds, and the time of its last change is new. -/
theorem Action.on_updateNode_of_touched {now : Instant} {id : Int} {patch : NodePatch} {p : Panel}
    {n : Node} (hopen : p.isOpen = true) (hs : p.fleet.Sound) (hn : p.fleet.node? id = some n)
    (hpatch : Fleet.patchNode now patch (p.fleet.userCount id) n = .ok (n.touched now)) :
    ∃ view, (updateNode now id patch).on p =
      (.ok view, { p with fleet := p.fleet.updateNode id fun m => m.touched now }) := by
  have hchange : (transact (Fleet.changeNode now id patch)).on p =
      (.ok (), { p with fleet := p.fleet.updateNode id fun m => m.touched now }) :=
    on_transact_eq_ok.2 ⟨hopen, _, Fleet.changeNode_eq_ok.2
      ⟨n, _, hn, hpatch, by rw [Fleet.updateNode_touched hs hn]⟩, rfl⟩
  obtain ⟨hmem, rfl⟩ := Fleet.node?_eq_some hn
  obtain ⟨view, hview, -⟩ : ∃ view, Fleet.getNode n.id
      (p.fleet.updateNode n.id fun m => m.touched now) = .ok view ∧ view.node.id = n.id :=
    Fleet.getNode_updateNode (fun m => m.touched_id now) hmem
  refine ⟨view, (on_bind_of_ok hchange).trans ?_⟩
  exact on_read_eq_ok.2 ⟨hopen, hview, rfl⟩

/-- An update that was carried out is carried out again, and nothing but the time of the last change
is new. -/
theorem Action.on_updateNode_again {earlier now : Instant} {id : Int} {patch : NodePatch}
    {p q : Panel} {first : NodeView} (hs : p.fleet.Sound)
    (h : (updateNode earlier id patch).on p = (.ok first, q)) :
    ∃ view, (updateNode now id patch).on q =
      (.ok view, { q with fleet := q.fleet.updateNode id fun m => m.touched now }) := by
  unfold updateNode at h
  obtain ⟨u, m, hchange, hread⟩ := on_bind_eq_ok.1 h
  obtain ⟨hopen, -, rfl⟩ := on_read_eq_ok.1 hread
  obtain ⟨-, f, hf, rfl⟩ := on_transact_eq_ok.1 hchange
  obtain ⟨n, n', hn, hpatch, he⟩ := Fleet.changeNode_eq_ok.1 hf
  cases he
  exact on_updateNode_of_touched hopen ((Fleet.Write.updateNode hn hpatch).sound hs)
    (Fleet.node?_of_patchNode hs hn hpatch) (Fleet.patchNode_again hpatch)

namespace Panel

/-- In every state, with the database open, a node can be updated to the values of its own view, and
nothing but the time of its last change is new. An update that succeeds succeeds again, and again
nothing but that time is new. -/
theorem write_back (shell : Shell) (run : List Event) (now : Instant) :
    let p := (fresh shell).after run
    (p.isOpen = true → ∀ n ∈ p.fleet.nodes, ∃ seen, (Operation.getNode n.id).answer p = .ok seen ∧
      ∃ view, (Operation.updateNode now n.id seen.toPatch).run.on p =
        (.ok view, { p with fleet := p.fleet.updateNode n.id fun m => m.touched now })) ∧
    ∀ earlier id patch first q,
      (Operation.updateNode earlier id patch).run.on p = (.ok first, q) →
      ∃ view, (Operation.updateNode now id patch).run.on q =
        (.ok view, { q with fleet := q.fleet.updateNode id fun m => m.touched now }) := by
  intro p
  have hs : p.fleet.Sound := sound_fresh shell run
  refine ⟨fun hopen n hn => ?_, fun _ _ _ _ _ h => Action.on_updateNode_again hs h⟩
  have hfind := hs.node?_eq hn
  have hget : Fleet.getNode n.id p.fleet = .ok (p.fleet.nodeView n) := by
    rw [Fleet.getNode, Fleet.findNode_eq_ok.2 hfind]
    rfl
  refine ⟨p.fleet.nodeView n, ?_, ?_⟩
  · exact (Operation.getNode n.id).answer_of_on (Action.on_read_eq_ok.2 ⟨hopen, hget, rfl⟩) |>.1
  · exact Action.on_updateNode_of_touched hopen hs hfind (Fleet.patchNode_toPatch
      (canonical_fresh shell run n hn) (withinLimits_fresh shell run n hn) _ _)

/-- A node of which a name and tags are given with blanks: what is seen of it can be written back,
and what renames it can be repeated. -/
theorem write_back_blanks :
    let now : Instant := ⟨0, 0⟩
    let later : Instant := ⟨60, 0⟩
    let run : List Event := [.ask (.createNode now "" .standard
      ⟨" node ", "", some "host", some 443, 1, 2, [" tag"], ["::1"], .manual, none, none⟩)]
    let rename : NodePatch := ⟨some " new ", none, none, none, none, none, none, none, none⟩
    let p := (fresh .silent).after run
    let q := (Operation.updateNode now 1 rename).after p
    (∃ seen view, seen.node.name = "node" ∧ (Operation.getNode 1).answer p = .ok seen ∧
      (Operation.updateNode later 1 seen.toPatch).run.on p =
        (.ok view, { p with fleet := p.fleet.updateNode 1 fun m => m.touched later })) ∧
    ∃ view, (q.fleet.node? 1).map (·.name) = some "new" ∧
      (Operation.updateNode later 1 rename).run.on q =
        (.ok view, { q with fleet := q.fleet.updateNode 1 fun m => m.touched later }) := by
  intro now later run rename p q
  have hopen : p.isOpen = true := by decide +kernel
  have hnode : ∃ n ∈ p.fleet.nodes, n.id = 1 := by decide +kernel
  have hseen : ((Operation.getNode 1).answer p).toOption.map (·.node.name) = some "node" := by
    decide +kernel
  have hrename : ∃ first, (Operation.updateNode now 1 rename).answer p = .ok first :=
    Except.exists_eq_ok (by decide +kernel)
  obtain ⟨hview, hagain⟩ := write_back .silent run later
  constructor
  · obtain ⟨n, hn, hid⟩ := hnode
    obtain ⟨seen, hget, view, hupdate⟩ := hview hopen n hn
    rw [hid] at hget hupdate
    rw [hget] at hseen
    exact ⟨seen, view, Option.some.inj hseen, hget, hupdate⟩
  · obtain ⟨first, hfirst⟩ := hrename
    have hon : (Operation.updateNode now 1 rename).run.on p = (.ok first, q) :=
      Prod.ext hfirst rfl
    obtain ⟨view, hupdate⟩ := hagain now 1 rename first q hon
    exact ⟨view, by decide +kernel, hupdate⟩

end Panel

end NodeFleet
