import Mathlib.Data.List.DropRight
import NodeFleet.Proofs.Address
import NodeFleet.Proofs.NodeRow
import NodeFleet.Proofs.Run
import NodeFleet.Proofs.TextColumn

/-!
# Stored values

What is stored passes its rule again unchanged: each rule takes its own results to themselves, and
the rows of nodes hold results of the rules only.
-/

namespace NodeFleet

namespace Text

/-! ### Trimming -/

/-- A trimmed text starts with no blank. -/
theorem trimStart_trimEnd {cs : List Char} (h : trimStart cs = cs) :
    trimStart (trimEnd cs) = trimEnd cs := by
  have hbeginning : trimEnd cs <+: cs := List.rdropWhile_prefix isBlank cs
  cases hcs : trimEnd cs with
  | nil => rfl
  | cons c front =>
    -- the first character is that of the whole text
    obtain ⟨rest, hrest⟩ := hbeginning
    rw [hcs] at hrest
    rw [← hrest, trimStart, List.cons_append] at h
    have hc : isBlank c = false := by
      have hhead := List.head?_dropWhile_not isBlank (c :: (front ++ rest))
      rwa [h] at hhead
    rw [trimStart, List.dropWhile_cons_of_neg (by simp [hc])]

theorem trimChars_trimChars (cs : List Char) : trimChars (trimChars cs) = trimChars cs := by
  have hstart : trimStart (trimStart cs) = trimStart cs := List.dropWhile_idempotent _ _
  have hend : trimEnd (trimEnd (trimStart cs)) = trimEnd (trimStart cs) :=
    List.rdropWhile_idempotent _ _
  unfold trimChars
  rw [trimStart_trimEnd hstart, hend]

@[simp] theorem trim_trim (s : String) : trim (trim s) = trim s := by
  unfold trim
  rw [String.toList_ofList, trimChars_trimChars]

/-! ### Ascending lists -/

theorem pairwise_insertAscending {s : String} {ts : List String} (h : ts.Pairwise (· < ·)) :
    (insertAscending s ts).Pairwise (· < ·) := by
  induction ts with
  | nil => exact List.pairwise_singleton _ _
  | cons t ts ih =>
    obtain ⟨ht, hts⟩ := List.pairwise_cons.1 h
    unfold insertAscending
    split
    · next hlt =>
      refine List.pairwise_cons.2 ⟨fun x hx => ?_, h⟩
      rcases List.mem_cons.1 hx with rfl | hx
      · exact hlt
      · exact String.lt_trans hlt (ht x hx)
    · next hnot =>
      split
      · exact h
      · next hne =>
        have hlt : t < s := by
          by_contra hts
          exact hne (String.le_antisymm (String.not_lt.1 hts) (String.not_lt.1 hnot))
        refine List.pairwise_cons.2 ⟨fun x hx => ?_, ih hts⟩
        rcases mem_insertAscending.1 hx with rfl | hx
        · exact hlt
        · exact ht x hx

theorem pairwise_ascending (ss : List String) : (ascending ss).Pairwise (· < ·) := by
  induction ss with
  | nil => exact .nil
  | cons s ss ih => exact pairwise_insertAscending ih

theorem ascending_of_pairwise {ss : List String} (h : ss.Pairwise (· < ·)) : ascending ss = ss := by
  induction ss with
  | nil => rfl
  | cons s ss ih =>
    obtain ⟨hs, hss⟩ := List.pairwise_cons.1 h
    change insertAscending s (ascending ss) = s :: ss
    rw [ih hss]
    cases ss with
    | nil => rfl
    | cons t ts => exact if_pos (hs t List.mem_cons_self)

end Text

/-! ### Rules -/

section Rules

variable {ε α : Type} {rule : α → Except ε α} {xs ys : List α}

/-- A rule that takes its own results to themselves. -/
def Settles (rule : α → Except ε α) : Prop := ∀ x y, rule x = .ok y → rule y = .ok y

/-- A condition leaves the values that it admits. -/
theorem settles_guard {p : α → Prop} [DecidablePred p] {e : α → ε} :
    Settles fun x => if p x then .ok x else .error (e x) := by
  intro x y h
  dsimp only at h ⊢
  split at h
  · next hp =>
    cases h
    exact if_pos hp
  · cases h

theorem of_mem_mapM (h : xs.mapM rule = .ok ys) : ∀ y ∈ ys, ∃ x ∈ xs, rule x = .ok y := by
  induction xs generalizing ys with
  | nil =>
    cases h
    intro y hy
    cases hy
  | cons x xs ih =>
    simp only [List.mapM_cons, Except.bind_eq_ok] at h
    obtain ⟨z, hz, zs, hzs, he⟩ := h
    cases he
    intro y hy
    rcases List.mem_cons.1 hy with rfl | hy
    · exact ⟨x, List.mem_cons_self, hz⟩
    · obtain ⟨x', hx', hrule⟩ := ih hzs y hy
      exact ⟨x', List.mem_cons_of_mem _ hx', hrule⟩

theorem mapM_of_fixed (h : ∀ x ∈ xs, rule x = .ok x) : xs.mapM rule = .ok xs := by
  induction xs with
  | nil => rfl
  | cons x xs ih =>
    rw [List.mapM_cons, h x List.mem_cons_self, ih fun y hy => h y (List.mem_cons_of_mem _ hy)]
    rfl

end Rules

theorem settles_list {ε : Type} {rule : String → Except ε String} (h : Settles rule) :
    Settles fun texts : List String => (texts.mapM rule).map Text.ascending := by
  intro texts result hresult
  dsimp only at hresult ⊢
  cases hmap : texts.mapM rule with
  | error e =>
    rw [hmap] at hresult
    cases hresult
  | ok written =>
    rw [hmap] at hresult
    cases hresult
    have hfixed : ∀ t ∈ Text.ascending written, rule t = .ok t := by
      intro t ht
      obtain ⟨s, -, hs⟩ := of_mem_mapM hmap t (Text.mem_ascending.1 ht)
      exact h s t hs
    rw [mapM_of_fixed hfixed]
    exact congrArg Except.ok (Text.ascending_of_pairwise (Text.pairwise_ascending written))

namespace Field

theorem settles_name : Settles name := by
  intro s t h
  unfold name at h ⊢
  dsimp only at h ⊢
  split at h
  · cases h
  · split at h
    · cases h
    · next hempty hlong =>
      cases h
      rw [Text.trim_trim, if_neg hempty, if_neg hlong]

theorem settles_address : Settles address := by
  intro s t h
  unfold address at h ⊢
  dsimp only at h ⊢
  split at h
  · cases h
  · split at h
    · cases h
    · next hempty hblank =>
      cases h
      rw [Text.trim_trim, if_neg hempty, if_neg hblank]

theorem settles_port : Settles port := settles_guard

theorem settles_weight : Settles weight := settles_guard

theorem settles_maxUsers : Settles maxUsers := settles_guard

theorem settles_tag : Settles tag := by
  intro s t h
  unfold tag at h ⊢
  dsimp only at h ⊢
  split at h
  · cases h
  · next hempty =>
    cases h
    rw [Text.trim_trim, if_neg hempty]

theorem settles_tags : Settles tags := settles_list settles_tag

end Field

theorem Network.settles_whitelist : Settles whitelist :=
  settles_list fun _ _ h => canonical_of_canonical h

/-! ### Rows -/

/-- A row whose values pass their rules unchanged. -/
structure Node.Canonical (n : Node) : Prop where
  name : Field.name n.name = .ok n.name
  region : Text.trim n.region = n.region
  address : Field.address n.address = .ok n.address
  port : Field.port n.port = .ok n.port
  weight : Field.weight n.weight = .ok n.weight
  maxUsers : Field.maxUsers n.maxUsers = .ok n.maxUsers
  tags : ∃ texts, Field.tags texts = .ok texts ∧ n.tags = columnOfTexts texts
  whitelist : ∃ entries, Network.whitelist entries = .ok entries ∧
    n.whitelist = columnOfTexts entries

/-- The address and the port of a request have passed their rules. -/
theorem CreateNode.endpoint_eq_ok {r : CreateNode} {address : String} {port : Int}
    (h : r.endpoint = .ok (address, port)) :
    (∃ given, Field.address given = .ok address) ∧ ∃ given, Field.port given = .ok port := by
  unfold endpoint at h
  split at h
  · split at h
    · cases h
    · cases h
    · simp only [Except.bind_eq_ok, Except.ok.injEq, Prod.mk.injEq] at h
      obtain ⟨_, haddress, _, hport, rfl, rfl⟩ := h
      exact ⟨⟨_, haddress⟩, _, hport⟩
  · split at h
    · cases h
    · simp only [Except.bind_eq_ok, Except.ok.injEq, Prod.mk.injEq] at h
      obtain ⟨_, haddress, _, hport, rfl, rfl⟩ := h
      exact ⟨⟨_, haddress⟩, _, hport⟩

theorem CreateNode.canonical_draft {r : CreateNode} {d : NodeDraft} (h : r.draft = .ok d)
    (now : Instant) (id : Int) : (d.toNode now id).Canonical := by
  simp only [draft, Except.bind_eq_ok, Except.ok.injEq] at h
  obtain ⟨name, hname, ⟨address, port⟩, hendpoint, weight, hweight, maxUsers, hmax, tags, htags,
    whitelist, hwhitelist, rfl⟩ := h
  obtain ⟨⟨_, haddress⟩, _, hport⟩ := endpoint_eq_ok hendpoint
  exact
    { name := Field.settles_name _ _ hname
      region := Text.trim_trim _
      address := Field.settles_address _ _ haddress
      port := Field.settles_port _ _ hport
      weight := Field.settles_weight _ _ hweight
      maxUsers := Field.settles_maxUsers _ _ hmax
      tags := ⟨tags, Field.settles_tags _ _ htags, rfl⟩
      whitelist := ⟨whitelist, Network.settles_whitelist _ _ hwhitelist, rfl⟩ }

namespace Fleet

/-- A field after a change keeps a property that all results of its rule have. -/
theorem patched_keeps {α β : Type} {rule : α → Except Error β} {P : β → Prop} {old new : β}
    {patch : Option α} (h : patched rule old patch = .ok new) (hold : P old)
    (hrule : ∀ x y, rule x = .ok y → P y) : P new := by
  cases patch with
  | none =>
    cases h
    exact hold
  | some x => exact hrule x new h

/-- A list of texts is stored as its rule gives it. -/
theorem patchedTexts_some_eq_ok {rule : List String → Except Error (List String)}
    {old given : List String} {column : String} {changed : Bool × String} :
    patchedTexts rule old column (some given) = .ok changed ↔
      ∃ new, rule given = .ok new ∧ (decide (new ≠ old), columnOfTexts new) = changed := by
  simp only [patchedTexts]
  cases rule given with
  | error e => simp [Except.map]
  | ok new => simp [Except.map]

/-- A column after a change holds texts that pass their rule unchanged. -/
theorem patchedTexts_keeps {rule : List String → Except Error (List String)} (hrule : Settles rule)
    {old : List String} {column : String} {patch : Option (List String)} {changed : Bool × String}
    (h : patchedTexts rule old column patch = .ok changed)
    (hold : ∃ texts, rule texts = .ok texts ∧ column = columnOfTexts texts) :
    ∃ texts, rule texts = .ok texts ∧ changed.2 = columnOfTexts texts := by
  cases patch with
  | none =>
    cases h
    exact hold
  | some given =>
    obtain ⟨new, hgiven, rfl⟩ := patchedTexts_some_eq_ok.1 h
    exact ⟨new, hrule given new hgiven, rfl⟩

theorem patchNode_canonical {now : Instant} {patch : NodePatch} {current : Nat} {n n' : Node}
    (h : patchNode now patch current n = .ok n') (hn : n.Canonical) : n'.Canonical := by
  obtain ⟨name, address, port, weight, maxUsers, tags, whitelist, hname, haddress, hport, hweight,
    hmax, htags, hwhitelist, rfl⟩ := patchNode_eq_ok.1 h
  have hregion : Text.trim ((patch.region.map Text.trim).getD n.region) =
      (patch.region.map Text.trim).getD n.region := by
    cases patch.region with
    | none => exact hn.region
    | some region => exact Text.trim_trim region
  have hlimit : Field.maxUsers maxUsers = .ok maxUsers := by
    refine patched_keeps (P := fun m => Field.maxUsers m = .ok m) hmax hn.maxUsers fun x y hxy => ?_
    simp only [Except.bind_eq_ok, Except.ok.injEq] at hxy
    obtain ⟨m, hm, -, -, rfl⟩ := hxy
    exact Field.settles_maxUsers x m hm
  exact
    { name := patched_keeps (P := fun s => Field.name s = .ok s) hname hn.name Field.settles_name
      region := hregion
      address := patched_keeps (P := fun s => Field.address s = .ok s) haddress hn.address
        Field.settles_address
      port := patched_keeps (P := fun m => Field.port m = .ok m) hport hn.port Field.settles_port
      weight := patched_keeps (P := fun m => Field.weight m = .ok m) hweight hn.weight
        Field.settles_weight
      maxUsers := hlimit
      tags := patchedTexts_keeps Field.settles_tags htags hn.tags
      whitelist := patchedTexts_keeps Network.settles_whitelist hwhitelist hn.whitelist }

end Fleet

theorem Node.Step.canonical {f : Fleet} {d : Deed} {n m : Node} (h : Node.Step f d n m)
    (hn : n.Canonical) : m.Canonical := by
  cases h with
  | update hpatch => exact Fleet.patchNode_canonical hpatch hn
  | @install _ failedStep =>
    cases failedStep with
    | none => exact ⟨hn.1, hn.2, hn.3, hn.4, hn.5, hn.6, hn.7, hn.8⟩
    | some step => exact ⟨hn.1, hn.2, hn.3, hn.4, hn.5, hn.6, hn.7, hn.8⟩
  | keep | enable | heartbeat | evaluate =>
    exact ⟨hn.1, hn.2, hn.3, hn.4, hn.5, hn.6, hn.7, hn.8⟩

/-- In every state, all rows are canonical. -/
theorem Panel.canonical_fresh (shell : Shell) (run : List Event) :
    ∀ n ∈ ((fresh shell).after run).fleet.nodes, n.Canonical := by
  refine ((fresh shell).writes_after run).keep (I := fun f => ∀ n ∈ f.nodes, n.Canonical) ?_ ?_
  · intro d f f' _ hw hf m hm
    cases hw.rowFrom hm with
    | step hn hstep => exact hstep.canonical (hf _ hn)
    | new hd => exact CreateNode.canonical_draft hd _ _
  · intro n hn
    cases hn

end NodeFleet
