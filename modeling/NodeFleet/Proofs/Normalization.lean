import NodeFleet.Proofs.Composition
import NodeFleet.Proofs.Digits
import NodeFleet.Proofs.MarkOrder

/-!
# Texts in normal form

A text that is composed has the parts of the text it was composed from, up to the places of marks;
so composing it once more yields the text itself. Points keep the texts around them apart.
-/

namespace NodeFleet.Unicode

/-! ### One step of composing -/

/-- A character reaches the starter before the marks that were skipped. -/
def Reaches (skipped : List Char) (c : Char) : Prop :=
  ∀ d ∈ skipped.head?, combiningClass d < combiningClass c

/-- What composing makes of the next character, and of the text after it. -/
inductive ComposeStep (skipped : List Char) (c : Char) (cs : List Char) :
    Option Char → List Char → Prop
  | composed {s s' : Char} : compose? s c = some s' → Reaches skipped c →
      ComposeStep skipped c cs (some s) (composeFrom (some s') skipped cs)
  | starter {s : Char} : (Reaches skipped c → compose? s c = none) → combiningClass c = 0 →
      ComposeStep skipped c cs (some s) (s :: (skipped.reverse ++ composeFrom (some c) [] cs))
  | mark {s : Char} : (Reaches skipped c → compose? s c = none) → combiningClass c ≠ 0 →
      ComposeStep skipped c cs (some s) (composeFrom (some s) (c :: skipped) cs)
  | first : combiningClass c = 0 → ComposeStep skipped c cs none (composeFrom (some c) [] cs)
  | loose : combiningClass c ≠ 0 → ComposeStep skipped c cs none (c :: composeFrom none [] cs)

theorem composeFrom_none_cons (skipped : List Char) (c : Char) (cs : List Char) :
    composeFrom none skipped (c :: cs) =
      if combiningClass c = 0 then composeFrom (some c) [] cs else c :: composeFrom none [] cs := by
  rw [composeFrom.eq_def]
  simp only [Option.bind_none, ite_self]

/-- A character that reaches the last starter is composed with it. -/
theorem composeFrom_of_compose? {s s' c : Char} {skipped : List Char}
    (hreaches : Reaches skipped c) (h : compose? s c = some s') (cs : List Char) :
    composeFrom (some s) skipped (c :: cs) = composeFrom (some s') skipped cs := by
  cases skipped with
  | nil => simp [composeFrom, h]
  | cons d skipped =>
    have hlt : ¬ combiningClass c ≤ combiningClass d := Nat.not_le_of_lt (hreaches d rfl)
    simp [composeFrom, hlt, h]

/-- A character that is not composed with the last starter is the next one, or is skipped. -/
theorem composeFrom_of_not_compose? {s c : Char} {skipped : List Char}
    (h : Reaches skipped c → compose? s c = none) (cs : List Char) :
    composeFrom (some s) skipped (c :: cs) =
      if combiningClass c = 0 then s :: (skipped.reverse ++ composeFrom (some c) [] cs)
      else composeFrom (some s) (c :: skipped) cs := by
  cases skipped with
  | nil =>
    have hnone : compose? s c = none := h fun d hd => absurd hd (Option.not_mem_none d)
    simp [composeFrom, hnone]
  | cons d skipped =>
    by_cases hle : combiningClass c ≤ combiningClass d
    · simp [composeFrom, hle]
    · have hnone : compose? s c = none := h fun e he => by
        obtain rfl := Option.some.inj he
        exact Nat.lt_of_not_le hle
      simp [composeFrom, hle, hnone]

/-- A character is composed with the last starter, or is not where it reaches it. -/
theorem compose?_cases (s c : Char) (skipped : List Char) :
    (∃ s', Reaches skipped c ∧ compose? s c = some s') ∨
      (Reaches skipped c → compose? s c = none) := by
  by_cases hreaches : Reaches skipped c
  · cases h : compose? s c with
    | some s' => exact .inl ⟨s', hreaches, rfl⟩
    | none => exact .inr fun _ => rfl
  · exact .inr fun h => absurd h hreaches

theorem composeStep (starter : Option Char) (skipped : List Char) (c : Char) (cs : List Char) :
    ComposeStep skipped c cs starter (composeFrom starter skipped (c :: cs)) := by
  cases starter with
  | none =>
    rw [composeFrom_none_cons]
    split
    · next hc => exact .first hc
    · next hc => exact .loose hc
  | some s =>
    rcases compose?_cases s c skipped with ⟨s', hreaches, hs'⟩ | hnone
    · rw [composeFrom_of_compose? hreaches hs']
      exact .composed hs' hreaches
    · rw [composeFrom_of_not_compose? hnone]
      split
      · next hc => exact .starter hnone hc
      · next hc => exact .mark hnone hc

/-! ### Composing keeps the parts -/

/-- The skipped marks and the rest of a text in order. -/
structure Composing (skipped cs : List Char) : Prop where
  parts : ∀ c ∈ cs, IsPart c
  parts_skipped : ∀ d ∈ skipped, IsPart d
  marks : ∀ d ∈ skipped, combiningClass d ≠ 0
  descending : Descending skipped
  chain : cs.IsChain InOrder
  link : ∀ d ∈ skipped, ∀ c ∈ cs.head?, InOrder d c

theorem flatMap_parts_of_isPart {cs : List Char} (h : ∀ c ∈ cs, IsPart c) :
    cs.flatMap parts = cs := by
  induction cs with
  | nil => rfl
  | cons c cs ih =>
    rw [List.flatMap_cons, (h c List.mem_cons_self).parts,
      ih fun d hd => h d (List.mem_cons_of_mem _ hd)]
    rfl

theorem InOrder.trans {a b c : Char} (hb : combiningClass b ≠ 0) (hab : InOrder a b)
    (hbc : InOrder b c) : InOrder a c :=
  hbc.imp_right fun hle => Nat.le_trans (hab.resolve_left hb) hle

namespace Composing

theorem flatMap_parts_skipped {skipped cs : List Char} (h : Composing skipped cs) :
    skipped.reverse.flatMap Unicode.parts = skipped.reverse :=
  flatMap_parts_of_isPart fun d hd => h.parts_skipped d (List.mem_reverse.1 hd)

theorem restart {skipped cs : List Char} {c : Char} (h : Composing skipped (c :: cs)) :
    Composing [] cs where
  parts d hd := h.parts d (List.mem_cons_of_mem _ hd)
  parts_skipped _ hd := absurd hd List.not_mem_nil
  marks _ hd := absurd hd List.not_mem_nil
  descending := .nil
  chain := (List.isChain_cons.1 h.chain).2
  link _ hd := absurd hd List.not_mem_nil

/-- A mark that reaches the starter is of a higher class than all that were skipped. -/
theorem lt_of_reaches {skipped cs : List Char} {c : Char} (h : Composing skipped (c :: cs))
    (hreaches : Reaches skipped c) : ∀ d ∈ skipped, combiningClass d < combiningClass c := by
  intro d hd
  cases skipped with
  | nil => cases hd
  | cons e skipped =>
    have he : combiningClass e < combiningClass c := hreaches e rfl
    rcases List.mem_cons.1 hd with rfl | hd
    · exact he
    · exact Nat.lt_of_le_of_lt ((List.pairwise_cons.1 h.descending).1 d hd) he

theorem composed {skipped cs : List Char} {c : Char} (h : Composing skipped (c :: cs))
    (hreaches : Reaches skipped c) : Composing skipped cs where
  parts d hd := h.parts d (List.mem_cons_of_mem _ hd)
  parts_skipped := h.parts_skipped
  marks := h.marks
  descending := h.descending
  chain := (List.isChain_cons.1 h.chain).2
  link d hd e he := by
    have hlt : combiningClass d < combiningClass c := h.lt_of_reaches hreaches d hd
    have hnext : InOrder c e := (List.isChain_cons.1 h.chain).1 e he
    exact InOrder.trans (by omega) (.inr (Nat.le_of_lt hlt)) hnext

theorem mark {skipped cs : List Char} {c : Char} (h : Composing skipped (c :: cs))
    (hc : combiningClass c ≠ 0) : Composing (c :: skipped) cs where
  parts d hd := h.parts d (List.mem_cons_of_mem _ hd)
  parts_skipped := List.forall_mem_cons.2 ⟨h.parts c List.mem_cons_self, h.parts_skipped⟩
  marks := List.forall_mem_cons.2 ⟨hc, h.marks⟩
  descending :=
    List.pairwise_cons.2 ⟨fun d hd => (h.link d hd c rfl).resolve_left hc, h.descending⟩
  chain := (List.isChain_cons.1 h.chain).2
  link d hd e he := by
    have hnext : InOrder c e := (List.isChain_cons.1 h.chain).1 e he
    rcases List.mem_cons.1 hd with rfl | hd
    · exact hnext
    · exact InOrder.trans hc (h.link d hd c rfl) hnext

/-- A mark that is composed with the starter changes places with those that were skipped. -/
theorem pass {skipped cs : List Char} {c : Char} (h : Composing skipped (c :: cs))
    (hreaches : Reaches skipped c) :
    Reordered (c :: (skipped.reverse ++ cs)) (skipped.reverse ++ c :: cs) := by
  cases skipped with
  | nil => exact .refl _
  | cons e skipped =>
    have hlt := h.lt_of_reaches hreaches
    have hc : combiningClass c ≠ 0 := Nat.ne_of_gt (Nat.zero_lt_of_lt (hlt e List.mem_cons_self))
    refine .pass hc (fun d hd => ?_) cs
    have hd' := List.mem_reverse.1 hd
    exact ⟨h.marks d hd', Nat.ne_of_lt (hlt d hd')⟩

end Composing

/-- Taken apart, a composed text has the parts it was composed from, up to the places of marks. -/
theorem reordered_composeFrom {starter : Option Char} {skipped cs : List Char}
    (h : Composing skipped cs) (hstarter : starter = none → skipped = []) :
    Reordered ((composeFrom starter skipped cs).flatMap parts)
      (starter.toList.flatMap parts ++ (skipped.reverse ++ cs)) := by
  induction cs generalizing starter skipped with
  | nil =>
    rw [composeFrom, List.flatMap_append, h.flatMap_parts_skipped, List.append_nil]
    exact .refl _
  | cons c cs ih =>
    have hpart : parts c = [c] := (h.parts c List.mem_cons_self).parts
    have hstep := composeStep starter skipped c cs
    generalize composeFrom starter skipped (c :: cs) = out at hstep
    cases hstep with
    | @composed s s' hcomposed hreaches =>
      have hrest := @ih (some s') _ (h.composed hreaches) fun hnone => nomatch hnone
      refine .trans hrest ?_
      simp only [Option.toList_some, List.flatMap_cons, List.flatMap_nil, List.append_nil,
        parts_of_compose? hcomposed, List.append_assoc]
      exact (h.pass hreaches).append_left _
    | @starter s _ hc =>
      have hrest := @ih (some c) _ h.restart fun hnone => nomatch hnone
      rw [List.flatMap_cons, List.flatMap_append, h.flatMap_parts_skipped]
      simp only [Option.toList_some, List.flatMap_cons, List.flatMap_nil, List.append_nil, hpart,
        List.reverse_nil, List.nil_append, List.singleton_append] at hrest ⊢
      exact (hrest.append_left _).append_left _
    | @mark s _ hc =>
      have hrest := @ih (some s) _ (h.mark hc) fun hnone => nomatch hnone
      rwa [List.reverse_cons, List.append_assoc] at hrest
    | first hc =>
      have hrest := @ih (some c) _ h.restart fun hnone => nomatch hnone
      rw [hstarter rfl]
      simpa only [Option.toList_some, Option.toList_none, List.flatMap_cons, List.flatMap_nil,
        List.append_nil, hpart, List.reverse_nil, List.nil_append,
        List.singleton_append] using hrest
    | loose hc =>
      have hrest := @ih none _ h.restart fun _ => rfl
      rw [hstarter rfl, List.flatMap_cons, hpart]
      exact .cons c hrest

/-! ### The normal form -/

/-- A text taken apart, put into order and composed. -/
def canonical (cs : List Char) : List Char := composeFrom none [] (orderMarks [] (cs.flatMap parts))

theorem normalize_eq (cs : List Char) :
    normalize cs = if cs.all (·.toNat < 0x300) then cs else canonical cs := rfl

theorem reordered_parts (cs : List Char) :
    Reordered (orderMarks [] (cs.flatMap parts)) (cs.flatMap parts) :=
  reordered_orderMarks (fun _ hd => absurd hd List.not_mem_nil) _

theorem composing_parts (cs : List Char) : Composing [] (orderMarks [] (cs.flatMap parts)) where
  parts d hd := by
    obtain ⟨c, -, hd⟩ := List.mem_flatMap.1 (((reordered_parts cs).mem_iff d).1 hd)
    exact isPart_of_mem_parts hd
  parts_skipped _ hd := absurd hd List.not_mem_nil
  marks _ hd := absurd hd List.not_mem_nil
  descending := .nil
  chain := isChain_orderMarks .nil _
  link _ hd := absurd hd List.not_mem_nil

/-- Composing a composed text makes no difference. -/
theorem canonical_canonical (cs : List Char) : canonical (canonical cs) = canonical cs := by
  have hnone : (none : Option Char) = none → ([] : List Char) = [] := fun _ => rfl
  have hsame : Reordered ((canonical cs).flatMap parts) (cs.flatMap parts) :=
    (reordered_composeFrom (composing_parts cs) hnone).trans (reordered_parts cs)
  exact congrArg (composeFrom none []) (orderMarks_congr hsame [])

theorem orderMarks_of_starters {cs : List Char} (h : ∀ c ∈ cs, combiningClass c = 0) :
    orderMarks [] cs = cs := by
  induction cs with
  | nil => rfl
  | cons c cs ih =>
    obtain ⟨hc, hrest⟩ := List.forall_mem_cons.1 h
    rw [orderMarks, if_pos hc, ih hrest]
    rfl

theorem composeFrom_of_starters {cs : List Char}
    (h : ∀ c ∈ cs, combiningClass c = 0 ∧ ∀ s, compose? s c = none) (starter : Option Char) :
    composeFrom starter [] cs = starter.toList ++ cs := by
  induction cs generalizing starter with
  | nil => rw [composeFrom, List.reverse_nil]
  | cons c cs ih =>
    obtain ⟨⟨hc, hnone⟩, hrest⟩ := List.forall_mem_cons.1 h
    have hnext := ih hrest (some c)
    have hstep := composeStep starter [] c cs
    generalize composeFrom starter [] (c :: cs) = out at hstep
    cases hstep with
    | @composed s s' hcomposed _ =>
      rw [hnone s] at hcomposed
      cases hcomposed
    | starter => rw [hnext]; rfl
    | mark _ hmark => exact absurd hc hmark
    | first => rw [hnext]; rfl
    | loose hmark => exact absurd hc hmark

/-- A text of starters that are neither composites nor composed with what is before them is in
normal form. -/
theorem canonical_of_starters {cs : List Char}
    (h : ∀ c ∈ cs, IsPart c ∧ combiningClass c = 0 ∧ ∀ s, compose? s c = none) :
    canonical cs = cs := by
  rw [canonical, flatMap_parts_of_isPart fun c hc => (h c hc).1,
    orderMarks_of_starters fun c hc => (h c hc).2.1,
    composeFrom_of_starters fun c hc => (h c hc).2]
  rfl

theorem normalize_of_starters {cs : List Char}
    (h : ∀ c ∈ cs, IsPart c ∧ combiningClass c = 0 ∧ ∀ s, compose? s c = none) :
    normalize cs = cs := by
  rw [normalize_eq]
  split
  · rfl
  · exact canonical_of_starters h

theorem normalize_of_ascii {cs : List Char} (h : ∀ c ∈ cs, c.toNat < 0x80) :
    normalize cs = cs := by
  rw [normalize_eq]
  refine if_pos (List.all_eq_true.2 fun c hc => decide_eq_true ?_)
  have := h c hc
  omega

theorem canonical_of_ascii {cs : List Char} (h : ∀ c ∈ cs, c.toNat < 0x80) :
    canonical cs = cs := by
  refine canonical_of_starters fun c hc => ⟨isPart_of_ascii (h c hc), ?_, fun s => ?_⟩
  · refine combiningClass_of_lt ?_
    have := h c hc
    omega
  · refine Option.eq_none_iff_forall_ne_some.2 fun d hd => ?_
    exact Nat.not_le_of_lt (h c hc) (ge_of_compose? hd).2.1

/-! ### Points -/

theorem combiningClass_point : combiningClass '.' = 0 := combiningClass_of_lt (by decide)

/-- A point is composed with nothing after it. -/
theorem composeFrom_point (skipped cs : List Char) :
    composeFrom (some '.') skipped cs = '.' :: (skipped.reverse ++ composeFrom none [] cs) := by
  induction cs generalizing skipped with
  | nil =>
    rw [composeFrom, composeFrom, Option.toList_none, List.reverse_nil, List.append_nil,
      List.append_nil]
    rfl
  | cons c cs ih =>
    rw [composeFrom_none_cons]
    have hstep := composeStep (some '.') skipped c cs
    generalize composeFrom (some '.') skipped (c :: cs) = out at hstep
    cases hstep with
    | composed hcomposed => exact absurd rfl (ge_of_compose? hcomposed).1
    | starter _ hc => rw [if_pos hc]
    | mark _ hc => rw [if_neg hc, ih, List.reverse_cons, List.append_assoc, List.singleton_append]

/-- Nothing is composed across a point. -/
theorem composeFrom_append_point {starter : Option Char} {skipped : List Char}
    (hstarter : starter = none → skipped = []) (cs ds : List Char) :
    composeFrom starter skipped (cs ++ '.' :: ds) =
      composeFrom starter skipped cs ++ '.' :: composeFrom none [] ds := by
  induction cs generalizing starter skipped with
  | nil =>
    rw [List.nil_append, composeFrom.eq_def starter skipped []]
    have hstep := composeStep starter skipped '.' ds
    generalize composeFrom starter skipped ('.' :: ds) = out at hstep
    cases hstep with
    | composed hcomposed => exact absurd (ge_of_compose? hcomposed).2.1 (by decide)
    | starter =>
      rw [composeFrom_point]
      simp
    | mark _ hc => exact absurd combiningClass_point hc
    | first =>
      rw [hstarter rfl, composeFrom_point]
      rfl
    | loose hc => exact absurd combiningClass_point hc
  | cons c cs ih =>
    cases starter with
    | none =>
      rw [List.cons_append, composeFrom_none_cons, composeFrom_none_cons]
      split
      · exact ih fun _ => rfl
      · rw [ih fun _ => rfl, List.cons_append]
    | some s =>
      rw [List.cons_append]
      rcases compose?_cases s c skipped with ⟨s', hreaches, hs'⟩ | hnone
      · rw [composeFrom_of_compose? hreaches hs', composeFrom_of_compose? hreaches hs']
        exact ih fun hnone => nomatch hnone
      · rw [composeFrom_of_not_compose? hnone, composeFrom_of_not_compose? hnone]
        split
        · rw [ih fun _ => rfl, List.cons_append, List.append_assoc]
        · exact ih fun hnone => nomatch hnone

theorem canonical_append_point (cs ds : List Char) :
    canonical (cs ++ '.' :: ds) = canonical cs ++ '.' :: canonical ds := by
  have hpoint : parts '.' = ['.'] := (isPart_of_ascii (by decide)).parts
  rw [canonical, List.flatMap_append, List.flatMap_cons, hpoint, List.singleton_append,
    orderMarks_append_starter combiningClass_point, composeFrom_append_point fun _ => rfl]
  rfl

/-- The normal form of a text ends in what is ASCII after a point. -/
theorem exists_normalize_append_point {ds : List Char} (h : ∀ d ∈ ds, d.toNat < 0x80)
    (cs : List Char) : ∃ front, normalize (cs ++ '.' :: ds) = front ++ '.' :: ds := by
  rw [normalize_eq]
  split
  · exact ⟨cs, rfl⟩
  · rw [canonical_append_point, canonical_of_ascii h]
    exact ⟨canonical cs, rfl⟩

/-! ### The characters of the normal form -/

/-- What passes to composites from their parts holds of all characters of a composed text. -/
theorem forall_mem_composeFrom {P : Char → Prop}
    (hcompose : ∀ a b c, P a → P b → compose? a b = some c → P c) {starter : Option Char}
    {skipped cs : List Char} (hstarter : ∀ s ∈ starter, P s) (hskipped : ∀ d ∈ skipped, P d)
    (hcs : ∀ c ∈ cs, P c) : ∀ c ∈ composeFrom starter skipped cs, P c := by
  induction cs generalizing starter skipped with
  | nil =>
    intro c hc
    rw [composeFrom, List.mem_append, Option.mem_toList, List.mem_reverse] at hc
    exact hc.elim (hstarter c) (hskipped c)
  | cons c cs ih =>
    obtain ⟨hc, hrest⟩ := List.forall_mem_cons.1 hcs
    have hnil : ∀ d ∈ ([] : List Char), P d := fun d hd => nomatch hd
    have hstep := composeStep starter skipped c cs
    generalize composeFrom starter skipped (c :: cs) = out at hstep
    cases hstep with
    | @composed s s' hcomposed _ =>
      have hs' : P s' := hcompose s c s' (hstarter s rfl) hc hcomposed
      exact ih (fun d hd => Option.some.inj hd ▸ hs') hskipped hrest
    | @starter s =>
      have hnext : ∀ d ∈ composeFrom (some c) [] cs, P d :=
        ih (fun d hd => Option.some.inj hd ▸ hc) hnil hrest
      refine List.forall_mem_cons.2 ⟨hstarter s rfl, List.forall_mem_append.2 ⟨?_, hnext⟩⟩
      exact fun d hd => hskipped d (List.mem_reverse.1 hd)
    | mark => exact ih hstarter (List.forall_mem_cons.2 ⟨hc, hskipped⟩) hrest
    | first => exact ih (fun d hd => Option.some.inj hd ▸ hc) hnil hrest
    | loose => exact List.forall_mem_cons.2 ⟨hc, ih hstarter hnil hrest⟩

/-- What passes from composites to their parts and back holds of all characters of a normal form. -/
theorem forall_mem_canonical {P : Char → Prop} {cs : List Char}
    (hparts : ∀ c ∈ cs, ∀ d ∈ parts c, P d)
    (hcompose : ∀ a b c, P a → P b → compose? a b = some c → P c) : ∀ c ∈ canonical cs, P c := by
  refine forall_mem_composeFrom hcompose (fun _ hs => nomatch hs) (fun _ hd => nomatch hd) ?_
  intro d hd
  obtain ⟨c, hc, hd⟩ := List.mem_flatMap.1 (((reordered_parts cs).mem_iff d).1 hd)
  exact hparts c hc d hd

/-- Composing valid characters yields valid ones. -/
theorem hostStatus_of_mem_canonical {cs : List Char} (h : ∀ c ∈ cs, hostStatus c = .valid) :
    ∀ c ∈ canonical cs, hostStatus c = .valid :=
  forall_mem_canonical (fun c hc _ hd => hostStatus_of_mem_parts (h c hc) hd)
    fun _ _ _ => hostStatus_of_compose?

theorem hostStatus_of_mem_normalize {cs : List Char} (h : ∀ c ∈ cs, hostStatus c = .valid) :
    ∀ c ∈ normalize cs, hostStatus c = .valid := by
  rw [normalize_eq]
  split
  · exact h
  · exact hostStatus_of_mem_canonical h

theorem point_not_mem_canonical {cs : List Char} (h : '.' ∉ cs) : '.' ∉ canonical cs := by
  intro hmem
  refine forall_mem_canonical (P := (· ≠ '.')) ?_ ?_ '.' hmem rfl
  · rintro c hc d hd rfl
    exact h (eq_point_of_mem_parts hd ▸ hc)
  · rintro a b c - - hcompose rfl
    exact absurd (ge_of_compose? hcompose).2.2 (by decide)

/-- The pieces of a normal form are in normal form. -/
theorem canonical_of_mem_splitAll {piece cs : List Char}
    (h : piece ∈ Text.splitAll '.' (canonical cs)) : canonical piece = piece := by
  induction cs using Text.piece_induction '.' with
  | last first hfirst =>
    rw [Text.splitAll_of_not_mem (point_not_mem_canonical hfirst), List.mem_singleton] at h
    rw [h, canonical_canonical]
  | append first rest hfirst ih =>
    rw [canonical_append_point, Text.splitAll_append _ (point_not_mem_canonical hfirst)] at h
    rcases List.mem_cons.1 h with rfl | h
    · exact canonical_canonical first
    · exact ih h

theorem normalize_of_mem_splitAll {piece cs : List Char}
    (h : piece ∈ Text.splitAll '.' (normalize cs)) : normalize piece = piece := by
  rw [normalize_eq] at h
  rw [normalize_eq]
  split at h
  · next hall =>
    refine if_pos (List.all_eq_true.2 fun c hc => ?_)
    exact List.all_eq_true.1 hall c (Text.mem_of_mem_splitAll h hc).1
  · split
    · rfl
    · exact canonical_of_mem_splitAll h

end NodeFleet.Unicode
