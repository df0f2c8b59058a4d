import NodeFleet.Proofs.HostCharacters
import NodeFleet.Unicode.Normal

/-!
# Composites and their parts

What the table of composites says is checked once, on the code points; for the rest of the proofs a
composite is taken apart into what its first part is taken apart into, and its second part.
-/

namespace NodeFleet.Unicode

/-! ### The table -/

/-- The rows of a table with the code points of the composites. -/
def rowsFrom (previous : Nat) : List (Nat × Nat × Nat) → List (Nat × Nat × Nat)
  | [] => []
  | (distance, first, second) :: rest =>
    (previous + distance, first, second) :: rowsFrom (previous + distance) rest

/-- The code points of all composites, each with those of its parts. -/
def compositionRows : List (Nat × Nat × Nat) := rowsFrom 0 compositionTable

theorem readCompositions_eq (previous : Nat) (table : List (Nat × Nat × Nat)) :
    readCompositions previous table = (rowsFrom previous table).map fun (composed, first, second) =>
      ⟨Char.ofNat composed, Char.ofNat first, Char.ofNat second⟩ := by
  induction table generalizing previous with
  | nil => rfl
  | cons row table ih => rw [readCompositions, rowsFrom, List.map_cons, ih]

theorem lt_of_mem_rowsFrom {previous : Nat} {table : List (Nat × Nat × Nat)}
    {row : Nat × Nat × Nat} (hdistance : ∀ r ∈ table, 0 < r.1)
    (h : row ∈ rowsFrom previous table) : previous < row.1 := by
  induction table generalizing previous with
  | nil => cases h
  | cons first table ih =>
    have hfirst : 0 < first.1 := hdistance first List.mem_cons_self
    rcases List.mem_cons.1 h with rfl | h
    · exact Nat.lt_add_of_pos_right hfirst
    · exact Nat.lt_trans (Nat.lt_add_of_pos_right hfirst)
        (ih (fun r hr => hdistance r (List.mem_cons_of_mem _ hr)) h)

theorem pairwise_rowsFrom {previous : Nat} {table : List (Nat × Nat × Nat)}
    (hdistance : ∀ r ∈ table, 0 < r.1) :
    (rowsFrom previous table).Pairwise fun r r' => r.1 < r'.1 := by
  induction table generalizing previous with
  | nil => exact .nil
  | cons first table ih =>
    have hrest : ∀ r ∈ table, 0 < r.1 := fun r hr => hdistance r (List.mem_cons_of_mem _ hr)
    exact List.pairwise_cons.2 ⟨fun row hrow => lt_of_mem_rowsFrom hrest hrow, ih hrest⟩

/-- The composites whose first part is in a set. -/
def composedOf (firsts : Nat) : Nat :=
  compositionRows.foldr
    (fun row found => if firsts.testBit row.2.1 then 1 <<< row.1 ||| found else found) 0

/-- The composites that are left when a character has been taken apart some times. -/
def depthSet : Nat → Nat
  | 0 => compositionRows.foldr (fun row found => 1 <<< row.1 ||| found) 0
  | depth + 1 => composedOf (depthSet depth)

/-- No composite needs more than six steps. -/
theorem depthSet_six : depthSet 6 = 0 := by decide +kernel

/-- Whether a code point is a Hangul syllable. -/
def IsSyllable (n : Nat) : Prop := hangulBase ≤ n ∧ n < hangulBase + 11172

instance (n : Nat) : Decidable (IsSyllable n) :=
  inferInstanceAs (Decidable (hangulBase ≤ n ∧ n < hangulBase + 11172))

/-- What holds of every row of the table. -/
structure RowFits (composed first second : Nat) : Prop where
  scalars : composed.isValidChar ∧ first.isValidChar ∧ second.isValidChar
  composed_ge : 0x80 ≤ composed
  second_ge : 0x80 ≤ second
  composed_not_syllable : ¬ IsSyllable composed
  composed_not_jamo : ¬ (0x1100 ≤ composed ∧ composed < 0x1200)
  second_not_syllable : ¬ IsSyllable second
  second_not_composed : (depthSet 0).testBit second = false
  first_ne_point : first ≠ 0x2E
  valid : validSet.testBit composed = (validSet.testBit first && validSet.testBit second)

instance (composed first second : Nat) : Decidable (RowFits composed first second) :=
  decidable_of_iff
    ((composed.isValidChar ∧ first.isValidChar ∧ second.isValidChar) ∧ 0x80 ≤ composed
      ∧ 0x80 ≤ second ∧ ¬ IsSyllable composed ∧ ¬ (0x1100 ≤ composed ∧ composed < 0x1200)
      ∧ ¬ IsSyllable second ∧ (depthSet 0).testBit second = false
      ∧ first ≠ 0x2E
      ∧ validSet.testBit composed = (validSet.testBit first && validSet.testBit second))
    ⟨fun ⟨h₁, h₂, h₃, h₄, h₅, h₆, h₇, h₈, h₉⟩ => ⟨h₁, h₂, h₃, h₄, h₅, h₆, h₇, h₈, h₉⟩,
      fun ⟨h₁, h₂, h₃, h₄, h₅, h₆, h₇, h₈, h₉⟩ => ⟨h₁, h₂, h₃, h₄, h₅, h₆, h₇, h₈, h₉⟩⟩

theorem rowFits_of_mem : ∀ row ∈ compositionRows, RowFits row.1 row.2.1 row.2.2 := by
  decide +kernel

theorem distance_pos : ∀ row ∈ compositionTable, 0 < row.1 := by decide +kernel

/-! ### Composites -/

/-- A primary composite. -/
def IsComposite (e : Composition) : Prop := e ∈ compositions.toList

theorem exists_row {e : Composition} (he : IsComposite e) :
    (e.composed.toNat, e.first.toNat, e.second.toNat) ∈ compositionRows := by
  have he' : e ∈ readCompositions 0 compositionTable := by
    simpa only [IsComposite, compositions] using he
  rw [readCompositions_eq] at he'
  obtain ⟨row, hrow, rfl⟩ := List.mem_map.1 he'
  obtain ⟨hcomposed, hfirst, hsecond⟩ := (rowFits_of_mem row hrow).scalars
  rw [toNat_ofNat_of_isValid hcomposed, toNat_ofNat_of_isValid hfirst,
    toNat_ofNat_of_isValid hsecond]
  exact hrow

theorem IsComposite.fits {e : Composition} (he : IsComposite e) :
    RowFits e.composed.toNat e.first.toNat e.second.toNat :=
  rowFits_of_mem _ (exists_row he)

/-- Composites differ in their characters. -/
theorem composites_pairwise :
    compositions.toList.Pairwise fun e e' => e.composed ≠ e'.composed := by
  rw [compositions, readCompositions_eq, List.pairwise_map]
  refine (pairwise_rowsFrom distance_pos).imp_of_mem fun {row row'} hrow hrow' hlt heq => ?_
  have hnat := congrArg Char.toNat heq
  rw [toNat_ofNat_of_isValid (rowFits_of_mem row hrow).scalars.1,
    toNat_ofNat_of_isValid (rowFits_of_mem row' hrow').scalars.1] at hnat
  exact Nat.ne_of_lt hlt hnat

/-- A composite is found by its character. -/
theorem IsComposite.find?_composed {e : Composition} (he : IsComposite e) :
    compositions.find? (·.composed == e.composed) = some e := by
  have hlist : ∀ entries : List Composition,
      entries.Pairwise (fun e e' => e.composed ≠ e'.composed) →
      e ∈ entries → entries.find? (·.composed == e.composed) = some e := by
    intro entries hpairwise hmem
    induction entries with
    | nil => cases hmem
    | cons first entries ih =>
      obtain ⟨hfirst, hrest⟩ := List.pairwise_cons.1 hpairwise
      rcases List.mem_cons.1 hmem with rfl | hmem
      · exact List.find?_cons_of_pos (by simp)
      · rw [List.find?_cons_of_neg (by simpa using hfirst e hmem), ih hrest hmem]
  rw [← Array.find?_toList]
  exact hlist _ composites_pairwise he

/-! ### Taking apart -/

/-- A character that cannot be taken apart. -/
def IsPart (c : Char) : Prop := ¬ IsSyllable c.toNat ∧ ∀ e, IsComposite e → e.composed ≠ c

theorem hangulParts?_eq (c : Char) (h : ¬ IsSyllable c.toNat) : hangulParts? c = none := by
  rw [hangulParts?]
  refine if_neg fun hc => h ?_
  rw [Bool.and_eq_true, decide_eq_true_eq, decide_eq_true_eq] at hc
  exact ⟨hc.1, by omega⟩

/-- A character of Hangul that is no syllable. -/
def IsJamo (n : Nat) : Prop :=
  0x1100 ≤ n ∧ n < 0x1113 ∨ 0x1161 ≤ n ∧ n < 0x1176 ∨ 0x11A8 ≤ n ∧ n < 0x11C3

/-- The part in Hangul of the number `k` from `start` on. -/
theorem isJamo_part {start count k : Nat} (hk : k < count)
    (hjamo : ∀ n, start ≤ n → n < start + count → IsJamo n)
    (hlow : start + count ≤ 0xD800) : IsJamo (Char.ofNat (start + k)).toNat := by
  rw [toNat_ofNat_of_isValid (.inl (by omega))]
  exact hjamo _ (by omega) (by omega)

/-- The number of a syllable tells its parts. -/
theorem hangulParts?_eq_some {c : Char} {n : Nat} (hc : c.toNat = hangulBase + n)
    (hn : n < 11172) :
    hangulParts? c = some (Char.ofNat (0x1100 + n / 588) :: Char.ofNat (0x1161 + n % 588 / 28) ::
      if n % 28 = 0 then [] else [Char.ofNat (0x11A7 + n % 28)]) := by
  unfold hangulParts?
  dsimp only
  rw [hc, Nat.add_sub_cancel_left, if_pos (by simp [hn])]
  split
  · rfl
  · rfl

theorem exists_of_isSyllable {n : Nat} (h : IsSyllable n) :
    ∃ k, n = hangulBase + k ∧ k < 11172 := by
  obtain ⟨k, rfl⟩ := Nat.exists_eq_add_of_le h.1
  exact ⟨k, rfl, Nat.add_lt_add_iff_left.1 h.2⟩

theorem mem_hangulParts {c d : Char} {parts : List Char} (h : hangulParts? c = some parts)
    (hd : d ∈ parts) : IsJamo d.toNat := by
  by_cases hsyllable : IsSyllable c.toNat
  · obtain ⟨n, hc, hn⟩ := exists_of_isSyllable hsyllable
    rw [hangulParts?_eq_some hc hn] at h
    obtain rfl := Option.some.inj h
    rcases List.mem_cons.1 hd with rfl | hd
    · exact isJamo_part (by omega : n / 588 < 19) (fun n h h' => .inl ⟨h, h'⟩) (by decide)
    rcases List.mem_cons.1 hd with rfl | hd
    · exact isJamo_part (by omega : n % 588 / 28 < 21) (fun n h h' => .inr (.inl ⟨h, h'⟩))
        (by decide)
    · split at hd
      · cases hd
      · next hne =>
        rw [List.mem_singleton.1 hd, toNat_ofNat_of_isValid (.inl (by omega))]
        exact .inr (.inr (by omega))
  · rw [hangulParts?_eq c hsyllable] at h
    cases h

theorem isPart_of_isJamo {c : Char} (h : IsJamo c.toNat) : IsPart c := by
  have hrange : 0x1100 ≤ c.toNat ∧ c.toNat < 0x1200 := by
    rcases h with h | h | h <;> omega
  refine ⟨fun hs => ?_, fun e he heq => ?_⟩
  · have hbase : hangulBase = 0xAC00 := rfl
    have := hs.1
    omega
  · rw [← heq] at hrange
    exact he.fits.composed_not_jamo hrange

theorem takeApart_syllable {c : Char} {parts : List Char} (h : hangulParts? c = some parts)
    (depth : Nat) : takeApart (depth + 1) c = parts := by
  rw [takeApart, h]

theorem IsComposite.takeApart {e : Composition} (he : IsComposite e) (depth : Nat) :
    takeApart (depth + 1) e.composed = Unicode.takeApart depth e.first ++ [e.second] := by
  rw [Unicode.takeApart, hangulParts?_eq _ he.fits.composed_not_syllable, he.find?_composed]

theorem IsPart.takeApart {c : Char} (h : IsPart c) (depth : Nat) :
    takeApart depth c = [c] := by
  cases depth with
  | zero => rfl
  | succ depth =>
    have hfind : compositions.find? (·.composed == c) = none := by
      rw [← Array.find?_toList, List.find?_eq_none]
      exact fun e he => by simpa using h.2 e he
    rw [Unicode.takeApart, hangulParts?_eq c h.1, hfind]

/-- A character is a Hangul syllable, or a composite, or cannot be taken apart. -/
theorem syllable_or_composite_or_part (c : Char) :
    (∃ parts, hangulParts? c = some parts) ∨ (∃ e, IsComposite e ∧ e.composed = c) ∨ IsPart c := by
  by_cases hsyllable : ∃ parts, hangulParts? c = some parts
  · exact .inl hsyllable
  by_cases hcomposite : ∃ e, IsComposite e ∧ e.composed = c
  · exact .inr (.inl hcomposite)
  refine .inr (.inr ⟨fun hs => hsyllable ?_, fun e he heq => hcomposite ⟨e, he, heq⟩⟩)
  obtain ⟨n, hc, hn⟩ := exists_of_isSyllable hs
  exact ⟨_, hangulParts?_eq_some hc hn⟩

theorem IsComposite.mem_depthSet_zero {e : Composition} (he : IsComposite e) :
    (depthSet 0).testBit e.composed.toNat = true := by
  have hrows : ∀ rows : List (Nat × Nat × Nat), ∀ row ∈ rows,
      (rows.foldr (fun row found => 1 <<< row.1 ||| found) 0).testBit row.1 = true := by
    intro rows row hrow
    induction rows with
    | nil => cases hrow
    | cons first rows ih =>
      rw [List.foldr_cons, Nat.testBit_or]
      rcases List.mem_cons.1 hrow with rfl | hrow
      · simp [Nat.testBit_shiftLeft]
      · rw [ih hrow, Bool.or_true]
  exact hrows _ _ (exists_row he)

theorem IsComposite.first_not_mem_depthSet {e : Composition} (he : IsComposite e) {depth : Nat}
    (h : (depthSet (depth + 1)).testBit e.composed.toNat = false) :
    (depthSet depth).testBit e.first.toNat = false := by
  have hrows : ∀ rows : List (Nat × Nat × Nat), ∀ row ∈ rows,
      (depthSet depth).testBit row.2.1 = true → (rows.foldr (fun row found =>
        if (depthSet depth).testBit row.2.1 then 1 <<< row.1 ||| found else found) 0).testBit row.1
        = true := by
    intro rows row hrow hfirst
    induction rows with
    | nil => cases hrow
    | cons first rows ih =>
      rw [List.foldr_cons]
      rcases List.mem_cons.1 hrow with rfl | hrow
      · rw [if_pos hfirst, Nat.testBit_or]
        simp [Nat.testBit_shiftLeft]
      · split
        · rw [Nat.testBit_or, ih hrow, Bool.or_true]
        · exact ih hrow
  rw [← Bool.not_eq_true] at h ⊢
  exact fun hfirst => h (hrows _ _ (exists_row he) hfirst)

theorem IsComposite.isPart_second {e : Composition} (he : IsComposite e) : IsPart e.second := by
  refine ⟨he.fits.second_not_syllable, fun e' he' heq => ?_⟩
  have hmem := he'.mem_depthSet_zero
  rw [heq, he.fits.second_not_composed] at hmem
  cases hmem

/-- More steps than a character needs make no difference. -/
theorem takeApart_succ_succ {depth : Nat} {c : Char}
    (h : (depthSet depth).testBit c.toNat = false) :
    takeApart (depth + 2) c = takeApart (depth + 1) c := by
  induction depth generalizing c with
  | zero =>
    rcases syllable_or_composite_or_part c with ⟨parts, hparts⟩ | ⟨e, he, rfl⟩ | hpart
    · rw [takeApart_syllable hparts, takeApart_syllable hparts]
    · rw [he.mem_depthSet_zero] at h
      cases h
    · rw [hpart.takeApart, hpart.takeApart]
  | succ depth ih =>
    rcases syllable_or_composite_or_part c with ⟨parts, hparts⟩ | ⟨e, he, rfl⟩ | hpart
    · rw [takeApart_syllable hparts, takeApart_syllable hparts]
    · rw [he.takeApart, he.takeApart, ih (he.first_not_mem_depthSet h)]
    · rw [hpart.takeApart, hpart.takeApart]

/-- Taking apart ends with parts. -/
theorem isPart_of_mem_takeApart {depth : Nat} {c d : Char}
    (h : (depthSet depth).testBit c.toNat = false) (hd : d ∈ takeApart (depth + 1) c) :
    IsPart d := by
  induction depth generalizing c with
  | zero =>
    rcases syllable_or_composite_or_part c with ⟨parts, hparts⟩ | ⟨e, he, rfl⟩ | hpart
    · rw [takeApart_syllable hparts] at hd
      exact isPart_of_isJamo (mem_hangulParts hparts hd)
    · rw [he.mem_depthSet_zero] at h
      cases h
    · rw [hpart.takeApart] at hd
      rwa [List.mem_singleton.1 hd]
  | succ depth ih =>
    rcases syllable_or_composite_or_part c with ⟨parts, hparts⟩ | ⟨e, he, rfl⟩ | hpart
    · rw [takeApart_syllable hparts] at hd
      exact isPart_of_isJamo (mem_hangulParts hparts hd)
    · rw [he.takeApart] at hd
      rcases List.mem_append.1 hd with hd | hd
      · exact ih (he.first_not_mem_depthSet h) hd
      · rw [List.mem_singleton.1 hd]
        exact he.isPart_second
    · rw [hpart.takeApart] at hd
      rwa [List.mem_singleton.1 hd]

/-- What holds of a character and passes from composites to their parts holds of all parts. -/
theorem forall_mem_takeApart {P : Char → Prop} (hjamo : ∀ d : Char, IsJamo d.toNat → P d)
    (hparts : ∀ e, IsComposite e → P e.composed → P e.first ∧ P e.second) {c : Char} (hc : P c)
    (depth : Nat) : ∀ d ∈ takeApart depth c, P d := by
  induction depth generalizing c with
  | zero =>
    intro d hd
    rwa [List.mem_singleton.1 hd]
  | succ depth ih =>
    intro d hd
    rcases syllable_or_composite_or_part c with ⟨parts, hsyllable⟩ | ⟨e, he, rfl⟩ | hpart
    · rw [takeApart_syllable hsyllable] at hd
      exact hjamo d (mem_hangulParts hsyllable hd)
    · obtain ⟨hfirst, hsecond⟩ := hparts e he hc
      rw [he.takeApart] at hd
      rcases List.mem_append.1 hd with hd | hd
      · exact ih hfirst d hd
      · rwa [List.mem_singleton.1 hd]
    · rw [hpart.takeApart] at hd
      rwa [List.mem_singleton.1 hd]

/-! ### A character as its parts -/

/-- The parts of a character. -/
def parts (c : Char) : List Char := takeApart 8 c

theorem IsPart.parts {c : Char} (h : IsPart c) : parts c = [c] := h.takeApart 8

theorem isPart_of_mem_parts {c d : Char} (h : d ∈ parts c) : IsPart d := by
  have hseven : (depthSet 7).testBit c.toNat = false := by
    have hzero : depthSet 7 = 0 := by decide +kernel
    rw [hzero, Nat.zero_testBit]
  exact isPart_of_mem_takeApart hseven h

theorem IsComposite.parts {e : Composition} (he : IsComposite e) :
    Unicode.parts e.composed = Unicode.parts e.first ++ [e.second] := by
  have hsix : (depthSet 6).testBit e.first.toNat = false := by
    rw [depthSet_six, Nat.zero_testBit]
  rw [Unicode.parts, he.takeApart, Unicode.parts, takeApart_succ_succ hsix]

theorem parts_of_hangulParts? {c : Char} {found : List Char} (h : hangulParts? c = some found) :
    parts c = found :=
  takeApart_syllable h 7

theorem isPart_of_ascii {c : Char} (h : c.toNat < 0x80) : IsPart c := by
  have hbase : hangulBase = 0xAC00 := rfl
  refine ⟨fun hs => ?_, fun e he heq => ?_⟩
  · have := hs.1
    omega
  · have hge := he.fits.composed_ge
    rw [heq] at hge
    exact Nat.not_le_of_lt h hge

/-- Only a point has a point among its parts. -/
theorem eq_point_of_mem_parts {c : Char} (h : '.' ∈ parts c) : c = '.' := by
  refine Classical.byContradiction fun hne => ?_
  refine forall_mem_takeApart (P := (· ≠ '.')) ?_ ?_ hne 8 '.' h rfl
  · rintro d hjamo rfl
    rcases hjamo with hle | hle | hle <;> exact absurd hle.1 (by decide)
  · refine fun e he _ => ⟨fun hfirst => ?_, fun hsecond => ?_⟩
    · exact he.fits.first_ne_point (congrArg Char.toNat hfirst)
    · have hge := he.fits.second_ge
      rw [hsecond] at hge
      exact absurd hge (by decide)

/-! ### Composing two characters -/

/-- A syllable without a tail is its lead and its vowel. -/
theorem parts_of_lead_vowel {a b : Char} {lead vowel : Nat} (ha : a.toNat = 0x1100 + lead)
    (hb : b.toNat = 0x1161 + vowel) (hlead : lead < 19) (hvowel : vowel < 21) :
    parts (Char.ofNat (hangulBase + (lead * 21 + vowel) * 28)) = [a, b] := by
  have hbase : hangulBase = 0xAC00 := rfl
  have hleadOf : (lead * 21 + vowel) * 28 / 588 = lead := by omega
  have hvowelOf : (lead * 21 + vowel) * 28 % 588 / 28 = vowel := by omega
  have hfound := hangulParts?_eq_some (n := (lead * 21 + vowel) * 28)
    (toNat_ofNat_of_isValid (.inl (by omega))) (by omega)
  rw [parts_of_hangulParts? hfound, if_pos (by omega), hleadOf, hvowelOf, ← ha, ← hb,
    Char.ofNat_toNat, Char.ofNat_toNat]

/-- A syllable with a tail is the one without it, and the tail. -/
theorem parts_of_tail {a b : Char} {n tail : Nat} (ha : a.toNat = hangulBase + n)
    (hb : b.toNat = 0x11A7 + tail) (hn : n < 11172) (hnone : n % 28 = 0) (hpos : 0 < tail)
    (htail : tail < 28) : parts (Char.ofNat (hangulBase + (n + tail))) = parts a ++ [b] := by
  have hbase : hangulBase = 0xAC00 := rfl
  have hlead : (n + tail) / 588 = n / 588 := by omega
  have hvowel : (n + tail) % 588 / 28 = n % 588 / 28 := by omega
  have htailOf : (n + tail) % 28 = tail := by omega
  have hfound := hangulParts?_eq_some (n := n + tail)
    (toNat_ofNat_of_isValid (.inl (by omega))) (by omega)
  rw [parts_of_hangulParts? hfound, parts_of_hangulParts? (hangulParts?_eq_some ha hn),
    if_neg (by omega), if_pos hnone, hlead, hvowel, htailOf, ← hb, Char.ofNat_toNat]
  rfl

/-- A syllable is its parts in Hangul. -/
theorem parts_of_composeHangul? {a b c : Char} (h : composeHangul? a b = some c) :
    IsSyllable c.toNat ∧ 0x1100 ≤ a.toNat ∧ 0x1100 ≤ b.toNat ∧ parts c = parts a ++ [b] := by
  have hbase : hangulBase = 0xAC00 := rfl
  unfold composeHangul? at h
  dsimp only at h
  split at h
  · next hc =>
    simp only [Bool.and_eq_true, decide_eq_true_eq] at hc
    obtain ⟨⟨⟨hale, hlead⟩, hble⟩, hvowel⟩ := hc
    obtain ⟨lead, ha⟩ := Nat.exists_eq_add_of_le hale
    obtain ⟨vowel, hb⟩ := Nat.exists_eq_add_of_le hble
    rw [ha, Nat.add_sub_cancel_left] at hlead
    rw [hb, Nat.add_sub_cancel_left] at hvowel
    rw [ha, hb, Nat.add_sub_cancel_left, Nat.add_sub_cancel_left] at h
    obtain rfl := Option.some.inj h
    have hjamo : IsPart a := isPart_of_isJamo (.inl (by omega))
    rw [toNat_ofNat_of_isValid (.inl (by omega)), hjamo.parts,
      parts_of_lead_vowel ha hb hlead hvowel]
    exact ⟨⟨by omega, by omega⟩, by omega, by omega, rfl⟩
  split at h
  · next hc =>
    simp only [Bool.and_eq_true, decide_eq_true_eq] at hc
    obtain ⟨⟨⟨⟨hale, hsyllable⟩, hnone⟩, hble⟩, htail⟩ := hc
    obtain ⟨n, ha⟩ := Nat.exists_eq_add_of_le hale
    obtain ⟨tail, hb⟩ := Nat.exists_eq_add_of_le (Nat.le_trans (by omega : 0x11A7 ≤ 0x11A8) hble)
    rw [ha, Nat.add_sub_cancel_left] at hsyllable hnone
    rw [hb, Nat.add_sub_cancel_left] at htail h
    obtain rfl := Option.some.inj h
    rw [ha, Nat.add_assoc, toNat_ofNat_of_isValid (.inl (by omega)),
      parts_of_tail ha hb hsyllable hnone (by omega) htail]
    exact ⟨⟨by omega, by omega⟩, by omega, by omega, rfl⟩
  · cases h

/-- A composition is one of Hangul or in the table. -/
theorem composeHangul?_or_isComposite {a b c : Char} (h : compose? a b = some c) :
    composeHangul? a b = some c ∨
      ∃ e, IsComposite e ∧ e.first = a ∧ e.second = b ∧ e.composed = c := by
  rw [compose?, Option.or_eq_some_iff] at h
  rcases h with h | ⟨-, h⟩
  · exact .inl h
  · obtain ⟨e, hfind, hcomposed⟩ := Option.map_eq_some_iff.1 h
    rw [← Array.find?_toList] at hfind
    have hboth := List.find?_some hfind
    rw [Bool.and_eq_true, beq_iff_eq, beq_iff_eq] at hboth
    exact .inr ⟨e, List.mem_of_find?_eq_some hfind, hboth.1, hboth.2, hcomposed⟩

/-- Composing puts together what taking apart yields. -/
theorem parts_of_compose? {a b c : Char} (h : compose? a b = some c) :
    parts c = parts a ++ [b] := by
  rcases composeHangul?_or_isComposite h with h | ⟨e, he, rfl, rfl, rfl⟩
  · exact (parts_of_composeHangul? h).2.2.2
  · exact he.parts

theorem ge_of_compose? {a b c : Char} (h : compose? a b = some c) :
    a.toNat ≠ 0x2E ∧ 0x80 ≤ b.toNat ∧ 0x80 ≤ c.toNat := by
  rcases composeHangul?_or_isComposite h with h | ⟨e, he, rfl, rfl, rfl⟩
  · obtain ⟨⟨hle, -⟩, ha, hb, -⟩ := parts_of_composeHangul? h
    have hbase : hangulBase = 0xAC00 := rfl
    exact ⟨by omega, by omega, by omega⟩
  · exact ⟨he.fits.first_ne_point, he.fits.second_ge, he.fits.composed_ge⟩

/-! ### Valid characters -/

/-- A set that holds all numbers of a range, cut out of it. -/
theorem testBit_of_shiftRight_mod {bits first length i : Nat}
    (h : (bits >>> first) % 2 ^ length = 2 ^ length - 1) (hi : i < length) :
    bits.testBit (first + i) = true := by
  have hbit := congrArg (Nat.testBit · i) h
  simpa only [Nat.testBit_mod_two_pow, Nat.testBit_two_pow_sub_one, Nat.testBit_shiftRight,
    decide_eq_true hi, Bool.true_and] using hbit

/-- Characters of a range are valid where all code points of the range are. -/
theorem hostStatus_of_range {first length : Nat}
    (h : (validSet >>> first) % 2 ^ length = 2 ^ length - 1) {c : Char} (hle : first ≤ c.toNat)
    (hlt : c.toNat < first + length) : hostStatus c = .valid := by
  obtain ⟨i, hi⟩ := Nat.exists_eq_add_of_le hle
  rw [hostStatus_eq_valid_iff, hi]
  exact testBit_of_shiftRight_mod h (by omega)

theorem hostStatus_jamo {c : Char} (h : IsJamo c.toNat) : hostStatus c = .valid := by
  have hall : (validSet >>> 0x1100) % 2 ^ 19 = 2 ^ 19 - 1 ∧
      (validSet >>> 0x1161) % 2 ^ 21 = 2 ^ 21 - 1 ∧
      (validSet >>> 0x11A8) % 2 ^ 27 = 2 ^ 27 - 1 := by decide +kernel
  rcases h with ⟨hle, hlt⟩ | ⟨hle, hlt⟩ | ⟨hle, hlt⟩
  · exact hostStatus_of_range hall.1 hle hlt
  · exact hostStatus_of_range hall.2.1 hle hlt
  · exact hostStatus_of_range hall.2.2 hle hlt

theorem hostStatus_syllable {c : Char} (h : IsSyllable c.toNat) : hostStatus c = .valid := by
  have hall : (validSet >>> hangulBase) % 2 ^ 11172 = 2 ^ 11172 - 1 := by decide +kernel
  exact hostStatus_of_range hall h.1 h.2

theorem IsComposite.hostStatus_iff {e : Composition} (he : IsComposite e) :
    hostStatus e.composed = .valid ↔
      hostStatus e.first = .valid ∧ hostStatus e.second = .valid := by
  simp only [hostStatus_eq_valid_iff, he.fits.valid, Bool.and_eq_true]

/-- The parts of a valid character are valid. -/
theorem hostStatus_of_mem_parts {c d : Char} (h : hostStatus c = .valid) (hd : d ∈ parts c) :
    hostStatus d = .valid :=
  forall_mem_takeApart (fun _ => hostStatus_jamo) (fun _ he => he.hostStatus_iff.1) h 8 d hd

/-- What is composed of valid characters is valid. -/
theorem hostStatus_of_compose? {a b c : Char} (ha : hostStatus a = .valid)
    (hb : hostStatus b = .valid) (h : compose? a b = some c) : hostStatus c = .valid := by
  rcases composeHangul?_or_isComposite h with h | ⟨e, he, rfl, rfl, rfl⟩
  · exact hostStatus_syllable (parts_of_composeHangul? h).1
  · exact he.hostStatus_iff.2 ⟨ha, hb⟩

end NodeFleet.Unicode
