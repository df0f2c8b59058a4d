import NodeFleet.Node.Search

/-!
# Patterns

`Search.Matches` says which texts a pattern matches, one rule for each kind of character. The search
follows all ways of matching at once and keeps what each leaves of the text. These rests are ends of
one another, longest first, so after a `%` the ends of the longest one are all there is to keep.
-/

namespace NodeFleet.Search

/-- A pattern matches a text: `%` stands for any text, `_` for any one character, and every other
character for each that is compared as equal to it. -/
inductive Matches : List Char → List Char → Prop where
  | nil : Matches [] []
  | anyText {pattern text : List Char} (skipped : List Char) (h : Matches pattern text) :
      Matches ('%' :: pattern) (skipped ++ text)
  | anyChar {pattern text : List Char} (d : Char) (h : Matches pattern text) :
      Matches ('_' :: pattern) (d :: text)
  | char {c d : Char} {pattern text : List Char} (hpercent : c ≠ '%') (hline : c ≠ '_')
      (hcase : foldCase c = foldCase d) (h : Matches pattern text) :
      Matches (c :: pattern) (d :: text)

variable {c : Char} {pattern text : List Char} {lefts : List (List Char)}

/-! ### One character of a pattern -/

theorem matches_nil_iff : Matches [] text ↔ text = [] := by
  constructor
  · intro h
    cases h
    rfl
  · rintro rfl
    exact .nil

theorem matches_percent_iff :
    Matches ('%' :: pattern) text ↔ ∃ rest, rest <:+ text ∧ Matches pattern rest := by
  constructor
  · intro h
    cases h with
    | anyText skipped h => exact ⟨_, List.suffix_append skipped _, h⟩
    | char hpercent => exact absurd rfl hpercent
  · rintro ⟨rest, ⟨skipped, rfl⟩, h⟩
    exact .anyText skipped h

theorem tail?_eq_some {rest : List Char} : text.tail? = some rest ↔ ∃ d, text = d :: rest := by
  cases text with
  | nil => simp
  | cons d ds => simp

theorem matches_line_iff :
    Matches ('_' :: pattern) text ↔ ∃ rest, text.tail? = some rest ∧ Matches pattern rest := by
  constructor
  · intro h
    cases h with
    | anyChar d h => exact ⟨_, rfl, h⟩
    | char _ hline => exact absurd rfl hline
  · rintro ⟨rest, htail, h⟩
    obtain ⟨d, rfl⟩ := tail?_eq_some.1 htail
    exact .anyChar d h

theorem stepChar?_eq_some {rest : List Char} :
    stepChar? c text = some rest ↔ ∃ d, foldCase c = foldCase d ∧ text = d :: rest := by
  cases text with
  | nil => simp [stepChar?]
  | cons d ds =>
    simp only [stepChar?, List.cons.injEq]
    by_cases hcase : foldCase c = foldCase d
    · rw [if_pos hcase]
      constructor
      · intro h
        exact ⟨d, hcase, rfl, Option.some.inj h⟩
      · rintro ⟨_, -, -, rfl⟩
        rfl
    · rw [if_neg hcase]
      constructor
      · intro h
        cases h
      · rintro ⟨_, hd, rfl, -⟩
        exact absurd hd hcase

theorem matches_char_iff (hpercent : c ≠ '%') (hline : c ≠ '_') :
    Matches (c :: pattern) text ↔ ∃ rest, stepChar? c text = some rest ∧ Matches pattern rest := by
  constructor
  · intro h
    cases h with
    | anyText _ _ => exact absurd rfl hpercent
    | anyChar _ _ => exact absurd rfl hline
    | char _ _ hcase h => exact ⟨_, stepChar?_eq_some.2 ⟨_, hcase, rfl⟩, h⟩
  · rintro ⟨rest, hstep, h⟩
    obtain ⟨d, hcase, rfl⟩ := stepChar?_eq_some.1 hstep
    exact .char hpercent hline hcase h

/-! ### The rests that the search keeps -/

theorem mem_suffixes {rest : List Char} : rest ∈ suffixes text ↔ rest <:+ text := by
  induction text with
  | nil => simp [suffixes]
  | cons d ds ih => rw [suffixes, List.mem_cons, ih, List.suffix_cons_iff]

/-- Rests of a text, from the longest to the shortest. -/
def Descending (lefts : List (List Char)) : Prop :=
  lefts.Pairwise fun longer rest => rest <:+ longer

theorem descending_suffixes (text : List Char) : Descending (suffixes text) := by
  induction text with
  | nil => exact List.pairwise_singleton _ _
  | cons d ds ih =>
    refine List.pairwise_cons.2 ⟨?_, ih⟩
    intro rest hrest
    exact (mem_suffixes.1 hrest).trans (List.suffix_cons d ds)

/-- What follows the first character of an end of a text is an end of what follows the first
character of the text. -/
theorem suffix_of_cons_suffix_cons {d d' : Char} {rest rest' : List Char}
    (h : d' :: rest' <:+ d :: rest) : rest' <:+ rest := by
  rcases List.suffix_cons_iff.1 h with heq | hsuffix
  · obtain ⟨-, rfl⟩ := List.cons.inj heq
    exact List.suffix_rfl
  · exact (List.suffix_cons d' rest').trans hsuffix

/-- Rests stay in order when the first character of each is taken off, where it can be. -/
theorem Descending.filterMap (h : Descending lefts) {take : List Char → Option (List Char)}
    (htake : ∀ {left rest}, take left = some rest → ∃ d, left = d :: rest) :
    Descending (lefts.filterMap take) := by
  refine List.Pairwise.filterMap take ?_ h
  intro left left' hsuffix rest hrest rest' hrest'
  obtain ⟨d, rfl⟩ := htake hrest
  obtain ⟨d', rfl⟩ := htake hrest'
  exact suffix_of_cons_suffix_cons hsuffix

theorem descending_step (h : Descending lefts) (c : Char) : Descending (step lefts c) := by
  unfold step
  by_cases hpercent : c = '%'
  · rw [if_pos hpercent]
    cases lefts with
    | nil => exact List.Pairwise.nil
    | cons longest _ => exact descending_suffixes longest
  · rw [if_neg hpercent]
    by_cases hline : c = '_'
    · rw [if_pos hline]
      exact h.filterMap tail?_eq_some.1
    · rw [if_neg hline]
      refine h.filterMap ?_
      intro left rest hstep
      obtain ⟨d, -, he⟩ := stepChar?_eq_some.1 hstep
      exact ⟨d, he⟩

/-- A character that takes one character of a text does so in each of the rests. -/
theorem exists_mem_filterMap_matches {take : List Char → Option (List Char)}
    (htake : ∀ left, Matches (c :: pattern) left ↔
      ∃ rest, take left = some rest ∧ Matches pattern rest) :
    (∃ rest ∈ lefts.filterMap take, Matches pattern rest) ↔
      ∃ left ∈ lefts, Matches (c :: pattern) left := by
  simp only [List.mem_filterMap, htake]
  constructor
  · rintro ⟨rest, ⟨left, hleft, hsome⟩, hrest⟩
    exact ⟨left, hleft, rest, hsome, hrest⟩
  · rintro ⟨left, hleft, rest, hsome, hrest⟩
    exact ⟨rest, ⟨left, hleft, hsome⟩, hrest⟩

/-- An end of any rest is an end of the longest one. -/
theorem exists_mem_suffixes_matches {longest : List Char} (h : Descending (longest :: lefts)) :
    (∃ rest ∈ suffixes longest, Matches pattern rest) ↔
      ∃ left ∈ longest :: lefts, Matches ('%' :: pattern) left := by
  simp only [matches_percent_iff]
  constructor
  · rintro ⟨rest, hrest, hmatch⟩
    exact ⟨longest, List.mem_cons_self, rest, mem_suffixes.1 hrest, hmatch⟩
  · rintro ⟨left, hleft, rest, hrest, hmatch⟩
    have hlongest : left <:+ longest := by
      rcases List.mem_cons.1 hleft with rfl | hshorter
      · exact List.suffix_rfl
      · exact (List.pairwise_cons.1 h).1 left hshorter
    exact ⟨rest, mem_suffixes.2 (hrest.trans hlongest), hmatch⟩

/-- After one character, the rest of the pattern matches one of the new rests exactly if the whole
pattern matched one of the old ones. -/
theorem exists_mem_step_matches (h : Descending lefts) (c : Char) (pattern : List Char) :
    (∃ rest ∈ step lefts c, Matches pattern rest) ↔
      ∃ left ∈ lefts, Matches (c :: pattern) left := by
  unfold step
  by_cases hpercent : c = '%'
  · subst hpercent
    rw [if_pos rfl]
    cases lefts with
    | nil => simp
    | cons longest shorter => exact exists_mem_suffixes_matches h
  · rw [if_neg hpercent]
    by_cases hline : c = '_'
    · subst hline
      rw [if_pos rfl]
      exact exists_mem_filterMap_matches fun _ => matches_line_iff
    · rw [if_neg hline]
      exact exists_mem_filterMap_matches fun _ => matches_char_iff hpercent hline

/-- The search from several rests at once. -/
theorem any_foldl_step_iff (h : Descending lefts) (pattern : List Char) :
    (pattern.foldl step lefts).any List.isEmpty = true ↔ ∃ left ∈ lefts, Matches pattern left := by
  induction pattern generalizing lefts with
  | nil => simp [matches_nil_iff]
  | cons c pattern ih =>
    rw [List.foldl_cons, ih (descending_step h c), exists_mem_step_matches h]

/-- The search finds exactly the texts that the pattern matches. -/
theorem like_iff_matches (pattern text : List Char) :
    like pattern text = true ↔ Matches pattern text := by
  unfold like
  rw [any_foldl_step_iff (List.pairwise_singleton _ _)]
  simp

end NodeFleet.Search
