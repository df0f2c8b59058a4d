import Mathlib.Data.List.Forall2
import NodeFleet.Proofs.Listing
import NodeFleet.Proofs.Spelling

/-!
# Keywords as parts of names and addresses

The search for a keyword finds every name and every address that has the keyword as a part, whatever
characters the keyword is made of: a wildcard also stands for itself. A keyword without wildcards
finds nothing else. Characters are compared up to the case of ASCII letters, and the replacement
character counts as one with the two code points that are read as it.
-/

namespace NodeFleet

namespace Search

/-- Equal up to the case of ASCII letters. -/
def SameLetter (c d : Char) : Prop := c.toLower = d.toLower

/-- The replacement character, and the code points that are read as it. -/
def replaced : List Char := ['\uFFFD', '\uFFFE', '\uFFFF']

/-- Taken for one character by the search. -/
def Alike (c d : Char) : Prop := SameLetter c d ∨ c ∈ replaced ∧ d ∈ replaced

/-- A text has a keyword as a part, character by character. -/
def Contains (same : Char → Char → Prop) (keyword text : String) : Prop :=
  ∃ part, part <:+: text.toList ∧ List.Forall₂ same keyword.toList part

/-- The texts of a node that are searched. -/
def texts (n : Node) : List String := [n.name, n.address]

/-! ### One character -/

theorem toLower_mem_replaced {c : Char} : c.toLower ∈ replaced ↔ c ∈ replaced := by
  have hplain : ∀ d ∈ replaced, d.isAlpha = false := by
    intro d hd
    simp only [replaced, List.mem_cons, List.not_mem_nil, or_false] at hd
    obtain rfl | rfl | rfl := hd <;> decide
  constructor
  · intro h
    rwa [(Text.toLower_eq_iff (hplain _ h)).1 rfl]
  · intro h
    rwa [(Text.toLower_eq_iff (hplain _ h)).2 rfl]

theorem foldCase_eq (c : Char) : foldCase c = if c ∈ replaced then '\uFFFD' else c.toLower := by
  by_cases hupper : 'A' ≤ c ∧ c ≤ 'Z'
  · obtain ⟨n, hn, rfl⟩ := Text.exists_of_capital hupper
    have all : ∀ n < 26, foldCase (Char.ofNat (65 + n)) =
        if Char.ofNat (65 + n) ∈ replaced then '\uFFFD' else (Char.ofNat (65 + n)).toLower := by
      decide
    exact all n hn
  · have hlower : c.toLower = c := dif_neg hupper
    unfold foldCase
    rw [if_neg (by simpa using hupper), hlower]
    by_cases hc : c = '\uFFFD'
    · subst hc
      decide
    · simp [replaced, hc]

theorem toLower_ne_of_not_mem {c : Char} (h : c ∉ replaced) : c.toLower ≠ '\uFFFD' := by
  intro hc
  exact h (toLower_mem_replaced.1 (hc ▸ List.mem_cons_self))

/-- The search compares characters as it says. -/
theorem foldCase_eq_iff {c d : Char} : foldCase c = foldCase d ↔ Alike c d := by
  have hletter : SameLetter c d → (c ∈ replaced ↔ d ∈ replaced) := by
    intro h
    rw [← toLower_mem_replaced, h, toLower_mem_replaced]
  rw [foldCase_eq, foldCase_eq, Alike]
  by_cases hc : c ∈ replaced
  · by_cases hd : d ∈ replaced
    · simp [hc, hd]
    · have hother : ¬SameLetter c d := fun h => hd ((hletter h).1 hc)
      simp [hc, hd, (toLower_ne_of_not_mem hd).symm, hother]
  · by_cases hd : d ∈ replaced
    · have hother : ¬SameLetter c d := fun h => hc ((hletter h).2 hd)
      simp [hc, hd, toLower_ne_of_not_mem hc, hother]
    · simp [hc, hd, SameLetter]

/-! ### Parts of a text -/

variable {same : Char → Char → Prop} {chars rest text : List Char}

/-- Characters match a part that is alike, wildcards among them or not. -/
theorem Matches.append {part tail : List Char} (halike : List.Forall₂ Alike chars part)
    (h : Matches rest tail) : Matches (chars ++ rest) (part ++ tail) := by
  induction halike with
  | nil => exact h
  | @cons c d chars part hcase _ ih =>
    by_cases hpercent : c = '%'
    · subst hpercent
      exact .anyText [d] ih
    · by_cases hline : c = '_'
      · subst hline
        exact .anyChar d ih
      · exact .char hpercent hline (foldCase_eq_iff.2 hcase) ih

/-- Characters that are no wildcards match nothing but a part that is alike. -/
theorem Matches.exists_part (hplain : ∀ c ∈ chars, c ≠ '%' ∧ c ≠ '_')
    (h : Matches (chars ++ rest) text) :
    ∃ part tail, text = part ++ tail ∧ List.Forall₂ Alike chars part ∧ Matches rest tail := by
  induction chars generalizing text with
  | nil => exact ⟨[], text, rfl, .nil, h⟩
  | cons c chars ih =>
    obtain ⟨hpercent, hline⟩ := hplain c List.mem_cons_self
    obtain ⟨left, hstep, hleft⟩ := (matches_char_iff hpercent hline).1 h
    obtain ⟨d, hcase, rfl⟩ := stepChar?_eq_some.1 hstep
    obtain ⟨part, tail, rfl, hpart, htail⟩ :=
      ih (fun c hc => hplain c (List.mem_cons_of_mem _ hc)) hleft
    exact ⟨d :: part, tail, rfl, .cons (foldCase_eq_iff.1 hcase) hpart, htail⟩

/-! ### Keywords -/

variable {keyword : String}

theorem upToNul_of_not_mem {s : String} (h : '\x00' ∉ s.toList) : upToNul s = s.toList := by
  unfold upToNul
  rw [List.takeWhile_eq_self_iff]
  intro c hc
  simpa using ne_of_mem_of_not_mem hc h

theorem upToNul_pattern (h : '\x00' ∉ keyword.toList) :
    upToNul (pattern keyword) = '%' :: (keyword.toList ++ ['%']) := by
  have hchars : (pattern keyword).toList = '%' :: (keyword.toList ++ ['%']) := by
    unfold pattern
    rw [String.toList_append, String.toList_append]
    rfl
  rw [upToNul_of_not_mem, hchars]
  rw [hchars]
  simpa using h

theorem contains_empty (text : String) : Contains same "" text := ⟨[], List.nil_infix, .nil⟩

theorem exists_mem_texts {n : Node} {P : String → Prop} :
    (∃ text ∈ texts n, P text) ↔ P n.name ∨ P n.address := by
  simp [texts]

/-- A text that contains a keyword of one character has that character. -/
theorem Contains.exists_mem {c : Char} {text : String} (h : Contains same keyword text)
    (hkeyword : keyword.toList = [c]) : ∃ d ∈ text.toList, same c d := by
  obtain ⟨part, hpart, hsame⟩ := h
  rw [hkeyword] at hsame
  cases hsame with
  | cons hd hnil =>
    cases hnil
    exact ⟨_, hpart.subset List.mem_cons_self, hd⟩

theorem utf8ByteSize_replicate (n : Nat) :
    (String.ofList (List.replicate n 'a')).utf8ByteSize = n := by
  induction n with
  | zero => rfl
  | succ n ih =>
    have hone : 'a'.utf8Size = 1 := by decide
    rw [List.replicate_succ, String.ofList_cons, String.utf8ByteSize_append,
      String.utf8ByteSize_singleton, ih, hone]
    omega

/-- A keyword is found in each text that contains it. -/
theorem Contains.finds {text : String} (h : Contains Alike keyword text)
    (hkeyword : '\x00' ∉ keyword.toList) (htext : '\x00' ∉ text.toList) :
    Finds keyword text := by
  obtain ⟨part, ⟨before, after, hparts⟩, hpart⟩ := h
  have hend : Matches ['%'] after := matches_percent_iff.2 ⟨[], List.nil_suffix, .nil⟩
  unfold Finds
  rw [upToNul_pattern hkeyword, upToNul_of_not_mem htext, ← hparts, List.append_assoc]
  exact .anyText before (hend.append hpart)

/-- A keyword without wildcards is found in no other text. -/
theorem Finds.contains {text : String} (h : Finds keyword text)
    (hkeyword : '\x00' ∉ keyword.toList) (hpercent : '%' ∉ keyword.toList)
    (hline : '_' ∉ keyword.toList) : Contains Alike keyword text := by
  unfold Finds at h
  rw [upToNul_pattern hkeyword] at h
  obtain ⟨left, hleft, hmatch⟩ := matches_percent_iff.1 h
  have hplain : ∀ c ∈ keyword.toList, c ≠ '%' ∧ c ≠ '_' := fun c hc =>
    ⟨ne_of_mem_of_not_mem hc hpercent, ne_of_mem_of_not_mem hc hline⟩
  obtain ⟨part, tail, rfl, hpart, -⟩ := hmatch.exists_part hplain
  -- the end of the text up to its first NUL is a part of the whole text
  have hwhole : upToNul text <+: text.toList := List.takeWhile_prefix _
  exact ⟨part, ((List.prefix_append part tail).isInfix.trans hleft.isInfix).trans hwhole.isInfix,
    hpart⟩

end Search

namespace Panel

open Search

/-- After any run, while the tables can be read: the list for a keyword without NUL, whose pattern
is not too long, has every node that meets the other criteria of the filter and whose name or
address contains the keyword. It shows existing nodes that meet the other criteria, and if the
keyword has no wildcards, only those that contain it. A group among the criteria must not have more
nodes than the database takes values. -/
theorem listNodes_finds_parts (shell : Shell) (run : List Event) (filter : NodeFilter)
    (keyword : String) (hopen : ((fresh shell).after run).isOpen = true)
    (hkeyword : filter.keyword = some keyword) (hnul : '\x00' ∉ keyword.toList)
    (hshort : (pattern keyword).utf8ByteSize ≤ maxPattern)
    (hfew : ¬((fresh shell).after run).Overfull filter) :
    let p := (fresh shell).after run
    ∃ views, (Operation.listNodes filter).answer p = .ok views ∧
      (∀ id v, (Operation.getNode id).answer p = .ok v →
        p.Meets { filter with keyword := none } v.node →
        (∃ text ∈ texts v.node, '\x00' ∉ text.toList ∧ Contains Alike keyword text) →
        v ∈ views) ∧
      ∀ v ∈ views, (∃ id, (Operation.getNode id).answer p = .ok v) ∧
        p.Meets { filter with keyword := none } v.node ∧
        ('%' ∉ keyword.toList → '_' ∉ keyword.toList →
          ∃ text ∈ texts v.node, Contains Alike keyword text) := by
  intro p
  have hs : p.fleet.Sound := sound_fresh shell run
  have hsearchable : ¬(Overlong filter ∧ p.candidates filter ≠ []) := by
    rintro ⟨⟨k, hk, hlong⟩, -⟩
    cases hk.symm.trans hkeyword
    omega
  rw [overfull_iff hs hopen, Nat.not_lt] at hfew
  obtain ⟨nodes, hselect, -, hmem⟩ := select_of_searchable hfew hsearchable
  refine ⟨nodes.map p.fleet.nodeView, ?_, ?_, ?_⟩
  · rw [answer_listNodes hopen, Fleet.listNodes_eq, hselect]
    rfl
  · rintro id v hv hmeets ⟨text, htext, hplain, hcontains⟩
    obtain ⟨hnode, hview⟩ := (exists_answer_getNode hs hopen).1 ⟨id, hv⟩
    have hcandidate := (mem_candidates hs hopen).2 ⟨hnode, hmeets⟩
    refine List.mem_map.2 ⟨v.node, (hmem v.node).2 ⟨hcandidate, ?_⟩, hview.symm⟩
    intro k hk
    cases (given_eq_some.1 hk).1.symm.trans hkeyword
    exact exists_mem_texts.1 ⟨text, htext, hcontains.finds hnul hplain⟩
  · intro v hv
    obtain ⟨n, hn, rfl⟩ := List.mem_map.1 hv
    obtain ⟨hcandidate, hfound⟩ := (hmem n).1 hn
    obtain ⟨hnode, hmeets⟩ := (mem_candidates hs hopen).1 hcandidate
    refine ⟨(exists_answer_getNode hs hopen).2 ⟨hnode, rfl⟩, hmeets, ?_⟩
    intro hpercent hline
    by_cases hempty : keyword = ""
    · subst hempty
      exact ⟨n.name, List.mem_cons_self, contains_empty n.name⟩
    · have hfinds := hfound keyword (given_eq_some.2 ⟨hkeyword, hempty⟩)
      obtain ⟨text, htext, hfinds⟩ := exists_mem_texts.2 hfinds
      exact ⟨text, htext, hfinds.contains hnul hpercent hline⟩

/-- A filter that gives a keyword only: of three nodes one contains it. -/
theorem listNodes_finds_parts_grouped :
    let p := (fresh .silent).after grouped
    let filter : NodeFilter := ⟨none, none, some "ET", none⟩
    p.isOpen = true ∧ '\x00' ∉ "ET".toList ∧ (pattern "ET").utf8ByteSize ≤ maxPattern ∧
      ¬p.Overfull filter ∧ ∃ views, (Operation.listNodes filter).answer p = .ok views ∧
        views.map (·.node.name) = ["beta"] ∧
        (∀ id v, (Operation.getNode id).answer p = .ok v →
          (∃ text ∈ texts v.node, '\x00' ∉ text.toList ∧ Contains Alike "ET" text) → v ∈ views) ∧
        ∀ v ∈ views, ∃ text ∈ texts v.node, Contains Alike "ET" text := by
  intro p filter
  have hopen : p.isOpen = true := by decide +kernel
  have hnul : '\x00' ∉ "ET".toList := by decide
  have hshort : (pattern "ET").utf8ByteSize ≤ maxPattern := by decide
  have hfew : ¬p.Overfull filter := nofun
  have hnames : ((Operation.listNodes filter).answer p).toOption.map (·.map (·.node.name)) =
      some ["beta"] := by decide +kernel
  obtain ⟨views, hanswer, hfound, hshown⟩ :=
    listNodes_finds_parts .silent grouped filter "ET" hopen rfl hnul hshort hfew
  rw [hanswer] at hnames
  refine ⟨hopen, hnul, hshort, hfew, views, hanswer, Option.some.inj hnames, ?_, ?_⟩
  · intro id v hv hcontains
    exact hfound id v hv ⟨nofun, nofun, nofun, nofun⟩ hcontains
  · intro v hv
    exact (hshown v hv).2.2 (by decide) (by decide)

/-- A node whose name is the replacement character. -/
def unreadable : List Event :=
  [.ask (.createNode ⟨0, 0⟩ "" .standard
    ⟨"\uFFFD", "", some "host", some 443, 1, 0, [], [], .manual, none, none⟩)]

/-- The list for U+FFFE, which is no wildcard, has a node that contains it neither in its name nor
in its address. And no list is given for a keyword of 49999 letters, which is shorter than the
longest pattern. -/
theorem listNodes_confuses_characters :
    let p := (fresh .silent).after unreadable
    p.isOpen = true ∧
    (∃ v, (Operation.listNodes ⟨none, none, some "\uFFFE", none⟩).answer p = .ok [v] ∧
      ∀ text ∈ texts v.node, ¬Contains SameLetter "\uFFFE" text) ∧
    ∃ keyword, keyword = String.ofList (List.replicate 49999 'a') ∧
      keyword.utf8ByteSize < maxPattern ∧
      ∀ views, (Operation.listNodes ⟨none, none, some keyword, none⟩).answer p ≠ .ok views := by
  intro p
  have hopen : p.isOpen = true := by decide +kernel
  refine ⟨hopen, ?_, _, rfl, ?_, ?_⟩
  · have hlist : ((Operation.listNodes ⟨none, none, some "\uFFFE", none⟩).answer p).toOption.map
        (·.map fun v => texts v.node) = some [["\uFFFD", "host"]] := by decide +kernel
    obtain ⟨views, hviews, htexts⟩ := Option.map_eq_some_iff.1 hlist
    obtain ⟨v, rfl, hv⟩ := List.map_eq_singleton_iff.1 htexts
    refine ⟨v, Except.toOption_eq_some.1 hviews, ?_⟩
    rw [hv]
    intro text htext hcontains
    obtain ⟨d, hd, hsame⟩ := hcontains.exists_mem (c := '\uFFFE') rfl
    have hother : (["\uFFFD", "host"].all fun text => text.toList.all fun d =>
        '\uFFFE'.toLower ≠ d.toLower) = true := by decide
    exact of_decide_eq_true (List.all_eq_true.1 (List.all_eq_true.1 hother text htext) d hd) hsame
  · rw [utf8ByteSize_replicate]
    decide
  · have hlong : Overlong ⟨none, none, some (String.ofList (List.replicate 49999 'a')), none⟩ :=
      overlong_of_length rfl (by rw [List.length_replicate]; decide)
    have hne : p.candidates ⟨none, none, some (String.ofList (List.replicate 49999 'a')), none⟩ ≠
        [] := by decide +kernel
    have hfew : valueCount ⟨none, none, some (String.ofList (List.replicate 49999 'a')), none⟩
        p.fleet ≤ maxValues := valueCount_le rfl p.fleet
    intro views h
    rw [answer_listNodes hopen, Fleet.listNodes_eq, select_of_overlong hfew hlong hne] at h
    cases h

end Panel

end NodeFleet
