import NodeFleet.Proofs.ManyMembers
import NodeFleet.Proofs.Pattern

/-!
# The list of nodes and single nodes

The list of nodes takes the users and the tokens of all nodes from tables that are made once, and
picks the nodes by conditions on the rows. It has exactly the nodes that meet the filter, each as it
is shown by itself. A filter by a group of more nodes than the database takes values is refused, and
a pattern beyond the length that the database searches for as soon as there is a node to compare it
with.
-/

namespace NodeFleet

namespace Search

/-- A keyword is found in a text: the pattern of the keyword matches it, both up to a NUL. -/
def Finds (keyword text : String) : Prop := Matches (upToNul (pattern keyword)) (upToNul text)

theorem found_iff_finds (keyword text : String) :
    found keyword text = true ↔ Finds keyword text :=
  like_iff_matches _ _

/-- A filter whose keyword makes a pattern that is too long to search for. -/
def Overlong (filter : NodeFilter) : Prop :=
  ∃ keyword, filter.keyword = some keyword ∧ maxPattern < (pattern keyword).utf8ByteSize

theorem given_eq_some {s : Option String} {t : String} :
    given s = some t ↔ s = some t ∧ t ≠ "" := by
  unfold given
  rw [Option.filter_eq_some_iff]
  simp

theorem given_eq_none {s : Option String} : given s = none ↔ ∀ t, s = some t → t = "" := by
  unfold given
  rw [Option.filter_eq_none_iff]
  simp

theorem length_le_utf8ByteSize (cs : List Char) : cs.length ≤ (String.ofList cs).utf8ByteSize := by
  induction cs with
  | nil => exact Nat.zero_le _
  | cons c cs ih =>
    have hone := c.utf8Size_pos
    rw [String.ofList_cons, String.utf8ByteSize_append, String.utf8ByteSize_singleton,
      List.length_cons]
    omega

/-- A keyword of so many characters makes a pattern that is too long. -/
theorem overlong_of_length {filter : NodeFilter} {cs : List Char}
    (h : filter.keyword = some (String.ofList cs)) (hlength : maxPattern ≤ cs.length + 1) :
    Overlong filter := by
  refine ⟨_, h, ?_⟩
  have hkeyword := length_le_utf8ByteSize cs
  have hpercent : "%".utf8ByteSize = 1 := by decide
  unfold pattern
  rw [String.utf8ByteSize_append, String.utf8ByteSize_append, hpercent]
  omega

/-- The criteria other than the group have four values at most. -/
theorem criterionCount_le (filter : NodeFilter) : criterionCount filter ≤ 4 := by
  unfold criterionCount
  have hhealth := filter.health.isSome.toNat_le
  have hregion := (Search.given filter.region).isSome.toNat_le
  have hkeyword := (Search.given filter.keyword).isSome.toNat_le
  omega

/-- Without a group there are few values. -/
theorem valueCount_le {filter : NodeFilter} (h : filter.groupId = none) (f : Fleet) :
    valueCount filter f ≤ maxValues := by
  have hcriteria := criterionCount_le filter
  have hfew : 4 ≤ maxValues := by decide
  unfold valueCount members
  rw [h, List.length_nil]
  omega

/-- The pattern of the empty keyword is short. -/
theorem Overlong.given {filter : NodeFilter} (h : Overlong filter) :
    ∃ keyword, Search.given filter.keyword = some keyword ∧
      maxPattern < (pattern keyword).utf8ByteSize := by
  obtain ⟨keyword, hkeyword, hlong⟩ := h
  refine ⟨keyword, given_eq_some.2 ⟨hkeyword, ?_⟩, hlong⟩
  rintro rfl
  exact absurd hlong (by decide)

end Search

/-! ### What a filter asks for -/

/-- A node meets the criteria that a filter gives; an empty region and an empty keyword are none. -/
structure Panel.Meets (p : Panel) (filter : NodeFilter) (n : Node) : Prop where
  health : ∀ h, filter.health = some h → n.health = h
  region : ∀ r, filter.region = some r → r ≠ "" → n.region = r
  keyword : ∀ k, filter.keyword = some k → k ≠ "" →
    Search.Finds k n.name ∨ Search.Finds k n.address
  /-- The group of the filter, which has to exist, has the node among those that are shown. -/
  group : ∀ g, filter.groupId = some g →
    ∃ view, (Operation.getGroup g).answer p = .ok view ∧ n.id ∈ view.nodeIds

/-- A filter by a group that has, with the other criteria of the filter, more nodes than a statement
takes values. -/
def Panel.Overfull (p : Panel) (filter : NodeFilter) : Prop :=
  ∃ g view, filter.groupId = some g ∧ (Operation.getGroup g).answer p = .ok view ∧
    maxValues < Search.criterionCount filter + view.nodeIds.length

/-- A filter with a pattern that is too long, and a node to compare the pattern with. -/
def Panel.Unsearchable (p : Panel) (filter : NodeFilter) : Prop :=
  Search.Overlong filter ∧
    ∃ id v, (Operation.getNode id).answer p = .ok v ∧ p.Meets { filter with keyword := none } v.node

/-! ### The tables that are made once -/

/-- Looking up a key in a table made of rows finds what the first row with the key tells. -/
theorem lookup_map_eq {α β : Type} (key : α → Int) (value : α → β) (rows : List α) (k : Int) :
    (rows.map fun r => (key r, value r)).lookup k = (rows.find? (key · = k)).map value := by
  induction rows with
  | nil => rfl
  | cons r rows ih =>
    rw [List.map_cons, List.lookup_cons, List.find?_cons, ih]
    by_cases h : key r = k
    · simp [h]
    · have hne : (k == key r) = false := by simpa using Ne.symm h
      simp [h, hne]

namespace Fleet

variable {f : Fleet} {filter : NodeFilter}

theorem listedToken_eq (id : Int) : f.listedToken id = (f.tokenInfo id).state := by
  unfold listedToken tokenStates tokenInfo
  rw [lookup_map_eq Token.nodeId Token.state]
  change (Option.map Token.state (f.token? id)).getD .none = _
  cases f.token? id with
  | none => rfl
  | some t => rfl

/-- The list shows each node as it is shown by itself. -/
theorem listNodes_eq : listNodes filter f = (Search.select filter f).map (·.map f.nodeView) := by
  unfold listNodes
  simp only [of_userCounts, listedToken_eq]
  rfl

theorem membersOf_singleton (groupId : Int) : f.membersOf [groupId] = f.joined groupId := by
  unfold membersOf joined
  congr 1
  apply List.filter_congr
  intro m _
  simp

theorem length_nodeIds_groupView (g : Group) :
    (f.groupView g).nodeIds.length = (f.joined g.id).length := by
  change (sortNumbers (f.joined g.id)).length = _
  rw [sortNumbers_eq_insertionSort]
  exact List.length_insertionSort _ _

end Fleet

/-! ### The selection -/

theorem Search.admits_iff {filter : NodeFilter} {members : List Int} {n : Node} :
    admits filter members n = true ↔
      (∀ h, filter.health = some h → n.health = h) ∧
      (∀ r, filter.region = some r → r ≠ "" → n.region = r) ∧
      ∀ g, filter.groupId = some g → n.id ∈ members := by
  unfold admits
  rw [Bool.and_eq_true, Bool.and_eq_true, and_assoc]
  refine and_congr ?_ (and_congr ?_ ?_)
  · cases filter.health with
    | none => simp
    | some h => simp
  · cases hgiven : given filter.region with
    | none =>
      have hempty := given_eq_none.1 hgiven
      simp only [true_iff]
      intro r hr hne
      exact absurd (hempty r hr) hne
    | some r =>
      obtain ⟨hr, hne⟩ := given_eq_some.1 hgiven
      simp only [beq_iff_eq]
      constructor
      · rintro h r' hr' -
        cases hr.symm.trans hr'
        exact h
      · intro h
        exact h r hr hne
  · cases filter.groupId with
    | none => simp
    | some g => simp

namespace Panel

variable {p : Panel} {filter : NodeFilter}

theorem answer_read {α : Type} (hopen : p.isOpen = true) (query : Fleet → Except Error α) :
    ((Action.read query).on p).1 = query p.fleet :=
  congrArg Prod.fst (Action.on_read_of_open hopen query)

theorem answer_getNode (hopen : p.isOpen = true) (id : Int) :
    (Operation.getNode id).answer p = Fleet.getNode id p.fleet :=
  answer_read hopen _

theorem answer_getGroup (hopen : p.isOpen = true) (id : Int) :
    (Operation.getGroup id).answer p = Fleet.getGroup id p.fleet :=
  answer_read hopen _

theorem answer_listNodes (hopen : p.isOpen = true) (filter : NodeFilter) :
    (Operation.listNodes filter).answer p = Fleet.listNodes filter p.fleet :=
  answer_read hopen _

/-- The nodes of the rows that pass the conditions other than the keyword. -/
def candidates (p : Panel) (filter : NodeFilter) : List Node :=
  p.fleet.nodes.filter (Search.admits filter (Search.members filter p.fleet))

/-- A filter has too many values exactly if its group has too many nodes. -/
theorem overfull_iff (hs : p.fleet.Sound) (hopen : p.isOpen = true) :
    p.Overfull filter ↔ maxValues < Search.valueCount filter p.fleet := by
  have hcriteria := Search.criterionCount_le filter
  have hfew : 4 ≤ maxValues := by decide
  unfold Overfull Search.valueCount Search.members
  cases hgroup : filter.groupId with
  | none =>
    simp only [reduceCtorEq, false_and, exists_false, List.length_nil, false_iff]
    omega
  | some g =>
    simp only [Option.some.injEq, Fleet.membersOf_singleton, answer_getGroup hopen,
      Fleet.getGroup_eq_ok]
    constructor
    · rintro ⟨_, _, rfl, ⟨group, hfound, rfl⟩, hlong⟩
      rwa [Fleet.length_nodeIds_groupView, (Fleet.group?_eq_some hfound).2] at hlong
    · intro hlong
      -- a group with members exists
      obtain ⟨n, hn⟩ : ∃ n, n ∈ p.fleet.joined g :=
        List.exists_mem_of_length_pos (by omega)
      obtain ⟨view, hview, -⟩ := hs.exists_getGroup_mem_nodeIds.2 (Fleet.mem_joined.1 hn)
      obtain ⟨group, hfound, rfl⟩ := Fleet.getGroup_eq_ok.1 hview
      refine ⟨g, _, rfl, ⟨group, hfound, rfl⟩, ?_⟩
      rwa [Fleet.length_nodeIds_groupView, (Fleet.group?_eq_some hfound).2]

theorem mem_candidates (hs : p.fleet.Sound) (hopen : p.isOpen = true) {n : Node} :
    n ∈ p.candidates filter ↔ n ∈ p.fleet.nodes ∧ p.Meets { filter with keyword := none } n := by
  have hgroup : (∀ g, filter.groupId = some g → n.id ∈ Search.members filter p.fleet) ↔
      ∀ g, filter.groupId = some g →
        ∃ view, (Operation.getGroup g).answer p = .ok view ∧ n.id ∈ view.nodeIds := by
    refine forall_congr' fun g => imp_congr_right ?_
    intro hg
    simp only [Search.members, hg, answer_getGroup hopen]
    rw [hs.exists_getGroup_mem_nodeIds, Fleet.membersOf_singleton, Fleet.mem_joined]
  unfold candidates
  rw [List.mem_filter, Search.admits_iff, hgroup]
  constructor
  · rintro ⟨hn, hhealth, hregion, hmember⟩
    exact ⟨hn, hhealth, hregion, nofun, hmember⟩
  · rintro ⟨hn, hmeets⟩
    exact ⟨hn, hmeets.health, hmeets.region, hmeets.group⟩

/-- A filter is met if its keyword is found and its other criteria are met. -/
theorem meets_iff {n : Node} :
    p.Meets filter n ↔ p.Meets { filter with keyword := none } n ∧
      ∀ k, Search.given filter.keyword = some k →
        Search.Finds k n.name ∨ Search.Finds k n.address := by
  simp only [Search.given_eq_some]
  constructor
  · intro h
    refine ⟨⟨h.health, h.region, nofun, h.group⟩, ?_⟩
    rintro k ⟨hk, hne⟩
    exact h.keyword k hk hne
  · rintro ⟨h, hkeyword⟩
    exact ⟨h.health, h.region, fun k hk hne => hkeyword k ⟨hk, hne⟩, h.group⟩

/-- A node exists exactly if it is shown. -/
theorem exists_answer_getNode (hs : p.fleet.Sound) (hopen : p.isOpen = true) {v : NodeView} :
    (∃ id, (Operation.getNode id).answer p = .ok v) ↔
      v.node ∈ p.fleet.nodes ∧ v = p.fleet.nodeView v.node := by
  simp only [answer_getNode hopen, Fleet.getNode_eq_ok]
  constructor
  · rintro ⟨id, n, hn, rfl⟩
    exact ⟨(Fleet.node?_eq_some hn).1, rfl⟩
  · rintro ⟨hn, hv⟩
    exact ⟨v.node.id, v.node, hs.node?_eq hn, hv.symm⟩

theorem unsearchable_iff (hs : p.fleet.Sound) (hopen : p.isOpen = true) :
    p.Unsearchable filter ↔ Search.Overlong filter ∧ p.candidates filter ≠ [] := by
  unfold Unsearchable
  refine and_congr_right fun _ => ?_
  constructor
  · rintro ⟨id, v, hv, hmeets⟩
    have hn := ((exists_answer_getNode hs hopen).1 ⟨id, hv⟩).1
    exact List.ne_nil_of_mem ((mem_candidates hs hopen).2 ⟨hn, hmeets⟩)
  · intro hne
    obtain ⟨n, hn⟩ := List.exists_mem_of_ne_nil _ hne
    obtain ⟨hmem, hmeets⟩ := (mem_candidates hs hopen).1 hn
    obtain ⟨id, hid⟩ := (exists_answer_getNode hs hopen (v := p.fleet.nodeView n)).2 ⟨hmem, rfl⟩
    exact ⟨id, _, hid, hmeets⟩

/-- A search with more values than the database takes. -/
theorem select_of_overfull (h : maxValues < Search.valueCount filter p.fleet) :
    Search.select filter p.fleet = .error tooManyValues := by
  unfold Search.select
  rw [checkValues_of_gt h]
  rfl

/-- A search for a pattern that is too long. -/
theorem select_of_overlong (hfew : Search.valueCount filter p.fleet ≤ maxValues)
    (hlong : Search.Overlong filter) (hne : p.candidates filter ≠ []) :
    Search.select filter p.fleet = .error Search.tooComplex := by
  obtain ⟨keyword, hkeyword, hlong⟩ := hlong.given
  have hnonempty : (!(p.candidates filter).isEmpty) = true := by simpa using hne
  unfold Search.select
  rw [checkValues_of_le hfew]
  simp only [hkeyword]
  exact if_pos ⟨hlong, hnonempty⟩

/-- A search that is done picks the candidates in which the keyword is found, and keeps their
order. -/
theorem select_of_searchable (hfew : Search.valueCount filter p.fleet ≤ maxValues)
    (h : ¬(Search.Overlong filter ∧ p.candidates filter ≠ [])) :
    ∃ nodes, Search.select filter p.fleet = .ok nodes ∧ nodes.Sublist (p.candidates filter) ∧
      ∀ n, n ∈ nodes ↔ n ∈ p.candidates filter ∧
        ∀ k, Search.given filter.keyword = some k →
          Search.Finds k n.name ∨ Search.Finds k n.address := by
  unfold Search.select
  rw [checkValues_of_le hfew]
  cases hkeyword : Search.given filter.keyword with
  | none =>
    refine ⟨p.candidates filter, rfl, List.Sublist.refl _, ?_⟩
    intro n
    simp
  | some keyword =>
    refine ⟨(p.candidates filter).filter fun n =>
      Search.found keyword n.name || Search.found keyword n.address, ?_, List.filter_sublist, ?_⟩
    · apply if_neg
      rintro ⟨hlong, hnonempty⟩
      apply h
      refine ⟨⟨keyword, (Search.given_eq_some.1 hkeyword).1, hlong⟩, ?_⟩
      intro hnil
      change (!(p.candidates filter).isEmpty) = true at hnonempty
      simp [hnil] at hnonempty
    · intro n
      rw [List.mem_filter, Bool.or_eq_true, Search.found_iff_finds, Search.found_iff_finds]
      simp

/-- After any run, while the tables can be read: the list of nodes for a filter has, in ascending
order of their numbers, exactly the nodes that are shown by themselves and meet the filter, and
shows each as it is shown by itself. The list is refused only where the group of the filter has more
nodes than the database takes values, and where the pattern of the keyword is longer than the
database searches for and there is a node that meets the other criteria. -/
theorem listNodes_agrees (shell : Shell) (run : List Event) (filter : NodeFilter)
    (hopen : ((fresh shell).after run).isOpen = true) :
    let p := (fresh shell).after run
    (p.Overfull filter → (Operation.listNodes filter).answer p = .error tooManyValues) ∧
    (¬p.Overfull filter → p.Unsearchable filter →
      (Operation.listNodes filter).answer p = .error Search.tooComplex) ∧
    (¬p.Overfull filter → ¬p.Unsearchable filter → ∃ views,
      (Operation.listNodes filter).answer p = .ok views ∧
      (views.map (·.node.id)).Pairwise (· < ·) ∧
      ∀ v, v ∈ views ↔
        (∃ id, (Operation.getNode id).answer p = .ok v) ∧ p.Meets filter v.node) := by
  intro p
  have hs : p.fleet.Sound := sound_fresh shell run
  rw [answer_listNodes hopen, Fleet.listNodes_eq, unsearchable_iff hs hopen,
    overfull_iff hs hopen, Nat.not_lt]
  refine ⟨?_, ?_, ?_⟩
  · intro hmany
    rw [select_of_overfull hmany]
    rfl
  · rintro hfew ⟨hlong, hne⟩
    rw [select_of_overlong hfew hlong hne]
    rfl
  · intro hfew hsearchable
    obtain ⟨nodes, hselect, hsublist, hmem⟩ := select_of_searchable hfew hsearchable
    refine ⟨nodes.map p.fleet.nodeView, ?_, ?_, ?_⟩
    · rw [hselect]
      rfl
    · have hrows : nodes.Sublist p.fleet.nodes := hsublist.trans List.filter_sublist
      rw [List.map_map]
      exact hs.nodes_ascend.sublist (hrows.map Node.id)
    · intro v
      rw [exists_answer_getNode hs hopen, List.mem_map]
      constructor
      · rintro ⟨n, hn, rfl⟩
        obtain ⟨hcandidate, hfound⟩ := (hmem n).1 hn
        obtain ⟨hnode, hothers⟩ := (mem_candidates hs hopen).1 hcandidate
        exact ⟨⟨hnode, rfl⟩, meets_iff.2 ⟨hothers, hfound⟩⟩
      · rintro ⟨⟨hnode, hv⟩, hmeets⟩
        obtain ⟨hothers, hfound⟩ := meets_iff.1 hmeets
        refine ⟨v.node, (hmem v.node).2 ⟨?_, hfound⟩, hv.symm⟩
        exact (mem_candidates hs hopen).2 ⟨hnode, hothers⟩

/-- Three nodes, of which two are in a group. -/
def grouped : List Event :=
  let now : Instant := ⟨0, 0⟩
  let create (name : String) : Event := .ask (.createNode now "" .standard
    ⟨name, "", some "host", some 443, 1, 0, [], [], .manual, none, none⟩)
  [create "alpha", create "beta", create "gamma",
    .ask (.createGroup now ⟨"group", "", "", .roundRobin⟩), .ask (.addMember now 1 3),
    .ask (.addMember now 1 2)]

/-- All criteria at once: one of the two nodes of the group has the keyword in its name. -/
theorem listNodes_agrees_grouped :
    let p := (fresh .silent).after grouped
    let filter : NodeFilter := ⟨some .offline, some "", some "ET", some 1⟩
    p.isOpen = true ∧ ¬p.Overfull filter ∧ ¬p.Unsearchable filter ∧ ∃ views,
      (Operation.listNodes filter).answer p = .ok views ∧ views.map (·.node.id) = [2] ∧
      ∀ v, v ∈ views ↔
        (∃ id, (Operation.getNode id).answer p = .ok v) ∧ p.Meets filter v.node := by
  intro p filter
  have hopen : p.isOpen = true := by decide +kernel
  have hfew : ¬p.Overfull filter := by
    have hcount : Search.valueCount filter p.fleet ≤ maxValues := by decide +kernel
    rw [overfull_iff (sound_fresh .silent grouped) hopen]
    exact Nat.not_lt_of_le hcount
  have hshort : ¬p.Unsearchable filter := by
    rintro ⟨⟨keyword, hkeyword, hlong⟩, -⟩
    cases hkeyword
    exact absurd hlong (by decide)
  have hids : ((Operation.listNodes filter).answer p).toOption.map (·.map (·.node.id)) =
      some [2] := by decide +kernel
  obtain ⟨views, hanswer, -, hmem⟩ :=
    (listNodes_agrees .silent grouped filter hopen).2.2 hfew hshort
  rw [hanswer] at hids
  exact ⟨hopen, hfew, hshort, views, hanswer, Option.some.inj hids, hmem⟩

/-- A group of more nodes than the database takes values is shown by itself, but the list of its
nodes is refused. -/
theorem listNodes_of_many {count : Nat} (h : maxValues < count) :
    let p := (fresh .silent).after (gathering count)
    p.isOpen = true ∧
      (∃ view, (Operation.getGroup 1).answer p = .ok view ∧ view.nodeIds.length = count) ∧
      (Operation.listNodes ⟨none, none, none, some 1⟩).answer p = .error tooManyValues := by
  intro p
  obtain ⟨hopen, hgathered⟩ : p.isOpen = true ∧ p.fleet.Gathered count := after_gathering count
  have hcount : Search.valueCount ⟨none, none, none, some 1⟩ p.fleet = count := by
    have hmembers : p.fleet.membersOf [1] = p.fleet.joined 1 := Fleet.membersOf_singleton 1
    refine (Nat.zero_add _).trans ?_
    rw [← hgathered.length_joined, ← hmembers]
    rfl
  refine ⟨hopen, ?_, ?_⟩
  · obtain ⟨group, hfound⟩ := hgathered.group
    obtain ⟨-, hid⟩ := Fleet.group?_eq_some hfound
    refine ⟨p.fleet.groupView group, ?_, ?_⟩
    · rw [answer_getGroup hopen]
      exact Fleet.getGroup_eq_ok.2 ⟨group, hfound, rfl⟩
    · rw [Fleet.length_nodeIds_groupView, hid, hgathered.length_joined]
  · rw [answer_listNodes hopen, Fleet.listNodes_eq, select_of_overfull (hcount ▸ h)]
    rfl

/-- No list is given for a keyword of 49999 letters, though there are nodes, and none of them has
such a name or address. No list is given of a group of 32767 nodes, though the group is shown. -/
theorem listNodes_refused :
    (let p := (fresh .silent).after grouped;
      let filter : NodeFilter :=
        ⟨none, none, some (String.ofList (List.replicate 49999 'a')), none⟩;
      p.isOpen = true ∧ ∀ views, (Operation.listNodes filter).answer p ≠ .ok views) ∧
    (let p := (fresh .silent).after (gathering 32767);
      p.isOpen = true ∧
        (∃ view, (Operation.getGroup 1).answer p = .ok view ∧ view.nodeIds.length = 32767) ∧
        ∀ views, (Operation.listNodes ⟨none, none, none, some 1⟩).answer p ≠ .ok views) := by
  constructor
  · intro p filter
    have hopen : p.isOpen = true := by decide +kernel
    have hlong : Search.Overlong filter := by
      refine Search.overlong_of_length rfl ?_
      rw [List.length_replicate]
      decide
    have hfew : Search.valueCount filter p.fleet ≤ maxValues := Search.valueCount_le rfl p.fleet
    have hne : p.candidates filter ≠ [] := by decide +kernel
    refine ⟨hopen, ?_⟩
    intro views h
    rw [answer_listNodes hopen, Fleet.listNodes_eq, select_of_overlong hfew hlong hne] at h
    cases h
  · have hmany : maxValues < 32767 := by decide
    obtain ⟨hopen, hshown, hrefused⟩ := listNodes_of_many hmany
    refine ⟨hopen, hshown, ?_⟩
    intro views h
    cases hrefused.symm.trans h

end Panel

end NodeFleet
