import Mathlib.Data.Bool.Basic
import Mathlib.Data.Prod.Lex
import NodeFleet.Proofs.Placement
import NodeFleet.Proofs.Rounding

/-!
# The node that a user is given

A user goes to a preferred node if there is one, then to the node with the least load, and then to
the one with the smallest number. While the numbers of users and the weights are small, the rounded
loads compare as the exact ones do. So the nodes are ranked by a linear order, and the chosen one is
the first of those that may be chosen, in whatever order they are met.
-/

namespace NodeFleet

namespace Node

/-- A node that a user may be given: it is online, enabled, and below its limit if it has one. -/
structure Ready (counts : UserCounts) (n : Node) : Prop where
  online : n.health = .online
  enabled : n.enabled = true
  below_limit : n.maxUsers = 0 ∨ counts.of n.id < n.maxUsers

/-- The users of a node for each unit of its weight. -/
def share (counts : UserCounts) (n : Node) : Rat := counts.of n.id / (max n.weight 1 : Int)

/-- The place of a node in the order of choice: the preferred nodes first, then by the users for
each unit of weight, then by number. -/
def rank (counts : UserCounts) (preferred : List Int) (n : Node) : Bool ×ₗ Rat ×ₗ Int :=
  toLex (!preferred.contains n.id, toLex (n.share counts, n.id))

/-- Nodes whose numbers of users are not negative, and small enough to compare their loads. -/
structure Comparable (counts : UserCounts) (nodes : List Node) : Prop where
  nonneg : ∀ n ∈ nodes, 0 ≤ counts.of n.id
  small : ∀ n ∈ nodes, ∀ m ∈ nodes, counts.of n.id * max m.weight 1 < 2 ^ 50

variable {counts : UserCounts} {preferred : List Int} {nodes : List Node} {n m : Node}

theorem ready_iff :
    n.Ready counts ↔ n.health = .online ∧ n.acceptsUsers (counts.of n.id) = true := by
  rw [acceptsUsers_iff]
  constructor
  · rintro ⟨honline, henabled, hlimit⟩
    refine ⟨honline, henabled, ?_, hlimit⟩
    rw [honline]
    exact Health.noConfusion
  · rintro ⟨honline, henabled, -, hlimit⟩
    exact ⟨honline, henabled, hlimit⟩

/-! ### Loads -/

/-- A number of users is known exactly, so only the quotient is rounded. -/
theorem load_eq {users : Int} (hnonneg : 0 ≤ users) (hsmall : users < 2 ^ 50) :
    n.load users = Number.round53 (users / (max n.weight 1 : Int)) := by
  obtain ⟨k, rfl⟩ := Int.eq_ofNat_of_zero_le hnonneg
  have hround : Number.round53 ((k : Int) : Rat) = (k : Int) := by
    rw [Int.cast_natCast]
    exact Number.round53_natCast (by omega)
  unfold load
  rw [hround]

theorem Comparable.load_eq (h : Comparable counts nodes) (hn : n ∈ nodes) :
    n.load (counts.of n.id) = Number.round53 (n.share counts) := by
  refine Node.load_eq (h.nonneg n hn) (lt_of_le_of_lt ?_ (h.small n hn n hn))
  exact le_mul_of_one_le_right (h.nonneg n hn) (le_max_right _ _)

/-- Different fractions of small numbers are far apart. -/
theorem lt_mul_of_div_lt {a b c d : Int} (hb : 0 < b) (hd : 0 < d) (hsmall : c * b < 2 ^ 50)
    (h : (a / b : Rat) < c / d) : (a / b : Rat) < c / d * (1 - 1 / 2 ^ 50) := by
  have hb' : (0 : Rat) < b := by exact_mod_cast hb
  have hd' : (0 : Rat) < d := by exact_mod_cast hd
  have hcross : a * d + 1 ≤ c * b := by
    rw [div_lt_div_iff₀ hb' hd'] at h
    exact_mod_cast h
  have hcross' : (a * d + 1 : Rat) ≤ c * b := by exact_mod_cast hcross
  have hsmall' : (c * b : Rat) < 2 ^ 50 := by exact_mod_cast hsmall
  have hscale : (c : Rat) / d * (1 - 1 / 2 ^ 50) = c * (1 - 1 / 2 ^ 50) / d := by
    field_simp
  rw [hscale, div_lt_div_iff₀ hb' hd']
  linarith

/-- The loads compare as the exact shares do. -/
theorem Comparable.load_lt_load (h : Comparable counts nodes) (hn : n ∈ nodes) (hm : m ∈ nodes) :
    n.load (counts.of n.id) < m.load (counts.of m.id) ↔ n.share counts < m.share counts := by
  -- enough for one direction, as the shares are either equal or in one of two orders
  have hmono {k l : Node} (hk : k ∈ nodes) (hl : l ∈ nodes)
      (hlt : k.share counts < l.share counts) :
      k.load (counts.of k.id) < l.load (counts.of l.id) := by
    rw [h.load_eq hk, h.load_eq hl]
    have hweight (i : Node) : 0 < max i.weight 1 := lt_of_lt_of_le one_pos (le_max_right _ _)
    refine Number.round53_lt_round53 ?_ (lt_mul_of_div_lt (hweight k) (hweight l) ?_ hlt)
    · exact div_nonneg (by exact_mod_cast h.nonneg k hk) (by exact_mod_cast (hweight k).le)
    · exact h.small l hl k hk
  refine ⟨fun hlt => ?_, hmono hn hm⟩
  rcases lt_trichotomy (n.share counts) (m.share counts) with hless | heq | hmore
  · exact hless
  · rw [h.load_eq hn, h.load_eq hm, heq] at hlt
    exact absurd hlt (lt_irrefl _)
  · exact absurd (hmono hm hn hmore) hlt.not_gt

theorem Comparable.load_eq_load (h : Comparable counts nodes) (hn : n ∈ nodes) (hm : m ∈ nodes) :
    n.load (counts.of n.id) = m.load (counts.of m.id) ↔ n.share counts = m.share counts := by
  constructor
  · intro heq
    rcases lt_trichotomy (n.share counts) (m.share counts) with hless | hsame | hmore
    · exact absurd heq ((h.load_lt_load hn hm).2 hless).ne
    · exact hsame
    · exact absurd heq ((h.load_lt_load hm hn).2 hmore).ne'
  · intro heq
    rw [h.load_eq hn, h.load_eq hm, heq]

/-! ### Ranks -/

theorem rank_lt_rank : n.rank counts preferred < m.rank counts preferred ↔
    preferred.contains m.id < preferred.contains n.id ∨
      preferred.contains n.id = preferred.contains m.id ∧
        (n.share counts < m.share counts ∨ n.share counts = m.share counts ∧ n.id < m.id) := by
  have hnot (a b : Bool) : (!a) < (!b) ↔ b < a := by
    revert a b
    decide
  unfold rank
  rw [Prod.Lex.toLex_lt_toLex, Prod.Lex.toLex_lt_toLex, hnot, Bool.not_inj_iff]

/-- One node goes before another if its rank is smaller. -/
theorem Comparable.goesBefore_eq (h : Comparable counts nodes) (hn : n ∈ nodes) (hm : m ∈ nodes) :
    n.goesBefore counts preferred m =
      decide (n.rank counts preferred < m.rank counts preferred) := by
  rw [Bool.eq_iff_iff, decide_eq_true_eq, rank_lt_rank]
  by_cases hknown : preferred.contains n.id = preferred.contains m.id
  · have hirrefl : ¬preferred.contains m.id < preferred.contains n.id := by
      rw [hknown]
      exact lt_irrefl _
    rw [or_iff_right hirrefl, and_iff_right hknown]
    unfold goesBefore
    dsimp only
    rw [if_neg (by rw [hknown]; simp)]
    by_cases heq : n.share counts = m.share counts
    · have hsame := (h.load_eq_load hn hm).2 heq
      simp [hsame, heq]
    · have hne : n.load (counts.of n.id) ≠ m.load (counts.of m.id) :=
        mt (h.load_eq_load hn hm).1 heq
      simp [hne, heq, h.load_lt_load hn hm]
  · rw [goesBefore_of_ne hknown]
    revert hknown
    cases preferred.contains n.id <;> cases preferred.contains m.id <;> simp

/-- Nodes with the same rank have the same number. -/
theorem id_eq_of_rank_eq (h : n.rank counts preferred = m.rank counts preferred) : n.id = m.id := by
  have hpair := congrArg (fun rank => (ofLex (ofLex rank).2).2) h
  exact hpair

theorem Comparable.mono {others : List Node} (h : Comparable counts nodes) (hsub : others ⊆ nodes) :
    Comparable counts others where
  nonneg n hn := h.nonneg n (hsub hn)
  small n hn m hm := h.small n (hsub hn) m (hsub hm)

/-- The best of some nodes comes first in the order of choice. -/
theorem Comparable.rank_le_of_foldl {b best : Node} (h : Comparable counts (b :: nodes))
    (hbest : nodes.foldl (betterTarget counts preferred) (some b) = some best) :
    ∀ n ∈ b :: nodes, best.rank counts preferred ≤ n.rank counts preferred := by
  induction nodes generalizing b with
  | nil =>
    cases hbest
    simp
  | cons m nodes ih =>
    rw [List.foldl_cons] at hbest
    have hb : b ∈ b :: m :: nodes := List.mem_cons_self
    have hm : m ∈ b :: m :: nodes := List.mem_cons_of_mem b List.mem_cons_self
    rcases betterTarget_cases counts preferred b m with ⟨hbefore, hnext⟩ | ⟨hbefore, hnext⟩
    · rw [hnext] at hbest
      have hfirst := ih (h.mono (List.subset_cons_self b _)) hbest
      rw [h.goesBefore_eq hm hb, decide_eq_true_eq] at hbefore
      exact List.forall_mem_cons.2 ⟨(hfirst m List.mem_cons_self).trans hbefore.le, hfirst⟩
    · rw [hnext] at hbest
      have hsub : b :: nodes ⊆ b :: m :: nodes :=
        List.cons_subset_cons b (List.subset_cons_self m _)
      obtain ⟨hfirst, hrest⟩ := List.forall_mem_cons.1 (ih (h.mono hsub) hbest)
      rw [h.goesBefore_eq hm hb, decide_eq_false_iff_not, not_lt] at hbefore
      exact List.forall_mem_cons.2
        ⟨hfirst, List.forall_mem_cons.2 ⟨hfirst.trans hbefore, hrest⟩⟩

end Node

/-! ### The choice -/

section Choice

variable {candidates : List Node} {counts : UserCounts} {preferred : List Int} {id : Int}

/-- A candidate of least rank among those that a user may be given. -/
structure IsFirst (candidates : List Node) (counts : UserCounts) (preferred : List Int) (n : Node) :
    Prop where
  mem : n ∈ candidates
  ready : n.Ready counts
  rank_le : ∀ m ∈ candidates, m.Ready counts → n.rank counts preferred ≤ m.rank counts preferred

/-- The chosen node is of least rank. -/
theorem isFirst_of_pickTarget (h : Node.Comparable counts candidates)
    (hid : pickTarget candidates counts preferred = some id) :
    ∃ n, IsFirst candidates counts preferred n ∧ n.id = id := by
  obtain ⟨best, hbest, rfl⟩ := Option.map_eq_some_iff.1 hid
  have hready (m : Node) : m ∈ candidates.filter (fun n =>
      n.health == .online && n.acceptsUsers (counts.of n.id)) ↔
      m ∈ candidates ∧ m.Ready counts := by
    simp [List.mem_filter, Node.ready_iff]
  cases hlist : candidates.filter fun n =>
      n.health == .online && n.acceptsUsers (counts.of n.id) with
  | nil =>
    rw [hlist] at hbest
    cases hbest
  | cons first rest =>
    rw [hlist] at hbest hready
    have hmem : best ∈ first :: rest := by
      rcases mem_of_foldl_betterTarget hbest with hnone | hmem
      · cases hnone
      · exact hmem
    have hsub : first :: rest ⊆ candidates := fun m hm => ((hready m).1 hm).1
    have hleast := (h.mono hsub).rank_le_of_foldl hbest
    obtain ⟨hcandidate, hbestReady⟩ := (hready best).1 hmem
    exact ⟨best,
      ⟨hcandidate, hbestReady, fun m hm hmReady => hleast m ((hready m).2 ⟨hm, hmReady⟩)⟩,
      rfl⟩

/-- All nodes of least rank have the same number. -/
theorem IsFirst.id_eq {n m : Node} (hn : IsFirst candidates counts preferred n)
    (hm : IsFirst candidates counts preferred m) : n.id = m.id :=
  Node.id_eq_of_rank_eq
    (le_antisymm (hn.rank_le m hm.mem hm.ready) (hm.rank_le n hn.mem hn.ready))

/-- A user is left out if there is no node to be given, and gets the first one in the order of
choice otherwise; the order in which the candidates are listed does not matter. -/
theorem pickTarget_optimal (candidates : List Node) (counts : UserCounts) (preferred : List Int)
    (hnonneg : ∀ n ∈ candidates, 0 ≤ counts.of n.id)
    (hsmall : ∀ n ∈ candidates, ∀ m ∈ candidates, counts.of n.id * max m.weight 1 < 2 ^ 50) :
    (pickTarget candidates counts preferred = none ↔ ∀ n ∈ candidates, ¬n.Ready counts) ∧
    (∀ id, pickTarget candidates counts preferred = some id ↔
      ∃ n, IsFirst candidates counts preferred n ∧ n.id = id) ∧
    ∀ others, candidates.Perm others →
      pickTarget others counts preferred = pickTarget candidates counts preferred := by
  have hcomparable : Node.Comparable counts candidates := ⟨hnonneg, hsmall⟩
  have hnone {nodes : List Node} :
      pickTarget nodes counts preferred = none ↔ ∀ n ∈ nodes, ¬n.Ready counts := by
    rw [pickTarget_eq_none]
    simp [Node.ready_iff]
  have hsome {nodes : List Node} (h : Node.Comparable counts nodes) (id : Int) :
      pickTarget nodes counts preferred = some id ↔
        ∃ n, IsFirst nodes counts preferred n ∧ n.id = id := by
    refine ⟨isFirst_of_pickTarget h, ?_⟩
    rintro ⟨n, hn, rfl⟩
    obtain ⟨other, hother⟩ : ∃ other, pickTarget nodes counts preferred = some other := by
      rw [← Option.ne_none_iff_exists', Ne, hnone]
      exact fun h => h n hn.mem hn.ready
    obtain ⟨m, hm, rfl⟩ := isFirst_of_pickTarget h hother
    rw [hother, hm.id_eq hn]
  refine ⟨hnone, hsome hcomparable, ?_⟩
  intro others hperm
  have hfirst (n : Node) : IsFirst others counts preferred n ↔
      IsFirst candidates counts preferred n := by
    constructor
    · rintro ⟨hmem, hready, hleast⟩
      exact ⟨hperm.mem_iff.2 hmem, hready, fun m hm => hleast m (hperm.mem_iff.1 hm)⟩
    · rintro ⟨hmem, hready, hleast⟩
      exact ⟨hperm.mem_iff.1 hmem, hready, fun m hm => hleast m (hperm.mem_iff.2 hm)⟩
  apply Option.ext
  intro id
  rw [hsome hcomparable, hsome (hcomparable.mono hperm.symm.subset)]
  simp only [hfirst]

/-- An online node with a number, a weight and a limit. -/
def onlineNode (id weight maxUsers : Int) : Node where
  id := id
  name := "n"
  region := ""
  address := "10.0.0.1"
  port := 443
  weight := weight
  maxUsers := maxUsers
  enabled := true
  health := .online
  latency := 0
  lastSeenAt := none
  syncStatus := .synced
  syncedAt := none
  configRevision := 1
  appliedRevision := 1
  syncError := none
  tags := "[]"
  whitelist := "[]"
  createdAt := ""
  updatedAt := ""

/-- Two nodes with two users for each unit of weight, and a preferred one that is full. -/
def evenNodes : List Node := [onlineNode 2 3 0, onlineNode 1 1 0, onlineNode 3 0 1]

def evenCounts : UserCounts := [(1, 2), (2, 6), (3, 1)]

/-- Of equal shares of different numbers, the smaller number decides, in either order. -/
theorem pickTarget_optimal_even :
    (∀ n ∈ evenNodes, 0 ≤ evenCounts.of n.id) ∧
    (∀ n ∈ evenNodes, ∀ m ∈ evenNodes, evenCounts.of n.id * max m.weight 1 < 2 ^ 50) ∧
    pickTarget evenNodes evenCounts [3] = some 1 ∧
    (∃ n, IsFirst evenNodes evenCounts [3] n ∧ n.id = 1) ∧
    pickTarget evenNodes.reverse evenCounts [3] = some 1 := by
  have hnonneg : ∀ n ∈ evenNodes, 0 ≤ evenCounts.of n.id := by decide +kernel
  have hsmall : ∀ n ∈ evenNodes, ∀ m ∈ evenNodes,
      evenCounts.of n.id * max m.weight 1 < 2 ^ 50 := by decide +kernel
  have hpick : pickTarget evenNodes evenCounts [3] = some 1 := by decide +kernel
  obtain ⟨-, hsome, hperm⟩ := pickTarget_optimal evenNodes evenCounts [3] hnonneg hsmall
  refine ⟨hnonneg, hsmall, hpick, (hsome 1).1 hpick, ?_⟩
  rw [hperm _ evenNodes.reverse_perm.symm, hpick]

end Choice

end NodeFleet
