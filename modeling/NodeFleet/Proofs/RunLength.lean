import Mathlib.Data.List.GetD
import NodeFleet.Unicode.HostMapping

/-!
# Looking up runs of code points

Halving finds the run of a code point: the one before which all bounds are at most the code point.
So a table can be read run by run from its beginning.
-/

namespace NodeFleet

namespace Text

/-! ### Bounds -/

/-- Halving ends at a place that parts the bounds, if they ascend. -/
theorem countUpTo_spec {bounds : Array Nat} {n low high : Nat}
    (hascend : ∀ i j, i ≤ j → j < high → bounds.getD i 0 ≤ bounds.getD j 0) (hle : low ≤ high) :
    low ≤ countUpTo bounds n low high ∧ countUpTo bounds n low high ≤ high ∧
      (∀ i, low ≤ i → i < countUpTo bounds n low high → bounds.getD i 0 ≤ n) ∧
      ∀ i, countUpTo bounds n low high ≤ i → i < high → n < bounds.getD i 0 := by
  induction low, high using countUpTo.induct bounds n with
  | case1 low high hlt middle hbound ih =>
    have hmiddle : middle = (low + high) / 2 := rfl
    have hstep : countUpTo bounds n low high = countUpTo bounds n (middle + 1) high := by
      rw [countUpTo, dif_pos hlt]
      exact if_pos hbound
    obtain ⟨hlow, hhigh, hbefore, hafter⟩ := ih hascend (by omega)
    rw [hstep]
    refine ⟨by omega, hhigh, fun i _ hi => ?_, hafter⟩
    by_cases hile : i ≤ middle
    · exact Nat.le_trans (hascend i middle hile (by omega)) hbound
    · exact hbefore i (by omega) hi
  | case2 low high hlt middle hbound ih =>
    have hmiddle : middle = (low + high) / 2 := rfl
    have hstep : countUpTo bounds n low high = countUpTo bounds n low middle := by
      rw [countUpTo, dif_pos hlt]
      exact if_neg hbound
    obtain ⟨hlow, hhigh, hbefore, hafter⟩ :=
      ih (fun i j hij hj => hascend i j hij (by omega)) (by omega)
    rw [hstep]
    refine ⟨hlow, by omega, hbefore, fun i hi hihigh => ?_⟩
    by_cases hilt : i < middle
    · exact hafter i hi hilt
    · exact Nat.lt_of_lt_of_le (Nat.lt_of_not_le hbound) (hascend middle i (by omega) hihigh)
  | case3 low high hge =>
    rw [countUpTo, dif_neg hge]
    exact ⟨Nat.le_refl _, hle, fun i hi hlt => absurd hlt (by omega),
      fun i hi hlt => absurd hlt (by omega)⟩

/-- The number of bounds at most `n` that come first. -/
def boundsUpTo (n : Nat) (bounds : List Nat) : Nat := (bounds.takeWhile (· ≤ n)).length

theorem boundsUpTo_eq {n r : Nat} {bounds : List Nat} (hr : r ≤ bounds.length)
    (hbefore : ∀ i < r, bounds.getD i 0 ≤ n)
    (hafter : ∀ i, r ≤ i → i < bounds.length → n < bounds.getD i 0) : boundsUpTo n bounds = r := by
  induction bounds generalizing r with
  | nil => exact (Nat.le_zero.1 hr).symm
  | cons b bounds ih =>
    unfold boundsUpTo
    cases r with
    | zero =>
      have hb : n < b := hafter 0 (Nat.le_refl 0) (Nat.succ_pos _)
      rw [List.takeWhile_cons_of_neg (by simpa using hb)]
      rfl
    | succ r =>
      have hb : b ≤ n := hbefore 0 (Nat.succ_pos r)
      rw [List.takeWhile_cons_of_pos (by simpa using hb), List.length_cons]
      refine congrArg (· + 1) (ih (Nat.le_of_succ_le_succ hr) ?_ ?_)
      · exact fun i hi => hbefore (i + 1) (Nat.succ_lt_succ hi)
      · exact fun i hi hlt => hafter (i + 1) (Nat.succ_le_succ hi) (Nat.succ_lt_succ hlt)

theorem boundsUpTo_mono {n m : Nat} (h : n ≤ m) (bounds : List Nat) :
    boundsUpTo n bounds ≤ boundsUpTo m bounds := by
  induction bounds with
  | nil => exact Nat.le_refl _
  | cons b bounds ih =>
    unfold boundsUpTo
    by_cases hb : b ≤ n
    · rw [List.takeWhile_cons_of_pos (by simpa using hb),
        List.takeWhile_cons_of_pos (by simpa using Nat.le_trans hb h)]
      exact Nat.succ_le_succ ih
    · rw [List.takeWhile_cons_of_neg (by simpa using hb)]
      exact Nat.zero_le _

/-- Between two code points of one run there are only code points of this run. -/
theorem boundsUpTo_of_between {low n high : Nat} {bounds : List Nat} (hlow : low ≤ n)
    (hhigh : n ≤ high) (h : boundsUpTo low bounds = boundsUpTo high bounds) :
    boundsUpTo n bounds = boundsUpTo low bounds :=
  Nat.le_antisymm (h ▸ boundsUpTo_mono hhigh bounds) (boundsUpTo_mono hlow bounds)

theorem le_of_mem_runningTotals {total b : Nat} {lengths : List Nat}
    (h : b ∈ runningTotals total lengths) : total ≤ b := by
  induction lengths generalizing total with
  | nil => cases h
  | cons length lengths ih =>
    rcases List.mem_cons.1 h with rfl | h
    · exact Nat.le_add_right _ _
    · exact Nat.le_trans (Nat.le_add_right _ _) (ih h)

theorem pairwise_runningTotals (total : Nat) (lengths : List Nat) :
    (runningTotals total lengths).Pairwise (· ≤ ·) := by
  induction lengths generalizing total with
  | nil => exact .nil
  | cons length lengths ih =>
    exact List.pairwise_cons.2 ⟨fun b hb => le_of_mem_runningTotals hb, ih _⟩

theorem getD_toArray {α : Type} (xs : List α) (i : Nat) (d : α) :
    xs.toArray.getD i d = xs.getD i d := by
  simp

/-- Halving counts the bounds that come first. -/
theorem countUpTo_eq {bounds : List Nat} (hascend : bounds.Pairwise (· ≤ ·)) (n : Nat) :
    countUpTo bounds.toArray n 0 bounds.toArray.size = boundsUpTo n bounds := by
  have hmono : ∀ i j, i ≤ j → j < bounds.toArray.size →
      bounds.toArray.getD i 0 ≤ bounds.toArray.getD j 0 := by
    intro i j hij hj
    rw [List.size_toArray] at hj
    rw [getD_toArray, getD_toArray, List.getD_eq_getElem _ _ (by omega),
      List.getD_eq_getElem _ _ hj]
    rcases Nat.lt_or_eq_of_le hij with hlt | rfl
    · exact List.pairwise_iff_getElem.1 hascend i j _ _ hlt
    · exact Nat.le_refl _
  obtain ⟨-, hle, hbefore, hafter⟩ := countUpTo_spec (n := n) hmono (Nat.zero_le _)
  refine (boundsUpTo_eq hle ?_ ?_).symm
  · intro i hi
    rw [← getD_toArray]
    exact hbefore i (Nat.zero_le i) hi
  · intro i hi hlt
    rw [← getD_toArray]
    exact hafter i hi hlt

/-- A set can be read by counting the bounds that come first. -/
theorem RunTable.contains_ofLengths (lengths : List Nat) (n : Nat) :
    (RunTable.ofLengths lengths).contains n =
      (boundsUpTo n (runningTotals 0 lengths) % 2 == 1) := by
  rw [RunTable.contains, RunTable.ofLengths, countUpTo_eq (pairwise_runningTotals _ _)]

/-! ### Values -/

theorem RunMap.get_ofRuns_bounds (runs : List (Nat × Nat)) (n : Nat) :
    (RunMap.ofRuns runs).get n =
      (runs.map (·.2)).getD (boundsUpTo n (runningTotals 0 (runs.dropLast.map (·.1)))) 0 := by
  unfold RunMap.ofRuns RunMap.get
  dsimp only
  rw [countUpTo_eq (pairwise_runningTotals _ _), getD_toArray]

/-- The value of the run of a code point, looked for from the beginning; the last value holds for
all that is left. -/
def valueFrom (n start : Nat) : List (Nat × Nat) → Nat
  | [] => 0
  | [(_, value)] => value
  | (length, value) :: run :: runs =>
    if n < start + length then value else valueFrom n (start + length) (run :: runs)

/-- A map can be read from the beginning. -/
theorem RunMap.get_ofRuns (runs : List (Nat × Nat)) (n : Nat) :
    (RunMap.ofRuns runs).get n = valueFrom n 0 runs := by
  have hlist (start : Nat) : (runs.map (·.2)).getD
      (boundsUpTo n (runningTotals start (runs.dropLast.map (·.1)))) 0 =
        valueFrom n start runs := by
    induction runs generalizing start with
    | nil => rfl
    | cons first runs ih =>
      cases runs with
      | nil => rfl
      | cons run runs =>
        change (first.2 :: (run :: runs).map (·.2)).getD (boundsUpTo n ((start + first.1) ::
            runningTotals (start + first.1) ((run :: runs).dropLast.map (·.1)))) 0 =
          if n < start + first.1 then first.2 else valueFrom n (start + first.1) (run :: runs)
        unfold boundsUpTo
        split
        · next hlt =>
          rw [List.takeWhile_cons_of_neg (by simpa using hlt)]
          rfl
        · next hle =>
          rw [List.takeWhile_cons_of_pos (by simpa using hle), List.length_cons,
            List.getD_cons_succ]
          exact ih (start + first.1)
  rw [RunMap.get_ofRuns_bounds, hlist 0]

end Text

end NodeFleet
