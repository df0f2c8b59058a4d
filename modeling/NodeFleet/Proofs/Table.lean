import Mathlib.Data.List.Nodup
import NodeFleet.Fleet.Tables

/-!
# Rows with keys

A table is a list of rows, and its keys stay distinct. `upsert` puts a row in the place of the one
with its key; up to order, it removes that row and adds the new one.
-/

namespace NodeFleet

section Upsert

variable {α κ : Type} [DecidableEq κ] {key : α → κ} {row : α} {rows : List α}

/-- A row after an upsert is the new one, or an old one with another key. -/
theorem mem_upsert {x : α} :
    x ∈ upsert key row rows ↔ x = row ∨ (x ∈ rows ∧ key x ≠ key row) := by
  unfold upsert
  split
  · next h =>
    simp only [List.any_eq_true, decide_eq_true_eq] at h
    obtain ⟨r, hr, hk⟩ := h
    simp only [List.mem_map]
    constructor
    · rintro ⟨a, ha, rfl⟩
      by_cases hak : key a = key row
      · exact .inl (if_pos hak)
      · rw [if_neg hak]
        exact .inr ⟨ha, hak⟩
    · rintro (rfl | ⟨hx, hne⟩)
      · exact ⟨r, hr, if_pos hk⟩
      · exact ⟨x, hx, if_neg hne⟩
  · next h =>
    simp only [List.any_eq_true, decide_eq_true_eq, not_exists, not_and] at h
    simp only [List.mem_append, List.mem_singleton]
    constructor
    · rintro (hx | rfl)
      · exact .inr ⟨hx, h x hx⟩
      · exact .inl rfl
    · rintro (rfl | ⟨hx, -⟩)
      · exact .inr rfl
      · exact .inl hx

/-- Replacing the row of a key keeps the keys in their places. -/
theorem map_key_replace :
    (rows.map fun r => if key r = key row then row else r).map key = rows.map key := by
  rw [List.map_map]
  apply List.map_congr_left
  intro r _
  by_cases h : key r = key row
  · simp [h]
  · simp [h]

theorem nodup_map_upsert (h : (rows.map key).Nodup) :
    ((upsert key row rows).map key).Nodup := by
  unfold upsert
  split
  · rw [map_key_replace]
    exact h
  · next hnone =>
    simp only [List.any_eq_true, decide_eq_true_eq, not_exists, not_and] at hnone
    rw [List.map_append, List.nodup_append]
    refine ⟨h, by simp, ?_⟩
    intro k hk k' hk'
    obtain ⟨r, hr, rfl⟩ := List.mem_map.1 hk
    simp only [List.map_cons, List.map_nil, List.mem_singleton] at hk'
    rw [hk']
    exact hnone r hr

theorem upsert_cons_of_ne {r : α} (h : key r ≠ key row) :
    upsert key row (r :: rows) = r :: upsert key row rows := by
  simp only [upsert, List.any_cons, h, decide_false, Bool.false_or, List.map_cons, if_false]
  split <;> rfl

/-- Up to order, an upsert takes away the row with the key and adds the new row. -/
theorem upsert_perm (h : (rows.map key).Nodup) :
    (upsert key row rows).Perm (row :: rows.filter (key · ≠ key row)) := by
  induction rows with
  | nil => simp [upsert]
  | cons r rs ih =>
    simp only [List.map_cons, List.nodup_cons] at h
    by_cases hk : key r = key row
    · -- the keys are distinct, so no later row has the key
      have hrest : ∀ x ∈ rs, key x ≠ key row := by
        intro x hx he
        exact h.1 (List.mem_map.2 ⟨x, hx, he.trans hk.symm⟩)
      have hmap : (rs.map fun x => if key x = key row then row else x) = rs := by
        conv_rhs => rw [← List.map_id rs]
        exact List.map_congr_left fun x hx => if_neg (hrest x hx)
      have hfilter : rs.filter (key · ≠ key row) = rs := by
        rw [List.filter_eq_self]
        simpa using hrest
      have hupsert : upsert key row (r :: rs) = row :: rs := by
        simp only [upsert, List.any_cons, hk, decide_true, Bool.true_or, if_true, List.map_cons,
          hmap]
      rw [hupsert, List.filter_cons_of_neg (by simpa using hk), hfilter]
    · rw [upsert_cons_of_ne hk, List.filter_cons_of_pos (by simpa using hk)]
      exact ((ih h.2).cons r).trans (.swap _ _ _)

theorem find?_replace {k : κ} (h : key row ≠ k) :
    (rows.map fun r => if key r = key row then row else r).find? (key · = k) =
      rows.find? (key · = k) := by
  induction rows with
  | nil => rfl
  | cons r rs ih =>
    rw [List.map_cons, List.find?_cons, List.find?_cons, ih]
    by_cases hr : key r = key row
    · simp [hr, h]
    · simp [hr]

/-- The row of a key after an upsert. -/
theorem find?_upsert (k : κ) :
    (upsert key row rows).find? (key · = k) =
      if key row = k then some row else rows.find? (key · = k) := by
  induction rows with
  | nil => by_cases h : key row = k <;> simp [upsert, h]
  | cons r rs ih =>
    by_cases hr : key r = key row
    · have hupsert : upsert key row (r :: rs) =
          row :: rs.map fun x => if key x = key row then row else x := by
        simp only [upsert, List.any_cons, hr, decide_true, Bool.true_or, if_true, List.map_cons]
      rw [hupsert, List.find?_cons, List.find?_cons]
      by_cases h : key row = k
      · simp [h]
      · simp [h, hr, find?_replace h]
    · rw [upsert_cons_of_ne hr, List.find?_cons, List.find?_cons, ih]
      by_cases hk : key r = k
      · have : key row ≠ k := fun h => hr (hk.trans h.symm)
        simp [hk, this]
      · simp [hk]

/-- The row of a key after the rows of a key are gone. -/
theorem find?_filter_key (k k' : κ) :
    (rows.filter (key · ≠ k)).find? (key · = k') =
      if k = k' then none else rows.find? (key · = k') := by
  split
  · next h =>
    subst h
    rw [List.find?_eq_none]
    intro r hr
    exact fun he => of_decide_eq_true (List.mem_filter.1 hr).2 (of_decide_eq_true he)
  · next h =>
    rw [List.find?_filter]
    congr 1
    funext r
    by_cases hr : key r = k'
    · simp [hr, Ne.symm h]
    · simp [hr]

/-- The row of a key, where keys are distinct. -/
theorem find?_key_eq_some (h : (rows.map key).Nodup) {k : κ} :
    rows.find? (key · = k) = some row ↔ row ∈ rows ∧ key row = k := by
  constructor
  · intro hfind
    exact ⟨List.mem_of_find?_eq_some hfind, by simpa using List.find?_some hfind⟩
  · rintro ⟨hmem, rfl⟩
    cases hfind : rows.find? (key · = key row) with
    | none =>
      have := List.find?_eq_none.1 hfind row hmem
      simp at this
    | some r =>
      have hr : key r = key row := by simpa using List.find?_some hfind
      rw [List.inj_on_of_nodup_map h (List.mem_of_find?_eq_some hfind) hmem hr]

end Upsert

/-- Numbers stay in ascending order, and bounded by the last one, when the next one is added. -/
theorem pairwise_append_next {ids : List Int} {last : Int} (h : ids.Pairwise (· < ·))
    (hle : ∀ i ∈ ids, i ≤ last) :
    (ids ++ [last + 1]).Pairwise (· < ·) ∧ ∀ i ∈ ids ++ [last + 1], i ≤ last + 1 := by
  constructor
  · rw [List.pairwise_append]
    refine ⟨h, by simp, ?_⟩
    intro i hi j hj
    obtain rfl := List.mem_singleton.1 hj
    have := hle i hi
    omega
  · intro i hi
    rcases List.mem_append.1 hi with hi | hi
    · have := hle i hi
      omega
    · obtain rfl := List.mem_singleton.1 hi
      omega

end NodeFleet
