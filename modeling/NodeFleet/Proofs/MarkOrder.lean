import Mathlib.Data.List.Chain
import NodeFleet.Proofs.RunLength
import NodeFleet.Unicode.Normal

/-!
# The order of marks

Marks of different combining classes may change places. Putting them into order undoes each such
change, so that texts are in the same order when one comes from the other by such changes.
-/

namespace NodeFleet.Unicode

/-! ### Combining classes -/

theorem combiningClass_eq (c : Char) :
    combiningClass c = Text.valueFrom c.toNat 0 combiningRuns := by
  rw [combiningClass, combiningClasses, Text.RunMap.get_ofRuns]

/-- The marks come after all of ASCII. -/
theorem combiningClass_of_lt {c : Char} (h : c.toNat < 0x300) : combiningClass c = 0 := by
  have hall : ∀ n < 0x300, Text.valueFrom n 0 combiningRuns = 0 := by decide +kernel
  rw [combiningClass_eq, hall _ h]

/-! ### Changing places -/

/-- Texts that come from each other when neighbouring marks of different classes change places. -/
inductive Reordered : List Char → List Char → Prop
  | nil : Reordered [] []
  | cons (c : Char) {cs ds : List Char} : Reordered cs ds → Reordered (c :: cs) (c :: ds)
  | swap (a b : Char) (cs : List Char) : combiningClass a ≠ 0 → combiningClass b ≠ 0 →
      combiningClass a ≠ combiningClass b → Reordered (a :: b :: cs) (b :: a :: cs)
  | trans {cs ds es : List Char} : Reordered cs ds → Reordered ds es → Reordered cs es

namespace Reordered

theorem refl (cs : List Char) : Reordered cs cs := by
  induction cs with
  | nil => exact .nil
  | cons c cs ih => exact .cons c ih

theorem append_left (before : List Char) {cs ds : List Char} (h : Reordered cs ds) :
    Reordered (before ++ cs) (before ++ ds) := by
  induction before with
  | nil => exact h
  | cons c before ih => exact .cons c ih

theorem append_right {cs ds : List Char} (h : Reordered cs ds) (after : List Char) :
    Reordered (cs ++ after) (ds ++ after) := by
  induction h with
  | nil => exact refl after
  | cons c _ ih => exact .cons c ih
  | swap a b cs ha hb hne => exact .swap a b (cs ++ after) ha hb hne
  | trans _ _ ih ih' => exact .trans ih ih'

theorem mem_iff {cs ds : List Char} (h : Reordered cs ds) (c : Char) : c ∈ cs ↔ c ∈ ds := by
  induction h with
  | nil => exact Iff.rfl
  | cons d _ ih => rw [List.mem_cons, List.mem_cons, ih]
  | swap a b cs => simp only [List.mem_cons, or_left_comm]
  | trans _ _ ih ih' => exact ih.trans ih'

/-- A mark passes marks of other classes. -/
theorem pass {c : Char} {marks : List Char} (hc : combiningClass c ≠ 0)
    (hmarks : ∀ d ∈ marks, combiningClass d ≠ 0 ∧ combiningClass d ≠ combiningClass c)
    (after : List Char) : Reordered (c :: (marks ++ after)) (marks ++ c :: after) := by
  induction marks with
  | nil => exact refl _
  | cons d marks ih =>
    obtain ⟨hd, hne⟩ := hmarks d List.mem_cons_self
    exact .trans (.swap c d (marks ++ after) hc hd hne.symm)
      (.cons d (ih fun e he => hmarks e (List.mem_cons_of_mem _ he)))

end Reordered

/-! ### Putting marks into order -/

theorem insertMark_comm {a b : Char} (hne : combiningClass a ≠ combiningClass b)
    (marks : List Char) :
    insertMark b (insertMark a marks) = insertMark a (insertMark b marks) := by
  induction marks with
  | nil =>
    rcases Nat.lt_or_gt_of_ne hne with hlt | hlt
    · have hge := Nat.not_lt_of_gt hlt
      simp only [insertMark, if_pos hlt, if_neg hge]
    · have hge := Nat.not_lt_of_gt hlt
      simp only [insertMark, if_pos hlt, if_neg hge]
  | cons d marks ih =>
    by_cases ha : combiningClass a < combiningClass d <;>
      by_cases hb : combiningClass b < combiningClass d
    · simp only [insertMark, if_pos ha, if_pos hb, ih]
    · have hab : combiningClass a < combiningClass b := by omega
      have hba := Nat.not_lt_of_gt hab
      simp only [insertMark, if_pos ha, if_neg hb, if_pos hab]
    · have hba : combiningClass b < combiningClass a := by omega
      have hab := Nat.not_lt_of_gt hba
      simp only [insertMark, if_neg ha, if_pos hb, if_pos hba]
    · rcases Nat.lt_or_gt_of_ne hne with hlt | hlt
      · have hge := Nat.not_lt_of_gt hlt
        simp only [insertMark, if_neg ha, if_neg hb, if_pos hlt, if_neg hge]
      · have hge := Nat.not_lt_of_gt hlt
        simp only [insertMark, if_neg ha, if_neg hb, if_pos hlt, if_neg hge]

/-- Reordered texts are put into the same order. -/
theorem orderMarks_congr {cs ds : List Char} (h : Reordered cs ds) (marks : List Char) :
    orderMarks marks cs = orderMarks marks ds := by
  induction h generalizing marks with
  | nil => rfl
  | cons c _ ih => rw [orderMarks, orderMarks, ih, ih]
  | swap a b cs ha hb hne =>
    simp only [orderMarks, if_neg ha, if_neg hb, insertMark_comm hne]
  | trans _ _ ih ih' => rw [ih, ih']

theorem reordered_insertMark {c : Char} {marks : List Char} (hc : combiningClass c ≠ 0)
    (hmarks : ∀ d ∈ marks, combiningClass d ≠ 0) :
    Reordered (insertMark c marks).reverse (marks.reverse ++ [c]) := by
  induction marks with
  | nil => exact .refl _
  | cons d marks ih =>
    rw [insertMark]
    split
    · next hlt =>
      have hd : combiningClass d ≠ 0 := hmarks d List.mem_cons_self
      have hrest : Reordered (insertMark c marks).reverse (marks.reverse ++ [c]) :=
        ih fun e he => hmarks e (List.mem_cons_of_mem _ he)
      rw [List.reverse_cons, List.reverse_cons, List.append_assoc]
      refine .trans (hrest.append_right [d]) ?_
      rw [List.append_assoc]
      exact .append_left _ (.swap c d [] hc hd (Nat.ne_of_lt hlt))
    · rw [List.reverse_cons]
      exact .refl _

theorem mem_insertMark {c d : Char} {marks : List Char} (h : d ∈ insertMark c marks) :
    d = c ∨ d ∈ marks := by
  induction marks with
  | nil => exact .inl (List.mem_singleton.1 h)
  | cons e marks ih =>
    rw [insertMark] at h
    split at h
    · rcases List.mem_cons.1 h with rfl | h
      · exact .inr List.mem_cons_self
      · exact (ih h).imp_right (List.mem_cons_of_mem _)
    · exact List.mem_cons.1 h

/-- Putting marks into order only lets them change places. -/
theorem reordered_orderMarks {marks : List Char} (hmarks : ∀ d ∈ marks, combiningClass d ≠ 0)
    (cs : List Char) : Reordered (orderMarks marks cs) (marks.reverse ++ cs) := by
  induction cs generalizing marks with
  | nil =>
    rw [orderMarks, List.append_nil]
    exact .refl _
  | cons c cs ih =>
    rw [orderMarks]
    split
    · exact .append_left _ (.cons c (@ih [] (by simp)))
    · next hc =>
      have hinsert : ∀ d ∈ insertMark c marks, combiningClass d ≠ 0 := by
        intro d hd
        rcases mem_insertMark hd with rfl | hd
        · exact hc
        · exact hmarks d hd
      refine .trans (ih hinsert) (.trans ((reordered_insertMark hc hmarks).append_right cs) ?_)
      rw [List.append_assoc]
      exact .refl _

/-- No mark passes a starter. -/
theorem orderMarks_append_starter {c : Char} (hc : combiningClass c = 0) (marks cs ds : List Char) :
    orderMarks marks (cs ++ c :: ds) = orderMarks marks cs ++ c :: orderMarks [] ds := by
  induction cs generalizing marks with
  | nil => simp only [List.nil_append, orderMarks, if_pos hc]
  | cons d cs ih =>
    rw [List.cons_append, orderMarks, orderMarks]
    split
    · rw [ih, List.append_assoc, List.cons_append]
    · exact ih _

/-! ### Texts in order -/

/-- Two neighbours are in order if the second is no mark or not of a lower class. -/
def InOrder (a b : Char) : Prop := combiningClass b = 0 ∨ combiningClass a ≤ combiningClass b

/-- The marks of a run under way, in reverse: none is of a higher class than one before it. -/
def Descending (marks : List Char) : Prop :=
  marks.Pairwise fun c d => combiningClass d ≤ combiningClass c

theorem descending_insertMark {marks : List Char} (h : Descending marks) (c : Char) :
    Descending (insertMark c marks) := by
  induction marks with
  | nil => exact List.pairwise_singleton _ _
  | cons d marks ih =>
    obtain ⟨hd, hrest⟩ := List.pairwise_cons.1 h
    rw [insertMark]
    split
    · next hlt =>
      refine List.pairwise_cons.2 ⟨fun e he => ?_, ih hrest⟩
      rcases mem_insertMark he with rfl | he
      · exact Nat.le_of_lt hlt
      · exact hd e he
    · next hge =>
      have hle : combiningClass d ≤ combiningClass c := Nat.le_of_not_lt hge
      refine List.pairwise_cons.2 ⟨fun e he => ?_, h⟩
      rcases List.mem_cons.1 he with rfl | he
      · exact hle
      · exact Nat.le_trans (hd e he) hle

theorem isChain_reverse {marks : List Char} (h : Descending marks) :
    marks.reverse.IsChain InOrder := by
  refine List.Pairwise.isChain (List.pairwise_reverse.2 (h.imp fun hle => .inr hle))

/-- What is put into order is in order. -/
theorem isChain_orderMarks {marks : List Char} (h : Descending marks) (cs : List Char) :
    (orderMarks marks cs).IsChain InOrder := by
  induction cs generalizing marks with
  | nil => exact isChain_reverse h
  | cons c cs ih =>
    rw [orderMarks]
    split
    · next hc =>
      have hrest : (orderMarks [] cs).IsChain InOrder := ih .nil
      have hcons : (c :: orderMarks [] cs).IsChain InOrder := by
        refine List.isChain_cons.2 ⟨fun d _ => .inr ?_, hrest⟩
        rw [hc]
        exact Nat.zero_le _
      refine List.isChain_append.2 ⟨isChain_reverse h, hcons, fun a _ b hb => .inl ?_⟩
      obtain rfl : c = b := Option.some.inj hb
      exact hc
    · exact ih (descending_insertMark h c)

end NodeFleet.Unicode
