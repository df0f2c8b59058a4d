import Mathlib.Data.List.Forall2
import NodeFleet.Text.Blank
import NodeFleet.Text.Hex
import NodeFleet.Text.Integer
import NodeFleet.Text.Split

/-!
# Digits and pieces

Reading the digits of a number gives the number back, whatever follows them. The digits are none of
the characters that separate pieces of a text, so cutting such a text gives its pieces back.
-/

namespace NodeFleet.Text

/-! ### Digits -/

/-- A digit of a number is the digit of a value below the base. -/
theorem mem_toDigits {b n : Nat} (hb : 1 < b) {c : Char} (h : c ∈ Nat.toDigits b n) :
    ∃ d < b, c = Nat.digitChar d := by
  induction n using Nat.strongRecOn with
  | ind n ih =>
    by_cases hn : n < b
    · rw [Nat.toDigits_of_lt_base hn] at h
      exact ⟨n, hn, List.mem_singleton.1 h⟩
    · rw [Nat.toDigits_of_base_le hb (by omega), List.mem_append] at h
      rcases h with h | h
      · exact ih (n / b) (Nat.div_lt_self (by omega) hb) h
      · exact ⟨n % b, Nat.mod_lt _ (by omega), List.mem_singleton.1 h⟩

theorem digit?_digitChar {d : Nat} (h : d < 10) : digit? (Nat.digitChar d) = some d := by
  have all : ∀ m ∈ List.range 10, digit? (Nat.digitChar m) = some m := by decide
  exact all d (List.mem_range.2 h)

theorem hexValue?_digitChar {d : Nat} (h : d < 16) : hexValue? (Nat.digitChar d) = some d := by
  have all : ∀ m ∈ List.range 16, hexValue? (Nat.digitChar m) = some m := by decide
  exact all d (List.mem_range.2 h)

/-- The digits of a number that is not too large lead to the number, whatever follows. -/
theorem readDigits_toDigits {limit n : Nat} {beyond : IntegerFault} (h : n ≤ limit)
    (cs : List Char) :
    readDigits limit beyond 0 (Nat.toDigits 10 n ++ cs) = readDigits limit beyond n cs := by
  induction n using Nat.strongRecOn generalizing cs with
  | ind n ih =>
    by_cases hn : n < 10
    · rw [Nat.toDigits_of_lt_base hn]
      simp [readDigits, digit?_digitChar hn, h]
    · rw [Nat.toDigits_of_base_le (by decide) (by omega), List.append_assoc, List.singleton_append,
        ih (n / 10) (by omega) (by omega)]
      have hsum : 10 * (n / 10) + n % 10 = n := Nat.div_add_mod n 10
      simp only [readDigits, digit?_digitChar (Nat.mod_lt n (by decide : 10 > 0)), hsum, if_pos h]

theorem readNat_toDigits {limit n : Nat} (h : n ≤ limit) :
    readNat limit (Nat.toDigits 10 n) = .ok n := by
  have hread : readDigits limit .tooLarge 0 (Nat.toDigits 10 n) = .ok n := by
    have hdigits : readDigits limit .tooLarge 0 (Nat.toDigits 10 n ++ []) = .ok n :=
      readDigits_toDigits h []
    rwa [List.append_nil] at hdigits
  have hplus : '+' ∉ Nat.toDigits 10 n := by
    intro hmem
    obtain ⟨d, hd, hc⟩ := mem_toDigits (by decide) hmem
    have hdigit := digit?_digitChar hd
    rw [← hc] at hdigit
    cases hdigit
  unfold readNat
  split
  · next hnil => exact absurd hnil Nat.toDigits_ne_nil
  · next hsign => exact absurd (hsign ▸ List.mem_cons_self) hplus
  · next hsign => exact absurd (hsign ▸ List.mem_cons_self) hplus
  · exact hread

/-- The digits stand apart from the characters between them, and are not blank. -/
theorem digitChar_ne {d : Nat} (h : d < 16) :
    Nat.digitChar d ≠ '.' ∧ Nat.digitChar d ≠ ':' ∧ Nat.digitChar d ≠ '/' ∧
      isBlank (Nat.digitChar d) = false := by
  have all : ∀ m ∈ List.range 16, Nat.digitChar m ≠ '.' ∧ Nat.digitChar m ≠ ':' ∧
      Nat.digitChar m ≠ '/' ∧ isBlank (Nat.digitChar m) = false := by decide
  exact all d (List.mem_range.2 h)

theorem trimChars_of_not_blank {cs : List Char} (h : ∀ c ∈ cs, isBlank c = false) :
    trimChars cs = cs := by
  have hdrop {cs : List Char} (h : ∀ c ∈ cs, isBlank c = false) : cs.dropWhile isBlank = cs := by
    cases cs with
    | nil => rfl
    | cons c cs => simp [h c List.mem_cons_self]
  unfold trimChars trimStart trimEnd
  rw [hdrop h, hdrop fun c hc => h c (List.mem_reverse.1 hc), List.reverse_reverse]

/-! ### Pieces -/

theorem mem_joinAll {sep : List Char} {pieces : List (List Char)} {c : Char}
    (h : c ∈ joinAll sep pieces) : c ∈ sep ∨ ∃ piece ∈ pieces, c ∈ piece := by
  induction pieces with
  | nil => cases h
  | cons piece more ih =>
    cases more with
    | nil => exact .inr ⟨piece, List.mem_cons_self, h⟩
    | cons next more =>
      rw [joinAll, List.mem_append, List.mem_append] at h
      rcases h with (h | h) | h
      · exact .inr ⟨piece, List.mem_cons_self, h⟩
      · exact .inl h
      · rcases ih h with hsep | ⟨p, hp, hc⟩
        · exact .inl hsep
        · exact .inr ⟨p, List.mem_cons_of_mem _ hp, hc⟩

theorem exists_joinAll_cons (sep piece : List Char) (more : List (List Char)) :
    ∃ tail, joinAll sep (piece :: more) = piece ++ tail := by
  cases more with
  | nil => exact ⟨[], (List.append_nil piece).symm⟩
  | cons next more => exact ⟨_, List.append_assoc _ _ _⟩

/-- A character other than the separator stands in one of the pieces. -/
theorem exists_mem_splitAll {sep c : Char} {cs : List Char} (h : c ∈ cs) (hne : c ≠ sep) :
    ∃ piece ∈ splitAll sep cs, c ∈ piece := by
  induction cs with
  | nil => cases h
  | cons d cs ih =>
    unfold splitAll
    split
    · next hd =>
      rcases List.mem_cons.1 h with rfl | h
      · exact absurd hd hne
      · obtain ⟨piece, hpiece, hc⟩ := ih h
        exact ⟨piece, List.mem_cons_of_mem _ hpiece, hc⟩
    · split
      · next hnil => exact absurd hnil (splitAll_ne_nil sep cs)
      · next first more hsplit =>
        rcases List.mem_cons.1 h with rfl | h
        · exact ⟨_, List.mem_cons_self, List.mem_cons_self⟩
        · obtain ⟨piece, hpiece, hc⟩ := ih h
          rw [hsplit] at hpiece
          rcases List.mem_cons.1 hpiece with rfl | hpiece
          · exact ⟨_, List.mem_cons_self, List.mem_cons_of_mem _ hc⟩
          · exact ⟨piece, List.mem_cons_of_mem _ hpiece, hc⟩

/-- A text is its pieces, from the first one on. -/
theorem piece_induction (sep : Char) {motive : List Char → Prop}
    (last : ∀ piece, sep ∉ piece → motive piece)
    (append : ∀ piece rest, sep ∉ piece → motive rest → motive (piece ++ sep :: rest))
    (cs : List Char) : motive cs := by
  induction hlength : cs.length using Nat.strongRecOn generalizing cs with
  | ind n ih =>
    by_cases hsep : sep ∈ cs
    · obtain ⟨piece, rest, rfl, hpiece⟩ := List.eq_append_cons_of_mem hsep
      refine append piece rest hpiece (ih rest.length ?_ rest rfl)
      rw [List.length_append, List.length_cons] at hlength
      omega
    · exact last cs hsep

theorem mem_of_mem_splitAll {sep c : Char} {piece cs : List Char} (hpiece : piece ∈ splitAll sep cs)
    (hc : c ∈ piece) : c ∈ cs ∧ c ≠ sep := by
  induction cs using piece_induction sep with
  | last first hfirst =>
    rw [splitAll_of_not_mem hfirst, List.mem_singleton] at hpiece
    subst hpiece
    exact ⟨hc, fun heq => hfirst (heq ▸ hc)⟩
  | append first rest hfirst ih =>
    rw [splitAll_append rest hfirst] at hpiece
    rcases List.mem_cons.1 hpiece with rfl | hpiece
    · exact ⟨List.mem_append_left _ hc, fun heq => hfirst (heq ▸ hc)⟩
    · obtain ⟨hmem, hne⟩ := ih hpiece
      exact ⟨List.mem_append_right _ (List.mem_cons_of_mem _ hmem), hne⟩

/-- A text around a separator is cut in both of its parts. -/
theorem splitAll_append_cons (sep : Char) (cs ds : List Char) :
    splitAll sep (cs ++ sep :: ds) = splitAll sep cs ++ splitAll sep ds := by
  induction cs using piece_induction sep with
  | last piece hpiece =>
    rw [splitAll_append ds hpiece, splitAll_of_not_mem hpiece]
    rfl
  | append piece rest hpiece ih =>
    rw [List.append_assoc, List.cons_append, splitAll_append _ hpiece, ih,
      splitAll_append _ hpiece]
    rfl

/-- Reading piece by piece succeeds when each piece is read. -/
theorem mapM_eq_some_iff {α β : Type} {f : α → Option β} {xs : List α} {ys : List β} :
    xs.mapM f = some ys ↔ List.Forall₂ (fun x y => f x = some y) xs ys := by
  induction xs generalizing ys with
  | nil => cases ys <;> simp
  | cons x xs ih =>
    rw [List.mapM_cons]
    cases hx : f x with
    | none => cases ys <;> simp [hx]
    | some z =>
      cases ys with
      | nil => cases hxs : xs.mapM f <;> simp
      | cons y ys =>
        rw [List.forall₂_cons, hx, ← ih]
        cases hxs : xs.mapM f <;> simp

theorem mapM_eq_some_map {α β : Type} {f : α → Option β} {g : α → β} {xs : List α}
    (h : ∀ x ∈ xs, f x = some (g x)) : xs.mapM f = some (xs.map g) := by
  rw [mapM_eq_some_iff, List.forall₂_map_right_iff, List.forall₂_same]
  exact h

/-- Pieces are read one part after the other. -/
theorem exists_of_mapM_append {α β : Type} {f : α → Option β} {xs ys : List α} {zs : List β}
    (h : (xs ++ ys).mapM f = some zs) :
    ∃ as bs, xs.mapM f = some as ∧ ys.mapM f = some bs ∧ zs = as ++ bs := by
  rw [List.mapM_append] at h
  obtain ⟨as, has, h⟩ := Option.bind_eq_some_iff.1 h
  obtain ⟨bs, hbs, h⟩ := Option.bind_eq_some_iff.1 h
  exact ⟨as, bs, has, hbs, (Option.some.inj h).symm⟩

theorem exists_of_mem_mapM {α β : Type} {f : α → Option β} {xs : List α} {ys : List β}
    (h : xs.mapM f = some ys) : ∀ y ∈ ys, ∃ x ∈ xs, f x = some y := by
  rw [mapM_eq_some_iff] at h
  induction h with
  | nil => exact fun y hy => nomatch hy
  | cons hxy _ ih =>
    refine List.forall_mem_cons.2 ⟨⟨_, List.mem_cons_self, hxy⟩, fun y hy => ?_⟩
    obtain ⟨x, hx, hfx⟩ := ih y hy
    exact ⟨x, List.mem_cons_of_mem _ hx, hfx⟩

theorem mapM_eq_none_of_mem {α β : Type} {f : α → Option β} {xs : List α} {x : α} (hx : x ∈ xs)
    (h : f x = none) : xs.mapM f = none := by
  induction xs with
  | nil => cases hx
  | cons y xs ih =>
    rw [List.mapM_cons]
    rcases List.mem_cons.1 hx with rfl | hx
    · rw [h]
      rfl
    · rw [ih hx]
      cases f y <;> rfl

theorem splitFirst?_of_not_mem {sep : Char} {cs : List Char} (h : sep ∉ cs) :
    splitFirst? sep cs = none := by
  induction cs with
  | nil => rfl
  | cons c cs ih =>
    simp only [List.mem_cons, not_or] at h
    rw [splitFirst?, if_neg (Ne.symm h.1), ih h.2, Option.map_none]

theorem splitFirst?_append {sep : Char} {cs : List Char} (h : sep ∉ cs) (rest : List Char) :
    splitFirst? sep (cs ++ sep :: rest) = some (cs, rest) := by
  induction cs with
  | nil => rw [List.nil_append, splitFirst?, if_pos rfl]
  | cons c cs ih =>
    simp only [List.mem_cons, not_or] at h
    rw [List.cons_append, splitFirst?, if_neg (Ne.symm h.1), ih h.2, Option.map_some]

theorem afterStart?_append (start rest : List Char) :
    afterStart? start (start ++ rest) = some rest := by
  induction start with
  | nil => rfl
  | cons s start ih => rw [List.cons_append, afterStart?, if_pos rfl, ih]

theorem eq_append_of_afterStart? {start cs rest : List Char}
    (h : afterStart? start cs = some rest) :
    cs = start ++ rest := by
  induction start generalizing cs with
  | nil => exact Option.some.inj h
  | cons s start ih =>
    cases cs with
    | nil => cases h
    | cons c cs =>
      rw [afterStart?] at h
      split at h
      · next hs => rw [List.cons_append, ← ih h, hs]
      · cases h

theorem afterStart?_of_not_mem {start cs : List Char} {c : Char} (hc : c ∈ start) (h : c ∉ cs) :
    afterStart? start cs = none := by
  refine Option.eq_none_iff_forall_ne_some.2 fun rest hrest => h ?_
  rw [eq_append_of_afterStart? hrest]
  exact List.mem_append_left _ hc

/-- A character that is no digit makes no number. -/
theorem readDigits_of_mem {limit value : Nat} {beyond : IntegerFault} {cs : List Char} {c : Char}
    (h : c ∈ cs) (hc : digit? c = none) : ∃ e, readDigits limit beyond value cs = .error e := by
  induction cs generalizing value with
  | nil => cases h
  | cons d cs ih =>
    unfold readDigits
    split
    · exact ⟨_, rfl⟩
    · next v hv =>
      split
      · rcases List.mem_cons.1 h with rfl | h
        · cases hc.symm.trans hv
        · exact ih h
      · exact ⟨_, rfl⟩

end NodeFleet.Text
