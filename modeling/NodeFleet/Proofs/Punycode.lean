import Mathlib.Data.List.TakeDrop
import Mathlib.Data.List.TakeWhile
import Mathlib.Tactic.Ring
import NodeFleet.Text.Punycode

/-!
# Reading Punycode back

A text is read back from its Punycode. The numbers that are written tell how far the reader has to
go on from where the character before was put in; `Meets` ties the state of the writer to that of
the reader, and one character passed, one code point written and all code points written keep it.
-/

namespace NodeFleet.Text.Punycode

/-! ### Numbers -/

theorem valueOf?_digitOf {d : Nat} (h : d < 36) : valueOf? (digitOf d) = some d := by
  have all : ∀ d < 36, valueOf? (digitOf d) = some d := by decide
  exact all d h

theorem threshold_bounds (position bias : Nat) :
    1 ≤ threshold position bias ∧ threshold position bias ≤ 26 := by
  unfold threshold
  omega

/-- A number is read back, whatever follows it. -/
theorem readNumber?_digits (bias position weight start n : Nat) (rest : List Char) :
    readNumber? bias position weight start (digits bias position n ++ rest) =
      some (start + n * weight, rest) := by
  induction n using Nat.strongRecOn generalizing position weight start with
  | ind n ih =>
    obtain ⟨hlow, hhigh⟩ := threshold_bounds position bias
    obtain ⟨t, ht⟩ : ∃ t, threshold position bias = t := ⟨_, rfl⟩
    rw [digits]
    rw [ht] at hlow hhigh ⊢
    split
    · next hlt =>
      simp only [List.singleton_append, readNumber?, valueOf?_digitOf (by omega : n < 36),
        Option.bind_eq_bind, Option.bind_some, ht, if_pos hlt]
    · next hle =>
      have hpos : 0 < 36 - t := by omega
      have hmod : (n - t) % (36 - t) < 36 - t := Nat.mod_lt _ hpos
      have hless : (n - t) / (36 - t) < n :=
        lt_of_le_of_lt (Nat.div_le_self _ _) (by omega)
      have hdivision : (36 - t) * ((n - t) / (36 - t)) + (n - t) % (36 - t) = n - t :=
        Nat.div_add_mod _ _
      rw [List.cons_append, readNumber?, valueOf?_digitOf (by omega)]
      simp only [Option.bind_eq_bind, Option.bind_some, ht]
      rw [if_neg (by omega), ih _ hless]
      congr 2
      -- the digit and the digits after it make up the number
      have hsum : t + (n - t) % (36 - t) + (36 - t) * ((n - t) / (36 - t)) = n := by omega
      calc start + (t + (n - t) % (36 - t)) * weight + (n - t) / (36 - t) * (weight * (36 - t))
          = start +
              (t + (n - t) % (36 - t) + (36 - t) * ((n - t) / (36 - t))) * weight := by ring
        _ = start + n * weight := by rw [hsum]

theorem mem_digits {bias position n : Nat} {c : Char} (h : c ∈ digits bias position n) :
    ∃ d < 36, c = digitOf d := by
  induction n using Nat.strongRecOn generalizing position with
  | ind n ih =>
    obtain ⟨hlow, hhigh⟩ := threshold_bounds position bias
    rw [digits] at h
    split at h
    · exact ⟨n, by omega, List.mem_singleton.1 h⟩
    · have hpos : 0 < 36 - threshold position bias := by omega
      have hmod := Nat.mod_lt (n - threshold position bias) hpos
      rcases List.mem_cons.1 h with rfl | h
      · exact ⟨_, by omega, rfl⟩
      · exact ih _ (lt_of_le_of_lt (Nat.div_le_self _ _) (by omega)) h

/-! ### Code points -/

/-- The code points of characters are those that the reader takes. -/
theorem isCodePoint_toNat (c : Char) :
    (decide (c.toNat < 0x110000) &&
      !(decide (0xD800 ≤ c.toNat) && decide (c.toNat < 0xE000))) = true := by
  have hvalid : c.toNat < 0xD800 ∨ 0xDFFF < c.toNat ∧ c.toNat < 0x110000 := c.valid
  simp only [Bool.and_eq_true, Bool.not_eq_true', Bool.and_eq_false_iff, decide_eq_true_eq,
    decide_eq_false_iff_not]
  omega

theorem pass_of_lt {n : Nat} {c : Char} (h : c.toNat < n) (basics : Nat) (e : Encoder) :
    e.pass basics n c = { e with delta := e.delta + 1 } :=
  if_pos h

theorem pass_of_eq {n : Nat} {c : Char} (h : c.toNat = n) (basics : Nat) (e : Encoder) :
    e.pass basics n c = ⟨0, adapt e.delta (e.handled + 1) (e.handled == basics), e.handled + 1,
      (digits e.bias 36 e.delta).reverse ++ e.reversed⟩ := by
  rw [Encoder.pass, if_neg (Nat.not_lt_of_ge h.ge), if_pos h]

theorem pass_of_gt {n : Nat} {c : Char} (h : n < c.toNat) (basics : Nat) (e : Encoder) :
    e.pass basics n c = e := by
  rw [Encoder.pass, if_neg (Nat.lt_asymm h), if_neg (Nat.ne_of_gt h)]

/-- The state of the reader: the text so far, the place after the last character that was put in,
its code point, and the bias. -/
structure Reader where
  out : List Char
  place : Nat
  code : Nat
  bias : Nat

/-- Reads on from a state. -/
def Reader.read? (r : Reader) (cs : List Char) : Option (List Char) :=
  insertAll? r.out r.place r.code r.bias cs

/-- What the writer has counted leads the reader to a place `k` for the code point `m`. -/
structure Meets (basics m k : Nat) (e : Encoder) (r : Reader) : Prop where
  handled : e.handled = r.out.length
  bias : e.bias = r.bias
  code_le : r.code ≤ m
  delta : r.place + e.delta = (m - r.code) * (r.out.length + 1) + k
  first : r.place = 0 ↔ e.handled = basics
  basics_le : basics ≤ e.handled

/-- From one state of the writer to another, digits are written which take the reader from one state
to another. -/
structure Leads (e e' : Encoder) (r r' : Reader) (written : List Char) : Prop where
  reversed : e'.reversed = written.reverse ++ e.reversed
  digits : ∀ c ∈ written, ∃ d < 36, c = digitOf d
  read? : ∀ rest, r.read? (written ++ rest) = r'.read? rest

variable {basics m k : Nat} {e : Encoder} {r : Reader} {cs : List Char}

theorem Leads.refl : Leads e e r r [] where
  reversed := rfl
  digits := List.forall_mem_nil _
  read? _ := rfl

theorem Leads.trans {e' e'' : Encoder} {r' r'' : Reader} {written more : List Char}
    (h : Leads e e' r r' written) (h' : Leads e' e'' r' r'' more) :
    Leads e e'' r r'' (written ++ more) where
  reversed := by rw [h'.reversed, h.reversed, List.reverse_append, List.append_assoc]
  digits := List.forall_mem_append.2 ⟨h.digits, h'.digits⟩
  read? rest := by rw [List.append_assoc, h.read?, h'.read?]

/-- The reader puts the next character in where the writer wants it. -/
theorem Meets.read?_digits (h : Meets basics m k e r) {c : Char} (hc : c.toNat = m)
    (hk : k ≤ r.out.length) (rest : List Char) :
    r.read? (digits e.bias 36 e.delta ++ rest) =
      Reader.read? ⟨r.out.take k ++ c :: r.out.drop k, k + 1, m,
        adapt e.delta (e.handled + 1) (e.handled == basics)⟩ rest := by
  have hnumber := readNumber?_digits e.bias 36 1 r.place e.delta rest
  rw [Nat.mul_one, h.delta] at hnumber
  have hne : (digits e.bias 36 e.delta ++ rest).isEmpty = false := by
    rw [digits]
    split <;> rfl
  have hcode : r.code + ((m - r.code) * (r.out.length + 1) + k) / (r.out.length + 1) = m := by
    rw [Nat.add_comm _ k, Nat.add_mul_div_right _ _ (Nat.succ_pos _),
      Nat.div_eq_of_lt (Nat.lt_succ_of_le hk), Nat.zero_add]
    have := h.code_le
    omega
  have hplace : ((m - r.code) * (r.out.length + 1) + k) % (r.out.length + 1) = k := by
    rw [Nat.add_comm _ k, Nat.add_mul_mod_self_right, Nat.mod_eq_of_lt (Nat.lt_succ_of_le hk)]
  have hvalid := isCodePoint_toNat c
  rw [hc] at hvalid
  have hchar : Char.ofNat m = c := by rw [← hc, Char.ofNat_toNat]
  have hfirst : (r.place == 0) = (e.handled == basics) := by
    rw [Bool.eq_iff_iff, beq_iff_eq, beq_iff_eq]
    exact h.first
  unfold Reader.read?
  rw [insertAll?, hne, if_neg Bool.false_ne_true]
  split
  · next hnone =>
    rw [← h.bias, hnumber] at hnone
    cases hnone
  · next j more hread =>
    rw [← h.bias, hnumber] at hread
    cases hread
    dsimp only
    rw [hcode, hplace, hvalid, if_pos rfl, hchar, hfirst, h.handled]
    congr 2
    rw [← h.delta]
    omega

/-- A character of a lower code point makes for one more place. -/
theorem Meets.skip (h : Meets basics m k e r) :
    Meets basics m (k + 1) { e with delta := e.delta + 1 } r where
  handled := h.handled
  bias := h.bias
  code_le := h.code_le
  delta := by
    have hdelta := h.delta
    dsimp only
    omega
  first := h.first
  basics_le := h.basics_le

/-- A character that is written is put in, and the next place is the one after it. -/
theorem Meets.insert (h : Meets basics m k e r) (hk : k ≤ r.out.length) (c : Char)
    (written : List Char) :
    Meets basics m (k + 1)
      ⟨0, adapt e.delta (e.handled + 1) (e.handled == basics), e.handled + 1, written⟩
      ⟨r.out.take k ++ c :: r.out.drop k, k + 1, m,
        adapt e.delta (e.handled + 1) (e.handled == basics)⟩ where
  handled := by
    have hhandled := h.handled
    rw [List.length_append, List.length_cons, List.length_take, List.length_drop]
    dsimp only
    omega
  bias := rfl
  code_le := Nat.le_refl m
  delta := by simp
  first := by
    have hle := h.basics_le
    refine iff_of_false (Nat.succ_ne_zero k) fun heq => ?_
    dsimp only at heq
    omega
  basics_le := Nat.le_succ_of_le h.basics_le

/-- One character is passed. It counts if its code point is not above the one that is written. -/
theorem Meets.pass {front more : List Char} {c : Char} (h : Meets basics m front.length e r)
    (hout : r.out = front ++ (c :: more).filter (·.toNat < m)) :
    ∃ written r', Leads e (e.pass basics m c) r r' written ∧
      r'.out = front ++ [c].filter (·.toNat ≤ m) ++ more.filter (·.toNat < m) ∧
      Meets basics m (front ++ [c].filter (·.toNat ≤ m)).length (e.pass basics m c) r' := by
  rcases Nat.lt_trichotomy c.toNat m with hlt | heq | hgt
  · have hfilter : [c].filter (·.toNat ≤ m) = [c] := by simp [hlt.le]
    rw [pass_of_lt hlt, hfilter, List.length_append]
    refine ⟨[], r, ⟨rfl, List.forall_mem_nil _, fun _ => rfl⟩, ?_, h.skip⟩
    rw [hout, List.filter_cons_of_pos (by simpa using hlt)]
    simp
  · have hfilter : [c].filter (·.toNat ≤ m) = [c] := by simp [heq.le]
    have hout' : r.out = front ++ more.filter (·.toNat < m) := by
      rw [hout, List.filter_cons_of_neg (by simp [heq])]
    have hk : front.length ≤ r.out.length := by
      rw [hout', List.length_append]
      omega
    rw [pass_of_eq heq, hfilter, List.length_append]
    refine ⟨_, _, ⟨rfl, fun d hd => mem_digits hd, h.read?_digits heq hk⟩, ?_, h.insert hk c _⟩
    rw [hout', List.take_left, List.drop_left]
    simp
  · have hfilter : [c].filter (·.toNat ≤ m) = [] := by simp [hgt]
    rw [pass_of_gt hgt, hfilter, List.append_nil]
    refine ⟨[], r, .refl, ?_, h⟩
    rw [hout, List.filter_cons_of_neg (by simp; omega)]

/-- All characters are passed on the way to those with one code point. -/
theorem Meets.passes {front : List Char} (h : Meets basics m front.length e r)
    (hout : r.out = front ++ cs.filter (·.toNat < m)) :
    ∃ written r', Leads e (cs.foldl (Encoder.pass basics m) e) r r' written ∧
      r'.out = front ++ cs.filter (·.toNat ≤ m) ∧
      Meets basics m r'.out.length (cs.foldl (Encoder.pass basics m) e) r' := by
  induction cs generalizing front e r with
  | nil =>
    rw [List.filter_nil, List.append_nil] at hout
    refine ⟨[], r, .refl, by simp [hout], ?_⟩
    rw [hout]
    exact h
  | cons c cs ih =>
    obtain ⟨written, r', hleads, hout', hmeets⟩ := h.pass hout
    obtain ⟨more, r'', hleads', hout'', hmeets'⟩ := ih hmeets hout'
    refine ⟨written ++ more, r'', hleads.trans hleads', ?_, hmeets'⟩
    rw [hout'', List.append_assoc, ← List.filter_append, List.singleton_append]

/-- From one code point to a later one, the places of all between them are counted. -/
theorem Meets.jump {n : Nat} (h : Meets basics m 0 e r) (hle : m ≤ n) :
    Meets basics n 0 { e with delta := e.delta + (n - m) * (e.handled + 1) } r where
  handled := h.handled
  bias := h.bias
  code_le := h.code_le.trans hle
  delta := by
    have hcode := h.code_le
    have hsplit : n - r.code = (m - r.code) + (n - m) := by omega
    dsimp only
    rw [← Nat.add_assoc, h.delta, h.handled, hsplit, Nat.add_mul]
    rfl
  first := h.first
  basics_le := h.basics_le

/-- After the last place for a code point comes the first one for the next. -/
theorem Meets.succ (h : Meets basics m r.out.length e r) :
    Meets basics (m + 1) 0 { e with delta := e.delta + 1 } r where
  handled := h.handled
  bias := h.bias
  code_le := Nat.le_succ_of_le h.code_le
  delta := by
    have hcode := h.code_le
    have hsplit : m + 1 - r.code = (m - r.code) + 1 := by omega
    dsimp only
    rw [← Nat.add_assoc, h.delta, hsplit, Nat.add_mul]
    omega
  first := h.first
  basics_le := h.basics_le

/-- All code points from `next` on are written, in ascending order. -/
theorem Meets.codes {next : Nat} {ns : List Nat} (h : Meets basics next 0 e r)
    (hout : r.out = cs.filter (·.toNat < next)) (hascend : ns.Pairwise (· < ·))
    (hnext : ∀ n ∈ ns, next ≤ n) (hcover : ∀ c ∈ cs, next ≤ c.toNat → c.toNat ∈ ns) :
    ∃ written, encodeCodes cs basics ns next e = e.reversed.reverse ++ written ∧
      (∀ c ∈ written, ∃ d < 36, c = digitOf d) ∧ r.read? written = some cs := by
  induction ns generalizing next e r with
  | nil =>
    have hall : ∀ c ∈ cs, c.toNat < next := by
      intro c hc
      by_contra hle
      exact absurd (hcover c hc (by omega)) List.not_mem_nil
    refine ⟨[], (List.append_nil _).symm, List.forall_mem_nil _, ?_⟩
    unfold Reader.read?
    rw [insertAll?, List.isEmpty_nil, if_pos rfl, hout,
      List.filter_eq_self.2 (by simpa using hall)]
  | cons n ns ih =>
    obtain ⟨hless, hascend'⟩ := List.pairwise_cons.1 hascend
    obtain ⟨hn, -⟩ := List.forall_mem_cons.1 hnext
    have hcover' : ∀ c ∈ cs, next ≤ c.toNat → c.toNat = n ∨ c.toNat ∈ ns := fun c hc hle =>
      List.mem_cons.1 (hcover c hc hle)
    -- no character lies between
    have hbetween : cs.filter (·.toNat < next) = cs.filter (·.toNat < n) := by
      apply List.filter_congr
      intro c hc
      rw [decide_eq_decide]
      refine ⟨fun hlt => by omega, fun hlt => ?_⟩
      by_contra hle
      rcases hcover' c hc (by omega) with heq | hmem
      · omega
      · have := hless _ hmem
        omega
    have hfilter : cs.filter (·.toNat ≤ n) = cs.filter (·.toNat < n + 1) := by
      simp only [Nat.lt_succ_iff]
    obtain ⟨written, r', hleads, hout', hmeets⟩ :=
      @Meets.passes basics n _ r cs [] (h.jump hn) (hout.trans hbetween)
    rw [List.nil_append, hfilter] at hout'
    obtain ⟨more, hwritten, hdigits, hread⟩ := ih hmeets.succ hout' hascend'
      (fun k hk => hless k hk)
      fun c hc hle => (hcover' c hc (by omega)).resolve_left (by omega)
    refine ⟨written ++ more, ?_, List.forall_mem_append.2 ⟨hleads.digits, hdigits⟩, ?_⟩
    · rw [encodeCodes, hwritten, hleads.reversed, List.reverse_append, List.reverse_reverse,
        List.append_assoc]
    · rw [hleads.read?, hread]

/-! ### Texts -/

theorem mem_insertCode {n k : Nat} {ns : List Nat} : k ∈ insertCode n ns ↔ k = n ∨ k ∈ ns := by
  induction ns with
  | nil => simp [insertCode]
  | cons m ms ih =>
    unfold insertCode
    split
    · simp
    · split
      · next heq =>
        rw [heq, List.mem_cons]
        tauto
      · rw [List.mem_cons, ih, List.mem_cons]
        tauto

theorem pairwise_insertCode {n : Nat} {ns : List Nat} (h : ns.Pairwise (· < ·)) :
    (insertCode n ns).Pairwise (· < ·) := by
  induction ns with
  | nil => exact List.pairwise_singleton _ _
  | cons m ms ih =>
    obtain ⟨hm, hms⟩ := List.pairwise_cons.1 h
    unfold insertCode
    split
    · next hlt =>
      refine List.pairwise_cons.2 ⟨List.forall_mem_cons.2 ⟨hlt, fun k hk => ?_⟩, h⟩
      exact hlt.trans (hm k hk)
    · split
      · exact h
      · next hle hne =>
        refine List.pairwise_cons.2 ⟨fun k hk => ?_, ih hms⟩
        rcases mem_insertCode.1 hk with rfl | hk
        · omega
        · exact hm k hk

/-- The code points of a text are listed in ascending order. -/
theorem codes_spec (cs : List Char) :
    let codes := cs.foldr (fun c ns => insertCode c.toNat ns) []
    codes.Pairwise (· < ·) ∧ ∀ n, n ∈ codes ↔ ∃ c ∈ cs, c.toNat = n := by
  induction cs with
  | nil => simp
  | cons c cs ih =>
    refine ⟨pairwise_insertCode ih.1, fun n => ?_⟩
    rw [List.foldr_cons, mem_insertCode, ih.2]
    simp [eq_comm]

/-- The numbers after the ASCII characters, from which the reader makes the text. -/
theorem exists_encode (cs : List Char) :
    ∃ tail, encode cs = cs.filter (·.toNat < 0x80) ++
        (if (cs.filter (·.toNat < 0x80)).isEmpty then [] else ['-']) ++ tail ∧
      (∀ c ∈ tail, ∃ d < 36, c = digitOf d) ∧
      insertAll? (cs.filter (·.toNat < 0x80)) 0 0x80 72 tail = some cs := by
  obtain ⟨hascend, hmem⟩ := codes_spec (cs.filter (0x80 ≤ ·.toNat))
  have hstart : Meets (cs.filter (·.toNat < 0x80)).length 0x80 0
      ⟨0, 72, (cs.filter (·.toNat < 0x80)).length, []⟩
      ⟨cs.filter (·.toNat < 0x80), 0, 0x80, 72⟩ := by
    refine ⟨rfl, rfl, Nat.le_refl _, ?_, Iff.intro (fun _ => rfl) fun _ => rfl, Nat.le_refl _⟩
    simp
  have hbasic : (⟨cs.filter (·.toNat < 0x80), 0, 0x80, 72⟩ : Reader).out =
      cs.filter (·.toNat < 0x80) := rfl
  obtain ⟨tail, hwritten, hdigits, hread⟩ := hstart.codes hbasic hascend
    (by
      intro n hn
      obtain ⟨c, hc, rfl⟩ := (hmem n).1 hn
      simpa using (List.mem_filter.1 hc).2)
    (by
      intro c hc hle
      exact (hmem _).2 ⟨c, List.mem_filter.2 ⟨hc, by simpa using hle⟩, rfl⟩)
  refine ⟨tail, ?_, hdigits, hread⟩
  unfold encode
  dsimp only
  rw [hwritten]
  rfl

theorem hyphen_ne_digitOf {d : Nat} (h : d < 36) : digitOf d ≠ '-' := by
  have all : ∀ d < 36, digitOf d ≠ '-' := by decide
  exact all d h

/-- A text is read back from its Punycode. -/
theorem decode?_encode (cs : List Char) : decode? (encode cs) = some cs := by
  obtain ⟨tail, hencode, hdigits, hread⟩ := exists_encode cs
  obtain ⟨basic, hbasic⟩ : ∃ basic, basic = cs.filter (·.toNat < 0x80) := ⟨_, rfl⟩
  rw [← hbasic] at hencode hread
  have htail : ∀ c ∈ tail.reverse, decide (c ≠ '-') = true := by
    intro c hc
    obtain ⟨d, hd, rfl⟩ := hdigits c (List.mem_reverse.1 hc)
    simpa using hyphen_ne_digitOf hd
  rw [hencode]
  unfold decode?
  dsimp only
  cases hempty : basic.isEmpty with
  | true =>
    obtain rfl := List.isEmpty_iff.1 hempty
    have hdrop : tail.reverse.dropWhile (· ≠ '-') = [] :=
      List.dropWhile_eq_nil_iff.2 htail
    rw [if_pos rfl, List.nil_append, List.nil_append, hdrop]
    exact hread
  | false =>
    have hreverse : (basic ++ (if false = true then [] else ['-']) ++ tail).reverse =
        tail.reverse ++ '-' :: basic.reverse := by simp
    have hdrop : (tail.reverse ++ '-' :: basic.reverse).dropWhile (· ≠ '-') =
        '-' :: basic.reverse := by
      rw [List.dropWhile_append_of_pos htail]
      rfl
    have htake : (tail.reverse ++ '-' :: basic.reverse).takeWhile (· ≠ '-') = tail.reverse := by
      rw [List.takeWhile_append_of_pos htail]
      exact List.append_nil _
    have hascii : basic.all (·.toNat < 0x80) = true := by
      rw [hbasic, List.all_filter]
      simp
    rw [hreverse, hdrop, htake]
    rw [List.drop_succ_cons, List.drop_zero, List.reverse_reverse, List.reverse_reverse, hempty,
      if_neg Bool.false_ne_true, hascii, if_pos rfl, hread]

/-- Punycode consists of ASCII characters of the text, a hyphen, small letters and digits. -/
theorem mem_encode {cs : List Char} {c : Char} (h : c ∈ encode cs) :
    c ∈ cs ∧ c.toNat < 0x80 ∨ c = '-' ∨ ∃ d < 36, c = digitOf d := by
  obtain ⟨tail, hencode, hdigits, -⟩ := exists_encode cs
  rw [hencode] at h
  rcases List.mem_append.1 h with h | h
  · rcases List.mem_append.1 h with h | h
    · obtain ⟨hc, hlt⟩ := List.mem_filter.1 h
      exact .inl ⟨hc, by simpa using hlt⟩
    · split at h
      · cases h
      · exact .inr (.inl (List.mem_singleton.1 h))
  · exact .inr (.inr (hdigits c h))

/-- Punycode of a text beyond ASCII ends in a number. -/
theorem getLast?_encode {cs : List Char} (h : ¬cs.all (·.toNat < 0x80) = true) :
    ∃ d < 36, (encode cs).getLast? = some (digitOf d) := by
  obtain ⟨tail, hencode, hdigits, hread⟩ := exists_encode cs
  have hne : tail ≠ [] := by
    rintro rfl
    -- without a number, the text would be its ASCII characters
    rw [insertAll?, List.isEmpty_nil, if_pos rfl, Option.some.injEq] at hread
    apply h
    rw [← hread, List.all_filter]
    simp
  obtain ⟨d, hd, hlast⟩ := hdigits _ (List.getLast_mem hne)
  refine ⟨d, hd, ?_⟩
  rw [hencode, List.getLast?_append, List.getLast?_eq_some_getLast hne, hlast, Option.some_or]

/-! ### What is read -/

/-- The first number puts a character in. -/
theorem exists_of_insertAll? {out label : List Char} {i n bias : Nat} {cs : List Char}
    (h : insertAll? out i n bias cs = some label) (hne : cs ≠ []) :
    ∃ place code j bias' rest, n ≤ code ∧ code.isValidChar ∧ rest.length < cs.length ∧
      insertAll? (out.take place ++ Char.ofNat code :: out.drop place) j code bias' rest
        = some label := by
  rw [insertAll?, if_neg (by simpa using hne)] at h
  split at h
  · cases h
  · next j rest hread =>
    dsimp only at h
    split at h
    · next hvalid =>
      simp only [Bool.and_eq_true, Bool.not_eq_true', Bool.and_eq_false_iff, decide_eq_true_eq,
        decide_eq_false_iff_not] at hvalid
      refine ⟨_, _, _, _, rest, Nat.le_add_right _ _, ?_, length_readNumber? hread, h⟩
      simp only [Nat.isValidChar]
      omega
    · cases h

/-- What is put in stays, and is beyond ASCII. -/
theorem mem_of_insertAll? {out label : List Char} {i n bias : Nat} {cs : List Char}
    (h : insertAll? out i n bias cs = some label) :
    (∀ c ∈ out, c ∈ label) ∧ (0x80 ≤ n → cs ≠ [] → ∃ c ∈ label, 0x80 ≤ c.toNat) := by
  induction hlength : cs.length using Nat.strongRecOn generalizing out i n bias cs with
  | ind length ih =>
    by_cases hempty : cs = []
    · rw [hempty, insertAll?, List.isEmpty_nil, if_pos rfl] at h
      exact ⟨fun c hc => Option.some.inj h ▸ hc, fun _ hne => absurd hempty hne⟩
    · obtain ⟨place, code, j, bias', rest, hle, hvalid, hlt, hrest⟩ := exists_of_insertAll? h hempty
      obtain ⟨hstay, -⟩ := ih rest.length (hlength ▸ hlt) hrest rfl
      refine ⟨fun c hc => hstay c ?_, fun hn _ => ⟨Char.ofNat code, hstay _ (by simp), ?_⟩⟩
      · rw [← List.take_append_drop place out] at hc
        rcases List.mem_append.1 hc with hc | hc
        · exact List.mem_append_left _ hc
        · exact List.mem_append_right _ (List.mem_cons_of_mem _ hc)
      · have hcode : Char.ofNat code = Char.ofNatAux code hvalid := dif_pos hvalid
        rw [hcode]
        exact Nat.le_trans hn hle

/-- A text is beyond ASCII if its Punycode does not end with the ASCII characters. -/
theorem exists_ge_of_decode? {cs label : List Char} (h : decode? cs = some label) (hne : cs ≠ [])
    (hlast : cs.getLast? ≠ some '-') : ∃ c ∈ label, 0x80 ≤ c.toNat := by
  unfold decode? at h
  dsimp only at h
  split at h
  · exact (mem_of_insertAll? h).2 (Nat.le_refl _) hne
  · split at h
    · refine (mem_of_insertAll? h).2 (Nat.le_refl _) fun htail => ?_
      obtain ⟨c, front, hfront⟩ := List.exists_cons_of_ne_nil (List.reverse_ne_nil_iff.2 hne)
      have hc : c ≠ '-' := by
        rintro rfl
        apply hlast
        rw [← List.head?_reverse, hfront]
        rfl
      rw [hfront, List.takeWhile_cons_of_pos (by simpa using hc), List.reverse_eq_nil_iff] at htail
      cases htail
    · cases h

/-! ### How long Punycode is -/

/-- Numbers from 936 on have three digits, whatever the bias. -/
theorem length_digits {n : Nat} (h : 936 ≤ n) (bias position : Nat) :
    3 ≤ (digits bias position n).length := by
  obtain ⟨hlow, hhigh⟩ := threshold_bounds position bias
  have hsecond := threshold_bounds (position + 36) bias
  have hquotient : 26 ≤ (n - threshold position bias) / (36 - threshold position bias) := by
    rw [Nat.le_div_iff_mul_le (by omega)]
    omega
  rw [digits, if_neg (by omega), List.length_cons, digits, if_neg (by omega), List.length_cons]
  have hthird (m : Nat) : 1 ≤ (digits bias (position + 36 + 36) m).length := by
    rw [digits]
    split <;> simp
  have := hthird ((((n - threshold position bias) / (36 - threshold position bias)) -
    threshold (position + 36) bias) / (36 - threshold (position + 36) bias))
  omega

theorem le_pass (basics n : Nat) (e : Encoder) (c : Char) :
    e.handled ≤ (e.pass basics n c).handled ∧
      e.reversed.length ≤ (e.pass basics n c).reversed.length := by
  rcases Nat.lt_trichotomy c.toNat n with hlt | heq | hgt
  · rw [pass_of_lt hlt]
    exact ⟨Nat.le_refl _, Nat.le_refl _⟩
  · rw [pass_of_eq heq]
    exact ⟨Nat.le_succ _, by simp⟩
  · rw [pass_of_gt hgt]
    exact ⟨Nat.le_refl _, Nat.le_refl _⟩

/-- A character of another code point is not written. -/
theorem pass_of_ne {n : Nat} {c : Char} (h : c.toNat ≠ n) (basics : Nat) (e : Encoder) :
    (e.pass basics n c).handled = e.handled ∧ (e.pass basics n c).reversed = e.reversed ∧
      e.delta ≤ (e.pass basics n c).delta := by
  rcases Nat.lt_or_gt_of_ne h with hlt | hgt
  · rw [pass_of_lt hlt]
    exact ⟨rfl, rfl, Nat.le_succ _⟩
  · rw [pass_of_gt hgt]
    exact ⟨rfl, rfl, Nat.le_refl _⟩

theorem le_passes (basics n : Nat) (e : Encoder) (cs : List Char) :
    e.handled ≤ (cs.foldl (Encoder.pass basics n) e).handled ∧
      e.reversed.length ≤ (cs.foldl (Encoder.pass basics n) e).reversed.length := by
  induction cs generalizing e with
  | nil => exact ⟨Nat.le_refl _, Nat.le_refl _⟩
  | cons c cs ih =>
    obtain ⟨hhandled, hreversed⟩ := le_pass basics n e c
    obtain ⟨hhandled', hreversed'⟩ := ih (e.pass basics n c)
    exact ⟨hhandled.trans hhandled', hreversed.trans hreversed'⟩

/-- A code point of the text is counted, and written with three digits if it lies far ahead. -/
theorem passes_of_mem {n : Nat} {cs : List Char} (h : ∃ c ∈ cs, c.toNat = n) (basics : Nat)
    (e : Encoder) :
    e.handled + 1 ≤ (cs.foldl (Encoder.pass basics n) e).handled ∧
      (936 ≤ e.delta →
        e.reversed.length + 3 ≤ (cs.foldl (Encoder.pass basics n) e).reversed.length) := by
  induction cs generalizing e with
  | nil =>
    obtain ⟨c, hc, -⟩ := h
    cases hc
  | cons c cs ih =>
    rw [List.foldl_cons]
    by_cases hcode : c.toNat = n
    · obtain ⟨hhandled, hreversed⟩ := le_passes basics n (e.pass basics n c) cs
      rw [pass_of_eq hcode] at hhandled hreversed ⊢
      refine ⟨hhandled, fun hdelta => ?_⟩
      have hdigits := length_digits hdelta e.bias 36
      rw [List.length_append, List.length_reverse] at hreversed
      omega
    · obtain ⟨d, hd, hdn⟩ := h
      have hrest : ∃ d ∈ cs, d.toNat = n := by
        rcases List.mem_cons.1 hd with rfl | hd
        · exact absurd hdn hcode
        · exact ⟨d, hd, hdn⟩
      obtain ⟨hsame, hwritten, hdelta⟩ := pass_of_ne hcode basics e
      obtain ⟨hhandled, hreversed⟩ := ih hrest (e.pass basics n c)
      rw [hsame] at hhandled
      rw [hwritten] at hreversed
      exact ⟨hhandled, fun hfar => hreversed (hfar.trans hdelta)⟩

/-- Whether numbers lie at least sixty apart. -/
def isSpaced (next : Nat) : List Nat → Bool
  | [] => true
  | n :: ns => next + 59 ≤ n && isSpaced (n + 1) ns

/-- From the sixteenth on, each of the spaced code points of a text needs three digits. -/
theorem length_encodeCodes {cs : List Char} {ns : List Nat} {next : Nat}
    (hspaced : isSpaced next ns = true)
    (hmem : ∀ n ∈ ns, ∃ c ∈ cs, c.toNat = n) (basics : Nat) (e : Encoder) :
    e.reversed.length + 3 * (ns.length + min e.handled 15 - 15) ≤
      (encodeCodes cs basics ns next e).length := by
  induction ns generalizing next e with
  | nil =>
    rw [encodeCodes, List.length_reverse, List.length_nil]
    omega
  | cons n ns ih =>
    obtain ⟨hn, hrest⟩ := List.forall_mem_cons.1 hmem
    rw [isSpaced, Bool.and_eq_true, decide_eq_true_eq] at hspaced
    rw [encodeCodes]
    generalize hready :
      ({ e with delta := e.delta + (n - next) * (e.handled + 1) } : Encoder) = ready
    have hhandled : ready.handled = e.handled := by rw [← hready]
    have hreversed : ready.reversed = e.reversed := by rw [← hready]
    have hdelta : ready.delta = e.delta + (n - next) * (e.handled + 1) := by rw [← hready]
    obtain ⟨hcount, hlong⟩ := passes_of_mem hn basics ready
    have hkeep := (le_passes basics n ready cs).2
    generalize cs.foldl (Encoder.pass basics n) ready = passed at hcount hlong hkeep
    have hnext := ih hspaced.2 hrest { passed with delta := passed.delta + 1 }
    dsimp only at hnext
    rw [hhandled] at hcount
    rw [hreversed] at hlong hkeep
    rw [List.length_cons]
    by_cases hmany : 15 ≤ e.handled
    · have hproduct : 59 * 16 ≤ (n - next) * (e.handled + 1) :=
        Nat.mul_le_mul (Nat.le_sub_of_add_le' hspaced.1) (by omega)
      have := hlong (by omega)
      omega
    · omega

/-- The Punycode of a text whose code points lie far apart is long. -/
theorem length_encode {cs : List Char}
    (hspaced : isSpaced 0x80
      ((cs.filter (0x80 ≤ ·.toNat)).foldr (fun c ns => insertCode c.toNat ns) []) = true) :
    3 * (((cs.filter (0x80 ≤ ·.toNat)).foldr (fun c ns => insertCode c.toNat ns) []).length - 15) ≤
      (encode cs).length := by
  have hmem : ∀ n ∈ (cs.filter (0x80 ≤ ·.toNat)).foldr (fun c ns => insertCode c.toNat ns) [],
      ∃ c ∈ cs, c.toNat = n := by
    intro n hn
    obtain ⟨c, hc, hcn⟩ := ((codes_spec (cs.filter (0x80 ≤ ·.toNat))).2 n).1 hn
    exact ⟨c, (List.mem_filter.1 hc).1, hcn⟩
  have hcodes := length_encodeCodes hspaced hmem (cs.filter (·.toNat < 0x80)).length
    ⟨0, 72, (cs.filter (·.toNat < 0x80)).length, []⟩
  rw [encode]
  dsimp only at hcodes ⊢
  rw [List.length_append, List.length_append]
  rw [List.length_nil] at hcodes
  omega

end NodeFleet.Text.Punycode
