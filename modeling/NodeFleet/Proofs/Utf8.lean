import NodeFleet.Text.Percent

/-!
# Reading UTF-8 back

A text is read back from its bytes, one character after the other. Bytes without a percent sign are
not changed by percent decoding.
-/

namespace NodeFleet.Text

/-! ### First bytes -/

theorem leadByte?_two {n : Nat} (hlow : 2 ≤ n) (h : n < 32) :
    leadByte? (.ofNat (n + 0xC0)) = some (1, 0x80, 0xBF, n) := by
  have all : ∀ n < 30, leadByte? (.ofNat (n + 2 + 0xC0)) = some (1, 0x80, 0xBF, n + 2) := by decide
  obtain ⟨m, rfl⟩ := Nat.exists_eq_add_of_le' hlow
  exact all m (by omega)

theorem leadByte?_three {n : Nat} (h : n < 16) :
    leadByte? (.ofNat (n + 0xE0)) =
      some (2, if n = 0 then 0xA0 else 0x80, if n = 13 then 0x9F else 0xBF, n) := by
  have all : ∀ n < 16, leadByte? (.ofNat (n + 0xE0)) =
      some (2, if n = 0 then 0xA0 else 0x80, if n = 13 then 0x9F else 0xBF, n) := by decide
  exact all n h

theorem leadByte?_four {n : Nat} (h : n < 5) :
    leadByte? (.ofNat (n + 0xF0)) =
      some (3, if n = 0 then 0x90 else 0x80, if n = 4 then 0x8F else 0xBF, n) := by
  have all : ∀ n < 5, leadByte? (.ofNat (n + 0xF0)) =
      some (3, if n = 0 then 0x90 else 0x80, if n = 4 then 0x8F else 0xBF, n) := by decide
  exact all n h

/-- A byte of a character after its first one. -/
def continuation (n : Nat) : UInt8 := .ofNat (n % 64 + 0x80)

theorem toNat_continuation (n : Nat) : (continuation n).toNat = n % 64 + 0x80 := by
  rw [continuation, UInt8.toNat_ofNat']
  omega

theorem isContinuation_continuation (n : Nat) : isContinuation (continuation n) = true := by
  rw [isContinuation, Bool.and_eq_true, decide_eq_true_eq, decide_eq_true_eq,
    UInt8.le_iff_toNat_le, UInt8.le_iff_toNat_le, toNat_continuation]
  change 128 ≤ n % 64 + 128 ∧ n % 64 + 128 ≤ 191
  omega

theorem continueChar_continuation (value taken owed n : Nat) (rest : List UInt8) :
    continueChar value taken (owed + 1) (continuation n :: rest) =
      continueChar (64 * value + n % 64) (taken + 1) owed rest := by
  rw [continueChar, if_pos (isContinuation_continuation n), toNat_continuation,
    Nat.add_sub_cancel]

/-- A first byte and the one after it, within its range. -/
theorem firstPiece_continuation {b low high : UInt8} {owed value n : Nat}
    (hlead : leadByte? b = some (owed + 1, low, high, value)) (hb : 0x80 ≤ b.toNat)
    (hlow : low.toNat ≤ n % 64 + 0x80) (hhigh : n % 64 + 0x80 ≤ high.toNat) (rest : List UInt8) :
    firstPiece b (continuation n :: rest) = continueChar (64 * value + n % 64) 2 owed rest := by
  have hnot : ¬ b < 0x80 := by
    rw [UInt8.lt_iff_toNat_lt]
    exact Nat.not_lt_of_le hb
  have hrange : (low ≤ continuation n && continuation n ≤ high) = true := by
    rw [Bool.and_eq_true, decide_eq_true_eq, decide_eq_true_eq, UInt8.le_iff_toNat_le,
      UInt8.le_iff_toNat_le, toNat_continuation]
    exact ⟨hlow, hhigh⟩
  unfold firstPiece
  rw [if_neg hnot, hlead]
  dsimp only
  rw [if_pos hrange, toNat_continuation, Nat.add_sub_cancel, Nat.add_sub_cancel]

/-! ### Characters -/

theorem firstPiece_one {v : Nat} (h : v < 0x80) (rest : List UInt8) :
    firstPiece (.ofNat v) rest = (.char (Char.ofNat v), rest) := by
  have htoNat : (UInt8.ofNat v).toNat = v := by
    rw [UInt8.toNat_ofNat']
    omega
  have hlt : UInt8.ofNat v < 0x80 := by
    rw [UInt8.lt_iff_toNat_lt, htoNat]
    exact h
  unfold firstPiece
  rw [if_pos hlt, htoNat]

theorem firstPiece_two {v : Nat} (hlow : 0x80 ≤ v) (hhigh : v < 0x800) (rest : List UInt8) :
    firstPiece (.ofNat (v / 64 % 0x20 + 0xC0)) (continuation v :: rest) =
      (.char (Char.ofNat v), rest) := by
  have hlead : leadByte? (.ofNat (v / 64 % 0x20 + 0xC0)) = some (1, 0x80, 0xBF, v / 64 % 0x20) :=
    leadByte?_two (by omega) (by omega)
  have htoNat : (UInt8.ofNat (v / 64 % 0x20 + 0xC0)).toNat = v / 64 % 0x20 + 0xC0 := by
    rw [UInt8.toNat_ofNat']
    omega
  have hvalue : 64 * (v / 64 % 0x20) + v % 64 = v := by omega
  rw [firstPiece_continuation hlead (by omega) (by simp) (by simp; omega), continueChar, hvalue]

theorem firstPiece_three {v : Nat} (hlow : 0x800 ≤ v) (hhigh : v < 0x10000)
    (hscalar : v < 0xD800 ∨ 0xDFFF < v) (rest : List UInt8) :
    firstPiece (.ofNat (v / 4096 % 0x10 + 0xE0))
      (continuation (v / 64) :: continuation v :: rest) = (.char (Char.ofNat v), rest) := by
  have hlead := @leadByte?_three (v / 4096 % 0x10) (by omega)
  have htoNat : (UInt8.ofNat (v / 4096 % 0x10 + 0xE0)).toNat = v / 4096 % 0x10 + 0xE0 := by
    rw [UInt8.toNat_ofNat']
    omega
  have hvalue : 64 * (64 * (v / 4096 % 0x10) + v / 64 % 64) + v % 64 = v := by omega
  rw [firstPiece_continuation hlead (by omega) ?_ ?_, continueChar_continuation, continueChar,
    hvalue]
  · split
    · change 160 ≤ _
      omega
    · change 128 ≤ _
      omega
  · split
    · change _ ≤ 159
      omega
    · change _ ≤ 191
      omega

theorem firstPiece_four {v : Nat} (hlow : 0x10000 ≤ v) (hhigh : v < 0x110000)
    (rest : List UInt8) :
    firstPiece (.ofNat (v / 262144 % 0x08 + 0xF0))
      (continuation (v / 4096) :: continuation (v / 64) :: continuation v :: rest) =
        (.char (Char.ofNat v), rest) := by
  have hlead := @leadByte?_four (v / 262144 % 0x08) (by omega)
  have htoNat : (UInt8.ofNat (v / 262144 % 0x08 + 0xF0)).toNat = v / 262144 % 0x08 + 0xF0 := by
    rw [UInt8.toNat_ofNat']
    omega
  have hvalue : 64 * (64 * (64 * (v / 262144 % 0x08) + v / 4096 % 64) + v / 64 % 64) + v % 64 =
      v := by omega
  rw [firstPiece_continuation hlead (by omega) ?_ ?_, continueChar_continuation,
    continueChar_continuation, continueChar, hvalue]
  · split
    · change 144 ≤ _
      omega
    · change 128 ≤ _
      omega
  · split
    · change _ ≤ 143
      omega
    · change _ ≤ 191
      omega

/-- The bytes of a character are read as the character, whatever follows them. -/
theorem pieces_utf8EncodeChar (c : Char) (rest : List UInt8) :
    pieces (String.utf8EncodeChar c ++ rest) = .char c :: pieces rest := by
  have hvalid : c.toNat < 0xD800 ∨ 0xDFFF < c.toNat ∧ c.toNat < 0x110000 := c.valid
  have hchar : Char.ofNat c.toNat = c := Char.ofNat_toNat c
  have hval : c.val.toNat = c.toNat := rfl
  unfold String.utf8EncodeChar
  dsimp only
  rw [hval]
  generalize c.toNat = v at hvalid hchar
  have hmod (n : Nat) : UInt8.ofNat (n % 0x40 + 0x80) = continuation n := rfl
  simp only [hmod]
  split
  · next hone =>
    rw [List.singleton_append, pieces_cons, firstPiece_one (Nat.lt_succ_of_le hone), hchar]
  split
  · next hone htwo =>
    rw [List.cons_append, List.singleton_append, pieces_cons,
      firstPiece_two (by omega) (by omega), hchar]
  split
  · next hone htwo hthree =>
    rw [List.cons_append, List.cons_append, List.singleton_append, pieces_cons,
      firstPiece_three (by omega) (by omega) (by omega), hchar]
  · next hone htwo hthree =>
    rw [List.cons_append, List.cons_append, List.cons_append, List.singleton_append, pieces_cons,
      firstPiece_four (by omega) (by omega), hchar]

/-- A text is read back from its bytes. -/
theorem decode?_bytesOf (s : String) : decode? (bytesOf s) = some s := by
  have hpieces (cs : List Char) : pieces (cs.flatMap String.utf8EncodeChar) = cs.map .char := by
    induction cs with
    | nil => exact pieces_nil
    | cons c cs ih => rw [List.flatMap_cons, pieces_utf8EncodeChar, ih, List.map_cons]
  have hchars (cs : List Char) : (cs.map Piece.char).mapM Piece.char? = some cs := by
    induction cs with
    | nil => rfl
    | cons c cs ih =>
      rw [List.map_cons, List.mapM_cons, ih]
      rfl
  rw [decode?, bytesOf, hpieces, hchars, Option.map_some, String.ofList_toList]

/-! ### Percent signs -/

theorem percentDecode_of_not_mem {bytes : List UInt8} (h : 0x25 ∉ bytes) :
    percentDecode bytes = bytes := by
  induction bytes with
  | nil => rfl
  | cons b bytes ih =>
    simp only [List.mem_cons, not_or] at h
    rw [percentDecode]
    · rw [ih h.2]
    · exact fun _ _ _ heq _ => h.1 heq.symm

/-- Only the percent sign itself has its byte. -/
theorem eq_percent_of_mem_utf8EncodeChar {c : Char} (h : 0x25 ∈ String.utf8EncodeChar c) :
    c = '%' := by
  have hnot {n : Nat} (hlow : 0x80 ≤ n) (hhigh : n < 0x100) : (0x25 : UInt8) ≠ .ofNat n := by
    intro heq
    have hnat := congrArg UInt8.toNat heq
    rw [UInt8.toNat_ofNat', Nat.mod_eq_of_lt hhigh] at hnat
    change 0x25 = n at hnat
    omega
  unfold String.utf8EncodeChar at h
  dsimp only at h
  split at h
  · next hone =>
    have hnat := congrArg UInt8.toNat (List.mem_singleton.1 h)
    rw [UInt8.toNat_ofNat', Nat.mod_eq_of_lt (by omega)] at hnat
    exact Char.toNat_inj.1 hnat.symm
  all_goals exfalso
  split at h
  · simp only [List.mem_cons, List.not_mem_nil, or_false] at h
    rcases h with h | h
    all_goals exact hnot (by omega) (by omega) h
  split at h
  · simp only [List.mem_cons, List.not_mem_nil, or_false] at h
    rcases h with h | h | h
    all_goals exact hnot (by omega) (by omega) h
  · simp only [List.mem_cons, List.not_mem_nil, or_false] at h
    rcases h with h | h | h | h
    all_goals exact hnot (by omega) (by omega) h

/-- A text without percent signs is read back from its bytes after percent decoding. -/
theorem decode?_percentDecode {cs : List Char} (h : '%' ∉ cs) :
    decode? (percentDecode (bytesOf (String.ofList cs))) = some (String.ofList cs) := by
  rw [percentDecode_of_not_mem, decode?_bytesOf]
  intro hmem
  rw [bytesOf, String.toList_ofList] at hmem
  obtain ⟨c, hc, hbyte⟩ := List.mem_flatMap.1 hmem
  exact h (eq_percent_of_mem_utf8EncodeChar hbyte ▸ hc)

end NodeFleet.Text
