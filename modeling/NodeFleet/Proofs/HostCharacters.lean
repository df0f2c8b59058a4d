import Mathlib.Data.Nat.Bitwise
import NodeFleet.Proofs.RunLength

/-!
# The characters of host names

The table of host names is read from its beginning, run by run. A set of code points is also a
number with one bit for each of them; in this form the table shows that the characters which others
stand for are valid.
-/

namespace NodeFleet.Unicode

open Text

/-! ### Runs -/

/-- What becomes of the character `n` that stands at a distance from the first one of its run. -/
def HostRun.status (run : HostRun) (offset n : Nat) : HostStatus :=
  match run with
  | .valid => .valid
  | .ignored => .ignored
  | .disallowed => .disallowed
  | .shifted first => .mapped [Char.ofNat (first + offset)]
  | .constant target => .mapped [Char.ofNat target]
  | .pairs => if offset % 2 = 0 then .mapped [Char.ofNat (n + 1)] else .valid
  | .mapped targets => .mapped (targets.map Char.ofNat)

/-- What becomes of the character `n` by a table that begins at `start`. -/
def statusFrom (n start : Nat) : List (Nat × HostRun) → HostStatus
  | [] => .disallowed
  | (length, run) :: runs =>
    if n < start + length then run.status (n - start) n else statusFrom n (start + length) runs

/-- The run of a character, and where it begins. -/
theorem getD_boundsUpTo (n start : Nat) (runs : List (Nat × HostRun)) :
    let bounds := runningTotals start (runs.map (·.1))
    let i := boundsUpTo n bounds
    HostRun.status ((runs.map (·.2)).getD i .disallowed)
      (n - if i = 0 then start else bounds.getD (i - 1) 0) n = statusFrom n start runs := by
  induction runs generalizing start with
  | nil => rfl
  | cons first runs ih =>
    intro bounds i
    have hbounds : bounds = (start + first.1) ::
      runningTotals (start + first.1) (runs.map (·.1)) := rfl
    rw [statusFrom]
    by_cases hlt : n < start + first.1
    · have hi : i = 0 := by
        change boundsUpTo n bounds = 0
        rw [hbounds, boundsUpTo, List.takeWhile_cons_of_neg (by simpa using hlt)]
        rfl
      rw [hi, if_pos rfl, if_pos hlt]
      rfl
    · obtain ⟨j, hj⟩ : ∃ j, j = boundsUpTo n (runningTotals (start + first.1) (runs.map (·.1))) :=
        ⟨_, rfl⟩
      have hi : i = j + 1 := by
        change boundsUpTo n bounds = _
        rw [hbounds, hj, boundsUpTo, List.takeWhile_cons_of_pos (by simpa using hlt)]
        rfl
      rw [hi, if_neg (Nat.succ_ne_zero j), if_neg hlt, ← ih (start + first.1), ← hj]
      rw [List.map_cons, List.getD_cons_succ, Nat.add_sub_cancel, hbounds]
      cases j with
      | zero => rfl
      | succ j =>
        rw [List.getD_cons_succ, if_neg (Nat.succ_ne_zero j), Nat.add_sub_cancel]

/-- What becomes of a character is what becomes of it in its run. -/
theorem hostStatus_eq_status (c : Char) :
    let i := countUpTo hostTable.bounds c.toNat 0 hostTable.bounds.size
    hostStatus c = (hostTable.runs.getD i .disallowed).status
      (c.toNat - if i = 0 then 0 else hostTable.bounds.getD (i - 1) 0) c.toNat := by
  unfold hostStatus
  dsimp only
  cases hostTable.runs.getD (countUpTo hostTable.bounds c.toNat 0 hostTable.bounds.size)
    .disallowed <;> rfl

/-- The table is read from its beginning. -/
theorem hostStatus_eq (c : Char) : hostStatus c = statusFrom c.toNat 0 hostRuns := by
  have hbounds : hostTable.bounds = (runningTotals 0 (hostRuns.map (·.1))).toArray := by
    rw [hostTable, HostTable.ofRuns]
  have hruns : hostTable.runs = (hostRuns.map (·.2)).toArray := by rw [hostTable, HostTable.ofRuns]
  rw [← getD_boundsUpTo, hostStatus_eq_status, hbounds, hruns,
    countUpTo_eq (pairwise_runningTotals _ _)]
  simp only [getD_toArray]

/-! ### Valid characters as a set -/

/-- The odd numbers below `2 * k`. -/
def oddBits : Nat → Nat
  | 0 => 0
  | k + 1 => 4 * oddBits k + 2

theorem testBit_oddBits (k i : Nat) :
    (oddBits k).testBit i = (decide (i < 2 * k) && decide (i % 2 = 1)) := by
  induction k generalizing i with
  | zero => simp [oddBits]
  | succ k ih =>
    match i with
    | 0 =>
      have heven : (4 * oddBits k + 2) % 2 = 0 := by omega
      simp [oddBits, Nat.testBit_zero, heven]
    | 1 =>
      have hhalf : (4 * oddBits k + 2) / 2 = 2 * oddBits k + 1 := by omega
      have hlt : 1 < 2 * (k + 1) := by omega
      simp [oddBits, Nat.testBit_succ, hhalf, hlt]
    | i + 2 =>
      have hquarter : (4 * oddBits k + 2) / 2 / 2 = oddBits k := by omega
      have hlt : i + 2 < 2 * (k + 1) ↔ i < 2 * k := by omega
      simp only [oddBits, Nat.testBit_succ, hquarter, ih, hlt, Nat.add_mod_right]

/-- The distances from the beginning of a run at which characters are valid. -/
def HostRun.validBits (run : HostRun) (length : Nat) : Nat :=
  match run with
  | .valid => 2 ^ length - 1
  | .pairs => oddBits (length / 2)
  | _ => 0

/-- The distances from the beginning of a table at which characters are valid. -/
def validBits : List (Nat × HostRun) → Nat
  | [] => 0
  | (length, run) :: runs => run.validBits length ||| (validBits runs <<< length)

theorem HostRun.testBit_validBits {run : HostRun} {length offset : Nat} (hlt : offset < length)
    (n : Nat) : (run.validBits length).testBit offset = true ↔ run.status offset n = .valid := by
  cases run with
  | valid => simp [validBits, status, Nat.testBit_two_pow_sub_one, hlt]
  | pairs =>
    have hhalf : offset % 2 = 1 → offset < 2 * (length / 2) := by omega
    rw [validBits, status, testBit_oddBits]
    split
    · next heven => simp [heven]
    · next hodd => simpa using ⟨hhalf (by omega), by omega⟩
  | _ => simp [validBits, status]

theorem HostRun.testBit_validBits_of_le {run : HostRun} {length i : Nat} (hle : length ≤ i) :
    (run.validBits length).testBit i = false := by
  cases run with
  | valid => simp [validBits, Nat.testBit_two_pow_sub_one, hle]
  | pairs =>
    have hhalf : ¬ i < 2 * (length / 2) := by omega
    rw [validBits, testBit_oddBits, decide_eq_false hhalf, Bool.false_and]
  | _ => simp [validBits]

theorem testBit_validBits (runs : List (Nat × HostRun)) (start i : Nat) :
    (validBits runs).testBit i = true ↔ statusFrom (start + i) start runs = .valid := by
  induction runs generalizing start i with
  | nil => simp [validBits, statusFrom]
  | cons first runs ih =>
    obtain ⟨length, run⟩ := first
    rw [validBits, statusFrom, Nat.testBit_or, Nat.testBit_shiftLeft]
    by_cases hlt : i < length
    · rw [decide_eq_false (Nat.not_le_of_lt hlt), Bool.false_and, Bool.or_false, if_pos (by omega),
        Nat.add_sub_cancel_left]
      exact HostRun.testBit_validBits hlt _
    · have hle : length ≤ i := Nat.le_of_not_lt hlt
      have hsum : start + i = start + length + (i - length) := by omega
      rw [HostRun.testBit_validBits_of_le hle, Bool.false_or, decide_eq_true hle, Bool.true_and,
        if_neg (by omega), ih (start + length), hsum]

/-- The code points of the characters that are valid in host names. -/
def validSet : Nat := validBits hostRuns

theorem hostStatus_eq_valid_iff (c : Char) :
    hostStatus c = .valid ↔ validSet.testBit c.toNat = true := by
  rw [hostStatus_eq, validSet, testBit_validBits hostRuns 0, Nat.zero_add]

theorem toNat_ofNat_of_isValid {n : Nat} (h : n.isValidChar) : (Char.ofNat n).toNat = n := by
  have hchar : Char.ofNat n = Char.ofNatAux n h := dif_pos h
  rw [hchar]
  rfl

theorem hostStatus_ofNat {n : Nat} (h : validSet.testBit n = true) :
    hostStatus (Char.ofNat n) = .valid := by
  rw [hostStatus_eq_valid_iff]
  by_cases hvalid : n.isValidChar
  · rwa [toNat_ofNat_of_isValid hvalid]
  · have hzero : validSet.testBit 0 = true := by decide +kernel
    have hchar : Char.ofNat n = Char.ofNat 0 := dif_neg hvalid
    rw [hchar]
    exact hzero

/-! ### The characters that others stand for -/

/-- The code points that the characters of a run stand for. -/
def HostRun.targetBits (run : HostRun) (start length : Nat) : Nat :=
  match run with
  | .shifted first => (2 ^ length - 1) <<< first
  | .constant target => 1 <<< target
  | .pairs => oddBits ((length + 1) / 2) <<< start
  | .mapped targets => targets.foldr (fun target bits => 1 <<< target ||| bits) 0
  | _ => 0

/-- The code points that the characters of a table stand for. -/
def targetBits (start : Nat) : List (Nat × HostRun) → Nat
  | [] => 0
  | (length, run) :: runs => run.targetBits start length ||| targetBits (start + length) runs

theorem testBit_foldr_of_mem {targets : List Nat} {t : Nat} (h : t ∈ targets) :
    (targets.foldr (fun target bits => 1 <<< target ||| bits) 0).testBit t = true := by
  induction targets with
  | nil => cases h
  | cons first targets ih =>
    rw [List.foldr_cons, Nat.testBit_or]
    rcases List.mem_cons.1 h with rfl | h
    · simp [Nat.testBit_shiftLeft]
    · rw [ih h, Bool.or_true]

theorem HostRun.exists_testBit_targetBits {run : HostRun} {start length offset : Nat}
    {targets : List Char} {t : Char} (hlt : offset < length)
    (h : run.status offset (start + offset) = .mapped targets) (ht : t ∈ targets) :
    ∃ n, t = Char.ofNat n ∧ (run.targetBits start length).testBit n = true := by
  cases run with
  | shifted first =>
    obtain rfl : [Char.ofNat (first + offset)] = targets := HostStatus.mapped.inj h
    refine ⟨first + offset, List.mem_singleton.1 ht, ?_⟩
    simp [targetBits, Nat.testBit_shiftLeft, Nat.testBit_two_pow_sub_one, hlt]
  | constant target =>
    obtain rfl : [Char.ofNat target] = targets := HostStatus.mapped.inj h
    exact ⟨target, List.mem_singleton.1 ht, by simp [targetBits, Nat.testBit_shiftLeft]⟩
  | pairs =>
    rw [status] at h
    split at h
    · next heven =>
      obtain rfl : [Char.ofNat (start + offset + 1)] = targets := HostStatus.mapped.inj h
      have hdistance : start + offset + 1 - start = offset + 1 := by omega
      have hhalf : offset + 1 < 2 * ((length + 1) / 2) := by omega
      refine ⟨start + offset + 1, List.mem_singleton.1 ht, ?_⟩
      rw [targetBits, Nat.testBit_shiftLeft, testBit_oddBits, hdistance, decide_eq_true hhalf,
        decide_eq_true (by omega), decide_eq_true (by omega)]
      rfl
    · cases h
  | mapped codes =>
    obtain rfl : codes.map Char.ofNat = targets := HostStatus.mapped.inj h
    obtain ⟨n, hn, rfl⟩ := List.mem_map.1 ht
    exact ⟨n, rfl, testBit_foldr_of_mem hn⟩
  | _ => cases h

theorem exists_testBit_targetBits {runs : List (Nat × HostRun)} {start n : Nat}
    {targets : List Char} {t : Char} (hle : start ≤ n)
    (h : statusFrom n start runs = .mapped targets) (ht : t ∈ targets) :
    ∃ m, t = Char.ofNat m ∧ (targetBits start runs).testBit m = true := by
  induction runs generalizing start with
  | nil => cases h
  | cons first runs ih =>
    obtain ⟨length, run⟩ := first
    rw [statusFrom] at h
    simp only [targetBits, Nat.testBit_or, Bool.or_eq_true]
    split at h
    · next hlt =>
      obtain ⟨offset, rfl⟩ := Nat.exists_eq_add_of_le hle
      rw [Nat.add_sub_cancel_left] at h
      obtain ⟨m, hm, hbit⟩ := HostRun.exists_testBit_targetBits (Nat.lt_of_add_lt_add_left hlt) h ht
      exact ⟨m, hm, .inl hbit⟩
    · next hge =>
      obtain ⟨m, hm, hbit⟩ := ih (Nat.le_of_not_lt hge) h
      exact ⟨m, hm, .inr hbit⟩

/-- Nothing stands for a character that is not valid itself. -/
theorem targetBits_subset : targetBits 0 hostRuns ||| validSet = validSet := by decide +kernel

/-- A character stands for valid characters. -/
theorem hostStatus_of_mem_mapped {c t : Char} {targets : List Char}
    (h : hostStatus c = .mapped targets) (ht : t ∈ targets) : hostStatus t = .valid := by
  rw [hostStatus_eq] at h
  obtain ⟨n, rfl, hbit⟩ := exists_testBit_targetBits (Nat.zero_le _) h ht
  refine hostStatus_ofNat ?_
  rw [← targetBits_subset, Nat.testBit_or, hbit, Bool.true_or]

/-! ### ASCII -/

/-- Of ASCII, the capital letters stand for the small ones, and all else is valid. -/
theorem hostStatus_ascii {c : Char} (h : c.toNat < 0x80) :
    hostStatus c = if 65 ≤ c.toNat ∧ c.toNat ≤ 90 then .mapped [Char.ofNat (c.toNat + 32)]
      else .valid := by
  have hall : ∀ n < 0x80, statusFrom n 0 hostRuns =
      if 65 ≤ n ∧ n ≤ 90 then .mapped [Char.ofNat (n + 32)] else .valid := by decide +kernel
  rw [hostStatus_eq, hall _ h]

end NodeFleet.Unicode
