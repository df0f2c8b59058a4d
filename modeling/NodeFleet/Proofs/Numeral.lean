import NodeFleet.Json.Decode
import NodeFleet.Proofs.Digits
import Mathlib.Tactic.IntervalCases

/-!
# Reading printed integers

The text of an integer that a JSON number can hold is scanned as the integer, if what follows the
text cannot belong to the number.
-/

namespace NodeFleet.Json

/-- What the scanner sees of printed characters. -/
def seen (cs : List Char) : List (Option Char) := cs.map some

@[simp] theorem seen_nil : seen [] = [] := rfl

@[simp] theorem seen_cons (c : Char) (cs : List Char) : seen (c :: cs) = some c :: seen cs := rfl

@[simp] theorem seen_append (cs ds : List Char) : seen (cs ++ ds) = seen cs ++ seen ds :=
  List.map_append

/-- Whether a text goes on with a character that belongs to no number. -/
def endsNumber : List (Option Char) → Bool
  | some c :: _ => (Text.digit? c).isNone && c != '.' && c != 'e' && c != 'E'
  | _ => true

/-- An integer that a number can hold. -/
def Holds (n : Int) : Prop := -(Text.maxInt64 + 1 : Nat) ≤ n ∧ n ≤ Text.maxNat64

variable {rest : List (Option Char)} {n : Nat}

theorem spanDigits_digitChar {d : Nat} (h : d < 10) (rest : List (Option Char)) :
    spanDigits (some (Nat.digitChar d) :: rest) =
      (d :: (spanDigits rest).1, (spanDigits rest).2) := by
  rw [spanDigits, Text.digit?_digitChar h]

theorem spanDigits_of_endsNumber (h : endsNumber rest = true) : spanDigits rest = ([], rest) := by
  cases rest with
  | nil => rfl
  | cons c rest =>
    cases c with
    | none => rfl
    | some c =>
      simp only [endsNumber, Bool.and_eq_true, Option.isNone_iff_eq_none] at h
      rw [spanDigits, h.1.1.1]

theorem scanFraction_of_endsNumber (h : endsNumber rest = true) (negative : Bool) (n : Nat) :
    scanFraction negative n 0 rest = .ok (.ok (integerOfParts negative n), rest) := by
  cases rest with
  | nil => rfl
  | cons c rest =>
    cases c with
    | none => rfl
    | some c =>
      simp only [endsNumber, Bool.and_eq_true, bne_iff_ne, ne_eq] at h
      obtain ⟨⟨⟨-, hpoint⟩, hsmall⟩, hlarge⟩ := h
      simp [scanFraction, hpoint, hsmall, hlarge]

/-- The digits of a number: the first one is zero only if there is no other, and they lead to the
number, whatever follows them. -/
theorem exists_spanDigits (n : Nat) (rest : List (Option Char)) :
    ∃ d ds, spanDigits (seen (Nat.toDigits 10 n) ++ rest) =
        (d :: ds ++ (spanDigits rest).1, (spanDigits rest).2) ∧
      (d = 0 → n = 0 ∧ ds = []) ∧
      ∀ limit, n ≤ limit → ∀ more,
        appendDigits limit 0 (d :: ds ++ more) = appendDigits limit n more := by
  induction n using Nat.strongRecOn generalizing rest with
  | ind n ih =>
    by_cases hn : n < 10
    · refine ⟨n, [], ?_, fun h => ⟨h, rfl⟩, fun limit hle more => ?_⟩
      · rw [Nat.toDigits_of_lt_base hn]
        exact spanDigits_digitChar hn rest
      · rw [List.singleton_append, appendDigits, if_pos (by omega), Nat.mul_zero, Nat.zero_add]
    · obtain ⟨d, ds, hspan, hzero, happend⟩ :=
        ih (n / 10) (by omega) (some (Nat.digitChar (n % 10)) :: rest)
      refine ⟨d, ds ++ [n % 10], ?_, fun h => ?_, fun limit hle more => ?_⟩
      · rw [Nat.toDigits_of_base_le (by decide) (by omega), seen_append, List.append_assoc]
        change spanDigits (seen (Nat.toDigits 10 (n / 10)) ++
          some (Nat.digitChar (n % 10)) :: rest) = _
        rw [hspan, spanDigits_digitChar (Nat.mod_lt n (by decide))]
        simp
      · have := (hzero h).1
        omega
      · have hmore := happend limit (by omega) (n % 10 :: more)
        rw [appendDigits, if_pos (by omega), Nat.div_add_mod] at hmore
        rw [← hmore]
        simp

theorem scanNumber_toDigits (hn : n ≤ Text.maxNat64) (hrest : endsNumber rest = true)
    (negative : Bool) :
    scanNumber negative (seen (Nat.toDigits 10 n) ++ rest) =
      .ok (.ok (integerOfParts negative n), rest) := by
  obtain ⟨d, ds, hspan, hzero, happend⟩ := exists_spanDigits n rest
  rw [spanDigits_of_endsNumber hrest, List.append_nil] at hspan
  have hvalue := happend Text.maxNat64 hn []
  rw [List.append_nil] at hvalue
  unfold scanNumber
  rw [hspan]
  split
  · next heq => cases heq
  · next heq => cases heq
  · next heq =>
    cases heq
    cases (hzero rfl).2
  · next heq =>
    cases heq
    rw [hvalue]
    exact scanFraction_of_endsNumber hrest negative n

/-- The text of a natural number begins with a digit. -/
theorem exists_toDigits_eq (n : Nat) :
    ∃ d < 10, ∃ cs, Nat.toDigits 10 n = Nat.digitChar d :: cs := by
  cases hdigits : Nat.toDigits 10 n with
  | nil => exact absurd hdigits Nat.toDigits_ne_nil
  | cons c cs =>
    obtain ⟨d, hd, rfl⟩ := Text.mem_toDigits (by decide) (hdigits ▸ List.mem_cons_self)
    exact ⟨d, hd, cs, rfl⟩

theorem chars_negSucc (n : Nat) :
    (Value.ofInt (.negSucc n)).chars = '-' :: Nat.toDigits 10 (n + 1) := by
  change ("-" ++ Text.showNat (n + 1)).toList = _
  rw [String.toList_append]
  exact congrArg ('-' :: ·) String.toList_ofList

/-- The text of an integer begins with a character that is neither blank nor the end of a list. -/
theorem exists_intChars_eq (n : Int) :
    ∃ c cs, (Value.ofInt n).chars = c :: cs ∧ isJsonBlank (some c) = false ∧ c ≠ ']' := by
  cases n with
  | ofNat n =>
    obtain ⟨d, hd, cs, hdigits⟩ := exists_toDigits_eq n
    have hdigit : ∀ d ∈ List.range 10,
        isJsonBlank (some (Nat.digitChar d)) = false ∧ Nat.digitChar d ≠ ']' := by decide
    exact ⟨_, cs, String.toList_ofList.trans hdigits, hdigit d (List.mem_range.2 hd)⟩
  | negSucc n => exact ⟨'-', _, chars_negSucc n, by decide, by decide⟩

theorem scanValue_digitChar {d : Nat} (h : d < 10) (fuel : Nat) (rest : List (Option Char)) :
    scanValue (fuel + 1) (some (Nat.digitChar d) :: rest) =
      scanned .num (scanNumber false (some (Nat.digitChar d) :: rest)) := by
  interval_cases d
  all_goals rfl

/-- The text of an integer is scanned as the integer. -/
theorem scanValue_int {n : Int} (h : Holds n) (fuel : Nat) (hrest : endsNumber rest = true) :
    scanValue (fuel + 1) (seen (Value.ofInt n).chars ++ rest) =
      ((Value.ofInt n).toDoc, some rest) := by
  obtain ⟨hlow, hhigh⟩ := h
  cases n with
  | ofNat n =>
    have hn : n ≤ Text.maxNat64 := Int.ofNat_le.1 hhigh
    have hchars : (Value.ofInt (.ofNat n)).chars = Nat.toDigits 10 n := String.toList_ofList
    have hscan := scanNumber_toDigits hn hrest false
    obtain ⟨d, hd, cs, hdigits⟩ := exists_toDigits_eq n
    rw [hdigits, seen_cons, List.cons_append] at hscan
    rw [hchars, hdigits, seen_cons, List.cons_append, scanValue_digitChar hd, hscan]
    rfl
  | negSucc n =>
    have hn : n + 1 ≤ Text.maxInt64 + 1 := by omega
    have hscan := scanNumber_toDigits (hn.trans (by decide)) hrest true
    have hvalue : integerOfParts true (n + 1) = .int (.negSucc n) := by
      simp [integerOfParts, hn, Int.negSucc_eq]
    rw [chars_negSucc, seen_cons, List.cons_append]
    change scanned .num (scanNumber true _) = _
    rw [hscan, hvalue]
    rfl

end NodeFleet.Json
