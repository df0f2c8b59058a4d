import Mathlib.Algebra.Order.Field.Basic
import Mathlib.Algebra.Order.Field.Rat
import Mathlib.Data.Rat.Lemmas
import Mathlib.Tactic.FieldSimp
import Mathlib.Tactic.Linarith
import Mathlib.Tactic.Ring
import NodeFleet.Number.Rounding

/-!
# Rounding to 53 binary digits

A rounded number differs from the number by at most its `2 ^ 53`th part, and integers below `2 ^ 53`
are kept. So two numbers of which one is smaller by more than a `2 ^ 50`th part are told apart after
rounding.
-/

namespace NodeFleet.Number

variable {n d : Nat}

/-! ### Quotients of natural numbers -/

/-- The nearest integer is at most one half away. -/
theorem nearestQuotient_bounds (n : Nat) (hd : 0 < d) :
    2 * n ≤ 2 * nearestQuotient n d * d + d ∧ 2 * nearestQuotient n d * d ≤ 2 * n + d := by
  have hdiv : d * (n / d) + n % d = n := Nat.div_add_mod n d
  have hmod : n % d < d := Nat.mod_lt n hd
  have hlow : 2 * (n / d) * d = 2 * (d * (n / d)) := by ring
  have hhigh : 2 * (n / d + 1) * d = 2 * (d * (n / d)) + 2 * d := by ring
  unfold nearestQuotient
  dsimp only
  split
  · rw [hlow]
    omega
  · split
    · rw [hhigh]
      omega
    · split
      · rw [hlow]
        omega
      · rw [hhigh]
        omega

theorem nearestQuotient_one (n : Nat) : nearestQuotient n 1 = n := by
  simp [nearestQuotient, Nat.mod_one]

/-- A quotient moved by the difference of the binary lengths has 53 binary digits at least. -/
theorem le_moved (hn : n ≠ 0) {left right : Nat}
    (h : n.log2 + left = 53 + d.log2 + right) :
    2 ^ 52 * (d * 2 ^ right) ≤ n * 2 ^ left := by
  calc 2 ^ 52 * (d * 2 ^ right)
      ≤ 2 ^ 52 * (2 ^ (d.log2 + 1) * 2 ^ right) :=
        Nat.mul_le_mul_left _ (Nat.mul_le_mul_right _ Nat.lt_log2_self.le)
    _ = 2 ^ n.log2 * 2 ^ left := by
        rw [← pow_add, ← pow_add, ← pow_add, h]
        congr 1
        omega
    _ ≤ n * 2 ^ left := Nat.mul_le_mul_right _ (Nat.log2_self_le hn)

/-- Moved by its places, a quotient has 53 binary digits at least. -/
theorem le_placesOf (hn : n ≠ 0) (hd : d ≠ 0) :
    2 ^ 52 * (d * 2 ^ (-placesOf n d).toNat) ≤ n * 2 ^ (placesOf n d).toNat := by
  obtain ⟨places, hplaces⟩ : ∃ places : Int, places = 53 - (n.log2 - d.log2 : Int) := ⟨_, rfl⟩
  have hmoved : 2 ^ 52 * (d * 2 ^ (-places).toNat) ≤ n * 2 ^ places.toNat :=
    le_moved hn (by omega)
  unfold placesOf
  rw [← hplaces]
  dsimp only [Nat.pow_eq]
  split
  · next hlong =>
    have hpos : 0 < d * 2 ^ (-places).toNat := by positivity
    have hfull : 2 ^ 53 * (d * 2 ^ (-places).toNat) ≤ n * 2 ^ places.toNat :=
      (Nat.le_div_iff_mul_le hpos).1 hlong
    rcases Int.lt_or_le 0 places with hleft | hright
    · -- one place less to the left
      obtain ⟨k, rfl⟩ : ∃ k : Nat, places = k + 1 := ⟨(places - 1).toNat, by omega⟩
      have hk : ((k : Int) + 1).toNat = k + 1 := by omega
      have hk' : ((k : Int) + 1 - 1).toNat = k := by omega
      have hzero : (-((k : Int) + 1)).toNat = 0 := by omega
      have hzero' : (-((k : Int) + 1 - 1)).toNat = 0 := by omega
      rw [hk, hzero, pow_succ 2 k, ← Nat.mul_assoc n] at hfull
      rw [hk', hzero']
      omega
    · -- one place more to the right
      obtain ⟨k, rfl⟩ : ∃ k : Nat, places = -k := ⟨(-places).toNat, by omega⟩
      have hk : (-(-(k : Int))).toNat = k := by omega
      have hk' : (-(-(k : Int) - 1)).toNat = k + 1 := by omega
      have hzero : (-(k : Int)).toNat = 0 := by omega
      have hzero' : (-(k : Int) - 1).toNat = 0 := by omega
      rw [hk, hzero] at hfull
      rw [hk', hzero', pow_succ 2 k, ← Nat.mul_assoc d]
      omega
  · exact hmoved

/-- A rounded quotient is as close to the quotient as 53 binary digits allow. -/
theorem abs_roundQuotient_sub_le (hn : n ≠ 0) (hd : d ≠ 0) :
    |roundQuotient n d - n / d| ≤ (n / d : Rat) / 2 ^ 53 := by
  unfold roundQuotient
  dsimp only [Nat.pow_eq]
  obtain ⟨left, hleft⟩ : ∃ left, left = 2 ^ (placesOf n d).toNat := ⟨_, rfl⟩
  obtain ⟨right, hright⟩ : ∃ right, right = 2 ^ (-placesOf n d).toNat := ⟨_, rfl⟩
  have hlong : 2 ^ 52 * (d * right) ≤ n * left := hleft ▸ hright ▸ le_placesOf hn hd
  have hleftPos : 0 < left := hleft ▸ Nat.two_pow_pos _
  have hrightPos : 0 < right := hright ▸ Nat.two_pow_pos _
  rw [← hleft, ← hright]
  obtain ⟨hlow, hhigh⟩ :=
    nearestQuotient_bounds (n * left) (d := d * right) (by positivity)
  obtain ⟨m, hm⟩ : ∃ m, m = nearestQuotient (n * left) (d * right) := ⟨_, rfl⟩
  rw [← hm] at hlow hhigh ⊢
  have hscale : (0 : Rat) < left * d := by
    have : 0 < left * d := Nat.mul_pos hleftPos (Nat.pos_of_ne_zero hd)
    exact_mod_cast this
  have hleftNe : (left : Rat) ≠ 0 := by exact_mod_cast hleftPos.ne'
  have hdNe : (d : Rat) ≠ 0 := by exact_mod_cast hd
  have hdiff : ((m * right : Nat) : Rat) / left - n / d =
      (m * (d * right) - n * left) / (left * d) := by
    field_simp
    push_cast
    ring
  have hpart : (n : Rat) / d / 2 ^ 53 = n * left / 2 ^ 53 / (left * d) := by
    field_simp
  have hlow' : 2 * ((n : Rat) * left) ≤ 2 * m * (d * right) + d * right := by exact_mod_cast hlow
  have hhigh' : 2 * (m : Rat) * (d * right) ≤ 2 * (n * left) + d * right := by
    exact_mod_cast hhigh
  have hlong' : 2 ^ 52 * ((d : Rat) * right) ≤ n * left := by exact_mod_cast hlong
  rw [hdiff, hpart, abs_div, abs_of_pos hscale]
  refine div_le_div_of_nonneg_right ?_ hscale.le
  rw [abs_le]
  constructor
  · linarith
  · linarith

/-! ### Numbers -/

variable {q r : Rat}

theorem round53_of_nonneg (hq : 0 ≤ q) :
    round53 q = if q.num = 0 then 0 else roundQuotient q.num.natAbs q.den := by
  unfold round53
  rw [if_neg (Int.not_lt.2 (Rat.num_nonneg.2 hq))]

/-- A rounded number is as close to the number as 53 binary digits allow. -/
theorem abs_round53_sub_le (hq : 0 ≤ q) : |round53 q - q| ≤ q / 2 ^ 53 := by
  rw [round53_of_nonneg hq]
  split
  · next hzero =>
    rw [Rat.num_eq_zero.1 hzero]
    norm_num
  · next hne =>
    have hnum : ((q.num.natAbs : Nat) : Rat) = q.num := by
      rw [← Int.cast_natCast, Int.natAbs_of_nonneg (Rat.num_nonneg.2 hq)]
    have h := abs_roundQuotient_sub_le (n := q.num.natAbs) (Int.natAbs_ne_zero.2 hne) q.den_nz
    rwa [hnum, Rat.num_div_den] at h

/-- Integers of at most 53 binary digits are kept. -/
theorem round53_natCast (hn : n < 2 ^ 53) : round53 n = n := by
  rw [round53_of_nonneg (Nat.cast_nonneg n)]
  split
  · next hzero => exact (Rat.num_eq_zero.1 hzero).symm
  · next hne =>
    have hpos : n ≠ 0 := by
      rintro rfl
      exact hne rfl
    have hlog : n.log2 < 53 := (Nat.log2_lt hpos).2 hn
    have hone : Nat.log2 1 = 0 := by decide
    have hplaces : 0 ≤ placesOf n 1 := by
      unfold placesOf
      dsimp only
      rw [hone]
      split <;> omega
    have hright : (-placesOf n 1).toNat = 0 := by omega
    rw [Rat.num_natCast, Rat.den_natCast, Int.natAbs_natCast]
    unfold roundQuotient
    dsimp only [Nat.pow_eq]
    rw [hright, pow_zero, Nat.mul_one, Nat.mul_one, nearestQuotient_one]
    push_cast
    exact mul_div_cancel_right₀ _ (by positivity)

/-- Numbers that are far enough apart are told apart after rounding. -/
theorem round53_lt_round53 (hq : 0 ≤ q) (h : q < r * (1 - 1 / 2 ^ 50)) :
    round53 q < round53 r := by
  have hr : 0 < r := by
    by_contra hneg
    have : r * (1 - 1 / 2 ^ 50) ≤ 0 := mul_nonpos_of_nonpos_of_nonneg (not_lt.1 hneg) (by norm_num)
    linarith
  obtain ⟨-, hhigh⟩ := abs_le.1 (abs_round53_sub_le hq)
  obtain ⟨hlow, -⟩ := abs_le.1 (abs_round53_sub_le hr.le)
  linarith

end NodeFleet.Number
