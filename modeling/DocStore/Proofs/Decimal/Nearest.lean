-- SUMMARY: A decimal has a nearest double exactly if it is not halfway past the greatest one.
import DocStore.Decimal.Nearest
import Mathlib

/-!
# The range of doubles

Which decimals have a nearest double is decided by their number of digits, where that is enough, and
otherwise by a comparison of integers. Both agree with one comparison of rational numbers: the first
number without a nearest double is halfway between the greatest double and the next power of two.
-/

namespace DocStore.Decimal

/-- The number that a decimal is. -/
def value (d : Decimal) : ℚ :=
  d.digits * 10 ^ d.exponent

theorem firstBeyond_bounds : 1 < firstBeyond ∧ firstBeyond ≤ 10 ^ 310 := by
  decide +kernel

/-- A number has as many digits as the powers of ten that it lies between. -/
theorem digits_bounds {n : Nat} (pos : 0 < n) :
    10 ^ ((Nat.toDigits 10 n).length - 1) ≤ n ∧ n < 10 ^ (Nat.toDigits 10 n).length := by
  have some : 0 < (Nat.toDigits 10 n).length := Nat.length_toDigits_pos
  refine ⟨?_, (Nat.length_toDigits_le_iff (by decide) some).1 le_rfl⟩
  rcases Nat.eq_zero_or_pos ((Nat.toDigits 10 n).length - 1) with one | more
  · rw [one, pow_zero]
    exact pos
  · rw [← Nat.not_lt, ← Nat.length_toDigits_le_iff (by decide) more]
    omega

/-- The order of a decimal is the power of ten just above it. -/
theorem value_bounds {d : Decimal} (pos : 0 < d.digits) :
    (10 : ℚ) ^ (d.order - 1) ≤ d.value ∧ d.value < 10 ^ d.order := by
  obtain ⟨lower, upper⟩ := digits_bounds pos
  have some : 0 < (Nat.toDigits 10 d.digits).length := Nat.length_toDigits_pos
  have power : (0 : ℚ) < 10 ^ d.exponent := by positivity
  have split : d.order - 1 = ((Nat.toDigits 10 d.digits).length - 1 : Nat) + d.exponent := by
    rw [order]
    omega
  rw [split, order, zpow_add₀ (by norm_num), zpow_add₀ (by norm_num), zpow_natCast, zpow_natCast]
  exact ⟨mul_le_mul_of_nonneg_right (mod_cast lower) power.le,
    mul_lt_mul_of_pos_right (mod_cast upper) power⟩

/-- Decimals are compared with an integer by multiplying both with a power of ten. -/
theorem le_value_iff {n : Nat} (d : Decimal) :
    n * Nat.pow 10 (-d.exponent).toNat ≤ d.digits * Nat.pow 10 d.exponent.toNat ↔
      (n : ℚ) ≤ d.value := by
  simp only [Nat.pow_eq, value]
  rcases Int.le_total 0 d.exponent with nonneg | nonpos
  · obtain ⟨k, exponent⟩ := Int.eq_ofNat_of_zero_le nonneg
    rw [exponent, zpow_natCast, Int.toNat_natCast, show (-(k : Int)).toNat = 0 by omega, pow_zero,
      Nat.mul_one]
    norm_cast
  · obtain ⟨k, exponent⟩ := Int.eq_ofNat_of_zero_le (Int.neg_nonneg.2 nonpos)
    rw [exponent, show d.exponent = -(k : Int) by omega, zpow_neg, zpow_natCast, ← div_eq_mul_inv,
      le_div_iff₀ (by positivity), Int.toNat_natCast, show (-(k : Int)).toNat = 0 by omega, pow_zero,
      Nat.mul_one]
    norm_cast

/-- A decimal has no nearest double exactly if it is halfway past the greatest one or beyond that. -/
theorem toFloat?_eq_none_iff (d : Decimal) : d.toFloat? = none ↔ (firstBeyond : ℚ) ≤ d.value := by
  obtain ⟨one, small⟩ := firstBeyond_bounds
  have one : (1 : ℚ) < firstBeyond := mod_cast one
  have small : (firstBeyond : ℚ) ≤ 10 ^ (310 : Int) := mod_cast small
  unfold toFloat?
  by_cases zero : d.digits = 0
  · have none : d.value = 0 := by simp [value, zero]
    simp only [zero, if_true, none, reduceCtorEq, false_iff, not_le]
    linarith
  obtain ⟨lower, upper⟩ := value_bounds (Nat.pos_of_ne_zero zero)
  rw [if_neg zero]
  by_cases low : d.order < tiny
  · have below : (10 : ℚ) ^ d.order ≤ 10 ^ (0 : Int) :=
      zpow_le_zpow_right₀ (by norm_num) (by rw [tiny] at low; omega)
    rw [zpow_zero] at below
    simp only [low, if_true, reduceCtorEq, false_iff, not_le]
    linarith
  rw [if_neg low]
  by_cases high : huge < d.order
  · have above : (10 : ℚ) ^ (310 : Int) ≤ 10 ^ (d.order - 1) :=
      zpow_le_zpow_right₀ (by norm_num) (by rw [huge] at high; omega)
    simp only [high, if_true, true_iff]
    linarith
  rw [if_neg high, ← le_value_iff]
  simp

end DocStore.Decimal
