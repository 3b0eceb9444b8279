-- SUMMARY: The shortest decimal of a double has no superfluous zero: its digits are zero only for zero itself.
import DocStore.Decimal.Shortest
import Mathlib.Tactic.Ring

/-!
# Digits of shortest decimals

The text of a double starts with the digits of its shortest decimal, and a text may start with a
zero only where no further digit stands before the point. So the digits must not be zero, unless the
double is. On the grids of the search this is clear, because a decimal near a double that is not zero
is not zero either. At the end of the search it is a matter of size: the power of ten that is reached
by then lies below the double.
-/

namespace DocStore.Binary

/-! ## Powers of two and ten -/

private theorem ten_pow_le_two_pow {p n : Nat} (h : 10 * p ≤ 3 * n) : 10 ^ p ≤ 2 ^ n := by
  refine (Nat.pow_le_pow_iff_left (show (3 : Nat) ≠ 0 by decide)).1 ?_
  calc (10 ^ p) ^ 3 = (10 ^ 3) ^ p := by rw [← Nat.pow_mul, ← Nat.pow_mul, Nat.mul_comm]
    _ ≤ (2 ^ 10) ^ p := Nat.pow_le_pow_left (by decide) p
    _ = 2 ^ (10 * p) := (Nat.pow_mul 2 10 p).symm
    _ ≤ 2 ^ (n * 3) := Nat.pow_le_pow_right (by decide) (by omega)
    _ = (2 ^ n) ^ 3 := Nat.pow_mul 2 n 3

private theorem two_pow_le_ten_pow {n k : Nat} (h : 4 * n ≤ 13 * k) : 2 ^ n ≤ 10 ^ k := by
  refine (Nat.pow_le_pow_iff_left (show (4 : Nat) ≠ 0 by decide)).1 ?_
  calc (2 ^ n) ^ 4 = 2 ^ (n * 4) := (Nat.pow_mul 2 n 4).symm
    _ ≤ 2 ^ (13 * k) := Nat.pow_le_pow_right (by decide) (by omega)
    _ = (2 ^ 13) ^ k := Nat.pow_mul 2 13 k
    _ ≤ (10 ^ 4) ^ k := Nat.pow_le_pow_left (by decide) k
    _ = (10 ^ k) ^ 4 := by rw [← Nat.pow_mul, ← Nat.pow_mul, Nat.mul_comm]

/-! ## Doubles -/

/-- The power of two just below a double. -/
def order (b : Binary) : Int :=
  (Nat.log2 b.mantissa : Int) + b.exponent

/-- The powers of two that the doubles reach. -/
theorem order_ofFloat (f : Float) (h : (ofFloat f).mantissa ≠ 0) :
    -1074 ≤ (ofFloat f).order ∧ (ofFloat f).order ≤ 1024 := by
  unfold order ofFloat leastNormal at *
  generalize f.toBits.toNat = bits at *
  simp only at h ⊢
  have fraction_lt : bits % 0x10000000000000 < 0x10000000000000 := Nat.mod_lt _ (by decide)
  have field_lt : bits / 0x10000000000000 % 0x800 < 0x800 := Nat.mod_lt _ (by decide)
  split at h
  · rename_i subnormal
    simp only [subnormal, if_true] at h ⊢
    have log_lt := (Nat.log2_lt (k := 52) h).2 (by simpa using fraction_lt)
    omega
  · rename_i normal
    simp only [normal, if_false] at h ⊢
    have log_lt := (Nat.log2_lt (k := 53) h).2 (by simp only [Nat.reducePow]; omega)
    omega

theorem scales_pos (p q : Int) : 0 < (scales p q).1 ∧ 0 < (scales p q).2 := by
  have ten (n : Nat) : 0 < 10 ^ n := Nat.pow_pos (by decide)
  have two (n : Nat) : 0 < 2 ^ n := Nat.pow_pos (by decide)
  exact ⟨Nat.mul_pos (ten _) (two _), Nat.mul_pos (ten _) (two _)⟩

/-- The power of ten that is reached at the end of the search lies below the double. -/
theorem scales_le {b : Binary} (nonzero : b.mantissa ≠ 0) (lower : -1074 ≤ b.order)
    (upper : b.order ≤ 1024) :
    (scales ((b.order + 1) * 1233 / 4096 - 22) b.exponent).1 ≤
      4 * b.mantissa * (scales ((b.order + 1) * 1233 / 4096 - 22) b.exponent).2 := by
  obtain ⟨p, hp⟩ : ∃ p, p = (b.order + 1) * 1233 / 4096 - 22 := ⟨_, rfl⟩
  rw [← hp]
  have order_eq : b.order = (Nat.log2 b.mantissa : Int) + b.exponent := rfl
  have mantissa_le : 2 ^ Nat.log2 b.mantissa ≤ b.mantissa := Nat.log2_self_le nonzero
  generalize b.order = L at *
  generalize Nat.log2 b.mantissa = l at *
  generalize b.exponent = q at *
  -- Both sides as powers of two, with the power of ten bounded by one of them.
  have bound : 10 ^ p.toNat * 2 ^ (2 - q).toNat ≤ 2 ^ (2 + l + (q - 2).toNat) * 10 ^ (-p).toNat := by
    by_cases sign : 0 ≤ p
    · have ten : 10 ^ p.toNat ≤ 2 ^ L.toNat := ten_pow_le_two_pow (by omega)
      calc 10 ^ p.toNat * 2 ^ (2 - q).toNat ≤ 2 ^ L.toNat * 2 ^ (2 - q).toNat :=
            Nat.mul_le_mul_right _ ten
        _ = 2 ^ (2 + l + (q - 2).toNat) := by rw [← Nat.pow_add]; congr 1; omega
        _ ≤ _ := Nat.le_mul_of_pos_right _ (Nat.pow_pos (by decide))
    · have none : p.toNat = 0 := by omega
      have ten : 2 ^ (-L).toNat ≤ 10 ^ (-p).toNat := two_pow_le_ten_pow (by omega)
      calc 10 ^ p.toNat * 2 ^ (2 - q).toNat = 2 ^ (2 - q).toNat := by rw [none]; omega
        _ ≤ 2 ^ (2 + l + (q - 2).toNat + (-L).toNat) := Nat.pow_le_pow_right (by decide) (by omega)
        _ = 2 ^ (2 + l + (q - 2).toNat) * 2 ^ (-L).toNat := Nat.pow_add ..
        _ ≤ _ := Nat.mul_le_mul_left _ ten
  calc 10 ^ p.toNat * 2 ^ (2 - q).toNat
      ≤ 2 ^ (2 + l + (q - 2).toNat) * 10 ^ (-p).toNat := bound
    _ = 4 * 2 ^ l * (10 ^ (-p).toNat * 2 ^ (q - 2).toNat) := by ring
    _ ≤ 4 * b.mantissa * (10 ^ (-p).toNat * 2 ^ (q - 2).toNat) :=
        Nat.mul_le_mul_right _ (Nat.mul_le_mul_left _ mantissa_le)

/-! ## Digits -/

/-- A grid point that rounds to a double other than zero is not zero. -/
theorem digits_ne_zero_of_accepts {b : Binary} {d : Nat} {p : Int} (nonzero : b.mantissa ≠ 0)
    (accepted : b.accepts d p = true) : d ≠ 0 := by
  rintro rfl
  have lower_pos : 0 < b.lowerQuarters := by
    unfold lowerQuarters
    split <;> omega
  have bound_pos := Nat.mul_pos lower_pos (scales_pos p b.exponent).2
  simp only [accepts, Nat.zero_mul] at accepted
  split at accepted <;> simp only [Bool.and_eq_true, decide_eq_true_eq] at accepted <;> omega

theorem digits_ne_zero_of_onGrid {b : Binary} {p : Int} {d : Decimal} (nonzero : b.mantissa ≠ 0)
    (found : b.onGrid p = some d) : d.digits ≠ 0 := by
  simp only [onGrid] at found
  split at found
  · cases found
  · rename_i below _
    cases found
    exact digits_ne_zero_of_accepts nonzero below
  · cases found
    exact Nat.succ_ne_zero _
  · rename_i below _
    split at found
    · cases found
      exact digits_ne_zero_of_accepts nonzero below
    · cases found
      exact Nat.succ_ne_zero _

/-- The shortest decimal of a double other than zero is not zero. -/
theorem digits_shortestFrom_ne_zero {b : Binary} (nonzero : b.mantissa ≠ 0) {steps : Nat} {p : Int}
    (small : (scales (p - steps) b.exponent).1 ≤ 4 * b.mantissa * (scales (p - steps) b.exponent).2) :
    (b.shortestFrom steps p).digits ≠ 0 := by
  induction steps generalizing p with
  | zero =>
    rw [Int.natCast_zero, Int.sub_zero] at small
    exact Nat.ne_of_gt (Nat.div_pos small (scales_pos p b.exponent).1)
  | succ steps ih =>
    unfold shortestFrom
    split
    · rename_i found
      exact digits_ne_zero_of_onGrid nonzero found
    · refine ih ?_
      have same : p - 1 - (steps : Int) = p - ((steps + 1 : Nat) : Int) := by omega
      rw [same]
      exact small

/-- The digits of the shortest decimal of a double are zero only for zero, which has no power. -/
theorem shortest_ofFloat (f : Float) :
    (ofFloat f).shortest = ⟨0, 0⟩ ∨ (ofFloat f).shortest.digits ≠ 0 := by
  by_cases zero : (ofFloat f).mantissa = 0
  · exact Or.inl (by simp [shortest, zero])
  · refine Or.inr ?_
    obtain ⟨lower, upper⟩ := order_ofFloat f zero
    simp only [shortest, zero, if_false]
    refine digits_shortestFrom_ne_zero zero ?_
    have same : ((Nat.log2 (ofFloat f).mantissa : Int) + (ofFloat f).exponent + 1) * 1233 / 4096 + 2 -
        (24 : Nat) = ((ofFloat f).order + 1) * 1233 / 4096 - 22 := by
      unfold order
      omega
    rw [same]
    exact scales_le zero lower upper

end DocStore.Binary
