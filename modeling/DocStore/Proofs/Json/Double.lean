-- SUMMARY: Doubles as numbers: when two of them are equal, and which double an integer becomes.
import DocStore.Json.Number
import Mathlib

/-!
# Doubles

Two doubles are equal if they are the same number, where the two zeros are one number and what is not
a number equals nothing.

An integer of 64 bits becomes the nearest double, which is a normal one unless the integer is zero: it
has a mantissa of 53 binary digits and the sign of the integer. Up to `2 ^ 53` nothing is rounded, so
different integers become different doubles; beyond that some of them meet.
-/

namespace DocStore.Double

open Float.Model (Format totalExponent UnpackedFloat)
open Float.Model.UnpackedFloat

/-! ## Equality -/

/-- Doubles are equal if they are the same number, and the two zeros are equal. -/
theorem beq_iff {f g : Float} :
    (f == g) = true ↔ f.toModel.unpack ≠ .notANumber ∧ g.toModel.unpack ≠ .notANumber ∧
      (f.toModel.unpack = g.toModel.unpack ∨
        (f.toModel.unpack = .zero .positive ∧ g.toModel.unpack = .zero .negative) ∨
        (f.toModel.unpack = .zero .negative ∧ g.toModel.unpack = .zero .positive)) :=
  beq_iff_ne_notANumber_and_eq _ _

/-- A double is equal to itself unless it is not a number. -/
theorem beq_self {f : Float} (number : f.toModel.unpack ≠ .notANumber) : (f == f) = true :=
  beq_iff.2 ⟨number, number, .inl rfl⟩

theorem beq_self_of_isFinite {f : Float} (finite : f.isFinite = true) : (f == f) = true := by
  apply beq_self
  intro same
  change f.toModel.unpack.isFinite = true at finite
  rw [same] at finite
  cases finite

/-- The rational number that an unpacked double is, if it is one. -/
def rational? : UnpackedFloat → Option ℚ
  | .zero _ => some 0
  | .finite sign mantissa exponent _ => some (sign.apply mantissa * 2 ^ exponent)
  | _ => none

/-- Equal doubles are the same rational number. -/
theorem rational?_eq_of_beq {f g : Float} (same : (f == g) = true) :
    rational? f.toModel.unpack = rational? g.toModel.unpack := by
  obtain ⟨-, -, equal | ⟨left, right⟩ | ⟨left, right⟩⟩ := beq_iff.1 same
  · rw [equal]
  · rw [left, right]
    rfl
  · rw [left, right]
    rfl

/-! ## Rounding -/

/-- Whether a mantissa and an exponent are those of a normal double. -/
structure IsNormal (m : Nat) (e : Int) : Prop where
  lower : 2 ^ 52 ≤ m
  upper : m < 2 ^ 53
  least : -1074 ≤ e
  greatest : e ≤ 971

theorem IsNormal.pos {m : Nat} {e : Int} (normal : IsNormal m e) : 0 < m :=
  Nat.lt_of_lt_of_le (Nat.two_pow_pos 52) normal.lower

/-- A normal mantissa has 53 bits. -/
theorem IsNormal.log2_eq {m : Nat} {e : Int} (normal : IsNormal m e) : m.log2 = 52 :=
  (Nat.log2_eq_iff normal.pos.ne').2 ⟨normal.lower, normal.upper⟩

/-- The integer nearest to a quotient, and of two the even one. -/
def nearestQuotient (n d : Nat) : Nat :=
  if 2 * (n % d) < d then n / d
  else if 2 * (n % d) = d then n / d + n / d % 2
  else n / d + 1

/-- The nearest integer that has at most 53 binary digits in front of its zeros. -/
def nearest (n : Nat) : Nat :=
  nearestQuotient n (2 ^ (n.log2 - 52)) * 2 ^ (n.log2 - 52)

/-- The nearest whole quotient is the quotient or the next number. -/
theorem nearestQuotient_bounds (n d : Nat) :
    n / d ≤ nearestQuotient n d ∧ nearestQuotient n d ≤ n / d + 1 := by
  unfold nearestQuotient
  split_ifs <;> omega

/-- The nearest integer is at most half a unit away. -/
theorem nearestQuotient_near {d : Nat} (n : Nat) (pos : 0 < d) :
    2 * n ≤ 2 * (nearestQuotient n d * d) + d ∧ 2 * (nearestQuotient n d * d) ≤ 2 * n + d := by
  have parts := Nat.div_add_mod' n d
  have below := Nat.mod_lt n pos
  unfold nearestQuotient
  split_ifs with less half
  · omega
  · rcases Nat.mod_two_eq_zero_or_one (n / d) with even | odd
    · rw [even, Nat.add_zero]
      omega
    · rw [odd, Nat.add_mul, Nat.one_mul]
      omega
  · rw [Nat.add_mul, Nat.one_mul]
    omega

/-- A nearest whole quotient does not change when both numbers are multiplied. -/
theorem nearestQuotient_mul {c : Nat} (n d : Nat) (pos : 0 < c) :
    nearestQuotient (n * c) (d * c) = nearestQuotient n d := by
  have rest : n * c % (d * c) = n % d * c := Nat.mul_mod_mul_right c n d
  have less : 2 * (n % d * c) < d * c ↔ 2 * (n % d) < d := by
    rw [← Nat.mul_assoc]
    exact Nat.mul_lt_mul_right pos
  have half : 2 * (n % d * c) = d * c ↔ 2 * (n % d) = d := by
    rw [← Nat.mul_assoc]
    exact Nat.mul_left_inj pos.ne'
  simp only [nearestQuotient, Nat.mul_div_mul_right n d pos, rest, less, half]

theorem nearestQuotient_one (n : Nat) : nearestQuotient n 1 = n := by
  simp [nearestQuotient, Nat.mod_one]

/-- A number below the greatest mantissa is its own nearest double. -/
theorem nearest_of_lt {n : Nat} (small : n < 2 ^ 53) : nearest n = n := by
  have digits : n.log2 - 52 = 0 := by
    rcases Nat.eq_zero_or_pos n with rfl | pos
    · rfl
    · have := (Nat.log2_lt pos.ne').2 small
      omega
  simp [nearest, nearestQuotient_one, digits]

theorem log2_mul_two_pow {n : Nat} (pos : 0 < n) (k : Nat) : (n * 2 ^ k).log2 = n.log2 + k := by
  have two : 0 < 2 ^ k := Nat.two_pow_pos k
  refine (Nat.log2_eq_iff (Nat.mul_pos pos two).ne').2 ⟨?_, ?_⟩
  · rw [Nat.pow_add]
    exact Nat.mul_le_mul_right _ (Nat.log2_self_le pos.ne')
  · rw [show n.log2 + k + 1 = n.log2 + 1 + k by omega, Nat.pow_add]
    exact Nat.mul_lt_mul_of_pos_right Nat.lt_log2_self two

/-- Zeros behind a mantissa do not matter for rounding. -/
theorem nearest_mul_two_pow (n k : Nat) : nearest (n * 2 ^ k) = nearest n * 2 ^ k := by
  rcases Nat.eq_zero_or_pos n with rfl | pos
  · simp [nearest_of_lt]
  rw [nearest, log2_mul_two_pow pos]
  rcases Nat.le_total 52 n.log2 with large | small
  · have shift : n.log2 + k - 52 = n.log2 - 52 + k := by omega
    rw [shift, Nat.pow_add, nearestQuotient_mul n _ (Nat.two_pow_pos k), nearest, Nat.mul_assoc]
  · -- All that is cut off is zeros.
    have fits : n < 2 ^ 53 := Nat.lt_log2_self.trans_le (Nat.pow_le_pow_right (by decide) (by omega))
    obtain ⟨cut, isCut⟩ : ∃ cut, cut = n.log2 + k - 52 := ⟨_, rfl⟩
    have split : n * 2 ^ k = n * 2 ^ (k - cut) * 2 ^ cut := by
      rw [Nat.mul_assoc, ← Nat.pow_add, Nat.sub_add_cancel (by omega)]
    have exact := nearestQuotient_mul (n * 2 ^ (k - cut)) 1 (Nat.two_pow_pos cut)
    rw [Nat.one_mul] at exact
    rw [← isCut, split, exact, nearestQuotient_one, nearest_of_lt fits, ← split]

/-- Rounding changes a number by at most one part in `2 ^ 53`. -/
theorem nearest_bounds (n : Nat) :
    2 ^ 53 * n ≤ 2 ^ 53 * nearest n + n ∧ 2 ^ 53 * nearest n ≤ 2 ^ 53 * n + n := by
  rcases Nat.lt_or_ge n (2 ^ 53) with small | large
  · rw [nearest_of_lt small]
    omega
  · have digits : 52 ≤ n.log2 := (Nat.le_log2 (by omega)).2 (by omega)
    have unit : 2 ^ 52 * 2 ^ (n.log2 - 52) ≤ n := by
      rw [← Nat.pow_add, show 52 + (n.log2 - 52) = n.log2 by omega]
      exact Nat.log2_self_le (by omega)
    obtain ⟨lower, upper⟩ := nearestQuotient_near n (Nat.two_pow_pos (n.log2 - 52))
    rw [← nearest] at lower upper
    omega

/-- Whether a mantissa is the whole part of a quotient, its first further digit tells whether half a
unit is left, and its last whether something else than nothing or half a unit is. -/
structure Represents (em : ExtendedMantissa) (n d : Nat) : Prop where
  mantissa : em.mantissa = n / d
  round : em.roundBit = true ↔ d ≤ 2 * (n % d)
  sticky : em.stickyBit = true ↔ n % d ≠ 0 ∧ 2 * (n % d) ≠ d

/-- An integer without bits behind it represents itself. -/
theorem represents_exact (n : Nat) : Represents ⟨n, false, false⟩ n 1 := by
  constructor <;> simp [Nat.mod_one]

/-- A mantissa that is shifted by one bit represents half of what it did, with the bit
remembered. -/
theorem Represents.shiftRightOne {em : ExtendedMantissa} {n d : Nat} (h : Represents em n d)
    (pos : 0 < d) : Represents em.shiftRightOne n (d * 2) := by
  have rest : n % (d * 2) = n % d + d * (n / d % 2) := Nat.mod_mul
  have below := Nat.mod_lt n pos
  obtain ⟨mantissa, round, sticky⟩ := h
  refine ⟨?_, ?_, ?_⟩
  · rw [ExtendedMantissa.shiftRightOne, mantissa, Nat.div_div_eq_div_mul]
  · simp only [ExtendedMantissa.shiftRightOne, mantissa, bne_iff_ne, rest]
    rcases Nat.mod_two_eq_zero_or_one (n / d) with even | odd
    · simp only [even]
      omega
    · simp only [odd]
      omega
  · simp only [ExtendedMantissa.shiftRightOne, Bool.or_eq_true, round, sticky, rest]
    rcases Nat.mod_two_eq_zero_or_one (n / d) with even | odd
    · simp only [even]
      omega
    · simp only [odd]
      omega

/-- The digits that are shifted out are kept as far as rounding asks for them. -/
theorem represents_shiftRight (n k : Nat) :
    Represents ((⟨n, false, false⟩ : ExtendedMantissa) >>> k) n (2 ^ k) := by
  change Represents (k.repeat ExtendedMantissa.shiftRightOne _) n (2 ^ k)
  induction k with
  | zero => exact represents_exact n
  | succ k ih =>
    rw [Nat.repeat, Nat.pow_succ]
    exact ih.shiftRightOne (Nat.two_pow_pos k)

/-- A mantissa with two bits behind it is rounded as the quotient that it represents, halves to
even. -/
theorem Represents.roundedMantissa {em : ExtendedMantissa} {n d : Nat} (h : Represents em n d)
    (pos : 0 < d) : em.roundedMantissa = nearestQuotient n d := by
  obtain ⟨m, round, sticky⟩ := em
  obtain ⟨mantissa, isRound, isSticky⟩ := h
  simp only at mantissa isRound isSticky
  cases round <;> cases sticky <;>
    simp only [Bool.false_eq_true, false_iff, true_iff, not_and, not_not, not_le] at isRound isSticky <;>
    simp only [ExtendedMantissa.roundedMantissa, ExtendedMantissa.accuracy,
      Accuracy.roundToNearestEven, nearestQuotient, mantissa]
  · rw [if_pos isRound]
  · rw [if_pos isRound]
  · rw [if_neg (by omega), if_pos (by omega)]
  · rw [if_neg (by omega), if_neg (by omega)]

/-- Zeros at the end of a mantissa can be shifted out without a trace. -/
theorem shiftRight_zeros (m n : Nat) :
    (⟨m * 2 ^ n, false, false⟩ : ExtendedMantissa) >>> n = ⟨m, false, false⟩ := by
  change n.repeat ExtendedMantissa.shiftRightOne _ = _
  induction n generalizing m with
  | zero => simp [Nat.repeat]
  | succ n ih =>
    have regroup : m * 2 ^ (n + 1) = (2 * m) * 2 ^ n := by ring
    rw [Nat.repeat, regroup, ih]
    simp [ExtendedMantissa.shiftRightOne]

/-- A mantissa of at least 53 binary digits is shifted until it has 53. -/
theorem shiftToTargetExponent_eq {m : Nat} {e : Int} (digits : 52 ≤ m.log2) (least : -1074 ≤ e) :
    shiftToTargetExponent .binary64 m e .exact =
      ((⟨m, false, false⟩ : ExtendedMantissa) >>> (m.log2 - 52), e + (m.log2 - 52 : Nat)) := by
  have target : Format.binary64.targetExponent (totalExponent m e) = e + (m.log2 - 52 : Nat) := by
    simp only [Format.targetExponent, totalExponent, Format.mantissaBits, Format.minExponent]
    omega
  have shift : (e + (m.log2 - 52 : Nat) - e).toNat = m.log2 - 52 := by omega
  simp only [shiftToTargetExponent, shiftToExponent, target, shift,
    ExtendedMantissa.ofMantissaAndAccuracy]

/-- A mantissa of 53 binary digits is not shifted. -/
theorem shift_eq {m : Nat} {e : Int} (digits : m.log2 = 52) (least : -1074 ≤ e) :
    shiftToTargetExponent .binary64 m e .exact = (⟨m, false, false⟩, e) := by
  rw [shiftToTargetExponent_eq digits.ge least, digits, Nat.sub_self, Nat.cast_zero, add_zero]
  rfl

/-- Rounding shifts, rounds, and shifts once more where that carried into a further digit. -/
theorem roundWithAccuracy_eq (s : Sign) {m n : Nat} {e f g : Int} {em : ExtendedMantissa}
    (first : shiftToTargetExponent .binary64 m e .exact = (em, f))
    (second : shiftToTargetExponent .binary64 em.roundedMantissa f .exact = (⟨n, false, false⟩, g))
    (pos : 0 < n) : roundWithAccuracy .binary64 s m e .exact = .finite s n g pos := by
  simp only [roundWithAccuracy, first, second]
  exact dif_neg pos.ne'

/-- A normal mantissa with zeros behind it is not rounded. -/
theorem IsNormal.round_eq {m : Nat} {e : Int} (normal : IsNormal m e) (s : Sign) (n : Nat)
    (least : -1074 ≤ e - n) :
    roundWithAccuracy .binary64 s (m * 2 ^ n) (e - n) .exact = .finite s m e normal.pos := by
  have digits : (m * 2 ^ n).log2 = 52 + n := by
    rw [log2_mul_two_pow normal.pos, normal.log2_eq]
  have first : shiftToTargetExponent .binary64 (m * 2 ^ n) (e - n) .exact = (⟨m, false, false⟩, e) := by
    rw [shiftToTargetExponent_eq (by omega) least, digits, Nat.add_sub_cancel_left,
      shiftRight_zeros, sub_add_cancel]
  exact roundWithAccuracy_eq s first (shift_eq normal.log2_eq normal.least) normal.pos

/-- Cut to its first 53 bits, a large number is a mantissa. -/
theorem div_bounds {m : Nat} (large : 2 ^ 52 ≤ m) :
    2 ^ 52 ≤ m / 2 ^ (m.log2 - 52) ∧ m / 2 ^ (m.log2 - 52) < 2 ^ 53 := by
  have notZero : m ≠ 0 := by omega
  have digits : 52 ≤ m.log2 := (Nat.le_log2 notZero).2 large
  rw [Nat.le_div_iff_mul_le (Nat.two_pow_pos _), Nat.div_lt_iff_lt_mul (Nat.two_pow_pos _),
    ← Nat.pow_add, ← Nat.pow_add, show 52 + (m.log2 - 52) = m.log2 by omega,
    show 53 + (m.log2 - 52) = m.log2 + 1 by omega]
  exact ⟨Nat.log2_self_le notZero, Nat.lt_log2_self⟩

/-- The mantissa and the exponent that a number is rounded to. -/
structure Rounded (m : Nat) (e : Int) (n : Nat) (f : Int) : Prop where
  lower : 2 ^ 52 ≤ n
  upper : n < 2 ^ 53
  least : e ≤ f
  greatest : f ≤ e + (m.log2 - 52 : Nat) + 1
  number : (n : ℚ) * 2 ^ f = nearest m * 2 ^ e

/-- What is rounded within the exponents of doubles is a normal double. -/
theorem Rounded.isNormal {m n : Nat} {e f : Int} (rounded : Rounded m e n f) (least : -1074 ≤ e)
    (greatest : f ≤ 971) : IsNormal n f :=
  ⟨rounded.lower, rounded.upper, least.trans rounded.least, greatest⟩

/-- A mantissa of at least 53 binary digits is rounded to the nearest one of 53. -/
theorem exists_round (s : Sign) {m : Nat} {e : Int} (large : 2 ^ 52 ≤ m) (least : -1074 ≤ e) :
    ∃ n f, ∃ pos : 0 < n, roundWithAccuracy .binary64 s m e .exact = .finite s n f pos ∧
      Rounded m e n f := by
  have digits : 52 ≤ m.log2 := (Nat.le_log2 (by omega)).2 large
  have first := shiftToTargetExponent_eq digits least
  obtain ⟨full, fits⟩ := div_bounds large
  obtain ⟨lower, upper⟩ := nearestQuotient_bounds m (2 ^ (m.log2 - 52))
  have number : (nearestQuotient m (2 ^ (m.log2 - 52)) : ℚ) * 2 ^ (e + (m.log2 - 52 : Nat)) =
      nearest m * 2 ^ e := by
    rw [nearest, Int.add_comm, zpow_add₀ two_ne_zero, zpow_natCast]
    push_cast
    ring
  have rounds := (represents_shiftRight m (m.log2 - 52)).roundedMantissa (Nat.two_pow_pos _)
  generalize (⟨m, false, false⟩ : ExtendedMantissa) >>> (m.log2 - 52) = em at first rounds
  generalize nearestQuotient m (2 ^ (m.log2 - 52)) = q at lower upper number rounds
  by_cases carries : q = 2 ^ 53
  · -- All 53 digits were ones and were rounded up.
    refine ⟨2 ^ 52, e + (m.log2 - 52 : Nat) + 1, by decide, ?_, by decide, by decide, by omega,
      le_rfl, ?_⟩
    · refine roundWithAccuracy_eq s first ?_ (by decide)
      rw [rounds, carries, shiftToTargetExponent_eq (by decide) (by omega)]
      rfl
    · rw [← number, carries, zpow_add_one₀ two_ne_zero]
      push_cast
      ring
  · have pos : 0 < q := by omega
    have normal : q.log2 = 52 := (Nat.log2_eq_iff pos.ne').2 ⟨by omega, by omega⟩
    refine ⟨q, e + (m.log2 - 52 : Nat), pos, ?_, by omega, by omega, by omega, by omega, number⟩
    refine roundWithAccuracy_eq s first ?_ pos
    rw [rounds, shift_eq normal (by omega)]

/-! ## Packing -/

/-- A normal double is packed from its sign, its exponent and its mantissa. -/
theorem IsNormal.pack_eq {m : Nat} {e : Int} (normal : IsNormal m e) (s : Sign) :
    pack .binary64 (.finite s m e normal.pos) =
      packComponents .binary64 s (BitVec.ofNat 11 (e + 1075).toNat) (BitVec.ofNat 52 m) := by
  have greatest := normal.greatest
  have inRange : ¬2 ^ Format.binary64.exponentBits ≤
      (e + Format.binary64.exponentBias + Format.binary64.mantissaBitsWithoutImplicit).toNat + 1 := by
    change ¬2048 ≤ (e + 1023 + 52).toNat + 1
    omega
  have full : m.log2 + 1 = Format.binary64.mantissaBits := congrArg (· + 1) normal.log2_eq
  simp only [pack, if_neg inRange, if_pos full]
  congr 2
  change (e + 1023 + 52).toNat = (e + 1075).toNat
  omega

/-- A normal double is unpacked as it was packed. -/
theorem IsNormal.unpack_pack {m : Nat} {e : Int} (normal : IsNormal m e) (s : Sign) :
    unpack .binary64 (pack .binary64 (.finite s m e normal.pos)) = .finite s m e normal.pos := by
  obtain ⟨lower, upper, least, greatest⟩ := normal
  have exponent : (BitVec.ofNat 11 (e + 1075).toNat).toNat = (e + 1075).toNat := by
    rw [BitVec.toNat_ofNat]
    omega
  have notOnes : BitVec.ofNat 11 (e + 1075).toNat ≠ -1#11 := by
    intro same
    have equal : (e + 1075).toNat = 2047 := exponent.symm.trans (congrArg BitVec.toNat same)
    omega
  have notZeros : BitVec.ofNat 11 (e + 1075).toNat ≠ 0#11 := by
    intro same
    have equal : (e + 1075).toNat = 0 := exponent.symm.trans (congrArg BitVec.toNat same)
    omega
  have mantissa : (1#1 ++ BitVec.ofNat 52 m).toNat = m := by
    rw [BitVec.toNat_append, ← Nat.shiftLeft_add_eq_or_of_lt (BitVec.isLt _), BitVec.toNat_ofNat,
      Nat.shiftLeft_eq]
    change 1 * 2 ^ 52 + m % 2 ^ 52 = m
    omega
  rw [IsNormal.pack_eq ⟨lower, upper, least, greatest⟩]
  simp only [unpack, unpackMantissa_packComponents, unpackExponent_packComponents,
    unpackSign_packComponents, if_neg notOnes, if_neg notZeros, Sign.ofBitVec_toBitVec, mantissa,
    exponent]
  congr 1
  change ((e + 1075).toNat : Int) - (1023 + 52) = e
  omega

/-- Whether a double is normal, with the given sign, mantissa and exponent. -/
def Shows (f : Float) (s : Sign) (m : Nat) (e : Int) : Prop :=
  ∃ normal : IsNormal m e, f.toModel.unpack = .finite s m e normal.pos

/-- The double of a normal mantissa and exponent shows them. -/
theorem IsNormal.shows {m : Nat} {e : Int} (normal : IsNormal m e) {s : Sign} {u : UnpackedFloat}
    (same : u = .finite s m e normal.pos) : Shows (.ofModel (.pack u)) s m e :=
  ⟨normal, by rw [same]; exact normal.unpack_pack s⟩

/-! ## Integers -/

/-- A positive integer of 64 bits becomes the double nearest to it. -/
theorem exists_toFloat {n : Nat} (pos : 0 < n) (range : n < 2 ^ 64) :
    ∃ m e, Shows n.toUInt64.toFloat .positive m e ∧ -52 ≤ e ∧ (m : ℚ) * 2 ^ e = nearest n := by
  have digits : n.log2 < 64 := (Nat.log2_lt pos.ne').2 range
  have lower : 2 ^ n.log2 ≤ n := Nat.log2_self_le pos.ne'
  -- A mantissa of fewer digits than 53 gets zeros behind it first.
  obtain ⟨k, zeros⟩ : ∃ k, k = 52 - n.log2 := ⟨_, rfl⟩
  have full : 2 ^ 52 ≤ n * 2 ^ k := by
    calc 2 ^ 52 ≤ 2 ^ (n.log2 + k) := Nat.pow_le_pow_right (by decide) (by omega)
      _ = 2 ^ n.log2 * 2 ^ k := Nat.pow_add ..
      _ ≤ n * 2 ^ k := Nat.mul_le_mul_right _ lower
  obtain ⟨m, e, positive, round, rounded⟩ := exists_round .positive (e := -k) full (by omega)
  have greatest := rounded.greatest
  rw [log2_mul_two_pow pos] at greatest
  have normal : IsNormal m e := rounded.isNormal (by omega) (by omega)
  refine ⟨m, e, normal.shows ?_, by have := rounded.least; omega, ?_⟩
  · have word : n.toUInt64.toNat = n := by
      rw [Nat.toUInt64_eq, UInt64.toNat_ofNat', Nat.mod_eq_of_lt range]
    have target : Format.binary64.targetExponent (totalExponent n 0) = n.log2 - 52 := by
      simp only [Format.targetExponent, totalExponent, Format.mantissaBits, Format.minExponent]
      omega
    have sign : compare (n : Int) 0 = .gt := Int.compare_eq_gt.2 (by omega)
    have shift : (-((n.log2 : Int) - 52)).toNat = k := by omega
    simp only [UnpackedFloat.ofUInt64, UnpackedFloat.ofNat, UnpackedFloat.ofInt, word,
      UnpackedFloat.normalize, sign, Int.toNat_natCast, UnpackedFloat.round, target,
      UnpackedFloat.decreaseExponent, shift, Nat.shiftLeft_eq, zero_sub]
    exact round
  · rw [rounded.number, nearest_mul_two_pow, zpow_neg, zpow_natCast, Nat.cast_mul, Nat.cast_pow, Nat.cast_ofNat,
      mul_inv_cancel_right₀ (by positivity)]

def one : Float := Float.ofBits 0x3FF0000000000000

theorem unpack_one : one.toModel.unpack = .finite .positive (2 ^ 52) (-52) (by decide) := rfl

/-- Multiplying by one does not change a double. -/
theorem Shows.mul_one {f : Float} {s : Sign} {m : Nat} {e : Int} (shows : Shows f s m e)
    (least : -1022 ≤ e) : Shows (f * one) s m e := by
  obtain ⟨normal, unpacked⟩ := shows
  apply normal.shows
  have sign : s * .positive = s := by cases s <;> rfl
  rw [unpacked, unpack_one]
  simp only [mul, sign]
  exact normal.round_eq s 52 (by omega)

/-- A small natural number becomes a double by way of a machine word. -/
theorem ofNat_of_lt {n : Nat} (small : n < 2 ^ 53) : Float.ofNat n = n.toUInt64.toFloat * one :=
  dif_pos ⟨small, by decide⟩

/-- A large natural number becomes a double by rounding. -/
theorem ofNat_of_le {n : Nat} (large : 2 ^ 53 ≤ n) :
    Float.ofNat n = .ofModel (.pack (ofScientific .binary64 n 0)) :=
  dif_neg fun small => Nat.not_lt.2 large small.1

/-- A natural number with a power of ten is rounded as their product. -/
theorem ofScientific_eq {n k : Nat} (pos : 0 < n) (power : k ≤ 2048) :
    ofScientific .binary64 n k =
      roundWithAccuracy .binary64 .positive (n * 2 ^ 53 * 10 ^ k) (-53) .exact := by
  have notHuge : ¬(k : Int) > 2 ^ Format.binary64.exponentBits := by
    change ¬(k : Int) > 2048
    omega
  have notTiny : ¬(k : Int) < -((2 ^ Format.binary64.exponentBits : Int) + n.log2) := by
    change ¬(k : Int) < -(2048 + n.log2)
    omega
  unfold ofScientific
  rw [dif_neg pos.ne', if_neg notHuge, if_neg notTiny, if_pos (Int.natCast_nonneg k)]
  simp only [mul, Nat.shiftLeft_eq, Int.toNat_natCast]
  rfl

/-- A positive integer of 64 bits becomes a normal double, and up to `2 ^ 53` without rounding. -/
theorem exists_ofNat {n : Nat} (pos : 0 < n) (range : n < 2 ^ 64) :
    ∃ m e, Shows (Float.ofNat n) .positive m e ∧ (n ≤ 2 ^ 53 → (n : ℚ) = m * 2 ^ e) := by
  rcases Nat.lt_or_ge n (2 ^ 53) with small | large
  · obtain ⟨m, e, shows, least, number⟩ := exists_toFloat pos range
    rw [ofNat_of_lt small]
    exact ⟨m, e, shows.mul_one (by omega), fun _ => by rw [number, nearest_of_lt small]⟩
  have scientific : ofScientific .binary64 n 0 =
      roundWithAccuracy .binary64 .positive (n * 2 ^ 53) (-53) .exact := by
    simpa using ofScientific_eq (k := 0) pos (by decide)
  rw [ofNat_of_le large, scientific]
  rcases Nat.eq_or_lt_of_le large with rfl | beyond
  · have normal : IsNormal (2 ^ 52) 1 := ⟨by decide, by decide, by decide, by decide⟩
    refine ⟨2 ^ 52, 1, normal.shows (normal.round_eq .positive 54 (by decide)), fun _ => ?_⟩
    norm_num
  · have digits : (n * 2 ^ 53).log2 < 117 := by
      rw [Nat.log2_lt (by omega)]
      omega
    obtain ⟨m, e, positive, round, rounded⟩ :=
      exists_round .positive (e := -53) (m := n * 2 ^ 53) (by omega) (by decide)
    have greatest := rounded.greatest
    have normal : IsNormal m e := rounded.isNormal (by decide) (by omega)
    exact ⟨m, e, normal.shows round, fun small => absurd beyond (Nat.not_lt.2 small)⟩

theorem Shows.neg {f : Float} {m : Nat} {e : Int} (shows : Shows f .positive m e) :
    Shows f.neg .negative m e := by
  obtain ⟨normal, unpacked⟩ := shows
  apply normal.shows
  rw [unpacked]
  rfl

/-- The sign of an integer that is not zero. -/
def signOf (i : Int) : Sign :=
  if i < 0 then .negative else .positive

theorem signOf_of_neg {i : Int} (negative : i < 0) : signOf i = .negative :=
  if_pos negative

theorem signOf_of_nonneg {i : Int} (nonneg : 0 ≤ i) : signOf i = .positive :=
  if_neg (Int.not_lt.2 nonneg)

/-- An integer of 64 bits that is not zero becomes a normal double of its sign, and up to `2 ^ 53`
without rounding. -/
theorem exists_ofInt {i : Int} (notZero : i ≠ 0) (range : i.natAbs < 2 ^ 64) :
    ∃ m e, Shows (Float.ofInt i) (signOf i) m e ∧
      (i.natAbs ≤ 2 ^ 53 → (i.natAbs : ℚ) = m * 2 ^ e) := by
  obtain ⟨m, e, shows, exact⟩ := exists_ofNat (Int.natAbs_pos.2 notZero) range
  refine ⟨m, e, ?_, exact⟩
  cases i with
  | ofNat n =>
    have sign : signOf (.ofNat n) = .positive := signOf_of_nonneg (Int.natCast_nonneg n)
    rw [sign]
    exact shows
  | negSucc n =>
    rw [signOf_of_neg (Int.negSucc_lt_zero n)]
    exact shows.neg

/-- The double of an integer of 64 bits is equal to itself. -/
theorem ofInt_beq_self {i : Int} (range : i.natAbs < 2 ^ 64) :
    (Float.ofInt i == Float.ofInt i) = true := by
  apply beq_self
  by_cases zero : i = 0
  · subst zero
    exact nofun
  · obtain ⟨m, e, ⟨normal, unpacked⟩, -⟩ := exists_ofInt zero range
    rw [unpacked]
    exact nofun

/-- Integers of different signs become different doubles. -/
theorem ofInt_beq_of_neg_of_pos {i j : Int} (negative : i < 0) (positive : 0 < j)
    (range_i : i.natAbs < 2 ^ 64) (range_j : j.natAbs < 2 ^ 64) :
    (Float.ofInt i == Float.ofInt j) = false := by
  obtain ⟨m, e, ⟨normal, left⟩, -⟩ := exists_ofInt negative.ne range_i
  obtain ⟨n, f, ⟨normal', right⟩, -⟩ := exists_ofInt positive.ne' range_j
  rw [signOf_of_neg negative] at left
  rw [signOf_of_nonneg positive.le] at right
  rw [Bool.eq_false_iff, Ne, beq_iff, left, right]
  simp

/-- Up to `2 ^ 53` an integer becomes the double that is this integer. -/
theorem rational?_ofInt {i : Int} (small : i.natAbs ≤ 2 ^ 53) :
    rational? (Float.ofInt i).toModel.unpack = some i := by
  by_cases zero : i = 0
  · subst zero
    rfl
  obtain ⟨m, e, ⟨normal, unpacked⟩, exact⟩ := exists_ofInt zero (by omega)
  rw [unpacked]
  refine congrArg some ?_
  have magnitude := exact small
  rcases Int.lt_or_le i 0 with negative | nonneg
  · rw [signOf_of_neg negative]
    calc ((Sign.negative.apply m : Int) : ℚ) * 2 ^ e = -(m * 2 ^ e) := by simp [Sign.apply]
      _ = -(i.natAbs : ℚ) := by rw [magnitude]
      _ = ((-(i.natAbs : Int) : Int) : ℚ) := by rw [Int.cast_neg, Int.cast_natCast]
      _ = i := congrArg _ (by omega)
  · rw [signOf_of_nonneg nonneg]
    calc ((Sign.positive.apply m : Int) : ℚ) * 2 ^ e = m * 2 ^ e := by simp [Sign.apply]
      _ = (i.natAbs : ℚ) := magnitude.symm
      _ = ((i.natAbs : Int) : ℚ) := (Int.cast_natCast _).symm
      _ = i := congrArg _ (by omega)

/-- Different integers up to `2 ^ 53` become different doubles. -/
theorem eq_of_ofInt_beq {i j : Int} (small_i : i.natAbs ≤ 2 ^ 53) (small_j : j.natAbs ≤ 2 ^ 53)
    (same : (Float.ofInt i == Float.ofInt j) = true) : i = j := by
  have rational := rational?_eq_of_beq same
  rw [rational?_ofInt small_i, rational?_ofInt small_j] at rational
  exact Rat.intCast_injective (Option.some.inj rational)

end DocStore.Double
