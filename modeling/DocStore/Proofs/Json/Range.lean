-- SUMMARY: Which literals are numbers: those whose digits and power of ten, as doubles, have a product that is one.
import DocStore.Proofs.Decimal.Nearest
import DocStore.Proofs.Json.Double
import DocStore.Proofs.Json.Literal
import Mathlib

/-!
# The range of literals

Reading a literal is not exact at the end of the range of doubles. The digits that fit 64 bits become
one double, the power of ten another, and only their product says whether the literal is a number. That
is a comparison of integers: the two, each rounded to 53 binary digits, are multiplied, and the product
must be less than halfway past the greatest double. `toNumber?_isSome_iff` proves the reader against it.

The number that a literal denotes is a rational. It decides, but for one part in `2 ^ 50` to either side
of the end, where a literal can be refused although it denotes a number in the range, and read although
it does not.
-/

namespace DocStore

namespace Double

open Float.Model (Format UnpackedFloat)
open Float.Model.UnpackedFloat

/-! ## The greatest double -/

/-- The greatest double has 53 ones, and what is beyond it starts with half a unit more. -/
theorem firstBeyond_eq : (Decimal.firstBeyond : ℚ) = (2 ^ 54 - 1) * 2 ^ (970 : Int) := by
  have power : (2 : ℚ) ^ (970 : Int) = 2 ^ 970 := zpow_ofNat 2 970
  have cast : ((2 ^ 54 - 1 : Nat) : ℚ) = 2 ^ 54 - 1 := by norm_num
  simp only [Decimal.firstBeyond, Nat.pow_eq, Nat.cast_mul, Nat.cast_pow, Nat.cast_ofNat, cast, power]

/-- A quotient is rounded up to a further binary digit from half a unit below that on. -/
theorem nearestQuotient_eq_iff {m h : Nat} (pos : 0 < h) (fits : m < 2 ^ 53 * (2 * h)) :
    nearestQuotient m (2 * h) = 2 ^ 53 ↔ (2 ^ 54 - 1) * h ≤ m := by
  have parts := Nat.div_add_mod' m (2 * h)
  have below := Nat.mod_lt m (show 0 < 2 * h by omega)
  have whole : m / (2 * h) < 2 ^ 53 := (Nat.div_lt_iff_lt_mul (by omega)).2 fits
  obtain ⟨lower, upper⟩ := nearestQuotient_bounds m (2 * h)
  rcases Nat.lt_or_ge (m / (2 * h)) (2 ^ 53 - 1) with less | last
  · have bound : m / (2 * h) * (2 * h) ≤ (2 ^ 53 - 2) * (2 * h) := Nat.mul_le_mul_right _ (by omega)
    omega
  · have ones : m / (2 * h) = 2 ^ 53 - 1 := by omega
    rw [ones] at parts
    unfold nearestQuotient
    rw [ones]
    split_ifs <;> omega

/-- The digits that are kept of a mantissa of 54 binary digits or more, and the number of those that
are not. -/
structure Keeps (m q k : Nat) : Prop where
  number : nearest m = q * 2 ^ (k + 1)
  lower : 2 ^ 52 ≤ q
  upper : q ≤ 2 ^ 53
  least : 2 ^ 52 * 2 ^ (k + 1) ≤ m
  greatest : m < 2 ^ 53 * 2 ^ (k + 1)
  carries : q = 2 ^ 53 ↔ (2 ^ 54 - 1) * 2 ^ k ≤ m

/-- A number of more than 53 bits keeps its first 53 and loses the others. -/
theorem exists_keeps {m : Nat} (large : 2 ^ 53 ≤ m) : ∃ q k, Keeps m q k := by
  have digits : 53 ≤ m.log2 := (Nat.le_log2 (by omega)).2 large
  obtain ⟨k, isK⟩ : ∃ k, m.log2 - 52 = k + 1 := ⟨m.log2 - 53, by omega⟩
  obtain ⟨lower, upper⟩ := div_bounds (m := m) (by omega)
  obtain ⟨low, high⟩ := nearestQuotient_bounds m (2 ^ (k + 1))
  rw [isK] at lower upper
  have greatest := (Nat.div_lt_iff_lt_mul (Nat.two_pow_pos _)).1 upper
  refine ⟨nearestQuotient m (2 ^ (k + 1)), k, by rw [nearest, isK], by omega, by omega, ?_,
    greatest, ?_⟩
  · exact (Nat.le_div_iff_mul_le (Nat.two_pow_pos _)).1 lower
  · rw [Nat.pow_succ' (n := k)] at greatest ⊢
    exact nearestQuotient_eq_iff (Nat.two_pow_pos k) greatest

/-- What a mantissa is rounded to stays among the doubles exactly if it is less than halfway past the
greatest one. -/
theorem nearest_lt_iff {m : Nat} {e : Int} (large : 2 ^ 53 ≤ m) :
    (nearest m : ℚ) * 2 ^ e < 2 ^ 53 * 2 ^ (971 : Int) ↔ (m : ℚ) * 2 ^ e < Decimal.firstBeyond := by
  obtain ⟨q, k, number, lower, upper, least, greatest, carries⟩ := exists_keeps large
  -- All is measured in units of the last digit that is kept.
  obtain ⟨x, isX⟩ : ∃ x : Int, x = (k + 1 : Nat) + e := ⟨_, rfl⟩
  have unit : (2 : ℚ) ^ (k + 1) * 2 ^ e = 2 ^ x := by
    rw [isX, zpow_add₀ two_ne_zero, zpow_natCast]
  have pos : (0 : ℚ) < 2 ^ e := by positivity
  have least : 2 ^ 52 * 2 ^ x ≤ (m : ℚ) * 2 ^ e := by
    rw [← unit, ← mul_assoc]
    exact mul_le_mul_of_nonneg_right (mod_cast least) pos.le
  have greatest : (m : ℚ) * 2 ^ e < 2 ^ 53 * 2 ^ x := by
    rw [← unit, ← mul_assoc]
    exact mul_lt_mul_of_pos_right (mod_cast greatest) pos
  have half : (2 : ℚ) ^ (971 : Int) = 2 * 2 ^ (970 : Int) := by
    rw [show (971 : Int) = 1 + 970 by rfl, zpow_add₀ two_ne_zero, zpow_one]
  have some : (0 : ℚ) < 2 ^ (970 : Int) := by positivity
  rw [number, Nat.cast_mul, Nat.cast_pow, Nat.cast_ofNat, mul_assoc, unit, firstBeyond_eq]
  rcases lt_trichotomy x 971 with below | rfl | above
  · have small : (2 : ℚ) ^ x ≤ 2 ^ (970 : Int) := zpow_le_zpow_right₀ one_le_two (by omega)
    have product : (q : ℚ) * 2 ^ x ≤ 2 ^ 53 * 2 ^ (970 : Int) :=
      mul_le_mul (mod_cast upper) small (by positivity) (by positivity)
    rw [half]
    generalize (2 : ℚ) ^ (970 : Int) = top at product small some
    exact iff_of_true (by linarith only [product, some]) (by linarith only [greatest, small, some])
  · have unit : (2 : ℚ) ^ k * 2 ^ e = 2 ^ (970 : Int) := by
      rw [half, pow_succ] at unit
      linarith
    have isLess : q < 2 ^ 53 ↔ m < (2 ^ 54 - 1) * 2 ^ k := by omega
    have cast : ((2 ^ 54 - 1 : Nat) : ℚ) = 2 ^ 54 - 1 := by norm_num
    rw [mul_lt_mul_iff_left₀ (by positivity), ← unit, ← mul_assoc, mul_lt_mul_iff_left₀ pos, ← cast]
    exact_mod_cast isLess
  · have large : 2 * (2 : ℚ) ^ (971 : Int) ≤ 2 ^ x := by
      rw [← zpow_one_add₀ two_ne_zero]
      exact zpow_le_zpow_right₀ one_le_two (by omega)
    rw [half] at large ⊢
    generalize (2 : ℚ) ^ (970 : Int) = top at large some
    have product : (2 : ℚ) ^ 52 * (2 * (2 * top)) ≤ q * 2 ^ x :=
      mul_le_mul (mod_cast lower) large (by linarith only [some]) (Nat.cast_nonneg q)
    exact iff_of_false (by linarith only [product, some]) (by linarith only [least, large, some])

/-- A mantissa of 53 binary digits is that of a double up to the greatest exponent. -/
theorem Rounded.le_iff {m n : Nat} {e f : Int} (rounded : Rounded m e n f) :
    f ≤ 971 ↔ (n : ℚ) * 2 ^ f < 2 ^ 53 * 2 ^ (971 : Int) := by
  have lower : (2 : ℚ) ^ 52 ≤ n := mod_cast rounded.lower
  have upper : (n : ℚ) < 2 ^ 53 := mod_cast rounded.upper
  have pos : (0 : ℚ) < 2 ^ f := by positivity
  constructor
  · intro small
    have power : (2 : ℚ) ^ f ≤ 2 ^ (971 : Int) := zpow_le_zpow_right₀ one_le_two small
    exact mul_lt_mul upper power pos (by positivity)
  · intro less
    by_contra large
    have power : 2 * (2 : ℚ) ^ (971 : Int) ≤ 2 ^ f := by
      rw [← zpow_one_add₀ two_ne_zero]
      exact zpow_le_zpow_right₀ one_le_two (by omega)
    have product : (2 : ℚ) ^ 52 * (2 * 2 ^ (971 : Int)) ≤ n * 2 ^ f :=
      mul_le_mul lower power (by positivity) (Nat.cast_nonneg n)
    rw [← mul_assoc, ← pow_succ] at product
    exact absurd less (not_lt.2 product)

theorem isFinite_pack {m n : Nat} {e f : Int} (s : Sign) (rounded : Rounded m e n f)
    (least : -1074 ≤ e) (pos : 0 < n) :
    (unpack .binary64 (pack .binary64 (.finite s n f pos))).isFinite = true ↔ f ≤ 971 := by
  constructor
  · intro finite
    by_contra large
    have beyond : 2 ^ Format.binary64.exponentBits ≤
        (f + Format.binary64.exponentBias + Format.binary64.mantissaBitsWithoutImplicit).toNat + 1 := by
      change 2048 ≤ (f + 1023 + 52).toNat + 1
      omega
    simp only [pack, if_pos beyond] at finite
    cases s <;> cases finite
  · intro small
    rw [(rounded.isNormal least small).unpack_pack s]
    rfl

/-- A product of doubles is one exactly if it is less than halfway past the greatest double. -/
theorem isFinite_mul {f g : Float} {m n : Nat} {d e : Int} (left : Shows f .positive m d)
    (right : Shows g .positive n e) (least : -1074 ≤ d + e) :
    (f * g).isFinite = true ↔ (m * 2 ^ d * (n * 2 ^ e) : ℚ) < Decimal.firstBeyond := by
  obtain ⟨normal, unpacked⟩ := left
  obtain ⟨normal', unpacked'⟩ := right
  have large : 2 ^ 52 * 2 ^ 52 ≤ m * n := Nat.mul_le_mul normal.lower normal'.lower
  obtain ⟨p, k, pos, round, rounded⟩ := exists_round .positive (m := m * n) (by omega) least
  have product : (m * 2 ^ d * (n * 2 ^ e) : ℚ) = (m * n : Nat) * 2 ^ (d + e) := by
    rw [zpow_add₀ two_ne_zero]
    push_cast
    ring
  have packed : (f * g).isFinite =
      (unpack .binary64 (pack .binary64 (.finite .positive p k pos))).isFinite := by
    change (unpack .binary64 (pack .binary64 (mul .binary64 f.toModel.unpack g.toModel.unpack))).isFinite = _
    rw [unpacked, unpacked', ← round]
    rfl
  rw [packed, isFinite_pack .positive rounded least pos, rounded.le_iff, rounded.number,
    nearest_lt_iff (by omega), product]

theorem isFinite_zero_mul {f : Float} {m : Nat} {e : Int} (shows : Shows f .positive m e) :
    ((0 : Nat).toUInt64.toFloat * f).isFinite = true := by
  obtain ⟨normal, unpacked⟩ := shows
  have zero : (0 : Nat).toUInt64.toFloat.toModel.unpack = .zero .positive := rfl
  change (unpack .binary64 (pack .binary64
    (mul .binary64 (0 : Nat).toUInt64.toFloat.toModel.unpack f.toModel.unpack))).isFinite = true
  rw [zero, unpacked]
  simp only [mul]
  rfl

/-- A power of ten below the greatest double becomes the double nearest to it. -/
theorem exists_tenPow {n : Nat} (small : n ≤ Number.maxTenPow) :
    ∃ m e, Shows (Number.tenPow n) .positive m e ∧ -53 ≤ e ∧ (m : ℚ) * 2 ^ e = nearest (10 ^ n) := by
  -- The least powers stand in a table, which has the doubles that are computed for the others.
  have table : ∀ n : Fin 23, Number.tenPow n = .ofModel (.pack (ofScientific .binary64 1 n)) := by
    decide +kernel
  have computed : Number.tenPow n = .ofModel (.pack (ofScientific .binary64 1 n)) := by
    rcases Nat.lt_or_ge n 23 with low | high
    · exact table ⟨n, low⟩
    · exact dif_neg fun low => absurd low.2 (by omega)
  have isLess : 10 ^ Number.maxTenPow < Decimal.firstBeyond := by decide +kernel
  have bound : 10 ^ n < Decimal.firstBeyond :=
    (Nat.pow_le_pow_right (by decide) small).trans_lt isLess
  have zeros : ((10 ^ n * 2 ^ 53 : Nat) : ℚ) * 2 ^ (-53 : Int) = (10 ^ n : Nat) := by
    rw [zpow_neg, Nat.cast_mul, Nat.cast_pow 2 53, Nat.cast_ofNat]
    exact mul_inv_cancel_right₀ (by positivity) _
  have pos : 0 < 10 ^ n := Nat.pow_pos (by decide)
  obtain ⟨m, e, positive, round, rounded⟩ :=
    exists_round .positive (e := -53) (m := 10 ^ n * 2 ^ 53) (by omega) (by decide)
  have greatest : e ≤ 971 := by
    rw [rounded.le_iff, rounded.number, nearest_lt_iff (by omega), zeros]
    exact_mod_cast bound
  have normal : IsNormal m e := rounded.isNormal (by decide) greatest
  refine ⟨m, e, ?_, rounded.least, ?_⟩
  · rw [computed]
    apply normal.shows
    rw [ofScientific_eq (by decide) (by rw [Number.maxTenPow] at small; omega), Nat.one_mul,
      Nat.mul_comm]
    exact round
  · rw [rounded.number, nearest_mul_two_pow, zpow_neg, Nat.cast_mul, Nat.cast_pow, Nat.cast_ofNat]
    exact mul_inv_cancel_right₀ (by positivity) _

end Double

namespace Number

open Double (Shows nearest)

/-! ## Scaling -/

/-- A positive number stays positive, and a power of ten beyond the doubles is rounded to one. -/
theorem firstBeyond_le {s n : Nat} (pos : 0 < s) (large : maxTenPow < n) :
    Decimal.firstBeyond ≤ nearest s * nearest (10 ^ n) := by
  have power : 10 ^ (maxTenPow + 1) ≤ 10 ^ n := Nat.pow_le_pow_right (by decide) large
  have double : 2 * Decimal.firstBeyond ≤ 10 ^ (maxTenPow + 1) := by decide +kernel
  have some : 1 ≤ nearest s := by
    have := (Double.nearest_bounds s).1
    omega
  have half : Decimal.firstBeyond ≤ nearest (10 ^ n) := by
    have := (Double.nearest_bounds (10 ^ n)).1
    omega
  exact half.trans (Nat.le_mul_of_pos_left _ some)

/-- An integer of 64 bits is far from the end of the doubles. -/
theorem nearest_lt_firstBeyond {s : Nat} (range : s ≤ maxInt) :
    nearest s * nearest (10 ^ 0) < Decimal.firstBeyond := by
  have far : 2 * maxInt < Decimal.firstBeyond := by decide +kernel
  have one : nearest (10 ^ 0) = 1 := Double.nearest_of_lt (by decide)
  have near := (Double.nearest_bounds s).2
  rw [one, Nat.mul_one]
  omega

/-- Digits are scaled to a double exactly if the doubles nearest to them and to the power of ten have a
product that is less than halfway past the greatest double. -/
theorem scale?_isSome_iff {s : Nat} {p : Int} (range : s ≤ maxInt) :
    (scale? s p).isSome ↔ nearest s * nearest (10 ^ p.toNat) < Decimal.firstBeyond := by
  have zero : nearest 0 * nearest (10 ^ p.toNat) < Decimal.firstBeyond := by
    rw [Double.nearest_of_lt (by decide), Nat.zero_mul]
    decide +kernel
  unfold scale?
  rcases Int.lt_or_le p 0 with negative | nonneg
  · have none : p.toNat = 0 := by omega
    rw [if_pos negative, none]
    exact iff_of_true rfl (nearest_lt_firstBeyond range)
  obtain ⟨n, rfl⟩ := Int.eq_ofNat_of_zero_le nonneg
  rw [if_neg (Int.not_lt.2 nonneg), Int.natAbs_natCast]
  rw [Int.toNat_natCast] at zero ⊢
  rcases Nat.lt_or_ge maxTenPow n with large | small
  · rw [if_neg (Nat.not_le.2 large)]
    rcases Nat.eq_zero_or_pos s with rfl | pos
    · exact iff_of_true rfl zero
    · rw [if_neg pos.ne']
      exact iff_of_false nofun (Nat.not_lt.2 (firstBeyond_le pos large))
  · obtain ⟨m, e, shows, least, number⟩ := Double.exists_tenPow small
    rw [if_pos small]
    rcases Nat.eq_zero_or_pos s with rfl | pos
    · rw [if_pos (Double.isFinite_zero_mul shows)]
      exact iff_of_true rfl zero
    · obtain ⟨l, d, shows', least', number'⟩ :=
        Double.exists_toFloat pos (range.trans_lt (by decide))
      have finite := Double.isFinite_mul shows' shows (by omega)
      rw [number, number', ← Nat.cast_mul, Nat.cast_lt] at finite
      rw [← finite]
      exact Option.isSome_ite

namespace Literal

/-! ## The digits that are kept -/

/-- The digits of a literal as far as they fit 64 bits, and the power of ten that goes with them. -/
def kept (l : Literal) : Decimal :=
  let (significand, power) := absorbWhole l.whole 0
  let (significand, power) := absorbFraction l.fraction significand power
  ⟨significand, power + l.power.getD 0⟩

/-- Whether a literal is a number: the doubles nearest to its digits and to its power of ten have a
product that is less than halfway past the greatest double. -/
def Fits (l : Literal) : Prop :=
  nearest l.kept.digits * nearest (10 ^ l.kept.exponent.toNat) < Decimal.firstBeyond

instance (l : Literal) : Decidable l.Fits :=
  inferInstanceAs (Decidable (_ < _))

theorem absorbWhole_le {ds : List Char} {s : Nat} (small : s ≤ maxInt) :
    (absorbWhole ds s).1 ≤ maxInt := by
  fun_induction absorbWhole ds s with
  | case1 => exact small
  | case2 s c cs next fits ih => exact ih fits
  | case3 => exact small

theorem absorbFraction_le {ds : List Char} {s : Nat} {p : Int} (small : s ≤ maxInt) :
    (absorbFraction ds s p).1 ≤ maxInt := by
  fun_induction absorbFraction ds s p with
  | case1 => exact small
  | case2 s p c cs next fits ih => exact ih fits
  | case3 => exact small

/-- The digits that are kept fit 64 bits. -/
theorem kept_le (l : Literal) : l.kept.digits ≤ maxInt :=
  absorbFraction_le (absorbWhole_le (Nat.zero_le _))

/-- Digits in front of others do not make a number smaller. -/
theorem le_ofDigitChars (ds : List Char) (n : Nat) : n ≤ Nat.ofDigitChars 10 ds n := by
  rw [Nat.ofDigitChars_eq_ofDigitChars_zero]
  exact Nat.le_add_right_of_le (Nat.le_mul_of_pos_left n (Nat.pow_pos (by decide)))

/-- Digits of an integer of 64 bits are all kept. -/
theorem absorbWhole_of_le {ds : List Char} {s : Nat} (small : Nat.ofDigitChars 10 ds s ≤ maxInt) :
    absorbWhole ds s = (Nat.ofDigitChars 10 ds s, 0) := by
  induction ds generalizing s with
  | nil => rfl
  | cons c cs ih =>
    rw [Nat.ofDigitChars_cons] at small ⊢
    rw [absorbWhole, if_pos ((le_ofDigitChars cs _).trans small)]
    exact ih small

/-- Only digits alone that fit 64 bits denote an integer. -/
theorem of_toInt? {l : Literal} {i : Int} (denotes : l.toInt? = some i) :
    l.fraction = [] ∧ l.power = none ∧ Nat.ofDigitChars 10 l.whole 0 ≤ maxInt := by
  have less : minIntMagnitude ≤ maxInt := by decide
  simp only [toInt?] at denotes
  split at denotes
  · cases denotes
  · rename_i spelled
    simp only [isInteger, Bool.not_eq_true, Bool.not_eq_false', Bool.and_eq_true, List.isEmpty_iff,
      Option.isNone_iff_eq_none] at spelled
    refine ⟨spelled.1, spelled.2, ?_⟩
    split at denotes
    · have := (Option.ite_none_left_eq_some.1 denotes).1
      omega
    · exact Nat.not_lt.1 (Option.ite_none_left_eq_some.1 denotes).1

/-- A literal that denotes an integer of 64 bits fits. -/
theorem fits_of_toInt? {l : Literal} {i : Int} (denotes : l.toInt? = some i) : l.Fits := by
  obtain ⟨noFraction, noPower, small⟩ := of_toInt? denotes
  have all : l.kept = ⟨Nat.ofDigitChars 10 l.whole 0, 0⟩ := by
    rw [kept, absorbWhole_of_le small, noFraction, noPower]
    rfl
  rw [Fits, all]
  exact nearest_lt_firstBeyond small

/-- A literal is read as a number exactly if it fits. -/
theorem toNumber?_isSome_iff {l : Literal} : l.toNumber?.isSome ↔ l.Fits := by
  have scaled : l.toFloat?.isSome ↔ l.Fits := by
    rw [toFloat?, Option.isSome_map]
    exact scale?_isSome_iff l.kept_le
  unfold toNumber?
  cases denotes : l.toInt? with
  | some i => exact iff_of_true rfl (fits_of_toInt? denotes)
  | none => rw [← scaled, Option.isSome_map]

/-- The number that a literal that fits is read as. -/
def number (l : Literal) (fits : l.Fits) : Number :=
  l.toNumber?.get (toNumber?_isSome_iff.2 fits)

theorem toNumber?_eq_some_iff {l : Literal} {n : Number} :
    l.toNumber? = some n ↔ ∃ fits : l.Fits, l.number fits = n := by
  constructor
  · intro denotes
    exact ⟨toNumber?_isSome_iff.1 (Option.isSome_of_eq_some denotes), by simp [number, denotes]⟩
  · rintro ⟨fits, rfl⟩
    exact (Option.some_get _).symm

/-! ## What a literal is -/

/-- The number that a literal denotes, without its sign. -/
def magnitude (l : Literal) : ℚ :=
  (Nat.ofDigitChars 10 l.whole 0 + Nat.ofDigitChars 10 l.fraction 0 / 10 ^ l.fraction.length) *
    10 ^ l.power.getD 0

theorem magnitude_eq (l : Literal) :
    l.magnitude = Nat.ofDigitChars 10 l.fraction (Nat.ofDigitChars 10 l.whole 0) *
      10 ^ (l.power.getD 0 - l.fraction.length) := by
  have ten : (10 : ℚ) ≠ 0 := by norm_num
  have apart := @Nat.ofDigitChars_eq_ofDigitChars_zero l.fraction (Nat.ofDigitChars 10 l.whole 0)
  rw [magnitude, apart, zpow_sub₀ ten, zpow_natCast]
  push_cast
  field_simp

theorem digit_le {c : Char} (digit : c.isDigit = true) : c.toNat - '0'.toNat ≤ 9 := by
  have := (Char.isDigit_iff_toNat.1 digit).2
  change c.toNat ≤ 57 at this
  change c.toNat - 48 ≤ 9
  omega

theorem ofDigitChars_lt {ds : List Char} (digits : ∀ c ∈ ds, c.isDigit = true) :
    Nat.ofDigitChars 10 ds 0 < 10 ^ ds.length := by
  induction ds with
  | nil => decide
  | cons c cs ih =>
    obtain ⟨first, rest⟩ := List.forall_mem_cons.1 digits
    have last := Nat.mul_le_mul_left (10 ^ cs.length) (digit_le first)
    rw [Nat.ofDigitChars_cons, Nat.ofDigitChars_eq_ofDigitChars_zero, List.length_cons, Nat.pow_succ,
      Nat.mul_zero, Nat.zero_add]
    exact Nat.add_lt_of_lt_sub (by have := ih rest; omega)

/-- Whether a number has so many units, and at most a part of a further one. -/
def StartsWith (n : Nat) (unit x : ℚ) : Prop :=
  n * unit ≤ x ∧ x ≤ (n + 1) * unit

/-- Further digits do not change what a number starts with. -/
theorem startsWith_digits {ds : List Char} (digits : ∀ c ∈ ds, c.isDigit = true) (n : Nat)
    {e unit : Int} (order : ds.length + e = unit) :
    StartsWith n (10 ^ unit) (Nat.ofDigitChars 10 ds n * 10 ^ e) := by
  have below : (Nat.ofDigitChars 10 ds 0 : ℚ) ≤ 10 ^ ds.length := mod_cast (ofDigitChars_lt digits).le
  have pos : (0 : ℚ) < 10 ^ e := by positivity
  have parts : (Nat.ofDigitChars 10 ds n : ℚ) = n * 10 ^ ds.length + Nat.ofDigitChars 10 ds 0 := by
    rw [Nat.ofDigitChars_eq_ofDigitChars_zero]
    push_cast
    ring
  rw [StartsWith, ← order, zpow_add₀ (by norm_num), zpow_natCast, ← mul_assoc, ← mul_assoc, parts]
  refine ⟨mul_le_mul_of_nonneg_right ?_ pos.le, mul_le_mul_of_nonneg_right ?_ pos.le⟩
  · exact le_add_of_nonneg_right (Nat.cast_nonneg _)
  · rw [add_mul, one_mul]
    exact add_le_add_right below _

/-- Whether two numbers differ by at most one part in `2 ^ 60`. -/
def Near (x y : ℚ) : Prop :=
  x * 2 ^ 60 ≤ y * (2 ^ 60 + 1) ∧ y * 2 ^ 60 ≤ x * (2 ^ 60 + 1)

theorem near_self {x : ℚ} (nonneg : 0 ≤ x) : Near x x := by
  constructor <;> linarith

theorem near_of_startsWith {n : Nat} {unit x y : ℚ} (many : 2 ^ 60 ≤ n) (pos : 0 < unit)
    (left : StartsWith n unit x) (right : StartsWith n unit y) : Near x y := by
  have grows : (2 : ℚ) ^ 60 * unit ≤ n * unit := mul_le_mul_of_nonneg_right (mod_cast many) pos.le
  obtain ⟨lower, upper⟩ := left
  obtain ⟨lower', upper'⟩ := right
  constructor <;> linarith

theorem many_of_dropped {s : Nat} {c : Char} (digit : c.isDigit = true)
    (beyond : ¬10 * s + (c.toNat - '0'.toNat) ≤ maxInt) : 2 ^ 60 ≤ s := by
  have := digit_le digit
  have large : 10 * 2 ^ 60 + 9 ≤ maxInt := by decide
  omega

/-- The digits of a whole part are kept from the front, all of them or at least 60 bits. -/
theorem exists_absorbWhole {ds : List Char} (digits : ∀ c ∈ ds, c.isDigit = true) (s : Nat) :
    ∃ front back, ds = front ++ back ∧
      absorbWhole ds s = (Nat.ofDigitChars 10 front s, (back.length : Int)) ∧
      (back = [] ∨ 2 ^ 60 ≤ Nat.ofDigitChars 10 front s) := by
  induction ds generalizing s with
  | nil => exact ⟨[], [], rfl, rfl, .inl rfl⟩
  | cons c cs ih =>
    obtain ⟨first, rest⟩ := List.forall_mem_cons.1 digits
    rw [absorbWhole]
    split
    · obtain ⟨front, back, rfl, kept, many⟩ := ih rest (10 * s + (c.toNat - '0'.toNat))
      exact ⟨c :: front, back, rfl, kept, many⟩
    · rename_i beyond
      exact ⟨[], c :: cs, rfl, rfl, .inr (many_of_dropped first beyond)⟩

theorem exists_absorbFraction {ds : List Char} (digits : ∀ c ∈ ds, c.isDigit = true) (s : Nat)
    (p : Int) : ∃ front back, ds = front ++ back ∧
      absorbFraction ds s p = (Nat.ofDigitChars 10 front s, p - front.length) ∧
      (back = [] ∨ 2 ^ 60 ≤ Nat.ofDigitChars 10 front s) := by
  induction ds generalizing s p with
  | nil => exact ⟨[], [], rfl, by simp [absorbFraction], .inl rfl⟩
  | cons c cs ih =>
    obtain ⟨first, rest⟩ := List.forall_mem_cons.1 digits
    rw [absorbFraction]
    split
    · obtain ⟨front, back, rfl, kept, many⟩ := ih rest (10 * s + (c.toNat - '0'.toNat)) (p - 1)
      refine ⟨c :: front, back, rfl, ?_, many⟩
      rw [kept, List.length_cons, Nat.ofDigitChars_cons, Prod.mk.injEq]
      exact ⟨rfl, by omega⟩
    · rename_i beyond
      exact ⟨[], c :: cs, rfl, by simp, .inr (many_of_dropped first beyond)⟩

/-- The digits that are kept make nearly the number that the literal denotes. -/
theorem near_kept {l : Literal} (wf : l.WellFormed) : Near l.kept.value l.magnitude := by
  obtain ⟨front, back, whole, keptWhole, many⟩ := exists_absorbWhole wf.whole.isDigit 0
  obtain ⟨some, dropped, fraction, keptFraction, many'⟩ :=
    exists_absorbFraction wf.fraction (Nat.ofDigitChars 10 front 0) back.length
  have kept : l.kept.value = Nat.ofDigitChars 10 some (Nat.ofDigitChars 10 front 0) *
      10 ^ (back.length - some.length + l.power.getD 0 : Int) := by
    simp only [Literal.kept, keptWhole, keptFraction, Decimal.value]
  have digits : ∀ c ∈ some ++ dropped, c.isDigit = true := fraction ▸ wf.fraction
  have digits' : ∀ c ∈ front ++ back, c.isDigit = true := whole ▸ wf.whole.isDigit
  rw [kept, magnitude_eq, fraction, whole, Nat.ofDigitChars_append, Nat.ofDigitChars_append]
  generalize l.power.getD 0 = power
  generalize Nat.ofDigitChars 10 front 0 = n at many many' ⊢
  have pos (e : Int) : (0 : ℚ) < 10 ^ e := by positivity
  -- Digits before the point were dropped, digits after it, or none.
  rcases many with rfl | many
  · rcases many' with rfl | many'
    · have exponent : (([] : List Char).length - some.length + power : Int) =
          power - (some ++ []).length := by
        rw [List.append_nil, List.length_nil]
        omega
      rw [exponent]
      exact near_self (by positivity)
    · refine near_of_startsWith many' (pos (power - some.length))
        (startsWith_digits (List.forall_mem_nil _) _ ?_)
        (startsWith_digits (fun c mem => digits c (List.mem_append_right _ mem)) _ ?_)
      · simp
        omega
      · simp
        omega
  · have right : StartsWith n (10 ^ (back.length + power : Int))
        (Nat.ofDigitChars 10 (back ++ (some ++ dropped)) n *
          10 ^ (power - (some ++ dropped).length : Int)) :=
      startsWith_digits
        (List.forall_mem_append.2 ⟨fun c mem => digits' c (List.mem_append_right _ mem), digits⟩) n
        (by simp)
    rw [Nat.ofDigitChars_append, Nat.ofDigitChars_append] at right
    refine near_of_startsWith many (pos _) (startsWith_digits ?_ _ ?_) right
    · exact fun c mem => digits c (List.mem_append_left _ mem)
    · omega

/-- The product of two rounded numbers is nearly that of the numbers. -/
theorem nearest_mul_bounds (x y : Nat) :
    (2 ^ 53 - 1) ^ 2 * (x * y : ℚ) ≤ 2 ^ 106 * (nearest x * nearest y) ∧
      2 ^ 106 * (nearest x * nearest y : ℚ) ≤ (2 ^ 53 + 1) ^ 2 * (x * y) := by
  have bounds (n : Nat) : (2 ^ 53 - 1 : ℚ) * n ≤ 2 ^ 53 * nearest n ∧
      2 ^ 53 * (nearest n : ℚ) ≤ (2 ^ 53 + 1) * n := by
    obtain ⟨below, above⟩ := Double.nearest_bounds n
    have below : (2 ^ 53 : ℚ) * n ≤ 2 ^ 53 * nearest n + n := mod_cast below
    have above : (2 ^ 53 : ℚ) * nearest n ≤ 2 ^ 53 * n + n := mod_cast above
    constructor <;> linarith
  obtain ⟨below, above⟩ := bounds x
  obtain ⟨below', above'⟩ := bounds y
  constructor
  · have product := mul_le_mul below below' (by linarith) (by positivity)
    linarith
  · have product := mul_le_mul above above' (by positivity) (by positivity)
    linarith

/-- A literal that is not read is at most one part in `2 ^ 50` below the end of the doubles. -/
theorem fits_of_magnitude_lt {l : Literal} (wf : l.WellFormed)
    (less : (2 ^ 50 + 1) * l.magnitude < 2 ^ 50 * Decimal.firstBeyond) : l.Fits := by
  obtain ⟨near, -⟩ := near_kept wf
  rcases Int.lt_or_le l.kept.exponent 0 with negative | nonneg
  · rw [Fits, show l.kept.exponent.toNat = 0 by omega]
    exact nearest_lt_firstBeyond l.kept_le
  obtain ⟨n, exponent⟩ := Int.eq_ofNat_of_zero_le nonneg
  obtain ⟨-, above⟩ := nearest_mul_bounds l.kept.digits (10 ^ n)
  rw [Decimal.value, exponent, zpow_natCast] at near
  rw [Nat.cast_pow, Nat.cast_ofNat] at above
  rw [Fits, exponent, Int.toNat_natCast, ← Nat.cast_lt (α := ℚ), Nat.cast_mul]
  have some : (0 : ℚ) < Decimal.firstBeyond := Nat.cast_pos.2 (by decide +kernel)
  generalize (Decimal.firstBeyond : ℚ) = beyond at less some ⊢
  linarith

/-- A literal that is read is at most one part in `2 ^ 50` above the end of the doubles. -/
theorem magnitude_lt_of_fits {l : Literal} (wf : l.WellFormed) (fits : l.Fits) :
    2 ^ 50 * l.magnitude < (2 ^ 50 + 1) * Decimal.firstBeyond := by
  obtain ⟨-, near⟩ := near_kept wf
  rcases Int.lt_or_le l.kept.exponent 0 with negative | nonneg
  · have far : (2 ^ 70 : ℚ) ≤ Decimal.firstBeyond := by
      rw [← Nat.cast_ofNat, ← Nat.cast_pow, Nat.cast_le]
      decide +kernel
    have small : l.kept.value ≤ 2 ^ 64 := by
      have digits : (l.kept.digits : ℚ) ≤ 2 ^ 64 := mod_cast l.kept_le.trans (by decide)
      have power : (10 : ℚ) ^ l.kept.exponent ≤ 1 := zpow_le_one_of_nonpos₀ (by norm_num) negative.le
      calc l.kept.value ≤ 2 ^ 64 * 1 := mul_le_mul digits power (by positivity) (by positivity)
        _ = 2 ^ 64 := mul_one _
    generalize (Decimal.firstBeyond : ℚ) = beyond at far ⊢
    linarith
  obtain ⟨n, exponent⟩ := Int.eq_ofNat_of_zero_le nonneg
  obtain ⟨below, -⟩ := nearest_mul_bounds l.kept.digits (10 ^ n)
  rw [Decimal.value, exponent, zpow_natCast] at near
  rw [Nat.cast_pow, Nat.cast_ofNat] at below
  rw [Fits, exponent, Int.toNat_natCast, ← Nat.cast_lt (α := ℚ), Nat.cast_mul] at fits
  have some : (0 : ℚ) < Decimal.firstBeyond := Nat.cast_pos.2 (by decide +kernel)
  generalize (Decimal.firstBeyond : ℚ) = beyond at fits some ⊢
  linarith

/-- A literal of a number below the greatest double that is not read. -/
def refusedBelow : Literal :=
  ⟨false, Nat.toDigits 10 1797693134862315700, [], some 290⟩

/-- A literal of a number beyond the doubles that is read. -/
def readBeyond : Literal :=
  ⟨false, Nat.toDigits 10 179769313486231581, [], some 291⟩

/-- The digits of an integer with a power of ten denote an integer. -/
theorem magnitude_toDigits (negative : Bool) (m n : Nat) :
    (⟨negative, Nat.toDigits 10 m, [], some n⟩ : Literal).magnitude = (m * 10 ^ n : Nat) := by
  simp [magnitude]

theorem refusedBelow_spec :
    refusedBelow.WellFormed ∧ refusedBelow.magnitude < Decimal.firstBeyond ∧ ¬refusedBelow.Fits := by
  refine ⟨⟨?_, List.forall_mem_nil _⟩, ?_, by decide +kernel⟩
  · exact isWhole_toDigits 1797693134862315700
  · have below : 1797693134862315700 * 10 ^ 290 < Decimal.firstBeyond := by decide +kernel
    exact (magnitude_toDigits false _ 290).trans_lt (Nat.cast_lt.2 below)

theorem readBeyond_spec :
    readBeyond.WellFormed ∧ Decimal.firstBeyond ≤ readBeyond.magnitude ∧ readBeyond.Fits := by
  refine ⟨⟨?_, List.forall_mem_nil _⟩, ?_, by decide +kernel⟩
  · exact isWhole_toDigits 179769313486231581
  · have beyond : Decimal.firstBeyond ≤ 179769313486231581 * 10 ^ 291 := by decide +kernel
    exact (Nat.cast_le.2 beyond).trans (magnitude_toDigits false _ 291).ge

end Literal

end Number

end DocStore
