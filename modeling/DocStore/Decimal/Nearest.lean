-- SUMMARY: The double nearest to a decimal.
import DocStore.Decimal.Shortest

/-!
# Nearest doubles

A decimal denotes the double nearest to it. A decimal halfway past the greatest double or further
out has none. Exponents can be far beyond what a double reaches, so the number of digits decides
first, and only decimals of a reachable size are computed with.
-/

namespace DocStore.Decimal

/-- The least integer that no double is nearest to: halfway between the greatest double and the
next power of two. -/
def firstBeyond : Nat := (Nat.pow 2 54 - 1) * Nat.pow 2 970

/-- The power of ten below which a decimal of any size is nearer to zero than to any other
double. -/
def tiny : Int := -400

/-- The power of ten from which on a decimal is beyond the doubles. -/
def huge : Int := 310

/-- The power of ten just above a decimal that is not zero. -/
def order (d : Decimal) : Int :=
  (Nat.toDigits 10 d.digits).length + d.exponent

/-- The double nearest to a decimal, if there is one. -/
def toFloat? (d : Decimal) : Option Float :=
  if d.digits = 0 then some 0.0
  else if d.order < tiny then some 0.0
  else if huge < d.order then none
  else if firstBeyond * Nat.pow 10 (-d.exponent).toNat ≤ d.digits * Nat.pow 10 d.exponent.toNat then none
  else some (Float.ofScientific d.digits (d.exponent < 0) d.exponent.natAbs)

end DocStore.Decimal
