-- SUMMARY: The shortest decimal that reads back as a given double, in exact integer arithmetic.

/-!
# Shortest decimals

A finite positive double is a product `m · 2 ^ q` of integers. The reals that round to it form an
interval around it, whose ends belong to it exactly if `m` is even. Among the decimals of that
interval the shortest is the multiple of the largest possible power of ten; of two neighbours on
that grid it is the nearer one, and of two at the same distance the even one.

All comparisons are between integers: both sides are scaled until no power has a negative exponent.
-/

namespace DocStore

/-- A double without its sign: `mantissa · 2 ^ exponent`. -/
structure Binary where
  mantissa : Nat
  exponent : Int
deriving DecidableEq, Repr

/-- A decimal without its sign: `digits · 10 ^ exponent`. -/
structure Decimal where
  digits : Nat
  exponent : Int
deriving DecidableEq, Repr

namespace Binary

/-- The least mantissa of a double that is not subnormal, `2 ^ 52`. -/
def leastNormal : Nat := 0x10000000000000

/-- Magnitude of a finite double: the fields of its 64 bits. -/
def ofFloat (f : Float) : Binary :=
  let bits : Nat := f.toBits.toNat
  let field : Nat := bits / leastNormal % 0x800
  let fraction : Nat := bits % leastNormal
  if field = 0 then ⟨fraction, -1074⟩ else ⟨leastNormal + fraction, (field : Int) - 1075⟩

/-- Lower end of the interval of reals that round to `b`, in quarters of `2 ^ b.exponent`. The
gap below a power of two is half the gap above it, unless it is the least normal double. -/
def lowerQuarters (b : Binary) : Nat :=
  if b.mantissa = leastNormal ∧ b.exponent ≠ -1074 then 4 * b.mantissa - 1 else 4 * b.mantissa - 2

/-- Upper end of the interval of reals that round to `b`, in quarters of `2 ^ b.exponent`. -/
def upperQuarters (b : Binary) : Nat :=
  4 * b.mantissa + 2

/-- Factors `(x, y)` such that `d · 10 ^ p` and `n` quarters of `2 ^ q` compare as `d * x` and
`n * y`. -/
def scales (p q : Int) : Nat × Nat :=
  (Nat.pow 10 p.toNat * Nat.pow 2 (2 - q).toNat, Nat.pow 10 (-p).toNat * Nat.pow 2 (q - 2).toNat)

/-- Whether `d · 10 ^ p` rounds to `b`. -/
def accepts (b : Binary) (d : Nat) (p : Int) : Bool :=
  let (x, y) := scales p b.exponent
  if b.mantissa % 2 = 0 then b.lowerQuarters * y ≤ d * x && d * x ≤ b.upperQuarters * y
  else b.lowerQuarters * y < d * x && d * x < b.upperQuarters * y

/-- The best multiple of `10 ^ p` that rounds to `b`, if there is one: a neighbour of `b` on that
grid. -/
def onGrid (b : Binary) (p : Int) : Option Decimal :=
  let (x, y) := scales p b.exponent
  let value := 4 * b.mantissa * y
  let below := value / x
  let above := below + 1
  match b.accepts below p, b.accepts above p with
  | false, false => none
  | true, false => some ⟨below, p⟩
  | false, true => some ⟨above, p⟩
  | true, true =>
    let down := value - below * x
    let up := above * x - value
    if down < up || (down == up && below % 2 == 0) then some ⟨below, p⟩ else some ⟨above, p⟩

/-- The first hit on the grids of `10 ^ p`, `10 ^ (p - 1)`, …. -/
def shortestFrom (b : Binary) : (steps : Nat) → (p : Int) → Decimal
  | 0, p => ⟨4 * b.mantissa * (scales p b.exponent).2 / (scales p b.exponent).1, p⟩
  | steps + 1, p =>
    match b.onGrid p with
    | some decimal => decimal
    | none => shortestFrom b steps (p - 1)

/-- The shortest decimal that rounds to `b`. The search starts above the leading digit, and
seventeen digits always suffice, so it is over within its steps. -/
def shortest (b : Binary) : Decimal :=
  if b.mantissa = 0 then ⟨0, 0⟩
  else
    let log2 : Int := (Nat.log2 b.mantissa : Int) + b.exponent
    shortestFrom b 24 ((log2 + 1) * 1233 / 4096 + 2)

end Binary

end DocStore
