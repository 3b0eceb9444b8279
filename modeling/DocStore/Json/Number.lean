-- SUMMARY: Numbers of a document: exact integers and doubles, how they are read and how they are written.
import DocStore.Decimal.Shortest
import DocStore.Text.Symbol

/-!
# Numbers

A number is an integer of the range from `-2 ^ 63` to `2 ^ 64 - 1`, kept exactly, or a double. Which
of the two a literal denotes is decided by its spelling: an integer literal within the range is an
integer, and a fraction, an exponent, a minus zero or a magnitude beyond the range make a double.

A double is written with the fewest digits that read back to it, always with a point or an
exponent, so that it reads as a double again.
-/

namespace DocStore

/-- A number of a document. -/
inductive Number where
  | int (i : Int)
  | float (f : Float)
deriving DecidableEq, Repr, Inhabited

namespace Number

/-- The greatest identifier and the greatest exact integer. -/
def maxInt : Nat := 0xFFFFFFFFFFFFFFFF

/-- The magnitude of the least exact integer. -/
def minIntMagnitude : Nat := 0x8000000000000000

def toFloat : Number → Float
  | .int i => Float.ofInt i
  | .float f => f

/-- Whether two numbers are the same integer or equal doubles. An integer is never the same as a
double, and the two zeros are equal. -/
def same : Number → Number → Bool
  | .int i, .int j => i == j
  | .float f, .float g => f == g
  | _, _ => false

/-- The integer that a number is, if it fits 64 bits with a sign. -/
def toSigned? : Number → Option Int
  | .int i => if -(minIntMagnitude : Int) ≤ i ∧ i < minIntMagnitude then some i else none
  | .float _ => none

/-- The integer that a number is, if it fits 64 bits without a sign. -/
def toUnsigned? : Number → Option Int
  | .int i => if 0 ≤ i ∧ i ≤ maxInt then some i else none
  | .float _ => none

/-- Whether two numbers have the same value: exactly if both are integers of 64 bits with a sign or
both are integers of 64 bits without one, and as doubles otherwise. -/
def strictEq (a b : Number) : Bool :=
  match a.toSigned?, b.toSigned? with
  | some i, some j => i == j
  | _, _ =>
    match a.toUnsigned?, b.toUnsigned? with
    | some i, some j => i == j
    | _, _ => a.toFloat == b.toFloat

/-! ## Writing -/

/-- The least and the greatest power of ten of a leading digit that is written without an
exponent. -/
def plainExponents : Int × Int := (-5, 15)

/-- Digits of which `whole` stand before the point; both sides of the point have a digit. -/
def plainChars (digits : List Char) (whole : Int) : List Char :=
  if whole ≤ 0 then
    '0' :: '.' :: List.replicate (-whole).toNat '0' ++ digits
  else if whole.toNat < digits.length then
    digits.take whole.toNat ++ '.' :: digits.drop whole.toNat
  else
    digits ++ List.replicate (whole.toNat - digits.length) '0' ++ ['.', '0']

/-- Digits with the point after the first one, and the power of ten with its sign. -/
def scientificChars (digits : List Char) (leading : Int) : List Char :=
  let fraction := if digits.length ≤ 1 then [] else '.' :: digits.drop 1
  let sign := if leading < 0 then '-' else '+'
  digits.take 1 ++ fraction ++ 'e' :: sign :: Nat.toDigits 10 leading.natAbs

def decimalChars (d : Decimal) : List Char :=
  let digits := Nat.toDigits 10 d.digits
  let leading := d.exponent + digits.length - 1
  if plainExponents.1 ≤ leading ∧ leading ≤ plainExponents.2 then plainChars digits (leading + 1)
  else scientificChars digits leading

def isNegative (f : Float) : Bool :=
  f.toBits >>> 63 == 1

def floatChars (f : Float) : List Char :=
  let magnitude := decimalChars (Binary.ofFloat f).shortest
  if isNegative f then '-' :: magnitude else magnitude

def intChars (i : Int) : List Char :=
  if i < 0 then '-' :: Nat.toDigits 10 i.natAbs else Nat.toDigits 10 i.natAbs

def chars : Number → List Char
  | .int i => intChars i
  | .float f => floatChars f

/-! ## Literals -/

/-- A number literal: its sign, the digits before and after the point, and the power of ten. A
literal without a point has no fraction digits, and without an exponent no power. -/
structure Literal where
  negative : Bool
  whole : List Char
  fraction : List Char
  power : Option Int
deriving DecidableEq, Repr

/-- The digits in front, and what follows them. -/
def spanDigits : List Symbol → List Char × List Symbol
  | some c :: rest =>
    if c.isDigit then ((c :: (spanDigits rest).1), (spanDigits rest).2) else ([], some c :: rest)
  | rest => ([], rest)

/-- The digits in front, at least one of them. -/
def someDigits? (s : List Symbol) : Option (List Char × List Symbol) :=
  match spanDigits s with
  | ([], _) => none
  | found => some found

/-- The part of a literal before the point: a zero alone, or digits that do not start with one. -/
def wholePart? (s : List Symbol) : Option (List Char × List Symbol) :=
  match spanDigits s with
  | ([], _) => none
  | ('0' :: _ :: _, _) => none
  | found => some found

/-- The digits after the point, if there is one. -/
def fractionPart? : List Symbol → Option (List Char × List Symbol)
  | some '.' :: rest => someDigits? rest
  | rest => some ([], rest)

/-- A power of ten after its mark. -/
def power? : List Symbol → Option (Int × List Symbol)
  | some '+' :: rest => (someDigits? rest).map fun (ds, rest) => (Nat.ofDigitChars 10 ds 0, rest)
  | some '-' :: rest => (someDigits? rest).map fun (ds, rest) => (-(Nat.ofDigitChars 10 ds 0 : Int), rest)
  | rest => (someDigits? rest).map fun (ds, rest) => (Nat.ofDigitChars 10 ds 0, rest)

/-- The power of ten, if there is one. -/
def powerPart? : List Symbol → Option (Option Int × List Symbol)
  | some 'e' :: rest => (power? rest).map fun (p, rest) => (some p, rest)
  | some 'E' :: rest => (power? rest).map fun (p, rest) => (some p, rest)
  | rest => some (none, rest)

/-- A literal after its sign. -/
def unsigned? (negative : Bool) (s : List Symbol) : Option (Literal × List Symbol) := do
  let (whole, s) ← wholePart? s
  let (fraction, s) ← fractionPart? s
  let (power, s) ← powerPart? s
  return (⟨negative, whole, fraction, power⟩, s)

/-- The literal in front of a text, and what follows it. -/
def literal? : List Symbol → Option (Literal × List Symbol)
  | some '-' :: rest => unsigned? true rest
  | rest => unsigned? false rest

/-! ## The value of a literal -/

/-- Append digits before the point to a significand, as long as it fits 64 bits. The remaining
digits are dropped, and each of them raises the power of ten. -/
def absorbWhole : List Char → (significand : Nat) → Nat × Int
  | [], significand => (significand, 0)
  | c :: cs, significand =>
    let next := 10 * significand + (c.toNat - '0'.toNat)
    if next ≤ maxInt then absorbWhole cs next else (significand, (cs.length : Int) + 1)

/-- Append digits after the point to a significand, as long as it fits 64 bits. Each digit that is
kept lowers the power of ten, and the remaining ones are dropped. -/
def absorbFraction : List Char → (significand : Nat) → (power : Int) → Nat × Int
  | [], significand, power => (significand, power)
  | c :: cs, significand, power =>
    let next := 10 * significand + (c.toNat - '0'.toNat)
    if next ≤ maxInt then absorbFraction cs next (power - 1) else (significand, power)

def tenPow (n : Nat) : Float :=
  Float.ofScientific 1 false n

/-- The greatest power of ten below the greatest double. -/
def maxTenPow : Nat := 308

/-- Divide a double by `10 ^ n`, by at most `10 ^ maxTenPow` at a time. Three divisions bring every
significand to zero. -/
def divideTenPow : (steps : Nat) → Float → (n : Nat) → Float
  | 0, _, _ => 0.0
  | steps + 1, f, n =>
    if n ≤ maxTenPow then f / tenPow n
    else if f == 0.0 then f
    else divideTenPow steps (f / tenPow maxTenPow) (n - maxTenPow)

/-- The double nearest to the significand, times or divided by the power of ten in double
arithmetic; none if it is beyond the greatest double. -/
def scale? (significand : Nat) (power : Int) : Option Float :=
  let f := significand.toUInt64.toFloat
  if power < 0 then some (divideTenPow 4 f power.natAbs)
  else if power.natAbs ≤ maxTenPow then
    let product := f * tenPow power.natAbs
    if product.isFinite then some product else none
  else if significand = 0 then some 0.0
  else none

namespace Literal

def isInteger (l : Literal) : Bool :=
  l.fraction.isEmpty && l.power.isNone

/-- The double that a literal denotes, if it is within the range of doubles. -/
def toFloat? (l : Literal) : Option Float :=
  let (significand, power) := absorbWhole l.whole 0
  let (significand, power) := absorbFraction l.fraction significand power
  (scale? significand (power + l.power.getD 0)).map fun f => if l.negative then -f else f

/-- The integer that a literal denotes, if it is spelled as one and within the range. -/
def toInt? (l : Literal) : Option Int :=
  let magnitude := Nat.ofDigitChars 10 l.whole 0
  if !l.isInteger then none
  else if l.negative then
    if magnitude = 0 ∨ minIntMagnitude < magnitude then none else some (-magnitude)
  else
    if maxInt < magnitude then none else some magnitude

/-- The number that a literal denotes; none if it is beyond the range of doubles. -/
def toNumber? (l : Literal) : Option Number :=
  match l.toInt? with
  | some i => some (.int i)
  | none => l.toFloat?.map .float

end Literal

end Number

end DocStore
