-- SUMMARY: Sets of characters given as ranges of code points.

/-!
# Ranges of code points

The classes that Unicode gives to characters are unions of ranges of code points. A class is kept as
the first and last code point of each range, in increasing order and without overlaps, so that
halving finds the range that could hold a character.
-/

namespace DocStore

/-- First and last code point of each range of a set of characters, in increasing order. -/
abbrev CodeRanges := Array (Nat × Nat)

namespace CodeRanges

/-- Whether one of the ranges from place `lo` to before `hi` holds the code point `n`. Each step
halves the part that is searched. -/
def searched (ranges : CodeRanges) (n : Nat) : (steps lo hi : Nat) → Bool
  | 0, _, _ => false
  | steps + 1, lo, hi =>
    if lo < hi then
      let mid := (lo + hi) / 2
      match ranges[mid]? with
      | some (first, last) =>
        if n < first then searched ranges n steps lo mid
        else if last < n then searched ranges n steps (mid + 1) hi
        else true
      | none => false
    else false

/-- Whether one of the ranges holds a character. -/
def contains (ranges : CodeRanges) (c : Char) : Bool :=
  ranges.searched c.toNat (ranges.size.log2 + 1) 0 ranges.size

end CodeRanges

end DocStore
