-- SUMMARY: How similar two words are, for hints to a person who mistyped one.

/-!
# Similar words

Two words are compared by the characters that they share at nearly the same place and by how many
of those are out of order: with `m` shared characters, `t` of them swapped, the similarity of words
of lengths `a` and `b` is the mean of `m / a`, `m / b` and `(m - t) / m`. Words are similar if it is
above seven tenths. The mean is computed in floating point, which decides the ties.
-/

namespace DocStore

/-- The place of the first character `c` from place `lo` to before `hi` that is not taken yet. -/
def placeNear? (c : Char) (lo hi : Nat) (other : List (Char × Bool)) : Option Nat :=
  (List.range (min hi other.length)).find? fun i =>
    lo ≤ i && (match other[i]? with | some (d, taken) => d == c && !taken | none => false)

/-- The characters of a word that find a partner in the other one within reach, in order, and the
other word with the partners marked. -/
def sharedFrom (reach : Nat) : (place : Nat) → List Char → List (Char × Bool) →
    List Char × List (Char × Bool)
  | _, [], other => ([], other)
  | place, c :: cs, other =>
    match placeNear? c (place - reach) (place + reach + 1) other with
    | some i =>
      let (shared, other) := sharedFrom reach (place + 1) cs (other.set i (c, true))
      (c :: shared, other)
    | none => sharedFrom reach (place + 1) cs other

/-- The number of characters that two words share, and how many of them are swapped. -/
def sharedCounts (a b : String) : Nat × Nat :=
  let reach := max a.length b.length / 2 - 1
  let (shared, other) := sharedFrom reach 0 a.toList (b.toList.map fun c => (c, false))
  let partners := (other.filter Prod.snd).map Prod.fst
  (shared.length, ((shared.zip partners).countP fun (c, d) => c != d) / 2)

/-- The similarity of two words, from none at 0 to equality at 1. -/
def similarity (a b : String) : Float :=
  if a.isEmpty && b.isEmpty then 1
  else
    let (m, t) := sharedCounts a b
    if m = 0 then 0
    else (m.toFloat / a.length.toFloat + m.toFloat / b.length.toFloat +
      (m - t).toFloat / m.toFloat) / 3

/-- The known words that are similar to a given one, the most similar last. -/
def similarWords (known : List String) (word : String) : List String :=
  let scored := known.map fun other => (similarity word other, other)
  let close := scored.filter fun (score, _) => 0.7 < score
  (close.mergeSort fun (x, _) (y, _) => x ≤ y).map Prod.snd

end DocStore
