-- SUMMARY: Strict equality of values: reflexive and symmetric, exact on integers, and transitive unless a double stands between different integers.
import DocStore.Predicate
import DocStore.Proofs.Json.Double
import DocStore.Proofs.Json.Place
import Mathlib.Data.List.Perm.Subperm

/-!
# Strict equality

Strict equality compares values place by place, so its laws are those of the comparison of numbers.

Integers are compared exactly, over the whole range from `-2 ^ 63` to `2 ^ 64 - 1`: an integer that
only fits a word with a sign and one that only fits a word without are compared as doubles, but these
have different signs. So on values without doubles strict equality is equality up to the order of
members.

An integer and a double are compared as doubles, where integers beyond `2 ^ 53` meet. One double can
therefore equal two different integers, and only that keeps strict equality from being transitive.
-/

namespace DocStore

/-! ## Look-ups -/

/-- Lists without repeated keys match entry by entry if they are equally long and each entry of the
first has its match: no entry of the second can be left over. -/
theorem Assoc.forall_rel_iff {κ α β : Type} [DecidableEq κ] {r : α → β → Prop} {a : List (κ × α)}
    {b : List (κ × β)} (nodup_a : (keys a).Nodup) (nodup_b : (keys b).Nodup) :
    (∀ key, Option.Rel r (get? key a) (get? key b)) ↔
      a.length = b.length ∧ ∀ entry ∈ a, ∃ w, get? entry.1 b = some w ∧ r entry.2 w := by
  have length_keys : (keys a).length = a.length ∧ (keys b).length = b.length :=
    ⟨List.length_map _, List.length_map _⟩
  constructor
  · intro related
    have sameKeys : ∀ key, key ∈ keys a ↔ key ∈ keys b := by
      intro key
      rw [← not_iff_not, ← get?_eq_none_iff, ← get?_eq_none_iff]
      have here := related key
      constructor
      · intro absent
        rwa [absent, rel_none_iff] at here
      · intro absent
        rwa [absent, rel_swap, rel_none_iff] at here
    have perm := (List.perm_ext_iff_of_nodup nodup_a nodup_b).2 sameKeys
    refine ⟨by rw [← length_keys.1, ← length_keys.2, perm.length_eq], ?_⟩
    rintro ⟨key, v⟩ mem
    have here := related key
    rw [(get?_eq_some_iff nodup_a).2 mem] at here
    exact rel_some_iff.1 here
  · rintro ⟨sameLength, matched⟩ key
    have subset : keys a ⊆ keys b := by
      intro key mem
      obtain ⟨entry, memEntry, rfl⟩ := List.mem_map.1 mem
      obtain ⟨w, found, -⟩ := matched entry memEntry
      exact mem_keys_of_mem (mem_of_get? found)
    have perm : (keys a).Perm (keys b) :=
      (List.subperm_of_subset nodup_a subset).perm_of_length_le
        (by rw [length_keys.1, length_keys.2, sameLength])
    cases found : get? key a with
    | some v =>
      obtain ⟨w, there, holds⟩ := matched _ (mem_of_get? found)
      rw [there]
      exact .some holds
    | none =>
      have absent : get? key b = none :=
        get?_eq_none_iff.2 fun mem => get?_eq_none_iff.1 found (perm.symm.subset mem)
      rw [absent]
      exact .none

namespace Number

/-! ## Numbers -/

/-- Strict equality of numbers does not depend on which of them comes first. -/
theorem strictEq_comm (a b : Number) : a.strictEq b = b.strictEq a := by
  unfold strictEq
  cases a.toSigned? <;> cases b.toSigned? <;> cases a.toUnsigned? <;> cases b.toUnsigned? <;>
    exact BEq.comm

@[simp] theorem toFloat_float (f : Float) : (float f).toFloat = f := rfl

@[simp] theorem strictEq_float_left (f : Float) (n : Number) :
    (float f).strictEq n = (f == n.toFloat) := rfl

theorem strictEq_float_right (n : Number) (f : Float) : n.strictEq (float f) = (n.toFloat == f) := by
  rw [strictEq_comm, strictEq_float_left, BEq.comm]

theorem wellFormed_int {i : Int} : (int i).WellFormed ↔ -2 ^ 63 ≤ i ∧ i < 2 ^ 64 := by
  simp only [WellFormed, minIntMagnitude, maxInt]
  omega

theorem toSigned?_int (i : Int) :
    (int i).toSigned? = if -2 ^ 63 ≤ i ∧ i < 2 ^ 63 then some i else none := rfl

theorem toUnsigned?_int (i : Int) :
    (int i).toUnsigned? = if 0 ≤ i ∧ i < 2 ^ 64 then some i else none := by
  have same : i ≤ maxInt ↔ i < 2 ^ 64 := by
    simp only [maxInt]
    omega
  simp only [toUnsigned?, same]

/-- Integers that both fit 64 bits with a sign are compared exactly. -/
theorem strictEq_int_of_signed {i j : Int} (range_i : -2 ^ 63 ≤ i ∧ i < 2 ^ 63)
    (range_j : -2 ^ 63 ≤ j ∧ j < 2 ^ 63) : (int i).strictEq (int j) = (i == j) := by
  simp only [strictEq, toSigned?_int, if_pos range_i, if_pos range_j]

/-- Integers that both fit 64 bits without a sign are compared exactly. -/
theorem strictEq_int_of_unsigned {i j : Int} (range_i : 0 ≤ i ∧ i < 2 ^ 64)
    (range_j : 0 ≤ j ∧ j < 2 ^ 64) : (int i).strictEq (int j) = (i == j) := by
  simp only [strictEq, toSigned?_int, toUnsigned?_int, if_pos range_i, if_pos range_j]
  split
  · rename_i signed_i signed_j
    rw [Option.ite_none_right_eq_some, Option.some.injEq] at signed_i signed_j
    rw [signed_i.2, signed_j.2]
  · rfl

/-- A negative integer and one that only fits a word without a sign are compared as doubles, which
have different signs. -/
theorem strictEq_int_of_apart {i j : Int} (range_i : -2 ^ 63 ≤ i ∧ i < 0)
    (range_j : 2 ^ 63 ≤ j ∧ j < 2 ^ 64) : (int i).strictEq (int j) = false := by
  have signed_i : -2 ^ 63 ≤ i ∧ i < 2 ^ 63 := by omega
  have unsigned_i : ¬(0 ≤ i ∧ i < 2 ^ 64) := by omega
  have signed_j : ¬(-2 ^ 63 ≤ j ∧ j < 2 ^ 63) := by omega
  have positive : 0 < j := by omega
  simp only [strictEq, toSigned?_int, toUnsigned?_int, if_pos signed_i, if_neg unsigned_i,
    if_neg signed_j, toFloat]
  exact Double.ofInt_beq_of_neg_of_pos range_i.2 positive (by omega) (by omega)

/-- Integers of the exact range are equal if they are the same. -/
theorem strictEq_int {i j : Int} (wf_i : (int i).WellFormed) (wf_j : (int j).WellFormed) :
    (int i).strictEq (int j) = true ↔ i = j := by
  obtain ⟨least_i, greatest_i⟩ := wellFormed_int.1 wf_i
  obtain ⟨least_j, greatest_j⟩ := wellFormed_int.1 wf_j
  by_cases signed : i < 2 ^ 63 ∧ j < 2 ^ 63
  · rw [strictEq_int_of_signed ⟨least_i, signed.1⟩ ⟨least_j, signed.2⟩, beq_iff_eq]
  by_cases unsigned : 0 ≤ i ∧ 0 ≤ j
  · rw [strictEq_int_of_unsigned ⟨unsigned.1, greatest_i⟩ ⟨unsigned.2, greatest_j⟩, beq_iff_eq]
  have different : i ≠ j := by omega
  rcases Int.lt_or_le i 0 with negative | nonneg
  · rw [strictEq_int_of_apart ⟨least_i, negative⟩ ⟨by omega, greatest_j⟩]
    simpa using different
  · rw [strictEq_comm, strictEq_int_of_apart ⟨least_j, by omega⟩ ⟨by omega, greatest_i⟩]
    simpa using different

/-- A number is strictly equal to itself. -/
theorem strictEq_self {n : Number} (wf : n.WellFormed) : n.strictEq n = true := by
  cases n with
  | int i => exact (strictEq_int wf wf).2 rfl
  | float f => exact Double.beq_self_of_isFinite wf

theorem natAbs_lt_of_wellFormed {i : Int} (wf : (int i).WellFormed) : i.natAbs < 2 ^ 64 := by
  rw [wellFormed_int] at wf
  omega

/-- Equal numbers are equal as doubles. -/
theorem toFloat_beq_of_strictEq {a b : Number} (wf_a : a.WellFormed) (wf_b : b.WellFormed)
    (same : a.strictEq b = true) : (a.toFloat == b.toFloat) = true := by
  cases a with
  | float f => exact same
  | int i =>
    cases b with
    | float g => rwa [strictEq_float_right] at same
    | int j =>
      rw [(strictEq_int wf_a wf_b).1 same]
      exact Double.ofInt_beq_self (natAbs_lt_of_wellFormed wf_b)

/-- Through a third number two numbers are equal unless they are different integers. -/
theorem strictEq_through_iff {a b c : Number} (wf_a : a.WellFormed) (wf_b : b.WellFormed)
    (wf_c : c.WellFormed) (first : a.strictEq b = true) (second : b.strictEq c = true) :
    a.strictEq c = true ↔ ∀ i j, a = int i → c = int j → i = j := by
  have asDoubles : (a.toFloat == c.toFloat) = true :=
    BEq.trans (toFloat_beq_of_strictEq wf_a wf_b first)
      (toFloat_beq_of_strictEq wf_b wf_c second)
  cases a with
  | float f => simpa using asDoubles
  | int i =>
    cases c with
    | float g =>
      rw [strictEq_float_right]
      simpa using asDoubles
    | int j => simpa using strictEq_int wf_a wf_c

end Number

namespace Json

/-! ## Place by place -/

/-- Whether two nodes are equal without conversion between kinds. -/
def Node.strictEq : Node → Node → Bool
  | .null, .null => true
  | .bool a, .bool b => a == b
  | .number a, .number b => a.strictEq b
  | .string a, .string b => a == b
  | .array, .array => true
  | .object, .object => true
  | _, _ => false

theorem itemsStrictEq_iff {a b : List Json} :
    itemsStrictEq a b = true ↔ List.Forall₂ (fun v w => v.strictEq w = true) a b := by
  induction a generalizing b with
  | nil => cases b <;> simp [itemsStrictEq]
  | cons v a ih => cases b <;> simp [itemsStrictEq, ih]

/-- The members of one object are strictly equal to those of another of the same names. -/
theorem membersStrictEq_iff {members others : Object} :
    membersStrictEq members others = true ↔
      ∀ member ∈ members, ∃ w, Assoc.get? member.1 others = some w ∧ member.2.strictEq w = true := by
  induction members with
  | nil => simp [membersStrictEq]
  | cons member members ih =>
    cases found : Assoc.get? member.1 others <;> simp [membersStrictEq, ih, found]

/-- Strict equality is decided at each place by itself. -/
theorem descends_strictEq :
    Descends (fun a b => a.strictEq b = true) (fun m n => m.strictEq n = true) := by
  intro a b wf_a wf_b
  beta_reduce
  cases a <;> cases b
  case array.array a b =>
    rw [forall_part_array, ← itemsStrictEq_iff]
    simp [strictEq, node, Node.strictEq]
  case object.object a b =>
    rw [forall_part_object, Assoc.forall_rel_iff wf_a.1 wf_b.1, ← membersStrictEq_iff]
    simp [strictEq, node, Node.strictEq]
  all_goals simp [strictEq, node, Node.strictEq, part?]

/-- Values are equal if they have equal nodes at the same places. -/
theorem strictEq_iff {a b : Json} (wf_a : a.WellFormed) (wf_b : b.WellFormed) :
    a.strictEq b = true ↔
      ∀ place, Option.Rel (fun m n => m.strictEq n = true) (a.node? place) (b.node? place) :=
  descends_strictEq.iff_forall_place wf_a wf_b

theorem Node.strictEq_comm (m n : Node) : m.strictEq n = n.strictEq m := by
  cases m <;> cases n <;> simp [Node.strictEq, BEq.comm, Number.strictEq_comm]

/-- What stands at a place of a value is strictly equal to itself. -/
theorem Node.strictEq_self {v : Json} {place : List Key} {n : Node} (wf : v.WellFormed)
    (shown : v.node? place = some n) : n.strictEq n = true := by
  cases n with
  | number n => exact Number.strictEq_self (wf.number_of_node? shown)
  | null | array | object => rfl
  | bool b => exact BEq.rfl
  | string s => exact BEq.rfl

/-- Nodes without a double are equal if they are the same. -/
theorem Node.strictEq_iff_eq {a b : Json} {place : List Key} {m n : Node} (wf_a : a.WellFormed)
    (wf_b : b.WellFormed) (exact_a : a.doubles = []) (exact_b : b.doubles = [])
    (shown_a : a.node? place = some m) (shown_b : b.node? place = some n) :
    m.strictEq n = true ↔ m = n := by
  cases m <;> cases n
  case number.number m n =>
    cases m with
    | float f => simpa [exact_a] using mem_doubles_of_node? shown_a
    | int i =>
      cases n with
      | float g => simpa [exact_b] using mem_doubles_of_node? shown_b
      | int j =>
        have range_i := wf_a.number_of_node? shown_a
        have range_j := wf_b.number_of_node? shown_b
        simpa [Node.strictEq] using Number.strictEq_int range_i range_j
  all_goals simp [Node.strictEq]

/-! ## Laws -/

/-- A value is strictly equal to itself. -/
theorem strictEq_self {v : Json} (wf : v.WellFormed) : v.strictEq v = true :=
  descends_strictEq.self wf fun _ _ => Node.strictEq_self wf

/-- Strict equality of values does not depend on which of them comes first. -/
theorem strictEq_comm {a b : Json} (wf_a : a.WellFormed) (wf_b : b.WellFormed) :
    a.strictEq b = b.strictEq a :=
  Bool.eq_iff_iff.2
    (descends_strictEq.comm (fun m n => by rw [Node.strictEq_comm]) wf_a wf_b)

/-- Values without doubles are equal if they are the same up to the order of members. -/
theorem strictEq_iff_sorted_eq {a b : Json} (wf_a : a.WellFormed) (wf_b : b.WellFormed)
    (exact_a : a.doubles = []) (exact_b : b.doubles = []) :
    a.strictEq b = true ↔ a.sorted = b.sorted := by
  rw [strictEq_iff wf_a wf_b, sorted_eq_iff wf_a wf_b]
  refine forall_congr' fun place => ?_
  rw [← rel_eq_iff]
  exact rel_congr fun m n shown_a shown_b =>
    Node.strictEq_iff_eq wf_a wf_b exact_a exact_b shown_a shown_b

/-! ## Transitivity -/

/-- Through a third node two nodes are equal unless they are different integers. -/
theorem Node.strictEq_through_iff {m k n : Node} (wf_m : ∀ x, m = .number x → x.WellFormed)
    (wf_k : ∀ x, k = .number x → x.WellFormed) (wf_n : ∀ x, n = .number x → x.WellFormed)
    (below : m.strictEq k = true) (above : k.strictEq n = true) :
    m.strictEq n = true ↔ ∀ i j, m = .number (.int i) → n = .number (.int j) → i = j := by
  cases m <;> cases k <;> simp only [Node.strictEq, Bool.false_eq_true] at below <;>
    cases n <;> simp only [Node.strictEq, Bool.false_eq_true] at above
  case number.number.number x y z =>
    have numbers := Number.strictEq_through_iff (wf_m x rfl) (wf_k y rfl) (wf_n z rfl) below above
    simpa [Node.strictEq] using numbers
  all_goals simp_all [Node.strictEq]

/-- Whether two values have the same integer wherever both have one. -/
def IntegersAgree (a b : Json) : Prop :=
  ∀ place i j, a.node? place = some (.number (.int i)) → b.node? place = some (.number (.int j)) →
    i = j

/-- Whether every integer of a value is one that a double can be, up to `2 ^ 53`. -/
def HasSmallIntegers (v : Json) : Prop :=
  ∀ place i, v.node? place = some (.number (.int i)) → i.natAbs ≤ 2 ^ 53

section Through

variable {a b c : Json} (wf_a : a.WellFormed) (wf_b : b.WellFormed) (wf_c : c.WellFormed)
  (first : a.strictEq b = true) (second : b.strictEq c = true)

include wf_a wf_b wf_c first second

/-- What two values show at a place if both are equal to a third. -/
theorem rel_node?_through (place : List Key) :
    Option.Rel (fun m n => ∃ k, b.node? place = some k ∧ m.strictEq k = true ∧ k.strictEq n = true)
      (a.node? place) (c.node? place) := by
  have left := (strictEq_iff wf_a wf_b).1 first place
  have right := (strictEq_iff wf_b wf_c).1 second place
  cases shown_a : a.node? place with
  | none =>
    rw [shown_a, rel_none_iff] at left
    rw [left, rel_none_iff] at right
    rw [right]
    exact .none
  | some m =>
    rw [shown_a, rel_some_iff] at left
    obtain ⟨k, shown_b, below⟩ := left
    rw [shown_b, rel_some_iff] at right
    obtain ⟨n, shown_c, above⟩ := right
    rw [shown_c]
    exact .some ⟨k, shown_b, below, above⟩

/-- Through a third value two values are equal if their integers agree. -/
theorem strictEq_iff_integersAgree : a.strictEq c = true ↔ IntegersAgree a c := by
  rw [strictEq_iff wf_a wf_c]
  refine forall_congr' fun place => ?_
  have through := rel_node?_through wf_a wf_b wf_c first second place
  cases shown_a : a.node? place with
  | none =>
    rw [shown_a, rel_none_iff] at through
    simp [through]
  | some m =>
    rw [shown_a, rel_some_iff] at through
    obtain ⟨n, shown_c, k, shown_b, below, above⟩ := through
    rw [shown_c, Option.rel_some_some]
    simp only [Option.some.injEq]
    refine Node.strictEq_through_iff ?_ ?_ ?_ below above
    · rintro x rfl
      exact wf_a.number_of_node? shown_a
    · rintro x rfl
      exact wf_b.number_of_node? shown_b
    · rintro x rfl
      exact wf_c.number_of_node? shown_c

/-- Between two integers there is a number that equals both. -/
theorem exists_number_between {place : List Key} {i j : Int}
    (shown_a : a.node? place = some (.number (.int i)))
    (shown_c : c.node? place = some (.number (.int j))) :
    ∃ n, b.node? place = some (.number n) ∧ (Number.int i).strictEq n = true ∧
      n.strictEq (.int j) = true := by
  have through := rel_node?_through wf_a wf_b wf_c first second place
  rw [shown_a, shown_c, Option.rel_some_some] at through
  obtain ⟨k, shown_b, below, above⟩ := through
  cases k with
  | number n => exact ⟨n, shown_b, below, above⟩
  | null | bool | string | array | object => cases below

/-- Integers agree through a value that holds no doubles. -/
theorem integersAgree_of_no_doubles (exact_b : b.doubles = []) : IntegersAgree a c := by
  intro place i j shown_a shown_c
  obtain ⟨n, shown_b, below, above⟩ :=
    exists_number_between wf_a wf_b wf_c first second shown_a shown_c
  cases n with
  | float f => simpa [exact_b] using mem_doubles_of_node? shown_b
  | int k =>
    have wf_k := wf_b.number_of_node? shown_b
    calc i = k := (Number.strictEq_int (wf_a.number_of_node? shown_a) wf_k).1 below
      _ = j := (Number.strictEq_int wf_k (wf_c.number_of_node? shown_c)).1 above

/-- Integers that a double can hold exactly agree. -/
theorem integersAgree_of_small (small_a : a.HasSmallIntegers) (small_c : c.HasSmallIntegers) :
    IntegersAgree a c := by
  intro place i j shown_a shown_c
  obtain ⟨n, shown_b, below, above⟩ :=
    exists_number_between wf_a wf_b wf_c first second shown_a shown_c
  have wf_n := wf_b.number_of_node? shown_b
  have left := Number.toFloat_beq_of_strictEq (wf_a.number_of_node? shown_a) wf_n below
  have right := Number.toFloat_beq_of_strictEq wf_n (wf_c.number_of_node? shown_c) above
  exact Double.eq_of_ofInt_beq (small_a place i shown_a) (small_c place j shown_c)
    (BEq.trans left right)

end Through

end Json

/-- A record has each of its fields. -/
theorem Predicate.holds_of_subset {p : Predicate} {r : Record} (wf : r.toJson.WellFormed)
    (subset : p.fields ⊆ r.toObject) : p.holds r = true := by
  refine List.all_eq_true.2 fun field mem => ?_
  obtain ⟨nodup, values⟩ := wf
  have held : r.get? field.1 = some field.2 := (Assoc.get?_eq_some_iff nodup).2 (subset mem)
  simp only [fieldMatches, held]
  exact Json.strictEq_self (Json.membersWellFormed_iff.1 values field (subset mem))

/-- Strict equality is reflexive and symmetric, and on values without doubles it is equality up to
the order of members. So a record matches every predicate made of fields that it has. -/
theorem strictEq_refl_symm_exact :
    (∀ v : Json, v.WellFormed → v.strictEq v = true) ∧
    (∀ a b : Json, a.WellFormed → b.WellFormed → a.strictEq b = b.strictEq a) ∧
    (∀ a b : Json, a.WellFormed → b.WellFormed → a.doubles = [] → b.doubles = [] →
      (a.strictEq b = true ↔ a.sorted = b.sorted)) ∧
    ∀ (r : Record) (p : Predicate), r.toJson.WellFormed → p.fields ⊆ r.toObject →
      p.holds r = true := by
  refine ⟨?_, ?_, ?_, ?_⟩
  · intro v wf
    exact Json.strictEq_self wf
  · intro a b wf wf'
    exact Json.strictEq_comm wf wf'
  · intro a b wf wf' noDoubles noDoubles'
    exact Json.strictEq_iff_sorted_eq wf wf' noDoubles noDoubles'
  · intro r p wf subset
    exact Predicate.holds_of_subset wf subset

/-- The least and the greatest integer in two orders, and a record of them. -/
theorem strictEq_refl_symm_exact_extremes :
    let half := Json.number (.float (Float.ofBits 0x3FE0000000000000))
    let least := Json.number (.int (-9223372036854775808))
    let greatest := Json.number (.int 18446744073709551615)
    let a := Json.object [("x", least), ("y", greatest)]
    let b := Json.object [("y", greatest), ("x", least)]
    let r : Record := ⟨7, [("x", least), ("z", half)]⟩
    half.strictEq half = true ∧ a.strictEq b = b.strictEq a ∧
      (a.strictEq b = true ↔ a.sorted = b.sorted) ∧
      Predicate.holds ⟨[("z", half), (idField, RecordId.toJson 7)]⟩ r = true := by
  intro half least greatest a b r
  have wf_half : half.WellFormed := by rfl
  have wf_least : least.WellFormed := ⟨by decide, by decide⟩
  have wf_greatest : greatest.WellFormed := ⟨by decide, by decide⟩
  have wf_a : a.WellFormed := ⟨by decide, wf_least, wf_greatest, trivial⟩
  have wf_b : b.WellFormed := ⟨by decide, wf_greatest, wf_least, trivial⟩
  have wf_r : r.toJson.WellFormed := ⟨by decide, ⟨by decide, by decide⟩, wf_least, wf_half, trivial⟩
  obtain ⟨refl, symm, exact, own⟩ := strictEq_refl_symm_exact
  refine ⟨refl half wf_half, symm a b wf_a wf_b, exact a b wf_a wf_b rfl rfl, own r _ wf_r ?_⟩
  simp [r, Record.toObject]

/-- Two values that equal a third are equal if and only if they have the same integer wherever both
have one. That is so if the third has no double, and if both have no integer beyond `2 ^ 53`. -/
theorem strictEq_trans_iff_integers_agree {a b c : Json} (wf_a : a.WellFormed)
    (wf_b : b.WellFormed) (wf_c : c.WellFormed) (first : a.strictEq b = true)
    (second : b.strictEq c = true) :
    (a.strictEq c = true ↔ a.IntegersAgree c) ∧
    (b.doubles = [] → a.strictEq c = true) ∧
    (a.HasSmallIntegers → c.HasSmallIntegers → a.strictEq c = true) := by
  have agree := Json.strictEq_iff_integersAgree wf_a wf_b wf_c first second
  refine ⟨agree, fun exact_b => agree.2 ?_, fun small_a small_c => agree.2 ?_⟩
  · exact Json.integersAgree_of_no_doubles wf_a wf_b wf_c first second exact_b
  · exact Json.integersAgree_of_small wf_a wf_b wf_c first second small_a small_c

/-- The greatest integer that is safe, through its double. -/
theorem strictEq_trans_at_greatest_small :
    let a := Json.array [.number (.int 9007199254740992)]
    let b := Json.array [.number (.float (Float.ofBits 0x4340000000000000))]
    a.strictEq b = true ∧ b.strictEq a = true ∧ (a.strictEq a = true ↔ a.IntegersAgree a) := by
  intro a b
  have wf_a : a.WellFormed := ⟨⟨by decide, by decide⟩, trivial⟩
  have wf_b : b.WellFormed := ⟨by rfl, trivial⟩
  have first : a.strictEq b = true := by decide +kernel
  have second : b.strictEq a = true := by decide +kernel
  exact ⟨first, second, (strictEq_trans_iff_integers_agree wf_a wf_b wf_a first second).1⟩

/-- A double of `2 ^ 53` equals this integer and the next one, which differ; a record that has it
matches a predicate on either. -/
theorem strictEq_not_transitive :
    let a := Json.number (.int 9007199254740993)
    let b := Json.number (.float (Float.ofBits 0x4340000000000000))
    let c := Json.number (.int 9007199254740992)
    a.WellFormed ∧ b.WellFormed ∧ c.WellFormed ∧
      a.strictEq b = true ∧ b.strictEq c = true ∧ a.strictEq c = false ∧
      Predicate.holds ⟨[("n", a)]⟩ ⟨1, [("n", b)]⟩ = true ∧
      Predicate.holds ⟨[("n", c)]⟩ ⟨1, [("n", b)]⟩ = true := by
  refine ⟨⟨by decide, by decide⟩, by rfl, ⟨by decide, by decide⟩, ?_, ?_, ?_, ?_, ?_⟩ <;>
    decide +kernel

end DocStore
