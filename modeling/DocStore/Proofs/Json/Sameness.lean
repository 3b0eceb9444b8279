-- SUMMARY: Sameness of values is an equivalence.
import DocStore.Proofs.Json.Equality

/-!
# Sameness

Sameness compares values place by place, as strict equality does, but it never takes an integer for a
double. Without that one meeting of different numbers it is an equivalence: reflexive, symmetric and
transitive. It is still coarser than equality. The order of members does not count, and the two zeros
are the same double.
-/

namespace DocStore

/-! ## Numbers -/

namespace Number

theorem same_self {n : Number} (wf : n.WellFormed) : n.same n = true := by
  cases n with
  | int i => exact BEq.rfl
  | float f => exact Double.beq_self_of_isFinite wf

theorem same_comm (a b : Number) : a.same b = b.same a := by
  cases a <;> cases b <;> simp [same, BEq.comm]

theorem same_trans {a b c : Number} (first : a.same b = true) (second : b.same c = true) :
    a.same c = true := by
  cases a <;> cases b <;> simp only [same, Bool.false_eq_true] at first <;>
    cases c <;> simp only [same, Bool.false_eq_true] at second
  · exact BEq.trans first second
  · exact BEq.trans first second

end Number

namespace Json

/-! ## Place by place -/

/-- Whether two nodes are the same. -/
def Node.same : Node → Node → Bool
  | .null, .null => true
  | .bool a, .bool b => a == b
  | .number a, .number b => a.same b
  | .string a, .string b => a == b
  | .array, .array => true
  | .object, .object => true
  | _, _ => false

theorem itemsSame_iff {a b : List Json} :
    itemsSame a b = true ↔ List.Forall₂ (fun v w => v.same w = true) a b := by
  induction a generalizing b with
  | nil => cases b <;> simp [itemsSame]
  | cons v a ih => cases b <;> simp [itemsSame, ih]

theorem membersSame_iff {members others : Object} :
    membersSame members others = true ↔
      ∀ member ∈ members, ∃ w, Assoc.get? member.1 others = some w ∧ member.2.same w = true := by
  induction members with
  | nil => simp [membersSame]
  | cons member members ih =>
    cases found : Assoc.get? member.1 others <;> simp [membersSame, ih, found]

/-- Sameness is decided at each place by itself. -/
theorem descends_same : Descends (fun a b => a.same b = true) (fun m n => m.same n = true) := by
  intro a b wf_a wf_b
  beta_reduce
  cases a <;> cases b
  case array.array a b =>
    rw [forall_part_array, ← itemsSame_iff]
    simp [same, node, Node.same]
  case object.object a b =>
    rw [forall_part_object, Assoc.forall_rel_iff wf_a.1 wf_b.1, ← membersSame_iff]
    simp [same, node, Node.same]
  all_goals simp [same, node, Node.same, part?]

theorem Node.same_self {v : Json} {place : List Key} {n : Node} (wf : v.WellFormed)
    (shown : v.node? place = some n) : n.same n = true := by
  cases n with
  | number n => exact Number.same_self (wf.number_of_node? shown)
  | null | array | object => rfl
  | bool b => exact BEq.rfl
  | string s => exact BEq.rfl

theorem Node.same_comm (m n : Node) : m.same n = n.same m := by
  cases m <;> cases n <;> simp [Node.same, BEq.comm, Number.same_comm]

theorem Node.same_trans {m k n : Node} (first : m.same k = true) (second : k.same n = true) :
    m.same n = true := by
  cases m <;> cases k <;> simp only [Node.same, Bool.false_eq_true] at first <;>
    cases n <;> simp only [Node.same, Bool.false_eq_true] at second
  case number.number.number => exact Number.same_trans first second
  all_goals simp_all [Node.same]

/-! ## Laws -/

/-- A value is the same as itself. -/
theorem same_self {v : Json} (wf : v.WellFormed) : v.same v = true :=
  descends_same.self wf fun _ _ => Node.same_self wf

/-- Sameness of values does not depend on which of them comes first. -/
theorem same_comm {a b : Json} (wf_a : a.WellFormed) (wf_b : b.WellFormed) :
    a.same b = b.same a :=
  Bool.eq_iff_iff.2 (descends_same.comm (fun m n => by rw [Node.same_comm]) wf_a wf_b)

/-- What is the same as the same is the same. -/
theorem same_trans {a b c : Json} (wf_a : a.WellFormed) (wf_b : b.WellFormed) (wf_c : c.WellFormed)
    (first : a.same b = true) (second : b.same c = true) : a.same c = true :=
  descends_same.trans (fun _ _ _ => Node.same_trans) wf_a wf_b wf_c first second

end Json

end DocStore
