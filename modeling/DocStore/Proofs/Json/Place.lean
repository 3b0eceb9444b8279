-- SUMMARY: Values as trees: what stands at each place, and relations between values that hold place by place.
import DocStore.Proofs.Json.Sorted
import DocStore.Proofs.Json.Value
import Mathlib.Data.List.Forall2

/-!
# The places of a value

A place leads from a value to one of its parts: an index for each array and a name for each object on
the way. At its place a part shows a node, which is the part without what it holds.

A relation between values that compares their nodes and then their parts, key by key, compares the
nodes at every place. Equality up to the order of members is such a relation: values are equal up to
order if they show the same nodes at the same places.
-/

namespace DocStore

/-! ## Optional parts -/

section Rel

variable {α β : Type} {r s : α → β → Prop} {x : Option α} {y : Option β}

theorem rel_none_iff : Option.Rel r none y ↔ y = none := by
  cases y <;> simp

theorem rel_some_iff {v : α} : Option.Rel r (some v) y ↔ ∃ w, y = some w ∧ r v w := by
  cases y <;> simp

theorem rel_swap : Option.Rel r x y ↔ Option.Rel (fun w v => r v w) y x := by
  cases x <;> cases y <;> simp

theorem rel_congr (same : ∀ v w, x = some v → y = some w → (r v w ↔ s v w)) :
    Option.Rel r x y ↔ Option.Rel s x y := by
  cases x with
  | none => rw [rel_none_iff, rel_none_iff]
  | some v =>
    cases y with
    | none => simp
    | some w => simpa using same v w rfl rfl

theorem rel_eq_iff {x y : Option α} : Option.Rel Eq x y ↔ x = y := by
  cases x <;> cases y <;> simp

theorem rel_map_eq_iff {γ : Type} {f : α → γ} {g : β → γ} :
    Option.Rel (fun v w => f v = g w) x y ↔ x.map f = y.map g := by
  cases x <;> cases y <;> simp

theorem rel_trans {γ : Type} {s : β → γ → Prop} {t : α → γ → Prop} {z : Option γ}
    (trans : ∀ u v w, r u v → s v w → t u w) (first : Option.Rel r x y) (second : Option.Rel s y z) :
    Option.Rel t x z := by
  cases first with
  | none =>
    rw [rel_none_iff] at second
    rw [second]
    exact .none
  | some related =>
    obtain ⟨w, rfl, more⟩ := rel_some_iff.1 second
    exact .some (trans _ _ _ related more)

/-- Lists match item by item if they do at every index. -/
theorem forall_rel_getElem? {a : List α} {b : List β} :
    (∀ i : Nat, Option.Rel r a[i]? b[i]?) ↔ List.Forall₂ r a b := by
  induction a generalizing b with
  | nil =>
    cases b with
    | nil => simp
    | cons w b => exact iff_of_false (fun h => by simpa using h 0) nofun
  | cons v a ih =>
    cases b with
    | nil => exact iff_of_false (fun h => by simpa using h 0) nofun
    | cons w b =>
      rw [← Nat.and_forall_add_one, List.forall₂_cons, ← ih]
      simp

end Rel

namespace Json

/-! ## Nodes and parts -/

/-- A value without what it holds. -/
inductive Node where
  | null
  | bool (b : Bool)
  | number (n : Number)
  | string (s : String)
  | array
  | object

/-- What an array or an object holds a part under. -/
inductive Key where
  | index (i : Nat)
  | name (name : String)

/-- The node of a value. -/
def node : Json → Node
  | .null => .null
  | .bool b => .bool b
  | .number n => .number n
  | .string s => .string s
  | .array _ => .array
  | .object _ => .object

/-- The part of a value that it holds under a key. -/
def part? : Json → Key → Option Json
  | .array items, .index i => items[i]?
  | .object members, .name name => Assoc.get? name members
  | _, _ => none

/-- The node at a place of a value. -/
def node? : Json → List Key → Option Node
  | v, [] => some v.node
  | v, key :: place => (v.part? key).bind fun part => part.node? place

@[simp] theorem node?_nil (v : Json) : v.node? [] = some v.node := rfl

theorem node?_cons (v : Json) (key : Key) (place : List Key) :
    v.node? (key :: place) = (v.part? key).bind fun part => part.node? place := rfl

theorem node?_singleton_eq_none_iff {v : Json} {key : Key} :
    v.node? [key] = none ↔ v.part? key = none := by
  cases part : v.part? key <;> simp [node?_cons, part]

/-- What a value holds is an item or the value of a member. -/
theorem mem_of_part? {v part : Json} {key : Key} (held : v.part? key = some part) :
    (∃ items, v = .array items ∧ part ∈ items) ∨
      ∃ members name, v = .object members ∧ (name, part) ∈ members := by
  cases v with
  | array items =>
    cases key with
    | index i => exact .inl ⟨items, rfl, List.mem_of_getElem? held⟩
    | name name => cases held
  | object members =>
    cases key with
    | index i => cases held
    | name name => exact .inr ⟨members, name, rfl, Assoc.mem_of_get? held⟩
  | null | bool | number | string => cases held

/-- What a value holds is smaller than the value. -/
theorem sizeOf_part_lt {v part : Json} {key : Key} (held : v.part? key = some part) :
    sizeOf part < sizeOf v := by
  obtain ⟨items, rfl, mem⟩ | ⟨members, name, rfl, mem⟩ := mem_of_part? held
  · have smaller := List.sizeOf_lt_of_mem mem
    simp only [Json.array.sizeOf_spec]
    omega
  · have smaller := List.sizeOf_lt_of_mem mem
    simp only [Json.object.sizeOf_spec, Prod.mk.sizeOf_spec] at smaller ⊢
    omega

/-- Induction on a value where the parts come before the whole. -/
@[elab_as_elim]
theorem part_induction {motive : Json → Prop}
    (whole : ∀ v, (∀ key part, v.part? key = some part → motive part) → motive v) (v : Json) :
    motive v :=
  whole v fun _ part _ => part_induction whole part
termination_by sizeOf v
decreasing_by exact sizeOf_part_lt ‹_›

/-! ## What passes to the parts -/

/-- A property that passes from a value to its parts is one of the part at every place. -/
theorem exists_of_node? {motive : Json → Prop}
    (passes : ∀ v key part, motive v → v.part? key = some part → motive part) {v : Json}
    {place : List Key} {n : Node} (h : motive v) (shown : v.node? place = some n) :
    ∃ part, motive part ∧ part.node = n := by
  induction place generalizing v with
  | nil => exact ⟨v, h, Option.some.inj shown⟩
  | cons key place ih =>
    obtain ⟨part, held, there⟩ := Option.bind_eq_some_iff.1 shown
    exact ih (passes v key part h held) there

theorem eq_of_node_eq_number {v : Json} {n : Number} (h : v.node = .number n) : v = .number n := by
  cases v <;> cases h
  rfl

theorem itemsWellFormed_iff {items : List Json} :
    itemsWellFormed items ↔ ∀ item ∈ items, item.WellFormed := by
  induction items with
  | nil => simp [itemsWellFormed]
  | cons item items ih => simp [itemsWellFormed, ih]

theorem membersWellFormed_iff {members : Object} :
    membersWellFormed members ↔ ∀ member ∈ members, member.2.WellFormed := by
  induction members with
  | nil => simp [membersWellFormed]
  | cons member members ih => simp [membersWellFormed, ih]

theorem WellFormed.part {v part : Json} {key : Key} (h : v.WellFormed)
    (held : v.part? key = some part) : part.WellFormed := by
  obtain ⟨items, rfl, mem⟩ | ⟨members, name, rfl, mem⟩ := mem_of_part? held
  · exact itemsWellFormed_iff.1 h part mem
  · exact membersWellFormed_iff.1 h.2 (name, part) mem

theorem WellFormed.get? {members : Object} {name : String} {value : Json}
    (h : (Json.object members).WellFormed) (held : Assoc.get? name members = some value) :
    value.WellFormed := by
  have there : (Json.object members).part? (.name name) = some value := held
  exact h.part there

/-- The numbers that stand in a well-formed value are well-formed. -/
theorem WellFormed.number_of_node? {v : Json} {place : List Key} {n : Number} (h : v.WellFormed)
    (shown : v.node? place = some (.number n)) : n.WellFormed := by
  obtain ⟨part, wf, node⟩ := exists_of_node? (fun _ _ _ => WellFormed.part) h shown
  rw [eq_of_node_eq_number node] at wf
  exact wf

theorem doubles_part {v part : Json} {key : Key} (held : v.part? key = some part) :
    part.doubles ⊆ v.doubles := by
  intro f mem
  obtain ⟨items, rfl, there⟩ | ⟨members, name, rfl, there⟩ := mem_of_part? held
  · exact mem_itemsDoubles.2 ⟨part, there, mem⟩
  · exact mem_membersDoubles.2 ⟨(name, part), there, mem⟩

theorem mem_doubles_of_node? {v : Json} {place : List Key} {f : Float}
    (shown : v.node? place = some (.number (.float f))) : f ∈ v.doubles := by
  obtain ⟨part, inside, node⟩ := exists_of_node? (motive := fun part => part.doubles ⊆ v.doubles)
    (fun _ _ _ inside held => List.Subset.trans (doubles_part held) inside) (List.Subset.refl _) shown
  rw [eq_of_node_eq_number node] at inside
  exact inside (List.mem_singleton_self f)

/-! ## Relations place by place -/

/-- Whether a relation between well-formed values compares their nodes and then their parts. -/
def Descends (relation : Json → Json → Prop) (nodes : Node → Node → Prop) : Prop :=
  ∀ {a b : Json}, a.WellFormed → b.WellFormed →
    (relation a b ↔
      nodes a.node b.node ∧ ∀ key, Option.Rel relation (a.part? key) (b.part? key))

/-- A relation that descends compares the nodes at every place. -/
theorem Descends.iff_forall_place {relation : Json → Json → Prop} {nodes : Node → Node → Prop}
    (descends : Descends relation nodes) {a b : Json} (wf_a : a.WellFormed) (wf_b : b.WellFormed) :
    relation a b ↔ ∀ place, Option.Rel nodes (a.node? place) (b.node? place) := by
  constructor
  · intro related place
    induction place generalizing a b with
    | nil => simpa using ((descends wf_a wf_b).1 related).1
    | cons key place ih =>
      have parts := ((descends wf_a wf_b).1 related).2 key
      rw [node?_cons, node?_cons]
      cases here : a.part? key with
      | none =>
        rw [here, rel_none_iff] at parts
        rw [parts]
        exact .none
      | some v =>
        rw [here, rel_some_iff] at parts
        obtain ⟨w, there, inside⟩ := parts
        rw [there]
        exact ih (wf_a.part here) (wf_b.part there) inside
  · intro shown
    induction a using part_induction generalizing b with
    | whole a ih =>
      refine (descends wf_a wf_b).2 ⟨by simpa using shown [], fun key => ?_⟩
      have atKey := shown [key]
      cases here : a.part? key with
      | none =>
        rw [node?_singleton_eq_none_iff.2 here, rel_none_iff, node?_singleton_eq_none_iff] at atKey
        rw [atKey]
        exact .none
      | some v =>
        cases there : b.part? key with
        | none => simp [node?_cons, here, there] at atKey
        | some w =>
          refine .some (ih key v here (wf_a.part here) (wf_b.part there) fun place => ?_)
          simpa [node?_cons, here, there] using shown (key :: place)

/-- What holds between the nodes of every value and of the value itself holds between the two. -/
theorem Descends.self {relation : Json → Json → Prop} {nodes : Node → Node → Prop}
    (descends : Descends relation nodes) {v : Json} (wf : v.WellFormed)
    (self : ∀ place n, v.node? place = some n → nodes n n) : relation v v := by
  rw [descends.iff_forall_place wf wf]
  intro place
  cases shown : v.node? place with
  | none => exact .none
  | some n => exact .some (self place n shown)

/-- A relation that is decided place by place is symmetric if it is so at each place. -/
theorem Descends.comm {relation : Json → Json → Prop} {nodes : Node → Node → Prop}
    (descends : Descends relation nodes) (swap : ∀ m n, nodes m n ↔ nodes n m) {a b : Json}
    (wf_a : a.WellFormed) (wf_b : b.WellFormed) : relation a b ↔ relation b a := by
  rw [descends.iff_forall_place wf_a wf_b, descends.iff_forall_place wf_b wf_a]
  refine forall_congr' fun place => ?_
  rw [rel_swap]
  simp only [swap]

/-- A relation that is decided place by place is transitive if it is so at each place. -/
theorem Descends.trans {relation : Json → Json → Prop} {nodes : Node → Node → Prop}
    (descends : Descends relation nodes) (trans : ∀ m k n, nodes m k → nodes k n → nodes m n)
    {a b c : Json} (wf_a : a.WellFormed) (wf_b : b.WellFormed) (wf_c : c.WellFormed)
    (first : relation a b) (second : relation b c) : relation a c := by
  rw [descends.iff_forall_place wf_a wf_c]
  intro place
  have left := (descends.iff_forall_place wf_a wf_b).1 first place
  have right := (descends.iff_forall_place wf_b wf_c).1 second place
  exact rel_trans trans left right

theorem forall_part_array {relation : Json → Json → Prop} {a b : List Json} :
    (∀ key, Option.Rel relation ((Json.array a).part? key) ((Json.array b).part? key)) ↔
      List.Forall₂ relation a b := by
  rw [← forall_rel_getElem?]
  refine ⟨fun h i => h (.index i), fun h key => ?_⟩
  cases key with
  | index i => exact h i
  | name name => exact .none

theorem forall_part_object {relation : Json → Json → Prop} {a b : Object} :
    (∀ key, Option.Rel relation ((Json.object a).part? key) ((Json.object b).part? key)) ↔
      ∀ name, Option.Rel relation (Assoc.get? name a) (Assoc.get? name b) := by
  refine ⟨fun h name => h (.name name), fun h key => ?_⟩
  cases key with
  | index i => exact .none
  | name name => exact h name

theorem descends_sorted : Descends (fun a b => a.sorted = b.sorted) Eq := by
  intro a b wf_a wf_b
  beta_reduce
  cases a <;> cases b
  case array.array a b =>
    rw [sorted_array_eq_iff, forall_part_array, ← List.forall₂_eq_eq_eq, List.forall₂_map_left_iff,
      List.forall₂_map_right_iff]
    simp only [node, true_and]
  case object.object a b =>
    rw [sorted_object_eq_iff wf_a.1 wf_b.1, forall_part_object]
    simp only [rel_map_eq_iff, node, true_and]
  all_goals simp [sorted, node, part?]

/-- Values are equal up to the order of members if they show the same nodes at the same places. -/
theorem sorted_eq_iff {a b : Json} (wf_a : a.WellFormed) (wf_b : b.WellFormed) :
    a.sorted = b.sorted ↔ ∀ place, a.node? place = b.node? place := by
  rw [descends_sorted.iff_forall_place wf_a wf_b]
  exact forall_congr' fun place => rel_eq_iff

end Json

end DocStore
