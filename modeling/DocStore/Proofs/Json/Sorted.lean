-- SUMMARY: Values up to the order of members: the form in which every object is sorted by name.
import DocStore.Json.Basic
import DocStore.Proofs.NameMap

/-!
# Values up to the order of members

Two values are equal up to the order of the members of their objects, at every depth, if they are
equal once all objects are sorted by name. For objects without repeated names that means: the same
names, with values that are equal up to order.
-/

namespace DocStore

mutual
/-- A value with the members of every object sorted by name. -/
def Json.sorted : Json → Json
  | .array items => .array (itemsSorted items)
  | .object members => .object (NameMap.ofEntries (membersSorted members)).entries
  | value => value

def itemsSorted : List Json → List Json
  | [] => []
  | item :: items => item.sorted :: itemsSorted items

def membersSorted : List (String × Json) → List (String × Json)
  | [] => []
  | (name, value) :: members => (name, value.sorted) :: membersSorted members
end

theorem itemsSorted_eq_map (items : List Json) : itemsSorted items = items.map Json.sorted := by
  induction items with
  | nil => rfl
  | cons item items ih => simp [itemsSorted, ih]

theorem membersSorted_eq_map (members : Object) :
    membersSorted members = members.map fun member => (member.1, member.2.sorted) := by
  induction members with
  | nil => rfl
  | cons member members ih => simp [membersSorted, ih]

/-- What the sorted form of an object without repeated names has under a name. -/
theorem get?_membersSorted {members : Object} (nodup : (Assoc.keys members).Nodup) (name : String) :
    (NameMap.ofEntries (membersSorted members)).get? name =
      (Assoc.get? name members).map Json.sorted := by
  have distinct : (Assoc.keys (membersSorted members)).Nodup := by
    rw [membersSorted_eq_map, Assoc.keys_map]
    exact nodup
  rw [NameMap.get?_ofEntries, Assoc.ofEntries_eq_self distinct, membersSorted_eq_map,
    Assoc.get?_map]

/-- Objects are equal up to order if they have equal values, up to order, under the same names. -/
theorem Json.sorted_object_eq_iff {a b : Object} (nodup_a : (Assoc.keys a).Nodup)
    (nodup_b : (Assoc.keys b).Nodup) :
    (Json.object a).sorted = (Json.object b).sorted ↔
      ∀ name, (Assoc.get? name a).map Json.sorted = (Assoc.get? name b).map Json.sorted := by
  simp only [Json.sorted, Json.object.injEq, ← get?_membersSorted nodup_a,
    ← get?_membersSorted nodup_b]
  constructor
  · intro same name
    rw [NameMap.ext same]
  · intro same
    rw [NameMap.ext_get? same]

theorem Json.sorted_array_eq_iff {a b : List Json} :
    (Json.array a).sorted = (Json.array b).sorted ↔ a.map Json.sorted = b.map Json.sorted := by
  simp only [Json.sorted, itemsSorted_eq_map, Json.array.injEq]

end DocStore
