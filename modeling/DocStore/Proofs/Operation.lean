-- SUMMARY: What the operations on catalogs do when they succeed, and that the result is well-formed.
import DocStore.Proofs.Catalog.WellFormed
import DocStore.Proofs.Result

/-!
# Operations on catalogs

An operation on a collection that is there is a sequence of checks and a change of the collection. So
one that succeeds found its collection, passed its checks and put the changed collection in place of
the old one. Given sound fields it keeps the catalog well-formed.
-/

namespace DocStore

namespace Catalog

variable {c next : Catalog} {enforce : Bool} {name : String}

/-! ## Operations on a collection that is there -/

@[simp] theorem collection?_withCollection (c : Catalog) (name : String) (collection : Collection) :
    (c.withCollection name collection).collection? name = some collection :=
  NameMap.get?_insert_self ..

theorem withCollection_withCollection (c : Catalog) (name : String) (collection more : Collection) :
    (c.withCollection name collection).withCollection name more = c.withCollection name more := by
  simp only [withCollection, NameMap.insert_insert]

theorem collection?_of_require {collection : Collection} (h : c.require name = .ok collection) :
    c.collection? name = some collection :=
  NameMap.get?_eq_some_iff.2 (require_ok h)

theorem require_eq_error {error : Error} :
    c.require name = .error error ↔ c.collection? name = none ∧ error = .collectionNotFound name := by
  unfold require
  cases c.collection? name with
  | none => simp [eq_comm]
  | some collection => simp

section Found

variable {collection : Collection} (found : c.collection? name = some collection)

include found

theorem require_eq_ok : c.require name = .ok collection := by
  simp only [require, found]

theorem select_eq (p : Option Predicate) : c.select name p = .ok (collection.select p) := by
  simp only [select, require_eq_ok found, ok_bind, pure_eq_ok]

theorem deleteRecords_eq (p : Predicate) :
    c.deleteRecords name (some p) =
      .ok ((collection.removeMatching p).1, c.withCollection name (collection.removeMatching p).2) := by
  simp only [deleteRecords, require_eq_ok found, ok_bind, pure_eq_ok]

theorem updateRecords_eq (p : Predicate) (patch : Object) :
    c.updateRecords enforce name (some p) patch =
      if p.isEmpty then .error .missingPredicate
      else (checkMerges enforce name collection.schema patch (p.filter collection.records)).map
        fun _ => ((collection.updateMatching p patch).1,
          c.withCollection name (collection.updateMatching p patch).2) := by
  simp only [updateRecords, require_eq_ok found, ok_bind]
  cases p.isEmpty with
  | true => rfl
  | false =>
    cases checkMerges enforce name collection.schema patch (p.filter collection.records) <;> rfl

end Found

theorem checkMerges_eq_ok {schema : Option Schema} {patch : Object} {records : List Record} :
    checkMerges enforce name schema patch records = .ok () ↔
      ∀ r ∈ records, checkSchema enforce name schema (r.merge patch).toObject = .ok () := by
  induction records with
  | nil => simp [checkMerges]
  | cons r records ih =>
    rw [checkMerges, bind_eq_ok, List.forall_mem_cons, ← ih]
    constructor
    · rintro ⟨_, first, rest⟩
      exact ⟨first, rest⟩
    · rintro ⟨first, rest⟩
      exact ⟨(), first, rest⟩

/-! ## Operations that succeed -/

theorem insertRecord_ok {policy : IdPolicy} {fields : Object} {r : Record}
    (h : c.insertRecord policy enforce name fields = .ok (r, next)) :
    ∃ collection, c.require name = .ok collection ∧
      checkKinds (Assoc.erase idField fields) = .ok () ∧
      checkSchema enforce name collection.schema (Assoc.erase idField fields) = .ok () ∧
      r = (collection.insert policy (Assoc.erase idField fields)).1 ∧
      next = c.withCollection name (collection.insert policy (Assoc.erase idField fields)).2 := by
  unfold insertRecord at h
  obtain ⟨collection, found, h⟩ := bind_eq_ok.1 h
  obtain ⟨_, kinds, h⟩ := bind_eq_ok.1 h
  obtain ⟨_, schema, h⟩ := bind_eq_ok.1 h
  cases h
  exact ⟨collection, found, kinds, schema, rfl, rfl⟩

theorem deleteRecords_ok {p : Option Predicate} {count : Nat}
    (h : c.deleteRecords name p = .ok (count, next)) :
    ∃ collection, c.require name = .ok collection ∧
      (count, next) = match p with
        | some p => ((collection.removeMatching p).1, c.withCollection name (collection.removeMatching p).2)
        | none => (collection.clear.1, c.withCollection name collection.clear.2) := by
  unfold deleteRecords at h
  obtain ⟨collection, found, h⟩ := bind_eq_ok.1 h
  refine ⟨collection, found, ?_⟩
  cases p <;> cases h <;> rfl

theorem updateRecords_ok {p : Option Predicate} {patch : Object} {count : Nat}
    (h : c.updateRecords enforce name p patch = .ok (count, next)) :
    ∃ collection q, c.require name = .ok collection ∧ p = some q ∧ q.isEmpty = false ∧
      checkMerges enforce name collection.schema patch (q.filter collection.records) = .ok () ∧
      count = (collection.updateMatching q patch).1 ∧
      next = c.withCollection name (collection.updateMatching q patch).2 := by
  unfold updateRecords at h
  obtain ⟨collection, found, h⟩ := bind_eq_ok.1 h
  cases p with
  | none => cases h
  | some q =>
    cases empty : q.isEmpty with
    | true => simp [empty] at h
    | false =>
      simp only [empty] at h
      obtain ⟨_, merges, h⟩ := bind_eq_ok.1 h
      cases h
      exact ⟨collection, q, found, rfl, empty, merges, rfl, rfl⟩

/-! ## Well-formedness -/

theorem WellFormed.require (wf : c.WellFormed) {collection : Collection}
    (h : c.require name = .ok collection) : collection.WellFormed :=
  wf.documents _ (require_ok h)

theorem WellFormed.createCollection (wf : c.WellFormed) (name : String) (schema : Schema) :
    (c.createCollection name schema).WellFormed :=
  wf.withCollection (Collection.wellFormed_new schema)

theorem WellFormed.insertRecord (wf : c.WellFormed) {policy : IdPolicy} {fields : Object} {r : Record}
    (sound : (Json.object fields).Sound)
    (h : c.insertRecord policy enforce name fields = .ok (r, next)) : next.WellFormed := by
  obtain ⟨collection, found, _, _, _, rfl⟩ := insertRecord_ok h
  refine wf.withCollection ((wf.require found).insert policy fun field mem => ?_)
  exact (Json.sound_object.1 sound).2 field (List.mem_filter.1 mem).1

theorem WellFormed.deleteRecords (wf : c.WellFormed) {p : Option Predicate} {count : Nat}
    (h : c.deleteRecords name p = .ok (count, next)) : next.WellFormed := by
  obtain ⟨collection, found, result⟩ := deleteRecords_ok h
  cases p with
  | none =>
    cases result
    exact wf.withCollection (wf.require found).clear
  | some p =>
    cases result
    exact wf.withCollection ((wf.require found).removeMatching p)

theorem WellFormed.updateRecords (wf : c.WellFormed) {p : Option Predicate} {patch : Object}
    {count : Nat} (sound : (Json.object patch).Sound)
    (h : c.updateRecords enforce name p patch = .ok (count, next)) : next.WellFormed := by
  obtain ⟨collection, q, found, _, _, _, _, rfl⟩ := updateRecords_ok h
  exact wf.withCollection
    ((wf.require found).updateMatching q (Json.sound_object.1 sound).2)

end Catalog

end DocStore
