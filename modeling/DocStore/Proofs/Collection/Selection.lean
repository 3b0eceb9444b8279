-- SUMMARY: Selecting, deleting and updating split the records of a collection in the same way.
import DocStore.Database
import DocStore.Proofs.Catalog.WellFormed
import DocStore.Proofs.Collection.Change
import DocStore.Proofs.Operation
import Mathlib.Data.List.Forall2

/-!
# Selection

A predicate splits the records of a collection into those that match and the others, both in their
order. Selecting gives the first part, deleting leaves the second, and updating gives every record of
the first part its merge with the patch and leaves those of the second where and as they are. What is
matched is the record before the update, so a patch may change the very fields that were asked for.

All three count the first part, and none of them touches anything of the collection but its records.
-/

namespace DocStore

/-! ## Splitting records -/

namespace Predicate

variable {p : Predicate} {records matching others : List Record}

/-- Whether records are split, in their order, into those that match and the others. -/
inductive Splits (p : Predicate) : (records matching others : List Record) → Prop where
  | nil : Splits p [] [] []
  | matching {r : Record} {records matching others : List Record} :
      p.holds r = true → Splits p records matching others →
      Splits p (r :: records) (r :: matching) others
  | other {r : Record} {records matching others : List Record} :
      p.holds r = false → Splits p records matching others →
      Splits p (r :: records) matching (r :: others)

/-- A predicate splits records into those that match and the others, each in their order. -/
theorem splits_filter (p : Predicate) (records : List Record) :
    p.Splits records (p.filter records) (records.filter fun r => !p.holds r) := by
  induction records with
  | nil => exact .nil
  | cons r records ih =>
    cases holds : p.holds r with
    | true =>
      simp only [filter, List.filter_cons, holds, Bool.not_true, Bool.false_eq_true, if_true,
        if_false]
      exact .matching holds ih
    | false =>
      simp only [filter, List.filter_cons, holds, Bool.not_false, Bool.false_eq_true, if_true,
        if_false]
      exact .other holds ih

theorem Splits.length_eq (splits : p.Splits records matching others) :
    records.length = matching.length + others.length := by
  induction splits with
  | nil => rfl
  | matching _ _ ih =>
    simp only [List.length_cons, ih]
    omega
  | other _ _ ih =>
    simp only [List.length_cons, ih]
    omega

/-- What a record becomes by an update: its merge with the patch if it matched, else itself. -/
def Updates (p : Predicate) (patch : Object) (old new : Record) : Prop :=
  (p.holds old = true → new = old.merge patch) ∧ (p.holds old = false → new = old)

/-- An update merges its patch into a record that matches and leaves any other as it is. -/
theorem updates_merge (p : Predicate) (patch : Object) (r : Record) :
    p.Updates patch r (if p.holds r then r.merge patch else r) := by
  constructor
  · intro holds
    rw [if_pos holds]
  · intro fails
    simp only [fails, Bool.false_eq_true, if_false]

end Predicate

/-! ## Operations on a collection -/

namespace Collection

/-- All of a collection but its records. -/
def header (c : Collection) : Option Schema × Option RecordId × Object :=
  (c.schema, c.nextId, c.extra)

theorem records_withRecords (c : Collection) (records : List Record) :
    (c.withRecords records).records = records := rfl

/-- Whether a deletion, with its count and what it leaves, took exactly what `p` selects. -/
structure Deletes (c : Collection) (p : Predicate) (count : Nat) (left : Collection) : Prop where
  splits : p.Splits c.records (c.select (some p)) left.records
  count_eq : count = (c.select (some p)).length
  select_self : left.select (some p) = []
  /-- Any predicate selects what it selected before, less what was deleted. -/
  select_eq : ∀ q, left.select (some q) = (c.select (some q)).filter fun r => !p.holds r
  header_eq : left.header = c.header

/-- A deletion keeps the records that do not match, in their order. -/
theorem deletes_removeMatching (c : Collection) (p : Predicate) :
    c.Deletes p (c.removeMatching p).1 (c.removeMatching p).2 := by
  have splits : p.Splits c.records (c.select (some p)) (c.removeMatching p).2.records :=
    p.splits_filter c.records
  have select_eq : ∀ q, (c.removeMatching p).2.select (some q) =
      (c.select (some q)).filter fun r => !p.holds r := fun q => List.filter_comm _ _ _
  refine ⟨splits, ?_, ?_, select_eq, rfl⟩
  · have lengths := splits.length_eq
    change c.records.length - (c.removeMatching p).2.records.length = _
    omega
  · rw [select_eq, List.filter_eq_nil_iff]
    intro r mem
    simpa using (List.mem_filter.1 mem).2

/-- Whether an update, with its count and what it leaves, merged the patch into exactly what `p`
selects. -/
structure Merges (c : Collection) (p : Predicate) (patch : Object) (count : Nat)
    (left : Collection) : Prop where
  updates : List.Forall₂ (p.Updates patch) c.records left.records
  count_eq : count = (c.select (some p)).length
  ids_eq : left.ids = c.ids
  header_eq : left.header = c.header

/-- An update keeps the place of every record. -/
theorem merges_updateMatching (c : Collection) (p : Predicate) (patch : Object) :
    c.Merges p patch (c.updateMatching p patch).1 (c.updateMatching p patch).2 := by
  refine ⟨?_, List.countP_eq_length_filter, c.ids_update p patch, rfl⟩
  rw [updateMatching, records_withRecords, List.forall₂_map_right_iff, List.forall₂_same]
  exact fun r _ => p.updates_merge patch r

/-- Without a predicate and with the empty one a deletion does the same. -/
theorem removeMatching_everything (c : Collection) : c.removeMatching .everything = c.clear := by
  have none : c.records.filter (fun r => !Predicate.everything.holds r) = [] :=
    List.filter_eq_nil_iff.2 fun _ _ => by simp [Predicate.everything, Predicate.holds]
  simp [removeMatching, clear, none]

/-- The predicate that matches every record selects what no predicate selects. -/
theorem select_everything (c : Collection) : c.select (some .everything) = c.select none :=
  List.filter_eq_self.2 fun _ _ => rfl

end Collection

/-! ## Operations on a database -/

namespace Catalog

theorem select_everything (c : Catalog) (name : String) :
    c.select name (some .everything) = c.select name none := by
  simp only [select, Collection.select_everything]

theorem deleteRecords_everything (c : Catalog) (name : String) :
    c.deleteRecords name (some .everything) = c.deleteRecords name none := by
  simp only [deleteRecords, Collection.removeMatching_everything]

variable {c next : Catalog} {name : String} {p : Predicate} {count : Nat}

/-- A deletion in a catalog is a deletion in one of its collections. -/
theorem deletes_of_deleteRecords (h : c.deleteRecords name (some p) = .ok (count, next)) :
    ∃ old new, c.collection? name = some old ∧ next = c.withCollection name new ∧
      old.Deletes p count new := by
  obtain ⟨old, found, result⟩ := deleteRecords_ok h
  cases result
  exact ⟨old, _, collection?_of_require found, rfl, old.deletes_removeMatching p⟩

/-- An update in a catalog is an update in one of its collections. -/
theorem merges_of_updateRecords {enforce : Bool} {patch : Object}
    (h : c.updateRecords enforce name (some p) patch = .ok (count, next)) :
    ∃ old new, c.collection? name = some old ∧ next = c.withCollection name new ∧
      old.Merges p patch count new := by
  obtain ⟨old, q, found, same, -, -, rfl, rfl⟩ := updateRecords_ok h
  cases same
  exact ⟨old, _, collection?_of_require found, rfl, old.merges_updateMatching p patch⟩

end Catalog

/-- Deleting and updating act on exactly the records that are selected, in a collection and in one
of a database, where deleting and selecting without a predicate are the same computations as with
the empty one. -/
theorem delete_and_update_what_is_selected :
    (∀ (c : Collection) (p : Predicate),
      c.Deletes p (c.removeMatching p).1 (c.removeMatching p).2) ∧
    (∀ (c : Collection) (p : Predicate) (patch : Object),
      c.Merges p patch (c.updateMatching p patch).1 (c.updateMatching p patch).2) ∧
    (∀ (db : Database) (name : String),
      db.select name none = db.select name (some .everything) ∧
      db.delete name none = db.delete name (some .everything)) ∧
    (∀ (c next : Catalog) (name : String) (p : Predicate) (count : Nat),
      c.deleteRecords name (some p) = .ok (count, next) →
      ∃ old new, c.collection? name = some old ∧ next = c.withCollection name new ∧
        old.Deletes p count new) ∧
    ∀ (c next : Catalog) (enforce : Bool) (name : String) (p : Predicate) (patch : Object)
      (count : Nat), c.updateRecords enforce name (some p) patch = .ok (count, next) →
      ∃ old new, c.collection? name = some old ∧ next = c.withCollection name new ∧
        old.Merges p patch count new := by
  refine ⟨Collection.deletes_removeMatching, Collection.merges_updateMatching, ?_, ?_, ?_⟩
  · intro db name
    simp only [Database.select, Database.delete, Catalog.select_everything,
      Catalog.deleteRecords_everything, and_self]
  · intro c next name p count deleted
    exact Catalog.deletes_of_deleteRecords deleted
  · intro c next enforce name p patch count updated
    exact Catalog.merges_of_updateRecords updated

/-- Two of three records match, of which two have the same identifier, and the patch changes the
field that is asked for. -/
theorem delete_and_update_two_of_three :
    let record (id : RecordId) (n : Int) : Record := ⟨id, [("a", .number (.int n))]⟩
    let c := Catalog.empty.withCollection "t"
      ⟨none, some [record 1 1, record 1 2, record 2 1], some 9, [("k", .bool true)]⟩
    let p : Predicate := ⟨[("a", .number (.int 1))]⟩
    let patch : Object := [("a", .number (.int 2))]
    (∃ next old new, c.deleteRecords "t" (some p) = .ok (2, next) ∧ c.collection? "t" = some old ∧
      next = c.withCollection "t" new ∧ old.Deletes p 2 new) ∧
    ∃ next old new, c.updateRecords true "t" (some p) patch = .ok (2, next) ∧
      c.collection? "t" = some old ∧ next = c.withCollection "t" new ∧ old.Merges p patch 2 new := by
  intro record c p patch
  obtain ⟨-, -, -, delete, update⟩ := delete_and_update_what_is_selected
  obtain ⟨old, new, found, next, deletes⟩ := delete c _ "t" p 2 rfl
  obtain ⟨old', new', found', next', merges⟩ := update c _ true "t" p patch 2 rfl
  exact ⟨⟨_, old, new, rfl, found, next, deletes⟩, ⟨_, old', new', rfl, found', next', merges⟩⟩

end DocStore
