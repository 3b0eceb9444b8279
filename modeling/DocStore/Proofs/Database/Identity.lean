-- SUMMARY: A predicate by identifier addresses exactly the records with this identifier.
import DocStore.Proofs.Collection.Selection
import DocStore.Proofs.Database.Interchange
import DocStore.Proofs.Database.Validation

/-!
# Records by identifier

A predicate by identifier is one on a field like any other: it asks for a number under the reserved
name. Since numbers are compared exactly, and every record shows its identifier under this name and
nothing else, it matches the records with the identifier and no others. So selecting, deleting and
updating by identifier act on these records, wherever they stand. A record that was inserted while the
last identifier was not in use is the only one with its identifier, and is found as it was returned.
-/

namespace DocStore

/-! ## Records of a collection -/

theorem Predicate.holds_byId_eq (id : RecordId) :
    (Predicate.byId id).holds = fun r => decide (r.id = id) := by
  funext r
  rw [Bool.eq_iff_iff, holds_byId, decide_eq_true_iff]

namespace Collection

variable {c : Collection} {id : RecordId}

/-- The records with an identifier, in order. -/
def withId (c : Collection) (id : RecordId) : List Record :=
  c.records.filter fun r => r.id = id

def withoutId (c : Collection) (id : RecordId) : Collection :=
  c.withRecords (c.records.filter fun r => r.id ≠ id)

def mergedAt (c : Collection) (id : RecordId) (patch : Object) : Collection :=
  c.withRecords (c.records.map fun r => if r.id = id then r.merge patch else r)

theorem filter_byId (c : Collection) (id : RecordId) :
    (Predicate.byId id).filter c.records = c.withId id := by
  rw [Predicate.filter, Predicate.holds_byId_eq, withId]

/-- What a deletion by identifier removes are the records with that identifier. -/
theorem removeMatching_byId (c : Collection) (id : RecordId) :
    c.removeMatching (.byId id) = ((c.withId id).length, c.withoutId id) := by
  have deletes := c.deletes_removeMatching (.byId id)
  apply Prod.ext
  · rw [deletes.count_eq, select, filter_byId]
  · simp only [removeMatching, Predicate.holds_byId_eq, withoutId, decide_not]

/-- What an update by identifier changes are the records with that identifier. -/
theorem updateMatching_byId (c : Collection) (id : RecordId) (patch : Object) :
    c.updateMatching (.byId id) patch = ((c.withId id).length, c.mergedAt id patch) := by
  simp only [updateMatching, Predicate.holds_byId_eq, List.countP_eq_length_filter, withId, mergedAt,
    decide_eq_true_iff]

/-- A new record is the only one with its identifier, as long as the last one is not in use. -/
theorem withId_insert (room : RecordId.last ∉ c.ids) (policy : IdPolicy) (fields : Object) :
    (c.insert policy fields).2.withId (c.insert policy fields).1.id =
      [(c.insert policy fields).1] := by
  have fresh : (c.insert policy fields).1.id ∉ c.ids := by
    rw [id_insert, allocateId_mem_ids]
    exact room
  have none : c.withId (c.insert policy fields).1.id = [] := by
    rw [withId, List.filter_eq_nil_iff]
    intro r mem same
    exact fresh (List.mem_map.2 ⟨r, mem, of_decide_eq_true same⟩)
  rw [withId] at none
  rw [withId, records_insert, List.filter_append, none]
  simp

end Collection

/-! ## Operations on a catalog -/

namespace Catalog

variable {c : Catalog} {name : String} {collection : Collection}

/-- In a catalog a deletion by identifier is one in the collection that it names. -/
theorem deleteRecords_byId (found : c.collection? name = some collection) (id : RecordId) :
    c.deleteRecords name (some (.byId id)) =
      .ok ((collection.withId id).length, c.withCollection name (collection.withoutId id)) := by
  rw [deleteRecords_eq found, collection.removeMatching_byId]

/-- An update by identifier checks what it merges, and it is refused as a whole or done as a
whole. -/
theorem updateRecords_byId (found : c.collection? name = some collection) (enforce : Bool)
    (id : RecordId) (patch : Object) :
    c.updateRecords enforce name (some (.byId id)) patch =
      (checkMerges enforce name collection.schema patch (collection.withId id)).map fun _ =>
        ((collection.withId id).length, c.withCollection name (collection.mergedAt id patch)) := by
  have notEmpty : ¬(Predicate.byId id).isEmpty = true := nofun
  rw [updateRecords_eq found, if_neg notEmpty, collection.filter_byId, collection.updateMatching_byId]

end Catalog

/-! ## Operations on a database -/

namespace Database

variable {db : Database} {fs fs' : FileSystem} {c : Catalog} {name : String} {collection : Collection}

/-- A selection by identifier gives the records with that identifier, from the file. -/
theorem runOn_select_byId {directory : Place} {file : String} (ready : db.Ready directory file fs c)
    (found : c.collection? name = some collection) (id : RecordId) :
    ∃ fs', (db.select name (some (.byId id))).runOn fs = (.ok (collection.withId id), fs') := by
  obtain ⟨fs', run, _⟩ := ready.runOn_read fun catalog => catalog.select name (some (.byId id))
  rw [Catalog.select_eq found, Collection.select, Collection.filter_byId] at run
  exact ⟨fs', run⟩

/-- A record that was inserted is found by its identifier, as it was returned. -/
theorem runOn_select_of_insert (content : db.file.content fs = .ok c)
    (found : c.collection? name = some collection) (room : RecordId.last ∉ collection.ids)
    {fields : Object} (sound : (Json.object fields).Sound)
    (storable : (Call.insert name fields).Storable db c) {r : Record}
    (inserted : (db.insert name fields).runOn fs = (.ok r, fs')) :
    ∃ fs'', (db.select name (some (.byId r.id))).runOn fs' = (.ok [r], fs'') := by
  obtain ⟨directory, file, next, applied, ready⟩ := ready_after_write content inserted
    fun next applied => storable.decode content sound (congrArg (Call.writing .record) applied)
  obtain ⟨_, required, -, -, rfl, rfl⟩ := Catalog.insertRecord_ok applied
  cases (Catalog.require_eq_ok found).symm.trans required
  obtain ⟨fs'', selected⟩ :=
    runOn_select_byId ready (Catalog.collection?_withCollection ..) _
  rw [Collection.withId_insert room] at selected
  exact ⟨fs'', selected⟩

/-- By an identifier, up to the last one, a database selects the records with this identifier, deletes
exactly them and merges a patch into exactly them, unless a merge is refused, which spares the
database; the count is their number, and all other records stay as they are. And a record that was
inserted while the last identifier was not in use is selected by its identifier, alone and as it was
returned, if the catalog that was written is such as can be read again. -/
theorem byId_addresses_identity (content : db.file.content fs = .ok c)
    (found : c.collection? name = some collection) (unhindered : db.Unhindered fs) (id : RecordId) :
    (∃ fs', (db.select name (some (.byId id))).runOn fs = (.ok (collection.withId id), fs')) ∧
    (∃ fs', (db.delete name (some (.byId id))).runOn fs = (.ok (collection.withId id).length, fs') ∧
      fs'.read db.path =
        .ok ((c.withCollection name (collection.withoutId id)).encode db.file.style)) ∧
    (∀ patch, ∃ fs',
      match Catalog.checkMerges db.options.enforceSchema name collection.schema patch
        (collection.withId id) with
      | .ok _ =>
        (db.update name (some (.byId id)) patch).runOn fs =
            (.ok (collection.withId id).length, fs') ∧
          fs'.read db.path =
            .ok ((c.withCollection name (collection.mergedAt id patch)).encode db.file.style)
      | .error error =>
        (db.update name (some (.byId id)) patch).runOn fs = (.error error, fs') ∧
          db.Spared fs fs') ∧
    ∀ fields r fs', RecordId.last ∉ collection.ids → (Json.object fields).Sound →
      (Call.insert name fields).Storable db c → (db.insert name fields).runOn fs = (.ok r, fs') →
      ∃ fs'', (db.select name (some (.byId r.id))).runOn fs' = (.ok [r], fs'') := by
  obtain ⟨directory, file, ready⟩ := unhindered.ready content
  refine ⟨runOn_select_byId ready found id, ?_, ?_, ?_⟩
  · exact ready.runOn_write_returns (f := fun catalog => catalog.deleteRecords name (some (.byId id)))
      (Catalog.deleteRecords_byId found id)
  · intro patch
    let change := fun catalog : Catalog =>
      catalog.updateRecords db.options.enforceSchema name (some (.byId id)) patch
    have updated := Catalog.updateRecords_byId found db.options.enforceSchema id patch
    cases checked : Catalog.checkMerges db.options.enforceSchema name collection.schema patch
      (collection.withId id) with
    | ok _ =>
      rw [checked] at updated
      exact ready.runOn_write_returns (f := change) updated
    | error error =>
      rw [checked] at updated
      obtain ⟨fs', run, _⟩ := ready.runOn_write_error (f := change) updated
      exact ⟨fs', run, spared_of_write run⟩
  · intro fields r fs' room sound storable inserted
    exact runOn_select_of_insert content found room sound storable inserted

/-- Identifiers that are next to one another and are no doubles any more, one of them used twice. -/
theorem byId_addresses_identity_beyond_doubles :
    let record (id : RecordId) (title : String) : Record := ⟨id, [("title", .string title)]⟩
    let c := Catalog.empty.withCollection "notes" ⟨none,
      some [record 9007199254740993 "a", record 9007199254740992 "b", record 9007199254740993 "c"],
      none, []⟩
    let db := Database.sample
    let fs := FileSystem.holding c
    (∃ fs', (db.select "notes" (some (.byId 9007199254740993))).runOn fs =
      (.ok [record 9007199254740993 "a", record 9007199254740993 "c"], fs')) ∧
    ∃ r fs' fs'', (db.insert "notes" [("title", .string "d")]).runOn fs = (.ok r, fs') ∧
      (db.select "notes" (some (.byId r.id))).runOn fs' = (.ok [r], fs'') := by
  intro record c db fs
  have content : db.file.content fs = .ok c :=
    content_holding (by decide +kernel) (by decide +kernel) (by decide +kernel)
  have found : c.collection? "notes" = some _ := rfl
  have storable : (Call.insert "notes" [("title", .string "d")]).Storable db c := by
    unfold Call.Storable
    decide +kernel
  obtain ⟨selected, -, -, inserted⟩ :=
    byId_addresses_identity content found (unhindered_holding c) 9007199254740993
  obtain ⟨directory, file, ready⟩ := (unhindered_holding c).ready content
  obtain ⟨fs', run, _⟩ := ready.runOn_write_returns (f := fun catalog =>
    catalog.insertRecord db.options.idPolicy db.options.enforceSchema "notes"
      [("title", .string "d")]) rfl
  obtain ⟨fs'', alone⟩ := inserted _ _ fs' (by decide +kernel) (by decide +kernel) storable run
  exact ⟨selected, _, fs', fs'', run, alone⟩

end Database

end DocStore
