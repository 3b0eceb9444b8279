-- SUMMARY: Updates of different records can change places, and an update that is repeated changes nothing.
import DocStore.Proofs.Database.Interchange
import DocStore.Proofs.Record.Merge

/-!
# Updates that do not disturb one another

An update that gives values to fields which a predicate does not ask for leaves unchanged which
records the predicate matches. So two such updates that match different records can change places:
each finds the records that it would find by itself, as they are, and a check of their merges gives
the same. And an update that does not change the fields by which it finds its records finds them
again, and merging the same patch into them once more changes nothing.
-/

namespace DocStore

/-! ## Predicates and patches -/

namespace Predicate

variable {p q : Predicate} {a b patch : Object} {r : Record} {records : List Record}

/-- Whether a predicate asks for no field that a patch gives a value. The identifier, which no patch
changes, does not count. -/
def Ignores (p : Predicate) (patch : Object) : Prop :=
  ∀ name ∈ Assoc.keys patch, name ≠ idField → name ∉ Assoc.keys p.fields

instance (p : Predicate) (patch : Object) : Decidable (p.Ignores patch) :=
  inferInstanceAs (Decidable (∀ _ ∈ _, _))

/-- A patch that a predicate ignores does not change whether a record matches. -/
theorem holds_merge (ignores : p.Ignores patch) (nodup : (Assoc.keys patch).Nodup) (r : Record) :
    p.holds (r.merge patch) = p.holds r := by
  rw [Bool.eq_iff_iff, holds, holds, List.all_eq_true, List.all_eq_true]
  apply forall₂_congr
  rintro ⟨name, value⟩ mem
  have spared : name ∉ Assoc.keys patch ∨ name = idField := by
    by_contra given
    rw [not_or, not_not] at given
    exact ignores name given.1 given.2 (Assoc.mem_keys_of_mem mem)
  simp only [fieldMatches, Record.get?_merge_of_not_mem nodup spared]

def updated (p : Predicate) (patch : Object) (r : Record) : Record :=
  if p.holds r then r.merge patch else r

/-- An update that a predicate ignores does not change whether a record matches. -/
theorem holds_updated (ignores : q.Ignores patch) (nodup : (Assoc.keys patch).Nodup) (r : Record) :
    q.holds (p.updated patch r) = q.holds r := by
  unfold updated
  split
  · exact holds_merge ignores nodup r
  · rfl

theorem updated_of_not_holds (fails : ¬p.holds r = true) : p.updated patch r = r :=
  if_neg fails

/-- Two updates of a record that only one of them is for can change places, if neither predicate
looks at what the other one writes. -/
theorem updated_comm (pIgnores : p.Ignores b) (qIgnores : q.Ignores a)
    (nodup : (Assoc.keys a).Nodup) (nodup' : (Assoc.keys b).Nodup)
    (apart : ¬(p.holds r = true ∧ q.holds r = true)) :
    q.updated b (p.updated a r) = p.updated a (q.updated b r) := by
  -- One of the two does not match the record, before and after the other update.
  rcases not_and_or.1 apart with fails | fails
  · have still : ¬p.holds (q.updated b r) = true := by rwa [holds_updated pIgnores nodup']
    rw [updated_of_not_holds fails, updated_of_not_holds still]
  · have still : ¬q.holds (p.updated a r) = true := by rwa [holds_updated qIgnores nodup]
    rw [updated_of_not_holds fails, updated_of_not_holds still]

/-- An update that its own predicate ignores can be repeated without effect. -/
theorem updated_updated (ignores : p.Ignores patch) (nodup : (Assoc.keys patch).Nodup) (r : Record) :
    p.updated patch (p.updated patch r) = p.updated patch r := by
  by_cases holds : p.holds r = true
  · have again := holds_merge ignores nodup r
    simp only [updated, holds, again, if_true, Record.merge_merge_self nodup]
  · rw [updated_of_not_holds holds, updated_of_not_holds holds]

/-- An update of other records leaves the records that match as they are. -/
theorem filter_updated (ignores : q.Ignores patch) (nodup : (Assoc.keys patch).Nodup)
    (apart : ∀ r ∈ records, ¬(p.holds r = true ∧ q.holds r = true)) :
    q.filter (records.map (p.updated patch)) = q.filter records := by
  have same : q.holds ∘ p.updated patch = q.holds := funext (holds_updated ignores nodup)
  have spared : ∀ r ∈ records.filter q.holds, p.updated patch r = id r := by
    intro r mem
    obtain ⟨there, holds⟩ := List.mem_filter.1 mem
    exact updated_of_not_holds fun matched => apart r there ⟨matched, holds⟩
  rw [filter, filter, List.filter_map, same, List.map_congr_left spared, List.map_id]

theorem countP_updated (ignores : q.Ignores patch) (nodup : (Assoc.keys patch).Nodup) :
    (records.map (p.updated patch)).countP q.holds = records.countP q.holds := by
  have same : q.holds ∘ p.updated patch = q.holds := funext (holds_updated ignores nodup)
  rw [List.countP_map, same]

end Predicate

/-! ## Updates of a collection -/

namespace Collection

variable {p q : Predicate} {a b patch : Object}

/-- Two updates of apart records can change places in a collection. -/
theorem updateMatching_comm (pIgnores : p.Ignores b) (qIgnores : q.Ignores a)
    (nodup : (Assoc.keys a).Nodup) (nodup' : (Assoc.keys b).Nodup) {c : Collection}
    (apart : ∀ r ∈ c.records, ¬(p.holds r = true ∧ q.holds r = true)) :
    ((c.updateMatching p a).2.updateMatching q b).2 =
      ((c.updateMatching q b).2.updateMatching p a).2 := by
  have same : (c.records.map (p.updated a)).map (q.updated b) =
      (c.records.map (q.updated b)).map (p.updated a) := by
    rw [List.map_map, List.map_map]
    apply List.map_congr_left
    intro r mem
    exact Predicate.updated_comm pIgnores qIgnores nodup nodup' (apart r mem)
  exact congrArg c.withRecords same

/-- An update of a collection that its predicate ignores can be repeated: it counts and leaves the
same. -/
theorem updateMatching_again (ignores : p.Ignores patch) (nodup : (Assoc.keys patch).Nodup)
    (c : Collection) :
    (c.updateMatching p patch).2.updateMatching p patch = c.updateMatching p patch := by
  have count : (c.records.map (p.updated patch)).countP p.holds = c.records.countP p.holds :=
    Predicate.countP_updated ignores nodup
  have records : (c.records.map (p.updated patch)).map (p.updated patch) =
      c.records.map (p.updated patch) := by
    rw [List.map_map]
    exact List.map_congr_left fun r _ => Predicate.updated_updated ignores nodup r
  exact Prod.ext count (congrArg c.withRecords records)

end Collection

/-! ## Updates of a catalog -/

namespace Catalog

variable {c next : Catalog} {enforce : Bool} {name : String} {collection : Collection}
variable {p q : Predicate} {a b patch : Object}

/-- The catalog in which a collection, if it is there, was updated. -/
def updateIn (name : String) (p : Predicate) (patch : Object) (c : Catalog) : Catalog :=
  match c.collection? name with
  | some collection => c.withCollection name (collection.updateMatching p patch).2
  | none => c

theorem updateIn_eq (found : c.collection? name = some collection) (p : Predicate) (patch : Object) :
    c.updateIn name p patch = c.withCollection name (collection.updateMatching p patch).2 := by
  simp only [updateIn, found]

theorem updateIn_withCollection (c : Catalog) (name : String) (collection : Collection)
    (p : Predicate) (patch : Object) :
    (c.withCollection name collection).updateIn name p patch =
      c.withCollection name (collection.updateMatching p patch).2 := by
  rw [updateIn_eq (collection?_withCollection ..), withCollection_withCollection]

/-- Two updates of apart records can change places in a catalog. -/
theorem updateIn_comm (pIgnores : p.Ignores b) (qIgnores : q.Ignores a)
    (nodup : (Assoc.keys a).Nodup) (nodup' : (Assoc.keys b).Nodup)
    (found : c.collection? name = some collection)
    (apart : ∀ r ∈ collection.records, ¬(p.holds r = true ∧ q.holds r = true)) :
    (c.updateIn name p a).updateIn name q b = (c.updateIn name q b).updateIn name p a := by
  rw [updateIn_eq found, updateIn_eq found, updateIn_withCollection, updateIn_withCollection,
    Collection.updateMatching_comm pIgnores qIgnores nodup nodup' apart]

/-- A second update with the same patch does what the first one did. -/
theorem updateRecords_again (ignores : p.Ignores patch) (nodup : (Assoc.keys patch).Nodup)
    {count : Nat} (updated : c.updateRecords enforce name (some p) patch = .ok (count, next)) :
    next.updateRecords enforce name (some p) patch = .ok (count, next) := by
  obtain ⟨collection, _, found, ⟨⟩, notEmpty, checked, rfl, rfl⟩ := updateRecords_ok updated
  rw [updateRecords_eq (collection?_withCollection ..), notEmpty,
    collection.updateMatching_again ignores nodup, withCollection_withCollection]
  -- The merges of the records that are found again are these records, which were checked.
  have again : checkMerges enforce name collection.schema patch
      (p.filter (collection.updateMatching p patch).2.records) = .ok () := by
    rw [checkMerges_eq_ok] at checked ⊢
    intro r mem
    obtain ⟨there, holds⟩ := List.mem_filter.1 mem
    obtain ⟨old, oldMem, rfl⟩ := List.mem_map.1 there
    change p.holds (p.updated patch old) = true at holds
    rw [Predicate.holds_updated ignores nodup] at holds
    have merged := checked old (List.mem_filter.2 ⟨oldMem, holds⟩)
    rwa [if_pos holds, Record.merge_merge_self nodup]
  exact congrArg (Except.map _) again

end Catalog

/-! ## Updates of a database -/

namespace Call

variable {options : DatabaseOptions} {c : Catalog} {name : String} {collection : Collection}
variable {p q : Predicate} {a b : Object}

/-- An update is refused without a field to look for, then for what it would merge, and else
done. -/
theorem effect_update (found : c.collection? name = some collection) (p : Predicate) (a : Object) :
    (Call.update name (some p) a).effect options c =
      if p.isEmpty then .error .missingPredicate
      else (Catalog.checkMerges options.enforceSchema name collection.schema a
        (p.filter collection.records)).map
          fun _ => (.count (collection.records.countP p.holds), some (c.updateIn name p a)) := by
  rw [effect, Catalog.updateRecords_eq found, Catalog.updateIn_eq found]
  cases p.isEmpty with
  | true => rfl
  | false =>
    cases Catalog.checkMerges options.enforceSchema name collection.schema a
      (p.filter collection.records) <;> rfl

/-- An update leaves the catalog as it is, or it is the update of one collection. -/
theorem next_update (found : c.collection? name = some collection) (p : Predicate) (a : Object) :
    (Call.update name (some p) a).next options c = c ∨
      (Call.update name (some p) a).next options c = c.updateIn name p a := by
  rw [Call.next, written?, effect_update found]
  cases p.isEmpty with
  | true => exact .inl rfl
  | false =>
    cases Catalog.checkMerges options.enforceSchema name collection.schema a
      (p.filter collection.records) with
    | error error => exact .inl rfl
    | ok _ => exact .inr rfl

section Apart

variable (pIgnores : p.Ignores b) (qIgnores : q.Ignores a) (nodup : (Assoc.keys a).Nodup)
  (nodup' : (Assoc.keys b).Nodup) (found : c.collection? name = some collection)
  (apart : ∀ r ∈ collection.records, ¬(p.holds r = true ∧ q.holds r = true))

include pIgnores qIgnores nodup nodup' found apart

/-- An update commutes with an update of other records. -/
theorem commutesWith_updateIn :
    CommutesWith options c (Catalog.updateIn name q b) (.update name (some p) a) := by
  have there : (c.updateIn name q b).collection? name = some (collection.updateMatching q b).2 := by
    rw [Catalog.updateIn_eq found, Catalog.collection?_withCollection]
  have matched : p.filter (collection.updateMatching q b).2.records = p.filter collection.records :=
    Predicate.filter_updated pIgnores nodup' fun r mem both => apart r mem both.symm
  have count : (collection.updateMatching q b).2.records.countP p.holds =
      collection.records.countP p.holds := Predicate.countP_updated pIgnores nodup'
  unfold CommutesWith
  rw [effect_update found, effect_update there, matched, count,
    ← Catalog.updateIn_comm pIgnores qIgnores nodup nodup' found apart]
  change (if p.isEmpty then _ else (Catalog.checkMerges _ _ collection.schema _ _).map _) = _
  cases p.isEmpty with
  | true => rfl
  | false =>
    cases Catalog.checkMerges options.enforceSchema name collection.schema a
      (p.filter collection.records) <;> rfl

/-- Two updates of apart records can change places as calls. -/
theorem interchange_updates :
    Interchange options c (.update name (some p) a) (.update name (some q) b) := by
  have first : CommutesWith options c (Catalog.updateIn name q b) (.update name (some p) a) :=
    commutesWith_updateIn pIgnores qIgnores nodup nodup' found apart
  have second : CommutesWith options c (Catalog.updateIn name p a) (.update name (some q) b) :=
    commutesWith_updateIn qIgnores pIgnores nodup' nodup found fun r mem both => apart r mem both.symm
  have changes := Catalog.updateIn_comm pIgnores qIgnores nodup nodup' found apart
  exact interchange_of_commutesWith (next_update found p a) (next_update found q b) first second changes

end Apart

end Call

namespace Database

variable {db : Database} {fs fs' : FileSystem} {c : Catalog} {name : String} {collection : Collection}
variable {p q : Predicate} {a b : Object}

/-- An update that succeeded succeeds again, with the same count and the same bytes in the file. -/
theorem runOn_update_again (content : db.file.content fs = .ok c) (ignores : p.Ignores a)
    (sound : (Json.object a).Sound) (storable : (Call.update name (some p) a).Storable db c)
    {count : Nat} (updated : (db.update name (some p) a).runOn fs = (.ok count, fs')) :
    ∃ fs'' bytes, (db.update name (some p) a).runOn fs' = (.ok count, fs'') ∧
      fs'.read db.path = .ok bytes ∧ fs''.read db.path = .ok bytes := by
  obtain ⟨directory, file, next, applied, ready⟩ := ready_after_write content updated
    fun next applied => storable.decode content sound (congrArg (Call.writing .count) applied)
  obtain ⟨_, same, read⟩ := read_of_write content updated
  cases same.symm.trans applied
  have again := Catalog.updateRecords_again ignores (Json.sound_object.1 sound).1 applied
  obtain ⟨fs'', rerun, reread⟩ := ready.runOn_write_returns
    (f := fun catalog => catalog.updateRecords db.options.enforceSchema name (some p) a) again
  exact ⟨fs'', next.encode db.file.style, rerun, read, reread⟩

/-- Two updates of a collection by predicates that no record matches both of, and neither of which asks
for a field that the patch of the other gives a value: made in either order each of them gives the
same, its count or an error, and all files are the same byte for byte. And an update that succeeded,
by a predicate that asks for no field of its own patch, succeeds again, with the same count and the
same bytes in the file. The catalogs that the updates write are to be such as can be read again, and
no device is to stand in the place of the second file. -/
theorem updates_commute_and_repeat (content : db.file.content fs = .ok c)
    (found : c.collection? name = some collection)
    (apart : ∀ r ∈ collection.records, ¬(p.holds r = true ∧ q.holds r = true))
    (pIgnores : p.Ignores b) (qIgnores : q.Ignores a)
    (sound : (Json.object a).Sound) (otherSound : (Json.object b).Sound)
    (plain : db.file.TempPlain fs) (storable : (Call.update name (some p) a).Storable db c)
    (otherStorable : (Call.update name (some q) b).Storable db c) :
    Disk.Commute (db.update name (some p) a) (db.update name (some q) b) fs ∧
    (p.Ignores a → ∀ count fs', (db.update name (some p) a).runOn fs = (.ok count, fs') →
      ∃ fs'' bytes, (db.update name (some p) a).runOn fs' = (.ok count, fs'') ∧
        fs'.read db.path = .ok bytes ∧ fs''.read db.path = .ok bytes) := by
  obtain ⟨nodup, -⟩ := Json.sound_object.1 sound
  obtain ⟨nodup', -⟩ := Json.sound_object.1 otherSound
  constructor
  · have injective : ∀ {m n : Nat}, Answer.count m = Answer.count n → m = n := Answer.count.inj
    have commute : Disk.Commute ((Call.update name (some p) a).run db)
        ((Call.update name (some q) b).run db) fs := by
      apply Call.commute_run_of_interchange
      · exact sound
      · exact otherSound
      · exact plain
      · intro stored held
        cases content.symm.trans held
        exact ⟨storable, otherStorable⟩
      · intro stored held
        cases content.symm.trans held
        exact Call.interchange_updates pIgnores qIgnores nodup nodup' found apart
    exact Disk.commute_of_map injective injective commute
  · intro ignores count fs' updated
    exact runOn_update_again content ignores sound storable updated

/-- Updates of two records and of one, in a collection whose schema both keep to. -/
theorem updates_commute_and_repeat_books :
    let schema := Schema.field (Schema.field NameMap.empty "title" "string" true) "read" "boolean" false
    let book (id : RecordId) (title : String) : Record := ⟨id, [("title", .string title)]⟩
    let c := Catalog.empty.withCollection "books"
      ⟨some schema, some [book 1 "a", book 2 "b", book 3 "a"], none, []⟩
    let p : Predicate := ⟨[("title", .string "a")]⟩
    let q := Predicate.byId 2
    let a : Object := [("read", .bool true), ("_id", .null)]
    let b : Object := [("read", .bool false), ("mark", .number (.int 5))]
    let db := Database.sample
    let fs := FileSystem.holding c
    Disk.Commute (db.update "books" (some p) a) (db.update "books" (some q) b) fs ∧
    ∃ fs' fs'' bytes, (db.update "books" (some p) a).runOn fs = (.ok 2, fs') ∧
      (db.update "books" (some p) a).runOn fs' = (.ok 2, fs'') ∧
      fs'.read db.path = .ok bytes ∧ fs''.read db.path = .ok bytes := by
  intro schema book c p q a b db fs
  have content : db.file.content fs = .ok c :=
    content_holding (by decide +kernel) (by decide +kernel) (by decide +kernel)
  have storable : (Call.update "books" (some p) a).Storable db c := by
    unfold Call.Storable
    decide +kernel
  have otherStorable : (Call.update "books" (some q) b).Storable db c := by
    unfold Call.Storable
    decide +kernel
  obtain ⟨commute, again⟩ := updates_commute_and_repeat content rfl (by decide +kernel)
    (by decide +kernel) (by decide +kernel) (by decide +kernel) (by decide +kernel)
    (unhindered_holding c).tempPlain storable otherStorable
  obtain ⟨directory, file, ready⟩ := (unhindered_holding c).ready content
  obtain ⟨fs', updated, _⟩ := ready.runOn_write_returns
    (f := fun catalog => catalog.updateRecords db.options.enforceSchema "books" (some p) a) rfl
  obtain ⟨fs'', bytes, repeated, read, reread⟩ := again (by decide +kernel) 2 fs' updated
  exact ⟨commute, fs', fs'', bytes, updated, repeated, read, reread⟩

end Database

end DocStore
