-- SUMMARY: Calls on different collections do not interfere: in either order they answer the same and leave the same files.
import DocStore.Proofs.Catalog.Kept
import DocStore.Proofs.Database.Interchange

/-!
# Calls on different collections

Every call loads the whole catalog, and one that changes something writes the whole catalog again. Yet
a call on a collection sees nothing of the catalog but that collection and changes nothing but it. So
two calls on different collections can change places: each answers what it answers by itself, and the
file system afterwards is the same. This includes calls that are refused, that find no collection, no
database file or a lock that is taken, and that cannot write.
-/

namespace DocStore

/-! ## What a call sees of a catalog -/

namespace Catalog

variable {name other : String}

theorem require_withCollection (apart : name ≠ other) (c : Catalog) (collection : Collection) :
    (c.withCollection other collection).require name = c.require name := by
  have same : (c.withCollection other collection).collection? name = c.collection? name :=
    c.documents.get?_insert_of_ne apart collection
  rw [require, require, same]

/-- Changes of two collections can change places. -/
theorem withCollection_comm (apart : name ≠ other) (c : Catalog) (collection more : Collection) :
    (c.withCollection name collection).withCollection other more =
      (c.withCollection other more).withCollection name collection := by
  simp only [withCollection, c.documents.insert_comm apart]

end Catalog

namespace Call

variable {call : Call} {options : DatabaseOptions} {c next : Catalog} {name other : String}
variable {answer : Answer}

/-- The collection that a call is on, if it is on one. -/
def collection? : Call → Option String
  | .createCollection collection _ => some collection
  | .insert collection _ => some collection
  | .select collection _ => some collection
  | .delete collection _ => some collection
  | .update collection _ _ => some collection
  | .schema collection => some collection
  | .collectionNames => none

/-- A call on a collection does the same when another collection was replaced. -/
theorem commutesWith_withCollection (on : call.collection? = some name) (apart : name ≠ other)
    (options : DatabaseOptions) (c : Catalog) (collection : Collection) :
    CommutesWith options c (·.withCollection other collection) call := by
  unfold CommutesWith
  have same := Catalog.require_withCollection apart c collection
  have comm := fun changed => Catalog.withCollection_comm apart c changed collection
  cases call with
  | createCollection made definition =>
    cases on
    simp only [effect, Catalog.createCollection, ← comm]
    cases Catalog.checkNewCollection options.enforceSchema name definition <;> rfl
  | insert made fields =>
    cases on
    simp only [effect, Catalog.insertRecord, same, ← comm]
    cases c.require name with
    | error error => rfl
    | ok found =>
      simp only [ok_bind]
      cases Catalog.checkKinds (Assoc.erase idField fields) with
      | error error => rfl
      | ok _ =>
        cases Catalog.checkSchema options.enforceSchema name found.schema
          (Assoc.erase idField fields) <;> rfl
  | select made p =>
    cases on
    simp only [effect, Catalog.select, same]
    cases c.require name <;> rfl
  | delete made p =>
    cases on
    simp only [effect, Catalog.deleteRecords, same, ← comm]
    cases c.require name <;> rfl
  | update made p patch =>
    cases on
    simp only [effect, Catalog.updateRecords, same, ← comm]
    cases c.require name with
    | error error => rfl
    | ok found =>
      cases p with
      | none => rfl
      | some p =>
        simp only [ok_bind]
        cases p.isEmpty with
        | true => rfl
        | false =>
          cases Catalog.checkMerges options.enforceSchema name found.schema patch
            (p.filter found.records) <;> rfl
  | schema made =>
    cases on
    simp only [effect, Catalog.schemaOf, same]
    cases c.require name <;> rfl
  | collectionNames => cases on

/-- A call on a collection writes the catalog with nothing changed but that collection. -/
theorem exists_withCollection (on : call.collection? = some name)
    (written : call.effect options c = .ok (answer, some next)) :
    ∃ collection, next = c.withCollection name collection := by
  have writes := written?_eq_some.2 ⟨answer, written⟩
  cases call with
  | createCollection made definition =>
    cases on
    rw [written?, effect] at writes
    obtain ⟨_, result⟩ := written?_writing writes
    obtain ⟨_, _, result⟩ := bind_eq_ok.1 result
    cases result
    exact ⟨_, rfl⟩
  | insert made fields =>
    cases on
    obtain ⟨r, result⟩ := written?_writing writes
    obtain ⟨_, _, _, _, _, same⟩ := Catalog.insertRecord_ok result
    exact ⟨_, same⟩
  | delete made p =>
    cases on
    obtain ⟨count, result⟩ := written?_writing writes
    obtain ⟨found, _, same⟩ := Catalog.deleteRecords_ok result
    cases p <;> exact ⟨_, congrArg Prod.snd same⟩
  | update made p patch =>
    cases on
    obtain ⟨count, result⟩ := written?_writing writes
    obtain ⟨_, _, _, _, _, _, _, same⟩ := Catalog.updateRecords_ok result
    exact ⟨_, same⟩
  | select made p =>
    rw [written?, effect, written?_reading] at writes
    cases writes
  | schema made =>
    rw [written?, effect, written?_reading] at writes
    cases writes
  | collectionNames => cases on

end Call

/-! ## Calls in either order -/

namespace Call

variable {db : Database} {fs : FileSystem} {call first second : Call} {name other : String}

/-- A call leaves the catalog as it is, or with nothing changed but its collection. -/
theorem next_eq_or (on : call.collection? = some name) (options : DatabaseOptions) (c : Catalog) :
    ∃ collection,
      call.next options c = c ∨ call.next options c = c.withCollection name collection := by
  cases writes : call.written? options c with
  | none =>
    rw [Call.next, writes]
    exact ⟨default, .inl rfl⟩
  | some next =>
    obtain ⟨answer, effect⟩ := written?_eq_some.1 writes
    rw [next_of_effect effect]
    obtain ⟨collection, same⟩ := exists_withCollection on effect
    exact ⟨collection, .inr same⟩

/-- Calls on two collections can change places on a catalog. -/
theorem interchange_of_apart (on : first.collection? = some name)
    (otherOn : second.collection? = some other) (apart : name ≠ other) (options : DatabaseOptions)
    (c : Catalog) : Interchange options c first second := by
  obtain ⟨collection, made⟩ := next_eq_or on options c
  obtain ⟨otherCollection, otherMade⟩ := next_eq_or otherOn options c
  exact interchange_of_commutesWith made otherMade
    (commutesWith_withCollection on apart options c otherCollection)
    (commutesWith_withCollection otherOn apart.symm options c collection)
    (Catalog.withCollection_comm apart c collection otherCollection)

/-- Calls on two collections can change places on the disk. -/
theorem commute_run (on : first.collection? = some name) (otherOn : second.collection? = some other)
    (apart : name ≠ other) (sound : first.Sound) (otherSound : second.Sound)
    (plain : db.file.TempPlain fs)
    (storable : ∀ c, db.file.content fs = .ok c → first.Storable db c ∧ second.Storable db c) :
    Disk.Commute (first.run db) (second.run db) fs :=
  commute_run_of_interchange sound otherSound plain storable fun c _ =>
    interchange_of_apart on otherOn apart db.options c

end Call

namespace Catalog

variable {name other : String}

theorem at?_collection (c : Catalog) (name : String) :
    c.toJson.at? ["documents", name] = (c.collection? name).map Collection.toJson := by
  have found : c.toJson.member? "documents" = some (documentsJson c.documents) := by
    rw [toJson_eq, Json.member?, Assoc.get?_cons, if_pos rfl]
  simp only [Json.at?, found, Option.bind_some, member?_documentsJson, Option.bind_fun_some]
  rfl

/-- Whether two catalogs are encoded alike but for one collection: the entry of every other collection
is the same, and so is every member that is not known. -/
def EncodedAlikeBut (name : String) (c next : Catalog) : Prop :=
  (∀ other, other ≠ name → next.toJson.at? ["documents", other] = c.toJson.at? ["documents", other]) ∧
    ∀ key, key ≠ "documents" → next.toJson.at? [key] = c.toJson.at? [key]

/-- A catalog with one collection replaced is encoded alike, apart from that collection. -/
theorem encodedAlikeBut_withCollection (name : String) (c : Catalog) (collection : Collection) :
    EncodedAlikeBut name c (c.withCollection name collection) := by
  constructor
  · intro other apart
    rw [at?_collection, at?_collection]
    exact congrArg _ (c.documents.get?_insert_of_ne apart collection)
  · intro key unknown
    simp only [Json.at?, toJson_eq, Json.member?, Assoc.get?_cons, if_neg unknown.symm]
    rfl

end Catalog

/-- Whether the file of a database is what it was but for one collection: it is the same file with the
same bytes, or it holds the bytes of a catalog that is encoded as the one before but for the
collection. -/
def Database.KeepsOthers (db : Database) (name : String) (fs fs' : FileSystem) : Prop :=
  fs'.find db.path = fs.find db.path ∨
    ∃ c next, db.file.content fs = .ok c ∧ fs'.read db.path = .ok (next.encode db.file.style) ∧
      Catalog.EncodedAlikeBut name c next

/-- A call on one collection keeps what the file says of the others. -/
theorem Call.keepsOthers_run {call : Call} {name : String} (on : call.collection? = some name)
    (db : Database) (fs : FileSystem) : db.KeepsOthers name fs ((call.run db).runOn fs).2 := by
  rcases file_after_run db call fs with kept | ⟨c, answer, next, content, written, read⟩
  · exact .inl kept
  · obtain ⟨collection, rfl⟩ := exists_withCollection on written
    exact .inr ⟨c, _, content, read, Catalog.encodedAlikeBut_withCollection name c collection⟩

/-- Two calls on different collections of a database, whatever stands in its directory and whoever
holds its lock: made in either order each of them answers the same, an error included, and all files
are the same byte for byte; and each leaves in the file what is encoded there of the other
collections, and the members that are not known. The catalogs that the calls write are to be such as
can be read again, and no device is to stand in the place of the second file. -/
theorem Database.calls_independent (db : Database) (fs : FileSystem) (first second : Call)
    {name other : String} (on : first.collection? = some name)
    (otherOn : second.collection? = some other) (apart : name ≠ other) (sound : first.Sound)
    (otherSound : second.Sound) (plain : db.file.TempPlain fs)
    (storable : ∀ c, db.file.content fs = .ok c → first.Storable db c ∧ second.Storable db c) :
    Disk.Commute (first.run db) (second.run db) fs ∧
      db.KeepsOthers name fs ((first.run db).runOn fs).2 ∧
      db.KeepsOthers other fs ((second.run db).runOn fs).2 :=
  ⟨Call.commute_run on otherOn apart sound otherSound plain storable,
    Call.keepsOthers_run on db fs, Call.keepsOthers_run otherOn db fs⟩

/-- Two calls that both write, one of them to a collection that is not there before. -/
theorem Database.calls_independent_sample :
    (∀ call ∈ [Call.insert "notes" [("title", .string "b")], .createCollection "tasks" NameMap.empty],
      (call.written? Database.sample.options Catalog.sample).isSome = true) ∧
    Disk.Commute ((Call.insert "notes" [("title", .string "b")]).run Database.sample)
      ((Call.createCollection "tasks" NameMap.empty).run Database.sample) FileSystem.sample ∧
    Database.sample.KeepsOthers "tasks" FileSystem.sample
      (((Call.createCollection "tasks" NameMap.empty).run Database.sample).runOn FileSystem.sample).2 := by
  have plain : Database.sample.file.TempPlain FileSystem.sample := by
    intro _ place found looked
    cases looked
    exact FileSystem.isPlain_none
  obtain ⟨commute, _, keeps⟩ := Database.calls_independent Database.sample FileSystem.sample
    (.insert "notes" [("title", .string "b")]) (.createCollection "tasks" NameMap.empty) rfl rfl
    (by decide) (by decide +kernel) (by decide +kernel) plain (by
      intro c held
      cases Database.content_sample.symm.trans held
      constructor <;> unfold Call.Storable <;> decide +kernel)
  exact ⟨by decide +kernel, commute, keeps⟩

end DocStore
