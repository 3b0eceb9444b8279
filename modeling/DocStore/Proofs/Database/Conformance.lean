-- SUMMARY: Under enforced schemas every record that a database holds keeps to the schema of its collection.
import DocStore.Proofs.Database.Failure
import DocStore.Proofs.Database.Refinement

/-!
# Conformance to schemas

A handle that enforces schemas checks the bare fields of a new record, and of an update each record
as it will be after the merge. What is checked is exactly what is stored, so the records of a
collection keep to its schema through every operation, and through the text of the file: rereading a
number may change it, but it stays a number.

The identifier is no field that a user can give, so a declaration of its name does not count.
-/

namespace DocStore

/-! ## What the checks say -/

/-- Whether what a record has under a name is as declared: something if the field is required, and
nothing of another kind. -/
structure FieldSpec.Allows (spec : FieldSpec) (value : Option Json) : Prop where
  present : spec.isRequired = true → value.isSome = true
  kind : ∀ v ∈ value, (Kind.of v).name = spec.kind

instance (spec : FieldSpec) (value : Option Json) : Decidable (spec.Allows value) :=
  decidable_of_iff
    ((spec.isRequired = true → value.isSome = true) ∧ ∀ v ∈ value, (Kind.of v).name = spec.kind)
    ⟨fun h => ⟨h.1, h.2⟩, fun h => ⟨h.present, h.kind⟩⟩

/-- A function that keeps the kinds of values keeps what is as declared. -/
theorem FieldSpec.Allows.map {spec : FieldSpec} {value : Option Json} (allows : spec.Allows value)
    {f : Json → Json} (same : ∀ v, Kind.of (f v) = Kind.of v) : spec.Allows (value.map f) := by
  constructor
  · intro required
    rw [Option.isSome_map]
    exact allows.present required
  · intro v mem
    obtain ⟨old, there, rfl⟩ := Option.map_eq_some_iff.1 mem
    rw [same]
    exact allows.kind old there

namespace Schema

variable {schema : Schema} {fields : Object}

/-- A declared field is not at fault exactly if its declaration allows what the record has there. -/
theorem fieldViolation?_eq_none {name : String} {spec : FieldSpec} :
    fieldViolation? fields name spec = none ↔ spec.Allows (Assoc.get? name fields) := by
  unfold fieldViolation?
  cases Assoc.get? name fields with
  | none =>
    constructor
    · intro accepted
      exact ⟨fun required => by simp [required] at accepted, nofun⟩
    · intro allows
      apply if_neg
      intro required
      exact Bool.noConfusion (allows.present required)
  | some value =>
    constructor
    · intro accepted
      refine ⟨fun _ => rfl, ?_⟩
      rintro v ⟨⟩
      simpa using accepted
    · intro allows
      apply if_pos
      simpa using allows.kind value rfl

/-- Whether a record has every declared field but its identifier as declared. -/
def Accepts (schema : Schema) (r : Record) : Prop :=
  ∀ entry ∈ schema.entries, entry.1 ≠ idField → entry.2.Allows (r.get? entry.1)

instance (schema : Schema) (r : Record) : Decidable (schema.Accepts r) :=
  inferInstanceAs (Decidable (∀ _ ∈ _, _ → _))

/-- A check of the fields that a record has is a check of the record. -/
theorem accepts_of_checkRecord {r : Record}
    (same : ∀ name, name ≠ idField → r.get? name = Assoc.get? name fields)
    (checked : schema.checkRecord fields = .ok ()) : schema.Accepts r := by
  intro entry mem notId
  unfold checkRecord at checked
  split at checked
  · cases checked
  · rename_i accepted
    rw [same entry.1 notId]
    exact fieldViolation?_eq_none.1 (List.findSome?_eq_none_iff.1 accepted entry mem)

/-- Whether all declared kinds are kinds that a record may hold. -/
def IsInsertable (schema : Schema) : Prop :=
  ∀ entry ∈ schema.entries, ∃ kind : Kind, kind ≠ .null ∧ entry.2.kind = kind.name

/-- A definition that was checked declares only kinds that a record may hold. -/
theorem isInsertable_of_checkDefinition (checked : schema.checkDefinition = .ok ()) :
    schema.IsInsertable := by
  intro entry mem
  unfold checkDefinition at checked
  split at checked
  · cases checked
  · rename_i accepted
    have noViolation := List.findSome?_eq_none_iff.1 accepted entry mem
    simp only [specViolation?] at noViolation
    split at noViolation
    · rename_i kind named
      refine ⟨kind, ?_, ?_⟩
      · rintro rfl
        cases noViolation
      · have word := List.find?_some named
        exact (beq_iff_eq.1 word).symm
    · cases noViolation

end Schema

/-! ## Records -/

namespace Record

/-- A new record has the given fields, as long as none of them is repeated. -/
theorem get?_new {name : String} (notId : name ≠ idField) (id : RecordId) {fields : Object}
    (nodup : (Assoc.keys fields).Nodup) : (Record.new id fields).get? name = Assoc.get? name fields := by
  rw [get?_of_ne notId, new, Assoc.ofEntries_eq_self (Assoc.nodup_keys_erase nodup),
    Assoc.get?_erase_of_ne notId]

theorem get?_reread {name : String} (notId : name ≠ idField) (r : Record) :
    r.reread.get? name = (r.get? name).map Json.reread := by
  rw [get?_of_ne notId, get?_of_ne notId, Record.reread, membersReread_eq_map, Assoc.get?_map]

end Record

theorem Kind.of_reread (v : Json) : Kind.of v.reread = Kind.of v := by
  cases v <;> simp [Json.reread, Kind.of]

/-- Rereading changes the numbers of a record and no kind, so its schema goes on accepting it. -/
theorem Schema.Accepts.reread {schema : Schema} {r : Record} (accepts : schema.Accepts r) :
    schema.Accepts r.reread := by
  intro entry mem notId
  rw [Record.get?_reread notId]
  exact (accepts entry mem notId).map Kind.of_reread

/-! ## Collections -/

namespace Collection

variable {c : Collection}

/-- Whether every record keeps to the schema, if there is one. -/
def Conforms (c : Collection) : Prop :=
  ∀ schema ∈ c.schema, ∀ r ∈ c.records, schema.Accepts r

instance (c : Collection) : Decidable c.Conforms :=
  inferInstanceAs (Decidable (∀ _ ∈ _, ∀ _ ∈ _, _))

/-- A new collection has no record that could break its schema. -/
theorem conforms_new (schema : Schema) : (Collection.new schema).Conforms := by
  intro _ _ r mem
  cases mem

theorem Conforms.withRecords {records : List Record}
    (accepts : ∀ schema ∈ c.schema, ∀ r ∈ records, schema.Accepts r) :
    (c.withRecords records).Conforms :=
  accepts

theorem Conforms.clear : c.clear.2.Conforms :=
  Conforms.withRecords fun _ _ _ => nofun

theorem Conforms.removeMatching (conforms : c.Conforms) (p : Predicate) :
    (c.removeMatching p).2.Conforms := by
  apply Conforms.withRecords
  intro schema there r mem
  exact conforms schema there r (List.mem_filter.1 mem).1

/-- The records that match are accepted as they are after the merge, and the others do not change. -/
theorem Conforms.updateMatching (conforms : c.Conforms) {p : Predicate} {patch : Object}
    (merged : ∀ schema ∈ c.schema, ∀ r ∈ p.filter c.records, schema.Accepts (r.merge patch)) :
    (c.updateMatching p patch).2.Conforms := by
  apply Conforms.withRecords
  intro schema there
  refine List.forall_mem_map.2 ?_
  intro r mem
  split
  · rename_i holds
    exact merged schema there r (List.mem_filter.2 ⟨mem, holds⟩)
  · exact conforms schema there r mem

theorem Conforms.push (conforms : c.Conforms) {r : Record}
    (accepts : ∀ schema ∈ c.schema, schema.Accepts r) : (c.push r).Conforms := by
  apply Conforms.withRecords
  intro schema there
  exact List.forall_mem_append.2
    ⟨conforms schema there, List.forall_mem_singleton.2 (accepts schema there)⟩

/-- An insertion of accepted fields keeps a collection conforming, whatever the identifier is. -/
theorem Conforms.insert (conforms : c.Conforms) (policy : IdPolicy) {fields : Object}
    (accepts : ∀ schema ∈ c.schema, ∀ id, schema.Accepts (Record.new id fields)) :
    (c.insert policy fields).2.Conforms := by
  cases policy with
  | maxPlusOne => exact conforms.push fun schema there => accepts schema there _
  | sequence =>
    -- The counter is no part of what conforms.
    have counted : ({ c with nextId := _ } : Collection).Conforms := conforms
    exact counted.push fun schema there => accepts schema there _

theorem Conforms.reread (conforms : c.Conforms) : c.reread.Conforms := by
  intro schema there r mem
  have kept : c.reread.records = c.records.map Record.reread := by
    unfold Collection.records Collection.reread
    cases c.data <;> rfl
  rw [kept] at mem
  obtain ⟨old, memOld, rfl⟩ := List.mem_map.1 mem
  exact (conforms schema there old memOld).reread

end Collection

/-! ## Catalogs -/

namespace Catalog

variable {c next : Catalog} {name : String}

/-- Whether every record of every collection keeps to the schema of its collection. -/
def Conforms (c : Catalog) : Prop :=
  ∀ entry ∈ c.documents.entries, entry.2.Conforms

instance (c : Catalog) : Decidable c.Conforms :=
  inferInstanceAs (Decidable (∀ _ ∈ _, _))

theorem Conforms.withCollection (conforms : c.Conforms) {collection : Collection}
    (kept : collection.Conforms) : (c.withCollection name collection).Conforms := by
  intro entry mem
  rcases NameMap.mem_insert mem with rfl | mem
  · exact kept
  · exact conforms entry mem

theorem Conforms.require (conforms : c.Conforms) {collection : Collection}
    (found : c.require name = .ok collection) : collection.Conforms :=
  conforms _ (require_ok found)

theorem Conforms.reread (conforms : c.Conforms) : c.reread.Conforms := by
  refine List.forall_mem_map.2 ?_
  intro entry mem
  exact (conforms entry mem).reread

theorem checkRecord_of_checkSchema {schema : Option Schema} {fields : Object}
    (checked : checkSchema true name schema fields = .ok ()) :
    ∀ declared ∈ schema, declared.checkRecord fields = .ok () := by
  rintro declared ⟨⟩
  exact mapError_eq_ok.1 checked

/-- An insertion that a catalog allows under its schemas keeps it conforming. -/
theorem Conforms.insertRecord (conforms : c.Conforms) {policy : IdPolicy} {fields : Object}
    {r : Record} (nodup : (Assoc.keys fields).Nodup)
    (h : c.insertRecord policy true name fields = .ok (r, next)) : next.Conforms := by
  obtain ⟨collection, found, _, checked, _, rfl⟩ := insertRecord_ok h
  apply conforms.withCollection
  apply (conforms.require found).insert
  intro schema there id
  apply Schema.accepts_of_checkRecord _ (checkRecord_of_checkSchema checked schema there)
  intro field notId
  exact Record.get?_new notId id (Assoc.nodup_keys_erase nodup)

/-- A deletion keeps a catalog conforming, since it only takes records away. -/
theorem Conforms.deleteRecords (conforms : c.Conforms) {p : Option Predicate} {count : Nat}
    (h : c.deleteRecords name p = .ok (count, next)) : next.Conforms := by
  obtain ⟨collection, found, result⟩ := deleteRecords_ok h
  cases p with
  | none =>
    cases result
    exact conforms.withCollection Collection.Conforms.clear
  | some p =>
    cases result
    exact conforms.withCollection ((conforms.require found).removeMatching p)

/-- An update that a catalog allows under its schemas keeps it conforming: what it merges was
checked. -/
theorem Conforms.updateRecords (conforms : c.Conforms) {p : Option Predicate} {patch : Object}
    {count : Nat} (h : c.updateRecords true name p patch = .ok (count, next)) : next.Conforms := by
  obtain ⟨collection, q, found, _, _, checked, _, rfl⟩ := updateRecords_ok h
  apply conforms.withCollection
  apply (conforms.require found).updateMatching
  intro schema there r mem
  have merged := checkMerges_eq_ok.1 checked r mem
  exact Schema.accepts_of_checkRecord (fun _ _ => rfl) (checkRecord_of_checkSchema merged schema there)

end Catalog

/-! ## Calls -/

namespace Call

variable {options : DatabaseOptions} {c next : Catalog} {call : Call} {answer : Answer}

theorem writing_ok {α : Type} {tag : α → Answer} {result : Except Error (α × Catalog)}
    (h : writing tag result = .ok (answer, some next)) : ∃ a, result = .ok (a, next) := by
  obtain ⟨⟨a, written⟩, ok, same⟩ := map_eq_ok.1 h
  cases same
  exact ⟨a, ok⟩

/-- A call that enforces schemas writes catalogs that conform. -/
theorem conforms_effect (enforced : options.enforceSchema = true) (sound : call.Sound)
    (conforms : c.Conforms) (h : call.effect options c = .ok (answer, some next)) :
    next.Conforms := by
  cases call with
  | createCollection collection definition =>
    rw [effect] at h
    obtain ⟨_, result⟩ := writing_ok h
    obtain ⟨_, _, result⟩ := bind_eq_ok.1 result
    cases result
    exact conforms.withCollection (Collection.conforms_new definition)
  | insert collection fields =>
    obtain ⟨r, result⟩ := writing_ok h
    rw [enforced] at result
    exact conforms.insertRecord (Json.sound_object.1 sound).1 result
  | delete collection p =>
    obtain ⟨count, result⟩ := writing_ok h
    exact conforms.deleteRecords result
  | update collection p patch =>
    obtain ⟨count, result⟩ := writing_ok h
    rw [enforced] at result
    exact conforms.updateRecords result
  | select collection p =>
    obtain ⟨_, _, same⟩ := map_eq_ok.1 h
    cases same
  | collectionNames => cases h
  | schema collection =>
    obtain ⟨_, _, same⟩ := map_eq_ok.1 h
    cases same

end Call

/-! ## Databases -/

namespace FileSystem

variable {fs fs' : FileSystem} {path : Path}

/-- Whether a path leads to a file that holds a catalog. -/
def Holds (fs : FileSystem) (path : Path) (c : Catalog) : Prop :=
  ∃ bytes, fs.read path = .ok bytes ∧ Catalog.decode bytes = .ok c

theorem Holds.of_find {c : Catalog} (same : fs'.find path = fs.find path) (holds : fs'.Holds path c) :
    fs.Holds path c := by
  unfold Holds read at holds ⊢
  rwa [same] at holds

end FileSystem

namespace Database

variable {db : Database} {fs fs' : FileSystem}

theorem holds_iff {c : Catalog} : fs.Holds db.path c ↔ db.file.content fs = .ok c :=
  CatalogFile.content_ok.symm

/-- A cycle that answers has loaded a catalog. -/
theorem holds_of_cycle {α : Type} {f : Catalog → Except Error (α × Catalog)} {answer : α}
    (h : (db.cycle f).runOn fs = (.ok answer, fs')) : ∃ c, fs.Holds db.path c := by
  cases content : db.file.content fs with
  | ok c => exact ⟨c, holds_iff.2 content⟩
  | error error =>
    simp only [cycle, Disk.runOn_bind, CatalogFile.runOn_load, content] at h
    cases h

/-- A write that answers has loaded a catalog, which the file held before the lock was taken. -/
theorem holds_of_write {α : Type} {f : Catalog → Except Error (α × Catalog)} {answer : α}
    (h : (db.write f).runOn fs = (.ok answer, fs')) : ∃ c, fs.Holds db.path c := by
  rw [write_eq, locked] at h
  split at h
  · rw [FileLock.runOn_hold_eq] at h
    rcases acquired : (FileLock.acquire db.path).runOn fs with ⟨error | number, fs₁⟩
    · rw [acquired] at h
      cases h
    · simp only [acquired] at h
      rcases run : (db.cycle f).runOn fs₁ with ⟨error | _, fs₂⟩
      · rw [run] at h
        cases h
      · obtain ⟨c, holds⟩ := holds_of_cycle run
        exact ⟨c, holds.of_find (find_of_opened (FileLock.opened_of_acquire acquired).1)⟩
  · exact holds_of_cycle h

end Database

namespace Call

variable {db : Database} {fs fs' : FileSystem} {call : Call} {path : Path}

/-- What a call has written is there afterwards. -/
theorem holds_of_writing {α : Type} {f : Catalog → Except Error (α × Catalog)} {tag : α → Answer}
    {answer : Answer} (h : (tag <$> db.write f).runOn fs = (.ok answer, fs')) :
    ∃ c, fs.Holds db.path c := by
  rw [Disk.runOn_map] at h
  rcases run : (db.write f).runOn fs with ⟨error | a, fs₁⟩
  · rw [run] at h
    cases h
  · exact Database.holds_of_write run

/-- A collection that was created had a definition that was checked. -/
theorem checked_of_run {collection : String} {definition : Schema} {answer : Answer}
    (h : ((Call.createCollection collection definition).run db).runOn fs = (.ok answer, fs')) :
    Catalog.checkNewCollection db.options.enforceSchema collection definition = .ok () := by
  rw [run_createCollection, Disk.runOn_bind, Disk.runOn_ofExcept] at h
  cases checked : Catalog.checkNewCollection db.options.enforceSchema collection definition with
  | ok _ => rfl
  | error error =>
    rw [checked] at h
    cases h

/-- A call that writes and answers has loaded a catalog. -/
theorem holds_of_run {answer : Answer} (writes : call.isWrite = true)
    (h : (call.run db).runOn fs = (.ok answer, fs')) : ∃ c, fs.Holds db.path c := by
  cases call with
  | createCollection collection definition =>
    have checked := checked_of_run h
    rw [run_createCollection, Disk.runOn_bind, Disk.runOn_ofExcept, checked] at h
    exact holds_of_writing h
  | insert collection fields => exact holds_of_writing h
  | delete collection p => exact holds_of_writing h
  | update collection p patch => exact holds_of_writing h
  | select collection p => cases writes
  | collectionNames => cases writes
  | schema collection => cases writes

/-- What the file of a database holds still conforms after a call. -/
theorem conforms_run {result : Except Error Answer} (enforced : db.options.enforceSchema = true)
    (sound : call.Sound) (conforms : ∀ c, fs.Holds db.path c → c.Conforms)
    (h : (call.run db).runOn fs = (result, fs')) : ∀ c, fs'.Holds db.path c → c.Conforms := by
  intro c holds
  cases writes : call.isWrite with
  | false => exact conforms c (holds.of_find (spared_of_not_isWrite writes h).file)
  | true =>
    cases result with
    | error error => exact conforms c (holds.of_find (spared_of_error h).file)
    | ok answer =>
      -- The file holds what was written, with its numbers reread.
      obtain ⟨old, held⟩ := holds_of_run writes h
      obtain ⟨next, effect, after⟩ := content_of_run (Database.holds_iff.1 held) sound writes h
      rw [Database.holds_iff, after, CatalogFile.contentOf] at holds
      split at holds
      · cases holds
        exact (conforms_effect enforced sound (conforms old held) effect).reread
      · cases holds

/-- Under enforcement a collection is created only with kinds that its records may hold. -/
theorem isInsertable_run {collection : String} {definition : Schema} {answer : Answer}
    (enforced : db.options.enforceSchema = true)
    (h : ((Call.createCollection collection definition).run db).runOn fs = (.ok answer, fs')) :
    definition.IsInsertable := by
  have checked := checked_of_run h
  rw [enforced] at checked
  obtain ⟨_, _, checked⟩ := bind_eq_ok.1 checked
  exact Schema.isInsertable_of_checkDefinition (mapError_eq_ok.1 checked)

/-- A call that was made, its answer and the file system after it. -/
structure Made where
  call : Call
  answer : Except Error Answer
  after : FileSystem

/-- Make calls one after another, each through a handle of its own. -/
def makeAll : List (Database × Call) → FileSystem → List Made
  | [], _ => []
  | (db, call) :: calls, fs =>
    let (answer, after) := (call.run db).runOn fs
    ⟨call, answer, after⟩ :: makeAll calls after

/-- Calls one after another are the first one and then the others, from where it ended. -/
theorem makeAll_cons {calls : List (Database × Call)} {result : Except Error Answer}
    (run : (call.run db).runOn fs = (result, fs')) :
    makeAll ((db, call) :: calls) fs = ⟨call, result, fs'⟩ :: makeAll calls fs' := by
  rw [makeAll, run]

/-- Through handles of one file that enforce schemas, whatever else their settings are: if the records
in the file keep to the schemas of their collections at first, they do so after every call, and every
collection that is created declares only kinds that a record may hold. -/
theorem conforms_throughout {calls : List (Database × Call)}
    (handles : ∀ made ∈ calls, made.1.path = path ∧ made.1.options.enforceSchema = true)
    (sound : ∀ made ∈ calls, made.2.Sound) (conforms : ∀ c, fs.Holds path c → c.Conforms) :
    ∀ made ∈ makeAll calls fs,
      (∀ c, made.after.Holds path c → c.Conforms) ∧
      ∀ collection definition answer, made.call = .createCollection collection definition →
        made.answer = .ok answer → definition.IsInsertable := by
  induction calls generalizing fs with
  | nil =>
    intro made mem
    cases mem
  | cons first calls ih =>
    obtain ⟨db, call⟩ := first
    obtain ⟨⟨rfl, enforced⟩, handles⟩ := List.forall_mem_cons.1 handles
    obtain ⟨soundFirst, sound⟩ := List.forall_mem_cons.1 sound
    rcases run : (call.run db).runOn fs with ⟨result, after⟩
    have conformsAfter := conforms_run enforced soundFirst conforms run
    rw [makeAll_cons run]
    refine List.forall_mem_cons.2 ⟨⟨conformsAfter, ?_⟩, ih handles sound conformsAfter⟩
    rintro collection definition answer rfl rfl
    exact isInsertable_run enforced run

/-- A call that inserts a record with a title, as the schema of the sample asks for. -/
def addTitle : Call := .insert "notes" [("title", .string "b")]

def clearTitle : Call := .update "notes" (some ⟨[("title", .string "b")]⟩) [("title", .null)]

/-- A record is added, an update that takes its title away is refused, and both records there
conform. -/
theorem conforms_throughout_titles : ∃ added refused c,
    makeAll [(.sample, addTitle), (.sample, clearTitle)] .sample = [added, refused] ∧
    refused.answer.isOk = false ∧ refused.after.Holds Database.sample.path c ∧ c.Conforms ∧
    c.documents.entries.map (fun entry => entry.2.records.length) = [2] := by
  have unhindered : Database.sample.Unhindered FileSystem.sample := Database.unhindered_holding _
  obtain ⟨directory, name, ready⟩ := unhindered.ready Database.content_sample
  obtain ⟨fs₁, first, ready⟩ := runOn_eq ready
    (show addTitle.Sound by decide +kernel) (by decide +kernel) (by decide +kernel)
  obtain ⟨fs₂, second, ready⟩ := runOn_eq ready
    (show clearTitle.Sound by decide +kernel) (by decide +kernel) (by decide +kernel)
  have conforms : ∀ c, FileSystem.sample.Holds Database.sample.path c → c.Conforms := by
    intro c holds
    cases Database.content_sample.symm.trans (Database.holds_iff.1 holds)
    decide +kernel
  have sound : ∀ made ∈ [(Database.sample, addTitle), (Database.sample, clearTitle)], made.2.Sound := by
    decide +kernel
  have handles : ∀ made ∈ [(Database.sample, addTitle), (Database.sample, clearTitle)],
      made.1.path = Database.sample.path ∧ made.1.options.enforceSchema = true :=
    List.forall_mem_cons.2 ⟨⟨rfl, rfl⟩, List.forall_mem_singleton.2 ⟨rfl, rfl⟩⟩
  have throughout := conforms_throughout handles sound conforms
  rw [makeAll_cons first, makeAll_cons second] at throughout ⊢
  have holds := Database.holds_iff.2 ready.content_eq
  have isRefused : (clearTitle.answer Database.sample.options
      (addTitle.next Database.sample.options Catalog.sample)).isOk = false := by decide +kernel
  exact ⟨_, _, _, rfl, isRefused, holds,
    (throughout _ (List.mem_cons_of_mem _ List.mem_cons_self)).1 _ holds, by decide +kernel⟩

end Call

end DocStore
