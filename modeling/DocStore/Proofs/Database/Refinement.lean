-- SUMMARY: A database behaves as its catalog does, call by call, through encoding and decoding.
import DocStore.Proofs.Database.Call
import DocStore.Proofs.Database.Cycle

/-!
# A database behaves as its catalog does

Every call reads the whole catalog from a text and may write it as a text again. As long as nothing
hinders the calls and the catalogs that are written can be read, none of this can be seen: each call
answers what it would on the catalog alone, and afterwards the file holds the catalog that it would
leave.
-/

namespace DocStore

/-- Whether nothing hinders the calls on a database: the lock file, if it is used, can be opened and
is not locked, and the second file, if there is to be one, can be opened and is a file if it is
there. -/
structure Database.Unhindered (db : Database) (fs : FileSystem) : Prop where
  lock : db.options.lockFile = true →
    ∃ number fs', fs.openOrCreate (FileLock.pathFor db.path) = .ok (number, fs') ∧
      number ∉ fs.locked
  temp : db.file.mode = .atomic →
    ∃ place found, fs.findToWrite db.file.tempPath = .ok (place, found) ∧ FileSystem.IsPlain found

variable {db : Database} {directory : Place} {name : String} {fs fs' : FileSystem} {c next : Catalog}

theorem Database.Unhindered.ready (unhindered : db.Unhindered fs)
    (content : db.file.content fs = .ok c) : ∃ directory name, db.Ready directory name fs c := by
  obtain ⟨directory, name, number, bytes, leads, decoded⟩ := CatalogFile.leads_of_content content
  refine ⟨directory, name, ⟨⟨number, bytes, leads, decoded⟩, fun mode => ?_⟩, fun lockFile => ?_⟩
  -- Both files stand beside the database file, under its name with an ending.
  · obtain ⟨place, found, looked, plain⟩ := unhindered.temp mode
    obtain ⟨_, tempDirectory, tempName, _, temp⟩ := FileSystem.leads_of_findToWrite looked
    cases FileSystem.resolve_withEnding leads.resolved (by decide) temp.resolved
    exact ⟨found, temp, plain⟩
  · obtain ⟨number, fs', opens, free⟩ := unhindered.lock lockFile
    obtain ⟨lockDirectory, lockName, found, lock, notDirectory, same⟩ :=
      FileSystem.leads_of_openOrCreate opens
    cases FileSystem.resolve_withEnding leads.resolved (by decide) lock.resolved
    refine ⟨found, lock, notDirectory, ?_⟩
    rw [← congrArg Prod.fst same]
    exact free

/-! ## One call -/

namespace Database

theorem Ready.wellFormed (ready : db.Ready directory name fs c) : c.WellFormed := by
  obtain ⟨_, _, _, decoded⟩ := ready.content
  exact (Catalog.wellFormed_of_decode decoded).1

/-- A read of a ready database answers from its catalog and leaves it ready. -/
theorem Ready.runOn_reading {α : Type} (ready : db.Ready directory name fs c) (answer : α → Answer)
    (f : Catalog → Except Error α) :
    ∃ fs', (answer <$> db.read f).runOn fs =
        ((Call.reading answer (f c)).map Prod.fst, fs') ∧
      db.Ready directory name fs' (((Call.reading answer (f c)).toOption.bind Prod.snd).getD c) := by
  obtain ⟨fs', run, ready'⟩ := ready.runOn_read f
  refine ⟨fs', ?_, ?_⟩
  · rw [Disk.runOn_map, run]
    cases f c <;> rfl
  · rw [Call.written?_reading]
    exact ready'

/-- A write of a ready database answers from its catalog and leaves it ready with the next one. -/
theorem Ready.runOn_writing {α : Type} (ready : db.Ready directory name fs c) (answer : α → Answer)
    {f : Catalog → Except Error (α × Catalog)}
    (readsBack : ∀ a next, f c = .ok (a, next) → Catalog.decode (next.encode db.file.style) = .ok next) :
    ∃ fs', (answer <$> db.write f).runOn fs =
        ((Call.writing answer (f c)).map Prod.fst, fs') ∧
      db.Ready directory name fs' (((Call.writing answer (f c)).toOption.bind Prod.snd).getD c) := by
  rcases result : f c with error | ⟨a, next⟩
  · obtain ⟨fs', run, ready'⟩ := ready.runOn_write_error result
    refine ⟨fs', ?_, ready'⟩
    rw [Disk.runOn_map, run]
    rfl
  · obtain ⟨fs', run, ready'⟩ := ready.runOn_write_ok result (readsBack a next result)
    refine ⟨fs', ?_, ready'⟩
    rw [Disk.runOn_map, run]
    rfl

end Database

namespace Call

/-- A call answers what it does on the catalog, and leaves in the file what it leaves of the
catalog. -/
theorem runOn_eq {call : Call} (ready : db.Ready directory name fs c) (sound : call.Sound)
    (depth : ∀ next ∈ call.written? db.options c, next.toJson.depth ≤ maxDepth)
    (readsBack : ∀ next ∈ call.written? db.options c, next.toJson.ReadsBack) :
    ∃ fs', (call.run db).runOn fs = (call.answer db.options c, fs') ∧
      db.Ready directory name fs' (call.next db.options c) := by
  have storable : ∀ next ∈ call.written? db.options c,
      Catalog.decode (next.encode db.file.style) = .ok next := by
    intro next mem
    rw [Catalog.decode_encode_of_readsBack (wellFormed_written ready.wellFormed sound mem)
      (readsBack next mem), if_pos (depth next mem)]
  cases call with
  | createCollection collection definition =>
    rw [run_createCollection, Disk.runOn_bind, Disk.runOn_ofExcept]
    cases checked : Catalog.checkNewCollection db.options.enforceSchema collection definition with
    -- A refusal comes before the file is looked at, so nothing is touched, not even the lock file.
    | error error =>
      refine ⟨fs, ?_, ?_⟩
      · simp only [answer, effect, checked]
        rfl
      · simp only [Call.next, written?, effect, checked]
        exact ready
    | ok _ =>
      obtain ⟨fs', run, ready'⟩ := ready.runOn_writing (fun _ : Unit => Answer.done)
        (f := fun catalog => .ok ((), catalog.createCollection collection definition)) fun _ next result => by
          refine storable next ?_
          simp only [written?, effect, checked]
          cases result
          rfl
      refine ⟨fs', ?_, ?_⟩
      · simp only [run, answer, effect, checked]
        rfl
      · simp only [Call.next, written?, effect, checked]
        exact ready'
  | insert collection fields =>
    refine ready.runOn_writing .record fun r next result => storable next ?_
    simp only [written?, effect, result]
    rfl
  | select collection p => exact ready.runOn_reading .records _
  | delete collection p =>
    refine ready.runOn_writing .count fun count next result => storable next ?_
    simp only [written?, effect, result]
    rfl
  | update collection p patch =>
    refine ready.runOn_writing .count fun count next result => storable next ?_
    simp only [written?, effect, result]
    rfl
  | collectionNames => exact ready.runOn_reading .names _
  | schema collection => exact ready.runOn_reading .schema _

end Call

/-! ## Calls one after another -/

/-- Calls on a ready database are answered as on its catalog, one after another. -/
theorem Database.Ready.observe_eq (ready : db.Ready directory name fs c) {calls : List Call}
    (sound : ∀ call ∈ calls, call.Sound)
    (depth : ∀ next ∈ Catalog.written db.options calls c, next.toJson.depth ≤ maxDepth)
    (readsBack : ∀ next ∈ Catalog.written db.options calls c, next.toJson.ReadsBack) :
    db.observe calls fs = Catalog.observe db.options calls c := by
  induction calls generalizing fs c with
  | nil => rfl
  | cons call calls ih =>
    -- The catalog that the first call leaves is what the others start from, on both sides.
    obtain ⟨first, rest⟩ := List.forall_mem_cons.1 sound
    rw [Catalog.written] at depth readsBack
    obtain ⟨depthFirst, depthRest⟩ := List.forall_mem_append.1 depth
    obtain ⟨readsFirst, readsRest⟩ := List.forall_mem_append.1 readsBack
    obtain ⟨fs', run, ready'⟩ := Call.runOn_eq ready first
      (fun next mem => depthFirst next (by simpa using mem))
      (fun next mem => readsFirst next (by simpa using mem))
    rw [Database.observe, run, Catalog.observe]
    simp only [ready'.content_eq, ih ready' rest depthRest readsRest]

/-- A database whose file holds a catalog, with any settings, answers any calls as the catalog does,
and after each of them its file holds the catalog that the call leaves, as long as every catalog that
is written opens at most as many containers as can be read, and its doubles read back. -/
theorem Database.refines_catalog {calls : List Call} (content : db.file.content fs = .ok c)
    (unhindered : db.Unhindered fs) (sound : ∀ call ∈ calls, call.Sound)
    (depth : ∀ next ∈ Catalog.written db.options calls c, next.toJson.depth ≤ maxDepth)
    (readsBack : ∀ next ∈ Catalog.written db.options calls c, next.toJson.ReadsBack) :
    db.observe calls fs = Catalog.observe db.options calls c := by
  obtain ⟨directory, name, ready⟩ := unhindered.ready content
  exact ready.observe_eq sound depth readsBack

/-- A handle of a database with all settings on. -/
def Database.sample : Database where
  name := "notes"
  file := ⟨⟨["notes.json"]⟩, .atomic, .indented⟩
  options := ⟨.sequence, true, true⟩

/-- A file system in which the file of that database holds a catalog. -/
def FileSystem.sample : FileSystem :=
  (FileSystem.empty ["home"]).withNewFile ["home", "notes.json"] (Catalog.sample.encode .compact)

/-- A file system in which the file of that database holds the given catalog. -/
def FileSystem.holding (c : Catalog) : FileSystem :=
  (FileSystem.empty ["home"]).withNewFile ["home", "notes.json"] (c.encode .compact)

/-- A file with the text of a catalog holds that catalog. -/
theorem Database.content_holding {c : Catalog} (wf : c.WellFormed) (readsBack : c.toJson.ReadsBack)
    (depth : c.toJson.depth ≤ maxDepth) :
    Database.sample.file.content (FileSystem.holding c) = .ok c := by
  refine CatalogFile.content_ok.2 ⟨_, rfl, ?_⟩
  rw [Catalog.decode_encode_of_readsBack wf readsBack, if_pos depth]

theorem Database.content_sample :
    Database.sample.file.content FileSystem.sample = .ok Catalog.sample :=
  content_holding (by decide +kernel) (by decide +kernel) (by decide +kernel)

/-- Nothing is in the way of the sample database, whatever it holds. -/
theorem Database.unhindered_holding (c : Catalog) :
    Database.sample.Unhindered (FileSystem.holding c) := by
  constructor
  · intro lockFile
    exact ⟨_, _, rfl, List.not_mem_nil⟩
  · intro mode
    exact ⟨_, _, rfl, nofun⟩

/-- Calls of which three write, two read and one is refused. -/
def Call.samples : List Call :=
  [.insert "notes" [("title", .string "b"), ("_id", .null)],
    .update "notes" (some ⟨[("_id", .number (.int 3))]⟩) [("weight", .number (.float 2.5))],
    .delete "notes" (some ⟨[("title", .string "a")]⟩),
    .select "notes" none,
    .createCollection "" NameMap.empty,
    .collectionNames]

/-- The sample calls write three catalogs and are answered as on the catalog that they start
from. -/
theorem Database.refines_catalog_sample :
    (Catalog.written Database.sample.options Call.samples Catalog.sample).length = 3 ∧
    Database.sample.observe Call.samples FileSystem.sample =
      Catalog.observe Database.sample.options Call.samples Catalog.sample := by
  refine ⟨by decide +kernel, ?_⟩
  exact Database.refines_catalog Database.content_sample (Database.unhindered_holding _)
    (by decide +kernel) (by decide +kernel) (by decide +kernel)

end DocStore
