-- SUMMARY: Exactly when a database can be read after a write that succeeded.
import DocStore.Proofs.Database.Call
import DocStore.Proofs.Database.Cycle

/-!
# Reading after a write

Writing accepts any catalog, and reading does not: it refuses too many containers open at once, and a
double whose text is beyond the range of doubles when it is read. So a write can succeed and leave a
file that cannot be loaded any more. It does so exactly if the catalog that it wrote does not fit.
-/

namespace DocStore

variable {db : Database} {fs fs' : FileSystem} {c : Catalog}

/-- The content that a file has after a catalog was written to it. -/
def CatalogFile.contentOf (file : CatalogFile) (next : Catalog) : Except Error Catalog :=
  if next.toJson.Fits maxDepth then .ok next.reread
  else .error (.corruptCatalog file.path.text (.undecodable .malformed (next.encode file.style)))

/-- The content of a file with the bytes of a catalog in it. -/
theorem CatalogFile.content_of_encode {file : CatalogFile} {next : Catalog} (wf : next.WellFormed)
    (read : fs.read file.path = .ok (next.encode file.style)) :
    file.content fs = file.contentOf next := by
  rw [content, read]
  simp only [decode, Catalog.decode_encode wf, contentOf]
  split <;> rfl

/-- What the file holds after a write that succeeded. -/
theorem Database.content_of_write {α : Type} {f : Catalog → Except Error (α × Catalog)} {answer : α}
    (content : db.file.content fs = .ok c)
    (wellFormed : ∀ {answer next}, f c = .ok (answer, next) → next.WellFormed)
    (h : (db.write f).runOn fs = (.ok answer, fs')) :
    ∃ next, f c = .ok (answer, next) ∧ db.file.content fs' = db.file.contentOf next := by
  obtain ⟨next, applied, read⟩ := read_of_write content h
  exact ⟨next, applied, CatalogFile.content_of_encode (wellFormed applied) read⟩

namespace Call

/-- Whether a call is one that writes. -/
def isWrite : Call → Bool
  | .createCollection _ _ => true
  | .insert _ _ => true
  | .delete _ _ => true
  | .update _ _ _ => true
  | _ => false

/-- After a call that writes the file holds what the written catalog is read back as. -/
theorem content_of_writing {α : Type} {f : Catalog → Except Error (α × Catalog)} {tag : α → Answer}
    {answer : Answer} (content : db.file.content fs = .ok c)
    (wellFormed : ∀ {answer next}, f c = .ok (answer, next) → next.WellFormed)
    (h : (tag <$> db.write f).runOn fs = (.ok answer, fs')) :
    ∃ next, writing tag (f c) = .ok (answer, some next) ∧
      db.file.content fs' = db.file.contentOf next := by
  rw [Disk.runOn_map] at h
  rcases run : (db.write f).runOn fs with ⟨error | a, fs₁⟩
  · rw [run] at h
    cases h
  · rw [run] at h
    cases h
    obtain ⟨next, applied, after⟩ := Database.content_of_write content wellFormed run
    exact ⟨next, by rw [applied]; rfl, after⟩

/-- A write that succeeded did what it does on the catalog, and the file has the content of the
catalog that was written. -/
theorem content_of_run {call : Call} {answer : Answer} (content : db.file.content fs = .ok c)
    (sound : call.Sound) (writes : call.isWrite = true)
    (h : (call.run db).runOn fs = (.ok answer, fs')) :
    ∃ next, call.effect db.options c = .ok (answer, some next) ∧
      db.file.content fs' = db.file.contentOf next := by
  obtain ⟨bytes, _, decoded⟩ := CatalogFile.content_ok.1 content
  have wf := (Catalog.wellFormed_of_decode decoded).1
  cases call with
  | createCollection collection definition =>
    rw [run_createCollection, Disk.runOn_bind, Disk.runOn_ofExcept] at h
    rcases checked : Catalog.checkNewCollection db.options.enforceSchema collection definition
      with error | _
    · rw [checked] at h
      cases h
    · rw [checked] at h
      have result := content_of_writing content
        (fun result => by cases result; exact wf.createCollection collection definition) h
      simp only [effect, checked]
      exact result
  | insert collection fields => exact content_of_writing content (wf.insertRecord sound) h
  | delete collection p => exact content_of_writing content wf.deleteRecords h
  | update collection p patch => exact content_of_writing content (wf.updateRecords sound) h
  | select collection p => cases writes
  | collectionNames => cases writes
  | schema collection => cases writes

end Call

/-! ## Loading after a write -/

/-- After a write that succeeded the file can be loaded exactly if the catalog that was written opens
at most as many containers at once as can be read, and the text of each of its doubles denotes a
number. -/
theorem Call.load_after_write_iff {call : Call} {answer : Answer} (content : db.file.content fs = .ok c)
    (sound : call.Sound) (writes : call.isWrite = true)
    (h : (call.run db).runOn fs = (.ok answer, fs')) :
    ∃ next, call.effect db.options c = .ok (answer, some next) ∧
      ((∃ after, db.file.load.runOn fs' = (.ok after, fs')) ↔ next.toJson.Fits maxDepth) := by
  obtain ⟨next, effect, after⟩ := content_of_run content sound writes h
  refine ⟨next, effect, ?_⟩
  rw [CatalogFile.runOn_load, after, CatalogFile.contentOf]
  by_cases fits : next.toJson.Fits maxDepth
  · simp [fits]
  · simp [fits]

/-- A value inside so many arrays. -/
def Json.nested : Nat → Json
  | 0 => .bool true
  | n + 1 => .array [nested n]

/-- A handle of a database with all settings off. -/
def Database.plain : Database where
  name := "notes"
  file := ⟨⟨["notes.json"]⟩, .overwrite, .compact⟩
  options := ⟨.maxPlusOne, false, false⟩

def Catalog.holding (data : Option (List Record)) : Catalog :=
  Catalog.empty.withCollection "c" ⟨some NameMap.empty, data, none, []⟩

/-- A file system in which the file of that database holds a collection without records. -/
def FileSystem.plain : FileSystem :=
  (FileSystem.empty ["home"]).withNewFile ["home", "notes.json"] ((Catalog.holding none).encode .compact)

/-- The sample file holds one collection without records. -/
theorem Database.content_plain :
    Database.plain.file.content FileSystem.plain = .ok (Catalog.holding none) := by
  refine CatalogFile.content_ok.2 ⟨_, rfl, ?_⟩
  rw [Catalog.decode_encode_of_readsBack (by decide +kernel) (by decide +kernel),
    if_pos (by decide +kernel)]

/-- A record that is nested to any depth is inserted without a complaint. -/
theorem Catalog.insertRecord_nested (n : Nat) :
    (Catalog.holding none).insertRecord .maxPlusOne false "c" [("a", Json.nested (n + 1))] =
      .ok (⟨1, [("a", Json.nested (n + 1))]⟩,
        Catalog.holding (some [⟨1, [("a", Json.nested (n + 1))]⟩])) := rfl

/-- A value is inserted however deep it is. -/
theorem Database.runOn_insert_nested {directory : Place} {name : String}
    (ready : db.Ready directory name fs (Catalog.holding none))
    (policy : db.options.idPolicy = .maxPlusOne) (unchecked : db.options.enforceSchema = false)
    (n : Nat) :
    ∃ fs', (db.insert "c" [("a", Json.nested (n + 1))]).runOn fs =
        (.ok ⟨1, [("a", Json.nested (n + 1))]⟩, fs') ∧
      fs'.read db.path =
        .ok ((Catalog.holding (some [⟨1, [("a", Json.nested (n + 1))]⟩])).encode db.file.style) := by
  rw [insert, policy, unchecked]
  exact ready.runOn_write_returns (Catalog.insertRecord_nested n)

/-- The catalog with a record that is one array too deep to be read back: five containers stand around
its value, so that 128 are open at once. -/
def Catalog.lost : Catalog :=
  Catalog.holding (some [⟨1, [("a", Json.nested 123)]⟩])

/-- A database is lost by an insert that succeeds. -/
theorem Database.lost_after_insert {directory : Place} {name : String}
    (ready : db.Ready directory name fs (Catalog.holding none))
    (policy : db.options.idPolicy = .maxPlusOne) (unchecked : db.options.enforceSchema = false) :
    ∃ fs', (db.insert "c" [("a", Json.nested 123)]).runOn fs =
        (.ok ⟨1, [("a", Json.nested 123)]⟩, fs') ∧
      db.file.content fs' = .error (.corruptCatalog db.path.text
        (.undecodable .malformed (Catalog.lost.encode db.file.style))) := by
  obtain ⟨fs', inserted, read⟩ := runOn_insert_nested ready policy unchecked 122
  refine ⟨fs', inserted, ?_⟩
  have wf : Catalog.lost.WellFormed := by decide +kernel
  rw [CatalogFile.content_of_encode wf read, CatalogFile.contentOf, if_neg (by decide +kernel)]
  rfl

theorem Database.ready_plain :
    Database.plain.Ready ["home"] "notes.json" FileSystem.plain (Catalog.holding none) := by
  obtain ⟨bytes, read, decoded⟩ := CatalogFile.content_ok.1 content_plain
  cases read
  exact ⟨⟨⟨_, _, ⟨rfl, by decide, rfl⟩, decoded⟩, nofun⟩, nofun⟩

/-- After 122 nested arrays were inserted the file can still be loaded. -/
theorem Call.load_after_write_iff_nested : ∃ answer fs' after,
    ((Call.insert "c" [("a", Json.nested 122)]).run Database.plain).runOn FileSystem.plain =
      (.ok answer, fs') ∧ Database.plain.file.load.runOn fs' = (.ok after, fs') := by
  obtain ⟨fs', inserted, _⟩ := Database.runOn_insert_nested Database.ready_plain rfl rfl 121
  have run : ((Call.insert "c" [("a", Json.nested 122)]).run Database.plain).runOn FileSystem.plain =
      (.ok (.record ⟨1, [("a", Json.nested 122)]⟩), fs') := by
    rw [Call.run, Disk.runOn_map, inserted]
    rfl
  obtain ⟨next, effect, iff⟩ :=
    Call.load_after_write_iff Database.content_plain (by decide +kernel) rfl run
  have same : some (Catalog.holding (some [⟨1, [("a", Json.nested 122)]⟩])) = some next := by
    rw [Call.effect, show Database.plain.options.idPolicy = .maxPlusOne from rfl,
      show Database.plain.options.enforceSchema = false from rfl,
      Catalog.insertRecord_nested 121] at effect
    exact congrArg Prod.snd (Except.ok.inj effect)
  cases same
  obtain ⟨after, loaded⟩ := iff.2 (by decide +kernel)
  exact ⟨_, fs', after, run, loaded⟩

/-- One array more, and the database is lost: it can be loaded, an insert succeeds, and then it
cannot be loaded any more. -/
theorem Database.unreadable_after_insert :
    (∃ c, Database.plain.file.load.runOn FileSystem.plain = (.ok c, FileSystem.plain)) ∧
    ∃ r fs', (Database.plain.insert "c" [("a", Json.nested 123)]).runOn FileSystem.plain =
        (.ok r, fs') ∧
      Database.plain.file.load.runOn fs' =
        (.error (.corruptCatalog "notes.json" (.undecodable .malformed
          ((Catalog.holding (some [r])).encode .compact))), fs') := by
  refine ⟨⟨Catalog.holding none, by rw [CatalogFile.runOn_load, Database.content_plain]⟩, ?_⟩
  obtain ⟨fs', inserted, lost⟩ := Database.lost_after_insert Database.ready_plain rfl rfl
  refine ⟨_, fs', inserted, ?_⟩
  rw [CatalogFile.runOn_load, lost]
  rfl

end DocStore
