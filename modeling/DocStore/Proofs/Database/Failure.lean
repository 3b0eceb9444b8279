-- SUMMARY: What a failed operation leaves behind: the database file as it was, and at most a lock file more.
import DocStore.Proofs.Database.Call
import DocStore.Proofs.Database.Cycle
import DocStore.Proofs.Database.Readable
import DocStore.Proofs.FileSystem.Beside
import DocStore.Proofs.Store

/-!
# What a failure leaves behind

An operation can fail at many points: before the file is looked at, at the lock file, at loading, at
a check, at the second file and at the last step that moves it. Wherever it fails, the path of the
database leads to what it led to, byte for byte, and nothing else changed but two files beside it:
the lock file may have been created, and a second file that an earlier run left may be gone. The same
holds of an operation that only reads, also when it succeeds.
-/

namespace DocStore

open FileSystem (Frame Replaced)

/-! ## The lock file -/

namespace FileLock

variable {path : Path} {fs fs' : FileSystem}

/-- Whether nothing changed, except that the lock file may have been created. -/
def Opened (path : Path) (fs fs' : FileSystem) : Prop :=
  Frame [] fs fs' ∨
    ∃ place number, Replaced (pathFor path) place none (some (.file number .empty)) fs fs'

theorem Opened.trans_same {fs₁ : FileSystem} (opened : Opened path fs fs₁) (same : Frame [] fs₁ fs') :
    Opened path fs fs' := by
  rcases opened with unchanged | ⟨place, number, replaced⟩
  · exact .inl (unchanged.trans same)
  · exact .inr ⟨place, number, replaced.trans_same same⟩

theorem Opened.workingDirectory (opened : Opened path fs fs') :
    fs'.workingDirectory = fs.workingDirectory := by
  rcases opened with same | ⟨place, number, replaced⟩
  · exact same.workingDirectory
  · exact replaced.frame.workingDirectory

/-- Opening a lock file changes at most one place, at which an empty file comes to be. -/
theorem Opened.entryAt (opened : Opened path fs fs') (place : Place) :
    fs'.entryAt place = fs.entryAt place ∨
      fs.findToWrite (pathFor path) = .ok (place, none) ∧
        ∃ number, fs'.entryAt place = some (.file number .empty) := by
  rcases opened with same | ⟨lockPlace, number, replaced⟩
  · exact .inl (same.entryAt place List.not_mem_nil)
  · rcases replaced.eq_or_place place with same | rfl
    · exact .inl same
    · exact .inr ⟨replaced.looked, number, replaced.entry⟩

theorem opened_of_openOrCreate {number : Nat} (h : fs.openOrCreate (pathFor path) = .ok (number, fs')) :
    Opened path fs fs' ∧ fs'.locked = fs.locked := by
  obtain ⟨directory, name, found, leads, notDirectory, same⟩ := FileSystem.leads_of_openOrCreate h
  have notRoot : directory ++ [name] ≠ [] := by simp
  obtain ⟨rfl, rfl⟩ := Prod.mk.inj same
  refine ⟨?_, fs.locked_opened _ found⟩
  rcases found with _ | (_ | _ | _)
  · refine .inr ⟨directory ++ [name], fs.nextNumber, leads.findToWrite notDirectory, ?_,
      fs.frame_opened notRoot none, nofun⟩
    exact (FileSystem.entryAt_withEntry fs notRoot _ _).trans (if_pos rfl)
  · exact absurd rfl notDirectory
  · exact .inl (.refl _ _)
  · exact .inl (.refl _ _)

/-- Taking the lock creates its file at most, also when the lock is taken already. -/
theorem opened_of_acquire {result : Except Error Nat} (h : (acquire path).runOn fs = (result, fs')) :
    Opened path fs fs' ∧
      fs'.locked = match result with
        | .ok number => number :: fs.locked
        | .error _ => fs.locked := by
  simp only [acquire, Disk.runOn_bind, Disk.runOn_attempt] at h
  cases opens : fs.openOrCreate (pathFor path) with
  | error fault =>
    rw [opens] at h
    cases h
    exact ⟨.inl (.refl _ _), rfl⟩
  | ok result =>
    obtain ⟨number, fs₁⟩ := result
    obtain ⟨opened, locked⟩ := opened_of_openOrCreate opens
    simp only [opens, runOn_lockOpened] at h
    cases taken : fs₁.tryLock? number with
    | none =>
      rw [taken] at h
      cases h
      exact ⟨opened, locked⟩
    | some fs₂ =>
      rw [taken] at h
      cases h
      unfold FileSystem.tryLock? at taken
      split at taken
      · cases taken
      · cases taken
        exact ⟨opened.trans_same (fs₁.same_of_locked _), congrArg _ locked⟩

end FileLock

/-! ## The second file -/

namespace CatalogFile

variable {file : CatalogFile} {fs fs' : FileSystem}

/-- Whether nothing changed, except that a second file that was there may be gone. -/
def Tidied (file : CatalogFile) (fs fs' : FileSystem) : Prop :=
  Frame [] fs fs' ∨
    file.mode = .atomic ∧ ∃ place stale, Replaced file.tempPath place (some stale) none fs fs'

theorem Tidied.refl (file : CatalogFile) (fs : FileSystem) : file.Tidied fs fs :=
  .inl (.refl _ _)

theorem Tidied.trans_same {fs₁ : FileSystem} (tidied : file.Tidied fs fs₁) (same : Frame [] fs₁ fs') :
    file.Tidied fs fs' := by
  rcases tidied with unchanged | ⟨atomic, place, stale, replaced⟩
  · exact .inl (unchanged.trans same)
  · exact .inr ⟨atomic, place, stale, replaced.trans_same same⟩

theorem Tidied.workingDirectory (tidied : file.Tidied fs fs') :
    fs'.workingDirectory = fs.workingDirectory := by
  rcases tidied with same | ⟨_, place, stale, replaced⟩
  · exact same.workingDirectory
  · exact replaced.frame.workingDirectory

/-- Tidying up changes at most one place, at which a stale second file is gone. -/
theorem Tidied.entryAt (tidied : file.Tidied fs fs') (place : Place) :
    fs'.entryAt place = fs.entryAt place ∨
      file.mode = .atomic ∧ (∃ stale, fs.findToWrite file.tempPath = .ok (place, some stale)) ∧
        fs'.entryAt place = none := by
  rcases tidied with same | ⟨atomic, tempPlace, stale, replaced⟩
  · exact .inl (same.entryAt place List.not_mem_nil)
  · rcases replaced.eq_or_place place with same | rfl
    · exact .inl same
    · exact .inr ⟨atomic, ⟨stale, replaced.looked⟩, replaced.entry⟩

/-- The file system after the second file was discarded. -/
def discarded (file : CatalogFile) (fs : FileSystem) : FileSystem :=
  (fs.remove file.tempPath).toOption.getD fs

theorem runOn_discardTemp (file : CatalogFile) (fs : FileSystem) :
    file.discardTemp.runOn fs = (.ok (), file.discarded fs) :=
  Disk.runOn_attemptQuietly fs _

/-- Discarding the second file tidies up, and no lock changes hands. -/
theorem tidied_discarded (atomic : file.mode = .atomic) (fs : FileSystem) :
    file.Tidied fs (file.discarded fs) ∧ (file.discarded fs).locked = fs.locked := by
  unfold discarded
  cases removed : fs.remove file.tempPath with
  | error fault => exact ⟨.refl file fs, rfl⟩
  | ok fs' =>
    obtain ⟨place, stale, replaced, locked⟩ := FileSystem.replaced_of_remove removed
    exact ⟨.inr ⟨atomic, place, stale, replaced⟩, locked⟩

/-- Something that can be removed stands where a file was written: it was created, it was overwritten
or it is a device. -/
theorem leads_of_write {path : Path} {bytes : ByteArray} (h : fs.write path bytes = .ok fs') :
    ∃ directory name found entry, fs.findToWrite path = .ok (directory ++ [name], found) ∧
      fs'.Leads path directory name (some entry) ∧ entry ≠ .directory ∧
      Frame [directory ++ [name]] fs fs' ∧ fs'.locked = fs.locked := by
  obtain ⟨⟨place, found⟩, looked, _⟩ := bind_eq_ok.1 h
  obtain ⟨notDirectory, directory, name, rfl, leads⟩ := FileSystem.leads_of_findToWrite looked
  by_cases plain : FileSystem.IsPlain found
  · obtain ⟨fs₁, number, written, there, frame, locked⟩ := leads.write plain bytes
    cases h.symm.trans written
    exact ⟨directory, name, found, _, looked, there, by simp, frame, locked⟩
  · rcases found with _ | (_ | _ | number)
    · exact absurd (by simp [FileSystem.IsPlain]) plain
    · exact absurd rfl notDirectory
    · exact absurd (by simp [FileSystem.IsPlain, Entry.isFile]) plain
    · cases h.symm.trans (leads.write_device bytes).1
      exact ⟨directory, name, _, _, looked, leads, by simp, .refl _ _, rfl⟩

/-- What was written to the second file is removed again, whatever was found in its place. -/
theorem tidied_discarded_of_write {bytes : ByteArray} (atomic : file.mode = .atomic)
    (written : fs.write file.tempPath bytes = .ok fs') :
    file.Tidied fs (file.discarded fs') ∧ (file.discarded fs').locked = fs.locked := by
  obtain ⟨directory, name, found, entry, looked, leads, notDirectory, frame, locked⟩ :=
    leads_of_write written
  have notRoot : directory ++ [name] ≠ [] := by simp
  rw [discarded, leads.remove notDirectory]
  refine ⟨?_, locked⟩
  have removed := frame.trans (FileSystem.frame_withoutEntry fs' notRoot)
  have gone : (fs'.withoutEntry (directory ++ [name])).entryAt (directory ++ [name]) = none := by
    rw [FileSystem.entryAt_withoutEntry fs' notRoot, if_pos rfl]
  rcases FileSystem.same_or_replaced looked removed gone with same | ⟨stale, replaced⟩
  · exact .inl same
  · exact .inr ⟨atomic, _, stale, replaced⟩

theorem sync_ok {path : Path} (h : fs.sync path = .ok fs') : fs' = fs := by
  obtain ⟨⟨place, entry⟩, _, h⟩ := bind_eq_ok.1 h
  cases entry <;> cases h
  rfl

/-- The steps of an atomic replacement that fail have written the second file at most. -/
theorem written_of_error {bytes : ByteArray} {error : Error}
    (h : (do file.writeTemp bytes; file.moveTemp).runOn fs = (.error error, fs')) :
    fs' = fs ∨ fs.write file.tempPath bytes = .ok fs' := by
  simp only [writeTemp, moveTemp, Disk.runOn_bind, Disk.runOn_change] at h
  cases written : fs.write file.tempPath bytes with
  | error fault =>
    rw [written] at h
    cases h
    exact .inl rfl
  | ok fs₁ =>
    simp only [written] at h
    cases synced : fs₁.sync file.tempPath with
    | error fault =>
      rw [synced] at h
      cases h
      exact .inr rfl
    | ok fs₂ =>
      cases sync_ok synced
      simp only [synced] at h
      cases moved : fs₁.rename file.tempPath file.path with
      | error fault =>
        rw [moved] at h
        cases h
        exact .inr rfl
      | ok fs₂ =>
        rw [moved] at h
        cases h

/-- Storing that fails leaves at most the second file changed. -/
theorem tidied_of_store {c : Catalog} {error : Error}
    (h : (file.store c).runOn fs = (.error error, fs')) :
    file.Tidied fs fs' ∧ fs'.locked = fs.locked := by
  rw [store] at h
  cases mode : file.mode with
  | overwrite =>
    simp only [mode, overwrite, Disk.runOn_change] at h
    split at h
    · cases h
    · cases h
      exact ⟨.refl file _, rfl⟩
  | atomic =>
    simp only [mode, replaceAtomically, Disk.runOn_tryCatch] at h
    rcases attempt : (do file.writeTemp (c.encode file.style); file.moveTemp).runOn fs
      with ⟨fault | _, fs₁⟩
    · simp only [attempt, Disk.runOn_bind, runOn_discardTemp, Disk.runOn_throw] at h
      cases h
      rcases written_of_error attempt with rfl | written
      · exact tidied_discarded mode fs₁
      · exact tidied_discarded_of_write mode written
    · rw [attempt] at h
      cases h

end CatalogFile

/-! ## The whole database -/

namespace Database

variable {db : Database} {fs fs' fs₁ : FileSystem}

/-- Whether a database was spared: its path leads to what it led to, and nothing else changed but the
lock file, which may have been created, and a second file that was there, which may be gone. -/
structure Spared (db : Database) (fs fs' : FileSystem) : Prop where
  /-- The same file with the same bytes is found, or nothing, for the same reason. -/
  file : fs'.find db.path = fs.find db.path
  others : ∀ place, fs'.entryAt place = fs.entryAt place ∨
    (db.options.lockFile = true ∧ fs.findToWrite (FileLock.pathFor db.path) = .ok (place, none) ∧
      ∃ number, fs'.entryAt place = some (.file number .empty)) ∨
    (db.file.mode = .atomic ∧ (∃ stale, fs.findToWrite db.file.tempPath = .ok (place, some stale)) ∧
      fs'.entryAt place = none)
  workingDirectory : fs'.workingDirectory = fs.workingDirectory
  locked : fs'.locked = fs.locked

theorem Spared.refl (db : Database) (fs : FileSystem) : db.Spared fs fs :=
  ⟨rfl, fun _ => .inl rfl, rfl, rfl⟩

/-- A lock file that was opened does not change what the path of the database leads to. -/
theorem find_of_opened (opened : FileLock.Opened db.path fs fs') :
    fs'.find db.path = fs.find db.path := by
  rcases opened with same | ⟨place, number, replaced⟩
  · exact FileSystem.find_of_same same db.path
  · exact replaced.find (by decide)

/-- A second file that was discarded does not change what the path of the database leads to. -/
theorem find_of_tidied (tidied : db.file.Tidied fs fs') : fs'.find db.path = fs.find db.path := by
  rcases tidied with same | ⟨_, place, stale, replaced⟩
  · exact FileSystem.find_of_same same db.path
  · exact replaced.find (by decide)

/-- Where the second file stands does not depend on the lock file. -/
theorem findToWrite_of_opened {place : Place} {found : Option Entry}
    (opened : FileLock.Opened db.path fs fs')
    (looked : fs'.findToWrite db.file.tempPath = .ok (place, found)) :
    fs.findToWrite db.file.tempPath = .ok (place, found) := by
  rcases opened with same | ⟨place, number, replaced⟩
  · rwa [FileSystem.findToWrite_of_same same] at looked
  · exact replaced.findToWrite_of_ne (by decide) (by decide) (by decide) looked

/-- A database is spared if the lock file was opened, if it is used, and then the second file was
removed at most. -/
theorem spared_of_tidied (opened : FileLock.Opened db.path fs fs₁)
    (unused : db.options.lockFile = false → Frame [] fs fs₁) (tidied : db.file.Tidied fs₁ fs')
    (locked : fs'.locked = fs.locked) : db.Spared fs fs' where
  file := (find_of_tidied tidied).trans (find_of_opened opened)
  others place := by
    rcases tidied.entryAt place with same | ⟨atomic, ⟨stale, looked⟩, gone⟩
    · rw [same]
      cases lockFile : db.options.lockFile with
      | false => exact .inl ((unused lockFile).entryAt place List.not_mem_nil)
      | true =>
        rcases opened.entryAt place with same | created
        · exact .inl same
        · exact .inr (.inl ⟨rfl, created⟩)
    · exact .inr (.inr ⟨atomic, ⟨stale, findToWrite_of_opened opened looked⟩, gone⟩)
  workingDirectory := tidied.workingDirectory.trans opened.workingDirectory
  locked := locked

/-- Whatever runs under the lock file spares the database if by itself it removes the second file at
most. -/
theorem spared_of_locked {α : Type} {computation : Disk α} {result : Except Error α}
    (inner : ∀ {fs fs' : FileSystem}, computation.runOn fs = (result, fs') →
      db.file.Tidied fs fs' ∧ fs'.locked = fs.locked)
    (h : (db.locked computation).runOn fs = (result, fs')) : db.Spared fs fs' := by
  unfold Database.locked at h
  cases lockFile : db.options.lockFile with
  | false =>
    rw [lockFile] at h
    obtain ⟨tidied, locked⟩ := inner h
    exact spared_of_tidied (.inl (.refl _ _)) (fun _ => .refl _ _) tidied locked
  | true =>
    rw [lockFile, if_pos rfl, FileLock.runOn_hold_eq] at h
    have used : ∀ {fs₁}, db.options.lockFile = false → Frame [] fs fs₁ := fun unused => by
      cases lockFile.symm.trans unused
    rcases acquired : (FileLock.acquire db.path).runOn fs with ⟨error | number, fs₁⟩
    · obtain ⟨opened, locked⟩ := FileLock.opened_of_acquire acquired
      rw [acquired] at h
      cases h
      exact spared_of_tidied opened used (.refl _ _) locked
    · obtain ⟨opened, locked⟩ := FileLock.opened_of_acquire acquired
      rcases run : computation.runOn fs₁ with ⟨_, fs₂⟩
      simp only [acquired, run] at h
      cases h
      obtain ⟨tidied, innerLocked⟩ := inner run
      refine spared_of_tidied opened used (tidied.trans_same (fs₂.same_of_locked _)) ?_
      -- The lock that was taken is given back, and no other one.
      rw [FileSystem.unlock, innerLocked, locked, List.erase_cons_head]

/-! ## Operations -/

/-- A read spares the database, whatever comes of it. -/
theorem spared_of_read {α : Type} {f : Catalog → Except Error α} {result : Except Error α}
    (h : (db.read f).runOn fs = (result, fs')) : db.Spared fs fs' := by
  refine spared_of_locked (fun {fs fs'} run => ?_) h
  rw [Disk.runOn_bind, CatalogFile.runOn_load] at run
  cases content : db.file.content fs with
  | error error =>
    rw [content] at run
    cases run
    exact ⟨.refl _ _, rfl⟩
  | ok c =>
    rw [content] at run
    cases run
    exact ⟨.refl _ _, rfl⟩

/-- A write that fails spares the database. -/
theorem spared_of_write {α : Type} {f : Catalog → Except Error (α × Catalog)} {error : Error}
    (h : (db.write f).runOn fs = (.error error, fs')) : db.Spared fs fs' := by
  rw [write_eq] at h
  refine spared_of_locked (fun {fs fs'} run => ?_) h
  cases content : db.file.content fs with
  | error fault =>
    simp only [cycle, Disk.runOn_bind, CatalogFile.runOn_load, content] at run
    cases run
    exact ⟨.refl _ _, rfl⟩
  | ok c =>
    rw [runOn_cycle f content] at run
    split at run
    · cases run
      exact ⟨.refl _ _, rfl⟩
    · split at run
      · cases run
      · rename_i stored
        cases run
        exact CatalogFile.tidied_of_store stored

/-- A reset that fails spares the database. -/
theorem spared_of_reset {c : Catalog} {error : Error}
    (h : (db.reset c).runOn fs = (.error error, fs')) : db.Spared fs fs' :=
  spared_of_locked CatalogFile.tidied_of_store h

end Database

namespace Call

variable {db : Database} {fs fs' : FileSystem} {call : Call}

theorem spared_of_reading {α : Type} {f : Catalog → Except Error α} {tag : α → Answer}
    {result : Except Error Answer} (h : (tag <$> db.read f).runOn fs = (result, fs')) :
    db.Spared fs fs' := by
  rw [Disk.runOn_map] at h
  cases h
  exact Database.spared_of_read rfl

theorem spared_of_writing {α : Type} {f : Catalog → Except Error (α × Catalog)} {tag : α → Answer}
    {error : Error} (h : (tag <$> db.write f).runOn fs = (.error error, fs')) : db.Spared fs fs' := by
  rw [Disk.runOn_map] at h
  rcases run : (db.write f).runOn fs with ⟨fault | a, fs₁⟩
  · rw [run] at h
    cases h
    exact Database.spared_of_write run
  · rw [run] at h
    cases h

/-- A call that fails spares the database. -/
theorem spared_of_error {error : Error} (h : (call.run db).runOn fs = (.error error, fs')) :
    db.Spared fs fs' := by
  cases call with
  | createCollection collection definition =>
    rw [run_createCollection, Disk.runOn_bind, Disk.runOn_ofExcept] at h
    cases checked : Catalog.checkNewCollection db.options.enforceSchema collection definition with
    | error fault =>
      rw [checked] at h
      cases h
      exact .refl db _
    | ok _ =>
      rw [checked] at h
      exact spared_of_writing h
  | insert collection fields => exact spared_of_writing h
  | delete collection p => exact spared_of_writing h
  | update collection p patch => exact spared_of_writing h
  | select collection p => exact spared_of_reading h
  | collectionNames => exact spared_of_reading h
  | schema collection => exact spared_of_reading h

/-- A call that only reads spares the database, whether it fails or not. -/
theorem spared_of_not_isWrite {result : Except Error Answer} (reads : call.isWrite = false)
    (h : (call.run db).runOn fs = (result, fs')) : db.Spared fs fs' := by
  cases call with
  | select collection p => exact spared_of_reading h
  | collectionNames => exact spared_of_reading h
  | schema collection => exact spared_of_reading h
  | createCollection collection definition => cases reads
  | insert collection fields => cases reads
  | delete collection p => cases reads
  | update collection p patch => cases reads

end Call

namespace Store

variable {store : Store} {name : String} {fs fs' : FileSystem}

/-- Whether the database of a name was spared; where no database may have the name, nothing changed
at all. -/
def Spared (store : Store) (name : String) (fs fs' : FileSystem) : Prop :=
  match store.databasePath name with
  | .ok path => (store.handle name path).Spared fs fs'
  | .error _ => fs' = fs

/-- A database that could not be created is spared with what was there before. -/
theorem spared_of_createDatabase {error : Error}
    (h : (store.createDatabase name).runOn fs = (.error error, fs')) : store.Spared name fs fs' := by
  rw [runOn_createDatabase] at h
  unfold Spared
  cases checked : store.databasePath name with
  | error fault =>
    rw [checked] at h
    cases h
    rfl
  | ok path =>
    simp only [checked, Disk.runOn_map] at h
    rcases run : ((store.handle name path).reset Catalog.empty).runOn fs with ⟨fault | _, fs₁⟩
    · rw [run] at h
      cases h
      exact Database.spared_of_reset run
    · rw [run] at h
      cases h

/-- Connecting spares the database, whatever comes of it. -/
theorem spared_of_connect {result : Except Error Database}
    (h : (store.connect name).runOn fs = (result, fs')) : store.Spared name fs fs' := by
  rw [runOn_connect] at h
  unfold Spared
  cases checked : store.databasePath name with
  | error fault =>
    rw [checked] at h
    cases h
    rfl
  | ok path =>
    simp only [checked, Disk.runOn_map] at h
    split at h
    · cases h
      exact Database.spared_of_read rfl
    · cases h
      exact .refl _ _

end Store

/-- Whatever stands where the database file, the lock file and the second file are to be, and whoever
holds the lock: a call that fails spares the database, and so does one that only reads, whether it
fails or not; creating a database that fails spares what was there, and so does connecting. -/
theorem Database.spared_unless_written (fs : FileSystem) :
    (∀ (db : Database) (call : Call) error fs',
      (call.run db).runOn fs = (.error error, fs') → db.Spared fs fs') ∧
    (∀ (db : Database) (call : Call) result fs', call.isWrite = false →
      (call.run db).runOn fs = (result, fs') → db.Spared fs fs') ∧
    (∀ (store : Store) name error fs',
      (store.createDatabase name).runOn fs = (.error error, fs') → store.Spared name fs fs') ∧
    ∀ (store : Store) name result fs',
      (store.connect name).runOn fs = (result, fs') → store.Spared name fs fs' := by
  refine ⟨?_, ?_, ?_, ?_⟩
  · intro db call error fs' failed
    exact Call.spared_of_error failed
  · intro db call result fs' reads run
    exact Call.spared_of_not_isWrite reads run
  · intro store name error fs' failed
    exact Store.spared_of_createDatabase failed
  · intro store name result fs' run
    exact Store.spared_of_connect run

/-- A store in the directory of a user with all settings on. -/
def Store.sample : Store :=
  ⟨⟨["", "home"]⟩, Config.standard, .atomic, ⟨.sequence, true, true⟩⟩

theorem Store.databasePath_sample :
    Store.sample.databasePath "notes" = .ok ⟨["", "home", "notes.json"]⟩ := by
  have checked : Name.checkDatabase "notes" = .ok () := by decide +kernel
  rw [Store.databasePath, checked]
  rfl

/-- A file system in which a directory stands in the place of a database file, and beside it a second
file that an earlier run left. -/
def FileSystem.obstructed : FileSystem :=
  ((FileSystem.empty ["home"]).withEntry ["home", "notes.json"] .directory).withNewFile
    ["home", "notes.json.tmp"] .empty

/-- A creation that fails halfway takes the stale second file away and leaves a lock file behind. -/
theorem Database.spared_unless_written_obstructed : ∃ error fs',
    (Store.sample.createDatabase "notes").runOn FileSystem.obstructed = (.error error, fs') ∧
      Store.sample.Spared "notes" FileSystem.obstructed fs' ∧
      fs'.entryAt ["home", "notes.json.tmp"] = none ∧
      fs'.entryAt ["home", "notes.json.lock"] = some (.file 1 .empty) := by
  obtain ⟨_, _, create, _⟩ := Database.spared_unless_written FileSystem.obstructed
  have run := Store.sample.runOn_createDatabase "notes" FileSystem.obstructed
  rw [Store.databasePath_sample] at run
  have failed : ((Store.sample.createDatabase "notes").runOn FileSystem.obstructed).1 =
      .error (.io "/home/notes.json" .isDirectory) := by
    rw [run]
    rfl
  refine ⟨_, _, Prod.ext failed rfl, create _ _ _ _ (Prod.ext failed rfl), ?_, ?_⟩
  · rw [run]
    rfl
  · rw [run]
    rfl

end DocStore
