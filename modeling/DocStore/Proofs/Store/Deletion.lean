-- SUMMARY: Deleting a database is all or nothing, unless what stands for its lock file cannot be removed and nobody looks.
import DocStore.Proofs.Database.Interchange
import DocStore.Proofs.Shell.Session
import DocStore.Proofs.Store.Separation

/-!
# Deleting a database

A deletion removes two files, one after the other. With the setting for it the lock file is opened
before anything is removed, so what would hinder the second removal hinders the first one too. Without
the setting nobody looks: if a directory stands in the place of the lock file, or if its path is too
long, the database file is gone by the time that the second removal fails. The deletion reports an
error then, and a session stays connected to a database that is not there.

There is no other way to do half of it.
-/

namespace DocStore

open FileSystem (Frame Replaced maxNameSize maxPathSize pathFault?)

variable {store : Store} {name : String} {path : Path} {fs fs' : FileSystem}
variable {directory : Place} {fileName : String} {found lock : Option Entry}

/-! ## The place of the lock file -/

/-- Whether what the path of the lock file of a database leads to could not be removed: it is a
directory, or the path is longer than a path may be. -/
def FileLock.IsStuck (path : Path) (fs : FileSystem) : Prop :=
  fs.isDirectory (FileLock.pathFor path) = true ∨ maxPathSize < (FileLock.pathFor path).text.utf8ByteSize

namespace FileSystem

theorem Leads.find_nothing (leads : fs.Leads path directory fileName none) :
    fs.find path = .error .notFound := by
  simp only [FileSystem.find, leads.resolved, leads.lookup, ok_bind]
  rfl

theorem Leads.isDirectory_iff (leads : fs.Leads path directory fileName found) :
    fs.isDirectory path = true ↔ found = some .directory := by
  cases found with
  | none => simp [isDirectory, leadsTo, leads.find_nothing]
  | some entry =>
    rw [isDirectory, leadsTo, leads.find]
    cases entry <;> simp [Entry.isDirectory]

theorem Leads.withoutEntry (leads : fs.Leads path directory fileName found)
    (notDirectory : found ≠ some .directory) :
    (fs.withoutEntry (directory ++ [fileName])).Leads path directory fileName none := by
  have gone := leads.of_frame (fs.frame_withoutEntry (show directory ++ [fileName] ≠ [] by simp))
    (noDirectory_singleton leads notDirectory)
  rwa [fs.entryAt_withoutEntry_self] at gone

end FileSystem

namespace Store

theorem isValid_of_databasePath (checked : store.databasePath name = .ok path) :
    Name.IsValid name := by
  apply Decidable.by_contra
  intro invalid
  obtain ⟨_, refused⟩ := store.databasePath_error invalid
  cases checked.symm.trans refused

theorem utf8ByteSize_le_of_databasePath (checked : store.databasePath name = .ok path) :
    name.utf8ByteSize ≤ 128 := by
  have valid := isValid_of_databasePath checked
  rw [Name.utf8ByteSize_eq_length fun c mem => (valid.allowed c mem).utf8Size]
  exact valid.short

/-- Where a path of a database leads to a name, the path of its lock file leads to the name with the
ending, unless it is too long. -/
theorem leads_lock_or_tooLong (checked : store.databasePath name = .ok path)
    (leads : fs.Leads path directory fileName found) :
    (∃ lock, fs.Leads (FileLock.pathFor path) directory (fileName ++ FileLock.ending) lock ∧
      (FileLock.IsStuck path fs ↔ lock = some .directory)) ∨
    (FileLock.IsStuck path fs ∧ pathFault? (FileLock.pathFor path) = some .nameTooLong) := by
  obtain rfl := databasePath_ok checked
  have followed := FileSystem.pathFault?_of_resolve leads.resolved
  have ofLock : pathFault? (FileLock.pathFor (store.directory.child (name ++ ending))) = _ :=
    FileSystem.pathFault?_withEnding followed rfl (by decide)
  by_cases long : maxPathSize <
      (FileLock.pathFor (store.directory.child (name ++ ending))).text.utf8ByteSize
  · rw [← FileLock.pathFor, if_pos long] at ofLock
    exact .inr ⟨.inr long, ofLock⟩
  · rw [← FileLock.pathFor, if_neg long] at ofLock
    have short : ¬maxNameSize < (fileName ++ FileLock.ending).utf8ByteSize := by
      have bound := utf8ByteSize_le_of_databasePath checked
      have endings : ending.utf8ByteSize = 5 ∧ FileLock.ending.utf8ByteSize = 5 := by decide
      rw [fileName_of_resolve leads.resolved, String.utf8ByteSize_append, String.utf8ByteSize_append,
        endings.1, endings.2, maxNameSize]
      omega
    have beside := leads.withEnding (by decide) ofLock short
    exact .inl ⟨_, beside, (or_iff_left long).trans beside.isDirectory_iff⟩

/-! ## Removing what need not be there -/

/-- After the removal of a file that need not be there, there is none. -/
theorem runOn_removeIfPresent_ok (leads : fs.Leads path directory fileName found)
    (notDirectory : found ≠ some .directory) :
    ∃ fs', (removeIfPresent path).runOn fs = (.ok (), fs') ∧ fs'.Leads path directory fileName none ∧
      Frame [directory ++ [fileName]] fs fs' ∧ fs'.locked = fs.locked := by
  rw [removeIfPresent, Disk.runOn_change]
  cases found with
  | none =>
    rw [leads.remove_nothing]
    exact ⟨fs, rfl, leads, .refl _ _, rfl⟩
  | some entry =>
    rw [leads.remove fun isDirectory => notDirectory (congrArg some isDirectory)]
    exact ⟨_, rfl, leads.withoutEntry notDirectory, fs.frame_withoutEntry (by simp), rfl⟩

theorem runOn_removeIfPresent_directory
    (leads : fs.Leads path directory fileName (some .directory)) :
    (removeIfPresent path).runOn fs = (.error (.io path.text .isDirectory), fs) := by
  rw [removeIfPresent, Disk.runOn_change, leads.remove_directory]

/-- A lock file whose path is too long is not taken for a missing one. -/
theorem runOn_removeIfPresent_tooLong (tooLong : pathFault? path = some .nameTooLong) :
    (removeIfPresent path).runOn fs = (.error (.io path.text .nameTooLong), fs) := by
  have removed : fs.remove path = .error .nameTooLong := by
    simp only [FileSystem.remove, FileSystem.resolve, tooLong]
    rfl
  rw [removeIfPresent, Disk.runOn_change, removed]

/-! ## The two removals -/

/-- Whether the file of a database and its lock file are gone, and nothing else changed. -/
structure Deleted (path : Path) (directory : Place) (fileName : String) (fs fs' : FileSystem) : Prop where
  file : fs'.Leads path directory fileName none
  lock : fs'.Leads (FileLock.pathFor path) directory (fileName ++ FileLock.ending) none
  frame : Frame [directory ++ [fileName], directory ++ [fileName ++ FileLock.ending]] fs fs'
  locked : fs'.locked = fs.locked

theorem lockPlace_ne (directory : Place) (fileName : String) :
    directory ++ [fileName ++ FileLock.ending] ≠ directory ++ [fileName] :=
  FileSystem.place_ne_self directory fileName (by decide)

/-- The second removal completes the first one if no directory is in its way. -/
theorem deleted_of_removeIfPresent (leads : fs.Leads path directory fileName found)
    (notDirectory : found ≠ some .directory)
    (lockLeads : fs.Leads (FileLock.pathFor path) directory (fileName ++ FileLock.ending) lock)
    (free : lock ≠ some .directory) :
    ∃ fs', (removeIfPresent (FileLock.pathFor path)).runOn
        (fs.withoutEntry (directory ++ [fileName])) = (.ok (), fs') ∧
      Deleted path directory fileName fs fs' := by
  have frame := fs.frame_withoutEntry (show directory ++ [fileName] ≠ [] by simp)
  have apart := lockPlace_ne directory fileName
  -- The lock file is where it was once the database file is gone, and the other way round.
  have lockAfter := lockLeads.of_frame_of_not_mem frame
    (FileSystem.noDirectory_singleton leads notDirectory) (by simpa using apart)
  obtain ⟨fs', ran, gone, lockFrame, locked⟩ := runOn_removeIfPresent_ok lockAfter free
  have after := (leads.withoutEntry notDirectory).of_frame_of_not_mem lockFrame
    (FileSystem.noDirectory_singleton lockAfter free) (by simpa using apart.symm)
  refine ⟨fs', ran, after, gone, ?_, locked⟩
  exact (frame.mono (by simp)).trans (lockFrame.mono (by simp))

/-- Opening the lock file changes nothing but what stands beside the database file. -/
theorem leads_of_opened (leads : fs.Leads path directory fileName found)
    (opened : FileLock.Opened path fs fs') :
    fs'.Leads path directory fileName found ∧
      Frame [directory ++ [fileName ++ FileLock.ending]] fs fs' := by
  rcases opened with same | ⟨place, number, replaced⟩
  · exact ⟨leads.of_frame_of_not_mem same nofun nofun, same.mono nofun⟩
  · obtain ⟨notDirectory, _, _, rfl, lockLeads⟩ := FileSystem.leads_of_findToWrite replaced.looked
    cases FileSystem.resolve_withEnding leads.resolved (by decide) lockLeads.resolved
    refine ⟨leads.of_frame_of_not_mem replaced.frame
      (FileSystem.noDirectory_singleton lockLeads notDirectory) ?_, replaced.frame⟩
    simpa using (lockPlace_ne directory fileName).symm

/-- Under the lock file a deletion fails before anything is removed, or not at all. -/
theorem deleteDatabase_locked {number : Nat} {content : ByteArray}
    (checked : store.databasePath name = .ok path) (lockFile : store.options.lockFile = true)
    (leads : fs.Leads path directory fileName (some (.file number content))) :
    (∃ error fs', (store.deleteDatabase name).runOn fs = (.error error, fs') ∧
      FileLock.Opened path fs fs' ∧ fs'.locked = fs.locked) ∨
    ∃ fs', (store.deleteDatabase name).runOn fs = (.ok (), fs') ∧
      Deleted path directory fileName fs fs' := by
  simp only [runOn_deleteDatabase, checked, leads.isFile, if_true, Disk.runOn_bind]
  rw [Database.removeFile, Database.locked, handle, lockFile, if_pos rfl, FileLock.runOn_hold_eq,
    Database.path]
  rcases acquired : (FileLock.acquire path).runOn fs with ⟨error | held, fs₁⟩
  · exact .inl ⟨error, fs₁, rfl, FileLock.opened_of_acquire acquired⟩
  · obtain ⟨opened, locked⟩ := FileLock.opened_of_acquire acquired
    obtain ⟨⟨_, _, entry, lockLeads, numbered⟩, _⟩ := FileLock.acquire_ok acquired
    obtain ⟨leads₁, frame⟩ := leads_of_opened leads opened
    cases FileSystem.resolve_withEnding leads₁.resolved (by decide) lockLeads.resolved
    have notDirectory : entry ≠ .directory := by
      rintro rfl
      cases numbered
    -- The lock file stands when the database file is removed, so it can be removed after that.
    obtain ⟨fs', ran, deleted⟩ := deleted_of_removeIfPresent (leads₁.unlock held) (by simp)
      (lockLeads.unlock held) (by simpa using notDirectory)
    refine .inr ⟨fs', ?_, deleted.file, deleted.lock, ?_, ?_⟩
    · simp only [Disk.runOn_change, leads₁.remove (by simp)]
      exact ran
    · exact (frame.mono (by simp)).trans
        (((fs₁.same_of_locked _).mono (by simp)).trans deleted.frame)
    · rw [deleted.locked, FileSystem.unlock, locked, List.erase_cons_head]

/-- Without the lock file nothing is looked at before the database file is removed. -/
theorem runOn_deleteDatabase_unlocked {number : Nat} {content : ByteArray}
    (checked : store.databasePath name = .ok path) (unlocked : store.options.lockFile = false)
    (leads : fs.Leads path directory fileName (some (.file number content))) :
    (store.deleteDatabase name).runOn fs =
      (removeIfPresent (FileLock.pathFor path)).runOn (fs.withoutEntry (directory ++ [fileName])) := by
  have removed : (store.handle name path).removeFile.runOn fs =
      (.ok (), fs.withoutEntry (directory ++ [fileName])) := by
    rw [Database.removeFile, Database.locked, handle, unlocked, if_neg (by decide), Disk.runOn_change,
      Database.path, leads.remove (by simp)]
  simp only [runOn_deleteDatabase, checked, leads.isFile, if_true, Disk.runOn_bind, removed]

/-! ## All or nothing -/

/-- Whether a deletion removes the database file and fails after that: the setting for the lock file is
off, so that what stands in its place is met too late. -/
def Trapped (store : Store) (name : String) (fs : FileSystem) : Prop :=
  ∃ path, store.databasePath name = .ok path ∧ fs.isFile path = true ∧
    store.options.lockFile = false ∧ FileLock.IsStuck path fs

/-- In the trap the deletion reports an error, and the database is gone. -/
theorem Trapped.half_deleted (trapped : store.Trapped name fs) :
    ∃ path fault fs', store.databasePath name = .ok path ∧
      (store.deleteDatabase name).runOn fs = (.error (.io (FileLock.pathFor path).text fault), fs') ∧
      (∃ place number content, fs.find path = .ok (place, .file number content)) ∧
      fs'.find path = .error .notFound := by
  obtain ⟨path, checked, isFile, unlocked, stuck⟩ := trapped
  obtain ⟨directory, fileName, number, content, leads⟩ := FileSystem.leads_of_isFile isFile
  have gone := (leads.withoutEntry nofun).find_nothing
  have ran := runOn_deleteDatabase_unlocked checked unlocked leads
  have was : ∃ place number content, fs.find path = .ok (place, .file number content) :=
    ⟨_, _, _, leads.find⟩
  rcases leads_lock_or_tooLong checked leads with ⟨lock, lockLeads, stuck_iff⟩ | ⟨_, tooLong⟩
  · obtain rfl := stuck_iff.1 stuck
    have lockAfter := lockLeads.of_frame_of_not_mem (fs.frame_withoutEntry (by simp))
      (FileSystem.noDirectory_singleton leads nofun) (by simpa using lockPlace_ne directory fileName)
    rw [runOn_removeIfPresent_directory lockAfter] at ran
    exact ⟨path, _, _, checked, ran, was, gone⟩
  · rw [runOn_removeIfPresent_tooLong tooLong] at ran
    exact ⟨path, _, _, checked, ran, was, gone⟩

/-- Outside the trap a deletion fails and opened the lock file at most, or it removes both files. -/
theorem deleteDatabase_cases (free : ¬store.Trapped name fs) :
    (∃ error fs', (store.deleteDatabase name).runOn fs = (.error error, fs') ∧
      (fs' = fs ∨ ∃ path, store.databasePath name = .ok path ∧ FileLock.Opened path fs fs' ∧
        fs'.locked = fs.locked)) ∨
    ∃ fs' path directory fileName, (store.deleteDatabase name).runOn fs = (.ok (), fs') ∧
      store.databasePath name = .ok path ∧ Deleted path directory fileName fs fs' := by
  cases checked : store.databasePath name with
  | error error =>
    refine .inl ⟨error, fs, ?_, .inl rfl⟩
    simp only [runOn_deleteDatabase, checked]
  | ok path =>
    by_cases isFile : fs.isFile path = true
    · obtain ⟨directory, fileName, number, content, leads⟩ := FileSystem.leads_of_isFile isFile
      cases lockFile : store.options.lockFile with
      | true =>
        rcases deleteDatabase_locked checked lockFile leads with
          ⟨error, fs', ran, opened⟩ | ⟨fs', ran, deleted⟩
        · exact .inl ⟨error, fs', ran, .inr ⟨path, rfl, opened⟩⟩
        · exact .inr ⟨fs', path, directory, fileName, ran, rfl, deleted⟩
      | false =>
        have notStuck : ¬FileLock.IsStuck path fs := by
          intro stuck
          exact free ⟨path, checked, isFile, lockFile, stuck⟩
        rcases leads_lock_or_tooLong checked leads with ⟨lock, lockLeads, stuck_iff⟩ | ⟨stuck, _⟩
        · obtain ⟨fs', ran, deleted⟩ :=
            deleted_of_removeIfPresent leads nofun lockLeads (mt stuck_iff.2 notStuck)
          rw [← runOn_deleteDatabase_unlocked checked lockFile leads] at ran
          exact .inr ⟨fs', path, directory, fileName, ran, rfl, deleted⟩
        · exact absurd stuck notStuck
    · refine .inl ⟨.databaseNotFound name, fs, ?_, .inl rfl⟩
      simp only [runOn_deleteDatabase, checked, if_neg isFile]

/-- No file of a database is the lock file of another one. -/
theorem find_of_opened {other : String} {otherPath : Path}
    (checked : store.databasePath name = .ok path)
    (otherChecked : store.databasePath other = .ok otherPath)
    (opened : FileLock.Opened path fs fs') : fs'.find otherPath = fs.find otherPath := by
  obtain rfl := databasePath_ok checked
  obtain rfl := databasePath_ok otherChecked
  rcases opened with same | ⟨place, number, replaced⟩
  · exact FileSystem.find_of_same same _
  · have apart : other ++ ".json" ≠ name ++ ".json.lock" := by
      intro same
      have endings := Name.append_inj (isValid_of_databasePath otherChecked)
        (isValid_of_databasePath checked) (by decide) (by decide) same
      exact absurd endings.2 (by decide)
    rw [ending, lockPath_eq] at replaced
    exact replaced.find_sibling (by simp) (by simp [ending]) apart

open Shell (Session Act)

/-- Whether a deletion does all of it or nothing. -/
structure AllOrNothing (store : Store) (name : String) (fs : FileSystem) : Prop where
  /-- One that fails leaves every database of the store as it was, byte for byte. -/
  spared : ∀ error fs', (store.deleteDatabase name).runOn fs = (.error error, fs') →
    ∀ other path, store.databasePath other = .ok path → fs'.find path = fs.find path
  /-- And nothing else changes, but that the lock file may have been created. -/
  untouched : ∀ error fs', (store.deleteDatabase name).runOn fs = (.error error, fs') →
    fs' = fs ∨ ∃ path, store.databasePath name = .ok path ∧ FileLock.Opened path fs fs' ∧
      fs'.locked = fs.locked
  /-- One that succeeds takes the database file and the lock file away, and nothing else. -/
  deleted : ∀ fs', (store.deleteDatabase name).runOn fs = (.ok (), fs') →
    ∃ path directory fileName, store.databasePath name = .ok path ∧
      Deleted path directory fileName fs fs'
  /-- A session in which dropping the database fails is connected as before, to a database that is as
  it was. -/
  usable : ∀ session : Session, session.store = store → session.Sound → ∀ error session' fs',
    (Act.command (.dropDatabase name)).run.runOn session fs = (.error error, session', fs') →
      session' = session ∧ ∀ db ∈ session.current, fs'.find db.path = fs.find db.path

theorem Trapped.not_allOrNothing (trapped : store.Trapped name fs) : ¬store.AllOrNothing name fs := by
  intro allOrNothing
  obtain ⟨path, fault, fs', checked, ran, ⟨_, _, _, was⟩, gone⟩ := trapped.half_deleted
  have spared := allOrNothing.spared _ _ ran name path checked
  rw [gone, was] at spared
  cases spared

/-- A drop that fails leaves the session connected, whatever it has removed. -/
theorem runOn_dropDatabase_error {session session' : Session} {error : Shell.SessionError}
    (h : (Act.command (.dropDatabase name)).run.runOn session fs = (.error error, session', fs')) :
    session' = session ∧
      ∃ cause, (session.store.deleteDatabase name).runOn fs = (.error cause, fs') := by
  refine ⟨(Session.moves_of_run h).eq_of_error, ?_⟩
  rw [Act.run_dropDatabase, Shell.SessionM.runOn_session_bind, Shell.SessionM.runOn_disk_bind] at h
  rcases ran : (session.store.deleteDatabase name).runOn fs with ⟨cause | _, fs₁⟩
  · rw [ran] at h
    cases h
    exact ⟨cause, rfl⟩
  · rw [ran] at h
    by_cases connected : session.databaseName? = some name
    · simp only [connected, BEq.rfl, if_true] at h
      cases h
    · simp only [beq_iff_eq, connected, if_false] at h
      cases h

/-- Whatever stands in the data directory, whatever the settings and whatever the name: deleting a
database is all or nothing, unless it is trapped. -/
theorem deleteDatabase_all_or_nothing_iff (store : Store) (name : String) (fs : FileSystem) :
    store.AllOrNothing name fs ↔ ¬store.Trapped name fs := by
  constructor
  · intro allOrNothing trapped
    exact trapped.not_allOrNothing allOrNothing
  · intro free
    have untouched : ∀ error fs', (store.deleteDatabase name).runOn fs = (.error error, fs') →
        fs' = fs ∨ ∃ path, store.databasePath name = .ok path ∧ FileLock.Opened path fs fs' ∧
          fs'.locked = fs.locked := by
      intro error fs' failed
      rcases deleteDatabase_cases free with ⟨_, _, ran, outcome⟩ | ⟨_, _, _, _, ran, _⟩
      · cases failed.symm.trans ran
        exact outcome
      · cases failed.symm.trans ran
    have spared : ∀ error fs', (store.deleteDatabase name).runOn fs = (.error error, fs') →
        ∀ other path, store.databasePath other = .ok path → fs'.find path = fs.find path := by
      intro error fs' failed other otherPath otherChecked
      rcases untouched error fs' failed with rfl | ⟨path, checked, opened, _⟩
      · rfl
      · exact find_of_opened checked otherChecked opened
    refine ⟨spared, untouched, ?_, ?_⟩
    · intro fs' done
      rcases deleteDatabase_cases free with ⟨_, _, ran, _⟩ | ⟨_, path, _, _, ran, checked, deleted⟩
      · cases done.symm.trans ran
      · cases done.symm.trans ran
        exact ⟨path, _, _, checked, deleted⟩
    · rintro session rfl sound error session' fs' failed
      obtain ⟨same, cause, ran⟩ := runOn_dropDatabase_error failed
      refine ⟨same, fun db connected => ?_⟩
      obtain ⟨path, checked, handle⟩ := sound db connected
      rw [handle]
      exact spared cause fs' ran db.name path checked

end Store

/-- A file system in which a directory stands in the place of a lock file. -/
def FileSystem.lockOccupied : FileSystem :=
  (FileSystem.empty ["home"]).withEntry ["home", "notes.json.lock"] .directory

/-- A database is created and dropped, and then it is looked into. -/
def Shell.Act.dropSamples : List Shell.Act :=
  [.command (.createDatabase "notes"), .command (.dropDatabase "notes"), .command .listCollections]

/-- The drop fails, and still the file is gone; the session stays connected, and the database cannot be
looked into any more. So the deletion of the database that was created is not all or nothing. -/
theorem Store.dropDatabase_half_done :
    ∃ history session fs', Shell.Session.carryOut Shell.Act.dropSamples (.start .standard)
        .lockOccupied = (history, session, fs') ∧
      history.map (fun event => event.result.isOk) = [true, false, false] ∧
      session.databaseName? = some "notes" ∧ fs'.isFile ⟨["", "home", "notes.json"]⟩ = false ∧
      ¬Store.standard.AllOrNothing "notes"
        ((Store.standard.createDatabase "notes").runOn .lockOccupied).2 := by
  have checked : Store.standard.databasePath "notes" = .ok ⟨["", "home", "notes.json"]⟩ :=
    Store.standard.databasePath_eq (by decide +kernel)
  refine ⟨_, _, _, rfl, by decide +kernel, by decide +kernel, by decide +kernel, ?_⟩
  apply Store.Trapped.not_allOrNothing
  exact ⟨_, checked, by decide +kernel, rfl, .inl (by decide +kernel)⟩

end DocStore
