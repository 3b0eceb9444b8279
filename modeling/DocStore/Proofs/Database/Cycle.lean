-- SUMMARY: What loading, changing and storing does to a database file, with and without the lock file.
import DocStore.Database
import DocStore.Proofs.CatalogFile
import DocStore.Proofs.Catalog.Decoded

/-!
# Cycles of a database

A database answers from its file, or changes it, by one cycle of loading and storing, which the lock
file may enclose. When nothing hinders it, the cycle does what the function on catalogs does, and
nothing hinders the next one: the second file is gone, and the lock is free again and at its place.
-/

namespace DocStore

/-! ## Lock files -/

namespace FileLock

variable {path : Path} {directory : Place} {name : String} {fs fs' : FileSystem}

/-- Whether the lock can be taken: its file can be opened, and is not locked. -/
def Free (path : Path) (directory : Place) (name : String) (fs : FileSystem) : Prop :=
  ∃ found, fs.Leads (pathFor path) directory (name ++ ending) found ∧ found ≠ some .directory ∧
    (fs.opened (directory ++ [name ++ ending]) found).1 ∉ fs.locked

/-- The file system in which the lock is held. -/
def held (directory : Place) (name : String) (fs : FileSystem) (found : Option Entry) : FileSystem :=
  let opened := fs.opened (directory ++ [name ++ ending]) found
  { opened.2 with locked := opened.1 :: fs.locked }

theorem runOn_lockOpened (path : Path) (number : Nat) (fs : FileSystem) :
    (lockOpened path number).runOn fs =
      match fs.tryLock? number with
      | some fs => (.ok (), fs)
      | none => (.error (.databaseLocked path.text), fs) := rfl

theorem runOn_hold_eq {α : Type} (path : Path) (computation : Disk α) (fs : FileSystem) :
    (hold path computation).runOn fs =
      match (acquire path).runOn fs with
      | (.error error, fs) => (.error error, fs)
      | (.ok number, fs) => ((computation.runOn fs).1, (computation.runOn fs).2.unlock number) := rfl

/-- A lock file that can be opened is locked, unless its lock is held. -/
theorem runOn_acquire {found : Option Entry}
    (leads : fs.Leads (pathFor path) directory (name ++ ending) found)
    (notDirectory : found ≠ some .directory)
    (free : (fs.opened (directory ++ [name ++ ending]) found).1 ∉ fs.locked) :
    (acquire path).runOn fs =
      (.ok (fs.opened (directory ++ [name ++ ending]) found).1, held directory name fs found) := by
  have taken : (fs.opened (directory ++ [name ++ ending]) found).2.tryLock?
      (fs.opened (directory ++ [name ++ ending]) found).1 = some (held directory name fs found) := by
    rw [FileSystem.tryLock?, fs.locked_opened, if_neg free]
    rfl
  simp only [acquire, Disk.runOn_bind, Disk.runOn_attempt, leads.openOrCreate notDirectory,
    runOn_lockOpened, taken, Disk.runOn_pure]

/-- Under a free lock a computation runs as it does by itself, and the lock is given back. -/
theorem runOn_hold {α : Type} (computation : Disk α) {found : Option Entry}
    (leads : fs.Leads (pathFor path) directory (name ++ ending) found)
    (notDirectory : found ≠ some .directory)
    (free : (fs.opened (directory ++ [name ++ ending]) found).1 ∉ fs.locked) :
    (hold path computation).runOn fs =
      ((computation.runOn (held directory name fs found)).1,
        (computation.runOn (held directory name fs found)).2.unlock
          (fs.opened (directory ++ [name ++ ending]) found).1) := by
  rw [runOn_hold_eq, runOn_acquire leads notDirectory free]

/-- A computation ran under the lock only if the lock was free. -/
theorem free_of_hold {α : Type} {computation : Disk α} {a : α} {entry : Option Entry}
    (leads : fs.Leads path directory name entry)
    (h : (hold path computation).runOn fs = (.ok a, fs')) : Free path directory name fs := by
  simp only [runOn_hold_eq, acquire, Disk.runOn_bind, Disk.runOn_attempt] at h
  cases opens : fs.openOrCreate (pathFor path) with
  | error fault => simp [opens] at h
  | ok result =>
    obtain ⟨number, fs₁⟩ := result
    obtain ⟨lockDirectory, lockName, found, lock, notDirectory, same⟩ :=
      FileSystem.leads_of_openOrCreate opens
    cases FileSystem.resolve_withEnding leads.resolved (by decide) lock.resolved
    rw [same] at opens
    refine ⟨found, lock, notDirectory, fun locked => ?_⟩
    have taken : (fs.opened (directory ++ [name ++ ending]) found).2.tryLock?
        (fs.opened (directory ++ [name ++ ending]) found).1 = none := by
      rw [FileSystem.tryLock?, fs.locked_opened, if_pos locked]
    simp [opens, runOn_lockOpened, taken] at h

/-- Taking the lock changes nothing but the lock file. -/
theorem frame_held (directory : Place) (name : String) (fs : FileSystem) (found : Option Entry) :
    FileSystem.Frame [directory ++ [name ++ ending]] fs (held directory name fs found) := by
  have frame : FileSystem.Frame [directory ++ [name ++ ending]] fs
      (fs.opened (directory ++ [name ++ ending]) found).2 := fs.frame_opened (by simp) found
  exact ⟨frame.workingDirectory, frame.entryAt⟩

/-- The lock that was given back is free, as long as its file was left alone. -/
theorem free_unlock {found : Option Entry} {places : List Place}
    (leads : fs.Leads (pathFor path) directory (name ++ ending) found)
    (notDirectory : found ≠ some .directory)
    (free : (fs.opened (directory ++ [name ++ ending]) found).1 ∉ fs.locked)
    (frame : FileSystem.Frame places (held directory name fs found) fs')
    (noDirectory : (held directory name fs found).NoDirectory places)
    (away : directory ++ [name ++ ending] ∉ places)
    (locked : fs'.locked = (held directory name fs found).locked) :
    Free path directory name
      (fs'.unlock (fs.opened (directory ++ [name ++ ending]) found).1) := by
  obtain ⟨entry, there, entryFile, number⟩ :=
    FileSystem.entryAt_opened (by simp) leads.entry notDirectory
  have leadsHeld := leads.of_frame (frame_held directory name fs found)
    (FileSystem.noDirectory_singleton leads notDirectory)
  rw [show (held directory name fs found).entryAt _ = some entry from there] at leadsHeld
  -- The lock file kept its number, and that number was not locked before the lock was taken.
  refine ⟨some entry, ?_, fun h => entryFile (Option.some.inj h), ?_⟩
  · exact (leadsHeld.of_frame_of_not_mem frame noDirectory away).unlock _
  · rw [number, FileSystem.unlock, locked, held, List.erase_cons_head]
    exact free

end FileLock

/-! ## Files that hold a catalog -/

/-- A file holds a catalog exactly if its bytes are read and decoded. -/
theorem CatalogFile.content_ok {file : CatalogFile} {fs : FileSystem} {c : Catalog} :
    file.content fs = .ok c ↔ ∃ bytes, fs.read file.path = .ok bytes ∧ Catalog.decode bytes = .ok c := by
  unfold content
  cases fs.read file.path with
  | error fault => simp
  | ok bytes => simp [CatalogFile.decode_ok]

/-- No catalog is read from nothing, so a path that leads to a catalog leads to a file. -/
theorem CatalogFile.leads_of_content {file : CatalogFile} {fs : FileSystem} {c : Catalog}
    (h : file.content fs = .ok c) : ∃ directory name number bytes,
      fs.Leads file.path directory name (some (.file number bytes)) ∧ Catalog.decode bytes = .ok c := by
  obtain ⟨bytes, read, decoded⟩ := content_ok.1 h
  have nonempty : bytes ≠ .empty := by
    rintro rfl
    cases decoded
  obtain ⟨directory, name, number, leads⟩ := FileSystem.leads_of_read read nonempty
  exact ⟨directory, name, number, bytes, leads, decoded⟩

namespace Database

variable {db : Database} {directory : Place} {name : String} {fs fs' : FileSystem} {c next : Catalog}

/-- Whether the file of a database holds a catalog and can be replaced. -/
structure Serves (db : Database) (directory : Place) (name : String) (fs : FileSystem) (c : Catalog) :
    Prop where
  content : ∃ number bytes, fs.Leads db.path directory name (some (.file number bytes)) ∧
    Catalog.decode bytes = .ok c
  temp : db.file.TempReady directory name fs

/-- Whether a database holds a catalog and nothing hinders its operations. -/
structure Ready (db : Database) (directory : Place) (name : String) (fs : FileSystem) (c : Catalog) :
    Prop extends Serves db directory name fs c where
  lock : db.options.lockFile = true → FileLock.Free db.path directory name fs

theorem Serves.noDirectory (serves : db.Serves directory name fs c) :
    fs.NoDirectory (db.file.places directory name) := by
  obtain ⟨number, bytes, leads, _⟩ := serves.content
  exact CatalogFile.noDirectory_places leads (FileSystem.isPlain_file _ _) serves.temp

/-- What a served database holds is its catalog. -/
theorem Serves.content_eq (serves : db.Serves directory name fs c) : db.file.content fs = .ok c := by
  obtain ⟨number, bytes, leads, decoded⟩ := serves.content
  exact CatalogFile.content_ok.2 ⟨bytes, leads.read, decoded⟩

/-- The lock file is none of the files that storing changes. -/
theorem lock_not_mem_places (file : CatalogFile) (directory : Place) (name : String) :
    directory ++ [name ++ FileLock.ending] ∉ file.places directory name := by
  have apart : FileLock.ending ≠ ".tmp" := by decide
  have nonempty : FileLock.ending ≠ "" := by decide
  unfold CatalogFile.places
  split <;> simp [apart, nonempty]

/-- Where the lock file stands does not matter for the file and the second file. -/
theorem Serves.of_frame_lock (serves : db.Serves directory name fs c)
    (frame : FileSystem.Frame [directory ++ [name ++ FileLock.ending]] fs fs')
    (noDirectory : fs.NoDirectory [directory ++ [name ++ FileLock.ending]]) :
    db.Serves directory name fs' c := by
  obtain ⟨number, bytes, leads, decoded⟩ := serves.content
  refine ⟨⟨number, bytes, ?_, decoded⟩, fun mode => ?_⟩
  · refine leads.of_frame_of_not_mem frame noDirectory ?_
    simpa using (FileSystem.place_ne_self directory name (by decide)).symm
  · obtain ⟨found, temp, plain⟩ := serves.temp mode
    refine ⟨found, temp.of_frame_of_not_mem frame noDirectory ?_, plain⟩
    simpa using FileSystem.place_ne directory name (by decide)

/-- Giving a lock back leaves a database served. -/
theorem Serves.unlock (serves : db.Serves directory name fs c) (number : Nat) :
    db.Serves directory name (fs.unlock number) c := by
  obtain ⟨file, bytes, leads, decoded⟩ := serves.content
  refine ⟨⟨file, bytes, leads.unlock number, decoded⟩, fun mode => ?_⟩
  obtain ⟨found, temp, plain⟩ := serves.temp mode
  exact ⟨found, temp.unlock number, plain⟩

/-! ## Cycles -/

/-- Whether a computation, on a file that holds one catalog, gives a result and leaves the other
catalog in the file, and changes nothing else. -/
def Cycles {α : Type} (db : Database) (directory : Place) (name : String) (computation : Disk α)
    (c : Catalog) (result : Except Error α) (next : Catalog) : Prop :=
  ∀ fs, db.Serves directory name fs c → ∃ fs', computation.runOn fs = (result, fs') ∧
    db.Serves directory name fs' next ∧
    FileSystem.Frame (db.file.places directory name) fs fs' ∧ fs'.locked = fs.locked

/-- The lock file, if there is to be one, changes nothing about a cycle. -/
theorem Ready.runOn_locked {α : Type} {computation : Disk α} {result : Except Error α}
    (ready : db.Ready directory name fs c)
    (cycles : db.Cycles directory name computation c result next) :
    ∃ fs', (db.locked computation).runOn fs = (result, fs') ∧ db.Ready directory name fs' next := by
  unfold locked
  split
  · rename_i lockFile
    obtain ⟨found, lock, notDirectory, free⟩ := ready.lock lockFile
    have noDirectory := FileSystem.noDirectory_singleton lock notDirectory
    -- Taking the lock creates its file at most, so the cycle finds what it would find without it.
    have held := ready.toServes.of_frame_lock (FileLock.frame_held directory name fs found) noDirectory
    obtain ⟨fs₁, run, serves, frame, locked⟩ := cycles _ held
    have whole := FileLock.runOn_hold computation lock notDirectory free
    rw [run] at whole
    refine ⟨_, whole, serves.unlock _, fun _ => ?_⟩
    exact FileLock.free_unlock lock notDirectory free frame held.noDirectory
      (lock_not_mem_places db.file directory name) locked
  · rename_i noLock
    obtain ⟨fs₁, run, serves, _⟩ := cycles fs ready.toServes
    exact ⟨fs₁, run, serves, fun lockFile => absurd lockFile noLock⟩

/-- A read is a cycle that stores nothing. -/
theorem cycles_read {α : Type} (f : Catalog → Except Error α) (c : Catalog) :
    db.Cycles directory name (do let catalog ← db.file.load; Disk.ofExcept (f catalog)) c (f c) c := by
  intro fs serves
  refine ⟨fs, ?_, serves, .refl _ _, rfl⟩
  rw [Disk.runOn_bind, CatalogFile.runOn_load, serves.content_eq]
  rfl

/-- Load the catalog, change it and store it, without regard to the lock file. -/
def cycle {α : Type} (db : Database) (f : Catalog → Except Error (α × Catalog)) : Disk α := do
  let catalog ← db.file.load
  let (answer, catalog) ← Disk.ofExcept (f catalog)
  db.file.store catalog
  return answer

theorem write_eq {α : Type} (f : Catalog → Except Error (α × Catalog)) :
    db.write f = db.locked (db.cycle f) := rfl

/-- A cycle on a file with a catalog computes from it and stores the outcome. -/
theorem runOn_cycle {α : Type} (f : Catalog → Except Error (α × Catalog))
    (content : db.file.content fs = .ok c) :
    (db.cycle f).runOn fs =
      match f c with
      | .error error => (.error error, fs)
      | .ok (answer, next) =>
        match (db.file.store next).runOn fs with
        | (.ok _, fs) => (.ok answer, fs)
        | (.error error, fs) => (.error error, fs) := by
  simp only [cycle, Disk.runOn_bind, CatalogFile.runOn_load, content, Disk.runOn_ofExcept]
  rcases f c with error | ⟨answer, next⟩
  · rfl
  · rcases stored : (db.file.store next).runOn fs with ⟨_ | _, fs'⟩ <;> simp [stored]

/-- Storing a catalog that reads back leaves a file that holds it and can be replaced. -/
theorem Serves.store (serves : db.Serves directory name fs c)
    (readsBack : Catalog.decode (next.encode db.file.style) = .ok next) :
    ∃ fs', (db.file.store next).runOn fs = (.ok (), fs') ∧ db.Serves directory name fs' next ∧
      FileSystem.Frame (db.file.places directory name) fs fs' ∧ fs'.locked = fs.locked := by
  obtain ⟨number, bytes, leads, _⟩ := serves.content
  obtain ⟨fs', run, stored⟩ := CatalogFile.runOn_store leads
    (FileSystem.isPlain_file _ _) serves.temp next
  obtain ⟨newNumber, newLeads⟩ := stored.content
  refine ⟨fs', run, ⟨⟨newNumber, _, newLeads, readsBack⟩, fun mode => ?_⟩, stored.frame, stored.locked⟩
  -- The second file was moved away, so the next one can be written.
  obtain ⟨found, temp, _⟩ := serves.temp mode
  have gone := temp.of_frame stored.frame serves.noDirectory
  rw [stored.temp mode] at gone
  exact ⟨none, gone, nofun⟩

/-- A function on catalogs that answers is answered from the file. -/
theorem Ready.runOn_read {α : Type} (ready : db.Ready directory name fs c)
    (f : Catalog → Except Error α) :
    ∃ fs', (db.read f).runOn fs = (f c, fs') ∧ db.Ready directory name fs' c :=
  ready.runOn_locked (cycles_read f c)

/-- A function on catalogs that fails leaves the file as it is. -/
theorem Ready.runOn_write_error {α : Type} (ready : db.Ready directory name fs c)
    {f : Catalog → Except Error (α × Catalog)} {error : Error} (h : f c = .error error) :
    ∃ fs', (db.write f).runOn fs = (.error error, fs') ∧ db.Ready directory name fs' c := by
  rw [write_eq]
  refine ready.runOn_locked fun fs serves => ⟨fs, ?_, serves, .refl _ _, rfl⟩
  rw [runOn_cycle f serves.content_eq, h]

/-- A function on catalogs that succeeds leaves its catalog in the file, if that reads back. -/
theorem Ready.runOn_write_ok {α : Type} (ready : db.Ready directory name fs c)
    {f : Catalog → Except Error (α × Catalog)} {answer : α} (h : f c = .ok (answer, next))
    (readsBack : Catalog.decode (next.encode db.file.style) = .ok next) :
    ∃ fs', (db.write f).runOn fs = (.ok answer, fs') ∧ db.Ready directory name fs' next := by
  rw [write_eq]
  refine ready.runOn_locked fun fs serves => ?_
  obtain ⟨fs', run, rest⟩ := serves.store readsBack
  refine ⟨fs', ?_, rest⟩
  rw [runOn_cycle f serves.content_eq, h]
  simp only [run]

/-- A write succeeds if the function on catalogs does, and leaves the bytes of its catalog in the
file, whether they read back or not. -/
theorem Ready.runOn_write_returns {α : Type} (ready : db.Ready directory name fs c)
    {f : Catalog → Except Error (α × Catalog)} {answer : α} (h : f c = .ok (answer, next)) :
    ∃ fs', (db.write f).runOn fs = (.ok answer, fs') ∧
      fs'.read db.path = .ok (next.encode db.file.style) := by
  have cycles : ∀ {fs : FileSystem}, db.Serves directory name fs c →
      ∃ fs' number, (db.cycle f).runOn fs = (.ok answer, fs') ∧
        fs'.Leads db.path directory name (some (.file number (next.encode db.file.style))) := by
    intro fs serves
    obtain ⟨number, bytes, leads, _⟩ := serves.content
    obtain ⟨fs', run, stored⟩ := CatalogFile.runOn_store leads (FileSystem.isPlain_file _ _)
      serves.temp next
    obtain ⟨newNumber, there⟩ := stored.content
    refine ⟨fs', newNumber, ?_, there⟩
    rw [runOn_cycle f serves.content_eq, h]
    simp only [run]
  rw [write_eq, locked]
  split
  · rename_i lockFile
    obtain ⟨found, lock, notDirectory, free⟩ := ready.lock lockFile
    obtain ⟨fs', number, run, there⟩ := cycles (ready.toServes.of_frame_lock
      (FileLock.frame_held directory name fs found)
      (FileSystem.noDirectory_singleton lock notDirectory))
    rw [FileLock.runOn_hold _ lock notDirectory free, run]
    exact ⟨_, rfl, (there.unlock _).read⟩
  · obtain ⟨fs', number, run, there⟩ := cycles ready.toServes
    exact ⟨fs', run, there.read⟩

/-- The result of a write that nothing hinders is that of the function on catalogs. -/
theorem Ready.result_write {α : Type} (ready : db.Ready directory name fs c)
    (f : Catalog → Except Error (α × Catalog)) :
    ((db.write f).runOn fs).1 = (f c).map Prod.fst := by
  rcases applied : f c with error | ⟨answer, next⟩
  · obtain ⟨fs', run, _⟩ := ready.runOn_write_error applied
    rw [run]
    rfl
  · obtain ⟨fs', run, _⟩ := ready.runOn_write_returns applied
    rw [run]
    rfl

/-! ## Writes that succeeded -/

/-- A cycle that succeeds found that the file can be replaced. -/
theorem serves_of_cycle {α : Type} {f : Catalog → Except Error (α × Catalog)} {answer : α}
    {number : Nat} {bytes : ByteArray}
    (leads : fs.Leads db.path directory name (some (.file number bytes)))
    (decoded : Catalog.decode bytes = .ok c) (h : (db.cycle f).runOn fs = (.ok answer, fs')) :
    db.Serves directory name fs c := by
  refine ⟨⟨number, bytes, leads, decoded⟩, ?_⟩
  rw [runOn_cycle f (CatalogFile.content_ok.2 ⟨bytes, leads.read, decoded⟩)] at h
  split at h
  · cases h
  · split at h
    · rename_i stored
      exact CatalogFile.tempReady_of_store leads stored
    · cases h

/-- A write that succeeds was not hindered. -/
theorem ready_of_write {α : Type} {f : Catalog → Except Error (α × Catalog)} {answer : α}
    (content : db.file.content fs = .ok c) (h : (db.write f).runOn fs = (.ok answer, fs')) :
    ∃ directory name, db.Ready directory name fs c := by
  obtain ⟨directory, name, number, bytes, leads, decoded⟩ := CatalogFile.leads_of_content content
  change fs.Leads db.path directory name _ at leads
  rw [write_eq, locked] at h
  refine ⟨directory, name, ?_⟩
  split at h
  · obtain ⟨found, lock, notDirectory, free⟩ := FileLock.free_of_hold leads h
    rw [FileLock.runOn_hold _ lock notDirectory free] at h
    cases run : (db.cycle f).runOn (FileLock.held directory name fs found) with
    | mk result fs₁ =>
    rw [run] at h
    cases h
    have frame := FileLock.frame_held directory name fs found
    have leadsHeld := leads.of_frame_of_not_mem frame
      (FileSystem.noDirectory_singleton lock notDirectory)
      (by simpa using (FileSystem.place_ne_self directory name (by decide)).symm)
    -- What the cycle found under the lock was there before, as the lock file stands beside it.
    obtain ⟨entry, there, entryFile, -⟩ :=
      FileSystem.entryAt_opened (by simp) lock.entry notDirectory
    refine ⟨(serves_of_cycle leadsHeld decoded run).of_frame_lock frame.symm ?_,
      fun _ => ⟨found, lock, notDirectory, free⟩⟩
    intro place mem
    rw [List.mem_singleton.1 mem]
    exact fun held => entryFile (Option.some.inj (there.symm.trans held))
  · rename_i noLock
    exact ⟨serves_of_cycle leads decoded h, fun lockFile => absurd lockFile noLock⟩

/-- A write that succeeds, whatever could have hindered it, did what the function on catalogs does
and left the bytes of its catalog in the file. -/
theorem read_of_write {α : Type} {f : Catalog → Except Error (α × Catalog)} {answer : α}
    (content : db.file.content fs = .ok c) (h : (db.write f).runOn fs = (.ok answer, fs')) :
    ∃ next, f c = .ok (answer, next) ∧ fs'.read db.path = .ok (next.encode db.file.style) := by
  obtain ⟨directory, name, ready⟩ := ready_of_write content h
  rcases applied : f c with error | ⟨given, next⟩
  · obtain ⟨_, run, _⟩ := ready.runOn_write_error applied
    cases run.symm.trans h
  · obtain ⟨_, run, read⟩ := ready.runOn_write_returns applied
    cases run.symm.trans h
    exact ⟨next, rfl, read⟩

/-- A write that succeeds leaves a database that holds the catalog and that nothing hinders, if the
catalog reads back. -/
theorem ready_after_write {α : Type} {f : Catalog → Except Error (α × Catalog)} {answer : α}
    (content : db.file.content fs = .ok c) (h : (db.write f).runOn fs = (.ok answer, fs'))
    (readsBack : ∀ next, f c = .ok (answer, next) →
      Catalog.decode (next.encode db.file.style) = .ok next) :
    ∃ directory name next, f c = .ok (answer, next) ∧ db.Ready directory name fs' next := by
  obtain ⟨directory, name, ready⟩ := ready_of_write content h
  obtain ⟨next, applied, _⟩ := read_of_write content h
  obtain ⟨_, run, after⟩ := ready.runOn_write_ok applied (readsBack next applied)
  cases run.symm.trans h
  exact ⟨directory, name, next, applied, after⟩

end Database

end DocStore
