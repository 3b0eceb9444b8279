-- SUMMARY: What is asked of a database changes the file system by calls on its three files, one after another.
import DocStore.Proofs.Database.Failure
import Mathlib.Logic.Relation

/-!
# One change after another

A computation changes the file system by calls on paths: one writes a file, opens it, moves it or
removes it. Where a computation ends says nothing of the states in between, in which a file could have
come and gone. So the changes are taken one by one: the relation between the file systems before and
after a run is a chain of such calls, and each of them is on one of the three paths of the database.

The chains follow the computations: what is sequenced, guarded or run under a lock makes the changes of
its parts.
-/

namespace DocStore

open Relation (ReflTransGen)

/-- Whether one call of the file system leads from one state to the next: it writes, opens, moves or
removes a file under one of some paths, or it takes a lock or gives one back. -/
inductive FileSystem.Edit (paths : List Path) : FileSystem → FileSystem → Prop where
  | written {fs fs' : FileSystem} {path : Path} {bytes : ByteArray} (among : path ∈ paths)
      (done : fs.write path bytes = .ok fs') : Edit paths fs fs'
  | opened {fs fs' : FileSystem} {path : Path} {number : Nat} (among : path ∈ paths)
      (done : fs.openOrCreate path = .ok (number, fs')) : Edit paths fs fs'
  | moved {fs fs' : FileSystem} {source target : Path} (among : source ∈ paths)
      (targetAmong : target ∈ paths) (done : fs.rename source target = .ok fs') : Edit paths fs fs'
  | removed {fs fs' : FileSystem} {path : Path} (among : path ∈ paths)
      (done : fs.remove path = .ok fs') : Edit paths fs fs'
  | locks (fs : FileSystem) (locked : List Nat) : Edit paths fs { fs with locked }

open FileSystem (Edit)

/-- Whether a computation changes the file system by calls on some paths only, in whatever state it is
run and whether it succeeds or not. -/
def Disk.ChangesOnly {α : Type} (paths : List Path) (computation : Disk α) : Prop :=
  ∀ fs, ReflTransGen (Edit paths) fs (computation.runOn fs).2

variable {paths : List Path} {path : Path} {α β : Type}

/-! ## Computations from parts -/

namespace Disk.ChangesOnly

variable {computation : Disk α}

theorem of_reads (reads : ∀ fs, (computation.runOn fs).2 = fs) : ChangesOnly paths computation := by
  intro fs
  rw [reads]

/-- What is done one after another makes its changes one after another. -/
theorem bind {next : α → Disk β} (first : ChangesOnly paths computation)
    (onward : ∀ a, ChangesOnly paths (next a)) : ChangesOnly paths (computation >>= next) := by
  intro fs
  have changes := first fs
  rw [Disk.runOn_bind]
  rcases run : computation.runOn fs with ⟨error | a, fs₁⟩
  · rwa [run] at changes
  · rw [run] at changes
    exact changes.trans (onward a fs₁)

theorem ofExcept_bind {result : Except Error α} {next : α → Disk β}
    (onward : ∀ a, result = .ok a → ChangesOnly paths (next a)) :
    ChangesOnly paths (Disk.ofExcept result >>= next) := by
  intro fs
  rw [Disk.runOn_bind, Disk.runOn_ofExcept]
  cases result with
  | error error => exact .refl
  | ok a => exact onward a rfl fs

theorem map (changes : ChangesOnly paths computation) (f : α → β) :
    ChangesOnly paths (f <$> computation) := by
  intro fs
  rw [Disk.runOn_map]
  exact changes fs

/-- A failure and what handles it make their changes one after another. -/
theorem tryCatch {handler : Error → Disk α} (body : ChangesOnly paths computation)
    (handles : ∀ error, ChangesOnly paths (handler error)) :
    ChangesOnly paths (tryCatch computation handler) := by
  intro fs
  have changes := body fs
  rw [Disk.runOn_tryCatch]
  rcases run : computation.runOn fs with ⟨error | a, fs₁⟩
  · rw [run] at changes
    exact changes.trans (handles error fs₁)
  · rwa [run] at changes

/-- A primitive step that fails changes nothing. -/
theorem change {step : FileSystem → Except IoFault FileSystem}
    (changes : ∀ {fs fs'}, step fs = .ok fs' → ReflTransGen (Edit paths) fs fs') :
    ChangesOnly paths (Disk.change path step) := by
  intro fs
  rw [Disk.runOn_change]
  cases done : step fs with
  | error fault => exact .refl
  | ok fs' => exact changes done

/-- Taking a lock opens the lock file and no other. -/
theorem acquire (among : FileLock.pathFor path ∈ paths) : ChangesOnly paths (FileLock.acquire path) := by
  refine .bind (fun fs => ?_) fun number => .bind (fun fs => ?_) fun _ => .of_reads fun _ => rfl
  · rw [Disk.runOn_attempt]
    cases opens : fs.openOrCreate (FileLock.pathFor path) with
    | error fault => exact .refl
    | ok result => exact .single (.opened among opens)
  · rw [FileLock.runOn_lockOpened]
    unfold FileSystem.tryLock?
    by_cases taken : number ∈ fs.locked
    · rw [if_pos taken]
    · rw [if_neg taken]
      exact .single (.locks fs _)

/-- Under a lock the changes are made between those that take it and the one that gives it back. -/
theorem hold (inner : ChangesOnly paths computation) (among : FileLock.pathFor path ∈ paths) :
    ChangesOnly paths (FileLock.hold path computation) := by
  intro fs
  have taken := acquire among fs
  rw [FileLock.runOn_hold_eq]
  rcases run : (FileLock.acquire path).runOn fs with ⟨error | number, fs₁⟩
  · rwa [run] at taken
  · rw [run] at taken
    exact (taken.trans (inner fs₁)).tail (.locks _ _)

end Disk.ChangesOnly

/-! ## Files -/

namespace CatalogFile

variable {file : CatalogFile}

theorem changesOnly_load (file : CatalogFile) : Disk.ChangesOnly paths file.load :=
  .of_reads fun fs => by rw [runOn_load]

theorem changesOnly_remove (among : path ∈ paths) :
    Disk.ChangesOnly paths (Disk.change path fun fs => fs.remove path) :=
  .change fun done => .single (.removed among done)

/-- Storing writes the file, or writes the second file, moves it and, if that fails, removes it. -/
theorem changesOnly_store (among : file.path ∈ paths) (tempAmong : file.tempPath ∈ paths) (c : Catalog) :
    Disk.ChangesOnly paths (file.store c) := by
  rw [store]
  cases file.mode with
  | overwrite => exact .change fun done => .single (.written among done)
  | atomic =>
    have writes (bytes : ByteArray) : Disk.ChangesOnly paths (file.writeTemp bytes) := by
      refine .bind (.change fun done => .single (.written tempAmong done)) fun _ => ?_
      refine .change fun synced => ?_
      rw [sync_ok synced]
    have moves : Disk.ChangesOnly paths file.moveTemp :=
      .change fun done => .single (.moved tempAmong among done)
    have discards : Disk.ChangesOnly paths file.discardTemp := by
      intro fs
      rw [runOn_discardTemp, discarded]
      cases done : fs.remove file.tempPath with
      | error fault => exact .refl
      | ok fs' => exact .single (.removed tempAmong done)
    refine .tryCatch (.bind (writes _) fun _ => moves) fun error => ?_
    exact .bind discards fun _ => .of_reads fun _ => rfl

end CatalogFile

/-! ## Databases -/

namespace Database

variable {db : Database}

/-- The paths of a database: its file, the second file and the lock file. -/
def filePaths (db : Database) : List Path :=
  [db.path, db.file.tempPath, FileLock.pathFor db.path]

/-- A lock adds the changes of its own file to what is done under it. -/
theorem changesOnly_locked {computation : Disk α} (inner : Disk.ChangesOnly db.filePaths computation) :
    Disk.ChangesOnly db.filePaths (db.locked computation) := by
  rw [locked]
  cases db.options.lockFile with
  | false => exact inner
  | true => exact inner.hold (by simp [filePaths])

theorem changesOnly_store (db : Database) (c : Catalog) :
    Disk.ChangesOnly db.filePaths (db.file.store c) :=
  CatalogFile.changesOnly_store (by simp [filePaths, path]) (by simp [filePaths]) c

theorem changesOnly_reset (db : Database) (c : Catalog) : Disk.ChangesOnly db.filePaths (db.reset c) :=
  changesOnly_locked (db.changesOnly_store c)

theorem changesOnly_removeFile (db : Database) : Disk.ChangesOnly db.filePaths db.removeFile :=
  changesOnly_locked (CatalogFile.changesOnly_remove (by simp [filePaths]))

theorem changesOnly_read (db : Database) (f : Catalog → Except Error α) :
    Disk.ChangesOnly db.filePaths (db.read f) := by
  refine changesOnly_locked (.bind db.file.changesOnly_load fun c => ?_)
  exact .of_reads fun fs => by rw [Disk.runOn_ofExcept]

/-- A write is done by calls on the three paths, whatever the change of the catalog is and wherever
it fails. -/
theorem changesOnly_write (db : Database) (f : Catalog → Except Error (α × Catalog)) :
    Disk.ChangesOnly db.filePaths (db.write f) := by
  refine changesOnly_locked (.bind db.file.changesOnly_load fun c => ?_)
  refine .ofExcept_bind fun changed _ => ?_
  exact .bind (db.changesOnly_store changed.2) fun _ => .of_reads fun fs => by rw [Disk.runOn_pure]

end Database

/-- A call changes nothing but by calls on the three paths of its database. -/
theorem Call.changesOnly (db : Database) (call : Call) : Disk.ChangesOnly db.filePaths (call.run db) := by
  cases call with
  | createCollection collection definition =>
    rw [run_createCollection]
    exact .ofExcept_bind fun _ _ => .map (db.changesOnly_write _) _
  | insert collection fields => exact .map (db.changesOnly_write _) _
  | delete collection p => exact .map (db.changesOnly_write _) _
  | update collection p patch => exact .map (db.changesOnly_write _) _
  | select collection p => exact .map (db.changesOnly_read _) _
  | collectionNames => exact .map (db.changesOnly_read _) _
  | schema collection => exact .map (db.changesOnly_read _) _

end DocStore
