-- SUMMARY: Processes that share a database by its lock file, and when two of them hold the lock at once.
import DocStore.Proofs.Database.Refinement
import DocStore.Proofs.FileLock.Apart
import DocStore.Proofs.Process.Stage
import Mathlib.Logic.Function.Basic
import Mathlib.Logic.Relation

/-!
# Processes and the lock file

Any number of processes use one database, all of them with the lock file. Between any two steps of one
process others can come: it opens the lock file, creating it if need be, then tries to lock what it
opened, then works on the database file, and then gives the lock back. A process that deletes the
database removes the lock file as well, and it does so after it has given the lock back.

A lock belongs to a file and not to its path, so no two processes hold the lock of the same file. But
when a lock file is removed while a process has it open, that process can still take its lock, and the
next one finds nothing at the path, creates a file and takes the lock of that. Two processes are then
at work at once. This is the only way in which it can happen.
-/

namespace DocStore

/-! ## Visits -/

/-- What a process is to do while it holds the lock. -/
inductive Duty where
  /-- Load the catalog, and store the next one if there is to be one. -/
  | load (effect : Catalog → Except Error (Reply × Option Catalog))
  /-- Store a catalog, whatever the file holds. -/
  | store (reply : Reply) (next : Catalog)
  | remove
  /-- The database file is gone: give the lock back and then remove the lock file. -/
  | removed
  | release (result : Except Error Reply)

namespace Duty

/-- The duty of an operation that loads or stores. -/
def ofTurn : Turn → Duty
  | .load effect => .load effect
  | .store reply catalog => .store reply catalog

/-- Whether the lock file is to be removed in the end. -/
def unlinks : Duty → Bool
  | .remove => true
  | .removed => true
  | _ => false

/-- The step of a process that holds the lock and does not give it back yet. -/
def perform (db : Database) : Duty → FileSystem → Duty × FileSystem
  | .load effect, fs =>
    match db.file.load.runOn fs with
    | (.error error, fs) => (.release (.error error), fs)
    | (.ok c, fs) =>
      match effect c with
      | .error error => (.release (.error error), fs)
      | .ok (reply, none) => (.release (.ok reply), fs)
      | .ok (reply, some next) => (.store reply next, fs)
  | .store reply next, fs =>
    match (db.file.store next).runOn fs with
    | (.ok _, fs) => (.release (.ok reply), fs)
    | (.error error, fs) => (.release (.error error), fs)
  | .remove, fs =>
    match (Disk.change db.path fun fs => fs.remove db.path).runOn fs with
    | (.ok _, fs) => (.removed, fs)
    | (.error error, fs) => (.release (.error error), fs)
  | duty, fs => (duty, fs)

/-- All that is done while the lock is held. -/
def body (db : Database) : Duty → Disk Reply
  | .load effect => do db.conclude (effect (← db.file.load))
  | .store reply next => do
    db.file.store next
    return reply
  | .remove => do
    Disk.change db.path fun fs => fs.remove db.path
    return .answer .done
  | .removed => return .answer .done
  | .release result => Disk.ofExcept result

end Duty

/-- Where a process is on its way to a database and back. -/
inductive Visit where
  | away
  /-- It is about to open the lock file. -/
  | asked (db : Database) (duty : Duty)
  /-- It has opened the lock file, and is about to try its lock. -/
  | opened (db : Database) (duty : Duty) (number : Nat)
  /-- It has taken the lock of the file with this number, and has not given it back. -/
  | inside (db : Database) (duty : Duty) (number : Nat)
  /-- It has given the lock back, and is about to remove the lock file. -/
  | leaving (db : Database)
  | ended (result : Except Error Reply)

/-- What a process has of a lock file. -/
inductive Grip where
  | nothing
  | opened (number : Nat)
  | locked (number : Nat)

/-- The number of the file that is open. -/
def Grip.number? : Grip → Option Nat
  | .nothing => none
  | .opened number => some number
  | .locked number => some number

namespace Visit

def grip : Visit → Grip
  | .opened _ _ number => .opened number
  | .inside _ _ number => .locked number
  | _ => .nothing

/-- Whether a process is at no database. -/
def isFree : Visit → Bool
  | .away => true
  | .ended _ => true
  | _ => false

/-- Whether a process has taken a lock and not given it back. -/
def isInside : Visit → Bool
  | .inside _ _ _ => true
  | _ => false

theorem grip_of_isFree {visit : Visit} (free : visit.isFree = true) : visit.grip = .nothing := by
  cases visit with
  | away => rfl
  | ended result => rfl
  | _ => cases free

/-- Who is inside holds a lock. -/
theorem grip_of_isInside {visit : Visit} (inside : visit.isInside = true) :
    ∃ number, visit.grip = .locked number := by
  cases visit with
  | inside db duty number => exact ⟨number, rfl⟩
  | _ => cases inside

/-- Whether a visit is to the database at a path. -/
def On (path : Path) : Visit → Prop
  | .asked db _ => db.path = path
  | .opened db _ _ => db.path = path
  | .inside db _ _ => db.path = path
  | .leaving db => db.path = path
  | _ => True

/-- A process that is outside is at no file, so that it may go to any. -/
theorem on_of_isFree {path : Path} {visit : Visit} (free : visit.isFree = true) : visit.On path := by
  cases visit with
  | away => exact trivial
  | ended result => exact trivial
  | _ => cases free

/-- The next step of a process. -/
def advance : Visit → FileSystem → Visit × FileSystem
  | .asked db duty, fs =>
    match (Disk.attempt (FileLock.pathFor db.path) fun fs =>
      fs.openOrCreate (FileLock.pathFor db.path)).runOn fs with
    | (.ok number, fs) => (.opened db duty number, fs)
    | (.error error, fs) => (.ended (.error error), fs)
  | .opened db duty number, fs =>
    match (FileLock.lockOpened db.path number).runOn fs with
    | (.ok _, fs) => (.inside db duty number, fs)
    | (.error error, fs) => (.ended (.error error), fs)
  | .inside _ (.release result) number, fs => (.ended result, fs.unlock number)
  | .inside db .removed number, fs => (.leaving db, fs.unlock number)
  | .inside db duty number, fs =>
    (.inside db (duty.perform db fs).1 number, (duty.perform db fs).2)
  | .leaving db, fs =>
    match (Store.removeIfPresent (FileLock.pathFor db.path)).runOn fs with
    | (.ok _, fs) => (.ended (.ok (.answer .done)), fs)
    | (.error error, fs) => (.ended (.error error), fs)
  | visit, fs => (visit, fs)

/-! ## A visit by itself is the operation -/

/-- Remove the lock file after a computation that succeeds, if that is asked for. -/
def unlinkAfter (db : Database) (unlinks : Bool) (computation : Disk Reply) : Disk Reply :=
  if unlinks then do
    let reply ← computation
    Store.removeIfPresent (FileLock.pathFor db.path)
    return reply
  else computation

/-- What a process has still to do. -/
def rest : Visit → Disk Reply
  | .away => return .answer .done
  | .asked db duty => unlinkAfter db duty.unlinks (FileLock.hold db.path (duty.body db))
  | .opened db duty number => unlinkAfter db duty.unlinks do
    FileLock.lockOpened db.path number
    FileLock.giveBack (some number) (duty.body db)
  | .inside db duty number => unlinkAfter db duty.unlinks (FileLock.giveBack (some number) (duty.body db))
  | .leaving db => do
    Store.removeIfPresent (FileLock.pathFor db.path)
    return .answer .done
  | .ended result => Disk.ofExcept result

theorem runOn_unlinkAfter (db : Database) (unlinks : Bool) (computation : Disk Reply)
    (fs : FileSystem) :
    (unlinkAfter db unlinks computation).runOn fs =
      match unlinks, computation.runOn fs with
      | true, (.ok reply, fs) =>
        (do Store.removeIfPresent (FileLock.pathFor db.path); return reply : Disk Reply).runOn fs
      | _, ran => ran := by
  cases unlinks with
  | false => rfl
  | true =>
    simp only [unlinkAfter, if_true, Disk.runOn_bind]
    rcases computation.runOn fs with ⟨error | reply, fs'⟩ <;> rfl

/-- A step of a process that holds the lock leaves of its duty what is still to be done. -/
theorem rest_perform (db : Database) (duty : Duty) (number : Nat) (fs : FileSystem) :
    (Visit.inside db (duty.perform db fs).1 number).rest.runOn (duty.perform db fs).2 =
      (Visit.inside db duty number).rest.runOn fs := by
  cases duty with
  | load effect =>
    simp only [Duty.perform, rest, Duty.body, runOn_unlinkAfter, FileLock.runOn_giveBack,
      Disk.runOn_bind]
    rcases db.file.load.runOn fs with ⟨error | c, fs'⟩
    · rfl
    · dsimp only
      rcases effect c with error | ⟨reply, _ | next⟩ <;> rfl
  | store reply next =>
    simp only [Duty.perform, rest, Duty.body, runOn_unlinkAfter, FileLock.runOn_giveBack,
      Disk.runOn_bind]
    rcases (db.file.store next).runOn fs with ⟨error | _, fs'⟩ <;> rfl
  | remove =>
    simp only [Duty.perform, rest, Duty.body, runOn_unlinkAfter, FileLock.runOn_giveBack,
      Disk.runOn_bind]
    rcases (Disk.change db.path fun fs => fs.remove db.path).runOn fs with ⟨error | _, fs'⟩ <;> rfl
  | removed => rfl
  | release result => rfl

/-- A step leaves of an operation what is still to be done. -/
theorem rest_advance (visit : Visit) (fs : FileSystem) :
    (visit.advance fs).1.rest.runOn (visit.advance fs).2 = visit.rest.runOn fs := by
  cases visit with
  | away => rfl
  | asked db duty =>
    simp only [advance, rest, runOn_unlinkAfter, FileLock.runOn_hold_eq, FileLock.acquire,
      Disk.runOn_bind]
    rcases (Disk.attempt _ _ : Disk Nat).runOn fs with ⟨error | number, fs'⟩
    · cases duty.unlinks <;> rfl
    · simp only [runOn_unlinkAfter, Disk.runOn_bind]
      rcases (FileLock.lockOpened db.path number).runOn fs' with ⟨error | _, fs''⟩ <;> rfl
  | opened db duty number =>
    simp only [advance, rest, runOn_unlinkAfter, Disk.runOn_bind]
    rcases (FileLock.lockOpened db.path number).runOn fs with ⟨error | _, fs'⟩
    · cases duty.unlinks <;> rfl
    · simp only [runOn_unlinkAfter, Disk.runOn_bind]
  | inside db duty number =>
    cases duty with
    | release result => rfl
    | removed => rfl
    | load effect => exact rest_perform db (.load effect) number fs
    | store reply next => exact rest_perform db (.store reply next) number fs
    | remove => exact rest_perform db .remove number fs
  | leaving db =>
    simp only [advance, rest, Disk.runOn_bind]
    rcases (Store.removeIfPresent _).runOn fs with ⟨error | _, fs'⟩ <;> rfl
  | ended result => rfl

end Visit

/-- An operation of a process. -/
inductive Errand where
  | work (work : Work)
  | delete (store : Store) (name : String)

namespace Errand

/-- The operation by itself. -/
def run : Errand → Disk Reply
  | .work given => given.run
  | .delete store name => (fun _ => .answer .done) <$> store.deleteDatabase name

/-- Whether an operation is about the database file at a path. -/
def On (path : Path) : Errand → Prop
  | .work given => given.On path
  | .delete store name => store.databasePath name = .ok path

def database (path : Path) : Errand → Database
  | .work given => given.database path
  | .delete store name => store.handle name path

/-- The error that ends an operation before it comes to the lock file. -/
def refusal? (path : Path) (fs : FileSystem) : Errand → Option Error
  | .work given => given.refusal? path fs
  | .delete _ name => if fs.isFile path then none else some (.databaseNotFound name)

/-- What an operation does while it holds the lock. -/
def duty (path : Path) : Errand → Duty
  | .work given => .ofTurn (given.turn path)
  | .delete _ _ => .remove

/-- The first step of a process: it looks whether there is anything to be done. -/
def start (path : Path) (fs : FileSystem) (errand : Errand) : Visit :=
  match errand.refusal? path fs with
  | some error => .ended (.error error)
  | none => .asked (errand.database path) (errand.duty path)

variable {path : Path} {errand : Errand}

/-- The database of an errand is at the path that the errand is on. -/
theorem path_database (on : errand.On path) : (errand.database path).path = path := by
  cases errand with
  | work given => exact Work.path_database on
  | delete store name => rfl

/-- Deleting a database that is there is a visit with the duty to remove it. -/
theorem runOn_delete {db : Database} (locks : db.options.lockFile = true) (fs : FileSystem) :
    ((fun _ => .answer .done) <$> (do
        db.removeFile
        Store.removeIfPresent (FileLock.pathFor db.path)) : Disk Reply).runOn fs =
      (Visit.asked db .remove).rest.runOn fs := by
  have removed : FileLock.hold db.path (Duty.remove.body db) =
      (fun _ => Reply.answer .done) <$> db.removeFile := by
    rw [Database.removeFile, Database.map_locked, Database.locked, if_pos locks]
    rfl
  rw [Visit.rest, removed, Visit.runOn_unlinkAfter, Disk.runOn_map, Disk.runOn_map, Disk.runOn_bind]
  rcases db.removeFile.runOn fs with ⟨error | _, fs'⟩
  · rfl
  · rw [← Disk.runOn_map]
    rfl

/-- What a process has to do after its first step is the operation. -/
theorem rest_start (on : errand.On path) (locks : (errand.database path).options.lockFile = true)
    (fs : FileSystem) : (errand.start path fs).rest.runOn fs = errand.run.runOn fs := by
  rw [start]
  cases refused : errand.refusal? path fs with
  | some error =>
    cases errand with
    | work given => exact (Work.runOn_eq_of_refusal on refused).symm
    | delete store name =>
      have deleted := store.runOn_deleteDatabase name fs
      rw [show store.databasePath name = .ok path from on] at deleted
      rw [run, Disk.runOn_map, deleted]
      simp only [refusal?] at refused
      split at refused
      · cases refused
      · rename_i noFile
        cases refused
        simp only [if_neg noFile]
        rfl
  | none =>
    cases errand with
    | work given =>
      have held : (given.database path).options.lockFile = true := locks
      rw [run, Work.runOn_eq on refused, Stage.rest, Database.locked, if_pos held]
      dsimp only [duty, database, Visit.rest]
      cases given.turn path <;> rfl
    | delete store name =>
      have deleted := store.runOn_deleteDatabase name fs
      rw [show store.databasePath name = .ok path from on] at deleted
      simp only [refusal?] at refused
      split at refused
      · rename_i isFile
        simp only [if_pos isFile] at deleted
        rw [run, Disk.runOn_map, deleted, ← Disk.runOn_map]
        exact (runOn_delete locks fs).symm
      · cases refused

end Errand

/-! ## What a step does with the lock file -/

/-- What a step can do with the lock file of a path, its removal left aside. -/
inductive Move (path : Path) : Grip → FileSystem → Grip → FileSystem → Prop
  | opens {fs fs' : FileSystem} {number : Nat}
      (opened : fs.openOrCreate (FileLock.pathFor path) = .ok (number, fs')) :
      Move path .nothing fs (.opened number) fs'
  | locks {fs : FileSystem} {number : Nat} (free : number ∉ fs.locked) :
      Move path (.opened number) fs (.locked number) { fs with locked := number :: fs.locked }
  | turnsBack {fs : FileSystem} {number : Nat} : Move path (.opened number) fs .nothing fs
  | works {fs fs' : FileSystem} {number : Nat} (file : CatalogFile) (on : file.path = path)
      (touched : file.Touched fs fs') (locked : fs'.locked = fs.locked) :
      Move path (.locked number) fs (.locked number) fs'
  | releases {fs : FileSystem} {number : Nat} :
      Move path (.locked number) fs .nothing (fs.unlock number)
  | stays {fs : FileSystem} {grip : Grip} : Move path grip fs grip fs

/-- A process that holds the lock and does not give it back changes no more than the catalog and the
second file. -/
theorem Duty.touched_perform (db : Database) (duty : Duty) (fs : FileSystem) :
    db.file.Touched fs (duty.perform db fs).2 ∧ (duty.perform db fs).2.locked = fs.locked := by
  have same : db.file.Touched fs fs ∧ fs.locked = fs.locked := ⟨.of_tidied (.refl ..), rfl⟩
  cases duty with
  | load effect =>
    simp only [perform, CatalogFile.runOn_load]
    cases db.file.content fs with
    | error error => exact same
    | ok c =>
      dsimp only
      rcases effect c with error | ⟨reply, _ | next⟩ <;> exact same
  | store reply next =>
    rcases stored : (db.file.store next).runOn fs with ⟨error | _, fs'⟩
    · simp only [perform, stored]
      exact CatalogFile.touched_of_store stored
    · simp only [perform, stored]
      exact CatalogFile.touched_of_store stored
  | remove =>
    simp only [perform, Disk.runOn_change]
    cases removed : fs.remove db.path with
    | error fault => exact same
    | ok fs' => exact CatalogFile.touched_of_remove removed
  | removed => exact same
  | release result => exact same

namespace Visit

variable {path : Path} {visit : Visit} {fs : FileSystem}

/-- Every step but the removal of the lock file is one of these moves. -/
theorem move_advance (on : visit.On path) (stays : ∀ db, visit ≠ .leaving db) :
    Move path visit.grip fs (visit.advance fs).1.grip (visit.advance fs).2 := by
  cases visit with
  | away => exact .stays
  | asked db duty =>
    cases on
    simp only [advance, Disk.runOn_attempt]
    cases opened : fs.openOrCreate (FileLock.pathFor db.path) with
    | error fault => exact .stays
    | ok result => exact .opens opened
  | opened db duty number =>
    simp only [advance, FileLock.runOn_lockOpened, FileSystem.tryLock?]
    by_cases taken : number ∈ fs.locked
    · rw [if_pos taken]
      exact .turnsBack
    · rw [if_neg taken]
      exact .locks taken
  | inside db duty number =>
    have works : ∀ duty : Duty,
        Move path (.locked number) fs (.locked number) (duty.perform db fs).2 := by
      intro duty
      obtain ⟨touched, locked⟩ := duty.touched_perform db fs
      exact .works db.file on touched locked
    cases duty with
    | load effect => exact works (.load effect)
    | store reply next => exact works (.store reply next)
    | remove => exact works .remove
    | removed => exact .releases
    | release result => exact .releases
  | leaving db => exact absurd rfl (stays db)
  | ended result => exact .stays

/-- Removing the lock file takes no lock and gives none back. -/
theorem advance_leaving (db : Database) (fs : FileSystem) :
    ((Visit.leaving db).advance fs).1.grip = .nothing ∧
      ((Visit.leaving db).advance fs).2.locked = fs.locked := by
  simp only [advance, Store.removeIfPresent, Disk.runOn_change]
  cases removed : fs.remove (FileLock.pathFor db.path) with
  | ok fs' =>
    obtain ⟨_, _, _, locked⟩ := FileSystem.replaced_of_remove removed
    exact ⟨rfl, locked⟩
  | error fault => cases fault <;> exact ⟨rfl, rfl⟩

/-- A process stays on its path while it advances. -/
theorem on_advance (on : visit.On path) : (visit.advance fs).1.On path := by
  cases visit with
  | away => exact trivial
  | asked db duty =>
    simp only [advance]
    split
    · exact on
    · exact trivial
  | opened db duty number =>
    simp only [advance]
    split
    · exact on
    · exact trivial
  | inside db duty number =>
    cases duty with
    | removed => exact on
    | release result => exact trivial
    | load effect => exact on
    | store reply next => exact on
    | remove => exact on
  | leaving db =>
    simp only [advance]
    split <;> exact trivial
  | ended result => exact trivial

end Visit

/-- The first step of a process leaves the lock file alone. -/
theorem Errand.grip_start (path : Path) (fs : FileSystem) (errand : Errand) :
    (errand.start path fs).grip = .nothing := by
  rw [start]
  split <;> rfl

theorem Errand.on_start {path : Path} {errand : Errand} (on : errand.On path) (fs : FileSystem) :
    (errand.start path fs).On path := by
  rw [start]
  split
  · exact trivial
  · exact path_database on

/-! ## Processes -/

/-- Processes that use one file system. -/
structure Peers where
  fs : FileSystem
  visit : Nat → Visit

namespace Peers

/-- A process comes to a point of its visit and leaves a file system behind. -/
def set (s : Peers) (i : Nat) (visit : Visit) (fs : FileSystem) : Peers :=
  ⟨fs, Function.update s.visit i visit⟩

/-- What each process has of a lock file. -/
def grip (s : Peers) : Nat → Grip :=
  Visit.grip ∘ s.visit

/-- What a process can do next, where all use the database at one path with the lock file. -/
inductive Step (path : Path) (i : Nat) : Peers → Peers → Prop
  | start {s : Peers} (errand : Errand) (free : (s.visit i).isFree = true) (on : errand.On path)
      (locks : (errand.database path).options.lockFile = true) :
      Step path i s (s.set i (errand.start path s.fs) s.fs)
  | advance {s : Peers} :
      Step path i s (s.set i ((s.visit i).advance s.fs).1 ((s.visit i).advance s.fs).2)

/-- What the processes can come to, in whatever order their steps come. -/
abbrev Reaches (path : Path) : Peers → Peers → Prop :=
  Relation.ReflTransGen fun s s' => ∃ i, Step path i s s'

/-- Whether no process has a lock file open, if the given one is about to remove it. -/
def Calm (s : Peers) (i : Nat) : Prop :=
  ∀ db, s.visit i = .leaving db → ∀ j, s.grip j = .nothing

/-- What the processes can come to if none removes a lock file that another has open. -/
abbrev ReachesCalmly (path : Path) : Peers → Peers → Prop :=
  Relation.ReflTransGen fun s s' => ∃ i, s.Calm i ∧ Step path i s s'

/-- Whether no process is at the database. -/
def Idle (s : Peers) : Prop :=
  ∀ i, (s.visit i).isFree = true

end Peers

/-! ## The lock of a file -/

variable {path : Path} {grip : Nat → Grip} {fs fs' : FileSystem} {i : Nat} {next : Grip}

/-- A grip is looked up in an updated table at the one place or at another. -/
theorem Grip.update_eq_iff {j : Nat} {value : Grip} :
    Function.update grip i next j = value ↔ j = i ∧ next = value ∨ j ≠ i ∧ grip j = value := by
  rcases eq_or_ne j i with rfl | other
  · simp
  · simp [other]

/-- Whether every lock that a process holds is taken, and by no other process. -/
structure Held (grip : Nat → Grip) (fs : FileSystem) : Prop where
  locked : ∀ i number, grip i = .locked number → number ∈ fs.locked
  apart : ∀ i j number, grip i = .locked number → grip j = .locked number → i = j

/-- A process can come to hold a lock that no other holds, as long as the others keep theirs. -/
theorem Held.update (held : Held grip fs)
    (taken : ∀ number, next = .locked number → number ∈ fs'.locked ∧ ∀ j, j ≠ i → grip j ≠ .locked number)
    (kept : ∀ j, j ≠ i → ∀ number, grip j = .locked number → number ∈ fs'.locked) :
    Held (Function.update grip i next) fs' where
  locked := by
    intro j number holds
    rcases Grip.update_eq_iff.1 holds with ⟨-, own⟩ | ⟨other, before⟩
    · exact (taken number own).1
    · exact kept j other number before
  apart := by
    intro j k number first second
    rcases Grip.update_eq_iff.1 first with ⟨rfl, own⟩ | ⟨other, before⟩
    · rcases Grip.update_eq_iff.1 second with ⟨rfl, -⟩ | ⟨another, beforeToo⟩
      · rfl
      · exact absurd beforeToo ((taken number own).2 k another)
    · rcases Grip.update_eq_iff.1 second with ⟨rfl, own⟩ | ⟨-, beforeToo⟩
      · exact absurd before ((taken number own).2 j other)
      · exact held.apart j k number before beforeToo

/-- Locks stay with those who hold them, whatever move comes. -/
theorem Held.move (held : Held grip fs) (move : Move path (grip i) fs next fs') :
    Held (Function.update grip i next) fs' := by
  generalize before : grip i = own at move
  cases move with
  | opens opened =>
    obtain ⟨directory, name, found, _, _, same⟩ := FileSystem.leads_of_openOrCreate opened
    have locked : fs'.locked = fs.locked := by
      rw [(Prod.mk.inj same).2]
      exact fs.locked_opened (directory ++ [name]) found
    exact held.update nofun fun j _ number holds => locked ▸ held.locked j number holds
  | @locks _ number free =>
    refine held.update ?_ fun j _ other holds => List.mem_cons_of_mem _ (held.locked j other holds)
    rintro _ ⟨⟩
    exact ⟨List.mem_cons_self, fun j _ holds => free (held.locked j number holds)⟩
  | turnsBack => exact held.update nofun fun j _ number holds => held.locked j number holds
  | works file on touched locked =>
    rw [← before, Function.update_eq_self]
    exact ⟨fun j number holds => locked ▸ held.locked j number holds, held.apart⟩
  | @releases _ number =>
    refine held.update nofun fun j other another holds => ?_
    have differs : another ≠ number := by
      rintro rfl
      exact other (held.apart j i another holds before)
    exact (List.mem_erase_of_ne differs).2 (held.locked j another holds)
  | stays =>
    rw [← before, Function.update_eq_self]
    exact held

/-! ## The lock file of a path -/

/-- Whether the lock file that a process has open is the one at the path. -/
def Current (path : Path) (grip : Nat → Grip) (fs : FileSystem) : Prop :=
  ∀ i number, (grip i).number? = some number → FileLock.Stands path fs number

/-- Whoever opens the lock file opens the one that the others have open, and no other move takes it
from its place. -/
theorem Current.move (current : Current path grip fs) (move : Move path (grip i) fs next fs') :
    Current path (Function.update grip i next) fs' := by
  generalize before : grip i = own at move
  intro j number has
  generalize after : Function.update grip i next j = value at has
  rcases Grip.update_eq_iff.1 after with ⟨rfl, rfl⟩ | ⟨other, rfl⟩
  · cases move with
    | opens opened =>
      cases has
      exact FileLock.stands_of_openOrCreate opened
    | locks free =>
      cases has
      exact (current j number (before ▸ rfl)).of_same (fs.same_of_locked _)
    | turnsBack => cases has
    | works file on touched locked =>
      subst on
      exact (current j number (before ▸ has)).of_touched touched
    | releases => cases has
    | stays => exact current j number (before ▸ has)
  · have stands := current j number has
    cases move with
    | opens opened =>
      -- The file is there, so it is not created.
      cases stands.openOrCreate.symm.trans opened
      exact stands
    | locks free => exact stands.of_same (fs.same_of_locked _)
    | turnsBack => exact stands
    | works file on touched locked =>
      subst on
      exact stands.of_touched touched
    | releases => exact stands.of_same (fs.same_of_locked _)
    | stays => exact stands

theorem number?_eq_of_locked {own : Grip} {number : Nat} (holds : own = .locked number) :
    own.number? = some number := by
  rw [holds]
  rfl

/-! ## Runs -/

namespace Peers

variable {s s' : Peers}

theorem grip_set (s : Peers) (i : Nat) (visit : Visit) (fs : FileSystem) :
    (s.set i visit fs).grip = Function.update s.grip i visit.grip :=
  Function.comp_update ..

/-- A step is a move with the lock file, or the removal of the lock file. -/
theorem step_cases (on : ∀ i, (s.visit i).On path) (step : Step path i s s') :
    ∃ next, s'.grip = Function.update s.grip i next ∧
      (Move path (s.grip i) s.fs next s'.fs ∨
        (∃ db, s.visit i = .leaving db) ∧ next = .nothing ∧ s'.fs.locked = s.fs.locked) := by
  cases step with
  | start errand free onErrand locks =>
    refine ⟨.nothing, ?_, .inl ?_⟩
    · rw [grip_set, errand.grip_start]
    · rw [show s.grip i = .nothing from Visit.grip_of_isFree free]
      exact .stays
  | advance =>
    refine ⟨_, grip_set .., ?_⟩
    by_cases leaves : ∃ db, s.visit i = .leaving db
    · obtain ⟨db, leaving⟩ := leaves
      rw [leaving]
      exact .inr ⟨⟨db, rfl⟩, Visit.advance_leaving db s.fs⟩
    · exact .inl (Visit.move_advance (on i) fun db leaving => leaves ⟨db, leaving⟩)

/-- Every process stays on the path in a step of any of them. -/
theorem on_step (on : ∀ i, (s.visit i).On path) (step : Step path i s s') (j : Nat) :
    (s'.visit j).On path := by
  have next : ∀ visit fs, visit.On path → ((s.set i visit fs).visit j).On path := by
    intro visit fs onNext
    rcases eq_or_ne j i with rfl | other
    · simpa only [set, Function.update_self] using onNext
    · simpa only [set, Function.update_of_ne other] using on j
  cases step with
  | start errand free onErrand locks => exact next _ _ (Errand.on_start onErrand s.fs)
  | advance => exact next _ _ (Visit.on_advance (on i))

/-- What every run keeps. -/
structure Kept (path : Path) (s : Peers) : Prop where
  on : ∀ i, (s.visit i).On path
  held : Held s.grip s.fs

/-- What is kept of the processes is kept by a step. -/
theorem Kept.step (kept : Kept path s) (step : Step path i s s') : Kept path s' := by
  refine ⟨on_step kept.on step, ?_⟩
  obtain ⟨next, after, move | ⟨_, rfl, locked⟩⟩ := step_cases kept.on step
  · rw [after]
    exact kept.held.move move
  · rw [after]
    exact kept.held.update nofun fun j _ number holds => locked ▸ kept.held.locked j number holds

/-- What is kept of the processes is kept by every run. -/
theorem Kept.reaches (kept : Kept path s) (reaches : Reaches path s s') : Kept path s' := by
  induction reaches with
  | refl => exact kept
  | tail _ step ih =>
    obtain ⟨i, step⟩ := step
    exact ih.step step

/-- A calm step leaves each lock file that is in use the current one. -/
theorem current_step (kept : Kept path s) (current : Current path s.grip s.fs) (calm : s.Calm i)
    (step : Step path i s s') : Current path s'.grip s'.fs := by
  obtain ⟨next, after, move | ⟨⟨db, leaving⟩, rfl, -⟩⟩ := step_cases kept.on step
  · rw [after]
    exact current.move move
  · -- The lock file may be gone, but nobody has it open.
    intro j number has
    rw [after] at has
    generalize value : Function.update s.grip i .nothing j = own at has
    rcases Grip.update_eq_iff.1 value with ⟨rfl, rfl⟩ | ⟨-, rfl⟩
    · cases has
    · rw [calm db leaving j] at has
      cases has

/-- In a run whose steps are calm each lock file that is in use stays the current one. -/
theorem current_reaches (kept : Kept path s) (current : Current path s.grip s.fs)
    (reaches : ReachesCalmly path s s') : Kept path s' ∧ Current path s'.grip s'.fs := by
  induction reaches with
  | refl => exact ⟨kept, current⟩
  | tail _ step ih =>
    obtain ⟨i, calm, step⟩ := step
    exact ⟨ih.1.step step, current_step ih.1 ih.2 calm step⟩

/-- Processes that have not begun hold nothing, so everything is kept of them. -/
theorem Idle.kept (idle : s.Idle) (path : Path) : Kept path s ∧ Current path s.grip s.fs := by
  have nothing : ∀ i, s.grip i = .nothing := fun i => Visit.grip_of_isFree (idle i)
  have on : ∀ i, (s.visit i).On path := fun i => Visit.on_of_isFree (idle i)
  refine ⟨⟨on, fun i number holds => ?_, fun i j number holds => ?_⟩, fun i number has => ?_⟩
  · cases (nothing i).symm.trans holds
  · cases (nothing i).symm.trans holds
  · rw [nothing i] at has
    cases has

/-- Processes that start with nobody at the database never hold the lock of the same file, whatever the
order of their steps. As long as no lock file is removed that a process has open, no two of them are
at work at once. -/
theorem alone_unless_unlinked (idle : s.Idle) :
    (Reaches path s s' →
      ∀ i j number, s'.grip i = .locked number → s'.grip j = .locked number → i = j) ∧
    (ReachesCalmly path s s' →
      ∀ i j, (s'.visit i).isInside = true → (s'.visit j).isInside = true → i = j) := by
  obtain ⟨kept, current⟩ := idle.kept path
  refine ⟨fun reaches => (kept.reaches reaches).held.apart, ?_⟩
  intro reaches i j first second
  obtain ⟨kept, current⟩ := current_reaches kept current reaches
  obtain ⟨number, holds⟩ := Visit.grip_of_isInside first
  obtain ⟨other, holdsToo⟩ := Visit.grip_of_isInside second
  -- Both have the file open that stands at the path, so it is the same file.
  have stands := current i number (number?_eq_of_locked holds)
  have standsToo := current j other (number?_eq_of_locked holdsToo)
  cases stands.openOrCreate.symm.trans standsToo.openOrCreate
  exact kept.held.apart i j number holds holdsToo

def sample : Peers := ⟨.sample, fun _ => .away⟩

theorem step_advance {visit : Visit} (i : Nat) (next : (s.visit i).advance s.fs = (visit, fs)) :
    Step path i s (s.set i visit fs) := by
  have step : Step path i s _ := .advance
  rwa [next] at step

/-- A process starts to delete the database of the sample. -/
theorem step_delete (i : Nat) (free : (s.visit i).isFree = true) :
    Step ⟨["", "home", "notes.json"]⟩ i s
      (s.set i ((Errand.delete .sample "notes").start ⟨["", "home", "notes.json"]⟩ s.fs) s.fs) :=
  .start _ free Store.databasePath_sample rfl

/-- A process starts to create it. -/
theorem step_create (i : Nat) (free : (s.visit i).isFree = true) :
    Step ⟨["", "home", "notes.json"]⟩ i s
      (s.set i ((Errand.work (.create .sample "notes")).start ⟨["", "home", "notes.json"]⟩ s.fs) s.fs) :=
  .start _ free Store.databasePath_sample rfl

/-- After a deletion that nobody waits for, the next process to come is alone inside. -/
theorem alone_unless_unlinked_deleted : ∃ s, ReachesCalmly ⟨["", "home", "notes.json"]⟩ sample s ∧
    (s.visit 1).isInside = true ∧ ∀ i, (s.visit i).isInside = true → i = 1 := by
  -- The lock file is removed before the second process comes.
  have begun : ReachesCalmly ⟨["", "home", "notes.json"]⟩ sample sample := .refl
  have asked := begun.tail ⟨0, nofun, step_delete 0 rfl⟩
  have opened := asked.tail ⟨0, nofun, step_advance 0 rfl⟩
  have taken := opened.tail ⟨0, nofun, step_advance 0 rfl⟩
  have removed := taken.tail ⟨0, nofun, step_advance 0 rfl⟩
  have leaving := removed.tail ⟨0, nofun, step_advance 0 rfl⟩
  have unlinked := leaving.tail ⟨0, fun _ _ i => by cases i <;> rfl, step_advance 0 rfl⟩
  have asked := unlinked.tail ⟨1, nofun, step_create 1 rfl⟩
  have opened := asked.tail ⟨1, nofun, step_advance 1 rfl⟩
  have taken := opened.tail ⟨1, nofun, step_advance 1 rfl⟩
  have alone := (alone_unless_unlinked (fun _ => rfl)).2 taken
  exact ⟨_, taken, rfl, fun i inside => alone i 1 inside rfl⟩

/-- Two processes are at work at once: the first deletes the database and has given the lock back, the
second takes the lock of the lock file that stands there, the first removes that lock file, and the
third creates another. -/
theorem two_inside : ¬ ∀ path s s', s.Idle → Reaches path s s' →
    ∀ i j, (s'.visit i).isInside = true → (s'.visit j).isInside = true → i = j := by
  intro exclusive
  have begun : Reaches ⟨["", "home", "notes.json"]⟩ sample sample := .refl
  have asked := begun.tail ⟨0, step_delete 0 rfl⟩
  have opened := asked.tail ⟨0, step_advance 0 rfl⟩
  have taken := opened.tail ⟨0, step_advance 0 rfl⟩
  have removed := taken.tail ⟨0, step_advance 0 rfl⟩
  have leaving := removed.tail ⟨0, step_advance 0 rfl⟩
  have asked := leaving.tail ⟨1, step_create 1 rfl⟩
  have opened := asked.tail ⟨1, step_advance 1 rfl⟩
  have taken := opened.tail ⟨1, step_advance 1 rfl⟩
  have unlinked := taken.tail ⟨0, step_advance 0 rfl⟩
  have asked := unlinked.tail ⟨2, step_create 2 rfl⟩
  have opened := asked.tail ⟨2, step_advance 2 rfl⟩
  have taken := opened.tail ⟨2, step_advance 2 rfl⟩
  exact absurd (exclusive _ _ _ (fun _ => rfl) taken 1 2 rfl rfl) (by decide)

end Peers

end DocStore
