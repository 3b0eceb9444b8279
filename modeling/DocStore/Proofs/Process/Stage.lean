-- SUMMARY: An operation cut into the steps between which other threads can come, and what is left of it at each.
import DocStore.Proofs.Database.Failure

/-!
# Operations in stages

An operation that runs by itself is one computation. Where threads take turns it is a sequence of
steps between which others can come: it is checked before it asks for the writer, and once it has the
writer it takes the lock file if that is used, loads, applies, stores, and gives the lock back. A
stage is a point between two steps, with what the operation knows there.

At each stage there is a rest that is still to be done. A step does the first part of the rest and
leaves the other part, so what the operation comes to is the same at every stage; at the first one
the rest is the operation itself.
-/

namespace DocStore

/-! ## Operations -/

/-- What an operation returns. -/
inductive Reply where
  | database (db : Database)
  | answer (answer : Answer)

/-- An operation of a store or of a handle. -/
inductive Work where
  | create (store : Store) (name : String)
  | connect (store : Store) (name : String)
  | call (db : Database) (asked : Call)

/-- What an operation does while it has the writer. -/
inductive Turn where
  /-- Load the catalog, and store the next one if there is to be one. -/
  | load (effect : Catalog → Except Error (Reply × Option Catalog))
  /-- Store a catalog whatever the file holds. -/
  | store (reply : Reply) (catalog : Catalog)

namespace Work

/-- The operation by itself. -/
def run : Work → Disk Reply
  | .create store name => .database <$> store.createDatabase name
  | .connect store name => .database <$> store.connect name
  | .call db asked => .answer <$> asked.run db

/-- Whether an operation is about the database file at a path. -/
def On (path : Path) : Work → Prop
  | .create store name => store.databasePath name = .ok path
  | .connect store name => store.databasePath name = .ok path
  | .call db _ => db.path = path

/-- Whether an operation makes a handle of its own; else it needs one. -/
def makesHandle : Work → Bool
  | .create _ _ => true
  | .connect _ _ => true
  | .call _ _ => false

/-- The database as the handle of the operation knows it. -/
def database (path : Path) : Work → Database
  | .create store name => store.handle name path
  | .connect store name => store.handle name path
  | .call db _ => db

/-- The error that ends an operation before it asks for the writer. -/
def refusal? (path : Path) (fs : FileSystem) : Work → Option Error
  | .connect _ name => if fs.isFile path then none else some (.databaseNotFound name)
  | .call db (.createCollection collection definition) =>
    match Catalog.checkNewCollection db.options.enforceSchema collection definition with
    | .error error => some error
    | .ok _ => none
  | _ => none

/-- What an operation does while it has the writer. -/
def turn (path : Path) : Work → Turn
  | .create store name => .store (.database (store.handle name path)) Catalog.empty
  | .connect store name => .load fun _ => .ok (.database (store.handle name path), none)
  | .call db asked => .load fun c =>
    (asked.effect db.options c).map fun (answer, next) => (.answer answer, next)

end Work

/-! ## Stages -/

namespace Database

/-- Store the catalog that goes with a result, if there is one. -/
def conclude (db : Database) : Except Error (Reply × Option Catalog) → Disk Reply
  | .error error => throw error
  | .ok (reply, none) => return reply
  | .ok (reply, some next) => do
    db.file.store next
    return reply

end Database

/-- What is done with the writer and under the lock file. -/
def Turn.body (db : Database) : Turn → Disk Reply
  | .load effect => do db.conclude (effect (← db.file.load))
  | .store reply catalog => do
    db.file.store catalog
    return reply

/-- Run a computation and give a lock back, if there is one. -/
def FileLock.giveBack {α : Type} (lock : Option Nat) (computation : Disk α) : Disk α :=
  ExceptT.mk fun fs =>
    let (result, fs) := computation.runOn fs
    (result, match lock with
      | some number => fs.unlock number
      | none => fs)

/-- How far an operation has come that has the writer. -/
inductive Stage where
  | entered (turn : Turn)
  /-- It holds the lock file, if that is used. -/
  | locked (lock : Option Nat) (turn : Turn)
  | loaded (lock : Option Nat) (effect : Catalog → Except Error (Reply × Option Catalog)) (c : Catalog)
  /-- It is about to store. -/
  | applied (lock : Option Nat) (reply : Reply) (next : Catalog)
  /-- It is about to give the lock file back. -/
  | answered (lock : Option Nat) (result : Except Error Reply)
  /-- It is about to give the writer back. -/
  | finished (result : Except Error Reply)

namespace Stage

/-- The next step of an operation that has the writer. -/
def advance (db : Database) : Stage → FileSystem → Stage × FileSystem
  | .entered turn, fs =>
    if db.options.lockFile then
      match (FileLock.acquire db.path).runOn fs with
      | (.ok number, fs) => (.locked (some number) turn, fs)
      | (.error error, fs) => (.finished (.error error), fs)
    else (.locked none turn, fs)
  | .locked lock (.load effect), fs =>
    match db.file.load.runOn fs with
    | (.ok c, fs) => (.loaded lock effect c, fs)
    | (.error error, fs) => (.answered lock (.error error), fs)
  | .locked lock (.store reply catalog), fs => (.applied lock reply catalog, fs)
  | .loaded lock effect c, fs =>
    match effect c with
    | .ok (reply, some next) => (.applied lock reply next, fs)
    | .ok (reply, none) => (.answered lock (.ok reply), fs)
    | .error error => (.answered lock (.error error), fs)
  | .applied lock reply next, fs =>
    match (db.file.store next).runOn fs with
    | (.ok _, fs) => (.answered lock (.ok reply), fs)
    | (.error error, fs) => (.answered lock (.error error), fs)
  | .answered (some number) result, fs => (.finished result, fs.unlock number)
  | .answered none result, fs => (.finished result, fs)
  | .finished result, fs => (.finished result, fs)

/-- What is still to be done. -/
def rest (db : Database) : Stage → Disk Reply
  | .entered turn => db.locked (turn.body db)
  | .locked lock turn => FileLock.giveBack lock (turn.body db)
  | .loaded lock effect c => FileLock.giveBack lock (db.conclude (effect c))
  | .applied lock reply next => FileLock.giveBack lock (do db.file.store next; return reply)
  | .answered lock result => FileLock.giveBack lock (Disk.ofExcept result)
  | .finished result => Disk.ofExcept result

end Stage

variable {db : Database} {fs fs' : FileSystem} {path : Path} {work : Work}

theorem FileLock.runOn_giveBack {α : Type} (lock : Option Nat) (computation : Disk α) (fs : FileSystem) :
    (giveBack lock computation).runOn fs =
      ((computation.runOn fs).1, match lock with
        | some number => (computation.runOn fs).2.unlock number
        | none => (computation.runOn fs).2) := rfl

/-- A step leaves of an operation what is still to be done. -/
theorem Stage.rest_advance (db : Database) (stage : Stage) (fs : FileSystem) :
    ((stage.advance db fs).1.rest db).runOn (stage.advance db fs).2 = (stage.rest db).runOn fs := by
  cases stage with
  | entered turn =>
    cases lockFile : db.options.lockFile with
    | false => simp [advance, rest, Database.locked, lockFile, FileLock.runOn_giveBack]
    | true =>
      simp only [advance, rest, Database.locked, lockFile, if_true, FileLock.runOn_hold_eq]
      rcases (FileLock.acquire db.path).runOn fs with ⟨error | number, fs'⟩ <;> rfl
  | locked lock turn =>
    cases turn with
    | store reply catalog => rfl
    | load effect =>
      simp only [advance, rest, Turn.body, FileLock.runOn_giveBack, Disk.runOn_bind]
      rcases db.file.load.runOn fs with ⟨error | c, fs'⟩ <;> rfl
  | loaded lock effect c =>
    simp only [advance, rest]
    rcases effect c with error | ⟨reply, _ | next⟩ <;> rfl
  | applied lock reply next =>
    simp only [advance, rest, FileLock.runOn_giveBack, Disk.runOn_bind]
    rcases (db.file.store next).runOn fs with ⟨error | _, fs'⟩ <;> rfl
  | answered lock result => cases lock <;> rfl
  | finished result => rfl

/-! ## Every operation comes to its end -/

/-- How many steps an operation with the writer may still take. -/
def Stage.left : Stage → Nat
  | .entered _ => 5
  | .locked _ _ => 4
  | .loaded _ _ _ => 3
  | .applied _ _ _ => 2
  | .answered _ _ => 1
  | .finished _ => 0

/-- An operation with the writer comes closer to its end with every step. -/
theorem Stage.finished_or_left_advance (db : Database) (stage : Stage) (fs : FileSystem) :
    (∃ result, stage = .finished result) ∨ (stage.advance db fs).1.left < stage.left := by
  cases stage with
  | entered turn =>
    refine .inr ?_
    simp only [advance]
    split
    · rcases (FileLock.acquire db.path).runOn fs with ⟨_ | _, _⟩ <;> simp [left]
    · simp [left]
  | locked lock turn =>
    refine .inr ?_
    cases turn with
    | store reply catalog => simp [advance, left]
    | load effect =>
      simp only [advance]
      rcases db.file.load.runOn fs with ⟨_ | _, _⟩ <;> simp [left]
  | loaded lock effect c =>
    refine .inr ?_
    simp only [advance]
    rcases effect c with _ | ⟨_, _ | _⟩ <;> simp [left]
  | applied lock reply next =>
    refine .inr ?_
    simp only [advance]
    rcases (db.file.store next).runOn fs with ⟨_ | _, _⟩ <;> simp [left]
  | answered lock result => cases lock <;> simp [advance, left]
  | finished result => exact .inl ⟨result, rfl⟩

/-! ## At the first stage the rest is the operation -/

theorem Disk.ext {α : Type} {computation other : Disk α}
    (h : ∀ fs, computation.runOn fs = other.runOn fs) : computation = other :=
  funext h

theorem Database.map_locked {α β : Type} (f : α → β) (db : Database) (computation : Disk α) :
    f <$> db.locked computation = db.locked (f <$> computation) := by
  unfold Database.locked
  split
  · refine Disk.ext fun fs => ?_
    simp only [Disk.runOn_map, FileLock.runOn_hold_eq]
    rcases (FileLock.acquire db.path).runOn fs with ⟨error | number, fs'⟩ <;> rfl
  · rfl

namespace Turn

theorem map_read {α : Type} (tag : α → Answer) (f : Catalog → Except Error α) :
    Reply.answer <$> tag <$> db.read f =
      db.locked ((Turn.load fun c =>
        (Call.reading tag (f c)).map fun (answer, next) => (.answer answer, next)).body db) := by
  rw [Database.read, Database.map_locked, Database.map_locked]
  refine congrArg db.locked (Disk.ext fun fs => ?_)
  simp only [body, Disk.runOn_map, Disk.runOn_bind]
  rcases db.file.load.runOn fs with ⟨error | c, fs'⟩
  · rfl
  · simp only [Disk.runOn_ofExcept]
    cases f c <;> rfl

theorem map_write {α : Type} (tag : α → Answer) (f : Catalog → Except Error (α × Catalog)) :
    Reply.answer <$> tag <$> db.write f =
      db.locked ((Turn.load fun c =>
        (Call.writing tag (f c)).map fun (answer, next) => (.answer answer, next)).body db) := by
  rw [Database.write, Database.map_locked, Database.map_locked]
  refine congrArg db.locked (Disk.ext fun fs => ?_)
  simp only [body, Disk.runOn_map, Disk.runOn_bind]
  rcases db.file.load.runOn fs with ⟨error | c, fs'⟩
  · rfl
  · simp only [Disk.runOn_ofExcept]
    rcases f c with error | ⟨a, next⟩
    · rfl
    · change _ = (do db.file.store next; return Reply.answer (tag a) : Disk Reply).runOn fs'
      simp only [Disk.runOn_bind]
      rcases (db.file.store next).runOn fs' with ⟨error | _, fs''⟩ <;> rfl

end Turn

/-- A call that is not refused is its turn with the writer. -/
theorem Call.map_run {asked : Call} (accepted : (Work.call db asked).refusal? path fs = none) :
    Reply.answer <$> asked.run db =
      db.locked (((Work.call db asked).turn path).body db) := by
  cases asked with
  | createCollection collection definition =>
    rw [run_createCollection]
    simp only [Work.refusal?] at accepted
    split at accepted
    · cases accepted
    · rename_i checked
      simp only [Work.turn, effect, checked]
      exact Turn.map_write _ _
  | insert collection fields => exact Turn.map_write _ _
  | delete collection p => exact Turn.map_write _ _
  | update collection p patch => exact Turn.map_write _ _
  | select collection p => exact Turn.map_read _ _
  | collectionNames => exact Turn.map_read _ _
  | schema collection => exact Turn.map_read _ _

theorem Turn.map_reset (made : Database) (c : Catalog) :
    Reply.database <$> (fun _ => made) <$> db.reset c =
      db.locked ((Turn.store (.database made) c).body db) := by
  rw [Database.reset, Database.map_locked, Database.map_locked]
  refine congrArg db.locked (Disk.ext fun fs => ?_)
  simp only [body, Disk.runOn_map, Disk.runOn_bind]
  rcases (db.file.store c).runOn fs with ⟨error | _, fs'⟩ <;> rfl

theorem Turn.map_collectionNames (made : Database) :
    Reply.database <$> (fun _ => made) <$> db.collectionNames =
      db.locked ((Turn.load fun _ => .ok (.database made, none)).body db) := by
  rw [Database.collectionNames, Database.read, Database.map_locked, Database.map_locked]
  refine congrArg db.locked (Disk.ext fun fs => ?_)
  simp only [body, Disk.runOn_map, Disk.runOn_bind]
  rcases db.file.load.runOn fs with ⟨error | c, fs'⟩ <;> rfl

/-- An operation that is not refused is its turn with the writer. -/
theorem Work.runOn_eq (on : work.On path) (accepted : work.refusal? path fs = none) :
    work.run.runOn fs =
      ((Stage.entered (work.turn path)).rest (work.database path)).runOn fs := by
  cases work with
  | create store name =>
    have created := store.runOn_createDatabase name fs
    rw [show store.databasePath name = .ok path from on] at created
    rw [run, Disk.runOn_map, created, ← Disk.runOn_map, Turn.map_reset]
    rfl
  | connect store name =>
    have connected := store.runOn_connect name fs
    simp only [refusal?] at accepted
    split at accepted
    · rename_i isFile
      simp only [show store.databasePath name = .ok path from on, if_pos isFile] at connected
      rw [run, Disk.runOn_map, connected, ← Disk.runOn_map, Turn.map_collectionNames]
      rfl
    · cases accepted
  | call db asked =>
    rw [run, Call.map_run accepted]
    rfl

/-- An operation that is refused ends with that error by itself too, and changes nothing. -/
theorem Work.runOn_eq_of_refusal {error : Error} (on : work.On path)
    (refused : work.refusal? path fs = some error) : work.run.runOn fs = (.error error, fs) := by
  cases work with
  | create store name => cases refused
  | connect store name =>
    have connected := store.runOn_connect name fs
    simp only [refusal?] at refused
    split at refused
    · cases refused
    · rename_i noFile
      cases refused
      simp only [show store.databasePath name = .ok path from on, if_neg noFile] at connected
      rw [run, Disk.runOn_map, connected]
      rfl
  | call db asked =>
    cases asked with
    | createCollection collection definition =>
      simp only [refusal?] at refused
      split at refused
      · rename_i checked
        cases refused
        rw [run, Call.run_createCollection, Disk.runOn_map, Disk.runOn_bind, checked]
        rfl
      · cases refused
    | insert collection fields => cases refused
    | delete collection p => cases refused
    | update collection p patch => cases refused
    | select collection p => cases refused
    | collectionNames => cases refused
    | schema collection => cases refused

/-! ## A file that is there stays there -/

theorem FileSystem.isFile_of_find (same : fs'.find path = fs.find path) (isFile : fs.isFile path = true) :
    fs'.isFile path = true := by
  rwa [FileSystem.isFile, FileSystem.leadsTo, same]

theorem FileSystem.Leads.isFile {directory : Place} {name : String} {number : Nat} {bytes : ByteArray}
    (leads : fs.Leads path directory name (some (.file number bytes))) : fs.isFile path = true := by
  rw [FileSystem.isFile, leadsTo, leads.find]
  rfl

theorem FileSystem.leads_of_isFile (isFile : fs.isFile path = true) :
    ∃ directory name number bytes, fs.Leads path directory name (some (.file number bytes)) := by
  unfold FileSystem.isFile leadsTo at isFile
  split at isFile
  · rename_i place entry found
    cases entry with
    | file number bytes =>
      obtain ⟨directory, name, leads⟩ := leads_of_find found nofun
      exact ⟨directory, name, number, bytes, leads⟩
    | directory => cases isFile
    | device number => cases isFile
  · cases isFile

/-- Storing keeps a file a file, whether it succeeds or not. -/
theorem Database.isFile_store (db : Database) (c : Catalog) (isFile : fs.isFile db.path = true) :
    ((db.file.store c).runOn fs).2.isFile db.path = true := by
  rcases stored : (db.file.store c).runOn fs with ⟨error | _, fs'⟩
  · exact FileSystem.isFile_of_find (find_of_tidied (CatalogFile.tidied_of_store stored).1) isFile
  · obtain ⟨directory, name, number, bytes, leads⟩ := FileSystem.leads_of_isFile isFile
    obtain ⟨newNumber, newLeads⟩ := (CatalogFile.stored_of_store leads stored).content
    exact newLeads.isFile

/-- No step of an operation takes the database file away. -/
theorem Stage.isFile_advance (on : db.path = path) (stage : Stage) (isFile : fs.isFile path = true) :
    (stage.advance db fs).2.isFile path = true := by
  subst on
  cases stage with
  | entered turn =>
    simp only [advance]
    split
    · rcases acquired : (FileLock.acquire db.path).runOn fs with ⟨result, fs'⟩
      have opened := (FileLock.opened_of_acquire acquired).1
      have kept := FileSystem.isFile_of_find (Database.find_of_opened opened) isFile
      cases result <;> exact kept
    · exact isFile
  | locked lock turn =>
    cases turn with
    | store reply catalog => exact isFile
    | load effect =>
      simp only [advance, CatalogFile.runOn_load]
      cases db.file.content fs <;> exact isFile
  | loaded lock effect c =>
    simp only [advance]
    split <;> exact isFile
  | applied lock reply next =>
    have kept := db.isFile_store next isFile
    simp only [advance]
    rcases stored : (db.file.store next).runOn fs with ⟨error | _, fs'⟩
    · rwa [stored] at kept
    · rwa [stored] at kept
  | answered lock result =>
    cases lock with
    | none => exact isFile
    | some number =>
      exact FileSystem.isFile_of_find (FileSystem.find_of_same (fs.same_of_locked _) db.path) isFile
  | finished result => exact isFile

/-- An operation that was not refused would not be refused later, as long as the file stays. -/
theorem Work.refusal?_eq_none_of_isFile (isFile : fs.isFile path = true → fs'.isFile path = true)
    (accepted : work.refusal? path fs = none) : work.refusal? path fs' = none := by
  cases work with
  | create store name => rfl
  | connect store name =>
    simp only [refusal?] at accepted ⊢
    split at accepted
    · rename_i there
      rw [if_pos (isFile there)]
    · cases accepted
  | call db asked => cases asked <;> exact accepted

theorem Work.refusal?_eq_some_of_isFile {error : Error}
    (isFile : fs.isFile path = true → fs'.isFile path = true)
    (refused : work.refusal? path fs' = some error) : work.refusal? path fs = some error := by
  cases work with
  | create store name => exact refused
  | connect store name =>
    simp only [refusal?] at refused ⊢
    split at refused
    · cases refused
    · rename_i noFile
      rwa [if_neg (mt isFile noFile)]
  | call db asked => cases asked <;> exact refused

theorem Work.path_database (on : work.On path) : (work.database path).path = path := by
  cases work with
  | create store name => rfl
  | connect store name => rfl
  | call db asked => exact on

end DocStore
