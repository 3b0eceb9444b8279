-- SUMMARY: Handles whose settings differ only in how files are kept do the same in file systems that are alike.
import DocStore.Proofs.CatalogFile.Alike
import DocStore.Proofs.Catalog.Decoded
import DocStore.Proofs.Database.Call
import DocStore.Proofs.Store.Listing

/-!
# Handles in file systems that are alike

The mode in which a file is replaced, the style of its text and the lock file are settings that no
answer depends on. Two handles of one database that differ in these only give the same answers, each on
its own file system, if the two file systems are alike in their database files: the texts of a file are
the same, or they are those of one catalog in the two styles. Second files and lock files may come and
go on one side and not on the other.

There is one exception. A catalog that was written and cannot be read back is refused on both sides, but
each error tells of the text on its side. What the reader says of it can name another line and column.
-/

namespace DocStore

open FileSystem (Alike EntryAlike IsPlain Tame)

variable {style style' : Style}

/-! ## What counts as the same -/

/-- Whether two texts are the same, or those of one catalog in two styles. -/
inductive SameCatalog (style style' : Style) : ByteArray → ByteArray → Prop where
  | same (bytes : ByteArray) : SameCatalog style style' bytes bytes
  | styled {c : Catalog} (wf : c.WellFormed) :
      SameCatalog style style' (c.encode style) (c.encode style')

/-- Whether two errors refuse the texts of one catalog in two styles, a catalog that cannot be read
back in either. -/
inductive Error.OfTexts (style style' : Style) : Error → Error → Prop where
  | mk {path : String} {c : Catalog} (wf : c.WellFormed) (tooMuch : ¬c.toJson.Fits maxDepth) :
      OfTexts style style' (.corruptCatalog path (.undecodable .malformed (c.encode style)))
        (.corruptCatalog path (.undecodable .malformed (c.encode style')))

/-- Texts that count as the same hold the same catalog, or none for the same kind of reason. -/
theorem SameCatalog.decode_eq {bytes bytes' : ByteArray} (alike : SameCatalog style style' bytes bytes') :
    Catalog.decode bytes' = Catalog.decode bytes := by
  cases alike with
  | same bytes => rfl
  | styled wf => rw [Catalog.decode_encode wf, Catalog.decode_encode wf]

/-- Two texts of one catalog are decoded to it, or both are refused. -/
theorem SameCatalog.decode {bytes bytes' : ByteArray} (alike : SameCatalog style style' bytes bytes')
    (file : CatalogFile) :
    SameResult (Error.OfTexts style style') (file.decode bytes) (file.decode bytes') := by
  cases alike with
  | same bytes => exact .same _
  | @styled c wf =>
    simp only [CatalogFile.decode, Catalog.decode_encode wf]
    by_cases fits : c.toJson.Fits maxDepth
    · simp only [if_pos fits]
      exact .same _
    · simp only [if_neg fits]
      exact .error ⟨wf, fits⟩

/-- Whether a place has the name of a database file. -/
def Store.IsFilePlace (place : Place) : Prop :=
  ∃ directory name, place = directory ++ [name ++ Store.ending]

/-- Whether two computations give the same result and leave the same catalogs in all database files,
each in its style. -/
abbrev Disk.AgreeOnCatalogs (style style' : Style) {α : Type} (computation computation' : Disk α)
    (fs fs' : FileSystem) : Prop :=
  Disk.Agree (SameCatalog style style') (Error.OfTexts style style') Store.IsFilePlace computation
    computation' fs fs'

variable {fs fs' : FileSystem} {path : Path} {directory : Place} {name : String}

/-- Whether a database file of a name can be used, with the files beside it. -/
structure Housed (path : Path) (directory : Place) (name : String) (fs : FileSystem) : Prop where
  sits : CatalogFile.Sits path directory (name ++ Store.ending) fs
  lock : fs.HasRoom path directory (name ++ Store.ending) FileLock.ending

namespace Housed

/-- A file stays housed through changes that spare its directory. -/
theorem tame {places : List Place} (housed : Housed path directory name fs)
    (tame : Tame places fs fs') : Housed path directory name fs' :=
  ⟨housed.sits.tame tame, housed.lock.tame tame⟩

theorem seen (directory : Place) (name : String) :
    Store.IsFilePlace (directory ++ [name ++ Store.ending]) :=
  ⟨directory, name, rfl⟩

theorem temp_unseen (directory : Place) (name : String) :
    ¬Store.IsFilePlace (directory ++ [name ++ ".tmp"]) := by
  rintro ⟨other, file, same⟩
  exact Store.place_ne rfl (by decide) same.symm

theorem lock_unseen (directory : Place) (name : String) :
    ¬Store.IsFilePlace (directory ++ [name ++ FileLock.ending]) := by
  rintro ⟨other, file, same⟩
  exact Store.place_ne rfl (by decide) same.symm

/-- File systems in which lock files came and went are alike as before. -/
theorem alike_of_lock {fs₁ fs₁' : FileSystem}
    (alike : Alike (SameCatalog style style') Store.IsFilePlace fs fs')
    (tame : Tame [directory ++ [name ++ FileLock.ending]] fs fs₁)
    (tame' : Tame [directory ++ [name ++ FileLock.ending]] fs' fs₁') :
    Alike (SameCatalog style style') Store.IsFilePlace fs₁ fs₁' := by
  refine alike.tame tame tame' fun place touched isSeen => ?_
  rw [or_self, List.mem_singleton] at touched
  subst touched
  exact absurd isSeen (lock_unseen directory name)

end Housed

/-! ## The lock file -/

/-- A lock file that was opened is a regular file. -/
theorem FileSystem.isPlain_opened {place : Place} {found : Option Entry} (notRoot : place ≠ [])
    (there : fs.entryAt place = found) (plain : IsPlain found) :
    IsPlain ((fs.opened place found).2.entryAt place) := by
  rcases found with _ | (_ | ⟨number, content⟩ | number)
  · have created : (fs.opened place none).2.entryAt place = some (.file fs.nextNumber .empty) := by
      refine (FileSystem.entryAt_withEntry fs notRoot place _).trans ?_
      rw [if_pos rfl]
    rw [created]
    exact FileSystem.isPlain_file _ _
  · exact absurd rfl plain.ne_directory
  · change IsPlain (fs.entryAt place)
    rw [there]
    exact plain
  · exact absurd (plain (.device number) rfl) nofun

namespace Database

variable {db db' : Database} {α : Type} {computation computation' : Disk α}

/-- With or without the lock file a computation runs as by itself, on a file system in which at most the
lock file has come. -/
theorem runOn_locked_of_room (db : Database) (room : fs.HasRoom db.path directory name FileLock.ending)
    (free : fs.locked = []) :
    ∃ fs₁, Tame [directory ++ [name ++ FileLock.ending]] fs fs₁ ∧
      ∀ {α : Type} {computation : Disk α} {result fs₂}, computation.runOn fs₁ = (result, fs₂) →
        fs₂.locked = fs₁.locked →
          (db.locked computation).runOn fs = (result, { fs₂ with locked := [] }) := by
  have before := room.isPlain
  unfold locked
  cases db.options.lockFile with
  | false =>
    refine ⟨fs, .stay before, fun {α computation result fs₂} run locked => ?_⟩
    have same : { fs₂ with locked := [] } = fs₂ := by
      rw [← free, ← locked]
    rw [same]
    exact run
  | true =>
    obtain ⟨found, leads, plain⟩ := room
    have notRoot : directory ++ [name ++ FileLock.ending] ≠ [] := by simp
    have unlocked : (fs.opened (directory ++ [name ++ FileLock.ending]) found).1 ∉ fs.locked := by
      rw [free]
      exact List.not_mem_nil
    refine ⟨FileLock.held directory name fs found, ?_, ?_⟩
    · exact .of_frame (FileLock.frame_held directory name fs found) before
        (FileSystem.isPlain_opened notRoot leads.entry plain) fun distinct => distinct.opened _ found
    · intro α computation result fs₂ run locked
      rw [if_pos rfl, FileLock.runOn_hold computation leads plain.ne_directory unlocked, run]
      simp only [FileSystem.unlock, locked, FileLock.held, List.erase_cons_head, free]

/-- Whether two handles are of one database and differ only in how its file is kept. -/
structure Kin (db db' : Database) : Prop where
  path : db'.path = db.path
  idPolicy : db'.options.idPolicy = db.options.idPolicy
  enforceSchema : db'.options.enforceSchema = db.options.enforceSchema

/-- Whether such handles are used on file systems that are alike, with room for the files and no lock
taken. -/
structure Twins (db db' : Database) (directory : Place) (name : String) (fs fs' : FileSystem) : Prop
    extends Kin db db' where
  alike : Alike (SameCatalog db.file.style db'.file.style) Store.IsFilePlace fs fs'
  housed : Housed db.path directory name fs
  housed' : Housed db.path directory name fs'
  free : fs.locked = []
  free' : fs'.locked = []

namespace Twins

/-- Computations that agree by themselves agree under the lock file, on both sides or on one. -/
theorem agree_locked (twins : Twins db db' directory name fs fs')
    (inner : ∀ {fs₁ fs₁'},
      Alike (SameCatalog db.file.style db'.file.style) Store.IsFilePlace fs₁ fs₁' →
      CatalogFile.Sits db.path directory (name ++ Store.ending) fs₁ →
      CatalogFile.Sits db.path directory (name ++ Store.ending) fs₁' →
        Disk.AgreeOnCatalogs db.file.style db'.file.style computation computation' fs₁ fs₁') :
    Disk.AgreeOnCatalogs db.file.style db'.file.style (db.locked computation) (db'.locked computation')
      fs fs' := by
  have lock' := twins.housed'.lock
  rw [← twins.path] at lock'
  obtain ⟨fs₁, tame, run⟩ := db.runOn_locked_of_room twins.housed.lock twins.free
  obtain ⟨fs₁', tame', run'⟩ := db'.runOn_locked_of_room lock' twins.free'
  have alike₁ := Housed.alike_of_lock twins.alike tame tame'
  obtain ⟨result, result', fs₂, fs₂', inside, inside', results, alike₂, ⟨_, tame₂⟩, ⟨_, tame₂'⟩,
    locked, locked'⟩ := inner alike₁ (twins.housed.sits.tame tame) (twins.housed'.sits.tame tame')
  refine ⟨result, result', _, _, run inside locked, run' inside' locked', results, ?_,
    ⟨_, (tame.trans tame₂).trans (.locked fs₂ [])⟩, ⟨_, (tame'.trans tame₂').trans (.locked fs₂' [])⟩,
    twins.free.symm, twins.free'.symm⟩
  exact alike₂.tame (.locked fs₂ []) (.locked fs₂' []) fun _ touched => by simp at touched

end Twins

/-! ## Cycles -/

section Cycles

variable (kin : Kin db db')
variable (alike : Alike (SameCatalog db.file.style db'.file.style) Store.IsFilePlace fs fs')
variable (sits : CatalogFile.Sits db.path directory (name ++ Store.ending) fs)
variable (sits' : CatalogFile.Sits db.path directory (name ++ Store.ending) fs')

include kin alike sits

/-- The files of kin hold equal catalogs, or both are refused for their texts. -/
theorem Kin.content_alike :
    SameResult (Error.OfTexts db.file.style db'.file.style) (db.file.content fs) (db'.file.content fs') :=
  CatalogFile.content_alike kin.path alike sits.leads (Housed.seen _ _) fun _ _ same =>
    same.decode db.file

/-- Answers from the catalog agree. -/
theorem Kin.agree_answer (f : Catalog → Except Error α) :
    Disk.AgreeOnCatalogs db.file.style db'.file.style
      (do let catalog ← db.file.load; Disk.ofExcept (f catalog))
      (do let catalog ← db'.file.load; Disk.ofExcept (f catalog)) fs fs' := by
  have runs : ∀ (file : CatalogFile) fs,
      (do let catalog ← file.load; Disk.ofExcept (f catalog)).runOn fs = (file.content fs >>= f, fs) := by
    intro file fs
    rw [Disk.runOn_bind, CatalogFile.runOn_load]
    cases file.content fs <;> rfl
  have contents := (kin.content_alike alike sits).bind f
  exact .of_unchanged alike contents (runs db.file fs) (runs db'.file fs')

include sits'

/-- Storing one catalog in both styles is answered alike. -/
theorem Kin.agree_store {c : Catalog} (wf : c.WellFormed) :
    Disk.AgreeOnCatalogs db.file.style db'.file.style (db.file.store c) (db'.file.store c) fs fs' := by
  have unseen := Housed.temp_unseen directory (name ++ Store.ending)
  exact CatalogFile.agree_store kin.path alike sits sits' (fun isSeen => absurd isSeen unseen) (.styled wf)

/-- Changes agree if they keep catalogs well-formed, since these are the same in every style. -/
theorem Kin.agree_cycle {f : Catalog → Except Error (α × Catalog)}
    (keeps : ∀ {c a next}, c.WellFormed → f c = .ok (a, next) → next.WellFormed) :
    Disk.AgreeOnCatalogs db.file.style db'.file.style (db.cycle f) (db'.cycle f) fs fs' := by
  have stops : ∀ {other : Database} {fs error}, other.file.content fs = .error error →
      (other.cycle f).runOn fs = (.error error, fs) := by
    intro other fs error content
    rw [cycle, Disk.runOn_bind, CatalogFile.runOn_load, content]
  have contents := kin.content_alike alike sits
  generalize content : db.file.content fs = result at contents
  generalize content' : db'.file.content fs' = result' at contents
  cases contents with
  | error allowed => exact .of_unchanged alike (.error allowed) (stops content) (stops content')
  | same result =>
    cases result with
    | error error => exact .of_unchanged alike (.same _) (stops content) (stops content')
    | ok c =>
      have run := runOn_cycle f content
      have run' := runOn_cycle f content'
      rcases changed : f c with error | ⟨a, next⟩
      · rw [changed] at run run'
        exact .of_unchanged alike (.same _) run run'
      · obtain ⟨bytes, _, decoded⟩ := CatalogFile.content_ok.1 content
        have wf := keeps (Catalog.wellFormed_of_decode decoded).1 changed
        obtain ⟨result, result', fs₁, fs₁', stored, stored', results, rest⟩ :=
          kin.agree_store alike sits sits' wf
        simp only [changed, stored] at run
        simp only [changed, stored'] at run'
        cases results with
        | error allowed => exact ⟨_, _, fs₁, fs₁', run, run', .error allowed, rest⟩
        | same result =>
          cases result with
          | error error => exact ⟨_, _, fs₁, fs₁', run, run', .same _, rest⟩
          | ok _ => exact ⟨_, _, fs₁, fs₁', run, run', .same _, rest⟩

/-- Removing the file agrees: it goes on both sides, or is refused for the same reason. -/
theorem Kin.agree_remove :
    Disk.AgreeOnCatalogs db.file.style db'.file.style
      (Disk.change db.path fun fs => fs.remove db.path) (Disk.change db'.path fun fs => fs.remove db'.path) fs fs' := by
  rw [kin.path]
  have refused : ∀ {fs : FileSystem} {fault : IoFault}, fs.remove db.path = .error fault →
      (Disk.change db.path fun fs => fs.remove db.path).runOn fs =
        (.error (.io db.path.text fault), fs) := by
    intro fs fault removed
    rw [Disk.runOn_change, removed]
  have removes : ∀ {fs : FileSystem} {number bytes},
      fs.Leads db.path directory (name ++ Store.ending) (some (.file number bytes)) →
      (Disk.change db.path fun fs => fs.remove db.path).runOn fs =
        (.ok (), fs.withoutEntry (directory ++ [name ++ Store.ending])) := by
    intro fs number bytes leads
    rw [Disk.runOn_change, leads.remove nofun]
  have leads := sits.leads
  have leads' := sits'.leads
  have there := alike.entries _ (Housed.seen directory name)
  generalize found : fs.entryAt (directory ++ [name ++ Store.ending]) = entry at leads there
  generalize found' : fs'.entryAt (directory ++ [name ++ Store.ending]) = entry' at leads' there
  cases there with
  | nothing =>
    exact .of_unchanged alike (.same _) (refused leads.remove_nothing) (refused leads'.remove_nothing)
  | directory =>
    exact .of_unchanged alike (.same _) (refused leads.remove_directory) (refused leads'.remove_directory)
  | device => exact absurd found (sits.notDevice _)
  | file contents =>
    have tame := FileSystem.tame_withoutEntry (found ▸ FileSystem.isPlain_file _ _)
    have tame' := FileSystem.tame_withoutEntry (found' ▸ FileSystem.isPlain_file _ _)
    refine ⟨.ok (), .ok (), _, _, removes leads, removes leads', .same _, ?_, ⟨_, tame⟩, ⟨_, tame'⟩, rfl,
      rfl⟩
    refine alike.tame tame tame' fun place touched _ => ?_
    rw [or_self, List.mem_singleton] at touched
    subst touched
    rw [FileSystem.entryAt_withoutEntry_self, FileSystem.entryAt_withoutEntry_self]
    exact .nothing

end Cycles

namespace Twins

theorem agree_read (twins : Twins db db' directory name fs fs') (f : Catalog → Except Error α) :
    Disk.AgreeOnCatalogs db.file.style db'.file.style (db.read f) (db'.read f) fs fs' :=
  twins.agree_locked fun alike sits _ => twins.agree_answer alike sits f

theorem agree_write (twins : Twins db db' directory name fs fs')
    {f : Catalog → Except Error (α × Catalog)}
    (keeps : ∀ {c a next}, c.WellFormed → f c = .ok (a, next) → next.WellFormed) :
    Disk.AgreeOnCatalogs db.file.style db'.file.style (db.write f) (db'.write f) fs fs' :=
  twins.agree_locked fun alike sits sits' => twins.agree_cycle alike sits sits' keeps

theorem agree_reset (twins : Twins db db' directory name fs fs') {c : Catalog} (wf : c.WellFormed) :
    Disk.AgreeOnCatalogs db.file.style db'.file.style (db.reset c) (db'.reset c) fs fs' :=
  twins.agree_locked fun alike sits sits' => twins.agree_store alike sits sits' wf

theorem agree_removeFile (twins : Twins db db' directory name fs fs') :
    Disk.AgreeOnCatalogs db.file.style db'.file.style db.removeFile db'.removeFile fs fs' :=
  twins.agree_locked fun alike sits sits' => twins.agree_remove alike sits sits'

end Twins

end Database

/-! ## Calls -/

/-- A call with sound arguments agrees with the same call through the other handle. -/
theorem Call.agree {db db' : Database} {call : Call} (twins : db.Twins db' directory name fs fs')
    (sound : call.Sound) :
    Disk.AgreeOnCatalogs db.file.style db'.file.style (call.run db) (call.run db') fs fs' := by
  cases call with
  | createCollection collection definition =>
    rw [run_createCollection, run_createCollection, twins.enforceSchema]
    cases Catalog.checkNewCollection db.options.enforceSchema collection definition with
    | error error => exact .of_unchanged twins.alike (.same _) rfl rfl
    | ok _ =>
      refine (twins.agree_write fun wf written => ?_).map _
      cases written
      exact wf.createCollection collection definition
  | insert collection fields =>
    refine Disk.Agree.map ?_ _
    rw [Database.insert, Database.insert, twins.idPolicy, twins.enforceSchema]
    exact twins.agree_write fun wf => wf.insertRecord sound
  | delete collection p => exact (twins.agree_write fun wf => wf.deleteRecords).map _
  | update collection p patch =>
    refine Disk.Agree.map ?_ _
    rw [Database.update, Database.update, twins.enforceSchema]
    exact twins.agree_write fun wf => wf.updateRecords sound
  | select collection p => exact (twins.agree_read _).map _
  | collectionNames => exact (twins.agree_read _).map _
  | schema collection => exact (twins.agree_read _).map _

end DocStore
