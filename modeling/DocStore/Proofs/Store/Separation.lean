-- SUMMARY: The databases of a store keep to their own files, and exactly those that are there are listed.
import DocStore.Proofs.Database.Body
import DocStore.Proofs.Database.Changes
import DocStore.Proofs.FileSystem.Child
import DocStore.Proofs.Name
import DocStore.Proofs.Store.Settings
import DocStore.Proofs.Text.Order

/-!
# The databases of a store keep apart

Three pieces of the store have to agree on what a file is called: the check of a name, the paths that
are made from it, and the listing, which goes back from the names of files to the names of databases.
A name that passes the check has no dot in it, so its three files are told apart from those of every
other name and from the configuration file. Whatever is asked of a database is done by one change after
another, and each of them is at one of its three files; and the listing gives the databases that are
there, each once and in order.
-/

namespace DocStore

open FileSystem (Edit Frame KeepsDirectories)
open Relation (ReflTransGen)

namespace Store

variable {store : Store} {fs fs' fs₁ fs₂ : FileSystem} {directory : Place} {name other : String}

/-- The endings of the three files that a database may have: its own, the second file and the lock
file. -/
def fileEndings : List String := [".json", ".json.tmp", ".json.lock"]

def filePlaces (directory : Place) (name : String) : List Place :=
  fileEndings.map fun ending => directory ++ [name ++ ending]

def filePaths (store : Store) (name : String) : List Path :=
  fileEndings.map fun ending => store.directory.child (name ++ ending)

/-! ## Files of different databases -/

theorem mem_filePlaces {place : Place} :
    place ∈ filePlaces directory name ↔
      ∃ ending ∈ fileEndings, place = directory ++ [name ++ ending] := by
  simp [filePlaces, eq_comm]

theorem head?_ending : ∀ ending ∈ fileEndings, ending.toList.head? = some '.' := by
  decide

theorem length_fileName (name : String) :
    ∀ ending ∈ fileEndings, 2 < (name ++ ending).length := by
  intro ending mem
  have bound : ∀ ending ∈ fileEndings, 2 < ending.length := by decide
  rw [String.length_append]
  exact Nat.lt_of_lt_of_le (bound ending mem) (Nat.le_add_left _ _)

/-- The files of two databases of different names are at different places. -/
theorem filePlaces_disjoint (valid : Name.IsValid name) (otherValid : Name.IsValid other)
    (apart : name ≠ other) : ∀ place ∈ filePlaces directory name, place ∉ filePlaces directory other := by
  intro place mem otherMem
  obtain ⟨ending, among, rfl⟩ := mem_filePlaces.1 mem
  obtain ⟨otherEnding, otherAmong, same⟩ := mem_filePlaces.1 otherMem
  have files := List.singleton_inj.1 (List.append_inj' same rfl).2
  exact apart (Name.append_inj valid otherValid (head?_ending _ among) (head?_ending _ otherAmong) files).1

/-- The configuration file is none of the files of a database. -/
theorem config_not_mem_filePlaces (valid : Name.IsValid name) :
    directory ++ [Config.fileName] ∉ filePlaces directory name := by
  intro mem
  obtain ⟨ending, among, same⟩ := mem_filePlaces.1 mem
  have files : Config.fileName = name ++ ending := List.singleton_inj.1 (List.append_inj' same rfl).2
  have config : Config.fileName = "jsondoc" ++ ".toml" := by decide
  have configValid : Name.IsValid "jsondoc" := by decide
  rw [config] at files
  obtain ⟨_, rfl⟩ := Name.append_inj configValid valid (by decide) (head?_ending _ among) files
  exact absurd among (by decide)

/-! ## What is touched -/

/-- Whether nothing changed but the files of a database, and no directory went. -/
structure Confined (directory : Place) (name : String) (fs fs' : FileSystem) : Prop where
  frame : Frame (filePlaces directory name) fs fs'
  keeps : KeepsDirectories fs fs'

theorem Confined.of_same (same : Frame [] fs fs') : Confined directory name fs fs' :=
  ⟨same.mono (List.forall_mem_nil _), same.keepsDirectories (List.forall_mem_nil _)⟩

theorem Confined.refl (directory : Place) (name : String) (fs : FileSystem) :
    Confined directory name fs fs :=
  .of_same (.refl [] fs)

/-- Two runs that are confined to the files of a database are so one after the other. -/
theorem Confined.trans (first : Confined directory name fs fs₁)
    (second : Confined directory name fs₁ fs₂) : Confined directory name fs fs₂ := by
  refine ⟨first.frame.trans second.frame, ?_, ?_⟩
  · exact second.keeps.workingDirectory.trans first.keeps.workingDirectory
  · intro place isDirectory
    have between := first.keeps.directory place isDirectory
    exact second.keeps.directory place between

/-- Where a file of a database can be opened, it is at one of its places. -/
theorem place_of_findToWrite {ending : String} {place : Place} {found : Option Entry}
    (there : fs.find store.directory = .ok (directory, .directory))
    (mem : ending ∈ fileEndings)
    (looked : fs.findToWrite (store.directory.child (name ++ ending)) = .ok (place, found)) :
    place = directory ++ [name ++ ending] ∧ found ≠ some .directory ∧ fs.entryAt place = found := by
  obtain ⟨notDirectory, _, _, rfl, leads⟩ := FileSystem.leads_of_findToWrite looked
  cases FileSystem.resolve_child there (length_fileName name ending mem) leads.resolved
  exact ⟨rfl, notDirectory, leads.entry⟩

/-- A change at places where the files of a database can be opened is confined to them. -/
theorem confined_of_frame {places : List Place}
    (there : fs.find store.directory = .ok (directory, .directory)) (frame : Frame places fs fs')
    (uses : ∀ place ∈ places, ∃ path ∈ store.filePaths name, ∃ found,
      fs.findToWrite path = .ok (place, found)) : Confined directory name fs fs' := by
  refine ⟨frame.mono fun place mem => ?_, frame.keepsDirectories fun place mem => ?_⟩
  · obtain ⟨path, among, _, looked⟩ := uses place mem
    obtain ⟨ending, isEnding, rfl⟩ := List.mem_map.1 among
    exact mem_filePlaces.2 ⟨ending, isEnding, (place_of_findToWrite there isEnding looked).1⟩
  · obtain ⟨path, among, _, looked⟩ := uses place mem
    obtain ⟨ending, isEnding, rfl⟩ := List.mem_map.1 among
    obtain ⟨_, notDirectory, entry⟩ := place_of_findToWrite there isEnding looked
    rwa [entry]

theorem Confined.of_place {path : Path} {place : Place} {found : Option Entry}
    (there : fs.find store.directory = .ok (directory, .directory))
    (among : path ∈ store.filePaths name) (looked : fs.findToWrite path = .ok (place, found))
    (frame : Frame [place] fs fs') : Confined directory name fs fs' :=
  confined_of_frame there frame (List.forall_mem_singleton.2 ⟨path, among, found, looked⟩)

theorem tempPath_eq {file : CatalogFile} (path : file.path = store.directory.child (name ++ ".json")) :
    file.tempPath = store.directory.child (name ++ ".json.tmp") := by
  rw [CatalogFile.tempPath, path, Path.withEnding_child, String.append_assoc]
  rfl

theorem lockPath_eq (store : Store) (name : String) :
    FileLock.pathFor (store.directory.child (name ++ ".json")) =
      store.directory.child (name ++ ".json.lock") := by
  rw [FileLock.pathFor, Path.withEnding_child, String.append_assoc]
  rfl

theorem lockPath_mem_filePaths (store : Store) (name : String) :
    store.directory.child (name ++ ".json.lock") ∈ store.filePaths name := by
  simp [filePaths, fileEndings]

/-- A call of the file system on a path of a database changes nothing but the files of the database. -/
theorem Confined.of_edit (there : fs.find store.directory = .ok (directory, .directory))
    (edit : Edit (store.filePaths name) fs fs') : Confined directory name fs fs' := by
  cases edit with
  | written among done =>
    obtain ⟨_, _, _, _, looked, _, _, frame, _⟩ := CatalogFile.leads_of_write done
    exact .of_place there among looked frame
  | opened among done =>
    obtain ⟨_, _, found, leads, notDirectory, opened⟩ := FileSystem.leads_of_openOrCreate done
    obtain ⟨rfl, rfl⟩ := Prod.mk.inj opened
    exact .of_place there among (leads.findToWrite notDirectory) (fs.frame_opened (by simp) found)
  | moved among targetAmong done =>
    obtain ⟨oldDirectory, oldName, entry, directory', name', found, old, notDirectory, new, newFile, rfl⟩ :=
      FileSystem.leads_of_rename done
    have looked := old.findToWrite fun same => notDirectory (Option.some.inj same)
    have gone := fs.frame_withoutEntry (show oldDirectory ++ [oldName] ≠ [] by simp)
    have placed := (fs.withoutEntry (oldDirectory ++ [oldName])).frame_withEntry
      (show directory' ++ [name'] ≠ [] by simp) entry
    have frame : Frame [oldDirectory ++ [oldName], directory' ++ [name']] fs _ :=
      (gone.mono (by simp)).trans (placed.mono (by simp))
    refine confined_of_frame there frame (List.forall_mem_cons.2 ⟨?_, List.forall_mem_singleton.2 ?_⟩)
    · exact ⟨_, among, _, looked⟩
    · exact ⟨_, targetAmong, _, new.findToWrite newFile⟩
  | removed among done =>
    obtain ⟨_, _, replaced, _⟩ := FileSystem.replaced_of_remove done
    exact .of_place there among replaced.looked replaced.frame
  | locks locked => exact .of_same (fs.same_of_locked locked)

/-- One call after another changes nothing but the files of the database, and so does each of them. -/
theorem confined_of_changes (there : fs.find store.directory = .ok (directory, .directory))
    (changes : ReflTransGen (Edit (store.filePaths name)) fs fs') :
    Confined directory name fs fs' ∧
      ReflTransGen (fun fs fs' => Edit (store.filePaths name) fs fs' ∧
        Frame (filePlaces directory name) fs fs') fs fs' := by
  induction changes with
  | refl => exact ⟨.refl _ _ _, .refl⟩
  | tail _ change ih =>
    obtain ⟨before, chain⟩ := ih
    have confined := Confined.of_edit (before.keeps.find_directory there) change
    exact ⟨before.trans confined, chain.tail ⟨change, confined.frame⟩⟩

/-- A run that changes files under the paths of a database only is confined to them. -/
theorem Confined.of_run {α : Type} {computation : Disk α} {result : Except Error α}
    (there : fs.find store.directory = .ok (directory, .directory))
    (changesOnly : Disk.ChangesOnly (store.filePaths name) computation)
    (run : computation.runOn fs = (result, fs')) : Confined directory name fs fs' := by
  have changes := changesOnly fs
  rw [run] at changes
  exact (confined_of_changes there changes).1

/-! ## Requests -/

theorem databasePath_eq (store : Store) (valid : Name.IsValid name) :
    store.databasePath name = .ok (store.directory.child (name ++ ".json")) := by
  rw [databasePath, Name.checkDatabase_eq_ok.2 valid]
  rfl

theorem databasePath_error (store : Store) (invalid : ¬Name.IsValid name) :
    ∃ fault, store.databasePath name = .error (.invalidName name fault) := by
  rw [databasePath]
  cases checked : Name.checkDatabase name with
  | ok _ => exact absurd (Name.checkDatabase_eq_ok.1 checked) invalid
  | error fault => exact ⟨fault, rfl⟩

theorem runOn_contains (store : Store) (name : String) (fs : FileSystem) :
    (store.contains name).runOn fs = ((store.databasePath name).map fs.isFile, fs) := by
  rw [contains, Disk.runOn_bind, Disk.runOn_ofExcept]
  cases store.databasePath name <;> rfl

/-- A request with a name that no database may have is refused, and nothing is touched. -/
theorem runOn_request_error {request : Request} {error : Error} (named : request.name? = some name)
    (invalid : store.databasePath name = .error error) (fs : FileSystem) :
    (request.run store).runOn fs = (.error error, fs) := by
  cases request with
  | create _ =>
    cases named
    simp only [Request.run, Disk.runOn_map, runOn_createDatabase, invalid]
    rfl
  | connect _ =>
    cases named
    simp only [Request.run, Disk.runOn_map, runOn_connect, invalid]
    rfl
  | drop _ =>
    cases named
    simp only [Request.run, Disk.runOn_map, runOn_deleteDatabase, invalid]
    rfl
  | contains _ =>
    cases named
    simp only [Request.run, Disk.runOn_map, runOn_contains, invalid]
    rfl
  | call _ asked =>
    cases named
    simp only [Request.run, Disk.runOn_bind, Disk.runOn_ofExcept, invalid]
  | list => cases named

/-- Only what is asked of a name that a database may have is answered. -/
theorem isValid_of_run (request : Request) (named : request.name? = some name) (fs' : FileSystem)
    {response : Response} (answered : (request.run store).runOn fs = (.ok response, fs')) :
    Name.IsValid name := by
  refine Decidable.by_contra fun invalid => ?_
  obtain ⟨fault, refused⟩ := store.databasePath_error invalid
  cases answered.symm.trans (runOn_request_error named refused fs)

theorem filePaths_handle {path : Path} (checked : store.databasePath name = .ok path) :
    (store.handle name path).filePaths = store.filePaths name := by
  obtain rfl := databasePath_ok checked
  have temp : (store.handle name (store.directory.child (name ++ ending))).file.tempPath =
    store.directory.child (name ++ ".json.tmp") := tempPath_eq rfl
  rw [Database.filePaths, temp]
  exact congrArg (_ :: _ :: [·]) (store.lockPath_eq name)

theorem changesOnly_existing {α : Type} {paths : List Path} {next : Database → Disk α}
    (onward : ∀ path, store.databasePath name = .ok path →
      Disk.ChangesOnly paths (next (store.handle name path))) :
    Disk.ChangesOnly paths (store.existing name >>= next) := by
  intro fs
  rw [Disk.runOn_bind, runOn_existing]
  cases checked : store.databasePath name with
  | error error => exact .refl
  | ok path =>
    by_cases isFile : fs.isFile path = true
    · simp only [isFile, if_true]
      exact onward path checked fs
    · simp only [isFile]
      exact .refl

theorem changesOnly_removeIfPresent {paths : List Path} {path : Path} (among : path ∈ paths) :
    Disk.ChangesOnly paths (removeIfPresent path) := by
  refine .change fun {fs fs'} done => ?_
  split at done
  · cases done
    exact .refl
  · exact .single (.removed among done)

/-- Whatever is asked of a database changes the file system by calls on the three paths of its files,
whether it succeeds or not. -/
theorem changesOnly_request (request : Request) (named : request.name? = some name) :
    Disk.ChangesOnly (store.filePaths name) (request.run store) := by
  cases request with
  | create _ =>
    cases named
    refine .map (.ofExcept_bind fun path checked => ?_) _
    rw [← filePaths_handle checked]
    exact .bind (Database.changesOnly_reset _ _) fun _ => .of_reads fun fs => by rw [Disk.runOn_pure]
  | connect _ =>
    cases named
    refine .map (changesOnly_existing fun path checked => ?_) _
    rw [← filePaths_handle checked]
    exact .bind (Database.changesOnly_read _ _) fun _ => .of_reads fun fs => by rw [Disk.runOn_pure]
  | drop _ =>
    cases named
    refine .map (changesOnly_existing fun path checked => ?_) _
    rw [← filePaths_handle checked]
    refine .bind (Database.changesOnly_removeFile _) fun _ => ?_
    exact changesOnly_removeIfPresent (by simp [Database.filePaths])
  | contains _ =>
    cases named
    exact .of_reads fun fs => by rw [Request.run, Disk.runOn_map, runOn_contains]
  | call _ asked =>
    cases named
    refine .ofExcept_bind fun path checked => ?_
    rw [← filePaths_handle checked]
    exact .map (Call.changesOnly _ asked) _
  | list => cases named

/-- A request on one name is confined to the files of that database. -/
theorem confined_request (request : Request) (named : request.name? = some name)
    (there : fs.find store.directory = .ok (directory, .directory)) :
    Confined directory name fs ((request.run store).runOn fs).2 :=
  (confined_of_changes there (changesOnly_request request named fs)).1

/-! ## Which databases are there -/

/-- The path of a database file leads to what stands at its place, if it leads anywhere. -/
theorem entryAt_of_find {place : Place} {entry : Entry}
    (there : fs.find store.directory = .ok (directory, .directory))
    (found : fs.find (store.directory.child (name ++ ".json")) = .ok (place, entry))
    (notDirectory : entry ≠ .directory) :
    fs.entryAt (directory ++ [name ++ ".json"]) = some entry := by
  obtain ⟨_, _, leads⟩ := FileSystem.leads_of_find found notDirectory
  cases FileSystem.resolve_child there (length_fileName name _ (by decide)) leads.resolved
  exact leads.entry

theorem entryAt_of_isFile (there : fs.find store.directory = .ok (directory, .directory))
    (isFile : fs.isFile (store.directory.child (name ++ ".json")) = true) :
    ∃ number content, fs.entryAt (directory ++ [name ++ ".json"]) = some (.file number content) := by
  obtain ⟨_, _, number, content, leads⟩ := FileSystem.leads_of_isFile isFile
  exact ⟨number, content, entryAt_of_find there leads.find (by simp)⟩

/-- What happens to the files of one database does not make another one come or go. -/
theorem isFile_of_confined (there : fs.find store.directory = .ok (directory, .directory))
    (confined : Confined directory name fs fs') (valid : Name.IsValid name)
    (otherValid : Name.IsValid other) (apart : other ≠ name) :
    fs'.isFile (store.directory.child (other ++ ".json")) =
      fs.isFile (store.directory.child (other ++ ".json")) := by
  have walked := FileSystem.walk_child there (show other ++ ".json" ≠ "" by simp)
  have found := FileSystem.find_congr (confined.keeps.resolve_eq walked) fun {_ _ _} resolved => by
    cases FileSystem.resolve_child there (length_fileName other _ (by decide)) resolved
    refine confined.frame.entryAt _ (filePlaces_disjoint otherValid valid apart _ ?_)
    exact mem_filePlaces.2 ⟨".json", by decide, rfl⟩
  rw [FileSystem.isFile, FileSystem.leadsTo, found]
  rfl

/-- A database is there exactly if its name is valid and its path leads to a file. -/
theorem contains_iff : (store.contains name).runOn fs = (.ok true, fs) ↔
    Name.IsValid name ∧ fs.isFile (store.directory.child (name ++ ".json")) = true := by
  rw [runOn_contains]
  by_cases valid : Name.IsValid name
  · rw [store.databasePath_eq valid]
    simp [Except.map, valid]
  · obtain ⟨fault, refused⟩ := store.databasePath_error valid
    rw [refused]
    simp [Except.map, valid]

/-- The name of a database file stands for that database. -/
theorem nameOfFile?_append (valid : Name.IsValid name) : nameOfFile? (name ++ ".json") = some name := by
  have ends : (name ++ ".json").endsWith ending = true := by
    refine String.Slice.endsWith_string_iff.2 ?_
    rw [String.copy_toSlice, String.toList_append]
    exact List.suffix_append _ _
  have before : ((name ++ ".json").dropEnd ending.length).toString = name := by
    apply String.toList_inj.1
    change ((name ++ ".json").dropEnd ending.length).copy.toList = _
    rw [String.toList_copy_dropEnd, String.toList_append, List.length_append,
      String.length_toList (s := ".json"), show ending = ".json" from rfl, Nat.add_sub_cancel,
      List.take_left]
  simp only [nameOfFile?, ends, if_true, before, Name.checkDatabase_eq_ok.2 valid]

theorem isValid_of_nameOfFile? {fileName : String} (named : nameOfFile? fileName = some name) :
    Name.IsValid name := by
  unfold nameOfFile? at named
  split at named
  · dsimp only at named
    split at named
    · rename_i checked
      cases named
      exact Name.checkDatabase_eq_ok.1 checked
    · cases named
  · cases named

/-- The databases that are listed are those that are there. -/
theorem mem_databasesIn (there : fs.find store.directory = .ok (directory, .directory)) :
    name ∈ store.databasesIn fs directory ↔ (store.contains name).runOn fs = (.ok true, fs) := by
  rw [contains_iff, databasesIn, List.mem_filterMap]
  constructor
  · rintro ⟨fileName, mem, named⟩
    obtain rfl : fileName = name ++ ".json" := fileName_eq named
    exact ⟨isValid_of_nameOfFile? named, (List.mem_filter.1 mem).2⟩
  · rintro ⟨valid, isFile⟩
    obtain ⟨number, content, entry⟩ := entryAt_of_isFile there isFile
    refine ⟨name ++ ".json", List.mem_filter.2 ⟨FileSystem.mem_namesIn.2 ?_, isFile⟩,
      nameOfFile?_append valid⟩
    rw [entry]
    exact Option.some_ne_none _

/-- The databases that are there are listed, each once and in the order of the bytes of their names. -/
theorem runOn_listDatabases_ok (there : fs.find store.directory = .ok (directory, .directory)) :
    ∃ names, store.listDatabases.runOn fs = (.ok names, fs) ∧
      (∀ name, name ∈ names ↔ (store.contains name).runOn fs = (.ok true, fs)) ∧
      (fs.Distinct → names.Pairwise fun a b => a.toUTF8.data.toList < b.toUTF8.data.toList) := by
  have members : ∀ name, name ∈ (store.databasesIn fs directory).mergeSort (fun a b => decide (a ≤ b)) ↔
      (store.contains name).runOn fs = (.ok true, fs) := by
    intro name
    rw [List.mem_mergeSort, mem_databasesIn there]
  refine ⟨_, runOn_listDatabases there, members, fun distinct => ?_⟩
  have sorted := List.pairwise_mergeSort' (· ≤ ·) (store.databasesIn fs directory)
  have once := (List.mergeSort_perm (store.databasesIn fs directory) fun a b => decide (a ≤ b)).nodup_iff.2
    (nodup_databasesIn distinct directory)
  refine (sorted.and once).imp fun {a b} less => ?_
  exact Text.lt_iff_bytes_lt.1 (lt_of_le_of_ne less.1 less.2)

end Store

/-! ## Databases come and go -/

theorem FileSystem.isPlain_of_ne {found : Option Entry} (notDirectory : found ≠ some .directory)
    (notDevice : ∀ number, found ≠ some (.device number)) : IsPlain found := by
  rcases found with _ | (_ | ⟨number, old⟩ | number)
  · exact isPlain_none
  · exact absurd rfl notDirectory
  · exact isPlain_file number old
  · exact absurd rfl (notDevice number)

namespace CatalogFile

variable {file : CatalogFile} {fs fs' : FileSystem}

/-- What was moved in place had been brought to the disk, so it is a file. -/
theorem isFile_of_replaceAtomically {bytes : ByteArray}
    (h : (file.replaceAtomically bytes).runOn fs = (.ok (), fs')) : fs'.isFile file.path = true := by
  obtain ⟨written, wrote, renamed⟩ := steps_of_replaceAtomically h
  obtain ⟨⟨place, found⟩, looked, _⟩ := bind_eq_ok.1 wrote
  obtain ⟨notDirectory, tempDirectory, tempName, rfl, temp⟩ := FileSystem.leads_of_findToWrite looked
  have plain : FileSystem.IsPlain found := by
    refine FileSystem.isPlain_of_ne notDirectory ?_
    rintro number rfl
    obtain ⟨wroteDevice, unsynced⟩ := temp.write_device bytes
    simp [replaceAtomically, writeTemp, Disk.runOn_tryCatch, Disk.runOn_bind, Disk.runOn_change,
      wroteDevice, unsynced, runOn_discardTemp] at h
  obtain ⟨written', number, wrote', there, _⟩ := temp.write plain bytes
  cases wrote.symm.trans wrote'
  obtain ⟨_, _, _, directory, name, old, _, _, target, targetFile, _⟩ :=
    FileSystem.leads_of_rename renamed
  have apart : tempDirectory ++ [tempName] ≠ directory ++ [name] := by
    rw [target.name_eq, temp.name_withEnding (by decide)]
    intro same
    exact absurd (List.singleton_inj.1 (List.append_inj' same rfl).2) (by simp)
  obtain ⟨fs'', renamed', leads, _⟩ := there.rename target (by simp) targetFile apart
  cases renamed.symm.trans renamed'
  exact leads.isFile

/-- A catalog that was stored is in a file, unless it was written to a device. -/
theorem isFile_of_store {c : Catalog} (notDevice : file.mode = .overwrite →
      ∀ place number, fs.find file.path ≠ .ok (place, .device number))
    (h : (file.store c).runOn fs = (.ok (), fs')) : fs'.isFile file.path = true := by
  rw [store] at h
  cases mode : file.mode with
  | atomic =>
    rw [mode] at h
    exact isFile_of_replaceAtomically h
  | overwrite =>
    simp only [mode, overwrite, Disk.runOn_change] at h
    cases wrote : fs.write file.path (c.encode file.style) with
    | error fault => simp [wrote] at h
    | ok written =>
      rw [wrote] at h
      cases h
      obtain ⟨⟨place, found⟩, looked, _⟩ := bind_eq_ok.1 wrote
      obtain ⟨notDirectory, directory, name, rfl, leads⟩ := FileSystem.leads_of_findToWrite looked
      have plain : FileSystem.IsPlain found := by
        refine FileSystem.isPlain_of_ne notDirectory ?_
        rintro number rfl
        exact notDevice mode _ number leads.find
      obtain ⟨written', number, wrote', there, _⟩ := leads.write plain (c.encode file.style)
      cases wrote.symm.trans wrote'
      exact there.isFile

end CatalogFile

namespace Store

variable {store : Store} {fs fs' : FileSystem} {directory : Place} {name other : String}

/-- A database that was created is there. -/
theorem isFile_of_createDatabase {db : Database} (valid : Name.IsValid name)
    (notDevice : store.writeMode = .overwrite → ∀ place number,
      fs.find (store.directory.child (name ++ ".json")) ≠ .ok (place, .device number))
    (h : (store.createDatabase name).runOn fs = (.ok db, fs')) :
    fs'.isFile (store.directory.child (name ++ ".json")) = true := by
  simp only [runOn_createDatabase, store.databasePath_eq valid, Disk.runOn_map] at h
  generalize made : store.handle name (store.directory.child (name ++ ".json")) = handle at h
  have path : handle.path = store.directory.child (name ++ ".json") := by rw [← made]; rfl
  have mode : handle.file.mode = store.writeMode := by rw [← made]; rfl
  rw [← path] at notDevice ⊢
  rw [← mode] at notDevice
  have ran : ∃ fs₁, (handle.reset Catalog.empty).runOn fs = (.ok (), fs₁) ∧ fs' = fs₁ := by
    rcases run : (handle.reset Catalog.empty).runOn fs with ⟨error | _, fs₁⟩
    · rw [run] at h
      cases h
    · rw [run] at h
      cases h
      exact ⟨_, rfl, rfl⟩
  obtain ⟨_, run, rfl⟩ := ran
  rw [Database.reset, Database.locked] at run
  cases lockFile : handle.options.lockFile with
  | false =>
    rw [lockFile] at run
    exact CatalogFile.isFile_of_store notDevice run
  | true =>
    rw [lockFile, if_pos rfl, FileLock.runOn_hold_eq] at run
    rcases acquired : (FileLock.acquire handle.path).runOn fs with ⟨error | number, fs₁⟩
    · rw [acquired] at run
      cases run
    · rcases stored : (handle.file.store Catalog.empty).runOn fs₁ with ⟨result, fs₂⟩
      simp only [acquired, stored] at run
      cases run
      have found := Database.find_of_opened (FileLock.opened_of_acquire acquired).1
      have isFile := CatalogFile.isFile_of_store (fun overwrite place number => by
        rw [← Database.path, found]
        exact notDevice overwrite place number) stored
      exact FileSystem.isFile_of_find
        (FileSystem.find_of_same (fs₂.same_of_locked _) handle.path) isFile

/-- A device in the place of the file takes the catalog, and nothing changes but the lock file. -/
theorem runOn_createDatabase_device {place : Place} {number : Nat} (valid : Name.IsValid name)
    (overwrite : store.writeMode = .overwrite)
    (device : fs.find (store.directory.child (name ++ ".json")) = .ok (place, .device number))
    (free : store.options.lockFile = true →
      FileLock.Free (store.directory.child (name ++ ".json")) directory (name ++ ".json") fs) :
    ∃ fs', (store.createDatabase name).runOn fs =
        (.ok (store.handle name (store.directory.child (name ++ ".json"))), fs') ∧
      fs'.find (store.directory.child (name ++ ".json")) = .ok (place, .device number) := by
  have checked := store.databasePath_eq valid
  generalize store.directory.child (name ++ ".json") = path at *
  have takes : ∀ {fs : FileSystem}, fs.find path = .ok (place, .device number) →
      ((store.handle name path).file.store Catalog.empty).runOn fs = (.ok (), fs) := by
    intro fs found
    obtain ⟨_, _, leads⟩ := FileSystem.leads_of_find found (by simp)
    obtain ⟨written, -⟩ := leads.write_device (Catalog.empty.encode (store.handle name path).file.style)
    have mode : (store.handle name path).file.mode = .overwrite := overwrite
    have samePath : (store.handle name path).file.path = path := rfl
    simp only [CatalogFile.store, mode, CatalogFile.overwrite, Disk.runOn_change, samePath, written]
  have resets : ∃ fs', ((store.handle name path).reset Catalog.empty).runOn fs = (.ok (), fs') ∧
      fs'.find path = .ok (place, .device number) := by
    rw [Database.reset, Database.locked]
    cases lockFile : (store.handle name path).options.lockFile with
    | false => exact ⟨fs, takes device, device⟩
    | true =>
      obtain ⟨found, leads, notDirectory, unlocked⟩ := free lockFile
      have acquired := FileLock.runOn_acquire leads notDirectory unlocked
      have same : (FileLock.held directory (name ++ ".json") fs found).find path = fs.find path :=
        (store.handle name path).find_of_opened (FileLock.opened_of_acquire acquired).1
      have run := takes (same.trans device)
      have held := FileLock.runOn_hold ((store.handle name path).file.store Catalog.empty) leads
        notDirectory unlocked
      rw [run] at held
      refine ⟨_, held, ?_⟩
      exact (FileSystem.find_of_same (FileSystem.same_of_locked _ _) path).trans (same.trans device)
  obtain ⟨fs', run, stays⟩ := resets
  refine ⟨fs', ?_, stays⟩
  simp only [runOn_createDatabase, checked, Disk.runOn_map, run]
  rfl

theorem entryAt_of_removeFile {db : Database}
    (there : fs.find store.directory = .ok (directory, .directory))
    (path : db.path = store.directory.child (name ++ ".json"))
    (h : db.removeFile.runOn fs = (.ok (), fs')) :
    fs'.entryAt (directory ++ [name ++ ".json"]) = none := by
  have removed : ∀ {fs fs'}, fs.find store.directory = .ok (directory, .directory) →
      (Disk.change db.path fun fs => fs.remove db.path).runOn fs = (.ok (), fs') →
        fs'.entryAt (directory ++ [name ++ ".json"]) = none := by
    intro fs fs' there run
    rw [Disk.runOn_change] at run
    cases removed : fs.remove db.path with
    | error fault => simp [removed] at run
    | ok after =>
      rw [removed] at run
      cases run
      obtain ⟨place, stale, replaced, _⟩ := FileSystem.replaced_of_remove removed
      have looked := replaced.looked
      rw [path] at looked
      obtain ⟨rfl, _⟩ := place_of_findToWrite there (by decide) looked
      exact replaced.entry
  rw [Database.removeFile, Database.locked] at h
  cases lockFile : db.options.lockFile with
  | false =>
    rw [lockFile] at h
    exact removed there h
  | true =>
    rw [lockFile, if_pos rfl, FileLock.runOn_hold_eq] at h
    rcases acquired : (FileLock.acquire db.path).runOn fs with ⟨error | number, fs₁⟩
    · rw [acquired] at h
      cases h
    · rcases run : (Disk.change db.path fun fs => fs.remove db.path).runOn fs₁ with ⟨result, fs₂⟩
      simp only [acquired, run] at h
      cases h
      rw [path] at acquired
      have opens := store.lockPath_mem_filePaths name
      rw [← lockPath_eq] at opens
      have confined := Confined.of_run there (.acquire opens) acquired
      have gone := removed (confined.keeps.find_directory there) run
      exact gone

theorem entryAt_removeIfPresent (there : fs.find store.directory = .ok (directory, .directory))
    (name : String) :
    ((removeIfPresent (store.directory.child (name ++ ".json.lock"))).runOn fs).2.entryAt
      (directory ++ [name ++ ".json"]) = fs.entryAt (directory ++ [name ++ ".json"]) := by
  rw [removeIfPresent, Disk.runOn_change]
  cases removed : fs.remove (store.directory.child (name ++ ".json.lock")) with
  | error fault => cases fault <;> rfl
  | ok fs' =>
    obtain ⟨place, stale, replaced, _⟩ := FileSystem.replaced_of_remove removed
    obtain ⟨rfl, _⟩ := place_of_findToWrite there (by decide) replaced.looked
    refine replaced.frame.entryAt _ ?_
    simp

/-- A database that was deleted is not there. -/
theorem not_isFile_of_deleteDatabase (there : fs.find store.directory = .ok (directory, .directory))
    (valid : Name.IsValid name) (h : (store.deleteDatabase name).runOn fs = (.ok (), fs')) :
    fs'.isFile (store.directory.child (name ++ ".json")) ≠ true := by
  have path : (store.handle name (store.directory.child (name ++ ".json"))).path =
      store.directory.child (name ++ ".json") := rfl
  simp only [runOn_deleteDatabase, store.databasePath_eq valid] at h
  split at h
  · rw [lockPath_eq] at h
    obtain ⟨_, fs₁, removed, last⟩ := Disk.runOn_bind_ok h
    have removes := Database.changesOnly_removeFile
      (store.handle name (store.directory.child (name ++ ".json")))
    rw [filePaths_handle (store.databasePath_eq valid)] at removes
    have there₁ := (Confined.of_run there removes removed).keeps.find_directory there
    have kept := entryAt_removeIfPresent there₁ name
    have removesLock := changesOnly_removeIfPresent (store.lockPath_mem_filePaths name)
    have confined := Confined.of_run there₁ removesLock last
    rw [last] at kept
    intro isFile
    obtain ⟨number, content, entry⟩ := entryAt_of_isFile (confined.keeps.find_directory there₁) isFile
    cases entry.symm.trans (kept.trans (entryAt_of_removeFile there path removed))
  · cases h

/-- After a change that is confined to the files of one database the same other databases are
listed. -/
theorem listed_of_confined {names : List String}
    (there : fs.find store.directory = .ok (directory, .directory))
    (confined : Confined directory name fs fs') (valid : Name.IsValid name)
    (listed : store.listDatabases.runOn fs = (.ok names, fs)) :
    ∃ names', store.listDatabases.runOn fs' = (.ok names', fs') ∧
      (∀ other, other ≠ name → (other ∈ names' ↔ other ∈ names)) ∧
      (name ∈ names' ↔ fs'.isFile (store.directory.child (name ++ ".json")) = true) := by
  obtain ⟨_, run, members, _⟩ := runOn_listDatabases_ok there
  cases listed.symm.trans run
  obtain ⟨names', run', members', _⟩ := runOn_listDatabases_ok (confined.keeps.find_directory there)
  refine ⟨names', run', fun other apart => ?_, ?_⟩
  · rw [members', members, contains_iff, contains_iff]
    refine and_congr_right fun otherValid => ?_
    rw [isFile_of_confined there confined valid otherValid apart]
  · rw [members', contains_iff]
    exact and_iff_right valid

/-- After a request on one name the same other databases are listed. -/
theorem listed_of_request {names : List String} (request : Request)
    (named : request.name? = some name)
    (there : fs.find store.directory = .ok (directory, .directory)) (valid : Name.IsValid name)
    (listed : store.listDatabases.runOn fs = (.ok names, fs))
    (after : ((request.run store).runOn fs).2 = fs') :
    ∃ names', store.listDatabases.runOn fs' = (.ok names', fs') ∧
      (∀ other, other ≠ name → (other ∈ names' ↔ other ∈ names)) ∧
      (name ∈ names' ↔ fs'.isFile (store.directory.child (name ++ ".json")) = true) := by
  have confined := confined_request request named there
  rw [after] at confined
  exact listed_of_confined there confined valid listed

/-! ## The whole store -/

/-- Whether the databases of a store keep apart, and are listed as they are, in a file system. -/
structure Separate (store : Store) (directory : Place) (fs : FileSystem) : Prop where
  /-- What is asked of a name that no database may have is refused, and nothing is touched. -/
  refused : ∀ request name, Request.name? request = some name → ¬Name.IsValid name →
    ∃ fault, (request.run store).runOn fs = (.error (.invalidName name fault), fs)
  /-- What is asked of a database touches nothing but its three files, which stand directly in the
  data directory. -/
  confined : ∀ request name, Request.name? request = some name → Name.IsValid name →
    Frame (filePlaces directory name) fs ((request.run store).runOn fs).2
  /-- Each change on the way is made by a call of the file system on a path of one of the three files,
  and touches nothing but them. -/
  changes : ∀ request name, Request.name? request = some name →
    ReflTransGen (fun fs fs' => Edit (store.filePaths name) fs fs' ∧
      Frame (filePlaces directory name) fs fs') fs ((request.run store).runOn fs).2
  /-- No file of a database is one of another database. -/
  disjoint : ∀ name other, Name.IsValid name → Name.IsValid other → name ≠ other →
    ∀ place ∈ filePlaces directory name, place ∉ filePlaces directory other
  /-- No file of a database is the configuration file. -/
  settings : ∀ name, Name.IsValid name → directory ++ [Config.fileName] ∉ filePlaces directory name
  /-- Exactly the databases that are there are listed, in the order of the bytes of their names and
  each once. -/
  listed : ∃ names, store.listDatabases.runOn fs = (.ok names, fs) ∧
    names.Pairwise (fun a b => a.toUTF8.data.toList < b.toUTF8.data.toList) ∧
    ∀ name, name ∈ names ↔ (store.contains name).runOn fs = (.ok true, fs)
  /-- Creating a database adds it to the list and nothing else, unless a device stands in the place of
  its file and is written in place. -/
  created : ∀ name db fs' names, (store.createDatabase name).runOn fs = (.ok db, fs') →
    (store.writeMode = .overwrite →
      ∀ number, fs.entryAt (directory ++ [name ++ ".json"]) ≠ some (.device number)) →
    store.listDatabases.runOn fs = (.ok names, fs) →
    ∃ names', store.listDatabases.runOn fs' = (.ok names', fs') ∧
      ∀ other, other ∈ names' ↔ other = name ∨ other ∈ names
  /-- A device in the place of the file takes what is written in place and stays: creating the database
  succeeds, if its lock can be taken, and the list is the same as before. -/
  device : ∀ name place number names, Name.IsValid name → store.writeMode = .overwrite →
    fs.find (store.directory.child (name ++ ".json")) = .ok (place, .device number) →
    (store.options.lockFile = true →
      FileLock.Free (store.directory.child (name ++ ".json")) directory (name ++ ".json") fs) →
    store.listDatabases.runOn fs = (.ok names, fs) →
    ∃ db fs' names', (store.createDatabase name).runOn fs = (.ok db, fs') ∧
      fs'.find (store.directory.child (name ++ ".json")) = .ok (place, .device number) ∧
      store.listDatabases.runOn fs' = (.ok names', fs') ∧ ∀ other, other ∈ names' ↔ other ∈ names
  /-- Deleting a database takes it from the list and nothing else. -/
  deleted : ∀ name fs' names, (store.deleteDatabase name).runOn fs = (.ok (), fs') →
    store.listDatabases.runOn fs = (.ok names, fs) →
    ∃ names', store.listDatabases.runOn fs' = (.ok names', fs') ∧
      ∀ other, other ∈ names' ↔ other ≠ name ∧ other ∈ names

/-- The databases of a store whose data directory is there keep apart, whatever stands in it: each
touches its own three files only, and exactly those that are there are listed. -/
theorem databases_separate (store : Store) (there : fs.find store.directory = .ok (directory, .directory))
    (distinct : fs.Distinct) : store.Separate directory fs where
  refused request name named invalid := by
    obtain ⟨fault, refused⟩ := store.databasePath_error invalid
    exact ⟨fault, runOn_request_error named refused fs⟩
  confined request name named valid := (confined_request request named there).frame
  changes request name named := (confined_of_changes there (changesOnly_request request named fs)).2
  disjoint name other valid otherValid apart := filePlaces_disjoint valid otherValid apart
  settings name valid := config_not_mem_filePlaces valid
  listed := by
    obtain ⟨names, run, members, sorted⟩ := runOn_listDatabases_ok there
    exact ⟨names, run, sorted distinct, members⟩
  created name db fs' names run notDevice listed := by
    have valid := isValid_of_run (.create name) rfl fs' (by rw [Request.run, Disk.runOn_map, run]; rfl)
    obtain ⟨names', run', others, itself⟩ := listed_of_request (.create name) rfl there valid listed
      (by rw [Request.run, Disk.runOn_map, run])
    refine ⟨names', run', fun other => ?_⟩
    have present : name ∈ names' := by
      refine itself.2 (isFile_of_createDatabase valid (fun overwrite place number device => ?_) run)
      exact notDevice overwrite number (entryAt_of_find there device (by simp))
    by_cases same : other = name
    · rw [same]
      exact iff_of_true present (.inl rfl)
    · rw [others other same]
      exact (or_iff_right same).symm
  device name place number names valid overwrite found free listed := by
    obtain ⟨fs', run, stays⟩ := runOn_createDatabase_device valid overwrite found free
    obtain ⟨names', run', others, itself⟩ := listed_of_request (.create name) rfl there valid listed
      (by rw [Request.run, Disk.runOn_map, run])
    refine ⟨_, fs', names', run, stays, run', fun other => ?_⟩
    by_cases same : other = name
    · have absent : ∀ {fs : FileSystem}, fs.find (store.directory.child (name ++ ".json")) =
          .ok (place, .device number) → fs.isFile (store.directory.child (name ++ ".json")) ≠ true := by
        intro fs found
        simp [FileSystem.isFile, FileSystem.leadsTo, found, Entry.isFile]
      obtain ⟨_, again, _, before⟩ := listed_of_confined there (.refl _ _ _) valid listed
      cases listed.symm.trans again
      rw [same]
      exact iff_of_false (mt itself.1 (absent stays)) (mt before.1 (absent found))
    · exact others other same
  deleted name fs' names run listed := by
    have valid := isValid_of_run (.drop name) rfl fs' (by rw [Request.run, Disk.runOn_map, run]; rfl)
    obtain ⟨names', run', others, itself⟩ := listed_of_request (.drop name) rfl there valid listed
      (by rw [Request.run, Disk.runOn_map, run])
    refine ⟨names', run', fun other => ?_⟩
    by_cases same : other = name
    · rw [same]
      exact iff_of_false (mt itself.1 (not_isFile_of_deleteDatabase there valid run)) fun h => h.1 rfl
    · rw [others other same]
      exact (and_iff_right same).symm

end Store

/-- A directory with files of other kinds in it is listed by the same rules. -/
theorem Store.databases_separate_littered :
    FileSystem.littered.find Store.standard.directory = .ok (["home"], .directory) ∧
      FileSystem.littered.Distinct ∧ Store.standard.Separate ["home"] .littered :=
  ⟨rfl, by decide, Store.databases_separate Store.standard rfl (by decide)⟩

end DocStore
