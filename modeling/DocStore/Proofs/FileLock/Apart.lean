-- SUMMARY: Storing a catalog and removing it leave the lock file where it is, whatever stands in the directory.
import DocStore.Proofs.Database.Failure

/-!
# The lock file stands apart

A database has three files whose names differ in their endings. Storing a catalog changes the first
two at most, and removing it only the first, whether they succeed or not and whatever stands in their
places. So as long as nobody removes the lock file itself, its path leads to the same file, and
opening it again gives the same number.
-/

namespace DocStore

open FileSystem (Frame Replaced)

/-- The number of a file or a device. -/
def Entry.number? : Entry → Option Nat
  | .directory => none
  | .file number _ => some number
  | .device number => some number

namespace FileSystem

variable {fs fs' : FileSystem} {path : Path} {directory : Place} {name : String}
variable {found : Option Entry}

theorem Leads.name_eq (leads : fs.Leads path directory name found) : name = path.lastPart := by
  obtain ⟨_, _, last, _, _, notOpen⟩ := resolve_eq_named.1 leads.resolved
  obtain ⟨before, parts, _⟩ := Path.exists_parts last notOpen
  rw [Path.lastPart, parts, List.getLast?_concat]
  rfl

/-- A move that succeeds takes a file that was found to a place where none but a file was found. -/
theorem leads_of_rename {source target : Path} (h : fs.rename source target = .ok fs') :
    ∃ sourceDirectory sourceName moved directory name found,
      fs.Leads source sourceDirectory sourceName (some moved) ∧ moved ≠ .directory ∧
      fs.Leads target directory name found ∧ found ≠ some .directory ∧
      fs' = (fs.withoutEntry (sourceDirectory ++ [sourceName])).withEntry (directory ++ [name]) moved := by
  obtain ⟨sourceTarget, resolvedSource, h⟩ := bind_eq_ok.1 h
  obtain ⟨targetTarget, resolvedTarget, h⟩ := bind_eq_ok.1 h
  rcases sourceTarget with _ | ⟨sourceDirectory, sourceName, sourceSlash⟩
  · cases h
  rcases targetTarget with _ | ⟨directory, name, slash⟩
  · cases h
  obtain ⟨there, lookedSource, h⟩ := bind_eq_ok.1 h
  obtain ⟨shortSource, entrySource⟩ := lookup_eq_ok.1 lookedSource
  rcases there with _ | moved
  · cases h
  have movedFile : moved ≠ .directory := by
    rintro rfl
    cases h
  cases looked : fs.lookup directory name with
  | error fault => cases moved <;> simp [looked] at h
  | ok found =>
    obtain ⟨short, entry⟩ := lookup_eq_ok.1 looked
    -- Whatever is moved, slashes are refused, and so is a directory in its new place.
    have kept : sourceSlash = false ∧ slash = false ∧ found ≠ some .directory ∧
        fs' = (fs.withoutEntry (sourceDirectory ++ [sourceName])).withEntry (directory ++ [name])
          moved := by
      cases moved with
      | directory => exact absurd rfl movedFile
      | file number content =>
        cases sourceSlash <;> cases slash <;> rcases found with _ | (_ | _ | _) <;>
          simp [looked] at h <;> simp [h]
      | device number =>
        cases sourceSlash <;> cases slash <;> rcases found with _ | (_ | _ | _) <;>
          simp [looked] at h <;> simp [h]
    obtain ⟨rfl, rfl, notDirectory, same⟩ := kept
    exact ⟨sourceDirectory, sourceName, moved, directory, name, found,
      ⟨resolvedSource, shortSource, entrySource⟩, movedFile, ⟨resolvedTarget, short, entry⟩,
      notDirectory, same⟩

end FileSystem

/-! ## What storing touches -/

namespace CatalogFile

variable {file : CatalogFile} {fs fs' : FileSystem} {bytes : ByteArray}

/-- Whether a place is the one of the database file or of the second file. -/
def Uses (file : CatalogFile) (fs : FileSystem) (place : Place) : Prop :=
  ∃ path found, (path = file.path ∨ path = file.tempPath) ∧ fs.findToWrite path = .ok (place, found)

/-- Whether nothing changed but what stands where the database file and the second file are. -/
def Touched (file : CatalogFile) (fs fs' : FileSystem) : Prop :=
  ∃ places, Frame places fs fs' ∧ ∀ place ∈ places, file.Uses fs place

/-- Tidying up touches nothing but the second file. -/
theorem Touched.of_tidied (tidied : file.Tidied fs fs') : file.Touched fs fs' := by
  rcases tidied with same | ⟨_, place, stale, replaced⟩
  · exact ⟨[], same, nofun⟩
  · refine ⟨[place], replaced.frame, ?_⟩
    intro other mem
    rw [List.mem_singleton.1 mem]
    exact ⟨file.tempPath, some stale, .inr rfl, replaced.looked⟩

/-- A replacement that succeeds has written the second file and moved it. -/
theorem steps_of_replaceAtomically (h : (file.replaceAtomically bytes).runOn fs = (.ok (), fs')) :
    ∃ written, fs.write file.tempPath bytes = .ok written ∧
      written.rename file.tempPath file.path = .ok fs' := by
  simp only [replaceAtomically, writeTemp, moveTemp, Disk.runOn_tryCatch, Disk.runOn_bind,
    Disk.runOn_change, runOn_discardTemp, Disk.runOn_throw] at h
  cases wrote : fs.write file.tempPath bytes with
  | error fault => simp [wrote] at h
  | ok written =>
    refine ⟨written, rfl, ?_⟩
    cases synced : written.sync file.tempPath with
    | error fault => simp [wrote, synced] at h
    | ok same =>
      cases sync_ok synced
      cases moved : written.rename file.tempPath file.path with
      | error fault => simp [wrote, synced, moved] at h
      | ok after =>
        simp [wrote, synced, moved] at h
        rw [h]

/-- Replacing a file atomically changes it and the second file. -/
theorem touched_of_replaceAtomically
    (h : (file.replaceAtomically bytes).runOn fs = (.ok (), fs')) : file.Touched fs fs' := by
  obtain ⟨written, wrote, moved⟩ := steps_of_replaceAtomically h
  obtain ⟨tempDirectory, tempName, _, entry, looked, temp, notDirectory, frame, _⟩ :=
    leads_of_write wrote
  obtain ⟨_, _, _, directory, name, found, source, _, target, targetFile, rfl⟩ :=
    FileSystem.leads_of_rename moved
  cases source.resolved.symm.trans temp.resolved
  -- The path of the file led to the same place before the second file was written.
  have apart : directory ++ [name] ∉ [tempDirectory ++ [tempName]] := by
    rw [List.mem_singleton, target.name_eq, temp.name_withEnding (by decide)]
    intro same
    have last := List.singleton_inj.1 (List.append_inj' same rfl).2
    exact absurd last.symm (by simp)
  have before := target.of_frame_of_not_mem frame.symm
    (FileSystem.noDirectory_singleton temp fun same => notDirectory (Option.some.inj same)) apart
  refine ⟨[directory ++ [name], tempDirectory ++ [tempName]], ?_, ?_⟩
  · have removed := written.frame_withoutEntry (show tempDirectory ++ [tempName] ≠ [] by simp)
    have placed := (written.withoutEntry (tempDirectory ++ [tempName])).frame_withEntry
      (show directory ++ [name] ≠ [] by simp)
    exact (frame.mono (by simp)).trans ((removed.mono (by simp)).trans ((placed _).mono (by simp)))
  · intro place mem
    rcases List.mem_cons.1 mem with rfl | mem
    · exact ⟨file.path, found, .inl rfl, before.findToWrite targetFile⟩
    · rw [List.mem_singleton.1 mem]
      exact ⟨file.tempPath, _, .inr rfl, looked⟩

/-- Storing a catalog changes nothing but the file and the second file, whether it succeeds or not. -/
theorem touched_of_store {c : Catalog} {result : Except Error Unit}
    (h : (file.store c).runOn fs = (result, fs')) :
    file.Touched fs fs' ∧ fs'.locked = fs.locked := by
  cases result with
  | error error =>
    obtain ⟨tidied, locked⟩ := tidied_of_store h
    exact ⟨.of_tidied tidied, locked⟩
  | ok _ =>
    rw [store] at h
    cases mode : file.mode with
    | overwrite =>
      simp only [mode, overwrite, Disk.runOn_change] at h
      cases wrote : fs.write file.path (c.encode file.style) with
      | error fault => simp [wrote] at h
      | ok written =>
        rw [wrote] at h
        cases h
        obtain ⟨directory, name, found, _, looked, _, _, frame, locked⟩ := leads_of_write wrote
        refine ⟨⟨[directory ++ [name]], frame, ?_⟩, locked⟩
        intro place mem
        rw [List.mem_singleton.1 mem]
        exact ⟨file.path, found, .inl rfl, looked⟩
    | atomic =>
      simp only [mode] at h
      refine ⟨touched_of_replaceAtomically h, ?_⟩
      obtain ⟨written, wrote, moved⟩ := steps_of_replaceAtomically h
      obtain ⟨_, _, _, _, _, _, _, _, locked⟩ := leads_of_write wrote
      obtain ⟨_, _, _, _, _, _, _, _, _, _, rfl⟩ := FileSystem.leads_of_rename moved
      exact locked

/-- Removing the database file touches nothing else. -/
theorem touched_of_remove (h : fs.remove file.path = .ok fs') :
    file.Touched fs fs' ∧ fs'.locked = fs.locked := by
  obtain ⟨place, stale, replaced, locked⟩ := FileSystem.replaced_of_remove h
  refine ⟨⟨[place], replaced.frame, ?_⟩, locked⟩
  intro other mem
  rw [List.mem_singleton.1 mem]
  exact ⟨file.path, some stale, .inl rfl, replaced.looked⟩

end CatalogFile

/-! ## The lock file -/

namespace FileLock

variable {path : Path} {fs fs' : FileSystem} {number : Nat}

/-- Whether the path of the lock file leads to a file of a number. -/
def Stands (path : Path) (fs : FileSystem) (number : Nat) : Prop :=
  ∃ directory name entry, fs.Leads (pathFor path) directory name (some entry) ∧
    entry.number? = some number

/-- Opening a lock file that stands gives its number and changes nothing. -/
theorem Stands.openOrCreate (stands : Stands path fs number) :
    fs.openOrCreate (pathFor path) = .ok (number, fs) := by
  obtain ⟨directory, name, entry, leads, numbered⟩ := stands
  cases entry with
  | directory => cases numbered
  | file other content =>
    cases numbered
    exact leads.openOrCreate nofun
  | device other =>
    cases numbered
    exact leads.openOrCreate nofun

/-- A lock file that was opened stands. -/
theorem stands_of_openOrCreate (h : fs.openOrCreate (pathFor path) = .ok (number, fs')) :
    Stands path fs' number := by
  obtain ⟨directory, name, found, leads, notDirectory, same⟩ := FileSystem.leads_of_openOrCreate h
  obtain ⟨rfl, rfl⟩ := Prod.mk.inj same
  have notRoot : directory ++ [name] ≠ [] := by simp
  obtain ⟨entry, there, entryFile, numbered⟩ :=
    FileSystem.entryAt_opened notRoot leads.entry notDirectory
  have after := leads.of_frame (fs.frame_opened notRoot found)
    (FileSystem.noDirectory_singleton leads notDirectory)
  rw [there] at after
  refine ⟨directory, name, entry, after, ?_⟩
  have again := numbered fs
  cases entry with
  | directory => exact absurd rfl entryFile
  | file other content => exact congrArg some again
  | device other => exact congrArg some again

/-- A lock file stands where it stood as long as no entry changes. -/
theorem Stands.of_same (stands : Stands path fs number) (same : Frame [] fs fs') :
    Stands path fs' number := by
  obtain ⟨directory, name, entry, leads, numbered⟩ := stands
  exact ⟨directory, name, entry, leads.of_frame_of_not_mem same nofun nofun, numbered⟩

/-- The lock file stays where it is while a catalog is stored or removed. -/
theorem Stands.of_touched {file : CatalogFile} (stands : Stands file.path fs number)
    (touched : file.Touched fs fs') : Stands file.path fs' number := by
  obtain ⟨directory, name, entry, leads, numbered⟩ := stands
  obtain ⟨places, frame, uses⟩ := touched
  have noDirectory : fs.NoDirectory places := by
    intro place mem
    obtain ⟨_, _, _, looked⟩ := uses place mem
    obtain ⟨notDirectory, _, _, rfl, leads⟩ := FileSystem.leads_of_findToWrite looked
    rw [leads.entry]
    exact notDirectory
  have away : directory ++ [name] ∉ places := by
    intro mem
    obtain ⟨used, _, which, looked⟩ := uses _ mem
    obtain ⟨_, _, _, same, other⟩ := FileSystem.leads_of_findToWrite looked
    have last := List.singleton_inj.1 (List.append_inj' same rfl).2
    rw [leads.name_withEnding (by decide)] at last
    rcases which with rfl | rfl
    · rw [other.name_eq] at last
      simp [ending] at last
    · rw [other.name_withEnding (by decide)] at last
      exact absurd ((String.append_right_inj _).1 last) (by decide)
  exact ⟨directory, name, entry, leads.of_frame_of_not_mem frame noDirectory away, numbered⟩

end FileLock

end DocStore
