-- SUMMARY: Storing a catalog puts its bytes into the file and touches nothing but it and the second file.
import DocStore.CatalogFile
import DocStore.Proofs.FileSystem

/-!
# Storing a catalog

Loading changes nothing. Storing, in place or by way of a second file, either fails or leaves the
bytes of the catalog in the file, and then the second file is gone. It changes nothing anywhere else.
-/

namespace DocStore

/-! ## Running computations -/

namespace Disk

variable {α β : Type} (fs : FileSystem)

@[simp] theorem runOn_pure (a : α) : (pure a : Disk α).runOn fs = (.ok a, fs) := rfl

@[simp] theorem runOn_ofExcept (result : Except Error α) :
    (ofExcept result).runOn fs = (result, fs) := rfl

@[simp] theorem runOn_throw (error : Error) : (throw error : Disk α).runOn fs = (.error error, fs) :=
  rfl

/-- The second of two computations starts in the state in which the first one ends, errors
included. -/
theorem runOn_bind (computation : Disk α) (next : α → Disk β) :
    (computation >>= next).runOn fs =
      match computation.runOn fs with
      | (.ok a, fs) => (next a).runOn fs
      | (.error error, fs) => (.error error, fs) := by
  simp only [runOn, ExceptT.run_bind, StateT.run_bind]
  cases computation.run.run fs with
  | mk result fs' => cases result <;> rfl

/-- A sequence succeeds only if both of its parts do. -/
theorem runOn_bind_ok {computation : Disk α} {next : α → Disk β} {b : β} {fs fs' : FileSystem}
    (h : (computation >>= next).runOn fs = (.ok b, fs')) :
    ∃ a fs₁, computation.runOn fs = (.ok a, fs₁) ∧ (next a).runOn fs₁ = (.ok b, fs') := by
  rw [runOn_bind] at h
  rcases run : computation.runOn fs with ⟨error | a, fs₁⟩
  · rw [run] at h
    cases h
  · rw [run] at h
    exact ⟨a, fs₁, rfl, h⟩

theorem runOn_map (f : α → β) (computation : Disk α) :
    (f <$> computation).runOn fs =
      ((computation.runOn fs).1.map f, (computation.runOn fs).2) := by
  rw [map_eq_pure_bind, runOn_bind]
  rcases computation.runOn fs with ⟨_ | _, fs'⟩ <;> rfl

theorem runOn_attempt (path : Path) (step : FileSystem → Except IoFault (α × FileSystem)) :
    (attempt path step).runOn fs =
      match step fs with
      | .ok (result, fs) => (.ok result, fs)
      | .error fault => (.error (.io path.text fault), fs) := rfl

theorem runOn_change (path : Path) (step : FileSystem → Except IoFault FileSystem) :
    (change path step).runOn fs =
      match step fs with
      | .ok fs => (.ok (), fs)
      | .error fault => (.error (.io path.text fault), fs) := by
  rw [change, runOn_attempt]
  cases step fs <;> rfl

theorem runOn_attemptQuietly (step : FileSystem → Except IoFault FileSystem) :
    (attemptQuietly step).runOn fs = (.ok (), (step fs).toOption.getD fs) := by
  simp only [runOn, attemptQuietly, ExceptT.run, ExceptT.mk, StateT.run]
  cases step fs <;> rfl

/-- A handler starts in the state that the failure leaves. -/
theorem runOn_tryCatch (computation : Disk α) (handler : Error → Disk α) :
    (tryCatch computation handler).runOn fs =
      match computation.runOn fs with
      | (.ok a, fs) => (.ok a, fs)
      | (.error error, fs) => (handler error).runOn fs := by
  simp only [runOn, tryCatch, tryCatchThe, MonadExceptOf.tryCatch, ExceptT.tryCatch, ExceptT.run,
    ExceptT.mk, StateT.run, bind, StateT.bind]
  cases computation fs with
  | mk result fs' => cases result <;> rfl

end Disk

namespace CatalogFile

variable {file : CatalogFile} {fs fs' : FileSystem} {directory : Place} {name : String}

theorem runOn_load (file : CatalogFile) (fs : FileSystem) :
    file.load.runOn fs = (file.content fs, fs) := by
  rw [load, Disk.runOn_bind]
  rfl

/-- Whether the second file can be written, if there is to be one: nothing or a file stands at its
place. -/
def TempReady (file : CatalogFile) (directory : Place) (name : String) (fs : FileSystem) : Prop :=
  file.mode = .atomic →
    ∃ found, fs.Leads file.tempPath directory (name ++ ".tmp") found ∧ FileSystem.IsPlain found

/-- The places that storing changes: the file and, if there is to be one, the second file. -/
def places (file : CatalogFile) (directory : Place) (name : String) : List Place :=
  match file.mode with
  | .overwrite => [directory ++ [name]]
  | .atomic => [directory ++ [name], directory ++ [name ++ ".tmp"]]

/-- None of the places that a replacement uses is a directory. -/
theorem noDirectory_places {found : Option Entry} (leads : fs.Leads file.path directory name found)
    (plain : FileSystem.IsPlain found) (ready : file.TempReady directory name fs) :
    fs.NoDirectory (file.places directory name) := by
  intro place mem
  have notFile : fs.entryAt (directory ++ [name]) ≠ some .directory := by
    rw [leads.entry]
    exact plain.ne_directory
  unfold places at mem
  split at mem
  · rw [List.mem_singleton.1 mem]
    exact notFile
  · rename_i mode
    obtain ⟨found, temp, plain⟩ := ready mode
    rcases List.mem_cons.1 mem with rfl | mem
    · exact notFile
    · rw [List.mem_singleton.1 mem, temp.entry]
      exact plain.ne_directory

/-- Whether the file holds the given bytes now, and nothing changed but it and the second file. -/
structure Stored (file : CatalogFile) (directory : Place) (name : String) (bytes : ByteArray)
    (fs fs' : FileSystem) : Prop where
  content : ∃ number, fs'.Leads file.path directory name (some (.file number bytes))
  temp : file.mode = .atomic → fs'.entryAt (directory ++ [name ++ ".tmp"]) = none
  frame : FileSystem.Frame (file.places directory name) fs fs'
  locked : fs'.locked = fs.locked

/-- Where no directory is in the way, a file that is overwritten holds what was stored. -/
theorem runOn_overwrite {found : Option Entry} (mode : file.mode = .overwrite)
    (leads : fs.Leads file.path directory name found) (plain : FileSystem.IsPlain found)
    (bytes : ByteArray) :
    ∃ fs', (file.overwrite bytes).runOn fs = (.ok (), fs') ∧
      Stored file directory name bytes fs fs' := by
  obtain ⟨fs', number, written, there, frame, locked⟩ := leads.write plain bytes
  refine ⟨fs', ?_, ⟨number, there⟩, fun atomic => ?_, ?_, locked⟩
  · rw [overwrite, Disk.runOn_change, written]
  · cases mode.symm.trans atomic
  · rw [places, mode]
    exact frame

/-- Where no directory is in the way, a file that is replaced holds what was stored. -/
theorem runOn_replaceAtomically {old found : Option Entry} (mode : file.mode = .atomic)
    (leads : fs.Leads file.path directory name old) (oldPlain : FileSystem.IsPlain old)
    (temp : fs.Leads file.tempPath directory (name ++ ".tmp") found)
    (plain : FileSystem.IsPlain found) (bytes : ByteArray) :
    ∃ fs', (file.replaceAtomically bytes).runOn fs = (.ok (), fs') ∧
      Stored file directory name bytes fs fs' := by
  have apart : directory ++ [name ++ ".tmp"] ≠ directory ++ [name] :=
    FileSystem.place_ne_self directory name (by decide)
  -- While the second file is written the first one stays where it is.
  obtain ⟨fs₁, tempNumber, written, there, frame, locked⟩ := temp.write plain bytes
  have leads₁ := leads.of_frame_of_not_mem frame
    (FileSystem.noDirectory_singleton temp plain.ne_directory) (by simpa using apart.symm)
  -- Then the second one is moved over it, and nothing is left at its own place.
  obtain ⟨fs₂, moved, content, gone, frame₂, locked₂⟩ := there.rename leads₁ nofun
    oldPlain.ne_directory apart
  refine ⟨fs₂, ?_, ⟨tempNumber, content⟩, fun _ => gone, ?_, locked₂.trans locked⟩
  · simp only [replaceAtomically, writeTemp, moveTemp, Disk.runOn_tryCatch, Disk.runOn_bind,
      Disk.runOn_change, written, there.sync, moved]
  · rw [places, mode]
    exact (frame.mono (by simp)).trans frame₂

/-- Storing succeeds if nothing or a file is there and the second file can be written. -/
theorem runOn_store {found : Option Entry} (leads : fs.Leads file.path directory name found)
    (plain : FileSystem.IsPlain found) (ready : file.TempReady directory name fs) (c : Catalog) :
    ∃ fs', (file.store c).runOn fs = (.ok (), fs') ∧
      Stored file directory name (c.encode file.style) fs fs' := by
  rw [store]
  cases mode : file.mode with
  | overwrite => exact runOn_overwrite mode leads plain _
  | atomic =>
    obtain ⟨found, temp, tempPlain⟩ := ready mode
    exact runOn_replaceAtomically mode leads plain temp tempPlain _

/-- A second file that was written and brought to the disk is a file. -/
theorem tempReady_of_writeTemp {number : Nat} {old bytes : ByteArray}
    (leads : fs.Leads file.path directory name (some (.file number old)))
    (h : (file.writeTemp bytes).runOn fs = (.ok (), fs')) :
    ∃ found, fs.Leads file.tempPath directory (name ++ ".tmp") found ∧ FileSystem.IsPlain found := by
  simp only [writeTemp, Disk.runOn_bind, Disk.runOn_change] at h
  cases looked : fs.findToWrite file.tempPath with
  | error fault => simp [FileSystem.write, looked] at h
  | ok result =>
    obtain ⟨place, found⟩ := result
    obtain ⟨notDirectory, tempDirectory, tempName, _, temp⟩ := FileSystem.leads_of_findToWrite looked
    cases FileSystem.resolve_withEnding leads.resolved (by decide) temp.resolved
    refine ⟨found, temp, ?_⟩
    rcases found with _ | (_ | ⟨number, content⟩ | number)
    · intro entry there
      cases there
    · exact absurd rfl notDirectory
    · simp [FileSystem.IsPlain, Entry.isFile]
    · obtain ⟨written, unsynced⟩ := temp.write_device bytes
      simp [written, unsynced] at h

/-- Storing succeeds only if the second file can be written. -/
theorem tempReady_of_store {number : Nat} {old : ByteArray} {c : Catalog}
    (leads : fs.Leads file.path directory name (some (.file number old)))
    (h : (file.store c).runOn fs = (.ok (), fs')) : file.TempReady directory name fs := by
  intro mode
  simp only [store, mode, replaceAtomically, Disk.runOn_tryCatch, Disk.runOn_bind] at h
  cases written : (file.writeTemp (c.encode file.style)).runOn fs with
  | mk result fs₁ =>
    cases result with
    | ok _ => exact tempReady_of_writeTemp leads written
    | error error =>
      simp only [written, Disk.runOn_throw] at h
      split at h <;> cases h

/-- A catalog that was stored is what the file holds. -/
theorem stored_of_store {number : Nat} {old : ByteArray} {c : Catalog}
    (leads : fs.Leads file.path directory name (some (.file number old)))
    (h : (file.store c).runOn fs = (.ok (), fs')) :
    Stored file directory name (c.encode file.style) fs fs' := by
  obtain ⟨fs₁, run, stored⟩ := runOn_store leads (FileSystem.isPlain_file number old)
    (tempReady_of_store leads h) c
  cases run.symm.trans h
  exact stored

end CatalogFile

end DocStore
