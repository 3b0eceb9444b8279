-- SUMMARY: Whether a catalog can be stored does not depend on it, and storing another one leaves no trace of it.
import DocStore.Proofs.Database.Failure

/-!
# Storing again

Whether storing succeeds is a matter of what stands beside the file, and not of the catalog: where
one catalog cannot be stored no other can, and nothing has changed then. Where it can, a second
catalog takes the place of the first one altogether, so what is left in the file system tells nothing
of the first but that something was stored.
-/

namespace DocStore

open FileSystem (IsPlain)

namespace CatalogFile

variable {file : CatalogFile} {fs : FileSystem} {directory : Place} {name : String}

/-- Whether the second file, if there is to be one and it can be opened, is a file or not there. A
device in its place would be removed by the first attempt to store. -/
def TempPlain (file : CatalogFile) (fs : FileSystem) : Prop :=
  file.mode = .atomic → ∀ place found, fs.findToWrite file.tempPath = .ok (place, found) → IsPlain found

/-! ## Storing that fails -/

/-- Nothing is discarded if the path of the second file cannot be opened. -/
theorem discarded_eq_self {fault : IoFault} (closed : fs.findToWrite file.tempPath = .error fault) :
    file.discarded fs = fs := by
  unfold discarded
  cases removed : fs.remove file.tempPath with
  | error fault => rfl
  | ok fs' =>
    obtain ⟨place, stale, replaced, _⟩ := FileSystem.replaced_of_remove removed
    cases closed.symm.trans replaced.looked

/-- No catalog can be stored by way of a second file that cannot be opened, and nothing changes. -/
theorem runOn_store_error {fault : IoFault} (mode : file.mode = .atomic)
    (closed : fs.findToWrite file.tempPath = .error fault) (c : Catalog) :
    (file.store c).runOn fs = (.error (.io file.tempPath.text fault), fs) := by
  have unwritten : fs.write file.tempPath (c.encode file.style) = .error fault := by
    rw [FileSystem.write, closed]
    rfl
  simp only [store, mode, replaceAtomically, writeTemp, Disk.runOn_tryCatch, Disk.runOn_bind,
    Disk.runOn_change, unwritten, runOn_discardTemp, discarded_eq_self closed, Disk.runOn_throw]

/-- A file can be replaced by any catalog or by none, and then nothing changes. -/
theorem tempReady_or_error {number : Nat} {old : ByteArray}
    (leads : fs.Leads file.path directory name (some (.file number old))) (plain : file.TempPlain fs) :
    file.TempReady directory name fs ∨ ∃ error, ∀ c, (file.store c).runOn fs = (.error error, fs) := by
  cases mode : file.mode with
  | overwrite =>
    refine .inl fun atomic => ?_
    cases mode.symm.trans atomic
  | atomic =>
    cases looked : fs.findToWrite file.tempPath with
    | error fault => exact .inr ⟨_, runOn_store_error mode looked⟩
    | ok result =>
      obtain ⟨place, found⟩ := result
      obtain ⟨_, tempDirectory, tempName, _, temp⟩ := FileSystem.leads_of_findToWrite looked
      cases FileSystem.resolve_withEnding leads.resolved (by decide) temp.resolved
      exact .inl fun _ => ⟨found, temp, plain mode place found looked⟩

/-! ## Storing that succeeds -/

/-- The number of the second file when it is written, given what is found in its place, and the
number of the next file after it. -/
def tempNumbers (fs : FileSystem) : Option Entry → Nat × Nat
  | some (.file number _) => (number, fs.nextNumber)
  | _ => (fs.nextNumber, fs.nextNumber + 1)

/-- The file system in which the second file, given what was found in its place, was written and
moved over the first. -/
def moved (directory : Place) (name : String) (found : Option Entry) (bytes : ByteArray)
    (fs : FileSystem) : FileSystem :=
  { (fs.withoutEntry (directory ++ [name ++ ".tmp"])).withEntry (directory ++ [name])
      (.file (tempNumbers fs found).1 bytes) with nextNumber := (tempNumbers fs found).2 }

/-- The second file takes a number of its own, or keeps the one it was left with. -/
theorem write_temp {found : Option Entry}
    (temp : fs.Leads file.tempPath directory (name ++ ".tmp") found) (plain : IsPlain found)
    (bytes : ByteArray) :
    fs.write file.tempPath bytes =
      .ok { fs.withEntry (directory ++ [name ++ ".tmp"]) (.file (tempNumbers fs found).1 bytes) with
        nextNumber := (tempNumbers fs found).2 } := by
  rw [FileSystem.write, temp.findToWrite plain.ne_directory]
  rcases found with _ | (_ | ⟨number, old⟩ | number)
  · rfl
  · exact absurd rfl plain.ne_directory
  · rfl
  · have notFile := plain (.device number) rfl
    cases notFile

/-- A replacement of a file that is there is worked out: the second file takes its place. -/
theorem runOn_replaceAtomically_eq {found : Option Entry} {number : Nat} {old : ByteArray}
    (leads : fs.Leads file.path directory name (some (.file number old)))
    (temp : fs.Leads file.tempPath directory (name ++ ".tmp") found) (plain : IsPlain found)
    (bytes : ByteArray) :
    (file.replaceAtomically bytes).runOn fs = (.ok (), moved directory name found bytes fs) := by
  have apart : directory ++ [name ++ ".tmp"] ≠ directory ++ [name] :=
    FileSystem.place_ne_self directory name (by decide)
  have notDirectory := plain.ne_directory
  let written : FileSystem :=
    { fs.withEntry (directory ++ [name ++ ".tmp"]) (.file (tempNumbers fs found).1 bytes) with
      nextNumber := (tempNumbers fs found).2 }
  have there : written.Leads file.tempPath directory (name ++ ".tmp")
      (some (.file (tempNumbers fs found).1 bytes)) :=
    (temp.withEntry notDirectory _).of_entries rfl rfl
  have first : written.Leads file.path directory name (some (.file number old)) := by
    refine (leads.of_frame_of_not_mem (fs.frame_withEntry (by simp) _)
      (FileSystem.noDirectory_singleton temp notDirectory) ?_).of_entries rfl rfl
    simpa using apart.symm
  have renamed : written.rename file.tempPath file.path =
      .ok (moved directory name found bytes fs) := by
    simp only [FileSystem.rename, there.resolved, first.resolved, there.lookup, first.lookup, ok_bind]
    simp [written, moved, FileSystem.withEntry, FileSystem.withoutEntry, Assoc.erase_set]
  have wrote : fs.write file.tempPath bytes = .ok written := write_temp temp plain bytes
  simp only [replaceAtomically, writeTemp, moveTemp, Disk.runOn_tryCatch, Disk.runOn_bind,
    Disk.runOn_change, wrote, there.sync, renamed]

/-- Of the bytes that were moved in place first nothing is left. -/
theorem moved_moved (directory : Place) (name : String) (found : Option Entry)
    (first other second : ByteArray) (fs : FileSystem) :
    moved directory name none second (moved directory name found first fs) =
      moved directory name none second (moved directory name found other fs) := by
  have apart : directory ++ [name ++ ".tmp"] ≠ directory ++ [name] :=
    FileSystem.place_ne_self directory name (by decide)
  simp only [moved, tempNumbers, FileSystem.withEntry, FileSystem.withoutEntry,
    Assoc.erase_set_of_ne apart, Assoc.set_set]

/-- What is left of storing one catalog and then another does not depend on the first. -/
theorem runOn_store_store {number : Nat} {old : ByteArray}
    (leads : fs.Leads file.path directory name (some (.file number old)))
    (ready : file.TempReady directory name fs) (first other second : Catalog) :
    (file.store second).runOn ((file.store first).runOn fs).2 =
      (file.store second).runOn ((file.store other).runOn fs).2 := by
  cases mode : file.mode with
  | overwrite =>
    have plain := FileSystem.isPlain_file number old
    -- Writing twice is writing once.
    have again : ∀ c : Catalog, (file.store second).runOn ((file.store c).runOn fs).2 =
        (file.store second).runOn fs := by
      intro c
      obtain ⟨fs', _, written, _⟩ := leads.write plain (c.encode file.style)
      obtain ⟨fs'', _, rewritten, _⟩ := leads.write plain (second.encode file.style)
      simp only [store, mode, overwrite, Disk.runOn_change, written,
        FileSystem.write_write leads plain written, rewritten]
    rw [again first, again other]
  | atomic =>
    obtain ⟨found, temp, plain⟩ := ready mode
    -- After the first move nothing stands in the place of the second file.
    have again : ∀ c : Catalog, (file.store second).runOn ((file.store c).runOn fs).2 =
        (.ok (), moved directory name none (second.encode file.style)
          (moved directory name found (c.encode file.style) fs)) := by
      intro c
      have run := runOn_replaceAtomically_eq leads temp plain (c.encode file.style)
      have stored := stored_of_store (c := c) leads (by rw [store, mode]; exact run)
      obtain ⟨newNumber, newLeads⟩ := stored.content
      have gone := temp.of_frame stored.frame
        (noDirectory_places leads (FileSystem.isPlain_file number old) ready)
      rw [stored.temp mode] at gone
      simp only [store, mode, run]
      exact runOn_replaceAtomically_eq newLeads gone FileSystem.isPlain_none _
    rw [again first, again other, moved_moved directory name found _ (other.encode file.style)]

end CatalogFile

end DocStore
