-- SUMMARY: Loading and storing a catalog come to the same in file systems that are alike.
import DocStore.Proofs.FileLock.Apart
import DocStore.Proofs.FileSystem.Alike

/-!
# Catalog files in file systems that are alike

Two computations agree on two file systems if they give the same result, leave the file systems alike,
let only files come and go, and give every lock back. Errors may be excused for each other: they are
then not the same, but both computations fail. Loading a catalog agrees with loading it, and storing it
agrees with storing it by another mode and in another style, as long as the two texts count as the same
and the second file is not looked at.
-/

namespace DocStore

open FileSystem (Alike EntryAlike Frame IsPlain Tame)

variable {same : ByteArray → ByteArray → Prop} {excused : Error → Error → Prop} {seen : Place → Prop}
variable {fs fs' fs₁ fs₁' : FileSystem} {path : Path} {directory : Place} {name : String}

/-! ## Results -/

/-- Whether two results are the same, or errors that are excused for each other. -/
inductive SameResult (excused : Error → Error → Prop) {α : Type} :
    Except Error α → Except Error α → Prop where
  | same (result : Except Error α) : SameResult excused result result
  | error {error error' : Error} (allowed : excused error error') :
      SameResult excused (.error error) (.error error')

namespace SameResult

variable {α β : Type} {result result' : Except Error α}

theorem map (alike : SameResult excused result result') (f : α → β) :
    SameResult excused (result.map f) (result'.map f) := by
  cases alike with
  | same result => exact .same _
  | error allowed => exact .error allowed

theorem bind (alike : SameResult excused result result') (f : α → Except Error β) :
    SameResult excused (result >>= f) (result' >>= f) := by
  cases alike with
  | same result => exact .same _
  | error allowed => exact .error allowed

/-- Without excuses the same results are equal. -/
theorem eq_of_none (alike : SameResult (fun _ _ => False) result result') : result = result' := by
  cases alike with
  | same result => rfl
  | error allowed => exact allowed.elim

end SameResult

/-! ## Computations that agree -/

/-- Whether two computations give the same result, each on its own file system, and leave the file
systems alike. -/
def Disk.Agree (same : ByteArray → ByteArray → Prop) (excused : Error → Error → Prop)
    (seen : Place → Prop) {α : Type} (computation computation' : Disk α) (fs fs' : FileSystem) : Prop :=
  ∃ result result' fs₁ fs₁', computation.runOn fs = (result, fs₁) ∧
    computation'.runOn fs' = (result', fs₁') ∧ SameResult excused result result' ∧
    Alike same seen fs₁ fs₁' ∧ (∃ places, Tame places fs fs₁) ∧ (∃ places, Tame places fs' fs₁') ∧
    fs₁.locked = fs.locked ∧ fs₁'.locked = fs'.locked

namespace Disk.Agree

variable {α β : Type} {computation computation' : Disk α}

/-- Computations that change nothing agree if they give the same result. -/
theorem of_unchanged {result result' : Except Error α} (alike : Alike same seen fs fs')
    (results : SameResult excused result result') (run : computation.runOn fs = (result, fs))
    (run' : computation'.runOn fs' = (result', fs')) :
    Agree same excused seen computation computation' fs fs' := by
  have still (fs : FileSystem) : ∃ places, Tame places fs fs := ⟨[], .refl fs⟩
  exact ⟨result, result', fs, fs', run, run', results, alike, still fs, still fs', rfl, rfl⟩

/-- Whether computations agree depends only on what they come to. -/
theorem congr {other other' : Disk α} (agree : Agree same excused seen computation computation' fs fs')
    (run : other.runOn fs = computation.runOn fs) (run' : other'.runOn fs' = computation'.runOn fs') :
    Agree same excused seen other other' fs fs' := by
  unfold Agree
  rw [run, run']
  exact agree

theorem map (agree : Agree same excused seen computation computation' fs fs') (f : α → β) :
    Agree same excused seen (f <$> computation) (f <$> computation') fs fs' := by
  obtain ⟨result, result', fs₁, fs₁', run, run', results, rest⟩ := agree
  have mapped : (f <$> computation).runOn fs = (result.map f, fs₁) := by rw [Disk.runOn_map, run]
  have mapped' : (f <$> computation').runOn fs' = (result'.map f, fs₁') := by
    rw [Disk.runOn_map, run']
  exact ⟨_, _, fs₁, fs₁', mapped, mapped', results.map f, rest⟩

/-- Sequences agree if their first parts do, and their second parts wherever the first ones lead. -/
theorem bind {next next' : α → Disk β}
    (first : Agree same excused seen computation computation' fs fs')
    (second : ∀ a {places places'} {fs₁ fs₁'}, Alike same seen fs₁ fs₁' → Tame places fs fs₁ →
      Tame places' fs' fs₁' → fs₁.locked = fs.locked → fs₁'.locked = fs'.locked →
        Agree same excused seen (next a) (next' a) fs₁ fs₁') :
    Agree same excused seen (computation >>= next) (computation' >>= next') fs fs' := by
  obtain ⟨result, result', fs₁, fs₁', run, run', results, alike, ⟨_, tame⟩, ⟨_, tame'⟩, locked,
    locked'⟩ := first
  have stops : ∀ {computation : Disk α} {next : α → Disk β} {fs fs₁ error},
      computation.runOn fs = (.error error, fs₁) →
        (computation >>= next).runOn fs = (.error error, fs₁) := by
    intro computation next fs fs₁ error run
    rw [Disk.runOn_bind, run]
  cases results with
  | error allowed =>
    exact ⟨_, _, fs₁, fs₁', stops run, stops run', .error allowed, alike, ⟨_, tame⟩, ⟨_, tame'⟩, locked,
      locked'⟩
  | same result =>
    cases result with
    | error error =>
      exact ⟨_, _, fs₁, fs₁', stops run, stops run', .same _, alike, ⟨_, tame⟩, ⟨_, tame'⟩, locked,
        locked'⟩
    | ok a =>
      obtain ⟨result, result', fs₂, fs₂', later, later', results, alike₂, ⟨_, tame₂⟩, ⟨_, tame₂'⟩,
        locked₂, locked₂'⟩ := second a alike tame tame' locked locked'
      have onward : (computation >>= next).runOn fs = (result, fs₂) := by
        rw [Disk.runOn_bind, run]
        exact later
      have onward' : (computation' >>= next').runOn fs' = (result', fs₂') := by
        rw [Disk.runOn_bind, run']
        exact later'
      exact ⟨result, result', fs₂, fs₂', onward, onward', results, alike₂, ⟨_, tame.trans tame₂⟩,
        ⟨_, tame'.trans tame₂'⟩, locked₂.trans locked, locked₂'.trans locked'⟩

end Disk.Agree

/-! ## Room for a catalog file -/

/-- Whether a file can be written at a path: nothing or a file stands there. -/
def FileSystem.Writable (fs : FileSystem) (path : Path) : Prop :=
  ∃ place found, fs.findToWrite path = .ok (place, found) ∧ IsPlain found

/-- Whether a file can be written beside another one, under its name with an ending: nothing or a file
stands there. -/
def FileSystem.HasRoom (fs : FileSystem) (path : Path) (directory : Place) (name ending : String) :
    Prop :=
  ∃ found, fs.Leads (path.withEnding ending) directory (name ++ ending) found ∧ IsPlain found

/-- Where a path with an ending can be written, there is room beside the file for that ending. -/
theorem FileSystem.Writable.hasRoom {found : Option Entry} {ending : String}
    (writable : fs.Writable (path.withEnding ending)) (leads : fs.Leads path directory name found)
    (long : 2 < ending.length) : fs.HasRoom path directory name ending := by
  obtain ⟨_, beside, looked, plain⟩ := writable
  obtain ⟨_, _, _, _, leadsBeside⟩ := FileSystem.leads_of_findToWrite looked
  cases FileSystem.resolve_withEnding leads.resolved long leadsBeside.resolved
  exact ⟨beside, leadsBeside, plain⟩

theorem FileSystem.HasRoom.isPlain {ending : String} (room : fs.HasRoom path directory name ending) :
    IsPlain (fs.entryAt (directory ++ [name ++ ending])) := by
  obtain ⟨found, leads, plain⟩ := room
  rw [leads.entry]
  exact plain

/-- Room beside a file does not go away by a change that spares the directories. -/
theorem FileSystem.HasRoom.tame {places : List Place} {ending : String}
    (room : fs.HasRoom path directory name ending) (tame : Tame places fs fs') :
    fs'.HasRoom path directory name ending := by
  have plain := tame.isPlain room.isPlain
  obtain ⟨found, leads, _⟩ := room
  exact ⟨_, tame.leads leads, plain⟩

/-- The file beside can be removed, unless it is not there. -/
theorem FileSystem.HasRoom.remove {ending : String} (room : fs.HasRoom path directory name ending) :
    ∃ fs', Tame [directory ++ [name ++ ending]] fs fs' ∧ fs'.locked = fs.locked ∧
      (fs.remove (path.withEnding ending) = .ok fs' ∨
        fs.remove (path.withEnding ending) = .error .notFound ∧ fs' = fs) := by
  have there := room.isPlain
  obtain ⟨found, leads, plain⟩ := room
  cases found with
  | none => exact ⟨fs, .stay there, rfl, .inr ⟨leads.remove_nothing, rfl⟩⟩
  | some stale =>
    have notDirectory : stale ≠ .directory := fun same => plain.ne_directory (congrArg some same)
    exact ⟨_, FileSystem.tame_withoutEntry there, rfl, .inl (leads.remove notDirectory)⟩

/-- Whether a path leads to a place where no device stands, and a second file can be written beside
it. -/
structure CatalogFile.Sits (path : Path) (directory : Place) (name : String) (fs : FileSystem) :
    Prop where
  leads : fs.Leads path directory name (fs.entryAt (directory ++ [name]))
  notDevice : ∀ number, fs.entryAt (directory ++ [name]) ≠ some (.device number)
  temp : fs.HasRoom path directory name ".tmp"

namespace CatalogFile

variable {file file' : CatalogFile}

theorem Sits.tame {places : List Place} (sits : Sits path directory name fs)
    (tame : Tame places fs fs') : Sits path directory name fs' := by
  refine ⟨tame.leads sits.leads, ?_, sits.temp.tame tame⟩
  intro number
  exact tame.ne_device (sits.notDevice number)

/-- Where both paths can be written a file and its second file sit side by side. -/
theorem sits_of_writable (main : fs.Writable path) (temp : fs.Writable (path.withEnding ".tmp")) :
    ∃ directory name, Sits path directory name fs ∧ IsPlain (fs.entryAt (directory ++ [name])) := by
  obtain ⟨_, found, looked, plain⟩ := main
  obtain ⟨_, directory, name, _, leads⟩ := FileSystem.leads_of_findToWrite looked
  obtain rfl := leads.entry
  refine ⟨directory, name, ⟨leads, fun number device => ?_, temp.hasRoom leads (by decide)⟩, plain⟩
  exact absurd (plain _ device) nofun

theorem Sits.isPlain (sits : Sits path directory name fs)
    (notDirectory : fs.entryAt (directory ++ [name]) ≠ some .directory) :
    IsPlain (fs.entryAt (directory ++ [name])) := by
  intro entry there
  cases entry with
  | directory => exact absurd there notDirectory
  | file number content => rfl
  | device number => exact absurd there (sits.notDevice number)

/-! ## Storing -/

theorem distinct_discarded (file : CatalogFile) (distinct : fs.Distinct) :
    (file.discarded fs).Distinct := by
  unfold discarded
  cases removed : fs.remove file.tempPath with
  | error fault => exact distinct
  | ok fs' => exact distinct.remove removed

/-- A replacement gives no directory two entries of one name. -/
theorem distinct_replaceAtomically (file : CatalogFile) (bytes : ByteArray) (distinct : fs.Distinct) :
    ((file.replaceAtomically bytes).runOn fs).2.Distinct := by
  rcases run : (file.replaceAtomically bytes).runOn fs with ⟨error | _, fs'⟩
  · rw [replaceAtomically, Disk.runOn_tryCatch] at run
    rcases attempt : (do file.writeTemp bytes; file.moveTemp).runOn fs with ⟨fault | _, fs₁⟩
    · simp only [attempt, Disk.runOn_bind, runOn_discardTemp, Disk.runOn_throw] at run
      cases run
      rcases written_of_error attempt with rfl | written
      · exact distinct_discarded file distinct
      · exact distinct_discarded file (distinct.write written)
    · rw [attempt] at run
      cases run
  · obtain ⟨written, wrote, moved⟩ := steps_of_replaceAtomically run
    obtain ⟨_, _, _, _, _, _, _, _, _, _, rfl⟩ := FileSystem.leads_of_rename moved
    exact ((distinct.write wrote).withoutEntry _).withEntry _ _

/-- Storing lists no place twice that was not listed twice before. -/
theorem distinct_store (file : CatalogFile) (c : Catalog) (distinct : fs.Distinct) :
    ((file.store c).runOn fs).2.Distinct := by
  rw [store]
  cases file.mode with
  | overwrite =>
    simp only [overwrite, Disk.runOn_change]
    cases wrote : fs.write file.path (c.encode file.style) with
    | error fault => exact distinct
    | ok written => exact distinct.write wrote
  | atomic => exact distinct_replaceAtomically file _ distinct

/-- What stands in the place of the second file after a catalog was stored. -/
def tempAfter (file : CatalogFile) (found : Option Entry) : Option Entry :=
  match file.mode with
  | .atomic => none
  | .overwrite => found

theorem isPlain_tempAfter (file : CatalogFile) {found : Option Entry} (plain : IsPlain found) :
    IsPlain (file.tempAfter found) := by
  unfold tempAfter
  split
  · exact FileSystem.isPlain_none
  · exact plain

/-- Storing over nothing or a file succeeds and lets files change only where the file and the second
file are. -/
theorem Sits.store (sits : Sits file.path directory name fs)
    (notDirectory : fs.entryAt (directory ++ [name]) ≠ some .directory) (c : Catalog) :
    ∃ fs' number, (file.store c).runOn fs = (.ok (), fs') ∧
      fs'.entryAt (directory ++ [name]) = some (.file number (c.encode file.style)) ∧
      fs'.entryAt (directory ++ [name ++ ".tmp"]) =
        file.tempAfter (fs.entryAt (directory ++ [name ++ ".tmp"])) ∧
      Tame [directory ++ [name], directory ++ [name ++ ".tmp"]] fs fs' ∧ fs'.locked = fs.locked := by
  have plain := sits.isPlain notDirectory
  obtain ⟨found, temp, tempPlain⟩ := sits.temp
  obtain ⟨fs', run, stored⟩ :=
    runOn_store sits.leads plain (fun _ => ⟨found, temp, tempPlain⟩) c
  obtain ⟨number, there⟩ := stored.content
  have frame : Frame [directory ++ [name], directory ++ [name ++ ".tmp"]] fs fs' := by
    refine stored.frame.mono fun place mem => ?_
    unfold places at mem
    split at mem
    · exact List.mem_cons.2 (.inl (List.mem_singleton.1 mem))
    · exact mem
  have beside : fs'.entryAt (directory ++ [name ++ ".tmp"]) =
      file.tempAfter (fs.entryAt (directory ++ [name ++ ".tmp"])) := by
    cases mode : file.mode with
    | atomic =>
      rw [stored.temp mode]
      simp only [tempAfter, mode]
    | overwrite =>
      have away : directory ++ [name ++ ".tmp"] ∉ file.places directory name := by
        simp [places, mode]
      rw [stored.frame.entryAt _ away]
      simp only [tempAfter, mode]
  refine ⟨fs', number, run, there.entry, beside, ⟨frame, ?_, ?_, ?_⟩, stored.locked⟩
  · simp only [List.forall_mem_cons, temp.entry]
    exact ⟨plain, tempPlain, nofun⟩
  · simp only [List.forall_mem_cons, there.entry, beside, temp.entry]
    exact ⟨FileSystem.isPlain_file number _, file.isPlain_tempAfter tempPlain, nofun⟩
  · intro distinct
    have kept := file.distinct_store c distinct
    rwa [run] at kept

/-- Storing over a directory fails, and at most the second file is gone afterwards. -/
theorem Sits.store_directory (sits : Sits file.path directory name fs)
    (isDirectory : fs.entryAt (directory ++ [name]) = some .directory) (c : Catalog) :
    ∃ fs', (file.store c).runOn fs = (.error (.io file.path.text .isDirectory), fs') ∧
      fs'.entryAt (directory ++ [name ++ ".tmp"]) =
        file.tempAfter (fs.entryAt (directory ++ [name ++ ".tmp"])) ∧
      Tame [directory ++ [name ++ ".tmp"]] fs fs' ∧ fs'.locked = fs.locked := by
  have leads := sits.leads
  rw [isDirectory] at leads
  obtain ⟨found, temp, plain⟩ :
    ∃ found, fs.Leads file.tempPath directory (name ++ ".tmp") found ∧ IsPlain found := sits.temp
  have before := sits.temp.isPlain
  rcases run : (file.store c).runOn fs with ⟨result, fs'⟩
  have distinct : fs.Distinct → fs'.Distinct := by
    intro distinct
    have kept := file.distinct_store c distinct
    rwa [run] at kept
  rw [CatalogFile.store] at run
  cases mode : file.mode with
  | overwrite =>
    have refused : fs.write file.path (c.encode file.style) = .error .isDirectory := by
      simp [FileSystem.write, FileSystem.findToWrite, leads.resolved, leads.lookup]
    simp only [mode, overwrite, Disk.runOn_change, refused] at run
    cases run
    refine ⟨fs, rfl, ?_, .stay before, rfl⟩
    simp only [tempAfter, mode]
  | atomic =>
    obtain ⟨written, number, wrote, there, frame, locked⟩ := temp.write plain (c.encode file.style)
    have apart : directory ++ [name] ∉ [directory ++ [name ++ ".tmp"]] := by
      simpa using (FileSystem.place_ne_self directory name (show ".tmp" ≠ "" by decide)).symm
    have leads₁ := leads.of_frame_of_not_mem frame
      (FileSystem.noDirectory_singleton temp plain.ne_directory) apart
    have refused : written.rename file.tempPath file.path = .error .isDirectory := by
      simp only [FileSystem.rename, there.resolved, leads₁.resolved, there.lookup, leads₁.lookup,
        ok_bind]
      rfl
    have removed : file.discarded written = written.withoutEntry (directory ++ [name ++ ".tmp"]) := by
      rw [discarded, there.remove (by simp)]
      rfl
    simp only [mode, replaceAtomically, writeTemp, moveTemp, Disk.runOn_tryCatch, Disk.runOn_bind,
      Disk.runOn_change, wrote, there.sync, refused, runOn_discardTemp, removed,
      Disk.runOn_throw] at run
    cases run
    have notRoot : directory ++ [name ++ ".tmp"] ≠ [] := by simp
    have gone := written.entryAt_withoutEntry_self directory (name ++ ".tmp")
    refine ⟨_, rfl, ?_,
      .of_frame (frame.trans (written.frame_withoutEntry notRoot)) before ?_ distinct, locked⟩
    · simp only [gone, tempAfter, mode]
    · rw [gone]
      exact FileSystem.isPlain_none

/-- Second files that were alike are alike after catalogs were stored in the same mode. -/
theorem tempAfter_alike {found found' : Option Entry} (sameMode : file'.mode = file.mode)
    (alike : EntryAlike same found found') :
    EntryAlike same (file.tempAfter found) (file'.tempAfter found') := by
  unfold tempAfter
  rw [sameMode]
  split
  · exact .nothing
  · exact alike

/-- Storing a catalog agrees with storing it by another mode and in another style, whatever stands in
the place of the second file on either side. Where that place is looked at the modes must be the
same. -/
theorem agree_store {c : Catalog} (samePath : file'.path = file.path) (alike : Alike same seen fs fs')
    (sits : Sits file.path directory name fs) (sits' : Sits file.path directory name fs')
    (sameMode : seen (directory ++ [name ++ ".tmp"]) → file'.mode = file.mode)
    (texts : same (c.encode file.style) (c.encode file'.style)) :
    Disk.Agree same excused seen (file.store c) (file'.store c) fs fs' := by
  rw [← samePath] at sits'
  by_cases isDirectory : fs.entryAt (directory ++ [name]) = some .directory
  · obtain ⟨fs₁, run, beside, tame, locked⟩ := sits.store_directory isDirectory c
    obtain ⟨fs₁', run', beside', tame', locked'⟩ :=
      sits'.store_directory (alike.keeps.directory _ isDirectory) c
    rw [samePath] at run'
    have after : Alike same seen fs₁ fs₁' := by
      refine alike.tame tame tame' fun place touched isSeen => ?_
      rw [List.mem_singleton, or_self] at touched
      subst touched
      rw [beside, beside']
      exact tempAfter_alike (sameMode isSeen) (alike.entries _ isSeen)
    exact ⟨_, _, fs₁, fs₁', run, run', .same _, after, ⟨_, tame⟩, ⟨_, tame'⟩, locked, locked'⟩
  · have notDirectory : fs'.entryAt (directory ++ [name]) ≠ some .directory :=
      fun there => isDirectory (alike.kept.directory _ there)
    obtain ⟨fs₁, number, run, there, beside, tame, locked⟩ := sits.store isDirectory c
    obtain ⟨fs₁', number', run', there', beside', tame', locked'⟩ := sits'.store notDirectory c
    have after : Alike same seen fs₁ fs₁' := by
      refine alike.tame tame tame' fun place touched isSeen => ?_
      rw [or_self] at touched
      rcases List.mem_cons.1 touched with rfl | temp
      · rw [there, there']
        exact .file texts
      · obtain rfl := List.mem_singleton.1 temp
        rw [beside, beside']
        exact tempAfter_alike (sameMode isSeen) (alike.entries _ isSeen)
    exact ⟨_, _, fs₁, fs₁', run, run', .same _, after, ⟨_, tame⟩, ⟨_, tame'⟩, locked, locked'⟩

/-! ## Loading -/

/-- A file that is looked at holds the same catalog in both, or none for the same reason. -/
theorem content_alike (samePath : file'.path = file.path) (alike : Alike same seen fs fs')
    (leads : fs.Leads file.path directory name (fs.entryAt (directory ++ [name])))
    (isSeen : seen (directory ++ [name]))
    (decodes : ∀ bytes bytes', same bytes bytes' →
      SameResult excused (file.decode bytes) (file.decode bytes')) :
    SameResult excused (file.content fs) (file'.content fs') := by
  have sameDecode : ∀ bytes, file'.decode bytes = file.decode bytes := by
    intro bytes
    rw [decode, decode, samePath]
  unfold content
  rw [samePath]
  rcases alike.read_cases leads isSeen with ⟨fault, read, read'⟩ | ⟨bytes, bytes', read, read', contents⟩
  · rw [read, read']
    exact .same _
  · rw [read, read']
    simp only [sameDecode]
    rcases contents with contents | rfl
    · exact decodes bytes bytes' contents
    · exact .same _

end CatalogFile

end DocStore
