-- SUMMARY: An atomic replacement that is cut off leaves the old file or the new one, and nothing else that is seen.
import DocStore.Proofs.CatalogFile.Alike
import DocStore.Proofs.Database.Refinement
import DocStore.Proofs.Store.Listing
import Mathlib.Logic.Relation

/-!
# Replacements that are cut off

An atomic replacement creates or truncates the second file, writes the bytes to it piece by piece,
brings it to the disk and moves it over the first. It can be cut off after any of these steps. The first
file then holds what it held before or all of the bytes: only the last step touches it, and by then the
second file holds all of them.

What a cut leaves in the place of the second file is not seen later. Loading does not look at it,
storing writes over it, and its name is not one of a database.
-/

namespace DocStore

open FileSystem (Alike Frame IsPlain Tame)

namespace CatalogFile

/-! ## The steps of a replacement -/

/-- How far an atomic replacement has come. -/
inductive Progress where
  | begun
  /-- The second file is open, and these bytes are still to be written. -/
  | writing (rest : ByteArray)
  /-- The second file is on the disk. -/
  | synced
  | moved

/-- The steps of an atomic replacement by given bytes. -/
inductive Replacing (file : CatalogFile) (bytes : ByteArray) :
    Progress × FileSystem → Progress × FileSystem → Prop
  | create {fs fs' : FileSystem} (truncated : fs.write file.tempPath .empty = .ok fs') :
      Replacing file bytes (.begun, fs) (.writing bytes, fs')
  /-- A piece is added to what the second file holds. -/
  | write {fs fs' : FileSystem} {held piece rest : ByteArray}
      (holds : fs.read file.tempPath = .ok held)
      (added : fs.write file.tempPath (held ++ piece) = .ok fs') :
      Replacing file bytes (.writing (piece ++ rest), fs) (.writing rest, fs')
  | sync {fs fs' : FileSystem} (synced : fs.sync file.tempPath = .ok fs') :
      Replacing file bytes (.writing .empty, fs) (.synced, fs')
  | move {fs fs' : FileSystem} (moved : fs.rename file.tempPath file.path = .ok fs') :
      Replacing file bytes (.synced, fs) (.moved, fs')

/-- What a replacement can have come to when it is cut off. -/
abbrev CutOff (file : CatalogFile) (bytes : ByteArray) :
    Progress × FileSystem → Progress × FileSystem → Prop :=
  Relation.ReflTransGen (Replacing file bytes)

variable {file : CatalogFile} {bytes : ByteArray} {fs fs' s s' : FileSystem}
variable {directory : Place} {name : String}

/-- What a cut leaves: what was there, a second file with the bytes that were written so far, or what
the whole replacement leaves. -/
def Leaves (file : CatalogFile) (bytes : ByteArray) (fs : FileSystem) : Progress × FileSystem → Prop
  | (.begun, s) => s = fs
  | (.writing rest, s) => ∃ held, held ++ rest = bytes ∧ fs.write file.tempPath held = .ok s
  | (.synced, s) => fs.write file.tempPath bytes = .ok s
  | (.moved, s) => (file.replaceAtomically bytes).runOn fs = (.ok (), s)

/-- What was written to the second file is what it holds. -/
theorem Sits.leads_temp (sits : Sits file.path directory name fs) {held : ByteArray}
    (written : fs.write file.tempPath held = .ok s) :
    ∃ number, s.Leads file.tempPath directory (name ++ ".tmp") (some (.file number held)) := by
  obtain ⟨found, temp, plain⟩ := sits.temp
  obtain ⟨_, number, wrote, there, _⟩ := temp.write plain held
  cases wrote.symm.trans written
  exact ⟨number, there⟩

/-- One step of a replacement leaves the old content or puts the whole new one in its place. -/
theorem Leaves.step (sits : Sits file.path directory name fs) {state next : Progress × FileSystem}
    (leaves : file.Leaves bytes fs state) (step : file.Replacing bytes state next) :
    file.Leaves bytes fs next := by
  obtain ⟨found, temp, plain⟩ :
    ∃ found, fs.Leads file.tempPath directory (name ++ ".tmp") found ∧ IsPlain found := sits.temp
  cases step with
  | create truncated =>
    cases leaves
    exact ⟨.empty, ByteArray.empty_append, truncated⟩
  | @write _ _ held piece rest holds added =>
    obtain ⟨before, whole, written⟩ := leaves
    obtain ⟨number, there⟩ := sits.leads_temp written
    cases there.read.symm.trans holds
    refine ⟨held ++ piece, ?_, ?_⟩
    · rw [ByteArray.append_assoc]
      exact whole
    · rw [← FileSystem.write_write temp plain written]
      exact added
  | sync synced =>
    obtain ⟨held, whole, written⟩ := leaves
    rw [ByteArray.append_empty] at whole
    cases sync_ok synced
    rw [← whole]
    exact written
  | move moved =>
    obtain ⟨number, there⟩ := sits.leads_temp leaves
    have written : fs.write file.tempPath bytes = .ok _ := leaves
    simp only [Leaves, replaceAtomically, writeTemp, moveTemp, Disk.runOn_tryCatch, Disk.runOn_bind,
      Disk.runOn_change, written, there.sync, moved]

/-- Wherever a replacement is cut off, the old content or the whole new one is there. -/
theorem leaves_of_cutOff (sits : Sits file.path directory name fs) {state : Progress × FileSystem}
    (cut : file.CutOff bytes (.begun, fs) state) : file.Leaves bytes fs state := by
  induction cut with
  | refl => exact rfl
  | tail _ step ih => exact ih.step sits step

/-- Storing atomically goes through these steps, and whoever goes through all of them comes to what
storing leaves. -/
theorem cutOff_moved_iff {c : Catalog} (atomic : file.mode = .atomic)
    (sits : Sits file.path directory name fs) :
    file.CutOff (c.encode file.style) (.begun, fs) (.moved, s) ↔
      (file.store c).runOn fs = (.ok (), s) := by
  simp only [store, atomic]
  refine ⟨leaves_of_cutOff sits, fun run => ?_⟩
  generalize c.encode file.style = bytes at run
  obtain ⟨found, temp, plain⟩ :
    ∃ found, fs.Leads file.tempPath directory (name ++ ".tmp") found ∧ IsPlain found := sits.temp
  obtain ⟨written, wrote, moved⟩ := steps_of_replaceAtomically run
  obtain ⟨created, _, truncated, there, _⟩ := temp.write plain .empty
  obtain ⟨number, holds⟩ := sits.leads_temp wrote
  have all : file.Replacing bytes (.writing (bytes ++ .empty), created) (.writing .empty, written) := by
    refine .write there.read ?_
    rw [ByteArray.empty_append, FileSystem.write_write temp plain truncated]
    exact wrote
  rw [ByteArray.append_empty] at all
  exact .head (.create truncated) <| .head all <| .head (.sync holds.sync) <| .single (.move moved)

/-! ## The first file -/

/-- Writing the second file changes its own place only. -/
theorem Sits.tame_temp (sits : Sits file.path directory name fs) {held : ByteArray}
    (written : fs.write file.tempPath held = .ok s) : Tame [directory ++ [name ++ ".tmp"]] fs s := by
  have before := sits.temp.isPlain
  obtain ⟨found, temp, plain⟩ := sits.temp
  obtain ⟨_, number, wrote, there, frame, _⟩ := temp.write plain held
  cases wrote.symm.trans written
  refine .of_frame frame before ?_ fun distinct => distinct.write written
  rw [there.entry]
  exact FileSystem.isPlain_file number held

/-- While the second file is written the first one can be read as before. -/
theorem Sits.read_of_temp (sits : Sits file.path directory name fs) {held : ByteArray}
    (written : fs.write file.tempPath held = .ok s) : s.read file.path = fs.read file.path := by
  obtain ⟨found, temp, plain⟩ := sits.temp
  have found : s.find file.path = fs.find file.path :=
    FileSystem.find_of_beside (by decide) temp plain.ne_directory (sits.tame_temp written).frame
  rw [FileSystem.read, FileSystem.read, found]

/-- What a cut leaves: files come and go in the places of the two files only, and the first one holds
what it held before or all of the new text. -/
theorem Leaves.read {c : Catalog} {state : Progress × FileSystem} (atomic : file.mode = .atomic)
    (sits : Sits file.path directory name fs) (plain : IsPlain (fs.entryAt (directory ++ [name])))
    (leaves : file.Leaves (c.encode file.style) fs state) :
    (∃ places, Tame places fs state.2) ∧
      (state.2.read file.path = fs.read file.path ∨
        state.2.read file.path = .ok (c.encode file.style)) := by
  obtain ⟨progress, s⟩ := state
  cases progress with
  | begun =>
    cases leaves
    exact ⟨⟨[], .refl fs⟩, .inl rfl⟩
  | writing rest =>
    obtain ⟨held, _, written⟩ := leaves
    exact ⟨⟨_, sits.tame_temp written⟩, .inl (sits.read_of_temp written)⟩
  | synced => exact ⟨⟨_, sits.tame_temp leaves⟩, .inl (sits.read_of_temp leaves)⟩
  | moved =>
    obtain ⟨_, number, stored, there, _, tame, _⟩ := sits.store plain.ne_directory c
    simp only [CatalogFile.store, atomic] at stored
    cases stored.symm.trans leaves
    have leads := tame.leads sits.leads
    rw [there] at leads
    exact ⟨⟨_, tame⟩, .inr leads.read⟩

/-! ## What is left beside it -/

/-- Discarding the second file takes away no more than it. -/
theorem Sits.tame_discarded (sits : Sits file.path directory name fs) :
    Tame [directory ++ [name ++ ".tmp"]] fs (file.discarded fs) := by
  obtain ⟨fs₁, tame, _, removed⟩ := sits.temp.remove
  have goes : file.discarded fs = fs₁ := by
    rcases removed with removed | ⟨absent, rfl⟩
    · rw [discarded, tempPath, removed]
      rfl
    · rw [discarded, tempPath, absent]
      rfl
  rw [goes]
  exact tame

/-- Whether a catalog file can be loaded and stored, and stands elsewhere. -/
def Avoids (file : CatalogFile) (place : Place) (fs : FileSystem) : Prop :=
  ∃ directory name, Sits file.path directory name fs ∧ directory ++ [name] ≠ place

theorem Avoids.tame {place : Place} {places : List Place} (avoids : file.Avoids place fs)
    (tame : Tame places fs fs') : file.Avoids place fs' := by
  obtain ⟨directory, name, sits, elsewhere⟩ := avoids
  exact ⟨directory, name, sits.tame tame, elsewhere⟩

/-- A file does not stand where its second file does. -/
theorem Sits.avoids (sits : Sits file.path directory name fs) :
    file.Avoids (directory ++ [name ++ ".tmp"]) fs :=
  ⟨directory, name, sits, (FileSystem.place_ne_self directory name (by decide)).symm⟩

/-- A use of a catalog file, or of a store. -/
inductive Deed where
  | load (file : CatalogFile)
  | store (file : CatalogFile) (c : Catalog)
  | list (home : Store)

/-- What a use gives. -/
inductive Outcome where
  | catalog (c : Catalog)
  | stored
  | names (names : List String)

namespace Deed

def run : Deed → Disk Outcome
  | .load file => .catalog <$> file.load
  | .store file c => (fun _ => .stored) <$> file.store c
  | .list home => .names <$> home.listDatabases

/-- Whether a use is of a file that avoids a place, or of a store whose directory is there. -/
def Avoids (place : Place) (fs : FileSystem) : Deed → Prop
  | .load file => file.Avoids place fs
  | .store file _ => file.Avoids place fs
  | .list home => ∃ directory, fs.find home.directory = .ok (directory, .directory)

/-- What some uses give, one after another, and what the file holds after each. -/
def observe (path : Path) :
    List Deed → FileSystem → List (Except Error Outcome × Except IoFault ByteArray)
  | [], _ => []
  | deed :: deeds, fs =>
    ((deed.run.runOn fs).1, (deed.run.runOn fs).2.read path) :: observe path deeds (deed.run.runOn fs).2

variable {path : Path} {deed : Deed}

theorem Avoids.tame {place : Place} {places : List Place} (avoids : deed.Avoids place fs)
    (tame : Tame places fs fs') : deed.Avoids place fs' := by
  cases deed with
  | load file => exact CatalogFile.Avoids.tame avoids tame
  | store file c => exact CatalogFile.Avoids.tame avoids tame
  | list home =>
    obtain ⟨directory, there⟩ := avoids
    exact ⟨directory, tame.keeps.find_directory there⟩

end Deed

/-- Two file systems that differ at most in what stands at one place, under the name of a second
file. -/
structure Twins (directory : Place) (name : String) (s s' : FileSystem) : Prop where
  alike : Alike Eq (· ≠ directory ++ [name ++ ".tmp"]) s s'
  distinct : s.Distinct
  distinct' : s'.Distinct

variable {path : Path} {deed : Deed}

/-- What is read at another place is the same in both. -/
theorem Twins.read_eq {other : Place} {file : String} {found : Option Entry}
    (twins : Twins directory name s s') (leads : s.Leads path other file found)
    (elsewhere : other ++ [file] ≠ directory ++ [name ++ ".tmp"]) : s.read path = s'.read path := by
  obtain rfl := leads.entry
  rcases twins.alike.read_cases leads elsewhere with
    ⟨fault, read, read'⟩ | ⟨bytes, bytes', read, read', contents⟩
  · rw [read, read']
  · rw [read, read', or_self_iff.1 contents]

/-- Every use that avoids that place agrees with itself. -/
theorem Twins.agree (twins : Twins directory name s s')
    (avoids : deed.Avoids (directory ++ [name ++ ".tmp"]) s)
    (avoids' : deed.Avoids (directory ++ [name ++ ".tmp"]) s') :
    Disk.Agree Eq (fun _ _ => False) (· ≠ directory ++ [name ++ ".tmp"]) deed.run deed.run s s' := by
  cases deed with
  | load file =>
    obtain ⟨_, _, sits, elsewhere⟩ := avoids
    have content : SameResult (fun _ _ => False) (file.content s) (file.content s') := by
      refine content_alike rfl twins.alike sits.leads elsewhere fun bytes bytes' same => ?_
      rw [same]
      exact .same _
    exact Disk.Agree.map
      (.of_unchanged twins.alike content (file.runOn_load s) (file.runOn_load s')) _
  | store file c =>
    obtain ⟨_, _, sits, elsewhere⟩ := avoids
    obtain ⟨_, _, sits', _⟩ := avoids'
    cases sits'.leads.resolved.symm.trans (twins.alike.keeps.resolve sits.leads.resolved)
    exact (agree_store rfl twins.alike sits sits' (fun _ => rfl) rfl).map _
  | list home =>
    obtain ⟨_, there⟩ := avoids
    obtain ⟨names, run, run'⟩ := Store.listDatabases_alike twins.alike twins.distinct twins.distinct'
      rfl there fun _ _ => Store.place_ne rfl (by decide)
    exact Disk.Agree.map (.of_unchanged twins.alike (.same _) run run') _

/-- After a replacement that was cut off all further deeds see what they would have seen without
it. -/
theorem Twins.observe_eq (twins : Twins directory name s s') {deeds : List Deed}
    (sits : Sits path directory name s)
    (avoids : ∀ deed ∈ deeds, deed.Avoids (directory ++ [name ++ ".tmp"]) s)
    (avoids' : ∀ deed ∈ deeds, deed.Avoids (directory ++ [name ++ ".tmp"]) s') :
    Deed.observe path deeds s = Deed.observe path deeds s' := by
  induction deeds generalizing s s' with
  | nil => rfl
  | cons deed deeds ih =>
    obtain ⟨first, rest⟩ := List.forall_mem_cons.1 avoids
    obtain ⟨first', rest'⟩ := List.forall_mem_cons.1 avoids'
    obtain ⟨result, result', s₁, s₁', run, run', results, alike, ⟨_, tame⟩, ⟨_, tame'⟩, _⟩ :=
      twins.agree first first'
    obtain rfl := results.eq_of_none
    have after : Twins directory name s₁ s₁' :=
      ⟨alike, tame.distinct twins.distinct, tame'.distinct twins.distinct'⟩
    have read := after.read_eq (sits.tame tame).leads
      (FileSystem.place_ne_self directory name (by decide)).symm
    have later := ih after (sits.tame tame) (fun deed mem => (rest deed mem).tame tame)
      fun deed mem => (rest' deed mem).tame tame'
    simp only [Deed.observe, run, run', read, later]

/-- What a cut leaves in the place of the second file is not seen by any use that avoids that place. -/
theorem observe_discarded (sits : Sits file.path directory name fs) (distinct : fs.Distinct)
    {deeds : List Deed} (avoids : ∀ deed ∈ deeds, deed.Avoids (directory ++ [name ++ ".tmp"]) fs) :
    Deed.observe file.path deeds fs = Deed.observe file.path deeds (file.discarded fs) := by
  have gone := sits.tame_discarded
  have alike : Alike Eq (· ≠ directory ++ [name ++ ".tmp"]) fs (file.discarded fs) := by
    refine (Alike.refl (fun _ => rfl) _ fs).tame (.refl _) gone fun place touched isSeen => ?_
    rcases touched with none | temp
    · cases none
    · exact absurd (List.mem_singleton.1 temp) isSeen
  have twins : Twins directory name fs (file.discarded fs) := ⟨alike, distinct, gone.distinct distinct⟩
  exact twins.observe_eq sits avoids fun deed mem => (avoids deed mem).tame gone

/-- Storing atomically is a sequence of steps. Cut off after any of them it leaves in the file exactly
what it held or exactly the whole new text, whatever an earlier run left in the place of the second
file. From there on every use of this or another catalog file and every listing gives what it gives when
the second file is not there. -/
theorem crash_safe {c : Catalog} {beside : Place} {found : Option Entry} (atomic : file.mode = .atomic)
    (distinct : fs.Distinct) (main : fs.Writable file.path)
    (temp : fs.findToWrite file.tempPath = .ok (beside, found)) (plain : IsPlain found) :
    (∀ s, file.CutOff (c.encode file.style) (.begun, fs) (.moved, s) ↔
      (file.store c).runOn fs = (.ok (), s)) ∧
    (∀ other : CatalogFile, other.path = file.path → other.Avoids beside fs) ∧
    ∀ state, file.CutOff (c.encode file.style) (.begun, fs) state →
      (state.2.read file.path = fs.read file.path ∨
        state.2.read file.path = .ok (c.encode file.style)) ∧
      ∀ deeds : List Deed, (∀ deed ∈ deeds, deed.Avoids beside fs) →
        Deed.observe file.path deeds state.2 =
          Deed.observe file.path deeds (file.discarded state.2) := by
  obtain ⟨directory, name, sits, mainPlain⟩ := sits_of_writable main ⟨beside, found, temp, plain⟩
  obtain ⟨_, _, _, rfl, leads⟩ := FileSystem.leads_of_findToWrite temp
  cases FileSystem.resolve_withEnding sits.leads.resolved (by decide) leads.resolved
  refine ⟨fun s => cutOff_moved_iff atomic sits, fun other same => ?_, fun state cut => ?_⟩
  · rw [← same] at sits
    exact sits.avoids
  · obtain ⟨⟨_, tame⟩, content⟩ := (leaves_of_cutOff sits cut).read atomic sits mainPlain
    refine ⟨content, fun deeds avoids => ?_⟩
    exact observe_discarded (sits.tame tame) (tame.distinct distinct) fun deed mem =>
      (avoids deed mem).tame tame

end CatalogFile

/-- The file system of the sample with a second file that an earlier replacement left. -/
def FileSystem.littered : FileSystem :=
  FileSystem.sample.withNewFile ["home", "notes.json.tmp"] "\x7b".toUTF8

namespace CatalogFile

/-- Loading what a cut left, listing it, storing over it and loading it again. -/
def Deed.samples : List Deed :=
  [.load Database.sample.file, .list Store.sample, .store Database.sample.file Catalog.empty,
    .load Database.sample.file]

/-- A replacement can be cut off with half of the second file written, and the sample file is
whole. -/
theorem crash_safe_halfWritten : ∃ rest s,
    Database.sample.file.CutOff (Catalog.empty.encode .indented) (.begun, .littered)
      (.writing rest, s) ∧
    s.read Database.sample.file.tempPath = .ok ((Catalog.empty.encode .indented).extract 0 2) ∧
    (s.read Database.sample.path = FileSystem.littered.read Database.sample.path ∨
      s.read Database.sample.path = .ok (Catalog.empty.encode .indented)) ∧
    Deed.observe Database.sample.path Deed.samples s =
      Deed.observe Database.sample.path Deed.samples (Database.sample.file.discarded s) := by
  generalize text : Catalog.empty.encode .indented = bytes
  have whole : bytes.extract 0 2 ++ bytes.extract 2 bytes.size = bytes := by
    rw [ByteArray.extract_append_extract]
    simp
  have temp : FileSystem.littered.Leads Database.sample.file.tempPath ["home"] "notes.json.tmp"
      (some (.file 1 "\x7b".toUTF8)) := ⟨rfl, by decide, rfl⟩
  obtain ⟨created, _, truncated, empty, _⟩ := temp.write (FileSystem.isPlain_file _ _) .empty
  obtain ⟨half, _, added, holds, _⟩ :=
    empty.write (FileSystem.isPlain_file _ _) (.empty ++ bytes.extract 0 2)
  have write : Database.sample.file.Replacing bytes
      (.writing (bytes.extract 0 2 ++ bytes.extract 2 bytes.size), created)
      (.writing (bytes.extract 2 bytes.size), half) := .write empty.read added
  rw [whole] at write
  have cut : Database.sample.file.CutOff bytes (.begun, .littered) _ :=
    .head (.create truncated) (.single write)
  rw [ByteArray.empty_append] at holds
  have main : FileSystem.littered.Writable Database.sample.file.path :=
    ⟨_, _, rfl, FileSystem.isPlain_file _ _⟩
  subst text
  obtain ⟨_, avoids, safe⟩ :=
    crash_safe rfl (by decide +kernel) main rfl (FileSystem.isPlain_file _ _)
  obtain ⟨content, unseen⟩ := safe _ cut
  have own := avoids Database.sample.file rfl
  have all : ∀ deed ∈ Deed.samples, deed.Avoids ["home", "notes.json.tmp"] .littered := by
    simp only [Deed.samples, List.forall_mem_cons]
    exact ⟨own, ⟨["home"], rfl⟩, own, own, List.forall_mem_nil _⟩
  exact ⟨_, half, cut, holds.read, content, unseen _ all⟩

end CatalogFile

end DocStore
