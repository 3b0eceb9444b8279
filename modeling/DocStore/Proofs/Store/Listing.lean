-- SUMMARY: The databases that are listed are those whose files are there, whatever else the directory holds.
import DocStore.Proofs.FileSystem.Alike
import DocStore.Proofs.Store
import Mathlib.Data.List.Nodup
import Mathlib.Data.List.Sort
import Mathlib.Data.String.Basic

/-!
# Listing databases

A directory is listed in no order that counts, and with files in it that are no databases. The names of
the databases come out in order, and each once. So the same names are listed in file systems that are
alike in what stands under the names of database files.
-/

namespace DocStore

namespace FileSystem

variable {fs fs' : FileSystem} {directory place : Place} {name : String}

theorem nameIn?_eq_some : nameIn? directory place = some name ↔ place = directory ++ [name] := by
  unfold nameIn?
  rcases List.eq_nil_or_concat place with rfl | ⟨init, last, rfl⟩
  · simp
  · simp only [List.concat_eq_append, List.getLast?_concat, List.dropLast_concat]
    constructor
    · intro h
      split at h
      · rename_i same
        cases h
        rw [same]
      · cases h
    · intro h
      obtain ⟨rfl, rfl⟩ := List.append_inj' h rfl |>.imp id List.singleton_inj.1
      simp

/-- The names in a directory, in the order in which the places stand. -/
def namesIn (fs : FileSystem) (directory : Place) : List String :=
  (Assoc.keys fs.entries).filterMap (nameIn? directory)

theorem list_eq {path : Path} (there : fs.find path = .ok (directory, .directory)) :
    fs.list path = .ok (fs.namesIn directory) := by
  simp [list, there, namesIn, Assoc.keys, List.filterMap_map]

/-- The names in a directory are those under which something stands there. -/
theorem mem_namesIn : name ∈ fs.namesIn directory ↔ fs.entryAt (directory ++ [name]) ≠ none := by
  have notRoot : directory ++ [name] ≠ [] := by simp
  rw [entryAt, if_neg notRoot, ne_eq, Assoc.get?_eq_none_iff, not_not, namesIn, List.mem_filterMap]
  constructor
  · rintro ⟨place, mem, named⟩
    rwa [nameIn?_eq_some.1 named] at mem
  · intro mem
    exact ⟨_, mem, nameIn?_eq_some.2 rfl⟩

theorem Distinct.nodup_namesIn (distinct : fs.Distinct) (directory : Place) :
    (fs.namesIn directory).Nodup := by
  refine List.Nodup.filterMap (fun place other name named named' => ?_) distinct
  rw [nameIn?_eq_some.1 named, nameIn?_eq_some.1 named']

end FileSystem

namespace Store

variable {fs fs' : FileSystem} {store store' : Store} {name fileName : String}

/-- A file that stands for a database is named after it. -/
theorem fileName_eq (h : nameOfFile? fileName = some name) : fileName = name ++ ending := by
  unfold nameOfFile? at h
  split at h
  · rename_i ends
    dsimp only at h
    split at h
    · cases h
      have suffix : ending.toList <:+ fileName.toList := by
        have ended := String.Slice.endsWith_string_iff.1 ends
        rwa [String.copy_toSlice] at ended
      obtain ⟨before, whole⟩ := suffix
      apply String.toList_inj.1
      change _ = ((fileName.dropEnd ending.length).copy ++ ending).toList
      rw [String.toList_append, String.toList_copy_dropEnd, ← whole, List.length_append,
        String.length_toList, Nat.add_sub_cancel, List.take_left]
    · cases h
  · cases h

/-- A file that does not end as a database file does stands at another place. -/
theorem place_ne {place other : Place} {another : String} {last : Char}
    (ends : another.toList.getLast? = some last) (differs : last ≠ 'n') :
    place ++ [name ++ ending] ≠ other ++ [fileName ++ another] := by
  intro same
  have names := List.singleton_inj.1 (List.append_inj' same rfl).2
  have lasts := congrArg (fun text : String => text.toList.getLast?) names
  simp [String.toList_append, List.getLast?_append, ends, ending] at lasts
  exact differs lasts.symm

/-- A path of a name in a directory ends in that name. -/
theorem getLast?_steps_child (directory : Path) (nonempty : fileName ≠ "") :
    (directory.child fileName).steps.getLast? = some fileName := by
  simp [Path.steps, Path.child, nonempty]

/-- The path of a database file leads to a file of that name, if it leads to a name at all. -/
theorem fileName_of_resolve {directory : Path} {place : Place} {slash : Bool}
    (resolved : fs.resolve (directory.child (name ++ ending)) = .ok (.named place fileName slash)) :
    fileName = name ++ ending := by
  obtain ⟨_, _, last, _⟩ := FileSystem.resolve_eq_named.1 resolved
  rw [getLast?_steps_child directory (show name ++ ending ≠ "" by simp [ending])] at last
  exact (Option.some.inj last).symm

/-- The databases of a directory, in no order. -/
def databasesIn (store : Store) (fs : FileSystem) (directory : Place) : List String :=
  ((fs.namesIn directory).filter fun name => fs.isFile (store.directory.child name)).filterMap
    nameOfFile?

/-- The list of a store has its databases in order. -/
theorem runOn_listDatabases {directory : Place}
    (there : fs.find store.directory = .ok (directory, .directory)) :
    store.listDatabases.runOn fs =
      (.ok ((store.databasesIn fs directory).mergeSort fun a b => decide (a ≤ b)), fs) := by
  rw [listDatabases, Disk.runOn_attempt, FileSystem.list_eq there]
  rfl

theorem nodup_databasesIn (distinct : fs.Distinct) (directory : Place) :
    (store.databasesIn fs directory).Nodup := by
  refine List.Nodup.filterMap (fun file other name named named' => ?_)
    ((distinct.nodup_namesIn directory).filter _)
  rw [fileName_eq named, fileName_eq named']

/-- Stores of one directory list the same databases in file systems that are alike. -/
theorem listDatabases_alike {same : ByteArray → ByteArray → Prop} {seen : Place → Prop}
    {directory : Place} (alike : FileSystem.Alike same seen fs fs') (distinct : fs.Distinct)
    (distinct' : fs'.Distinct) (sameDirectory : store'.directory = store.directory)
    (there : fs.find store.directory = .ok (directory, .directory))
    (seenFile : ∀ (place : Place) (name : String), seen (place ++ [name ++ ending])) :
    ∃ names, store.listDatabases.runOn fs = (.ok names, fs) ∧
      store'.listDatabases.runOn fs' = (.ok names, fs') := by
  have there' : fs'.find store'.directory = .ok (directory, .directory) := by
    rw [sameDirectory]
    exact alike.keeps.find_directory there
  refine ⟨_, runOn_listDatabases there, ?_⟩
  rw [runOn_listDatabases there']
  -- The same names are listed, each once, so in order they are the same list.
  have members : ∀ name, name ∈ store'.databasesIn fs' directory ↔ name ∈ store.databasesIn fs directory := by
    intro name
    simp only [databasesIn, List.mem_filterMap, List.mem_filter, FileSystem.mem_namesIn]
    refine exists_congr fun file => and_congr_left fun named => ?_
    obtain rfl := fileName_eq named
    have isFile : fs'.isFile (store'.directory.child (name ++ ending)) =
        fs.isFile (store.directory.child (name ++ ending)) := by
      rw [sameDirectory]
      refine alike.isFile_eq fun {place other _} resolved => ?_
      cases fileName_of_resolve resolved
      exact seenFile place name
    have entry := alike.entries _ (seenFile directory name)
    have present : fs'.entryAt (directory ++ [name ++ ending]) ≠ none ↔
        fs.entryAt (directory ++ [name ++ ending]) ≠ none := by
      generalize fs.entryAt _ = here at entry
      generalize fs'.entryAt _ = there at entry
      cases entry <;> simp
    rw [isFile, present]
  have perm := (List.perm_ext_iff_of_nodup (nodup_databasesIn distinct' directory)
    (nodup_databasesIn distinct directory)).2 members
  have sorted := ((List.mergeSort_perm _ _).trans (perm.trans (List.mergeSort_perm _ _).symm)).eq_of_pairwise'
    (List.pairwise_mergeSort' (· ≤ ·) (store'.databasesIn fs' directory))
    (List.pairwise_mergeSort' (· ≤ ·) (store.databasesIn fs directory))
  rw [sorted]

end Store

end DocStore
