-- SUMMARY: Running the operations of a store: what creating, connecting and deleting come to on one file system.
import DocStore.Proofs.CatalogFile
import DocStore.Store

/-!
# Running the operations of a store

A name that no database may have is refused before anything is looked at. With any other name,
creating is a reset of the handle, and connecting is listing the collections through the handle once
the file is seen to be there. Deleting looks for the file too, and then removes it and its lock file.
-/

namespace DocStore.Store

variable (store : Store) (name : String) (fs : FileSystem)

theorem runOn_existing :
    (store.existing name).runOn fs =
      (match store.databasePath name with
        | .error error => .error error
        | .ok path =>
          if fs.isFile path then .ok (store.handle name path) else .error (.databaseNotFound name),
        fs) := by
  rw [existing, Disk.runOn_bind, Disk.runOn_ofExcept]
  cases store.databasePath name with
  | error error => rfl
  | ok path =>
    simp only [Disk.runOn_bind]
    change (if fs.isFile path then _ else _ : Disk Database).runOn fs = _
    split <;> rfl

theorem runOn_createDatabase :
    (store.createDatabase name).runOn fs =
      match store.databasePath name with
      | .error error => (.error error, fs)
      | .ok path =>
        ((fun _ => store.handle name path) <$> (store.handle name path).reset Catalog.empty).runOn
          fs := by
  rw [createDatabase, Disk.runOn_bind, Disk.runOn_ofExcept]
  cases store.databasePath name with
  | error error => rfl
  | ok path => simp only [map_eq_pure_bind]

theorem runOn_connect :
    (store.connect name).runOn fs =
      match store.databasePath name with
      | .error error => (.error error, fs)
      | .ok path =>
        if fs.isFile path then
          ((fun _ => store.handle name path) <$> (store.handle name path).collectionNames).runOn fs
        else (.error (.databaseNotFound name), fs) := by
  rw [connect, Disk.runOn_bind, runOn_existing]
  cases store.databasePath name with
  | error error => rfl
  | ok path =>
    by_cases isFile : fs.isFile path
    · simp only [if_pos isFile, map_eq_pure_bind]
    · simp only [if_neg isFile]

theorem runOn_deleteDatabase :
    (store.deleteDatabase name).runOn fs =
      match store.databasePath name with
      | .error error => (.error error, fs)
      | .ok path =>
        if fs.isFile path then
          (do (store.handle name path).removeFile
              removeIfPresent (FileLock.pathFor path) : Disk Unit).runOn fs
        else (.error (.databaseNotFound name), fs) := by
  rw [deleteDatabase, Disk.runOn_bind, runOn_existing]
  cases store.databasePath name with
  | error error => rfl
  | ok path =>
    by_cases isFile : fs.isFile path
    · simp only [if_pos isFile]
      rfl
    · simp only [if_neg isFile]

end DocStore.Store
