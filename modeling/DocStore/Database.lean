-- SUMMARY: Handles of databases: each operation loads the catalog, works on it and stores it.
import DocStore.CatalogFile
import DocStore.FileLock
import DocStore.Operation

/-!
# Databases

A handle of a database knows its file and its settings, and nothing of the file's content: every
operation loads the catalog, applies a function to it and, if that changes something and succeeds,
stores the result. With the setting for it, the lock file is held meanwhile.
-/

namespace DocStore

/-- The settings of a database that are not about its file. -/
structure DatabaseOptions where
  idPolicy : IdPolicy
  enforceSchema : Bool
  lockFile : Bool
deriving DecidableEq, Repr, Inhabited

/-- A handle of a database. -/
structure Database where
  name : String
  file : CatalogFile
  options : DatabaseOptions
deriving Repr, Inhabited

namespace Database

def path (db : Database) : Path :=
  db.file.path

/-! ## Cycles -/

/-- Run a computation under the lock file, if the settings ask for it. -/
def locked {α : Type} (db : Database) (computation : Disk α) : Disk α :=
  if db.options.lockFile then FileLock.hold db.path computation else computation

/-- Load the catalog and answer from it. -/
def read {α : Type} (db : Database) (f : Catalog → Except Error α) : Disk α :=
  db.locked do
    let catalog ← db.file.load
    Disk.ofExcept (f catalog)

/-- Load the catalog, change it and store it. -/
def write {α : Type} (db : Database) (f : Catalog → Except Error (α × Catalog)) : Disk α :=
  db.locked do
    let catalog ← db.file.load
    let (answer, catalog) ← Disk.ofExcept (f catalog)
    db.file.store catalog
    return answer

/-- Store a catalog whatever the file holds. -/
def reset (db : Database) (catalog : Catalog) : Disk Unit :=
  db.locked (db.file.store catalog)

def removeFile (db : Database) : Disk Unit :=
  db.locked (Disk.change db.path fun fs => fs.remove db.path)

/-! ## Operations -/

def collectionNames (db : Database) : Disk (List String) :=
  db.read fun catalog => .ok catalog.names

def schema (db : Database) (collection : String) : Disk Schema :=
  db.read fun catalog => catalog.schemaOf collection

/-- Create a collection, in place of the one that was there. -/
def createCollection (db : Database) (collection : String) (schema : Schema) : Disk Unit := do
  Disk.ofExcept (Catalog.checkNewCollection db.options.enforceSchema collection schema)
  db.write fun catalog => .ok ((), catalog.createCollection collection schema)

def insert (db : Database) (collection : String) (fields : Object) : Disk Record :=
  db.write fun catalog =>
    catalog.insertRecord db.options.idPolicy db.options.enforceSchema collection fields

/-- The records that match a predicate, in order; all of them without one. -/
def select (db : Database) (collection : String) (p : Option Predicate) : Disk (List Record) :=
  db.read fun catalog => catalog.select collection p

/-- Delete the records that match a predicate, or all of them without one, and count them. -/
def delete (db : Database) (collection : String) (p : Option Predicate) : Disk Nat :=
  db.write fun catalog => catalog.deleteRecords collection p

/-- Merge a patch into the records that match a predicate, and count them. -/
def update (db : Database) (collection : String) (p : Option Predicate) (patch : Object) :
    Disk Nat :=
  db.write fun catalog => catalog.updateRecords db.options.enforceSchema collection p patch

end Database

end DocStore
