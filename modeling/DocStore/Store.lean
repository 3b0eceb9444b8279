-- SUMMARY: Stores: the databases of one data directory, their creation, removal and listing.
import DocStore.Config

/-!
# Stores

A store is a data directory. Each database in it is one file named after it, and the configuration
file stands beside them. A handle of a database is given for a file that was just created or that
holds a catalog.
-/

namespace DocStore

/-- A data directory with the settings it was opened with. -/
structure Store where
  directory : Path
  config : Config
  writeMode : WriteMode
  options : DatabaseOptions
deriving Repr, Inhabited

namespace Store

def ending : String := ".json"

def makeDirectory (path : Path) : Disk Unit :=
  Disk.sequence path (FileSystem.makeDirectories path)

/-- The path from the root to a directory. -/
def canonical (path : Path) : Disk Path :=
  Disk.attempt path fun fs => do return (← fs.canonical path, fs)

/-- Open a data directory with given settings. -/
def openWith (directory : Path) (config : Config) : Disk Store := do
  let writeMode ← Disk.ofExcept config.writeMode?
  let options ← Disk.ofExcept config.databaseOptions
  makeDirectory directory
  let directory ← canonical directory
  return ⟨directory, config, writeMode, options⟩

/-- Open a data directory with the settings of its configuration file, which is written first if
there is none. -/
def openDirectory (directory : Path) : Disk Store := do
  makeDirectory directory
  let configPath := directory.child Config.fileName
  Config.writeStandardIfMissing configPath
  let config ← Config.readFile configPath
  openWith directory config

/-! ## Databases -/

def databasePath (store : Store) (name : String) : Except Error Path := do
  (Name.checkDatabase name).mapError (.invalidName name)
  return store.directory.child (name ++ ending)

def handle (store : Store) (name : String) (path : Path) : Database :=
  ⟨name, ⟨path, store.writeMode, Style.ofIndent store.config.pretty⟩, store.options⟩

def contains (store : Store) (name : String) : Disk Bool := do
  let path ← Disk.ofExcept (store.databasePath name)
  return (← get).isFile path

/-- The handle of a database whose file is there. -/
def existing (store : Store) (name : String) : Disk Database := do
  let path ← Disk.ofExcept (store.databasePath name)
  if (← get).isFile path then return store.handle name path
  else throw (.databaseNotFound name)

/-- Create a database without collections, in place of the one that was there. -/
def createDatabase (store : Store) (name : String) : Disk Database := do
  let path ← Disk.ofExcept (store.databasePath name)
  let db := store.handle name path
  db.reset Catalog.empty
  return db

/-- The handle of a database whose file holds a catalog. -/
def connect (store : Store) (name : String) : Disk Database := do
  let db ← store.existing name
  let _ ← db.collectionNames
  return db

/-- Remove a file, which need not be there. -/
def removeIfPresent (path : Path) : Disk Unit :=
  Disk.change path fun fs =>
    match fs.remove path with
    | .error .notFound => .ok fs
    | result => result

/-- Delete a database: its file, and then its lock file. -/
def deleteDatabase (store : Store) (name : String) : Disk Unit := do
  let db ← store.existing name
  db.removeFile
  removeIfPresent (FileLock.pathFor db.path)

/-- The database name that a file name stands for. -/
def nameOfFile? (fileName : String) : Option String :=
  if fileName.endsWith ending then
    let name := (fileName.dropEnd ending.length).toString
    match Name.checkDatabase name with
    | .ok () => some name
    | .error _ => none
  else none

/-- The names of the databases, in order. -/
def listDatabases (store : Store) : Disk (List String) :=
  Disk.attempt store.directory fun fs => do
    let names ← fs.list store.directory
    let databases := names.filter fun name => fs.isFile (store.directory.child name)
    return ((databases.filterMap nameOfFile?).mergeSort (fun a b => decide (a ≤ b)), fs)

end Store

end DocStore
