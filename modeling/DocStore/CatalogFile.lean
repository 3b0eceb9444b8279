-- SUMMARY: One database file: loading its catalog, and replacing it in place or by way of a second file.
import DocStore.Disk

/-!
# Catalog files

A database is one file that holds a whole catalog. Loading reads all of it, and storing replaces all
of it. In place, the file is truncated and written. Atomically, a second file beside it is written
and then moved over it, so that at every moment the path holds either the old content or the new
one. If that fails the second file is removed again.
-/

namespace DocStore

/-- How a file is replaced. -/
inductive WriteMode where
  | atomic
  | overwrite
deriving DecidableEq, Repr, Inhabited

namespace WriteMode

def name : WriteMode → String
  | .atomic => "atomic"
  | .overwrite => "overwrite"

/-- All modes, in the order in which they are listed to a user. -/
def all : List WriteMode := [.atomic, .overwrite]

def ofName? (word : String) : Option WriteMode :=
  all.find? (fun mode => mode.name == word)

end WriteMode

/-- A database file and how it is written. -/
structure CatalogFile where
  path : Path
  mode : WriteMode
  style : Style
deriving Repr, Inhabited

namespace CatalogFile

/-- The path of the second file that an atomic replacement writes. -/
def tempPath (file : CatalogFile) : Path :=
  file.path.withEnding ".tmp"

def isPresent (file : CatalogFile) (fs : FileSystem) : Bool :=
  fs.isFile file.path

/-- The catalog that bytes read from the file hold, or the error that they hold none. -/
def decode (file : CatalogFile) (bytes : ByteArray) : Except Error Catalog :=
  (Catalog.decode bytes).mapError fun problem =>
    .corruptCatalog file.path.text (.undecodable problem bytes)

/-- The catalog in the file, or why there is none. -/
def content (file : CatalogFile) (fs : FileSystem) : Except Error Catalog :=
  match fs.read file.path with
  | .error fault => .error (.corruptCatalog file.path.text (.unreadable fault))
  | .ok bytes => file.decode bytes

def load (file : CatalogFile) : Disk Catalog := do
  Disk.ofExcept (file.content (← get))

def overwrite (file : CatalogFile) (bytes : ByteArray) : Disk Unit :=
  Disk.change file.path fun fs => fs.write file.path bytes

/-- Remove the second file, if it is there. -/
def discardTemp (file : CatalogFile) : Disk Unit :=
  Disk.attemptQuietly fun fs => fs.remove file.tempPath

def writeTemp (file : CatalogFile) (bytes : ByteArray) : Disk Unit := do
  Disk.change file.tempPath fun fs => fs.write file.tempPath bytes
  Disk.change file.tempPath fun fs => fs.sync file.tempPath

def moveTemp (file : CatalogFile) : Disk Unit :=
  Disk.change file.path fun fs => fs.rename file.tempPath file.path

/-- Replace the file by way of a second one. -/
def replaceAtomically (file : CatalogFile) (bytes : ByteArray) : Disk Unit :=
  tryCatch (do file.writeTemp bytes; file.moveTemp) fun error => do
    file.discardTemp
    throw error

def store (file : CatalogFile) (catalog : Catalog) : Disk Unit :=
  let bytes := catalog.encode file.style
  match file.mode with
  | .overwrite => file.overwrite bytes
  | .atomic => file.replaceAtomically bytes

end CatalogFile

end DocStore
