-- SUMMARY: File systems as values: directories, files, advisory locks, and the primitive steps on them.
import DocStore.Assoc
import DocStore.Path

/-!
# File systems

A file system is a value: what stands at each place below the root, the directory in which the
program works, and the files that carry an exclusive lock. Each primitive step is a function from
one file system to the next, or a fault that leaves it as it is; programs on files are sequences of
these steps.

A step follows a path when it is taken: every part but the last must lead to a directory, and what
the last one has to be depends on the step. A path that ends in a slash names a directory, and one
that ends in no name (`.`, `..` or the root) does so too.

A lock belongs to a file, not to its place: a file has a number of its own, given when it is
created, and a file created anew at the same place has another number and so another lock.
-/

namespace DocStore

/-- Why a step on a file system fails. -/
inductive IoFault where
  | notFound
  | busy
  | alreadyExists
  | notDirectory
  | isDirectory
  | invalidArgument
  | nameTooLong
  /-- A path with a character that no path can have. -/
  | zeroByte
deriving DecidableEq, Repr

/-- What is said of a step that failed. -/
def IoFault.message : IoFault → String
  | .notFound => "No such file or directory (os error 2)"
  | .busy => "Device or resource busy (os error 16)"
  | .alreadyExists => "File exists (os error 17)"
  | .notDirectory => "Not a directory (os error 20)"
  | .isDirectory => "Is a directory (os error 21)"
  | .invalidArgument => "Invalid argument (os error 22)"
  | .nameTooLong => "File name too long (os error 36)"
  | .zeroByte => "file name contained an unexpected NUL byte"

/-- A place: the names that lead to it from the root. -/
abbrev Place := List String

/-- What stands at a place. -/
inductive Entry where
  | directory
  /-- A file: its number and its content. -/
  | file (number : Nat) (content : ByteArray)
  /-- A device, which takes every content and has none. -/
  | device (number : Nat)
deriving Inhabited

def Entry.isDirectory : Entry → Bool
  | .directory => true
  | _ => false

def Entry.isFile : Entry → Bool
  | .file _ _ => true
  | _ => false

/-- A file system. The root directory itself is always there. -/
structure FileSystem where
  workingDirectory : Place
  entries : List (Place × Entry)
  /-- The number of the next file to be created. -/
  nextNumber : Nat
  /-- The numbers of the files that carry an exclusive lock. -/
  locked : List Nat
deriving Inhabited

namespace FileSystem

/-- The file system with nothing in it but a working directory and the way to it. -/
def empty (workingDirectory : Place) : FileSystem where
  workingDirectory
  entries := (List.range workingDirectory.length).map fun n =>
    (workingDirectory.take (n + 1), .directory)
  nextNumber := 0
  locked := []

def entryAt (fs : FileSystem) (place : Place) : Option Entry :=
  if place = [] then some .directory else Assoc.get? place fs.entries

def withEntry (fs : FileSystem) (place : Place) (entry : Entry) : FileSystem :=
  { fs with entries := Assoc.set place entry fs.entries }

def withoutEntry (fs : FileSystem) (place : Place) : FileSystem :=
  { fs with entries := Assoc.erase place fs.entries }

def withNewFile (fs : FileSystem) (place : Place) (content : ByteArray) : FileSystem :=
  { fs.withEntry place (.file fs.nextNumber content) with nextNumber := fs.nextNumber + 1 }

/-! ## Following paths -/

def maxNameSize : Nat := 255

def maxPathSize : Nat := 4095

/-- What stands under a name in a directory. -/
def lookup (fs : FileSystem) (directory : Place) (name : String) : Except IoFault (Option Entry) :=
  if maxNameSize < name.utf8ByteSize then .error .nameTooLong
  else .ok (fs.entryAt (directory ++ [name]))

/-- Follow a part of a path that leads to a directory. -/
def enter (fs : FileSystem) (directory : Place) (step : String) : Except IoFault Place :=
  if step == Path.here then .ok directory
  else if step == Path.above then .ok directory.dropLast
  else
    match fs.lookup directory step with
    | .ok (some .directory) => .ok (directory ++ [step])
    | .ok (some _) => .error .notDirectory
    | .ok none => .error .notFound
    | .error fault => .error fault

/-- Follow parts of a path that lead to directories. -/
def walk (fs : FileSystem) (directory : Place) : (steps : List String) → Except IoFault Place
  | [] => .ok directory
  | step :: steps => do walk fs (← fs.enter directory step) steps

/-- Where a path leads, as far as that is decided before its last name is looked up. -/
inductive Target where
  /-- To a directory, by no name. -/
  | directory (place : Place)
  /-- To a name in a directory; it must be a directory itself if the path ends in a slash. -/
  | named (directory : Place) (name : String) (slash : Bool)
deriving DecidableEq, Repr

/-- The fault of a path that cannot be followed at all. -/
def pathFault? (path : Path) : Option IoFault :=
  if path.text.toList.contains '\x00' then some .zeroByte
  else if path.text.isEmpty then some .notFound
  else if maxPathSize < path.text.utf8ByteSize then some .nameTooLong
  else none

/-- The directory from which a path is followed. -/
def startOf (fs : FileSystem) (path : Path) : Place :=
  if path.isAbsolute then [] else fs.workingDirectory

/-- Follow a path up to its last name. -/
def resolve (fs : FileSystem) (path : Path) : Except IoFault Target := do
  if let some fault := pathFault? path then throw fault
  let directory ← fs.walk (fs.startOf path) path.steps.dropLast
  match path.steps.getLast? with
  | none => return .directory directory
  | some step =>
    if step == Path.here then return .directory directory
    else if step == Path.above then return .directory directory.dropLast
    else return .named directory step path.endsOpen

/-- What a path leads to, and its place. -/
def find (fs : FileSystem) (path : Path) : Except IoFault (Place × Entry) := do
  match ← fs.resolve path with
  | .directory place => return (place, .directory)
  | .named directory name slash =>
    match ← fs.lookup directory name with
    | none => throw .notFound
    | some entry =>
      if slash && !entry.isDirectory then throw .notDirectory
      else return (directory ++ [name], entry)

/-- Whether a path leads to an entry of a kind. -/
def leadsTo (fs : FileSystem) (isKind : Entry → Bool) (path : Path) : Bool :=
  match fs.find path with
  | .ok (_, entry) => isKind entry
  | .error _ => false

def isFile (fs : FileSystem) (path : Path) : Bool :=
  fs.leadsTo Entry.isFile path

def isDirectory (fs : FileSystem) (path : Path) : Bool :=
  fs.leadsTo Entry.isDirectory path

/-- Whether a path leads to anything. -/
def contains (fs : FileSystem) (path : Path) : Bool :=
  fs.leadsTo (fun _ => true) path

/-- The path from the root to what a path leads to. -/
def canonical (fs : FileSystem) (path : Path) : Except IoFault Path := do
  return .ofNames (← fs.find path).1

/-! ## Files -/

def read (fs : FileSystem) (path : Path) : Except IoFault ByteArray := do
  match (← fs.find path).2 with
  | .file _ content => return content
  | .device _ => return .empty
  | .directory => throw .isDirectory

/-- The place of a file that is to be opened for writing, and what stands there. -/
def findToWrite (fs : FileSystem) (path : Path) : Except IoFault (Place × Option Entry) := do
  match ← fs.resolve path with
  | .directory _ => throw .isDirectory
  | .named directory name slash =>
    if slash then throw .isDirectory
    match ← fs.lookup directory name with
    | some .directory => throw .isDirectory
    | found => return (directory ++ [name], found)

/-- Give a file a content; a file that is not there is created. -/
def write (fs : FileSystem) (path : Path) (content : ByteArray) : Except IoFault FileSystem := do
  match ← fs.findToWrite path with
  | (place, some (.file number _)) => return fs.withEntry place (.file number content)
  | (place, none) => return fs.withNewFile place content
  | (_, some _) => return fs

/-- Bring what was written to a file to the disk. A device keeps nothing that could be brought. -/
def sync (fs : FileSystem) (path : Path) : Except IoFault FileSystem := do
  match (← fs.find path).2 with
  | .file _ _ => return fs
  | .device _ => throw .invalidArgument
  | .directory => throw .isDirectory

/-- The number of a file that is opened for writing; a file that is not there is created without
content. -/
def openOrCreate (fs : FileSystem) (path : Path) : Except IoFault (Nat × FileSystem) := do
  match ← fs.findToWrite path with
  | (_, some (.file number _)) => return (number, fs)
  | (_, some (.device number)) => return (number, fs)
  | (place, _) => return (fs.nextNumber, fs.withNewFile place .empty)

/-- Move a file to another place, over the file that stands there. -/
def rename (fs : FileSystem) (source target : Path) : Except IoFault FileSystem := do
  match ← fs.resolve source, ← fs.resolve target with
  | .named sourceDirectory sourceName sourceSlash, .named directory name slash =>
    match ← fs.lookup sourceDirectory sourceName with
    | none => throw .notFound
    | some .directory => throw .isDirectory
    | some moved =>
      let found ← fs.lookup directory name
      if sourceSlash || slash then throw .notDirectory
      match found with
      | some .directory => throw .isDirectory
      | _ => return (fs.withoutEntry (sourceDirectory ++ [sourceName])).withEntry (directory ++ [name]) moved
  | _, _ => throw .busy

/-- Remove a file. -/
def remove (fs : FileSystem) (path : Path) : Except IoFault FileSystem := do
  match ← fs.resolve path with
  | .directory _ => throw .isDirectory
  | .named directory name slash =>
    match ← fs.lookup directory name with
    | none => throw .notFound
    | some .directory => throw .isDirectory
    | some _ => if slash then throw .notDirectory else return fs.withoutEntry (directory ++ [name])

/-! ## Directories -/

/-- Make a directory in one that is there. -/
def makeDirectory (fs : FileSystem) (path : Path) : Except IoFault FileSystem := do
  match ← fs.resolve path with
  | .directory _ => throw .alreadyExists
  | .named directory name _ =>
    match ← fs.lookup directory name with
    | some _ => throw .alreadyExists
    | none => return fs.withEntry (directory ++ [name]) .directory

/-- Whether a fault only says that a directory is there already. -/
def isThere (fs : FileSystem) (path : Path) (fault : IoFault) : Bool :=
  fault == .alreadyExists && fs.isDirectory path

/-- Make directories one after another; those before a fault stay. -/
def makeAll : List Path → FileSystem → Except IoFault Unit × FileSystem
  | [], fs => (.ok (), fs)
  | path :: paths, fs =>
    match fs.makeDirectory path with
    | .ok fs => makeAll paths fs
    | .error fault => if fs.isThere path fault then makeAll paths fs else (.error fault, fs)

/-- Make the first of some directories that can be made, and then the `missing` ones before it, of
which the last comes first. -/
def makeFrom (missing : List Path) : List Path → FileSystem → Except IoFault Unit × FileSystem
  | [], fs => makeAll missing fs
  | path :: paths, fs =>
    match fs.makeDirectory path with
    | .ok fs => makeAll missing fs
    | .error .notFound => makeFrom (path :: missing) paths fs
    | .error fault => if fs.isThere path fault then makeAll missing fs else (.error fault, fs)

/-- Make a directory and those on the way to it that are missing. -/
def makeDirectories (path : Path) (fs : FileSystem) : Except IoFault Unit × FileSystem :=
  makeFrom [] path.ancestors fs

/-- The last name of a place that lies directly in a directory. -/
def nameIn? (directory place : Place) : Option String :=
  match place.getLast? with
  | some name => if place.dropLast = directory then some name else none
  | none => none

/-- The names in a directory, in no order that counts. -/
def list (fs : FileSystem) (path : Path) : Except IoFault (List String) := do
  match ← fs.find path with
  | (directory, .directory) => return fs.entries.filterMap fun (place, _) => nameIn? directory place
  | _ => throw .notDirectory

/-- Remove whatever a path leads to, with everything below it. -/
def removeTree (fs : FileSystem) (path : Path) : Except IoFault FileSystem := do
  let (place, _) ← fs.find path
  return { fs with entries := fs.entries.filter fun (p, _) => !place.isPrefixOf p }

/-! ## Locks -/

/-- Take the exclusive lock of a file, unless it is taken. -/
def tryLock? (fs : FileSystem) (number : Nat) : Option FileSystem :=
  if number ∈ fs.locked then none else some { fs with locked := number :: fs.locked }

def unlock (fs : FileSystem) (number : Nat) : FileSystem :=
  { fs with locked := fs.locked.erase number }

end FileSystem

end DocStore
