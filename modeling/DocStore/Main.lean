-- SUMMARY: The command line: the shell on the real disk, with its input and output.
import DocStore.Shell.Program

/-!
# Command line

The shell is a function on file systems as values. The command line makes such a value of the part
of the disk that a step can see, which is the data directory and the way to it, runs the step, and
brings what it changed back to the disk. Lock files that another process holds are locked in the
value too, and the others are held while the step runs.
-/

namespace DocStore.CommandLine

open DocStore.Shell

/-- What stands at a path on the disk. -/
def loadEntry (number : Nat) (text : String) : IO (Option Entry) := do
  try
    let path ← IO.FS.realPath text
    match (← path.metadata).type with
    | .dir => return some .directory
    | .file => return some (.file number (← IO.FS.readBinFile path))
    | _ => return some (.device number)
  catch _ => return none

def placeText (place : Place) : String :=
  (Path.ofNames place).text

/-- Add what stands at a place on the disk to a file system. -/
def addPlace (files : FileSystem) (place : Place) : IO FileSystem := do
  match ← loadEntry files.nextNumber (placeText place) with
  | some entry => return { files.withEntry place entry with nextNumber := files.nextNumber + 1 }
  | none => return files

def namesIn (text : String) : IO (List String) := do
  try
    let entries ← (← IO.FS.realPath text).readDir
    return entries.toList.map fun entry => entry.fileName
  catch _ => return []

/-- The places that a path passes, the one that it leads to last. -/
def placesOn (directory : Place) : (steps : List String) → List Place
  | [] => [directory]
  | step :: steps =>
    let next :=
      if step == Path.here then directory
      else if step == Path.above then directory.dropLast
      else directory ++ [step]
    directory :: placesOn next steps

/-- The part of the disk that a step on a data directory can see. -/
def loadFiles (directory : Path) : IO FileSystem := do
  let mut files := FileSystem.empty (Path.ofText (← IO.currentDir).toString).steps
  let places := placesOn (files.startOf directory) directory.steps
  for place in places do
    if !place.isEmpty then files ← addPlace files place
  let last := places.getLast?.getD []
  for name in ← namesIn (placeText last) do
    files ← addPlace files (last ++ [name])
  return files

/-- Hold the lock files of a file system; those that another process holds are locked in it. -/
def holdLocks (files : FileSystem) : IO (FileSystem × List IO.FS.Handle) := do
  let mut locked := []
  let mut held := []
  for (place, entry) in files.entries do
    match entry, place.getLast? with
    | .file number _, some name =>
      if name.endsWith FileLock.ending then
        let handle ← IO.FS.Handle.mk (placeText place) .readWrite
        if ← handle.tryLock then held := handle :: held
        else locked := number :: locked
    | _, _ => pure ()
  return ({ files with locked }, held)

/-- Whether two entries are the same directory or device, or files of the same content. -/
def sameEntry : Option Entry → Entry → Bool
  | some .directory, .directory => true
  | some (.file _ old), .file _ new => old == new
  | some (.device _), .device _ => true
  | _, _ => false

/-- Bring a changed entry to the disk; a file is replaced by way of a second one. -/
def saveEntry (text : String) : Entry → IO Unit
  | .directory => IO.FS.createDirAll text
  | .file _ content => do
    IO.FS.writeBinFile (text ++ ".tmp") content
    IO.FS.rename (text ++ ".tmp") text
  | .device _ => return ()

/-- Bring what a step changed to the disk. -/
def saveChanges (old new : FileSystem) : IO Unit := do
  for (place, entry) in new.entries do
    if !sameEntry (old.entryAt place) entry then saveEntry (placeText place) entry
  for (place, _) in old.entries do
    if (new.entryAt place).isNone then IO.FS.removeFile (placeText place)

/-- Run a step on the part of the disk that it can see. -/
def onDisk {α : Type} (directory : Path) (step : FileSystem → α × FileSystem) : IO α := do
  let (files, held) ← holdLocks (← loadFiles directory)
  let (result, changed) := step files
  saveChanges files changed
  for handle in held do
    handle.unlock
  return result

def flushConsole (console : Console) : IO Unit := do
  IO.print console.out
  IO.eprint console.err
  (← IO.getStdout).flush

/-- Run a step of a session, print what it prints, and give the session after it. -/
def sessionStep {α : Type} (session : Session) (step : Console → α × Console) : IO (α × Session) := do
  let (result, console) ← onDisk session.store.directory fun files =>
    let (result, console) := step (.start session files)
    ((result, console), console.files)
  flushConsole console
  return (result, console.session)

/-- The next line of the input: `none` at its end, and no text for a line that is none. -/
def nextLine (input : IO.FS.Stream) : IO (Option (Option String)) := do
  try
    let line ← input.getLine
    return if line.isEmpty then none else some (some line)
  catch _ => return some none

/-- Carry out the lines of the input as a script. -/
partial def scriptLoop (mode : OutputMode) (input : IO.FS.Stream) (session : Session)
    (succeeded : Bool) : IO Bool := do
  match ← nextLine input with
  | none => return succeeded
  | some none => return succeeded
  | some (some line) =>
    let (lineSucceeded, session) ← sessionStep session (Console.runScript mode [some line])
    scriptLoop mode input session (succeeded && lineSucceeded)

/-- Carry out the lines that are typed at the prompt. -/
partial def promptLoop (mode : OutputMode) (input : IO.FS.Stream) (session : Session) :
    IO Unit := do
  IO.print session.prompt
  (← IO.getStdout).flush
  match ← nextLine input with
  | none => return
  | some none => IO.eprintln Console.notTextMessage
  | some (some line) =>
    let (wanted, session) ← sessionStep session (Console.promptLine mode line)
    if wanted then promptLoop mode input session

/-- Carry out what the arguments call, on an opened session. -/
def serve (found : Matches) (session : Session) : IO Bool := do
  let mode := Program.outputMode found
  let input ← IO.getStdin
  if !found.path.isEmpty then
    return (← sessionStep session (Console.performMatches mode found)).1
  else if ← input.isTty then
    promptLoop mode input session
    return true
  else scriptLoop mode input session true

/-- Open a session and carry out what the arguments call. -/
def run (found : Matches) : IO Bool := do
  let directory := Path.ofText (found.dataDir.getD Program.standardDirectory)
  match ← onDisk directory (Program.openConsole found) with
  | .error error =>
    IO.eprintln error.message
    return false
  | .ok console => serve found console.session

end DocStore.CommandLine

/-- Run the program on its arguments. -/
def main (arguments : List String) : IO UInt32 := do
  match DocStore.Shell.matchProgram arguments with
  | .ok found => return if ← DocStore.CommandLine.run found then 0 else 1
  | .error error =>
    let outcome := DocStore.Shell.Program.Outcome.ofUsage error default
    IO.print outcome.out
    IO.eprint outcome.err
    return outcome.code.toUInt32
