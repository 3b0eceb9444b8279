-- SUMMARY: The program as a function of its arguments, its input and the file system.
import DocStore.Shell.Console

/-!
# The program

The arguments name a data directory, perhaps a database to connect to, and perhaps a command. With
a command the program executes it; without one it carries out the lines of its input, as a script
or, for a person, at a prompt. It exits with 0 if all of that succeeded, with 1 if something failed,
and with 2 if its arguments call no command.
-/

namespace DocStore.Shell

/-- Why a session cannot be opened. -/
inductive StartError where
  | store (error : Error)
  | connect (name : String) (error : SessionError)
deriving Repr

def StartError.message : StartError → String
  | .store error => "Failed to open store: " ++ error.message
  | .connect name error => s!"Failed to connect to '{name}': " ++ error.message

namespace Program

/-- The data directory if the arguments name none. -/
def standardDirectory : String := "./data"

/-- How the arguments ask for answers to be shown. -/
def outputMode (found : Matches) : OutputMode :=
  .ofFlags found.json found.raw

/-- Connect to the database that the arguments name, if they do. -/
def connectAtStart (found : Matches) (console : Console) : Except StartError Console × FileSystem :=
  match found.db with
  | none => (.ok console, console.files)
  | some name =>
    match console.run (Session.connect name) with
    | (.ok (), console) => (.ok console, console.files)
    | (.error error, console) => (.error (.connect name error), console.files)

/-- Open a session as the arguments ask for it. -/
def openConsole (found : Matches) (files : FileSystem) : Except StartError Console × FileSystem :=
  let directory := Path.ofText (found.dataDir.getD standardDirectory)
  match (Store.openDirectory directory).runOn files with
  | (.error error, files) => (.error (.store error), files)
  | (.ok store, files) => connectAtStart found (.start (.start store) files)

/-- How a run of the program ends. -/
structure Outcome where
  code : Nat
  out : String
  err : String
  files : FileSystem
deriving Inhabited

/-- The outcome of a run that ends on a console. -/
def Outcome.ofConsole (succeeded : Bool) (console : Console) : Outcome :=
  ⟨if succeeded then 0 else 1, console.out, console.err, console.files⟩

/-- The outcome of a run whose arguments ask for help or call no command. -/
def Outcome.ofUsage (error : UsageError) (files : FileSystem) : Outcome :=
  match error with
  | .help _ => ⟨0, error.text .program, "", files⟩
  | _ => ⟨2, "", error.text .program, files⟩

/-- Carry out a command, or the lines of the input without one, on an opened console. -/
def serve (found : Matches) (input : ByteArray) (console : Console) : Outcome :=
  let mode := outputMode found
  let (succeeded, console) :=
    if found.path.isEmpty then console.runScript mode (linesOf input)
    else console.performMatches mode found
  .ofConsole succeeded console

/-- Run the program on its arguments and on an input that no person types. -/
def run (arguments : List String) (input : ByteArray) (files : FileSystem) : Outcome :=
  match matchProgram arguments with
  | .error error => .ofUsage error files
  | .ok found =>
    match openConsole found files with
    | (.error error, files) => ⟨1, "", error.message ++ "\n", files⟩
    | (.ok console, _) => serve found input console

end Program

end DocStore.Shell
