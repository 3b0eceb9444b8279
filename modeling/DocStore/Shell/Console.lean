-- SUMMARY: Lines carried out on a session, from a script or at a prompt, with everything they print.
import DocStore.Shell.Format
import DocStore.Shell.Help
import DocStore.Shell.Words
import DocStore.Text.Backspace
import DocStore.Text.Line

/-!
# Consoles

A console is a session with its file system and everything that was printed so far, answers apart
from errors. A line of words is carried out in three stages: it is split into words, the words are
matched with a command, and the command is executed. The first stage that fails is reported, and
the console goes on from what was changed.

Lines come from a script or are typed at a prompt. A script passes over blank lines and comments,
and succeeds if all its other lines do. A failing line does not stop it; a line that is not text
does. At the prompt a few more words are understood, and nothing counts success.
-/

namespace DocStore.Shell

/-- A session with its file system and what was printed. -/
structure Console where
  session : Session
  files : FileSystem
  /-- The answers. -/
  out : String
  /-- The errors. -/
  err : String
deriving Inhabited

namespace Console

/-- A console on which nothing was printed. -/
def start (session : Session) (files : FileSystem) : Console := ⟨session, files, "", ""⟩

def print (console : Console) (text : String) : Console :=
  { console with out := console.out ++ text }

def printLine (console : Console) (text : String) : Console :=
  console.print (text ++ "\n")

def reportLine (console : Console) (text : String) : Console :=
  { console with err := console.err ++ text ++ "\n" }

/-- Run a computation on the session. -/
def run {α : Type} (computation : SessionM α) (console : Console) :
    Except SessionError α × Console :=
  let (result, session, files) := computation.runOn console.session console.files
  (result, { console with session, files })

/-! ## Commands -/

/-- Execute a command and print its answer or its error. An answer without text is not printed. -/
def perform (mode : OutputMode) (command : Command) (console : Console) : Bool × Console :=
  match console.run (Session.execute command) with
  | (.ok output, console) =>
    let text := output.text mode
    (true, if text.isEmpty then console else console.printLine text)
  | (.error error, console) => (false, console.reportLine (error.text mode))

/-- Execute the command that matched words call. -/
def performMatches (mode : OutputMode) (found : Matches) (console : Console) : Bool × Console :=
  match Command.ofMatches found with
  | .ok command => console.perform mode command
  | .error fault => (false, console.reportLine ("(error) " ++ fault.message))

/-- Carry out a line of words, and say whether that succeeded. -/
def executeLine (mode : OutputMode) (line : String) (console : Console) : Bool × Console :=
  match splitWords? line with
  | none => (false, console.reportLine s!"(error) Invalid quoting: {line}")
  | some [] => (true, console)
  | some words =>
    match matchLine words with
    | .ok found => console.performMatches mode found
    | .error error => (false, console.reportLine (error.text (lineEntrance words)))

/-! ## Scripts -/

def trimmedLine (line : String) : String :=
  String.ofList (trim line.toList)

/-- Whether a script passes over a line: it is blank or a comment. -/
def isPassedOver (line : String) : Bool :=
  match line.toList with
  | [] => true
  | c :: _ => c == '#'

/-- Carry out a line of a script. Connecting by the word of the prompt for it prints nothing. -/
def scriptLine (mode : OutputMode) (line : String) (console : Console) : Bool × Console :=
  match MetaCommand.ofLine? line with
  | some (.use name) =>
    match console.run (Session.connect name) with
    | (.ok (), console) => (true, console)
    | (.error error, console) => (false, console.reportLine (error.text mode))
  | _ => console.executeLine mode line

/-- Carry out the lines of a script, and say whether all that were carried out succeeded. -/
def runScript (mode : OutputMode) : List (Option String) → Console → Bool × Console
  | [], console => (true, console)
  | none :: _, console => (true, console)
  | some line :: lines, console =>
    let line := trimmedLine line
    if isPassedOver line then runScript mode lines console
    else
      let (succeeded, console) := console.scriptLine mode line
      let (othersSucceeded, console) := runScript mode lines console
      (succeeded && othersSucceeded, console)

/-! ## Prompt -/

/-- What clears a screen and puts the cursor into its first place. -/
def clearScreen : String := "\x1b[2J\x1b[1;1H"

/-- Print help on a command, or on all of them. -/
def printHelp (console : Console) : (command : Option String) → Console
  | none => console.print promptHelpText
  | some command =>
    let words := [command, "--help"]
    match matchLine words with
    | .ok _ => console
    | .error error => console.printLine (error.text (lineEntrance words))

/-- Carry out a line that was typed, and say whether another one is wanted. -/
def promptLine (mode : OutputMode) (line : String) (console : Console) : Bool × Console :=
  let line := trimmedLine (applyBackspaces line)
  if line.isEmpty then (true, console)
  else
    match MetaCommand.ofLine? line with
    | some .quit => (false, console)
    | some .clear => (true, console.print clearScreen)
    | some (.help command) => (true, console.printHelp command)
    | some (.use name) =>
      match console.run (Session.connect name) with
      | (.ok (), console) => (true, console.printLine ((Output.connected name).text mode))
      | (.error error, console) => (true, console.reportLine (error.text mode))
    | none => (true, (console.executeLine mode line).2)

/-- What is said of a line that is not text. -/
def notTextMessage : String :=
  "(error) Io(Error \x7b kind: InvalidData, message: \"stream did not contain valid UTF-8\" \x7d)"

def printPrompt (console : Console) : Console :=
  console.print console.session.prompt

/-- Carry out the lines that are typed at the prompt, until one asks to leave, is not text, or none
is left. -/
def runPrompt (mode : OutputMode) : List (Option String) → Console → Console
  | [], console => console.printPrompt
  | none :: _, console => console.printPrompt.reportLine notTextMessage
  | some line :: lines, console =>
    let (wanted, console) := console.printPrompt.promptLine mode line
    if wanted then runPrompt mode lines console else console

end Console

end DocStore.Shell
