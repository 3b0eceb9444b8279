-- SUMMARY: The texts of help and of errors in the use of commands.
import DocStore.Shell.Usage
import DocStore.Text.Visible

/-!
# Help

Help on a command says what it does, how it is called, and lists its commands or arguments and its
options in columns. A wrong use of a command is answered by what is wrong, hints at what may have
been meant, how the command is called, and how to get help. Words that a person typed are shown
without control sequences.
-/

namespace DocStore.Shell

/-! ## Columns -/

/-- A text filled with blanks to a width. -/
def padded (text : String) (width : Nat) : String :=
  text ++ String.ofList (List.replicate (width - text.length) ' ')

/-- Lines of two columns, the first as wide as its widest text. -/
def columnsText (rows : List (String × String)) : String :=
  let width := rows.foldl (fun width row => max width row.1.length) 0
  String.join (rows.map fun (left, right) => "  " ++ padded left width ++ "  " ++ right ++ "\n")

/-- A titled block of two columns; nothing without rows. -/
def blockText (title : String) (rows : List (String × String)) : String :=
  if rows.isEmpty then "" else "\n" ++ title ++ ":\n" ++ columnsText rows

/-- The options of a command, as they are listed. -/
def optionRows : Entrance → List (String × String)
  | .program => [
    ("    --data-dir <DIR>", "Data directory holding database files (default: ./data)"),
    ("    --db <NAME>", "Database to connect to on start"),
    ("    --json", "JSON output mode"),
    ("    --raw", "Raw output mode (one compact JSON record per line)"),
    ("-h, --help", "Print help")]
  | .line _ => [("-h, --help", "Print help")]

/-! ## Calls -/

/-- The command that a path names; the help command of a group is one of its commands. -/
def commandAt (spec : CommandSpec) : (path : List String) → CommandSpec
  | [] => spec
  | word :: path =>
    match spec.find? word with
    | some command => commandAt command path
    | none => .mk helpWord helpAbout [⟨"COMMAND", false, true, "Print help for the subcommand(s)"⟩] []

def isHelpPath (path : List String) : Bool :=
  path.getLast? == some helpWord

/-- What a line that names neither a command nor a caller is called by. -/
def promptName : String := "repl"

/-- The words by which a command is reached. -/
def reachedBy (path : List String) : Entrance → List String
  | .program => allCommands.name :: path
  | .line .command => path
  | .line (.caller name) => name :: path
  | .line .nameless => if path.isEmpty then [promptName] else path

def shownName (entrance : Entrance) (path : List String) : String :=
  visible (" ".intercalate (reachedBy path entrance))

/-- Whether a group can also be called without one of its commands. -/
def isOptionalGroup (entrance : Entrance) (path : List String) : Bool :=
  !entrance.isLine && path.isEmpty

/-- How a command is called, after its name. -/
def callWords (entrance : Entrance) (path : List String) : CallView → List String
  | .whole =>
    let spec := commandAt allCommands path
    let options := if !entrance.isLine && !isHelpPath path then ["[OPTIONS]"] else []
    let command :=
      if !spec.isGroup then []
      else if isOptionalGroup entrance path then ["[COMMAND]"]
      else ["<COMMAND>"]
    options ++ spec.arguments.map ArgumentSpec.shown ++ command
  | .needed option given =>
    let spec := commandAt allCommands path
    let arguments := (spec.arguments.take given).map ArgumentSpec.shownInCall ++
      (spec.arguments.drop given).map ArgumentSpec.shown
    let command := if spec.isGroup && !isOptionalGroup entrance path then ["<COMMAND>"] else []
    (option.map ("--" ++ ·)).toList ++ arguments ++ command

def callText (entrance : Entrance) (path : List String) (view : CallView) : String :=
  let name := if (reachedBy path entrance).isEmpty then [] else [shownName entrance path]
  " ".intercalate (name ++ callWords entrance path view)

/-- What help says that a command does. The top of a line says nothing. -/
def aboutText (entrance : Entrance) (path : List String) : String :=
  if entrance.isLine && path.isEmpty then ""
  else (commandAt allCommands path).about ++ "\n\n"

/-- Help on a command. -/
def helpText (entrance : Entrance) (path : List String) : String :=
  let spec := commandAt allCommands path
  let commands := spec.commands.map fun command => (command.name, command.about)
  let commands := if spec.isGroup then commands ++ [(helpWord, helpAbout)] else commands
  let arguments := spec.arguments.map fun argument => (argument.shown, argument.help)
  let options := if isHelpPath path || !helpKnown entrance path then [] else optionRows entrance
  aboutText entrance path ++ "Usage: " ++ callText entrance path .whole ++ "\n" ++
    blockText "Commands" commands ++ blockText "Arguments" arguments ++ blockText "Options" options

/-! ## Errors -/

/-- How to get help on a command that was used wrongly. There is none on a help command. -/
def helpHint (entrance : Entrance) (path : List String) : String :=
  if isHelpPath path then ""
  else if helpKnown entrance path then "\nFor more information, try '--help'.\n"
  else "\nFor more information, try 'help'.\n"

/-- A word in quotes, as it is shown. -/
def shownWord (word : String) : String :=
  "'" ++ visible word ++ "'"

/-- A hint at what may have been meant. -/
def tip (text : String) : String :=
  "\n\n  tip: " ++ text

/-- A hint at words that are similar to an unknown one. -/
def similarTip : (words : List String) → String
  | [] => ""
  | [word] => tip ("a similar subcommand exists: " ++ shownWord word)
  | words => tip ("some similar subcommands exist: " ++ ", ".intercalate (words.map shownWord))

/-- A hint at what may have been meant by a word. -/
def ArgumentHint.tip (word : String) : ArgumentHint → String
  | .nothing => ""
  | .literal => Shell.tip ("to pass " ++ shownWord word ++ " as a value, use " ++ shownWord ("-- " ++ word))
  | .option name => Shell.tip ("a similar argument exists: " ++ shownWord ("--" ++ name))
  | .optionOf command name => Shell.tip (shownWord (command ++ " --" ++ name) ++ " exists")

/-- What is wrong, how the command is called, and how to get help. -/
def usageText (entrance : Entrance) (path : List String) (view : CallView) (wrong : String) : String :=
  "error: " ++ wrong ++ "\n\nUsage: " ++ callText entrance path view ++ "\n" ++
    helpHint entrance path

/-- The text of a request for help or of an error in the use of commands. -/
def UsageError.text (entrance : Entrance) : UsageError → String
  | .help path => helpText entrance path
  | .missingCommand path =>
    usageText entrance path .whole (
      "'" ++ shownName entrance path ++ "' requires a subcommand but one was not provided\n  [subcommands: " ++
        ", ".intercalate (commandNames (commandAt allCommands path)) ++ "]")
  | .unknownCommand path word similar =>
    usageText entrance path .whole ("unrecognized subcommand " ++ shownWord word ++ similarTip similar)
  | .dividedCommand path word =>
    usageText entrance path .whole (
      "unexpected argument " ++ shownWord word ++ " found" ++
        tip ("subcommand " ++ shownWord word ++ " exists; to use it, remove the '--' before it"))
  | .unknownArgument path word hint view =>
    usageText entrance path view ("unexpected argument " ++ shownWord word ++ " found" ++ hint.tip word)
  | .missingArguments path missing =>
    usageText entrance path (.needed none 0) (
      "the following required arguments were not provided:" ++
        String.join (missing.map fun argument => "\n  " ++ argument.shown))
  | .missingValue path option =>
    "error: a value is required for '" ++ option.shown ++ "' but none was supplied\n" ++
      helpHint entrance path
  | .unwantedValue path option value =>
    usageText entrance path (.needed (some option) 0) (
      "unexpected value " ++ shownWord value ++ s!" for '--{option}' found; no more were expected")
  | .conflict path option other =>
    usageText entrance path .whole (
      if option == other then s!"the argument '{option}' cannot be used multiple times"
      else s!"the argument '{option}' cannot be used with '{other}'")

/-- The list of commands and words that the prompt understands. -/
def promptHelpText : String :=
  String.join ((List.map fun line => line ++ "\n") [
    "Available commands:",
    "  db          Database operations (create, connect, drop, list)",
    "  collection  Collection operations (create, list)",
    "  insert      Insert a record: insert <coll> <json | field=value ...>",
    "  select      Select records: select <coll> [json | field=value ...]",
    "  delete      Delete records: delete <coll> [json | field=value ...]",
    "  update      Update records: update <coll> <where-json> <patch-json>",
    "",
    "Meta-commands:",
    "  use <db>               Connect to a database",
    "  help [command]         Show help",
    "  quit / exit            Exit REPL",
    "  clear                  Clear screen"])

end DocStore.Shell
