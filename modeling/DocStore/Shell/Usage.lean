-- SUMMARY: Matching words with the tree of commands: which command they call, with which arguments and options.
import DocStore.Shell.Grammar
import DocStore.Text.Similar

/-!
# Matching words with commands

Words are matched from left to right, level by level: options may stand at every level, a word that
names a command of a group opens the next one, and any other word is an argument. After `--` every
word is an argument. What is wrong at a deeper level is reported before what is wrong at the levels
above it, and at one level the first wrong word before what is missing.

An option with a value waits for it until the next option, argument or end shows that it is there,
so a missing value and a repeated option are reported then.
-/

namespace DocStore.Shell

/-- What may have been meant by a word that is no option and no argument. -/
inductive ArgumentHint where
  | nothing
  /-- The word itself, as an argument. -/
  | literal
  /-- An option of the command. -/
  | option (name : String)
  /-- An option of a command that is named later. -/
  | optionOf (command name : String)
deriving DecidableEq, Repr

/-- How much of the call of a command is shown. -/
inductive CallView where
  | whole
  /-- An option and the arguments, of which the first `given` are needed. No other option. -/
  | needed (option : Option String) (given : Nat)
deriving DecidableEq, Repr

/-- Why words do not call a command, or a request for help in place of one. The path is the command
that was reached. -/
inductive UsageError where
  | help (path : List String)
  | missingCommand (path : List String)
  | unknownCommand (path : List String) (word : String) (similar : List String)
  /-- A word after `--` that names a command. -/
  | dividedCommand (path : List String) (word : String)
  | unknownArgument (path : List String) (word : String) (hint : ArgumentHint) (view : CallView)
  | missingArguments (path : List String) (missing : List ArgumentSpec)
  | missingValue (path : List String) (option : ValueOption)
  | unwantedValue (path : List String) (option value : String)
  | conflict (path : List String) (option other : String)
deriving Repr

/-- What the words of one level say. -/
structure Level where
  dataDir : Option String
  db : Option String
  json : Bool
  raw : Bool
  arguments : List String
  /-- An option that waits, with the value that it has got. -/
  waiting : Option (ValueOption × Option String)
  /-- Whether `--` is behind. -/
  literal : Bool
deriving Repr

namespace Level

def start : Level := ⟨none, none, false, false, [], none, false⟩

def value? (level : Level) : ValueOption → Option String
  | .dataDir => level.dataDir
  | .db => level.db

def withValue (level : Level) (option : ValueOption) (value : String) : Level :=
  match option with
  | .dataDir => { level with dataDir := some value }
  | .db => { level with db := some value }

def isSet (level : Level) : Flag → Bool
  | .json => level.json
  | .raw => level.raw

def withFlag (level : Level) : Flag → Level
  | .json => { level with json := true }
  | .raw => { level with raw := true }

/-- Whether an option waits for a value that it has not got. -/
def awaitsValue (level : Level) : Bool :=
  match level.waiting with
  | some (_, none) => true
  | _ => false

/-- Give an option its value, once. -/
def assign (level : Level) (path : List String) (option : ValueOption) (value : String) :
    Except UsageError Level :=
  match level.value? option with
  | some _ => .error (.conflict path option.shown option.shown)
  | none => .ok (level.withValue option value)

/-- Settle the option that waits. -/
def settle (level : Level) (path : List String) : Except UsageError Level :=
  match level.waiting with
  | none => .ok level
  | some (option, none) => .error (.missingValue path option)
  | some (option, some value) => { level with waiting := none }.assign path option value

/-- Read an option, with the value that is attached to it by an equals sign. -/
def readOption (level : Level) (path : List String) (name : String) (option : OptionName)
    (attached : Option String) : Except UsageError Level :=
  match option, attached with
  | .value option, some value => do (← level.settle path).assign path option value
  | .value option, none => do return { (← level.settle path) with waiting := some (option, none) }
  | _, some value => .error (.unwantedValue path name value)
  | .flag flag, none => do
    let level ← level.settle path
    if level.isSet flag then throw (.conflict path flag.shown flag.shown)
    return level.withFlag flag
  | .help, none => do
    let _ ← level.settle path
    throw (.help path)

/-- The argument that the next word gives, if there is one. -/
def nextArgument? (level : Level) (spec : CommandSpec) : Option ArgumentSpec :=
  match spec.arguments[level.arguments.length]? with
  | some argument => some argument
  | none => spec.arguments.getLast?.filter ArgumentSpec.many

/-- Read an argument. -/
def readArgument (level : Level) (path : List String) (spec : CommandSpec) (word : String) :
    Except UsageError Level :=
  match level.nextArgument? spec with
  | some _ => do
    let level ← level.settle path
    return { level with arguments := level.arguments ++ [word] }
  | none =>
    if !spec.isGroup then .error (.unknownArgument path word .nothing .whole)
    else if level.literal && (commandNames spec).contains word then .error (.dividedCommand path word)
    else .error (.unknownCommand path word (similarWords (commandNames spec) word))

/-- Check a level whose words are all read. `called` says that a command of the group was called,
and `optional` that none needs to be. -/
def finish (level : Level) (path : List String) (spec : CommandSpec) (called optional : Bool) :
    Except UsageError Level := do
  let level ← level.settle path
  if spec.isGroup && !called && !optional then throw (.missingCommand path)
  if level.json && level.raw then throw (.conflict path Flag.json.shown Flag.raw.shown)
  let missing := (spec.arguments.drop level.arguments.length).filter ArgumentSpec.required
  if missing.isEmpty then return level else throw (.missingArguments path missing)

end Level

/-- What words say: the command that they call, its arguments, and the options of all levels. -/
structure Matches where
  path : List String
  arguments : List String
  dataDir : Option String
  db : Option String
  json : Bool
  raw : Bool
deriving DecidableEq, Repr

/-- What the last level of a command line says. -/
def Matches.ofLevel (path : List String) (level : Level) : Matches :=
  ⟨path, level.arguments, level.dataDir, level.db, level.json, level.raw⟩

/-- Add what a level says to what the levels below it say; a deeper option wins. -/
def Matches.below (inner : Matches) (level : Level) : Matches :=
  { inner with
    dataDir := inner.dataDir.or level.dataDir
    db := inner.db.or level.db
    json := inner.json || level.json
    raw := inner.raw || level.raw }

/-- The command on which help is asked for by the words after a help command. -/
def helpPath (spec : CommandSpec) (path : List String) : List String → Except UsageError (List String)
  | [] => .ok path
  | word :: words =>
    match spec.find? word with
    | some command => helpPath command (path ++ [word]) words
    | none =>
      if spec.isGroup && word == helpWord then
        helpPath (.mk helpWord helpAbout [] []) (path ++ [word]) words
      else .error (.unknownCommand path word [])

/-- A word after two hyphens, cut at the first equals sign. -/
def splitAttached (cs : List Char) : String × Option String :=
  let name := String.ofList (cs.takeWhile (· != '='))
  match cs.dropWhile (· != '=') with
  | [] => (name, none)
  | _ :: value => (name, some (String.ofList value))

/-- What kind of word stands at a place where options are read. -/
inductive WordShape where
  /-- Two hyphens alone. -/
  | divider
  /-- Two hyphens and a name, perhaps with a value attached. -/
  | long (name : String) (attached : Option String)
  /-- A hyphen and letters, of which the first one decides. -/
  | short (letter : Char)
  | plain
deriving Repr

/-- The shape of a word. -/
def WordShape.of (word : String) : WordShape :=
  match word.toList with
  | ['-', '-'] => .divider
  | '-' :: '-' :: cs => let (name, attached) := splitAttached cs; .long name attached
  | '-' :: c :: _ => .short c
  | _ => .plain

/-- Whether the option for help is known at a level: it is not at the top of a line. -/
def helpKnown (entrance : Entrance) (path : List String) : Bool :=
  !entrance.isLine || !path.isEmpty

/-- The hint at an argument that an unknown option may have been meant for. -/
def literalHint (spec : CommandSpec) : ArgumentHint :=
  if spec.arguments.isEmpty then .nothing else .literal

/-- The first of the words that names a command of a group. -/
def firstCommand? (spec : CommandSpec) (words : List String) : Option String :=
  words.find? fun word => (spec.find? word).isSome

/-- What is wrong with an option that is not known, before `words`. An option with a similar name
may have been meant, of the command itself or else of one that is named later. -/
def unknownOption (entrance : Entrance) (spec : CommandSpec) (path : List String) (level : Level)
    (name : String) (words : List String) : UsageError :=
  let given := level.arguments.length
  let view : CallView := if given = 0 then .whole else .needed none given
  let similar := (similarWords (optionNames entrance) name).getLast?
  match similar, helpKnown entrance path, firstCommand? spec words with
  | some option, true, _ =>
    .unknownArgument path ("--" ++ name) (.option option) (.needed (some option) given)
  | some option, false, some command =>
    .unknownArgument path ("--" ++ name) (.optionOf command option) view
  | _, _, _ => .unknownArgument path ("--" ++ name) (literalHint spec) view

/-- Match words with a command and those below it, after the words of its level that are read. -/
def matchWords (entrance : Entrance) (spec : CommandSpec) (path : List String) (level : Level) :
    List String → Except UsageError Matches
  | [] => do
    let optional := !entrance.isLine && path.isEmpty
    return .ofLevel path (← level.finish path spec false optional)
  | word :: words =>
    let readPlain : Except UsageError Level :=
      match level.waiting, level.literal with
      | some (option, none), false => .ok { level with waiting := some (option, some word) }
      | _, _ => level.readArgument path spec word
    let continueWith (next : Except UsageError Level) : Except UsageError Matches :=
      match next with
      | .ok level => matchWords entrance spec path level words
      | .error error => .error error
    if level.literal then continueWith readPlain
    else if !level.awaitsValue && spec.isGroup && word == helpWord then
      match helpPath spec path words with
      | .ok target => .error (.help target)
      | .error error => .error error
    else
      match if level.awaitsValue then none else spec.find? word with
      | some command =>
        match matchWords entrance command (path ++ [word]) .start words with
        | .ok inner =>
          match level.finish path spec true true with
          | .ok level => .ok (inner.below level)
          | .error error => .error error
        | .error error => .error error
      | none =>
        match WordShape.of word with
        | .divider => continueWith (.ok { level with literal := true })
        | .long name attached =>
          match optionNamed? entrance name with
          | some .help =>
            if helpKnown entrance path then continueWith (level.readOption path name .help attached)
            else .error (unknownOption entrance spec path level name words)
          | some option => continueWith (level.readOption path name option attached)
          | none => .error (unknownOption entrance spec path level name words)
        | .short letter =>
          if letter == 'h' && helpKnown entrance path then
            continueWith (level.readOption path helpWord .help none)
          else
            .error (.unknownArgument path (String.ofList ['-', letter]) (literalHint spec) .whole)
        | .plain => continueWith readPlain

def matchProgram (words : List String) : Except UsageError Matches :=
  matchWords .program allCommands [] .start words

/-! ## Lines -/

/-- The last name of a path, if it ends in one. -/
def lastName? (word : String) : Option String :=
  match (word.splitOn "/").filter (fun name => name != "" && name != ".") |>.getLast? with
  | some name => if name == ".." then none else some name
  | none => none

/-- A file name without its ending: what follows the last dot, unless the dot comes first. -/
def stem (name : String) : String :=
  let cs := name.toList
  let ending := cs.reverse.takeWhile (· != '.')
  let before := (cs.reverse.drop (ending.length + 1)).reverse
  if ending.length == cs.length || before.isEmpty then name else String.ofList before

/-- The words of a line as they are matched. The first word may be the path of a program named like
a command, and counts by its name without directories and ending; a first word that ends in no name
is passed over, together with the word after it. -/
def normalizeLine : List String → List String
  | [] => []
  | first :: rest =>
    match lastName? first with
    | some name => stem name :: rest
    | none => rest.drop 1

/-- How a line of words starts. -/
def LineHead.ofWords : List String → LineHead
  | [] => .nameless
  | first :: rest =>
    if (lastName? first).isSome then .command
    else
      match rest.head?.bind lastName? with
      | some name => .caller name
      | none => .nameless

/-- The entrance of a line of words. -/
def lineEntrance (words : List String) : Entrance :=
  .line (.ofWords words)

def matchLine (words : List String) : Except UsageError Matches :=
  matchWords (lineEntrance words) allCommands [] .start (normalizeLine words)

end DocStore.Shell
