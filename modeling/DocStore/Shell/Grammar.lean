-- SUMMARY: The commands of the shell, their arguments and their options.

/-!
# The commands of the shell

Commands form a tree: the groups `db` and `collection` have commands of their own, and the other
commands take arguments. Started with a command, the program also takes options, at every level of
the tree. A line typed at the prompt or read from a script takes none but the one for help.
-/

namespace DocStore.Shell

/-- An argument of a command. -/
structure ArgumentSpec where
  name : String
  required : Bool
  many : Bool
  help : String
deriving DecidableEq, Repr

namespace ArgumentSpec

/-- The name of an argument in angle brackets if it is needed, else in square ones. -/
def bracketed (a : ArgumentSpec) (needed : Bool) : String :=
  (if needed then "<" ++ a.name ++ ">" else "[" ++ a.name ++ "]") ++ (if a.many then "..." else "")

def shown (a : ArgumentSpec) : String :=
  a.bracketed a.required

/-- How an argument is shown in a call that has it. Of an argument that may be any number of words,
none is needed even then. -/
def shownInCall (a : ArgumentSpec) : String :=
  a.bracketed (a.required || !a.many)

end ArgumentSpec

/-- A command of the tree. -/
inductive CommandSpec where
  | mk (name about : String) (arguments : List ArgumentSpec) (commands : List CommandSpec)
deriving Repr

namespace CommandSpec

def name : CommandSpec → String
  | .mk name _ _ _ => name

def about : CommandSpec → String
  | .mk _ about _ _ => about

def arguments : CommandSpec → List ArgumentSpec
  | .mk _ _ arguments _ => arguments

def commands : CommandSpec → List CommandSpec
  | .mk _ _ _ commands => commands

/-- The command of a group that a word names. -/
def find? (spec : CommandSpec) (word : String) : Option CommandSpec :=
  spec.commands.find? (fun command => command.name == word)

def isGroup (spec : CommandSpec) : Bool :=
  !spec.commands.isEmpty

end CommandSpec

/-! ## The tree -/

def requiredArgument (name help : String) : ArgumentSpec :=
  ⟨name, true, false, help⟩

def databaseArgument : ArgumentSpec :=
  requiredArgument "name" "Database name"

def collectionArgument : ArgumentSpec :=
  requiredArgument "collection" "Collection name"

def whereArgument : ArgumentSpec :=
  ⟨"WHERE", false, true,
    "Predicate as a JSON object or field=value pairs (omit to match all)"⟩

def schemaArgument : ArgumentSpec :=
  ⟨"SCHEMA_JSON", false, false,
    "Schema, e.g. '\x7b\"name\": \x7b\"type\": \"string\", \"required\": true\x7d\x7d'"⟩

/-- The commands on databases. -/
def databaseGroup : CommandSpec :=
  .mk "db" "Database operations" [] [
    .mk "create" "Create a database (replaces an existing one) and connect to it"
      [databaseArgument] [],
    .mk "connect" "Connect to an existing database" [databaseArgument] [],
    .mk "drop" "Delete a database file" [databaseArgument] [],
    .mk "list" "List databases in the data directory" [] []]

/-- The commands on collections. -/
def collectionGroup : CommandSpec :=
  .mk "collection" "Collection operations" [] [
    .mk "create" "Create a collection (replaces an existing one)"
      [requiredArgument "name" "Collection name", schemaArgument] [],
    .mk "list" "List collections in the current database" [] []]

/-- All commands. -/
def allCommands : CommandSpec :=
  .mk "jsondoc" "Interactive shell for jsondoc document databases" [] [
    databaseGroup,
    collectionGroup,
    .mk "insert" "Insert a record"
      [collectionArgument, ⟨"RECORD", true, true, "Record as a JSON object or field=value pairs"⟩] [],
    .mk "select" "Select records" [collectionArgument, whereArgument] [],
    .mk "delete" "Delete records" [collectionArgument, whereArgument] [],
    .mk "update" "Merge fields into matching records"
      [collectionArgument,
        requiredArgument "WHERE_JSON" "Predicate as a JSON object (must not be empty)",
        requiredArgument "PATCH_JSON" "Fields to merge as a JSON object"] []]

/-- The word that asks for help on a command of a group. -/
def helpWord : String := "help"

def helpAbout : String := "Print this message or the help of the given subcommand(s)"

/-- The names of the commands of a group, its help command last. -/
def commandNames (spec : CommandSpec) : List String :=
  spec.commands.map CommandSpec.name ++ (if spec.isGroup then [helpWord] else [])

/-! ## Options -/

/-- How a line starts. -/
inductive LineHead where
  /-- With a word that counts as the first of the command. -/
  | command
  /-- With a word that names nothing, and another one that names the caller. -/
  | caller (name : String)
  /-- With words that name nothing. -/
  | nameless
deriving DecidableEq, Repr

/-- Where a command comes from. -/
inductive Entrance where
  /-- The arguments of the program. -/
  | program
  /-- A line at the prompt or of a script. -/
  | line (head : LineHead)
deriving DecidableEq, Repr

/-- Whether a command comes from a line. -/
def Entrance.isLine : Entrance → Bool
  | .program => false
  | .line _ => true

/-- An option of the program that takes a value. -/
inductive ValueOption where
  | dataDir
  | db
deriving DecidableEq, Repr

/-- An option of the program that takes none. -/
inductive Flag where
  | json
  | raw
deriving DecidableEq, Repr

/-- An option as it is written after two hyphens. -/
inductive OptionName where
  | value (option : ValueOption)
  | flag (flag : Flag)
  | help
deriving DecidableEq, Repr

/-- The option that a word after two hyphens names. -/
def optionNamed? (entrance : Entrance) (word : String) : Option OptionName :=
  if word == "help" then some .help
  else
    match entrance with
    | .line _ => none
    | .program =>
      if word == "data-dir" then some (.value .dataDir)
      else if word == "db" then some (.value .db)
      else if word == "json" then some (.flag .json)
      else if word == "raw" then some (.flag .raw)
      else none

def optionNames : Entrance → List String
  | .program => ["data-dir", "db", "json", "raw", "help"]
  | .line _ => ["help"]

def ValueOption.shown : ValueOption → String
  | .dataDir => "--data-dir <DIR>"
  | .db => "--db <NAME>"

def Flag.shown : Flag → String
  | .json => "--json"
  | .raw => "--raw"

end DocStore.Shell
