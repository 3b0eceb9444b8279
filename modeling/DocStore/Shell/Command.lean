-- SUMMARY: Commands of the shell with their arguments understood, and the few words that only the prompt knows.
import DocStore.Shell.Argument
import DocStore.Shell.Usage

/-!
# Commands

Matched words become a command once their arguments are understood: fields, predicates, patches and
schemas are read from text, and the first of them that is wrong, in the order in which they stand,
is the fault that is reported.

A few words are understood at the prompt before anything else: to connect to a database, to ask for
help, to leave, and to clear the screen.
-/

namespace DocStore.Shell

/-- A command with its arguments. -/
inductive Command where
  | createDatabase (name : String)
  | connectDatabase (name : String)
  | dropDatabase (name : String)
  | listDatabases
  | createCollection (name : String) (schema : Schema)
  | listCollections
  | insert (collection : String) (fields : Object)
  | select (collection : String) (predicate : Option Predicate)
  | delete (collection : String) (predicate : Option Predicate)
  | update (collection : String) (predicate : Predicate) (patch : Object)
deriving Repr

/-- The command that matched words call. -/
def Command.ofMatches (found : Matches) : Except ArgumentFault Command :=
  match found.path, found.arguments with
  | ["db", "create"], [name] => .ok (.createDatabase name)
  | ["db", "connect"], [name] => .ok (.connectDatabase name)
  | ["db", "drop"], [name] => .ok (.dropDatabase name)
  | ["db", "list"], _ => .ok .listDatabases
  | ["collection", "create"], [name] => .ok (.createCollection name NameMap.empty)
  | ["collection", "create"], [name, schema] => do
    return .createCollection name (← parseSchema schema)
  | ["collection", "list"], _ => .ok .listCollections
  | ["insert"], collection :: fields => do
    return .insert collection (← parseFields fields)
  | ["select"], collection :: words => do
    return .select collection (← parseWhere words)
  | ["delete"], collection :: words => do
    return .delete collection (← parseWhere words)
  | ["update"], [collection, predicate, patch] => do
    let predicate ← parseObject predicate
    let patch ← parseObject patch
    return .update collection ⟨predicate⟩ patch
  | _, _ => .error .noCommand

/-! ## Words of the prompt -/

/-- What the prompt understands before anything else. -/
inductive MetaCommand where
  | use (database : String)
  | help (command : Option String)
  | quit
  | clear
deriving DecidableEq, Repr

/-- What the prompt understands of a line by its first words. -/
def MetaCommand.ofLine? (line : String) : Option MetaCommand :=
  match (words line.toList).map String.ofList with
  | [] => none
  | first :: rest =>
    if first == "quit" || first == "exit" then some .quit
    else if first == "clear" then some .clear
    else if first == "help" then some (.help rest.head?)
    else if first == "use" then rest.head?.map .use
    else none

end DocStore.Shell
