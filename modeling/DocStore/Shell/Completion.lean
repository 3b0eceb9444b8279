-- SUMMARY: The words that can complete a line at the prompt.
import DocStore.Shell.Grammar
import DocStore.Text.Blank

/-!
# Completion

While a line is typed, the word before the cursor can be completed: the first word to a command or
a word of the prompt, the second one, after the name of a group, to a command of the group. The
answer is the place at which the completed word starts and the words that could stand there. Places
are counted in bytes.
-/

namespace DocStore.Shell

def firstWords : List String :=
  allCommands.commands.map CommandSpec.name ++ ["use", "help", "quit", "exit", "clear"]

/-- The words that can stand second, after a given first one. -/
def secondWords (first : String) : List String :=
  match allCommands.find? first with
  | some command => command.commands.map CommandSpec.name
  | none => []

def beforeCursor : List Char → (place : Nat) → List Char
  | [], _ => []
  | c :: cs, place => if c.utf8Size ≤ place then c :: beforeCursor cs (place - c.utf8Size) else []

/-- The known words that a typed one can become. -/
def completions (known : List String) (typed : String) : List String :=
  known.filter (fun word => typed.toList.isPrefixOf word.toList)

/-- The place at which the word to be completed starts, and the words it can become. -/
def complete (line : String) (place : Nat) : Nat × List String :=
  let before := beforeCursor line.toList place
  let typed := (words before).map String.ofList
  let blank := before.getLast? == some ' '
  match typed, blank with
  | [], _ => (place, firstWords)
  | [word], false => (place - word.utf8ByteSize, completions firstWords word)
  | [word], true => (place, secondWords word)
  | [first, word], false => (place - word.utf8ByteSize, completions (secondWords first) word)
  | _, _ => (place, [])

end DocStore.Shell
