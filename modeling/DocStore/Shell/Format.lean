-- SUMMARY: Answers and errors as text, for a person, as JSON, or bare.
import DocStore.Shell.Session
import DocStore.Shell.Table

/-!
# Answers as text

An answer is shown in one of three ways: worded for a person, as indented JSON, or bare, with one
compact record to a line and nothing where there is nothing to say.
-/

namespace DocStore.Shell

/-- How answers are shown. -/
inductive OutputMode where
  | human
  | json
  | raw
deriving DecidableEq, Repr, Inhabited

/-- The mode that options ask for; JSON wins over bare. -/
def OutputMode.ofFlags (json raw : Bool) : OutputMode :=
  if json then .json else if raw then .raw else .human

def countJson (count : Nat) : Json :=
  .number (.int count)

namespace Output

/-- An answer as a value. -/
def toJson : Output → Json
  | .created name => .object [("created", .string name)]
  | .connected name => .object [("connected", .string name)]
  | .done => .object [("ok", .bool true)]
  | .names list => .array (list.map .string)
  | .inserted r => r.toJson
  | .records list => .array (list.map Record.toJson)
  | .deleted count => .object [("deleted", countJson count)]
  | .updated count => .object [("updated", countJson count)]

/-- A bare answer. -/
def rawText : Output → String
  | .created _ => ""
  | .connected _ => ""
  | .done => ""
  | .names list => "\n".intercalate list
  | .inserted r => toString r.id.toNat
  | .records list => "\n".intercalate (list.map fun r => r.toJson.compact)
  | .deleted count => toString count
  | .updated count => toString count

def numberedLines : (number : Nat) → List String → List String
  | _, [] => []
  | number, name :: rest => s!"{number}) \"{name}\"" :: numberedLines (number + 1) rest

def listText (list : List String) : String :=
  if list.isEmpty then emptyListText else "\n".intercalate (numberedLines 1 list)

/-- An answer worded for a person. -/
def humanText : Output → String
  | .created name => s!"OK (created and connected to \"{name}\")"
  | .connected name => s!"OK (connected to \"{name}\")"
  | .done => "OK"
  | .names list => listText list
  | .inserted r => s!"({idField}) " ++ toString r.id.toNat
  | .records list => tableText list
  | .deleted count => s!"(integer) {count}"
  | .updated count => s!"(integer) {count}"

def text (output : Output) : OutputMode → String
  | .human => output.humanText
  | .json => output.toJson.pretty
  | .raw => output.rawText

end Output

def errorText (message : String) : OutputMode → String
  | .human => "(error) " ++ message
  | .json => (Json.object [("error", .string message)]).pretty
  | .raw => message

def SessionError.text (error : SessionError) (mode : OutputMode) : String :=
  errorText error.message mode

end DocStore.Shell
