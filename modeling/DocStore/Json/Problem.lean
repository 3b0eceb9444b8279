-- SUMMARY: The problems that a text can have where a document of a certain form was wanted.
import DocStore.Record
import DocStore.Json.Tree
import DocStore.Text.Quoted

/-!
# Problems of texts

A text that is to hold a document can be malformed, or be well-formed and hold something else: a
value of another kind, a member that is missing or stands there twice, an object that is no record.
Each problem is a case of its own, and `message` words it. How a malformed text is malformed, and at
which line and column, is left to the words of its reader.
-/

namespace DocStore

/-- What stands in a text where something else was wanted. -/
inductive Shown where
  | null
  | bool (b : Bool)
  | number (n : Number)
  | string (s : String)
  | sequence
  | map
deriving Repr

/-- What was wanted. -/
inductive Wanted where
  | catalog
  | collection
  | fieldSpec
  | map
  | sequence
  | identifier
  | string
  | boolean
  | unit
deriving DecidableEq, Repr

/-- Why a text does not hold a document. -/
inductive Problem where
  /-- The text is not well-formed. -/
  | malformed
  | missingField (name : String)
  | duplicateField (name : String)
  | mismatch (shown : Shown) (wanted : Wanted)
  /-- An integer that is too small for what was wanted. -/
  | negative (i : Int) (wanted : Wanted)
  /-- The declaration of a field is a list without elements. -/
  | emptySpec
  | record (fault : Record.Fault)
  /-- A word that is none of the known ones. -/
  | unknownVariant (word : String) (known : List String)
deriving Repr

/-- The words for what stands in a text. -/
def Shown.text : Shown → String
  | .null => "null"
  | .bool b => if b then "boolean `true`" else "boolean `false`"
  | .number (.int i) => "integer `" ++ String.ofList (Number.intChars i) ++ "`"
  | .number (.float f) => "floating point `" ++ String.ofList (Number.floatChars f) ++ "`"
  | .string s => "string " ++ quoteString s
  | .sequence => "sequence"
  | .map => "map"

/-- The words for what was wanted. -/
def Wanted.text : Wanted → String
  | .catalog => "struct Catalog"
  | .collection => "struct Collection"
  | .fieldSpec => "struct FieldSpec"
  | .map => "a map"
  | .sequence => "a sequence"
  | .identifier => "u64"
  | .string => "a string"
  | .boolean => "a boolean"
  | .unit => "unit"

/-- A list of known words: two are joined by "or", more are listed. -/
def knownText (known : List String) : String :=
  match known.map (fun word => "`" ++ word ++ "`") with
  | [] => ""
  | [a] => a
  | [a, b] => a ++ " or " ++ b
  | all => "one of " ++ ", ".intercalate all

/-- What is said of a text that does not hold a document. -/
def Problem.message : Problem → String
  | .malformed => "<json syntax error>"
  | .missingField name => "missing field `" ++ name ++ "`"
  | .duplicateField name => "duplicate field `" ++ name ++ "`"
  | .mismatch shown wanted => "invalid type: " ++ shown.text ++ ", expected " ++ wanted.text
  | .negative i wanted =>
    "invalid value: " ++ (Shown.number (.int i)).text ++ ", expected " ++ wanted.text
  | .emptySpec => "invalid length 0, expected struct FieldSpec with 2 elements"
  | .record fault => fault.message
  | .unknownVariant word known =>
    "unknown variant `" ++ word ++ "`, expected " ++ knownText known

namespace Tree

/-- What stands at the root of a tree, if it can be told. -/
def shown? : Tree → Option Shown
  | .broken => none
  | .null => some .null
  | .bool b => some (.bool b)
  | .number n => n.map .number
  | .string s => s.map .string
  | .array _ _ => some .sequence
  | .object _ _ => some .map

/-- The problem with a tree that is not what was wanted. -/
def unwanted (wanted : Wanted) (tree : Tree) : Problem :=
  match tree.shown? with
  | some shown => .mismatch shown wanted
  | none => .malformed

/-- The value of a tree that may be of any kind. -/
def value (room : Nat) (tree : Tree) : Except Problem Json :=
  match tree.toJson? room with
  | some value => .ok value
  | none => .error .malformed

end Tree

/-- What a text holds by a walk over its tree: the problem that the walk meets first, or, if it
meets none, text that follows. -/
def Document.decode {α : Type} (walk : Tree → Except Problem α) (document : Document) :
    Except Problem α := do
  let found ← walk document.tree
  if document.complete then return found else throw .malformed

end DocStore
