-- SUMMARY: The six kinds of values and the words for them.
import DocStore.Json.Basic

/-!
# Kinds

Every value has one of six kinds. Schemas name the kind of a field by its word, and a record may
hold values of every kind but null.
-/

namespace DocStore

/-- The kind of a value. -/
inductive Kind where
  | string
  | number
  | boolean
  | object
  | array
  | null
deriving DecidableEq, Repr, Inhabited

namespace Kind

/-- The kind of a value. -/
def of : Json → Kind
  | .string _ => .string
  | .number _ => .number
  | .bool _ => .boolean
  | .object _ => .object
  | .array _ => .array
  | .null => .null

/-- The word for a kind. -/
def name : Kind → String
  | .string => "string"
  | .number => "number"
  | .boolean => "boolean"
  | .object => "object"
  | .array => "array"
  | .null => "null"

/-- All kinds, in the order in which they are listed to a user. -/
def all : List Kind :=
  [.string, .number, .boolean, .object, .array, .null]

def isAllowed (kind : Kind) : Bool :=
  kind ≠ .null

def ofName? (word : String) : Option Kind :=
  all.find? (fun kind => kind.name == word)

/-- What is said of a word that names no kind. -/
def unknownMessage (word : String) : String :=
  s!"unknown type '{word}'"

end Kind

end DocStore
