-- SUMMARY: Which names a database and a collection may have.
import DocStore.Text.Quoted

/-!
# Names

The name of a database becomes the name of its file, so it has letters, digits, underscores and
hyphens of ASCII only, does not start with a hyphen, and is at most 128 bytes long. The name of a
collection is a member name inside a file and may be any text that is not empty.
-/

namespace DocStore.Name

/-- Why a name is refused. -/
inductive Fault where
  | empty
  | tooLong (bytes : Nat)
  | leadingHyphen
  /-- The first character that may not stand in a name, and the number of bytes before it. -/
  | badCharacter (c : Char) (position : Nat)
  | emptyCollection
deriving DecidableEq, Repr

def maxBytes : Nat := 128

/-- What is said of a refused name. -/
def Fault.message : Fault → String
  | .empty => "name cannot be empty"
  | .tooLong bytes => s!"name is {bytes} bytes, maximum is {maxBytes}"
  | .leadingHyphen => "name cannot start with '-'"
  | .badCharacter c position =>
    "invalid character " ++ quoteChar c ++ s!" at position {position}"
  | .emptyCollection => "collection name cannot be empty"

def isNameChar (c : Char) : Bool :=
  c.isAlphanum || c == '_' || c == '-'

/-- The first character that may not stand in the name of a database, and the number of bytes
before it. -/
def badCharacter? : List Char → (position : Nat) → Option (Char × Nat)
  | [], _ => none
  | c :: cs, position => if isNameChar c then badCharacter? cs (position + c.utf8Size) else some (c, position)

/-- Whether a database may have this name. -/
def checkDatabase (name : String) : Except Fault Unit :=
  if name.isEmpty then .error .empty
  else if maxBytes < name.utf8ByteSize then .error (.tooLong name.utf8ByteSize)
  else if name.startsWith "-" then .error .leadingHyphen
  else
    match badCharacter? name.toList 0 with
    | some (c, position) => .error (.badCharacter c position)
    | none => .ok ()

def checkCollection (name : String) : Except Fault Unit :=
  if name.isEmpty then .error .emptyCollection else .ok ()

end DocStore.Name
