-- SUMMARY: Records: an identifier and the fields of a user, in the order in which they came.
import DocStore.Json.Printer

/-!
# Records

A record is an identifier with named fields. Seen as an object it has the identifier first, under
the reserved name, and then the user's fields in the order in which they came. The reserved name is
never one of the user's fields: a record is made, read and merged without it, so the identifier
changes by no operation.
-/

namespace DocStore

/-- The identifier of a record: a number of 64 bits. -/
abbrev RecordId := UInt64

def idField : String := "_id"

namespace RecordId

def last : RecordId := 0xFFFFFFFFFFFFFFFF

/-- The next identifier; the last one is its own successor. -/
def next (id : RecordId) : RecordId :=
  if id = last then last else id + 1

def toJson (id : RecordId) : Json :=
  .number (.int id.toNat)

/-- The identifier that a value is, if it is an integer of 64 bits. -/
def ofJson? : Json → Option RecordId
  | .number (.int i) => if 0 ≤ i ∧ i ≤ Number.maxInt then some i.toNat.toUInt64 else none
  | _ => none

end RecordId

/-- A record of a collection. -/
structure Record where
  id : RecordId
  fields : Object
deriving Repr, Inhabited

namespace Record

/-- Why an object is no record. -/
inductive Fault where
  | missingId
  | invalidId (found : Json)
deriving Repr

def Fault.message : Fault → String
  | .missingId => s!"record has no '{idField}' field"
  | .invalidId found =>
    s!"record '{idField}' must be a non-negative integer, found " ++ found.compact

/-- The record of an identifier and fields. An identifier among the fields is dropped. -/
def new (id : RecordId) (fields : Object) : Record :=
  ⟨id, Assoc.ofEntries (Assoc.erase idField fields)⟩

/-- A record as an object, its identifier first. -/
def toObject (r : Record) : Object :=
  (idField, RecordId.toJson r.id) :: r.fields

def toJson (r : Record) : Json :=
  .object r.toObject

/-- The record that an object is. -/
def ofObject (object : Object) : Except Fault Record :=
  match Assoc.get? idField object with
  | none => .error .missingId
  | some value =>
    match RecordId.ofJson? value with
    | none => .error (.invalidId value)
    | some id => .ok (new id object)

def get? (r : Record) (name : String) : Option Json :=
  Assoc.get? name r.toObject

def names (r : Record) : List String :=
  Assoc.keys r.toObject

def userNames (r : Record) : List String :=
  Assoc.keys r.fields

/-- Whether two records have the same identifier and the same fields in any order. -/
def same (a b : Record) : Bool :=
  a.id == b.id && Json.same a.toJson b.toJson

/-! ## Merging -/

/-- Give one field its value in a patch. The identifier stays, and so does a field that has the
same value already. -/
def mergeField (r : Record) (name : String) (value : Json) : Record :=
  if name = idField then r
  else
    match Assoc.get? name r.fields with
    | some old => if old.same value then r else ⟨r.id, Assoc.set name value r.fields⟩
    | none => ⟨r.id, Assoc.set name value r.fields⟩

/-- Give the fields of a patch their values there: known fields in their places, new ones at the
end. -/
def merge (r : Record) (patch : Object) : Record :=
  patch.foldl (fun r field => r.mergeField field.1 field.2) r

/-- Whether giving one field its value in a patch changes the record. -/
def changesField (r : Record) (name : String) (value : Json) : Bool :=
  if name = idField then false
  else
    match Assoc.get? name r.fields with
    | some old => !old.same value
    | none => true

/-- Whether merging a patch changes the record. -/
def changes : Record → Object → Bool
  | _, [] => false
  | r, (name, value) :: patch =>
    r.changesField name value || (r.mergeField name value).changes patch

end Record

end DocStore
