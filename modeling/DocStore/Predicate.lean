-- SUMMARY: Predicates: conjunctions of strict equalities on fields.
import DocStore.Record

/-!
# Predicates

A predicate lists fields with the values they must have. It matches a record that has each of them
with a strictly equal value, so the predicate without fields matches every record.
-/

namespace DocStore

/-- A conjunction of equalities, one for each named field. -/
structure Predicate where
  fields : Object
deriving Repr, Inhabited

namespace Predicate

def everything : Predicate := ⟨[]⟩

/-- The predicate with one more field; a field that is there gets the new value. -/
def field (p : Predicate) (name : String) (value : Json) : Predicate :=
  ⟨Assoc.set name value p.fields⟩

def byId (id : RecordId) : Predicate :=
  everything.field idField (RecordId.toJson id)

/-- The predicate that an object is. -/
def ofJson? : Json → Option Predicate
  | .object members => some ⟨members⟩
  | _ => none

def size (p : Predicate) : Nat :=
  p.fields.length

def isEmpty (p : Predicate) : Bool :=
  p.fields.isEmpty

/-- Whether a record has the given field with a strictly equal value. -/
def fieldMatches (r : Record) (name : String) (value : Json) : Bool :=
  match r.get? name with
  | some actual => actual.strictEq value
  | none => false

/-- Whether a record has every field of the predicate with a strictly equal value. -/
def holds (p : Predicate) (r : Record) : Bool :=
  p.fields.all fun (name, value) => fieldMatches r name value

/-- Whether a record passes an optional predicate; without one every record does. -/
def holdsOption (p : Option Predicate) (r : Record) : Bool :=
  match p with
  | some p => p.holds r
  | none => true

def filter (p : Predicate) (records : List Record) : List Record :=
  records.filter p.holds

end Predicate

end DocStore
