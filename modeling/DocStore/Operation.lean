-- SUMMARY: The operations of a database as functions on catalogs, with all their checks.
import DocStore.Error

/-!
# Operations on catalogs

What a database does is a function on its catalog: an answer, for an operation that changes
something the next catalog too, or an error. The checks come in a fixed order, and an operation that
fails changes nothing. Loading and storing the catalog is a matter of the database file.
-/

namespace DocStore

namespace Catalog

/-- The collection of a name, or the error that there is none. -/
def require (c : Catalog) (name : String) : Except Error Collection :=
  match c.collection? name with
  | some collection => .ok collection
  | none => .error (.collectionNotFound name)

/-- The schema of a collection; one without a schema has the empty one. -/
def schemaOf (c : Catalog) (name : String) : Except Error Schema := do
  let collection ← c.require name
  return collection.schema.getD NameMap.empty

def select (c : Catalog) (name : String) (p : Option Predicate) : Except Error (List Record) := do
  let collection ← c.require name
  return collection.select p

/-- The error of the first field whose value is of a kind that a record may not hold. -/
def checkKinds (fields : Object) : Except Error Unit :=
  match fields.find? (fun field => !(Kind.of field.2).isAllowed) with
  | some (name, value) => .error (.invalidFieldType name (Kind.of value))
  | none => .ok ()

/-- The error of fields that a schema does not allow, if schemas are enforced and there is one. -/
def checkSchema (enforce : Bool) (name : String) (schema : Option Schema) (fields : Object) :
    Except Error Unit :=
  match enforce, schema with
  | true, some schema => (schema.checkRecord fields).mapError (.schemaViolation name)
  | _, _ => .ok ()

/-- Insert a record of the given fields; an identifier among them does not count. -/
def insertRecord (c : Catalog) (policy : IdPolicy) (enforce : Bool) (name : String)
    (fields : Object) : Except Error (Record × Catalog) := do
  let fields := Assoc.erase idField fields
  let collection ← c.require name
  checkKinds fields
  checkSchema enforce name collection.schema fields
  let (r, collection) := collection.insert policy fields
  return (r, c.withCollection name collection)

/-- Delete the records that match, or all of them without a predicate, and count them. -/
def deleteRecords (c : Catalog) (name : String) (p : Option Predicate) :
    Except Error (Nat × Catalog) := do
  let collection ← c.require name
  let (count, collection) := match p with
    | some p => collection.removeMatching p
    | none => collection.clear
  return (count, c.withCollection name collection)

/-- The error of the first of some records whose merge with a patch the schema does not allow. -/
def checkMerges (enforce : Bool) (name : String) (schema : Option Schema) (patch : Object) :
    List Record → Except Error Unit
  | [] => .ok ()
  | r :: records => do
    checkSchema enforce name schema (r.merge patch).toObject
    checkMerges enforce name schema patch records

/-- Merge a patch into the records that match a predicate with at least one field, and count
them. -/
def updateRecords (c : Catalog) (enforce : Bool) (name : String) (p : Option Predicate)
    (patch : Object) : Except Error (Nat × Catalog) := do
  let collection ← c.require name
  match p with
  | none => throw .missingPredicate
  | some p =>
    if p.isEmpty then throw .missingPredicate
    checkMerges enforce name collection.schema patch (p.filter collection.records)
    let (count, collection) := collection.updateMatching p patch
    return (count, c.withCollection name collection)

/-- The error of a name or a schema that a new collection may not have. -/
def checkNewCollection (enforce : Bool) (name : String) (schema : Schema) : Except Error Unit := do
  (Name.checkCollection name).mapError (.invalidName name)
  if enforce then (schema.checkDefinition).mapError (.schemaViolation name)

end Catalog

end DocStore
