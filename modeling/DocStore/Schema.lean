-- SUMMARY: Schemas: the declared fields of a collection, and the two checks that go by them.
import DocStore.Kind
import DocStore.NameMap

/-!
# Schemas

A schema declares fields by name, each with the word for its kind and whether it is required. The
word is free text, so a definition can be wrong: `checkDefinition` finds the first declaration
whose word names no kind that a record may hold. `checkRecord` finds the first declared field that
is missing though required, or has a value of another kind. First means first by name.
-/

namespace DocStore

/-- The declaration of one field. A declaration that does not say so is not required. -/
structure FieldSpec where
  kind : String
  required : Option Bool
deriving DecidableEq, Repr, Inhabited

def FieldSpec.isRequired (spec : FieldSpec) : Bool :=
  spec.required.getD false

/-- The declared fields of a collection, by name. -/
abbrev Schema := NameMap FieldSpec

namespace Schema

/-- Why a definition or a record is refused. -/
inductive Violation where
  | unknownKind (field word : String)
  | disallowedKind (field : String) (kind : Kind)
  | missing (field : String)
  | wrongKind (field declared : String) (actual : Kind)
deriving DecidableEq, Repr

def Violation.message : Violation → String
  | .unknownKind field word => s!"field '{field}': " ++ Kind.unknownMessage word
  | .disallowedKind field kind => s!"field '{field}' declares disallowed type " ++ kind.name
  | .missing field => s!"missing required field '{field}'"
  | .wrongKind field declared actual => s!"field '{field}' must be {declared}, found " ++ actual.name

def field (schema : Schema) (name kind : String) (required : Bool) : Schema :=
  schema.insert name ⟨kind, some required⟩

/-- What is wrong with the declaration of a field. -/
def specViolation? (name : String) (spec : FieldSpec) : Option Violation :=
  match Kind.ofName? spec.kind with
  | some kind => if kind.isAllowed then none else some (.disallowedKind name kind)
  | none => some (.unknownKind name spec.kind)

/-- What is wrong with a declared field of a record. -/
def fieldViolation? (fields : Object) (name : String) (spec : FieldSpec) : Option Violation :=
  match Assoc.get? name fields with
  | none => if spec.isRequired then some (.missing name) else none
  | some value =>
    let actual := Kind.of value
    if actual.name == spec.kind then none else some (.wrongKind name spec.kind actual)

/-- The first declaration, by name, that is wrong. -/
def checkDefinition (schema : Schema) : Except Violation Unit :=
  match schema.entries.findSome? (fun (name, spec) => specViolation? name spec) with
  | some violation => .error violation
  | none => .ok ()

/-- The first declared field, by name, that the fields of a record violate. -/
def checkRecord (schema : Schema) (fields : Object) : Except Violation Unit :=
  match schema.entries.findSome? (fun (name, spec) => fieldViolation? fields name spec) with
  | some violation => .error violation
  | none => .ok ()

end Schema

end DocStore
