-- SUMMARY: The file format of catalogs: how each part is written as a value and read from a tree.
import DocStore.Catalog
import DocStore.Json.Problem

/-!
# The file format of catalogs

A catalog is written as an object with the collections under `documents`, followed by the members
that are not known. A collection is an object with `schema`, `data` and `next_id`, each only if
present, followed by the members that are not known. A schema is an object of declarations, a
declaration an object with `type` and, if it says so, `required`, and a record an object with its
identifier first.

Reading accepts more than writing produces: members in any order, null for an absent part, a
declaration as a list of one or two elements. A known member may stand there only once. Problems are
met in the order of the text, and a missing member when its object ends.
-/

namespace DocStore

/-! ## Writing -/

/-- A member, if there is a value for it. -/
def optionMember (name : String) (value : Option Json) : Object :=
  match value with
  | some value => [(name, value)]
  | none => []

def FieldSpec.toJson (spec : FieldSpec) : Json :=
  .object (("type", .string spec.kind) :: optionMember "required" (spec.required.map .bool))

def Schema.toJson (schema : Schema) : Json :=
  .object (schema.entries.map fun (name, spec) => (name, spec.toJson))

def Collection.toJson (c : Collection) : Json :=
  .object (
    optionMember "schema" (c.schema.map Schema.toJson) ++
    optionMember "data" (c.data.map fun records => .array (records.map Record.toJson)) ++
    optionMember "next_id" (c.nextId.map RecordId.toJson) ++
    c.extra)

def Catalog.toJson (c : Catalog) : Json :=
  .object (
    ("documents", .object (c.documents.entries.map fun (name, collection) =>
      (name, collection.toJson))) :: c.extra)

def Catalog.text (c : Catalog) (style : Style) : String :=
  c.toJson.text style

def Catalog.encode (c : Catalog) (style : Style) : ByteArray :=
  (c.text style).toUTF8

/-! ## Parts of a declaration -/

/-- A name or the word for a kind. -/
def decodeString : Tree → Except Problem String
  | .string (some s) => .ok s
  | tree => .error (tree.unwanted .string)

/-- Whether a field is required; null says nothing. -/
def decodeRequired : Tree → Except Problem (Option Bool)
  | .null => .ok none
  | .bool b => .ok (some b)
  | tree => .error (tree.unwanted .boolean)

/-- The parts of a declaration met so far. -/
structure FieldSpec.Parts where
  kind : Option String
  required : Option (Option Bool)

/-- The members of a declaration, after the parts met so far. -/
def FieldSpec.decodeMembers (closed : Bool) :
    List (Option String × Tree) → FieldSpec.Parts → Except Problem FieldSpec
  | [], parts =>
    if !closed then .error .malformed
    else
      match parts.kind with
      | some kind => .ok ⟨kind, parts.required.getD none⟩
      | none => .error (.missingField "type")
  | (none, _) :: _, _ => .error .malformed
  | (some name, tree) :: members, parts =>
    if name = "type" then
      if parts.kind.isSome then .error (.duplicateField name)
      else
        match decodeString tree with
        | .ok kind => decodeMembers closed members { parts with kind := some kind }
        | .error problem => .error problem
    else if name = "required" then
      if parts.required.isSome then .error (.duplicateField name)
      else
        match decodeRequired tree with
        | .ok required => decodeMembers closed members { parts with required := some required }
        | .error problem => .error problem
    else if tree.intact then decodeMembers closed members parts
    else .error .malformed

/-- The elements of a declaration that is written as a list. -/
def FieldSpec.decodeItems (closed : Bool) : List Tree → Except Problem FieldSpec
  | [] => .error (if closed then .emptySpec else .malformed)
  | [kind] => do
    let kind ← decodeString kind
    if closed then return ⟨kind, none⟩ else throw .malformed
  | [kind, required] => do
    let kind ← decodeString kind
    let required ← decodeRequired required
    if closed then return ⟨kind, required⟩ else throw .malformed
  | kind :: required :: _ => do
    let _ ← decodeString kind
    let _ ← decodeRequired required
    throw .malformed

def FieldSpec.decode : Tree → Except Problem FieldSpec
  | .object members closed => decodeMembers closed members ⟨none, none⟩
  | .array items closed => decodeItems closed items
  | tree => .error (tree.unwanted .fieldSpec)

/-! ## Schemas and records -/

/-- The members of an object whose values are all read in the same way, sorted by name. -/
def decodeNameMap {α : Type} (decode : Tree → Except Problem α) (closed : Bool) :
    List (Option String × Tree) → NameMap α → Except Problem (NameMap α)
  | [], map => if closed then .ok map else .error .malformed
  | (none, _) :: _, _ => .error .malformed
  | (some name, tree) :: members, map =>
    match decode tree with
    | .ok value => decodeNameMap decode closed members (map.insert name value)
    | .error problem => .error problem

def Schema.decode : Tree → Except Problem Schema
  | .object members closed => decodeNameMap FieldSpec.decode closed members NameMap.empty
  | tree => .error (tree.unwanted .map)

/-- A record that may open `room` containers at once. -/
def Record.decode (room : Nat) (tree : Tree) : Except Problem Record :=
  match tree with
  | .object _ _ =>
    match tree.toJson? room with
    | some (.object members) => (Record.ofObject members).mapError .record
    | _ => .error .malformed
  | tree => .error (tree.unwanted .map)

def Record.decodeItems (room : Nat) (closed : Bool) : List Tree → Except Problem (List Record)
  | [] => if closed then .ok [] else .error .malformed
  | item :: items => do
    let r ← Record.decode room item
    let rest ← decodeItems room closed items
    return r :: rest

/-! ## Collections -/

/-- The schema of a collection; null is none. -/
def decodeSchemaMember : Tree → Except Problem (Option Schema)
  | .null => .ok none
  | tree => (Schema.decode tree).map some

/-- The records of a collection; null is none. -/
def decodeDataMember (room : Nat) : Tree → Except Problem (Option (List Record))
  | .null => .ok none
  | .array items closed => (Record.decodeItems (room - 1) closed items).map some
  | tree => .error (tree.unwanted .sequence)

/-- The identifier counter of a collection; null is none. -/
def decodeNextIdMember : Tree → Except Problem (Option RecordId)
  | .null => .ok none
  | .number (some (.int i)) =>
    if i < 0 then .error (.negative i .identifier) else .ok (some i.toNat.toUInt64)
  | tree => .error (tree.unwanted .identifier)

/-- The parts of a collection met so far; the inner option is what the member says. -/
structure Collection.Parts where
  schema : Option (Option Schema)
  data : Option (Option (List Record))
  nextId : Option (Option RecordId)
  extra : List (String × Json)

/-- The members of a collection, after the parts met so far. Their values may open `room`
containers at once. -/
def Collection.decodeMembers (room : Nat) (closed : Bool) :
    List (Option String × Tree) → Collection.Parts → Except Problem Collection
  | [], parts =>
    if closed then
      .ok ⟨parts.schema.getD none, parts.data.getD none, parts.nextId.getD none,
        Assoc.ofEntries parts.extra⟩
    else .error .malformed
  | (none, _) :: _, _ => .error .malformed
  | (some name, tree) :: members, parts =>
    if name = "schema" then
      if parts.schema.isSome then .error (.duplicateField name)
      else
        match decodeSchemaMember tree with
        | .ok schema => decodeMembers room closed members { parts with schema := some schema }
        | .error problem => .error problem
    else if name = "data" then
      if parts.data.isSome then .error (.duplicateField name)
      else
        match decodeDataMember room tree with
        | .ok data => decodeMembers room closed members { parts with data := some data }
        | .error problem => .error problem
    else if name = "next_id" then
      if parts.nextId.isSome then .error (.duplicateField name)
      else
        match decodeNextIdMember tree with
        | .ok nextId => decodeMembers room closed members { parts with nextId := some nextId }
        | .error problem => .error problem
    else
      match tree.value room with
      | .ok value => decodeMembers room closed members { parts with extra := parts.extra ++ [(name, value)] }
      | .error problem => .error problem

/-- A collection that may open `room` containers at once. -/
def Collection.decode (room : Nat) : Tree → Except Problem Collection
  | .object members closed => decodeMembers (room - 1) closed members ⟨none, none, none, []⟩
  | tree => .error (tree.unwanted .collection)

/-! ## Catalogs -/

/-- The collections of a catalog, by name. -/
def decodeDocuments (room : Nat) : Tree → Except Problem (NameMap Collection)
  | .object members closed =>
    decodeNameMap (Collection.decode (room - 1)) closed members NameMap.empty
  | tree => .error (tree.unwanted .map)

/-- The members of a catalog, after the parts met so far. Their values may open `room` containers
at once. -/
def Catalog.decodeMembers (room : Nat) (closed : Bool) :
    List (Option String × Tree) → Option (NameMap Collection) → List (String × Json) →
      Except Problem Catalog
  | [], documents, extra =>
    if !closed then .error .malformed
    else
      match documents with
      | some documents => .ok ⟨documents, Assoc.ofEntries extra⟩
      | none => .error (.missingField "documents")
  | (none, _) :: _, _, _ => .error .malformed
  | (some name, tree) :: members, documents, extra =>
    if name = "documents" then
      if documents.isSome then .error (.duplicateField name)
      else
        match decodeDocuments room tree with
        | .ok documents => decodeMembers room closed members (some documents) extra
        | .error problem => .error problem
    else
      match tree.value room with
      | .ok value => decodeMembers room closed members documents (extra ++ [(name, value)])
      | .error problem => .error problem

def Catalog.ofTree : Tree → Except Problem Catalog
  | .object members closed => decodeMembers (maxDepth - 1) closed members none []
  | tree => .error (tree.unwanted .catalog)

/-- The catalog that the bytes of a file hold. -/
def Catalog.decode (bytes : ByteArray) : Except Problem Catalog :=
  (Document.read (Symbol.ofBytes bytes)).decode Catalog.ofTree

/-! ## Parts as texts of their own -/

/-- The schema that a text holds. -/
def Schema.parse (text : String) : Except Problem Schema :=
  (Document.read (Symbol.ofString text)).decode Schema.decode

/-- The record that a text holds. -/
def Record.parse (text : String) : Except Problem Record :=
  (Document.read (Symbol.ofString text)).decode (Record.decode maxDepth)

/-- The collection that a text holds. -/
def Collection.parse (text : String) : Except Problem Collection :=
  (Document.read (Symbol.ofString text)).decode (Collection.decode maxDepth)

/-- One of the known words, written as a string or as the only name of an object whose value is
null. -/
def decodeVariant (known : List String) : Tree → Except Problem String
  | .string (some word) => knownWord word
  | .object ((some word, tree) :: members) closed => do
    let word ← knownWord word
    match tree, members, closed with
    | .null, [], true => return word
    | .null, _, _ => throw .malformed
    | tree, _, _ => throw (tree.unwanted .unit)
  | _ => .error .malformed
where
  /-- The word, if it is known. -/
  knownWord (word : String) : Except Problem String :=
    if known.contains word then .ok word else .error (.unknownVariant word known)

/-- The known word that a text holds. -/
def parseVariant (known : List String) (text : String) : Except Problem String :=
  (Document.read (Symbol.ofString text)).decode (decodeVariant known)

end DocStore
