-- SUMMARY: When an insertion or an update succeeds, and which of several causes it fails with.
import DocStore.Proofs.Database.Validation
import DocStore.Proofs.Text.Order

/-!
# Outcomes of insertions and updates

An insertion asks for its collection, looks at the kinds of the fields and then at the schema; an
update asks for its collection, for a predicate that asks for something, and then looks at the schema
once for every record that matches. What comes first counts, so of several causes an operation fails
with one: of the fields with a null the first one, of the records that match the first whose merge is
not as declared, and of the declared fields the first one by the bytes of their names.
-/

namespace DocStore

/-! ## Schemas -/

namespace Schema

variable {schema : Schema} {fields : Object} {violation : Violation}

/-- Whether fields have everything that is declared as it is declared. -/
def Admits (schema : Schema) (fields : Object) : Prop :=
  ∀ entry ∈ schema.entries, entry.2.Allows (Assoc.get? entry.1 fields)

instance (schema : Schema) (fields : Object) : Decidable (schema.Admits fields) :=
  inferInstanceAs (Decidable (∀ _ ∈ _, _))

/-- In which way fields do not have a declared field as it is declared. -/
inductive FieldFault (fields : Object) (name : String) (spec : FieldSpec) : Violation → Prop where
  | missing : Assoc.get? name fields = none → spec.isRequired = true →
      FieldFault fields name spec (.missing name)
  | wrongKind {value : Json} : Assoc.get? name fields = some value →
      (Kind.of value).name ≠ spec.kind →
      FieldFault fields name spec (.wrongKind name spec.kind (Kind.of value))

/-- The violation of the declared field that comes first, by the bytes of its name, of those that are
not as declared. -/
def FirstFault (schema : Schema) (fields : Object) (violation : Violation) : Prop :=
  ∃ entry ∈ schema.entries, FieldFault fields entry.1 entry.2 violation ∧
    ∀ other ∈ schema.entries, Text.bytes other.1 < Text.bytes entry.1 →
      other.2.Allows (Assoc.get? other.1 fields)

/-- What is said of a declared field is what is at fault with it. -/
theorem fieldViolation?_eq_some {name : String} {spec : FieldSpec} :
    fieldViolation? fields name spec = some violation ↔ FieldFault fields name spec violation := by
  unfold fieldViolation?
  cases value : Assoc.get? name fields with
  | none =>
    constructor
    · intro found
      obtain ⟨required, same⟩ := Option.ite_none_right_eq_some.1 found
      cases same
      exact .missing value required
    · intro fault
      cases fault with
      | missing _ required => exact if_pos required
      | wrongKind there _ => cases value.symm.trans there
  | some v =>
    constructor
    · intro found
      obtain ⟨different, same⟩ := Option.ite_none_left_eq_some.1 found
      cases same
      exact .wrongKind value (by simpa using different)
    · intro fault
      cases fault with
      | missing none _ => cases value.symm.trans none
      | wrongKind there different =>
        cases value.symm.trans there
        exact if_neg (by simpa using different)

/-- In the entries of a map those before one are the ones that come before it by their bytes. -/
theorem mem_before_iff {before after : List (String × FieldSpec)} {entry other : String × FieldSpec}
    (split : schema.entries = before ++ entry :: after) :
    other ∈ before ↔ other ∈ schema.entries ∧ Text.bytes other.1 < Text.bytes entry.1 := by
  have sorted := schema.sorted
  rw [split, List.pairwise_append, List.pairwise_cons] at sorted
  rw [← Text.lt_iff_bytes_lt, split, List.mem_append, List.mem_cons]
  constructor
  · intro mem
    exact ⟨.inl mem, sorted.2.2 other mem entry List.mem_cons_self⟩
  · rintro ⟨mem | rfl | mem, less⟩
    · exact mem
    · exact absurd less (String.lt_irrefl _)
    · exact absurd less (String.lt_asymm (sorted.2.1.1 other mem))

/-- A record is refused for the first fault, in the order of the names that are declared. -/
theorem checkRecord_eq_error :
    schema.checkRecord fields = .error violation ↔ schema.FirstFault fields violation := by
  have found : schema.checkRecord fields = .error violation ↔
      schema.entries.findSome? (fun entry => fieldViolation? fields entry.1 entry.2) =
        some violation := by
    unfold checkRecord
    split
    · rename_i first
      change schema.entries.findSome? (fun entry => fieldViolation? fields entry.1 entry.2) = _ at first
      rw [first, Except.error.injEq, Option.some.injEq]
    · rename_i none
      change schema.entries.findSome? (fun entry => fieldViolation? fields entry.1 entry.2) = _ at none
      simp [none]
  rw [found, List.findSome?_eq_some_iff]
  constructor
  · rintro ⟨before, entry, after, split, violates, earlier⟩
    refine ⟨entry, by simp [split], fieldViolation?_eq_some.1 violates, ?_⟩
    intro other mem less
    exact fieldViolation?_eq_none.1 (earlier other ((mem_before_iff split).2 ⟨mem, less⟩))
  · rintro ⟨entry, mem, fault, earlier⟩
    obtain ⟨before, after, split⟩ := List.append_of_mem mem
    refine ⟨before, entry, after, split, fieldViolation?_eq_some.2 fault, ?_⟩
    intro other otherMem
    obtain ⟨there, less⟩ := (mem_before_iff split).1 otherMem
    exact fieldViolation?_eq_none.2 (earlier other there less)

end Schema

/-! ## The checks -/

namespace Catalog

variable {c : Catalog} {enforce : Bool} {name : String} {schema : Option Schema} {fields patch : Object}
variable {error : Error}

/-- Whether no field but the identifier is null. -/
def NullFree (fields : Object) : Prop :=
  ∀ field ∈ fields, field.1 ≠ idField → field.2 ≠ .null

/-- Fields are insertable exactly if none but the identifier is null. -/
theorem checkKinds_erase_eq_ok : checkKinds (Assoc.erase idField fields) = .ok () ↔ NullFree fields := by
  rw [checkKinds_eq_ok]
  simp only [Assoc.erase, List.mem_filter, decide_eq_true_iff, and_imp, NullFree]

/-- Fields are refused for the first value, in their order, that a record may not hold. -/
theorem checkKinds_eq_error :
    checkKinds fields = .error error ↔
      ∃ field, fields.find? (fun field => !(Kind.of field.2).isAllowed) = some field ∧
        error = .invalidFieldType field.1 (Kind.of field.2) := by
  unfold checkKinds
  cases fields.find? (fun field => !(Kind.of field.2).isAllowed) with
  | none => simp
  | some field =>
    rw [Except.error.injEq]
    constructor
    · intro same
      exact ⟨field, rfl, same.symm⟩
    · rintro ⟨_, ⟨⟩, same⟩
      exact same.symm

/-- An insertion is refused for the first field that is null, the identifier apart. -/
theorem checkKinds_erase_eq_error :
    checkKinds (Assoc.erase idField fields) = .error error ↔
      ∃ before field after, fields = before ++ (field, .null) :: after ∧ field ≠ idField ∧
        NullFree before ∧ error = .invalidFieldType field .null := by
  simp only [checkKinds_eq_error, Assoc.erase, List.find?_filter, List.find?_eq_some_iff_append,
    Bool.not_eq_true', Kind.isAllowed_of_eq_false, decide_eq_true_iff, decide_eq_false_iff_not, not_and]
  constructor
  · rintro ⟨⟨field, value⟩, ⟨⟨notId, rfl⟩, before, after, split, earlier⟩, rfl⟩
    exact ⟨before, field, after, split, notId, earlier, rfl⟩
  · rintro ⟨before, field, after, split, notId, nullFree, rfl⟩
    exact ⟨(field, .null), ⟨⟨notId, rfl⟩, before, after, split, nullFree⟩, rfl⟩

/-- Under enforcement fields pass exactly if the schema, where there is one, admits them. -/
theorem checkSchema_eq_ok_iff :
    checkSchema enforce name schema fields = .ok () ↔
      (enforce = true → ∀ declared ∈ schema, declared.Admits fields) := by
  cases enforce with
  | false => simp [checkSchema]
  | true =>
    cases schema with
    | none => simp [checkSchema]
    | some declared => simp [checkSchema_eq_ok, Schema.checkRecord_eq_ok_iff, Schema.Admits]

/-- Under enforcement fields are refused for the first fault against the schema. -/
theorem checkSchema_eq_error :
    checkSchema enforce name schema fields = .error error ↔
      enforce = true ∧ ∃ declared ∈ schema, ∃ violation, declared.FirstFault fields violation ∧
        error = .schemaViolation name violation := by
  cases enforce with
  | false => simp [checkSchema]
  | true =>
    cases schema with
    | none => simp [checkSchema]
    | some declared =>
      simp only [checkSchema, mapError_eq_error, Schema.checkRecord_eq_error]
      simp [eq_comm]

/-- A check of merges fails as the first one that fails does. -/
theorem checkMerges_eq_error {records : List Record} :
    checkMerges enforce name schema patch records = .error error ↔
      ∃ before r after, records = before ++ r :: after ∧
        (∀ other ∈ before, checkSchema enforce name schema (other.merge patch).toObject = .ok ()) ∧
        checkSchema enforce name schema (r.merge patch).toObject = .error error := by
  induction records with
  | nil => simp [checkMerges]
  | cons first records ih =>
    rw [checkMerges, bind_eq_error, ih]
    constructor
    · rintro (fails | ⟨_, passes, before, r, after, rfl, earlier, fails⟩)
      · exact ⟨[], first, records, rfl, List.forall_mem_nil _, fails⟩
      · exact ⟨first :: before, r, after, rfl, List.forall_mem_cons.2 ⟨passes, earlier⟩, fails⟩
    · rintro ⟨_ | ⟨_, before⟩, r, after, split, earlier, fails⟩
      · cases split
        exact .inl fails
      · cases split
        obtain ⟨passes, rest⟩ := List.forall_mem_cons.1 earlier
        exact .inr ⟨(), passes, before, r, after, rfl, rest, fails⟩

/-! ## Insertions -/

/-- Whether an insertion is allowed. -/
def InsertAllowed (enforce : Bool) (c : Catalog) (name : String) (fields : Object) : Prop :=
  ∃ collection, c.collection? name = some collection ∧ NullFree fields ∧
    (enforce = true → ∀ schema ∈ collection.schema, schema.Admits (Assoc.erase idField fields))

/-- Why an insertion is refused. -/
inductive InsertRefused (enforce : Bool) (c : Catalog) (name : String) (fields : Object) :
    Error → Prop where
  | collectionNotFound : c.collection? name = none →
      InsertRefused enforce c name fields (.collectionNotFound name)
  /-- The first field that is null, the identifier apart. -/
  | invalidFieldType {collection : Collection} {before after : Object} {field : String} :
      c.collection? name = some collection →
      fields = before ++ (field, .null) :: after → field ≠ idField → NullFree before →
      InsertRefused enforce c name fields (.invalidFieldType field .null)
  | schemaViolation {collection : Collection} {schema : Schema} {violation : Schema.Violation} :
      c.collection? name = some collection → NullFree fields →
      enforce = true → collection.schema = some schema →
      schema.FirstFault (Assoc.erase idField fields) violation →
      InsertRefused enforce c name fields (.schemaViolation name violation)

/-- An insertion succeeds exactly if it is allowed. -/
theorem insertRecord_eq_ok (policy : IdPolicy) :
    (∃ result, c.insertRecord policy enforce name fields = .ok result) ↔
      c.InsertAllowed enforce name fields := by
  constructor
  · rintro ⟨⟨r, next⟩, inserted⟩
    obtain ⟨collection, required, kinds, checked, -, -⟩ := insertRecord_ok inserted
    exact ⟨collection, collection?_of_require required, checkKinds_erase_eq_ok.1 kinds,
      checkSchema_eq_ok_iff.1 checked⟩
  · rintro ⟨collection, found, nullFree, admits⟩
    simp only [insertRecord, require_eq_ok found, checkKinds_erase_eq_ok.2 nullFree,
      checkSchema_eq_ok_iff.2 admits, ok_bind]
    exact ⟨_, rfl⟩

/-- An insertion fails with exactly the error for which it is refused. -/
theorem insertRecord_eq_error (policy : IdPolicy) :
    c.insertRecord policy enforce name fields = .error error ↔
      c.InsertRefused enforce name fields error := by
  constructor
  · intro refused
    unfold insertRecord at refused
    rcases bind_eq_error.1 refused with refused | ⟨collection, required, refused⟩
    · obtain ⟨absent, rfl⟩ := require_eq_error.1 refused
      exact .collectionNotFound absent
    have found := collection?_of_require required
    rcases bind_eq_error.1 refused with refused | ⟨_, kinds, refused⟩
    · obtain ⟨before, field, after, split, notId, earlier, rfl⟩ :=
        checkKinds_erase_eq_error.1 refused
      exact .invalidFieldType found split notId earlier
    have nullFree := checkKinds_erase_eq_ok.1 kinds
    rcases bind_eq_error.1 refused with refused | ⟨_, -, inserted⟩
    · obtain ⟨enforced, schema, declared, violation, fault, rfl⟩ := checkSchema_eq_error.1 refused
      exact .schemaViolation found nullFree enforced declared fault
    · cases inserted
  · intro refused
    cases refused with
    | collectionNotFound absent =>
      simp only [insertRecord, require_eq_error.2 ⟨absent, rfl⟩, error_bind]
    | invalidFieldType found split notId earlier =>
      have kinds := checkKinds_erase_eq_error.2 ⟨_, _, _, split, notId, earlier, rfl⟩
      simp only [insertRecord, require_eq_ok found, ok_bind, kinds, error_bind]
    | schemaViolation found nullFree enforced declared fault =>
      have checked : checkSchema enforce name _ (Assoc.erase idField fields) = .error _ :=
        checkSchema_eq_error.2 ⟨enforced, _, declared, _, fault, rfl⟩
      simp only [insertRecord, require_eq_ok found, ok_bind, checkKinds_erase_eq_ok.2 nullFree,
        checked, error_bind]

/-! ## Updates -/

/-- Whether an update is allowed. -/
def UpdateAllowed (enforce : Bool) (c : Catalog) (name : String) (p : Option Predicate)
    (patch : Object) : Prop :=
  ∃ collection q, c.collection? name = some collection ∧ p = some q ∧ q.isEmpty = false ∧
    (enforce = true → ∀ schema ∈ collection.schema, ∀ r ∈ collection.records, q.holds r = true →
      schema.Admits (r.merge patch).toObject)

/-- Why an update is refused. -/
inductive UpdateRefused (enforce : Bool) (c : Catalog) (name : String) (p : Option Predicate)
    (patch : Object) : Error → Prop where
  | collectionNotFound : c.collection? name = none →
      UpdateRefused enforce c name p patch (.collectionNotFound name)
  | missingPredicate {collection : Collection} :
      c.collection? name = some collection → (∀ q ∈ p, q.isEmpty = true) →
      UpdateRefused enforce c name p patch .missingPredicate
  /-- The first of the records that match whose merge is not as declared. -/
  | schemaViolation {collection : Collection} {q : Predicate} {schema : Schema}
      {before after : List Record} {r : Record} {violation : Schema.Violation} :
      c.collection? name = some collection → p = some q → q.isEmpty = false →
      enforce = true → collection.schema = some schema →
      collection.select (some q) = before ++ r :: after →
      (∀ other ∈ before, schema.Admits (other.merge patch).toObject) →
      schema.FirstFault (r.merge patch).toObject violation →
      UpdateRefused enforce c name p patch (.schemaViolation name violation)

/-- An update succeeds exactly if it is allowed. -/
theorem updateRecords_eq_ok {p : Option Predicate} :
    (∃ result, c.updateRecords enforce name p patch = .ok result) ↔
      c.UpdateAllowed enforce name p patch := by
  constructor
  · rintro ⟨⟨count, next⟩, updated⟩
    obtain ⟨collection, q, required, rfl, notEmpty, checked, -, -⟩ := updateRecords_ok updated
    refine ⟨collection, q, collection?_of_require required, rfl, notEmpty, ?_⟩
    intro enforced schema declared r mem holds
    have merged := checkMerges_eq_ok.1 checked r (List.mem_filter.2 ⟨mem, holds⟩)
    exact checkSchema_eq_ok_iff.1 merged enforced schema declared
  · rintro ⟨collection, q, found, rfl, notEmpty, admits⟩
    have checked : checkMerges enforce name collection.schema patch (q.filter collection.records) =
        .ok () := by
      rw [checkMerges_eq_ok]
      intro r mem
      obtain ⟨there, holds⟩ := List.mem_filter.1 mem
      rw [checkSchema_eq_ok_iff]
      intro enforced schema declared
      exact admits enforced schema declared r there holds
    rw [updateRecords_eq found, notEmpty, checked]
    exact ⟨_, rfl⟩

/-- An update fails with exactly the error for which it is refused. -/
theorem updateRecords_eq_error {p : Option Predicate} :
    c.updateRecords enforce name p patch = .error error ↔
      c.UpdateRefused enforce name p patch error := by
  constructor
  · intro refused
    cases found : c.collection? name with
    | none =>
      simp only [updateRecords, require_eq_error.2 ⟨found, rfl⟩, error_bind] at refused
      cases refused
      exact .collectionNotFound found
    | some collection =>
      cases p with
      | none =>
        simp only [updateRecords, require_eq_ok found, ok_bind, throw_eq_error] at refused
        cases refused
        refine .missingPredicate found ?_
        rintro _ ⟨⟩
      | some q =>
        rw [updateRecords_eq found] at refused
        cases empty : q.isEmpty with
        | true =>
          rw [if_pos empty] at refused
          cases refused
          refine .missingPredicate found ?_
          rintro _ ⟨⟩
          exact empty
        | false =>
          rw [if_neg (by simp [empty]), map_eq_error, checkMerges_eq_error] at refused
          obtain ⟨before, r, after, split, earlier, fails⟩ := refused
          obtain ⟨enforced, schema, declared, violation, fault, rfl⟩ := checkSchema_eq_error.1 fails
          refine .schemaViolation found rfl empty enforced declared split ?_ fault
          intro other mem
          exact checkSchema_eq_ok_iff.1 (earlier other mem) enforced schema declared
  · intro refused
    cases refused with
    | collectionNotFound absent =>
      simp only [updateRecords, require_eq_error.2 ⟨absent, rfl⟩, error_bind]
    | missingPredicate found empty =>
      cases p with
      | none => simp only [updateRecords, require_eq_ok found, ok_bind, throw_eq_error]
      | some q => rw [updateRecords_eq found, if_pos (empty q rfl)]
    | @schemaViolation collection q schema before after r violation found same notEmpty enforced
        declared split earlier fault =>
      subst same
      rw [updateRecords_eq found, if_neg (by simp [notEmpty]), map_eq_error, checkMerges_eq_error]
      refine ⟨before, r, after, split, ?_, ?_⟩
      · intro other mem
        rw [checkSchema_eq_ok_iff, declared]
        rintro - _ ⟨⟩
        exact earlier other mem
      · exact checkSchema_eq_error.2 ⟨enforced, schema, declared, violation, fault, rfl⟩

end Catalog

/-! ## Operations on a database -/

/-- An insertion into a database that can be loaded and that nothing hinders succeeds exactly if it is
allowed, and fails with an error exactly if this is why it is refused; and so does an update. -/
theorem Database.insert_and_update_outcome {db : Database} {fs : FileSystem} {c : Catalog}
    (content : db.file.content fs = .ok c) (unhindered : db.Unhindered fs) (name : String)
    (fields : Object) (p : Option Predicate) (patch : Object) :
    ((∃ r, ((db.insert name fields).runOn fs).1 = .ok r) ↔
      c.InsertAllowed db.options.enforceSchema name fields) ∧
    (∀ error, ((db.insert name fields).runOn fs).1 = .error error ↔
      c.InsertRefused db.options.enforceSchema name fields error) ∧
    ((∃ count, ((db.update name p patch).runOn fs).1 = .ok count) ↔
      c.UpdateAllowed db.options.enforceSchema name p patch) ∧
    ∀ error, ((db.update name p patch).runOn fs).1 = .error error ↔
      c.UpdateRefused db.options.enforceSchema name p patch error := by
  obtain ⟨directory, file, ready⟩ := unhindered.ready content
  have returned : ∀ {α : Type} {x : Except Error (α × Catalog)},
      (∃ a, x.map Prod.fst = .ok a) ↔ ∃ result, x = .ok result := by
    intro α x
    cases x <;> simp [Except.map]
  rw [Database.insert, Database.update, ready.result_write, ready.result_write]
  simp only [returned, map_eq_error]
  refine ⟨Catalog.insertRecord_eq_ok _, ?_, Catalog.updateRecords_eq_ok, ?_⟩
  · intro error
    exact Catalog.insertRecord_eq_error _
  · intro error
    exact Catalog.updateRecords_eq_error

/-- An insertion of fields of which two are null, into a collection whose schema asks for another
field; and an update of two records, of which both would have two fields of a wrong kind. -/
theorem Database.insert_and_update_outcome_books :
    let schema := Schema.field (Schema.field (Schema.field NameMap.empty "é" "number" false)
      "title" "string" true) "year" "number" false
    let book (id : RecordId) (title : String) : Record := ⟨id, [("title", .string title)]⟩
    let books : Collection := ⟨some schema, some [book 1 "a", book 2 "b", book 3 "a"], none, []⟩
    let db := Database.sample
    let fs := FileSystem.holding (Catalog.empty.withCollection "books" books)
    ((db.insert "books" [("_id", .null), ("year", .null), ("é", .null)]).runOn fs).1 =
        .error (.invalidFieldType "year" .null) ∧
    ((db.update "books" (some ⟨[("title", .string "a")]⟩)
        [("é", .bool true), ("year", .string "x")]).runOn fs).1 =
      .error (.schemaViolation "books" (.wrongKind "year" "number" .string)) := by
  intro schema book books db fs
  have content : db.file.content fs = .ok (Catalog.empty.withCollection "books" books) :=
    content_holding (by decide +kernel) (by decide +kernel) (by decide +kernel)
  have found := Catalog.collection?_withCollection Catalog.empty "books" books
  obtain ⟨-, insert, -, update⟩ := insert_and_update_outcome content (unhindered_holding _) "books"
    [("_id", .null), ("year", .null), ("é", .null)] (some ⟨[("title", .string "a")]⟩)
    [("é", .bool true), ("year", .string "x")]
  constructor
  · have split : [("_id", Json.null), ("year", .null), ("é", .null)] =
        [("_id", .null)] ++ ("year", .null) :: [("é", .null)] := rfl
    refine (insert _).2 (.invalidFieldType found split (by decide) ?_)
    intro field mem notId
    cases List.mem_singleton.1 mem
    exact absurd rfl notId
  · have split : books.select (some ⟨[("title", .string "a")]⟩) =
        [] ++ book 1 "a" :: [book 3 "a"] := rfl
    have fault : schema.FirstFault ((book 1 "a").merge [("é", .bool true), ("year", .string "x")]).toObject
        (.wrongKind "year" "number" .string) := by
      refine ⟨("year", ⟨"number", some false⟩), by decide +kernel, ?_, by decide +kernel⟩
      exact Schema.FieldFault.wrongKind (show _ = some (Json.string "x") from rfl) (by decide)
    exact (update _).2
      (.schemaViolation found rfl rfl rfl rfl split (List.forall_mem_nil _) fault)

end DocStore
