-- SUMMARY: Which records an insertion and an update accept under one schema: the same ones, unless the schema declares the identifier.
import DocStore.Proofs.Database.Conformance
import DocStore.Proofs.Json.Equality

/-!
# Validation on insertion and on update

An insertion checks the fields before they have an identifier, an update checks whole records. Both
say the same of every declared field but the identifier. A declaration of the identifier is another
matter: an insertion finds nothing under its name, so it refuses a required one and accepts any
other, and an update finds a number there, so it accepts a number and refuses anything else.

So the two agree on the records of a schema that does not declare the identifier. One that declares
it as a string, say, lets every record in and refuses each of them ever after.
-/

namespace DocStore

/-! ## Refusal -/

/-- Whether an operation failed because of a schema. -/
def Refused {α : Type} (result : Except Error α) : Prop :=
  ∃ collection violation, result = .error (.schemaViolation collection violation)

@[simp] theorem not_refused_ok {α : Type} (a : α) : ¬Refused (.ok a : Except Error α) := nofun

/-- A sequence is refused in its first part, or in the second after the first one went well. -/
theorem refused_bind {α β : Type} {x : Except Error α} {f : α → Except Error β} :
    Refused (x >>= f) ↔ Refused x ∨ ∃ a, x = .ok a ∧ Refused (f a) := by
  cases x with
  | error error => simp [Refused]
  | ok a => simp

/-! ## The two checks -/

/-- Null is the only value that a record may not hold. -/
theorem Kind.isAllowed_of_eq_false {value : Json} :
    (Kind.of value).isAllowed = false ↔ value = .null := by
  cases value <;> simp [Kind.of, Kind.isAllowed]

theorem FieldSpec.allows_none {spec : FieldSpec} : spec.Allows none ↔ spec.isRequired = false := by
  constructor
  · intro allows
    simpa using allows.present
  · intro optional
    exact ⟨fun required => by simp [optional] at required, nofun⟩

theorem FieldSpec.allows_some {spec : FieldSpec} {value : Json} :
    spec.Allows (some value) ↔ (Kind.of value).name = spec.kind := by
  constructor
  · intro allows
    exact allows.kind value rfl
  · intro kind
    refine ⟨fun _ => rfl, ?_⟩
    rintro v ⟨⟩
    exact kind

namespace Schema

variable {schema : Schema} {fields : Object} {r : Record}

/-- A record passes exactly if each declaration allows what it has there. -/
theorem checkRecord_eq_ok_iff :
    schema.checkRecord fields = .ok () ↔
      ∀ entry ∈ schema.entries, entry.2.Allows (Assoc.get? entry.1 fields) := by
  unfold checkRecord
  split
  · rename_i found
    obtain ⟨entry, mem, violates⟩ := List.exists_of_findSome?_eq_some found
    constructor
    · intro passed
      cases passed
    · intro allowed
      cases (fieldViolation?_eq_none.2 (allowed entry mem)).symm.trans violates
  · rename_i accepted
    refine iff_of_true rfl fun entry mem => ?_
    exact fieldViolation?_eq_none.1 (List.findSome?_eq_none_iff.1 accepted entry mem)

/-- A check of the fields that a record has is a check of the record and of the declaration of the
identifier. -/
theorem checkRecord_eq_ok_iff_accepts
    (same : ∀ name, name ≠ idField → r.get? name = Assoc.get? name fields) :
    schema.checkRecord fields = .ok () ↔
      schema.Accepts r ∧ ∀ spec ∈ schema.get? idField, spec.Allows (Assoc.get? idField fields) := by
  constructor
  · intro checked
    refine ⟨accepts_of_checkRecord same checked, ?_⟩
    intro spec declared
    exact checkRecord_eq_ok_iff.1 checked (idField, spec) (NameMap.get?_eq_some_iff.1 declared)
  · rintro ⟨accepts, identifier⟩
    rw [checkRecord_eq_ok_iff]
    intro entry mem
    by_cases isId : entry.1 = idField
    · have declared : schema.get? idField = some entry.2 :=
        NameMap.get?_eq_some_iff.2 (isId ▸ mem)
      rw [isId]
      exact identifier entry.2 declared
    · rw [← same entry.1 isId]
      exact accepts entry mem isId

/-- What is checked of a new record. -/
theorem checkRecord_erase_eq_ok_iff (id : RecordId) (nodup : (Assoc.keys fields).Nodup) :
    schema.checkRecord (Assoc.erase idField fields) = .ok () ↔
      schema.Accepts (Record.new id (Assoc.erase idField fields)) ∧
        ∀ spec ∈ schema.get? idField, spec.isRequired = false := by
  rw [checkRecord_eq_ok_iff_accepts fun name notId =>
    Record.get?_new notId id (Assoc.nodup_keys_erase nodup)]
  simp only [Assoc.get?_erase_self, FieldSpec.allows_none]

/-- What is checked of a record that is updated. -/
theorem checkRecord_toObject_eq_ok_iff :
    schema.checkRecord r.toObject = .ok () ↔
      schema.Accepts r ∧ ∀ spec ∈ schema.get? idField, spec.kind = Kind.number.name := by
  rw [checkRecord_eq_ok_iff_accepts fun _ _ => rfl]
  change schema.Accepts r ∧ (∀ spec ∈ schema.get? idField, spec.Allows (r.get? idField)) ↔ _
  simp only [Record.get?_idField, FieldSpec.allows_some]
  refine and_congr_right fun _ => forall₂_congr fun _ _ => ?_
  exact eq_comm

end Schema

/-! ## Records by identifier -/

theorem RecordId.wellFormed_toJson (id : RecordId) : (RecordId.toJson id).WellFormed := by
  have bound := id.toNat_lt
  refine Number.wellFormed_int.2 ⟨?_, ?_⟩ <;> omega

/-- Identifiers are strictly equal as values exactly if they are equal. -/
theorem RecordId.strictEq_toJson {id other : RecordId} :
    (RecordId.toJson id).strictEq (RecordId.toJson other) = true ↔ id = other := by
  have exact := Number.strictEq_int (RecordId.wellFormed_toJson id) (RecordId.wellFormed_toJson other)
  rw [RecordId.toJson, RecordId.toJson, Json.strictEq, exact, Nat.cast_inj, UInt64.toNat_inj]

/-- The predicate of an identifier matches the record that has it. -/
theorem Predicate.holds_byId {id : RecordId} {r : Record} :
    (Predicate.byId id).holds r = true ↔ r.id = id := by
  have fields : (Predicate.byId id).fields = [(idField, RecordId.toJson id)] := rfl
  simp only [Predicate.holds, fields, List.all_cons, List.all_nil, Bool.and_true,
    Predicate.fieldMatches, Record.get?_idField, RecordId.strictEq_toJson]

namespace Collection

theorem schema_insert (c : Collection) (policy : IdPolicy) (fields : Object) :
    (c.insert policy fields).2.schema = c.schema := by
  cases policy <;> rfl

theorem records_insert (c : Collection) (policy : IdPolicy) (fields : Object) :
    (c.insert policy fields).2.records = c.records ++ [(c.insert policy fields).1] := by
  cases policy <;> rfl

end Collection

/-! ## The two operations -/

namespace Catalog

variable {c : Catalog} {name : String} {collection : Collection} {schema : Schema}

/-- Values pass exactly if none of them is null. -/
theorem checkKinds_eq_ok {fields : Object} :
    checkKinds fields = .ok () ↔ ∀ field ∈ fields, field.2 ≠ .null := by
  have none : fields.find? (fun field => !(Kind.of field.2).isAllowed) = none ↔
      ∀ field ∈ fields, field.2 ≠ .null := by
    simp only [List.find?_eq_none, Bool.not_eq_true', Kind.isAllowed_of_eq_false, ne_eq]
  rw [← none, checkKinds]
  cases fields.find? (fun field => !(Kind.of field.2).isAllowed) <;> simp

theorem checkSchema_eq_ok {fields : Object} :
    checkSchema true name (some schema) fields = .ok () ↔ schema.checkRecord fields = .ok () :=
  mapError_eq_ok

theorem refused_checkSchema {fields : Object} :
    Refused (checkSchema true name (some schema) fields) ↔ schema.checkRecord fields ≠ .ok () := by
  cases checked : schema.checkRecord fields with
  | ok _ => simp [checkSchema, checked, Except.mapError]
  | error violation => simp [checkSchema, checked, Except.mapError, Refused]

/-- Merges are refused if one of the merged records does not keep to the schema. -/
theorem refused_checkMerges {patch : Object} {records : List Record} :
    Refused (checkMerges true name (some schema) patch records) ↔
      ∃ r ∈ records, schema.checkRecord (r.merge patch).toObject ≠ .ok () := by
  induction records with
  | nil => simp [checkMerges]
  | cons r records ih =>
    rw [checkMerges, refused_bind, refused_checkSchema, List.exists_mem_cons_iff, ← ih]
    by_cases passes : schema.checkRecord (r.merge patch).toObject = .ok ()
    · simp [passes, checkSchema_eq_ok.2 passes]
    · simp [passes]

/-- An insertion of fields without a null succeeds if their check does. -/
theorem insertRecord_eq_ok_iff (policy : IdPolicy) {fields : Object}
    (found : c.collection? name = some collection) (declared : collection.schema = some schema)
    (notNull : ∀ field ∈ fields, field.2 ≠ .null) :
    (∃ next, c.insertRecord policy true name fields =
      .ok ((collection.insert policy (Assoc.erase idField fields)).1, next)) ↔
      schema.checkRecord (Assoc.erase idField fields) = .ok () := by
  have kinds : checkKinds (Assoc.erase idField fields) = .ok () :=
    checkKinds_eq_ok.2 fun field mem => notNull field (List.mem_filter.1 mem).1
  simp only [insertRecord, require_eq_ok found, kinds, declared, ok_bind, bind_eq_ok]
  constructor
  · rintro ⟨next, _, passed, -⟩
    exact checkSchema_eq_ok.1 passed
  · intro checked
    exact ⟨_, (), checkSchema_eq_ok.2 checked, rfl⟩

/-- An update by identifier without a patch is refused if the check of a record with this identifier
fails. -/
theorem refused_updateRecords_byId {id : RecordId} (found : c.collection? name = some collection)
    (declared : collection.schema = some schema) :
    Refused (c.updateRecords true name (some (.byId id)) []) ↔
      ∃ r ∈ collection.records, r.id = id ∧ schema.checkRecord r.toObject ≠ .ok () := by
  have notEmpty : (Predicate.byId id).isEmpty = false := rfl
  simp only [updateRecords, require_eq_ok found, declared, ok_bind, notEmpty, Bool.false_eq_true,
    if_false, refused_bind, refused_checkMerges]
  have merged : ∀ r : Record, r.merge [] = r := fun _ => rfl
  simp [Predicate.filter, Predicate.holds_byId, merged, and_assoc]

/-- After an insertion an update of the new record by its identifier, without a patch, is refused if
the identifier is declared as anything but a number, or if another record with this identifier is
not as declared. -/
theorem refused_update_of_insertRecord {policy : IdPolicy} {fields : Object} {r : Record}
    {next : Catalog} (found : c.collection? name = some collection)
    (declared : collection.schema = some schema) (nodup : (Assoc.keys fields).Nodup)
    (inserted : c.insertRecord policy true name fields = .ok (r, next)) :
    Refused (next.updateRecords true name (some (.byId r.id)) []) ↔
      (∃ spec ∈ schema.get? idField, spec.kind ≠ Kind.number.name) ∨
        ∃ other ∈ collection.records, other.id = r.id ∧ ¬schema.Accepts other := by
  obtain ⟨_, required, -, checked, rfl, rfl⟩ := insertRecord_ok inserted
  cases (require_eq_ok found).symm.trans required
  generalize bare : Assoc.erase idField fields = given at checked ⊢
  have accepted : schema.Accepts (collection.insert policy given).1 := by
    subst bare
    rw [declared, checkSchema_eq_ok] at checked
    exact ((Schema.checkRecord_erase_eq_ok_iff _ nodup).1 checked).1
  have there : (c.withCollection name (collection.insert policy given).2).collection? name =
      some (collection.insert policy given).2 := NameMap.get?_insert_self ..
  rw [refused_updateRecords_byId there ((collection.schema_insert policy given).trans declared),
    collection.records_insert]
  simp only [ne_eq, Schema.checkRecord_toObject_eq_ok_iff, not_and_or, List.mem_append,
    List.mem_singleton]
  constructor
  · rintro ⟨other, old | rfl, same, fails | misdeclared⟩
    · exact .inr ⟨other, old, same, fails⟩
    · exact .inl (by simpa using misdeclared)
    · exact absurd accepted fails
    · exact .inl (by simpa using misdeclared)
  · rintro (⟨spec, isDeclared, kind⟩ | ⟨other, old, same, fails⟩)
    · exact ⟨_, .inr rfl, rfl, .inr fun numbers => kind (numbers spec isDeclared)⟩
    · exact ⟨other, .inl old, same, .inl fails⟩

/-- An insertion succeeds exactly if the check of the record that it stores does, unless that record
is as declared and the identifier is declared in a way on which the two differ: as a required number,
or as something else that is not required. Once inserted, a record can be updated by its identifier
as it is, unless the identifier is declared as anything but a number or another record with the same
identifier is not as declared. -/
theorem insert_agrees_with_update_iff (policy : IdPolicy) {fields : Object}
    (found : c.collection? name = some collection) (declared : collection.schema = some schema)
    (nodup : (Assoc.keys fields).Nodup) (notNull : ∀ field ∈ fields, field.2 ≠ .null) :
    let stored := (collection.insert policy (Assoc.erase idField fields)).1
    (((∃ next, c.insertRecord policy true name fields = .ok (stored, next)) ↔
        schema.checkRecord stored.toObject = .ok ()) ↔
      (schema.Accepts stored → ∀ spec ∈ schema.get? idField,
        (spec.isRequired = false ↔ spec.kind = Kind.number.name))) ∧
    ∀ r next, c.insertRecord policy true name fields = .ok (r, next) →
      (Refused (next.updateRecords true name (some (.byId r.id)) []) ↔
        (∃ spec ∈ schema.get? idField, spec.kind ≠ Kind.number.name) ∨
          ∃ other ∈ collection.records, other.id = r.id ∧ ¬schema.Accepts other) := by
  intro stored
  refine ⟨?_, fun r next inserted => refused_update_of_insertRecord found declared nodup inserted⟩
  rw [insertRecord_eq_ok_iff policy found declared notNull,
    Schema.checkRecord_erase_eq_ok_iff stored.id nodup, Schema.checkRecord_toObject_eq_ok_iff]
  change (schema.Accepts stored ∧ _ ↔ schema.Accepts stored ∧ _) ↔ _
  rw [and_congr_right_iff]
  cases schema.get? idField <;> simp

/-- An identifier that is declared as a number, but not as required. -/
theorem insert_agrees_with_update_numbered :
    let schema := Schema.field (Schema.field NameMap.empty idField "number" false) "title" "string" true
    let c := Catalog.empty.createCollection "books" schema
    ∃ r next, c.insertRecord .maxPlusOne true "books" [("title", .string "Lean")] = .ok (r, next) ∧
      Schema.checkRecord schema r.toObject = .ok () ∧
      ¬Refused (next.updateRecords true "books" (some (.byId r.id)) []) := by
  intro schema c
  have found : c.collection? "books" = some (Collection.new schema) := rfl
  have inserted : c.insertRecord .maxPlusOne true "books" [("title", .string "Lean")] =
      .ok (⟨1, [("title", .string "Lean")]⟩, _) := rfl
  have declared : schema.get? idField = some ⟨"number", some false⟩ := rfl
  obtain ⟨agree, update⟩ := insert_agrees_with_update_iff .maxPlusOne found rfl
    (show (Assoc.keys [("title", Json.string "Lean")]).Nodup by decide) (by simp)
  refine ⟨_, _, inserted, (agree.2 ?_).1 ⟨_, inserted⟩, (update _ _ inserted).not.2 ?_⟩
  · rintro - spec same
    cases declared.symm.trans same
    decide
  · rintro (⟨spec, same, kind⟩ | ⟨other, there, -⟩)
    · cases declared.symm.trans same
      exact kind rfl
    · cases there

/-- An identifier that is declared as a string: an insertion stores what the check refuses, and the
stored record cannot be updated. Declared as a required number: an insertion refuses what the check
of the record accepts. -/
theorem insert_disagrees_with_update :
    let asString := Schema.field NameMap.empty idField "string" false
    let asRequired := Schema.field NameMap.empty idField "number" true
    let fields : Object := [("a", .number (.int 1))]
    let stored : Record := ⟨1, fields⟩
    Schema.checkDefinition asString = .ok () ∧ Schema.checkDefinition asRequired = .ok () ∧
    (∃ next, (Catalog.empty.createCollection "t" asString).insertRecord .maxPlusOne true "t" fields =
        .ok (stored, next) ∧
      Schema.checkRecord asString stored.toObject = .error (.wrongKind idField "string" .number) ∧
      next.updateRecords true "t" (some (.byId stored.id)) [] =
        .error (.schemaViolation "t" (.wrongKind idField "string" .number))) ∧
    (Catalog.empty.createCollection "t" asRequired).insertRecord .maxPlusOne true "t" fields =
        .error (.schemaViolation "t" (.missing idField)) ∧
      Schema.checkRecord asRequired stored.toObject = .ok () := by
  refine ⟨rfl, rfl, ⟨_, rfl, rfl, rfl⟩, rfl, rfl⟩

end Catalog

end DocStore
