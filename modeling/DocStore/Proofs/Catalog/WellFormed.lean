-- SUMMARY: Well-formed catalogs: what reading and every operation keep.
import DocStore.Operation
import DocStore.Proofs.Json.Value
import DocStore.Proofs.NameMap

/-!
# Well-formed catalogs

A record never has a field under the reserved name, and the members that a collection or a catalog
carries along are never ones it knows. No list of fields or members has a repeated name, and every
value in it is sound. Schemas and the maps by name are sorted by their type and need no condition.
-/

namespace DocStore

/-- Whether the fields of a record are sound and none of them is under the reserved name. -/
structure Record.WellFormed (r : Record) : Prop where
  fields : (Json.object r.fields).Sound
  id : idField ∉ Assoc.keys r.fields

instance (r : Record) : Decidable r.WellFormed :=
  decidable_of_iff (_ ∧ _) ⟨fun h => ⟨h.1, h.2⟩, fun h => ⟨h.1, h.2⟩⟩

def Collection.knownNames : List String := ["schema", "data", "next_id"]

/-- Whether the records of a collection are well-formed, and the members it carries along are sound
and not known to it. -/
structure Collection.WellFormed (c : Collection) : Prop where
  records : ∀ r ∈ c.records, r.WellFormed
  extra : (Json.object c.extra).Sound
  unknown : ∀ name ∈ Collection.knownNames, name ∉ Assoc.keys c.extra

instance (c : Collection) : Decidable c.WellFormed :=
  decidable_of_iff (_ ∧ _ ∧ _) ⟨fun h => ⟨h.1, h.2.1, h.2.2⟩, fun h => ⟨h.1, h.2, h.3⟩⟩

/-- Whether the collections of a catalog are well-formed, and the members it carries along are sound
and not known to it. -/
structure Catalog.WellFormed (c : Catalog) : Prop where
  documents : ∀ entry ∈ c.documents.entries, entry.2.WellFormed
  extra : (Json.object c.extra).Sound
  unknown : "documents" ∉ Assoc.keys c.extra

instance (c : Catalog) : Decidable c.WellFormed :=
  decidable_of_iff (_ ∧ _ ∧ _) ⟨fun h => ⟨h.1, h.2.1, h.2.2⟩, fun h => ⟨h.1, h.2, h.3⟩⟩

/-! ## The value of a catalog -/

@[simp] theorem keys_optionMember (name : String) (value : Option Json) :
    Assoc.keys (optionMember name value) = if value.isSome then [name] else [] := by
  cases value <;> rfl

/-- A member that is written only if there is a value is found exactly then. -/
theorem get?_optionMember (name other : String) (value : Option Json) :
    Assoc.get? other (optionMember name value) = if other = name then value else none := by
  cases value with
  | none => simp [optionMember]
  | some value => simp [optionMember, Assoc.get?_cons, eq_comm]

theorem forall_mem_optionMember {α : Type} {name : String} {f : α → Json} {value : Option α}
    {motive : Json → Prop} :
    (∀ member ∈ optionMember name (value.map f), motive member.2) ↔ ∀ a ∈ value, motive (f a) := by
  cases value <;> simp [optionMember]

theorem RecordId.inRange (id : RecordId) : Number.InRange (.int id.toNat) := by
  have bound : id.toNat < 2 ^ 64 := id.toNat_lt
  simp only [Number.InRange, Number.minIntMagnitude, Number.maxInt]
  omega

theorem RecordId.sound_toJson (id : RecordId) : (toJson id).Sound :=
  id.inRange

/-- The text of a well-formed record has no member twice and only numbers in range. -/
theorem Record.WellFormed.sound_toJson {r : Record} (wf : r.WellFormed) : r.toJson.Sound := by
  obtain ⟨nodup, values⟩ := Json.sound_object.1 wf.fields
  refine Json.sound_object.2 ⟨List.nodup_cons.2 ⟨wf.id, nodup⟩, ?_⟩
  intro member mem
  rcases List.mem_cons.1 mem with rfl | mem
  · exact RecordId.sound_toJson r.id
  · exact values member mem

theorem FieldSpec.sound_toJson (spec : FieldSpec) : spec.toJson.Sound := by
  obtain ⟨kind, required⟩ := spec
  cases required <;> simp [FieldSpec.toJson, optionMember, Json.Sound]

theorem Schema.sound_toJson (schema : Schema) : schema.toJson.Sound := by
  refine Json.sound_object.2 ⟨?_, List.forall_mem_map.2 fun entry _ => entry.2.sound_toJson⟩
  rw [Assoc.keys_map]
  exact schema.nodup_keys

namespace Collection

def recordsJson (records : List Record) : Json :=
  .array (records.map Record.toJson)

/-- The members of a collection stand in a fixed order, the user's own behind the known ones. -/
theorem toJson_eq (c : Collection) :
    c.toJson = .object (
      optionMember "schema" (c.schema.map Schema.toJson) ++
      (optionMember "data" (c.data.map recordsJson) ++
      (optionMember "next_id" (c.nextId.map RecordId.toJson) ++ c.extra))) := by
  simp only [toJson, List.append_assoc]
  rfl

/-- The text of a well-formed collection has no member twice and only numbers in range. -/
theorem WellFormed.sound_toJson {c : Collection} (wf : c.WellFormed) : c.toJson.Sound := by
  obtain ⟨nodup, values⟩ := Json.sound_object.1 wf.extra
  have unknown := wf.unknown
  simp only [knownNames, List.forall_mem_cons] at unknown
  obtain ⟨schema, data, nextId, _⟩ := unknown
  rw [toJson_eq]
  refine Json.sound_object.2 ⟨?_, ?_⟩
  · simp only [Assoc.keys_append, keys_optionMember]
    split <;> split <;> split <;> simp [nodup, schema, data, nextId]
  · simp only [List.forall_mem_append, forall_mem_optionMember]
    refine ⟨fun schema _ => schema.sound_toJson, fun records same => ?_,
      fun id _ => id.sound_toJson, values⟩
    refine Json.sound_array.2 (List.forall_mem_map.2 fun r mem => ?_)
    exact (wf.records r (by rw [Collection.records, Option.mem_def.1 same]; exact mem)).sound_toJson

end Collection

namespace Catalog

def documentsJson (documents : NameMap Collection) : Json :=
  .object (documents.entries.map fun entry => (entry.1, entry.2.toJson))

theorem toJson_eq (c : Catalog) :
    c.toJson = .object (("documents", documentsJson c.documents) :: c.extra) := rfl

/-- The text of a well-formed catalog has no member twice and only numbers in range. -/
theorem WellFormed.sound_toJson {c : Catalog} (wf : c.WellFormed) : c.toJson.Sound := by
  obtain ⟨nodup, values⟩ := Json.sound_object.1 wf.extra
  have documents : (documentsJson c.documents).Sound := by
    refine Json.sound_object.2 ⟨?_, List.forall_mem_map.2 fun entry mem => ?_⟩
    · rw [Assoc.keys_map]
      exact c.documents.nodup_keys
    · exact (wf.documents entry mem).sound_toJson
  exact Json.sound_object.2
    ⟨List.nodup_cons.2 ⟨wf.unknown, nodup⟩, List.forall_mem_cons.2 ⟨documents, values⟩⟩

end Catalog

/-! ## Operations on records -/

namespace Record

@[simp] theorem get?_idField (r : Record) : r.get? idField = some (RecordId.toJson r.id) := by
  rw [get?, toObject, Assoc.get?_cons, if_pos rfl]

theorem get?_of_ne {name : String} (notId : name ≠ idField) (r : Record) :
    r.get? name = Assoc.get? name r.fields := by
  rw [get?, toObject, Assoc.get?_cons, if_neg notId.symm]

/-- A new record is well-formed: a field of the reserved name is not taken into it. -/
theorem wellFormed_new (id : RecordId) {fields : Object} (sound : ∀ field ∈ fields, field.2.Sound) :
    (Record.new id fields).WellFormed := by
  have kept : ∀ field ∈ Assoc.ofEntries (Assoc.erase idField fields),
      field ∈ Assoc.erase idField fields := fun _ => Assoc.mem_of_mem_ofEntries
  refine ⟨Json.sound_object.2 ⟨Assoc.nodup_keys_ofEntries _, fun field mem => ?_⟩, fun mem => ?_⟩
  · exact sound field (List.mem_filter.1 (kept field mem)).1
  · obtain ⟨field, memFields, same⟩ := List.mem_map.1 mem
    have erased := Assoc.mem_keys_of_mem (kept field memFields)
    rw [same] at erased
    exact Assoc.not_mem_keys_erase idField fields erased

theorem WellFormed.mergeField {r : Record} (wf : r.WellFormed) {name : String} {value : Json}
    (sound : value.Sound) : (r.mergeField name value).WellFormed := by
  obtain ⟨nodup, values⟩ := Json.sound_object.1 wf.fields
  unfold Record.mergeField
  split
  · exact wf
  · rename_i notId
    have set : WellFormed ⟨r.id, Assoc.set name value r.fields⟩ := by
      refine ⟨Json.sound_object.2 ⟨Assoc.nodup_keys_set nodup, fun field mem => ?_⟩, ?_⟩
      · rcases Assoc.mem_set mem with rfl | mem
        · exact sound
        · exact values field mem
      · rw [← Assoc.get?_eq_none_iff, Assoc.get?_set, if_neg (Ne.symm notId)]
        exact Assoc.get?_eq_none_iff.2 wf.id
    split
    · split
      · exact wf
      · exact set
    · exact set

/-- A merge keeps a record well-formed. -/
theorem WellFormed.merge {r : Record} (wf : r.WellFormed) {patch : Object}
    (sound : ∀ field ∈ patch, field.2.Sound) : (r.merge patch).WellFormed := by
  induction patch generalizing r with
  | nil => exact wf
  | cons field patch ih =>
    obtain ⟨first, rest⟩ := List.forall_mem_cons.1 sound
    exact ih (wf.mergeField first) rest

end Record

/-! ## Operations on collections and catalogs -/

namespace Collection

theorem WellFormed.withRecords {c : Collection} (wf : c.WellFormed) {records : List Record}
    (h : ∀ r ∈ records, r.WellFormed) : (c.withRecords records).WellFormed :=
  ⟨h, wf.extra, wf.unknown⟩

theorem wellFormed_new (schema : Schema) : (Collection.new schema).WellFormed where
  records := by simp [Collection.records, Collection.new]
  extra := by simp [Collection.new]
  unknown := by simp [Collection.new]

/-- An insertion keeps a collection well-formed. -/
theorem WellFormed.insert {c : Collection} (wf : c.WellFormed) (policy : IdPolicy) {fields : Object}
    (sound : ∀ field ∈ fields, field.2.Sound) : (c.insert policy fields).2.WellFormed := by
  have pushed : ∀ (d : Collection) (id : RecordId), d.WellFormed →
      (d.push (Record.new id fields)).WellFormed := by
    intro d id wf
    refine wf.withRecords fun r mem => ?_
    rcases List.mem_append.1 mem with mem | mem
    · exact wf.records r mem
    · rw [List.mem_singleton.1 mem]
      exact Record.wellFormed_new id sound
  cases policy with
  | maxPlusOne => exact pushed c _ wf
  | sequence => exact pushed { c with nextId := _ } _ ⟨wf.records, wf.extra, wf.unknown⟩

/-- An update keeps a collection well-formed. -/
theorem WellFormed.updateMatching {c : Collection} (wf : c.WellFormed) (p : Predicate)
    {patch : Object} (sound : ∀ field ∈ patch, field.2.Sound) :
    (c.updateMatching p patch).2.WellFormed := by
  refine wf.withRecords (List.forall_mem_map.2 fun r mem => ?_)
  split
  · exact (wf.records r mem).merge sound
  · exact wf.records r mem

theorem WellFormed.removeMatching {c : Collection} (wf : c.WellFormed) (p : Predicate) :
    (c.removeMatching p).2.WellFormed :=
  wf.withRecords fun r mem => wf.records r (List.mem_filter.1 mem).1

theorem WellFormed.clear {c : Collection} (wf : c.WellFormed) : c.clear.2.WellFormed :=
  wf.withRecords nofun

end Collection

namespace Catalog

/-- A catalog stays well-formed when one of its collections gives place to a well-formed one. -/
theorem WellFormed.withCollection {c : Catalog} (wf : c.WellFormed) {name : String}
    {collection : Collection} (h : collection.WellFormed) :
    (c.withCollection name collection).WellFormed := by
  refine ⟨fun entry mem => ?_, wf.extra, wf.unknown⟩
  rcases NameMap.mem_insert mem with rfl | mem
  · exact h
  · exact wf.documents entry mem

theorem require_ok {c : Catalog} {name : String} {collection : Collection}
    (h : c.require name = .ok collection) : (name, collection) ∈ c.documents.entries := by
  unfold Catalog.require at h
  split at h
  · rename_i found
    cases h
    exact NameMap.get?_eq_some_iff.1 found
  · cases h

end Catalog

end DocStore
