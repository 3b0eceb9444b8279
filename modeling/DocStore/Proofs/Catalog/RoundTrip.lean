-- SUMMARY: Reading what writing produced: decoding an encoded catalog gives the catalog.
import DocStore.CatalogFile
import DocStore.Proofs.Catalog.WellFormed
import DocStore.Proofs.Result
import DocStore.Proofs.Text.Symbol

/-!
# Reading what writing produced

Each part of a catalog is written as a value whose tree its reader takes back. The readers agree with
`Json.Fits` on what there is room for: a part is refused, as malformed, exactly if its value opens
too many containers or has a double whose text denotes no number, and else the part comes back with
its numbers reread. When the doubles read back that is the part itself.
-/

namespace DocStore

/-- A record with its numbers reread. -/
def Record.reread (r : Record) : Record :=
  ⟨r.id, membersReread r.fields⟩

def Collection.reread (c : Collection) : Collection where
  schema := c.schema
  data := c.data.map fun records => records.map Record.reread
  nextId := c.nextId
  extra := membersReread c.extra

/-- A catalog with its numbers reread. -/
def Catalog.reread (c : Catalog) : Catalog :=
  ⟨c.documents.map Collection.reread, membersReread c.extra⟩

/-! ## Identifiers and single values -/

namespace RecordId

/-- An identifier is written as an integer, which is read back. -/
theorem readsBack (id : RecordId) : (Number.int id.toNat).reread? = some (.int id.toNat) :=
  Number.readsBack_int id.inRange

@[simp] theorem reread_toJson (id : RecordId) : (toJson id).reread = toJson id := by
  simp [toJson, Json.reread, readsBack id]

@[simp] theorem ofJson?_toJson (id : RecordId) : ofJson? (toJson id) = some id := by
  have range : (0 : Int) ≤ id.toNat ∧ (id.toNat : Int) ≤ Number.maxInt := by
    have bound : id.toNat < 2 ^ 64 := id.toNat_lt
    simp only [Number.maxInt]
    omega
  simp [toJson, ofJson?, range]

end RecordId

/-- A value is read back from its tree with its numbers reread, if they can be and there is room. -/
theorem Tree.value_tree {v : Json} (room : Nat) (sound : v.Sound) :
    v.tree.value room = if v.Fits room then .ok v.reread else .error .malformed := by
  rw [Tree.value, Tree.toJson?_tree room sound]
  by_cases fits : v.Fits room
  · simp only [if_pos fits]
  · simp only [if_neg fits]

/-- A reader that puts each member it does not know after those before it takes such members back
in their order. -/
theorem read_carried {α : Type}
    {f : List (Option String × Tree) → List (String × Json) → Except Problem α}
    {known : List String} {room : Nat}
    (step : ∀ {name tree members before}, name ∉ known →
      f ((some name, tree) :: members) before =
        tree.value room >>= fun value => f members (before ++ [(name, value)]))
    {extra : Object} (sound : ∀ member ∈ extra, member.2.Sound)
    (unknown : ∀ name ∈ known, name ∉ Assoc.keys extra) (before : List (String × Json)) :
    f (membersTree extra) before =
      if ∀ member ∈ extra, member.2.Fits room then f [] (before ++ membersReread extra)
      else .error .malformed := by
  induction extra generalizing before with
  | nil => simp [membersTree, membersReread]
  | cons member extra ih =>
    obtain ⟨name, value⟩ := member
    obtain ⟨first, rest⟩ := List.forall_mem_cons.1 sound
    have other : name ∉ known := fun mem => unknown name mem List.mem_cons_self
    have later : ∀ name ∈ known, name ∉ Assoc.keys extra :=
      fun name mem h => unknown name mem (List.mem_cons_of_mem _ h)
    rw [membersTree, step other, Tree.value_tree room first, ite_bind, ih rest later]
    simp only [List.forall_mem_cons, ite_and, membersReread, List.append_assoc, List.cons_append,
      List.nil_append]

/-! ## Records -/

namespace Record

theorem reread_toJson (r : Record) : r.toJson.reread = .object r.reread.toObject := by
  simp [toJson, toObject, Json.reread, membersReread, Record.reread]

/-- The names of a record's fields are those of its reread fields. -/
theorem keys_reread (r : Record) : Assoc.keys r.reread.fields = Assoc.keys r.fields := by
  rw [Record.reread, membersReread_eq_map, Assoc.keys_map]

/-- The object of a record is that record, as far as its names are those of a record. -/
theorem ofObject_toObject {r : Record} (nodup : (Assoc.keys r.fields).Nodup)
    (id : idField ∉ Assoc.keys r.fields) : ofObject r.toObject = .ok r := by
  have found : Assoc.get? idField r.toObject = some (RecordId.toJson r.id) := by
    simp [toObject, Assoc.get?_cons]
  have kept : Assoc.erase idField r.toObject = r.fields := by
    rw [toObject, Assoc.erase_cons_self, Assoc.erase_of_not_mem id]
  have same : new r.id r.toObject = r := by
    rw [new, kept, Assoc.ofEntries_eq_self nodup]
  simp only [ofObject, found, RecordId.ofJson?_toJson, same]

/-- A record is read back with its numbers reread, unless it does not fit. -/
theorem decode_tree {r : Record} (room : Nat) (wf : r.WellFormed) :
    Record.decode room r.toJson.tree =
      if r.toJson.Fits room then .ok r.reread else .error .malformed := by
  -- Rereading keeps the names, so the object that comes back is one of a record again.
  have ofObject_reread : ofObject r.reread.toObject = .ok r.reread := by
    refine ofObject_toObject ?_ ?_
    · rw [keys_reread]
      exact (Json.sound_object.1 wf.fields).1
    · rw [keys_reread]
      exact wf.id
  have denoted := Tree.toJson?_tree room wf.sound_toJson
  rw [reread_toJson] at denoted
  by_cases fits : r.toJson.Fits room
  · rw [if_pos fits] at denoted ⊢
    rw [toJson, Json.tree] at denoted ⊢
    simp only [Record.decode, denoted]
    exact mapError_eq_ok.2 ofObject_reread
  · rw [if_neg fits] at denoted ⊢
    rw [toJson, Json.tree] at denoted ⊢
    simp only [Record.decode, denoted]

/-- The records of a list are read back if all of them fit. -/
theorem decodeItems_tree (records : List Record) (room : Nat)
    (wf : ∀ r ∈ records, r.WellFormed) :
    Record.decodeItems room true (itemsTree (records.map Record.toJson)) =
      if ∀ r ∈ records, r.toJson.Fits room then .ok (records.map Record.reread)
      else .error .malformed := by
  induction records with
  | nil => simp [itemsTree, Record.decodeItems]
  | cons r records ih =>
    obtain ⟨first, rest⟩ := List.forall_mem_cons.1 wf
    simp only [List.map_cons, itemsTree, Record.decodeItems, decode_tree room first, ih rest,
      ite_bind, List.forall_mem_cons, ite_and, pure_eq_ok]

end Record

/-! ## Schemas -/

/-- A declaration is read from its tree, which no limit of nesting can refuse. -/
theorem FieldSpec.decode_tree (spec : FieldSpec) : FieldSpec.decode spec.toJson.tree = .ok spec := by
  obtain ⟨kind, required⟩ := spec
  cases required <;>
    simp [FieldSpec.toJson, optionMember, Json.tree, membersTree, FieldSpec.decode,
      FieldSpec.decodeMembers, decodeString, decodeRequired]

theorem FieldSpec.fits_toJson (spec : FieldSpec) (room : Nat) : spec.toJson.Fits (room + 1) := by
  obtain ⟨kind, required⟩ := spec
  cases required <;> simp [FieldSpec.toJson, optionMember]

/-- An object whose values are read one by one denotes the map of what they are read as, unless one
of them is refused. -/
theorem decodeNameMap_tree {α β : Type} {decode : Tree → Except Problem α} {write : β → Json}
    {result : β → α} {room : Nat} {entries : List (String × β)}
    (step : ∀ entry ∈ entries, decode (write entry.2).tree =
      if (write entry.2).Fits room then .ok (result entry.2) else .error .malformed)
    (map : NameMap α) :
    decodeNameMap decode true (membersTree (entries.map fun entry => (entry.1, write entry.2))) map =
      if ∀ entry ∈ entries, (write entry.2).Fits room then
        .ok (entries.foldl (fun map entry => map.insert entry.1 (result entry.2)) map)
      else .error .malformed := by
  induction entries generalizing map with
  | nil => simp [membersTree, decodeNameMap]
  | cons entry entries ih =>
    obtain ⟨first, rest⟩ := List.forall_mem_cons.1 step
    simp only [List.map_cons, membersTree, decodeNameMap, first, List.forall_mem_cons,
      List.foldl_cons]
    by_cases fits : (write entry.2).Fits room
    · simp only [ih rest, fits, true_and, if_true]
    · rw [if_neg fits, if_neg (c := _ ∧ _) fun h => fits h.1]

/-- A schema is always read back, since it holds no number. -/
theorem Schema.decode_tree (schema : Schema) : Schema.decode schema.toJson.tree = .ok schema := by
  have step : ∀ entry ∈ schema.entries, FieldSpec.decode entry.2.toJson.tree =
      if entry.2.toJson.Fits 1 then .ok (id entry.2) else .error .malformed := by
    intro entry _
    rw [FieldSpec.decode_tree, if_pos (entry.2.fits_toJson 0)]
    rfl
  rw [Schema.toJson, Json.tree, Schema.decode, decodeNameMap_tree step,
    if_pos fun entry _ => entry.2.fits_toJson 0]
  exact congrArg Except.ok (NameMap.ofEntries_entries schema)

theorem Schema.fits_toJson (schema : Schema) (room : Nat) : schema.toJson.Fits (room + 2) := by
  refine Json.fits_object.2 fun member mem => ?_
  obtain ⟨entry, _, rfl⟩ := List.mem_map.1 mem
  exact entry.2.fits_toJson room

/-! ## Collections -/

namespace Collection

variable {room : Nat} {parts : Collection.Parts} (more : List (Option String × Tree))

theorem decodeMembers_schema (schema : Option Schema) (absent : parts.schema = none) :
    decodeMembers room true
        (membersTree (optionMember "schema" (schema.map Schema.toJson)) ++ more) parts =
      decodeMembers room true more { parts with schema := schema.map some } := by
  cases schema with
  | none => simp [optionMember, membersTree, ← absent]
  | some schema =>
    have read : decodeSchemaMember schema.toJson.tree = .ok (some schema) := by
      have decoded := schema.decode_tree
      rw [Schema.toJson, Json.tree] at decoded ⊢
      rw [decodeSchemaMember, decoded]
      · rfl
      · simp
    simp [optionMember, membersTree, decodeMembers, absent, read]

theorem decodeMembers_nextId (nextId : Option RecordId) (absent : parts.nextId = none) :
    decodeMembers room true
        (membersTree (optionMember "next_id" (nextId.map RecordId.toJson)) ++ more) parts =
      decodeMembers room true more { parts with nextId := nextId.map some } := by
  cases nextId with
  | none => simp [optionMember, membersTree, ← absent]
  | some id =>
    have notNegative : ¬(id.toNat : Int) < 0 := by omega
    have read : decodeNextIdMember (RecordId.toJson id).tree = .ok (some id) := by
      simp [RecordId.toJson, Json.tree, id.readsBack, decodeNextIdMember, notNegative]
    simp [optionMember, membersTree, decodeMembers, absent, read]

/-- The records among the members of a collection are read back if all of them fit. -/
theorem decodeMembers_data {data : Option (List Record)} (wf : ∀ r ∈ data.getD [], r.WellFormed)
    (absent : parts.data = none) :
    decodeMembers (room + 1) true
        (membersTree (optionMember "data" (data.map recordsJson)) ++ more) parts =
      if ∀ records ∈ data, (recordsJson records).Fits (room + 1) then
        decodeMembers (room + 1) true more
          { parts with data := data.map fun records => some (records.map Record.reread) }
      else .error .malformed := by
  cases data with
  | none => simp [optionMember, membersTree, ← absent]
  | some records =>
    have read : decodeDataMember (room + 1) (recordsJson records).tree =
        if (recordsJson records).Fits (room + 1) then .ok (some (records.map Record.reread))
        else .error .malformed := by
      have items := Record.decodeItems_tree records room wf
      simp only [recordsJson, Json.tree, decodeDataMember, Nat.add_sub_cancel, items,
        Json.fits_array, List.forall_mem_map]
      split <;> rfl
    by_cases fits : (recordsJson records).Fits (room + 1) <;>
      simp [optionMember, membersTree, decodeMembers, read, absent, fits]

/-- The members that a collection does not know are kept in their order. -/
theorem decodeMembers_extra {extra : Object} (sound : ∀ member ∈ extra, member.2.Sound)
    (unknown : ∀ name ∈ knownNames, name ∉ Assoc.keys extra) :
    decodeMembers room true (membersTree extra) parts =
      if ∀ member ∈ extra, member.2.Fits room then
        .ok ⟨parts.schema.getD none, parts.data.getD none, parts.nextId.getD none,
          Assoc.ofEntries (parts.extra ++ membersReread extra)⟩
      else .error .malformed := by
  refine read_carried (f := fun members extra => decodeMembers room true members { parts with extra })
    ?_ sound unknown parts.extra
  intro name tree members before unknown
  simp only [knownNames, List.mem_cons, List.not_mem_nil, or_false, not_or] at unknown
  simp only [decodeMembers, unknown, if_false]
  cases tree.value room <;> rfl

/-- A collection fits if its records and the user's members do; what else it has always fits. -/
theorem fits_toJson (c : Collection) (room : Nat) :
    c.toJson.Fits (room + 3) ↔
      (∀ records ∈ c.data, (recordsJson records).Fits (room + 2)) ∧
      ∀ member ∈ c.extra, member.2.Fits (room + 2) := by
  have schema : ∀ schema ∈ c.schema, schema.toJson.Fits (room + 2) :=
    fun schema _ => schema.fits_toJson room
  have nextId : ∀ id ∈ c.nextId, (RecordId.toJson id).Fits (room + 2) :=
    fun id _ => Json.fits_int _ _
  rw [toJson_eq, Json.fits_object]
  simp only [List.forall_mem_append, forall_mem_optionMember, and_iff_right schema,
    and_iff_right nextId]

/-- A collection is read back with its numbers reread, unless it does not fit. -/
theorem decode_tree {c : Collection} (room : Nat) (wf : c.WellFormed) :
    Collection.decode (room + 3) c.toJson.tree =
      if c.toJson.Fits (room + 3) then .ok c.reread else .error .malformed := by
  obtain ⟨nodup, sound⟩ := Json.sound_object.1 wf.extra
  have extra := ofEntries_membersReread nodup
  have fits := fits_toJson c room
  rw [toJson_eq] at fits ⊢
  rw [Json.tree, membersTree_append, membersTree_append, membersTree_append, Collection.decode,
    decodeMembers_schema _ _ rfl, show room + 3 - 1 = room + 1 + 1 by omega,
    decodeMembers_data _ wf.records rfl, decodeMembers_nextId _ _ rfl,
    decodeMembers_extra sound wf.unknown]
  -- Only records and carried members can fail to fit: a schema and a counter are never deep enough.
  by_cases data : ∀ records ∈ c.data, (recordsJson records).Fits (room + 2)
  · by_cases rest : ∀ member ∈ c.extra, member.2.Fits (room + 2)
    · rw [if_pos data, if_pos rest, if_pos (fits.2 ⟨data, rest⟩)]
      simp only [Collection.reread, extra, List.nil_append]
      congr
      · cases c.schema <;> rfl
      · cases c.data <;> rfl
      · cases c.nextId <;> rfl
    · rw [if_pos data, if_neg rest, if_neg fun h => rest (fits.1 h).2]
  · rw [if_neg data, if_neg fun h => data (fits.1 h).1]

end Collection

/-! ## Catalogs -/

namespace Catalog

/-- The collections of a catalog are read back if all of them fit. -/
theorem decodeDocuments_tree {documents : NameMap Collection} (room : Nat)
    (wf : ∀ entry ∈ documents.entries, entry.2.WellFormed) :
    decodeDocuments (room + 4) (documentsJson documents).tree =
      if (documentsJson documents).Fits (room + 4) then .ok (documents.map Collection.reread)
      else .error .malformed := by
  have step : ∀ entry ∈ documents.entries, Collection.decode (room + 3) entry.2.toJson.tree =
      if entry.2.toJson.Fits (room + 3) then .ok entry.2.reread else .error .malformed :=
    fun entry mem => Collection.decode_tree room (wf entry mem)
  have built := NameMap.ofEntries_entries (documents.map Collection.reread)
  rw [NameMap.entries_map, NameMap.ofEntries, List.foldl_map] at built
  rw [documentsJson, Json.tree, decodeDocuments, show room + 4 - 1 = room + 3 by omega,
    decodeNameMap_tree step, built]
  simp only [Json.fits_object, List.forall_mem_map]

/-- The members that a catalog does not know are kept in their order. -/
theorem decodeMembers_extra {room : Nat} {documents : NameMap Collection} {extra : Object}
    (sound : ∀ member ∈ extra, member.2.Sound) (unknown : "documents" ∉ Assoc.keys extra)
    (before : List (String × Json)) :
    decodeMembers room true (membersTree extra) (some documents) before =
      if ∀ member ∈ extra, member.2.Fits room then
        .ok ⟨documents, Assoc.ofEntries (before ++ membersReread extra)⟩
      else .error .malformed := by
  refine read_carried (f := fun members extra => decodeMembers room true members (some documents) extra)
    ?_ sound (fun name mem => List.mem_singleton.1 mem ▸ unknown) before
  intro name tree members before unknown
  simp only [decodeMembers, List.mem_singleton.not.1 unknown, if_false]
  cases tree.value room <;> rfl

/-- A catalog is read back with its numbers reread, unless it does not fit. -/
theorem ofTree_tree {c : Catalog} (wf : c.WellFormed) :
    Catalog.ofTree c.toJson.tree =
      if c.toJson.Fits maxDepth then .ok c.reread else .error .malformed := by
  obtain ⟨nodup, sound⟩ := Json.sound_object.1 wf.extra
  have extra := ofEntries_membersReread nodup
  -- The object of the catalog itself is one of the containers.
  have fits : c.toJson.Fits maxDepth ↔
      (documentsJson c.documents).Fits 126 ∧ ∀ member ∈ c.extra, member.2.Fits 126 := by
    rw [toJson_eq, show maxDepth = 126 + 1 from rfl, Json.fits_object, List.forall_mem_cons]
  rw [toJson_eq] at fits ⊢
  simp only [Json.tree, membersTree, Catalog.ofTree, decodeMembers, if_true,
    show maxDepth - 1 = 122 + 4 from rfl, decodeDocuments_tree 122 wf.documents]
  by_cases documents : (documentsJson c.documents).Fits 126
  · by_cases rest : ∀ member ∈ c.extra, member.2.Fits 126
    · simp [if_pos documents, decodeMembers_extra sound wf.unknown, if_pos rest,
        if_pos (fits.2 ⟨documents, rest⟩), extra, Catalog.reread]
    · simp [if_pos documents, decodeMembers_extra sound wf.unknown, if_neg rest,
        if_neg fun h => rest (fits.1 h).2]
  · simp [if_neg documents, if_neg fun h => documents (fits.1 h).1]

/-- The bytes of a well-formed catalog hold that catalog, reread, exactly if its value fits. -/
theorem decode_encode {c : Catalog} (wf : c.WellFormed) (style : Style) :
    Catalog.decode (c.encode style) =
      if c.toJson.Fits maxDepth then .ok c.reread else .error .malformed := by
  rw [Catalog.decode, Catalog.encode, Catalog.text, Symbol.ofBytes_toUTF8, Document.read_text,
    Document.decode, ofTree_tree wf]
  split <;> rfl

end Catalog

/-! ## Doubles that read back -/

theorem Record.reread_eq_self {r : Record} (wf : r.WellFormed) (readsBack : r.toJson.ReadsBack) :
    r.reread = r := by
  have fields := (List.forall_mem_cons.1 (Json.readsBack_object.1 readsBack)).2
  rw [Record.reread, Json.membersReread_eq_self wf.fields.2 fields]

theorem Collection.reread_eq_self {c : Collection} (wf : c.WellFormed)
    (readsBack : c.toJson.ReadsBack) : c.reread = c := by
  rw [toJson_eq, Json.readsBack_object] at readsBack
  simp only [List.forall_mem_append] at readsBack
  obtain ⟨-, data, -, extra⟩ := readsBack
  obtain ⟨schema, records, nextId, members⟩ := c
  have recordsSame : records.map (fun records => records.map Record.reread) = records := by
    cases records with
    | none => rfl
    | some records =>
      have each : ∀ r ∈ records, r.reread = r := by
        intro r mem
        have list : (recordsJson records).ReadsBack := data ("data", _) List.mem_cons_self
        exact Record.reread_eq_self (wf.records r mem)
          (Json.readsBack_array.1 list _ (List.mem_map_of_mem mem))
      rw [Option.map_some, List.map_congr_left each, List.map_id']
  simp only [Collection.reread, recordsSame, Json.membersReread_eq_self wf.extra.2 extra]

/-- Rereading changes nothing in a catalog whose doubles read back. -/
theorem Catalog.reread_eq_self {c : Catalog} (wf : c.WellFormed) (readsBack : c.toJson.ReadsBack) :
    c.reread = c := by
  obtain ⟨documents, extra⟩ := List.forall_mem_cons.1 (Json.readsBack_object.1 readsBack)
  have collections : c.documents.map Collection.reread = c.documents := by
    refine NameMap.map_eq_self fun entry mem => ?_
    exact Collection.reread_eq_self (wf.documents entry mem)
      (Json.readsBack_object.1 documents _ (List.mem_map_of_mem mem))
  rw [Catalog.reread, collections, Json.membersReread_eq_self wf.extra.2 extra]

/-- The bytes of a catalog whose doubles read back hold that catalog, within the limit of nesting. -/
theorem Catalog.decode_encode_of_readsBack {c : Catalog} (wf : c.WellFormed)
    (readsBack : c.toJson.ReadsBack) (style : Style) :
    Catalog.decode (c.encode style) =
      if c.toJson.depth ≤ maxDepth then .ok c else .error .malformed := by
  simp only [decode_encode wf, reread_eq_self wf readsBack, readsBack.fits_iff]

/-- Writing a catalog in either style and reading the text gives the catalog, with the order of its
records, fields and members, unless the text opens too many containers at once. -/
theorem CatalogFile.decode_undoes_encode (file : CatalogFile) (style : Style) {c : Catalog}
    (wf : c.WellFormed) (readsBack : c.toJson.ReadsBack) :
    file.decode (c.encode style) =
      if c.toJson.depth ≤ maxDepth then .ok c
      else .error (.corruptCatalog file.path.text (.undecodable .malformed (c.encode style))) := by
  rw [CatalogFile.decode, Catalog.decode_encode_of_readsBack wf readsBack]
  split <;> rfl

/-- A catalog with a schema, a record with a double, a counter and carried members. -/
def Catalog.sample : Catalog where
  documents := NameMap.empty.insert "notes"
    { schema := some (NameMap.empty.insert "title" ⟨"string", some true⟩)
      data := some [⟨3, [("title", .string "a"), ("weight", .number (.float 1.5))]⟩]
      nextId := some 4
      extra := [("comment", .null)] }
  extra := [("version", .number (.int 2))]

/-- A catalog with a record of every kind of value is read back from its indented text. -/
theorem CatalogFile.decode_undoes_encode_sample :
    CatalogFile.decode ⟨⟨["notes.json"]⟩, .atomic, .indented⟩ (Catalog.sample.encode .indented) =
      .ok Catalog.sample := by
  have wf : Catalog.sample.WellFormed := by decide +kernel
  have readsBack : Catalog.sample.toJson.ReadsBack := by decide +kernel
  have depth : Catalog.sample.toJson.depth ≤ maxDepth := by decide +kernel
  rw [CatalogFile.decode_undoes_encode _ _ wf readsBack, if_pos depth]

end DocStore
