-- SUMMARY: What loading and storing keeps of a file: all but nulls, list forms and unknown parts of declarations.
import DocStore.Proofs.Catalog.Decoded
import DocStore.Proofs.Json.Sorted

/-!
# What loading and storing keeps of a file

A file may be written by hand, with members in any order and some that are not known. `Catalog.kept`
says, on the value of the file, what is left of it after it was loaded and stored: null for a part of
a collection and for `required` goes, a declaration written as a list becomes an object, and a
declaration keeps no member but `type` and `required`. All else stays, up to the order of members;
the values of members that are not known and the user's fields of records keep their order as well.
-/

namespace DocStore

/-! ## What is kept -/

/-- A value, unless it is null. -/
def Json.notNull? : Json → Option Json
  | .null => none
  | value => some value

def FieldSpec.keptMember (name : String) (value : Json) : Option Json :=
  if name = "type" then some value
  else if name = "required" then value.notNull?
  else none

def FieldSpec.kept : Json → Json
  | .object members => .object (Assoc.filterMap keptMember members)
  | .array [kind] => .object [("type", kind)]
  | .array [kind, required] => .object (("type", kind) :: optionMember "required" required.notNull?)
  | value => value

def Schema.kept : Json → Json
  | .object members => .object (members.map fun member => (member.1, FieldSpec.kept member.2))
  | value => value

def Collection.keptMember (name : String) (value : Json) : Option Json :=
  if name = "schema" then value.notNull?.map Schema.kept
  else if name = "data" ∨ name = "next_id" then value.notNull?
  else some value

def Collection.kept : Json → Json
  | .object members => .object (Assoc.filterMap keptMember members)
  | value => value

def Catalog.keptDocuments : Json → Json
  | .object members => .object (members.map fun member => (member.1, Collection.kept member.2))
  | value => value

def Catalog.keptMember (name : String) (value : Json) : Option Json :=
  if name = "documents" then some (keptDocuments value) else some value

/-- What is kept of a catalog. -/
def Catalog.kept : Json → Json
  | .object members => .object (Assoc.filterMap keptMember members)
  | value => value

/-- The value of a member of an object. -/
def Json.member? (v : Json) (name : String) : Option Json :=
  match v with
  | .object members => Assoc.get? name members
  | _ => none

/-- The value to which the names of members lead. -/
def Json.at? (v : Json) : (path : List String) → Option Json
  | [] => some v
  | name :: path => (v.member? name).bind fun value => value.at? path

/-- The fields of a record's object other than its identifier, in their order. -/
def Record.userFields : Json → Object
  | .object members => Assoc.erase idField members
  | _ => []

def Collection.userFields : Json → List Object
  | .array items => items.map Record.userFields
  | _ => []

/-! ## Values of trees -/

namespace Tree

/-- Only the tree of null denotes null. -/
theorem notNull?_of_toJson? {tree : Tree} {room : Nat} {v : Json} (notNull : tree = .null → False)
    (h : tree.toJson? room = some v) : v.notNull? = some v := by
  cases tree with
  | null => exact absurd rfl notNull
  | broken => simp [toJson?] at h
  | bool b =>
    cases h
    rfl
  | number n =>
    obtain ⟨_, _, rfl⟩ := Option.map_eq_some_iff.1 h
    rfl
  | string s =>
    obtain ⟨_, _, rfl⟩ := Option.map_eq_some_iff.1 h
    rfl
  | array _ _ =>
    obtain ⟨_, _, rfl⟩ := toJson?_array_ok h
    rfl
  | object _ _ =>
    obtain ⟨_, _, rfl⟩ := toJson?_object_ok h
    rfl

end Tree

/-! ## Declarations -/

namespace FieldSpec

/-- What a file says of whether a field is required. -/
def requiredJson : Option Bool → Json
  | none => .null
  | some b => .bool b

/-- What a file says of whether a field is required is what was read of it; without a word it is
null. -/
theorem decodeRequired_ok {tree : Tree} {required : Option Bool} {room : Nat} {v : Json}
    (h : decodeRequired tree = .ok required) (denoted : tree.toJson? room = some v) :
    v = requiredJson required := by
  unfold decodeRequired at h
  split at h
  · cases h
    simpa [Tree.toJson?, requiredJson] using denoted.symm
  · cases h
    simpa [Tree.toJson?, requiredJson] using denoted.symm
  · cases h

theorem notNull?_requiredJson (required : Option Bool) :
    (requiredJson required).notNull? = required.map .bool := by
  cases required <;> rfl

/-- Whether the parts of a declaration are what its members so far say. -/
structure Parts.Matches (parts : Parts) (before : List (String × Json)) : Prop where
  kind : Assoc.get? "type" (Assoc.ofEntries before) = parts.kind.map .string
  required : Assoc.get? "required" (Assoc.ofEntries before) = parts.required.map requiredJson

/-- What has been read of a declaration matches the members met, after one more of them too. -/
theorem Step.matches {parts next : Parts} {name : String} {tree : Tree} {room : Nat} {value : Json}
    {before : List (String × Json)} (step : Step parts name tree next)
    (denoted : tree.toJson? room = some value) (same : parts.Matches before) :
    next.Matches (before ++ [(name, value)]) := by
  cases step with
  | kind absent =>
    cases denoted
    constructor <;> simp [Assoc.get?_ofEntries_concat, same.required]
  | required absent read =>
    rw [decodeRequired_ok read denoted]
    constructor <;> simp [Assoc.get?_ofEntries_concat, same.kind]
  | other notType notRequired =>
    constructor <;>
      simp [Assoc.get?_ofEntries_concat, same.kind, same.required, notType.symm, notRequired.symm]

theorem get?_toJson (spec : FieldSpec) (name : String) :
    Assoc.get? name (("type", .string spec.kind) :: optionMember "required" (spec.required.map .bool)) =
      if name = "type" then some (.string spec.kind)
      else if name = "required" then spec.required.map .bool else none := by
  rw [Assoc.get?_cons, get?_optionMember]
  simp only [eq_comm]

/-- A declaration, written again, has the members of its object that it knows. -/
theorem sorted_of_decodeMembers {closed : Bool} {members : List (Option String × Tree)}
    {spec : FieldSpec} {room : Nat} {values : List (String × Json)}
    (range : Tree.membersInRange members) (h : decodeMembers closed members ⟨none, none⟩ = .ok spec)
    (denoted : Tree.membersToJson? room members = some values) :
    spec.toJson.sorted = (kept (.object (Assoc.ofEntries values))).sorted := by
  obtain ⟨entries, last, rfl, reads, _, kind, required⟩ := reads_of_decodeMembers h
  have same : last.Matches values :=
    reads.simulation range denoted (motive := Parts.Matches) ⟨rfl, rfl⟩
      fun step _ found same => step.matches found same
  have distinct := Assoc.nodup_keys_ofEntries values
  -- Compared name by name: `type`, `required`, and any other name, which is in neither object.
  refine (Json.sorted_object_eq_iff (Json.sound_object.1 spec.sound_toJson).1
    (Assoc.nodup_keys_filterMap keptMember distinct)).2 fun name => ?_
  rw [Assoc.get?_filterMap _ _ distinct, get?_toJson]
  congr 1
  split
  · rename_i isType
    subst isType
    simp [same.kind, kind, keptMember]
  · rename_i notType
    split
    · rename_i isRequired
      subst isRequired
      rw [same.required, ← required]
      cases last.required with
      | none => rfl
      | some required => simp [keptMember, notNull?_requiredJson]
    · rename_i notRequired
      cases Assoc.get? name (Assoc.ofEntries values) <;> simp [keptMember, notType, notRequired]

/-- A declaration written as a list has the kind first, and then perhaps whether it is required. -/
theorem decodeItems_ok {closed : Bool} {items : List Tree} {spec : FieldSpec}
    (h : decodeItems closed items = .ok spec) :
    (items = [.string (some spec.kind)] ∧ spec.required = none) ∨
      ∃ required, items = [.string (some spec.kind), required] ∧
        decodeRequired required = .ok spec.required := by
  unfold decodeItems at h
  split at h
  · cases h
  · obtain ⟨word, first, h⟩ := bind_eq_ok.1 h
    rw [decodeString_ok first]
    cases closed <;> cases h
    exact .inl ⟨rfl, rfl⟩
  · obtain ⟨word, first, h⟩ := bind_eq_ok.1 h
    obtain ⟨flag, second, h⟩ := bind_eq_ok.1 h
    rw [decodeString_ok first]
    cases closed <;> cases h
    exact .inr ⟨_, rfl, second⟩
  · obtain ⟨word, _, h⟩ := bind_eq_ok.1 h
    obtain ⟨flag, _, h⟩ := bind_eq_ok.1 h
    cases h

/-- A declaration written as a list is written again as an object. -/
theorem sorted_of_decodeItems {closed : Bool} {items : List Tree} {spec : FieldSpec} {room : Nat}
    {values : List Json} (h : decodeItems closed items = .ok spec)
    (denoted : Tree.itemsToJson? room items = some values) :
    spec.toJson = kept (.array values) := by
  rcases decodeItems_ok h with ⟨rfl, none⟩ | ⟨required, rfl, read⟩
  · cases denoted
    simp [kept, FieldSpec.toJson, none, optionMember]
  · obtain ⟨kind, more, first, rest, rfl⟩ := Tree.itemsToJson?_cons_ok denoted
    obtain ⟨flag, none, second, last, rfl⟩ := Tree.itemsToJson?_cons_ok rest
    cases first
    cases last
    rw [decodeRequired_ok read second]
    simp [kept, FieldSpec.toJson, notNull?_requiredJson]

/-- A declaration, written again, says what is kept of the value that it was read from. -/
theorem sorted_toJson {tree : Tree} {spec : FieldSpec} {room : Nat} {v : Json}
    (range : tree.InRange) (h : FieldSpec.decode tree = .ok spec) (denoted : tree.toJson? room = some v) :
    spec.toJson.sorted = (kept v).sorted := by
  unfold FieldSpec.decode at h
  split at h
  · obtain ⟨values, found, rfl⟩ := Tree.toJson?_object_ok denoted
    exact sorted_of_decodeMembers range h found
  · obtain ⟨values, found, rfl⟩ := Tree.toJson?_array_ok denoted
    rw [sorted_of_decodeItems h found]
  · cases h

end FieldSpec

/-! ## Maps by name -/

/-- A relation between what is read and the values it is read from relates the map that is read to
the object it is read from, name by name. -/
theorem rel_of_decodeNameMap {α : Type} {decode : Tree → Except Problem α}
    {related : α → Json → Prop} {closed : Bool} {members : List (Option String × Tree)}
    {map : NameMap α} {room : Nat} {values : List (String × Json)}
    (range : Tree.membersInRange members)
    (h : decodeNameMap decode closed members NameMap.empty = .ok map)
    (denoted : Tree.membersToJson? room members = some values)
    (each : ∀ {tree a v}, tree.InRange → decode tree = .ok a → tree.toJson? room = some v → related a v)
    (name : String) :
    Option.Rel related (map.get? name) (Assoc.get? name (Assoc.ofEntries values)) := by
  obtain ⟨entries, last, rfl, reads, _, rfl⟩ := reads_of_decodeNameMap h
  refine reads.simulation range denoted (motive := fun map before => ∀ name,
    Option.Rel related (map.get? name) (Assoc.get? name (Assoc.ofEntries before)))
    (fun _ => .none) ?_ name
  rintro map name tree _ value before ⟨read⟩ range found same other
  rw [NameMap.get?_insert, Assoc.get?_ofEntries_concat]
  split
  · exact .some (each range read found)
  · exact same other

theorem rel_imp {α β : Type} {r s : α → β → Prop} (imp : ∀ {a b}, r a b → s a b) {a : Option α}
    {b : Option β} (h : Option.Rel r a b) : Option.Rel s a b := by
  cases h with
  | none => exact .none
  | some related => exact .some (imp related)

theorem map_eq_map_of_rel {α β γ : Type} {f : α → γ} {g : β → γ} {a : Option α} {b : Option β}
    (h : Option.Rel (fun a b => f a = g b) a b) : a.map f = b.map g := by
  cases h with
  | none => rfl
  | some equal => exact congrArg some equal

/-- A map by name and an object have the same sorted form if they are related, name by name, by
having it. -/
theorem sorted_eq_of_rel {α : Type} {write : α → Json} {keep : Json → Json} {map : NameMap α}
    {members : Object} (distinct : (Assoc.keys members).Nodup)
    (same : ∀ name, Option.Rel (fun a v => (write a).sorted = (keep v).sorted) (map.get? name)
      (Assoc.get? name members)) :
    (Json.object (map.entries.map fun entry => (entry.1, write entry.2))).sorted =
      (Json.object (members.map fun member => (member.1, keep member.2))).sorted := by
  refine (Json.sorted_object_eq_iff ?_ ?_).2 fun name => ?_
  · rw [Assoc.keys_map]
    exact map.nodup_keys
  · rw [Assoc.keys_map]
    exact distinct
  · rw [Assoc.get?_map, Assoc.get?_map, ← NameMap.get?_eq]
    rw [Option.map_map, Option.map_map]
    exact map_eq_map_of_rel (same name)

/-- A schema, written again, says what is kept of the value that it was read from. -/
theorem Schema.sorted_toJson {tree : Tree} {schema : Schema} {room : Nat} {v : Json}
    (range : tree.InRange) (h : Schema.decode tree = .ok schema) (denoted : tree.toJson? room = some v) :
    schema.toJson.sorted = (kept v).sorted := by
  unfold Schema.decode at h
  split at h
  · obtain ⟨values, found, rfl⟩ := Tree.toJson?_object_ok denoted
    exact sorted_eq_of_rel (Assoc.nodup_keys_ofEntries values)
      (rel_of_decodeNameMap range h found FieldSpec.sorted_toJson)
  · cases h

/-! ## Records -/

namespace Record

/-- The user's fields of a record are its own, since none of them has the reserved name. -/
theorem userFields_toJson {r : Record} (id : idField ∉ Assoc.keys r.fields) :
    userFields r.toJson = r.fields := by
  rw [toJson, userFields, toObject, Assoc.erase_cons_self, Assoc.erase_of_not_mem id]

/-- A record is written with the members of the object it was read from, the identifier first and
the user's fields in their order. -/
theorem sorted_toJson {tree : Tree} {r : Record} {room : Nat} {v : Json}
    (h : Record.decode room tree = .ok r) (denoted : tree.toJson? room = some v) :
    r.toJson.sorted = v.sorted ∧ userFields r.toJson = userFields v := by
  obtain ⟨members, found, read⟩ := decode_ok h
  obtain rfl : .object members = v := Option.some.inj (found.symm.trans denoted)
  have distinct : (Assoc.keys members).Nodup := Tree.nodup_of_toJson? found
  obtain ⟨id, fields⟩ := ofObject_ok distinct read
  have noId : idField ∉ Assoc.keys r.fields := fields ▸ Assoc.not_mem_keys_erase idField members
  have nodup : (Assoc.keys r.toObject).Nodup :=
    List.nodup_cons.2 ⟨noId, fields ▸ Assoc.nodup_keys_erase distinct⟩
  refine ⟨(Json.sorted_object_eq_iff nodup distinct).2 fun name => ?_, ?_⟩
  · rw [toObject, Assoc.get?_cons, fields, Assoc.get?_erase]
    split
    · rename_i isId
      rw [← isId, id]
    · rename_i notId
      rw [if_neg (Ne.symm notId)]
  · rw [userFields_toJson noId, fields]
    rfl

/-- The records of a list, written again, are its items, and the user's fields keep their order. -/
theorem sorted_of_decodeItems {room : Nat} {closed : Bool} {items : List Tree}
    {records : List Record} {values : List Json}
    (h : Record.decodeItems room closed items = .ok records)
    (denoted : Tree.itemsToJson? room items = some values) :
    (records.map Record.toJson).map Json.sorted = values.map Json.sorted ∧
      (records.map Record.toJson).map userFields = values.map userFields := by
  induction items generalizing records values with
  | nil =>
    cases denoted
    cases closed <;> cases h
    exact ⟨rfl, rfl⟩
  | cons item items ih =>
    obtain ⟨value, more, first, rest, rfl⟩ := Tree.itemsToJson?_cons_ok denoted
    obtain ⟨r, others, read, readRest, rfl⟩ := decodeItems_cons_ok h
    obtain ⟨sorted, fields⟩ := sorted_toJson read first
    obtain ⟨sortedRest, fieldsRest⟩ := ih readRest rest
    simp only [List.map_cons, sorted, fields, sortedRest, fieldsRest, and_self]

end Record

/-! ## Collections -/

namespace Collection

/-- The members of a written collection. -/
theorem member?_toJson {c : Collection} (wf : c.WellFormed) (name : String) :
    c.toJson.member? name =
      if name = "schema" then c.schema.map Schema.toJson
      else if name = "data" then c.data.map recordsJson
      else if name = "next_id" then c.nextId.map RecordId.toJson
      else Assoc.get? name c.extra := by
  have absent : ∀ known ∈ knownNames, Assoc.get? known c.extra = none :=
    fun known mem => Assoc.get?_eq_none_iff.2 (wf.unknown known mem)
  simp only [toJson_eq, Json.member?, Assoc.get?_append, get?_optionMember]
  split
  · rename_i isSchema
    simp [isSchema, absent "schema" (by decide)]
  · split
    · rename_i isData
      simp [isData, absent "data" (by decide)]
    · split
      · rename_i isNextId
        simp [isNextId, absent "next_id" (by decide)]
      · rfl

/-- Whether a collection, written again, says what a value says. -/
structure Matches (c : Collection) (v : Json) : Prop where
  sorted : c.toJson.sorted = (kept v).sorted
  extra : ∀ name, name ∉ knownNames → c.toJson.member? name = v.member? name
  userFields : (c.toJson.member? "data").map userFields =
    ((v.member? "data").bind Json.notNull?).map userFields

/-- Whether the parts of a collection are what its members so far say. -/
structure Parts.Matches (parts : Parts) (before : List (String × Json)) : Prop where
  schema : parts.schema.map (fun schema => schema.map fun schema => schema.toJson.sorted) =
    (Assoc.get? "schema" (Assoc.ofEntries before)).map fun v =>
      v.notNull?.map fun v => (Schema.kept v).sorted
  data : parts.data.map (fun data => data.map fun records => (recordsJson records).sorted) =
    (Assoc.get? "data" (Assoc.ofEntries before)).map fun v => v.notNull?.map Json.sorted
  userFields : parts.data.map (fun data => data.map fun records =>
      Collection.userFields (recordsJson records)) =
    (Assoc.get? "data" (Assoc.ofEntries before)).map fun v => v.notNull?.map Collection.userFields
  nextId : parts.nextId.map (fun nextId => nextId.map fun id => (RecordId.toJson id).sorted) =
    (Assoc.get? "next_id" (Assoc.ofEntries before)).map fun v => v.notNull?.map Json.sorted
  extra : ∀ name, name ∉ knownNames →
    Assoc.get? name (Assoc.ofEntries parts.extra) = Assoc.get? name (Assoc.ofEntries before)

theorem sorted_of_decodeSchemaMember {tree : Tree} {schema : Option Schema} {room : Nat} {v : Json}
    (range : tree.InRange) (h : decodeSchemaMember tree = .ok schema) (denoted : tree.toJson? room = some v) :
    (schema.map fun schema => schema.toJson.sorted) =
      v.notNull?.map fun v => (Schema.kept v).sorted := by
  unfold decodeSchemaMember at h
  split at h
  · cases h
    cases denoted
    rfl
  · rename_i notNull
    obtain ⟨found, read, rfl⟩ := map_eq_ok.1 h
    have present : v.notNull? = some v := Tree.notNull?_of_toJson? notNull denoted
    rw [present, Option.map_some, Option.map_some, Schema.sorted_toJson range read denoted]

/-- The records of a collection keep their order and that of their fields; null counts as
nothing. -/
theorem sorted_of_decodeDataMember {tree : Tree} {data : Option (List Record)} {room : Nat}
    {v : Json} (h : decodeDataMember room tree = .ok data) (denoted : tree.toJson? room = some v) :
    (data.map fun records => (recordsJson records).sorted) = v.notNull?.map Json.sorted ∧
      (data.map fun records => userFields (recordsJson records)) = v.notNull?.map userFields := by
  rcases decodeDataMember_ok h with ⟨rfl, rfl⟩ | ⟨items, closed, records, rfl, rfl, read⟩
  · cases denoted
    exact ⟨rfl, rfl⟩
  · obtain ⟨values, found, rfl⟩ := Tree.toJson?_array_ok denoted
    obtain ⟨sorted, fields⟩ := Record.sorted_of_decodeItems read found
    exact ⟨congrArg some (Json.sorted_array_eq_iff.2 sorted), congrArg some fields⟩

theorem toJson_of_decodeNextIdMember {tree : Tree} {nextId : Option RecordId} {room : Nat} {v : Json}
    (range : tree.InRange) (h : decodeNextIdMember tree = .ok nextId)
    (denoted : tree.toJson? room = some v) : nextId.map RecordId.toJson = v.notNull? := by
  unfold decodeNextIdMember at h
  split at h
  · cases h
    cases denoted
    rfl
  · rename_i i
    split at h
    · cases h
    · rename_i notNegative
      cases h
      cases denoted
      have inRange : 0 ≤ i ∧ i ≤ Number.maxInt :=
        ⟨Int.not_lt.1 notNegative, (range (.int i) rfl).2⟩
      have isId : RecordId.ofJson? (.number (.int i)) = some i.toNat.toUInt64 := by
        rw [RecordId.ofJson?, if_pos inRange]
      rw [Option.map_some, ← RecordId.eq_toJson_of_ofJson? isId]
      rfl
  · cases h

theorem ne_of_unknown {name known : String} (mem : known ∈ knownNames)
    (unknown : name ∉ knownNames) : name ≠ known := by
  rintro rfl
  exact unknown mem

/-- What has been read of a collection matches the members met, after one more of them too. -/
theorem Step.matches {room : Nat} {parts next : Parts} {name : String} {tree : Tree} {value : Json}
    {before : List (String × Json)} (step : Step room parts name tree next) (range : tree.InRange)
    (denoted : tree.toJson? room = some value) (same : parts.Matches before) :
    next.Matches (before ++ [(name, value)]) := by
  cases step with
  | schema absent read =>
    -- A known member settles its own part, and the other parts do not look at its name.
    have sorted := sorted_of_decodeSchemaMember range read denoted
    refine ⟨?_, ?_, ?_, ?_, fun other unknown => ?_⟩ <;> rw [Assoc.get?_ofEntries_concat]
    · simp [sorted]
    · simpa using same.data
    · simpa using same.userFields
    · simpa using same.nextId
    · rw [if_neg (ne_of_unknown (by decide) unknown), same.extra other unknown]
  | data absent read =>
    obtain ⟨sorted, fields⟩ := sorted_of_decodeDataMember read denoted
    refine ⟨?_, ?_, ?_, ?_, fun other unknown => ?_⟩ <;> rw [Assoc.get?_ofEntries_concat]
    · simpa using same.schema
    · simp [sorted]
    · simp [fields]
    · simpa using same.nextId
    · rw [if_neg (ne_of_unknown (by decide) unknown), same.extra other unknown]
  | nextId absent read =>
    have sorted := congrArg (Option.map Json.sorted) (toJson_of_decodeNextIdMember range read denoted)
    rw [Option.map_map] at sorted
    refine ⟨?_, ?_, ?_, ?_, fun other unknown => ?_⟩ <;> rw [Assoc.get?_ofEntries_concat]
    · simpa using same.schema
    · simpa using same.data
    · simpa using same.userFields
    · exact congrArg some sorted
    · rw [if_neg (ne_of_unknown (by decide) unknown), same.extra other unknown]
  | extra unknown found =>
    cases Option.some.inj (found.symm.trans denoted)
    -- A carried member has none of the known names, so it settles no part.
    have other : ∀ known ∈ knownNames, known ≠ name := fun known mem =>
      (ne_of_unknown mem unknown).symm
    refine ⟨?_, ?_, ?_, ?_, fun name' unknown' => ?_⟩ <;> simp only [Assoc.get?_ofEntries_concat]
    · rw [if_neg (other "schema" (by decide)), same.schema]
    · rw [if_neg (other "data" (by decide)), same.data]
    · rw [if_neg (other "data" (by decide)), same.userFields]
    · rw [if_neg (other "next_id" (by decide)), same.nextId]
    · rw [same.extra name' unknown']

/-- A part that is absent and one that is null are written in the same way. -/
theorem map_getD_eq {α β : Type} {part : Option (Option α)} {found : Option Json} {f : α → β}
    {g : Json → β} (h : part.map (fun a => a.map f) = found.map fun v => v.notNull?.map g) :
    (part.getD none).map f = (found.bind Json.notNull?).map g := by
  cases part <;> cases found <;> simp_all

/-- A member of a collection that was read is written as it is kept. -/
theorem sorted_member {parts : Parts} {values : List (String × Json)} (same : parts.Matches values)
    (name : String) :
    (if name = "schema" then parts.collection.schema.map Schema.toJson
      else if name = "data" then parts.collection.data.map recordsJson
      else if name = "next_id" then parts.collection.nextId.map RecordId.toJson
      else Assoc.get? name parts.collection.extra).map Json.sorted =
      ((Assoc.get? name (Assoc.ofEntries values)).bind (keptMember name)).map Json.sorted := by
  split
  · rename_i isSchema
    subst isSchema
    rw [Option.map_map]
    refine (map_getD_eq same.schema).trans ?_
    cases Assoc.get? "schema" (Assoc.ofEntries values) <;> simp [keptMember, Function.comp_def]
  · rename_i notSchema
    split
    · rename_i isData
      subst isData
      rw [Option.map_map]
      refine (map_getD_eq same.data).trans ?_
      cases Assoc.get? "data" (Assoc.ofEntries values) <;> simp [keptMember]
    · rename_i notData
      split
      · rename_i isNextId
        subst isNextId
        rw [Option.map_map]
        refine (map_getD_eq same.nextId).trans ?_
        cases Assoc.get? "next_id" (Assoc.ofEntries values) <;> simp [keptMember]
      · rename_i notNextId
        have unknown : name ∉ knownNames := by simp [knownNames, notSchema, notData, notNextId]
        rw [Parts.collection, same.extra name unknown]
        cases Assoc.get? name (Assoc.ofEntries values) <;>
          simp [keptMember, notSchema, notData, notNextId]

/-- A collection that was read matches the value it was read from. -/
theorem matches_of_decode {room : Nat} {tree : Tree} {c : Collection} {v : Json}
    (range : tree.InRange) (h : Collection.decode (room + 3) tree = .ok c)
    (denoted : tree.toJson? (room + 3) = some v) : c.Matches v := by
  have wf := (wellFormed_of_decode range h).1
  unfold Collection.decode at h
  split at h
  · obtain ⟨entries, last, rfl, reads, _, rfl⟩ := reads_of_decodeMembers h
    obtain ⟨values, found, rfl⟩ := Tree.toJson?_object_ok denoted
    have same : last.Matches values :=
      reads.simulation range found (motive := Parts.Matches) ⟨rfl, rfl, rfl, rfl, fun _ _ => rfl⟩
        Step.matches
    have distinct := Assoc.nodup_keys_ofEntries values
    refine ⟨?_, fun name unknown => ?_, ?_⟩
    · have members := member?_toJson wf
      have nodup := wf.sound_toJson
      rw [toJson_eq] at members nodup ⊢
      refine (Json.sorted_object_eq_iff (Json.sound_object.1 nodup).1
        (Assoc.nodup_keys_filterMap keptMember distinct)).2 fun name => ?_
      rw [Assoc.get?_filterMap _ _ distinct]
      refine (congrArg (Option.map Json.sorted) (members name)).trans ?_
      exact sorted_member same name
    · rw [member?_toJson wf, if_neg (ne_of_unknown (by decide) unknown),
        if_neg (ne_of_unknown (by decide) unknown), if_neg (ne_of_unknown (by decide) unknown)]
      exact same.extra name unknown
    · rw [member?_toJson wf]
      exact (Option.map_map ..).trans (map_getD_eq same.userFields)
  · cases h

end Collection

/-! ## Catalogs -/

namespace Catalog

theorem member?_documentsJson (documents : NameMap Collection) (name : String) :
    (documentsJson documents).member? name = (documents.get? name).map Collection.toJson := by
  rw [documentsJson, Json.member?, Assoc.get?_map, NameMap.get?_eq]

/-- Whether collections, written again, say what a value says. -/
def DocumentsMatch (documents : NameMap Collection) (v : Json) : Prop :=
  (documentsJson documents).sorted = (keptDocuments v).sorted ∧
    ∀ name, Option.Rel Collection.Matches (documents.get? name) (v.member? name)

/-- The collections that were read match the values they were read from, name by name. -/
theorem documentsMatch_of_decodeDocuments {room : Nat} {tree : Tree}
    {documents : NameMap Collection} {v : Json} (range : tree.InRange)
    (h : decodeDocuments (room + 4) tree = .ok documents)
    (denoted : tree.toJson? (room + 4) = some v) : DocumentsMatch documents v := by
  obtain ⟨members, closed, rfl, read⟩ := decodeDocuments_ok h
  obtain ⟨values, found, rfl⟩ := Tree.toJson?_object_ok denoted
  have each := rel_of_decodeNameMap range read found Collection.matches_of_decode
  refine ⟨sorted_eq_of_rel (Assoc.nodup_keys_ofEntries values) fun name => ?_, each⟩
  exact rel_imp (fun same => same.sorted) (each name)

/-- Whether the parts of a catalog are what its members so far say. -/
structure Parts.Matches (parts : Parts) (before : List (String × Json)) : Prop where
  documents : Option.Rel DocumentsMatch parts.documents
    (Assoc.get? "documents" (Assoc.ofEntries before))
  extra : ∀ name, name ≠ "documents" →
    Assoc.get? name (Assoc.ofEntries parts.extra) = Assoc.get? name (Assoc.ofEntries before)

/-- What has been read of a catalog matches the members met, after one more of them too. -/
theorem Step.matches {room : Nat} {parts next : Parts} {name : String} {tree : Tree} {value : Json}
    {before : List (String × Json)} (step : Step (room + 4) parts name tree next)
    (range : tree.InRange) (denoted : tree.toJson? (room + 4) = some value)
    (same : parts.Matches before) : next.Matches (before ++ [(name, value)]) := by
  cases step with
  | documents absent read =>
    refine ⟨?_, fun other unknown => ?_⟩ <;> rw [Assoc.get?_ofEntries_concat]
    · exact .some (documentsMatch_of_decodeDocuments range read denoted)
    · rw [if_neg unknown, same.extra other unknown]
  | extra unknown found =>
    cases Option.some.inj (found.symm.trans denoted)
    refine ⟨?_, fun other unknown' => ?_⟩ <;> simp only [Assoc.get?_ofEntries_concat]
    · rw [if_neg (Ne.symm unknown)]
      exact same.documents
    · rw [same.extra other unknown']

/-- Whether a catalog, written again, says what a value says. -/
structure Matches (c : Catalog) (v : Json) : Prop where
  sorted : c.toJson.sorted = (kept v).sorted
  extra : ∀ name, name ≠ "documents" → c.toJson.member? name = v.member? name
  documents : ∀ name, Option.Rel Collection.Matches (c.documents.get? name)
    ((v.member? "documents").bind fun documents => documents.member? name)

/-- A catalog that was read matches the value it was read from. -/
theorem matches_of_ofTree {tree : Tree} {c : Catalog} {v : Json} (range : tree.InRange)
    (h : Catalog.ofTree tree = .ok c) (denoted : tree.toJson? maxDepth = some v) : c.Matches v := by
  have wf := (wellFormed_of_ofTree range h).1
  unfold Catalog.ofTree at h
  split at h
  · obtain ⟨entries, last, rfl, reads, _, documents, extra⟩ := reads_of_decodeMembers ⟨none, []⟩ h
    obtain ⟨values, found, rfl⟩ := Tree.toJson?_object_ok denoted
    have same : last.Matches values :=
      reads.simulation range found (motive := Parts.Matches) ⟨.none, fun _ _ => rfl⟩ Step.matches
    have distinct := Assoc.nodup_keys_ofEntries values
    have others : ∀ name, name ≠ "documents" →
        Assoc.get? name c.extra = Assoc.get? name (Assoc.ofEntries values) := by
      rw [← extra]
      exact same.extra
    -- The collections were met, or else the reader would have refused the object.
    obtain ⟨v, documentsFound, sorted, each⟩ : ∃ v,
        Assoc.get? "documents" (Assoc.ofEntries values) = some v ∧ DocumentsMatch c.documents v := by
      have met := same.documents
      rw [documents] at met
      cases read : Assoc.get? "documents" (Assoc.ofEntries values) with
      | none =>
        rw [read] at met
        cases met
      | some v =>
        rw [read] at met
        cases met with
        | some related => exact ⟨v, rfl, related⟩
    refine ⟨?_, fun name unknown => ?_, fun name => ?_⟩
    · have nodup := wf.sound_toJson
      rw [toJson_eq] at nodup ⊢
      refine (Json.sorted_object_eq_iff (Json.sound_object.1 nodup).1
        (Assoc.nodup_keys_filterMap keptMember distinct)).2 fun name => ?_
      rw [Assoc.get?_cons, Assoc.get?_filterMap _ _ distinct]
      split
      · rename_i isDocuments
        subst isDocuments
        simp [documentsFound, keptMember, sorted]
      · rename_i notDocuments
        rw [others name (Ne.symm notDocuments)]
        cases Assoc.get? name (Assoc.ofEntries values) <;> simp [keptMember, Ne.symm notDocuments]
    · rw [toJson_eq, Json.member?, Assoc.get?_cons, if_neg (Ne.symm unknown), others name unknown]
      rfl
    · rw [Json.member?, documentsFound]
      exact each name
  · cases h

/-- The bytes of a catalog whose doubles read back hold its value, within the limit of nesting. -/
theorem ofSymbols?_encode {c : Catalog} (wf : c.WellFormed) (readsBack : c.toJson.ReadsBack)
    (depth : c.toJson.depth ≤ maxDepth) (style : Style) :
    Json.ofSymbols? (Symbol.ofBytes (c.encode style)) = some c.toJson := by
  rw [Json.ofSymbols?, Catalog.encode, Catalog.text, Symbol.ofBytes_toUTF8, Document.read_text]
  simp [Tree.toJson?_tree maxDepth wf.sound_toJson, readsBack.fits_iff, depth,
    Json.reread_eq_self wf.sound_toJson readsBack]

/-- A catalog decoded from bytes matches the value that a general reader finds in them. -/
theorem matches_of_decode {bytes : ByteArray} {c : Catalog} {v : Json}
    (decoded : Catalog.decode bytes = .ok c)
    (plain : Json.ofSymbols? (Symbol.ofBytes bytes) = some v) : c.Matches v := by
  obtain ⟨_, read⟩ := decode_ok decoded
  simp only [Json.ofSymbols?, Option.ite_none_right_eq_some] at plain
  exact matches_of_ofTree (Document.inRange_read _) read plain.2

theorem at?_documents (v : Json) (name member : String) :
    v.at? ["documents", name, member] =
      ((v.member? "documents").bind fun documents => documents.member? name).bind fun collection =>
        collection.member? member := by
  simp [Json.at?, Option.bind_assoc]

theorem at?_toJson (c : Catalog) (name member : String) :
    c.toJson.at? ["documents", name, member] =
      (c.documents.get? name).bind fun collection => collection.toJson.member? member := by
  have found : c.toJson.member? "documents" = some (documentsJson c.documents) := by
    rw [toJson_eq, Json.member?, Assoc.get?_cons, if_pos rfl]
  rw [at?_documents, found, Option.bind_some, member?_documentsJson]
  cases c.documents.get? name <;> rfl

/-- What a written catalog says of a member of a collection is what is related to it in the value
that the catalog was read from. -/
theorem Matches.at? {c : Catalog} {v : Json} (same : c.Matches v) {α : Type} {member : String}
    {f g : Option Json → Option α} (none : f none = g none)
    (each : ∀ {collection value}, Collection.Matches collection value →
      f (collection.toJson.member? member) = g (value.member? member)) (name : String) :
    f (c.toJson.at? ["documents", name, member]) = g (v.at? ["documents", name, member]) := by
  rw [at?_toJson, at?_documents]
  have related := same.documents name
  revert related
  generalize c.documents.get? name = collection
  generalize ((v.member? "documents").bind fun documents => documents.member? name) = value
  intro related
  cases related with
  | none => exact none
  | some related => exact each related

end Catalog

/-- A file that is loaded and stored again holds the same catalog, and storing it once more changes
no byte. Its value is what was kept of the old one, up to the order of members: every member that is
not known keeps its value, and every record keeps the user's fields in their order. -/
theorem CatalogFile.encode_keeps (file : CatalogFile) (style : Style) {bytes : ByteArray}
    {c : Catalog} {v : Json} (decoded : file.decode bytes = .ok c)
    (plain : Json.ofSymbols? (Symbol.ofBytes bytes) = some v) (readsBack : c.toJson.ReadsBack) :
    file.decode (c.encode style) = .ok c ∧
    (file.decode (c.encode style)).map (fun c => c.encode style) = .ok (c.encode style) ∧
    ∃ v', Json.ofSymbols? (Symbol.ofBytes (c.encode style)) = some v' ∧
      v'.sorted = (Catalog.kept v).sorted ∧
      (∀ name, name ≠ "documents" → v'.at? [name] = v.at? [name]) ∧
      (∀ collection name, name ∉ Collection.knownNames →
        v'.at? ["documents", collection, name] = v.at? ["documents", collection, name]) ∧
      ∀ collection, (v'.at? ["documents", collection, "data"]).map Collection.userFields =
        ((v.at? ["documents", collection, "data"]).bind Json.notNull?).map Collection.userFields := by
  have read := CatalogFile.decode_ok.1 decoded
  obtain ⟨wf, depth⟩ := Catalog.wellFormed_of_decode read
  have again : file.decode (c.encode style) = .ok c := by
    rw [CatalogFile.decode_ok, Catalog.decode_encode_of_readsBack wf readsBack, if_pos depth]
  have same := Catalog.matches_of_decode read plain
  refine ⟨again, by rw [again]; rfl, c.toJson, Catalog.ofSymbols?_encode wf readsBack depth style,
    same.sorted, fun name unknown => ?_, fun collection name unknown => ?_, fun collection => ?_⟩
  · simp [Json.at?, same.extra name unknown]
  · exact same.at? (f := id) (g := id) rfl (fun related => related.extra name unknown) collection
  · exact same.at? (f := fun v => v.map Collection.userFields)
      (g := fun v => (v.bind Json.notNull?).map Collection.userFields) rfl
      (fun related => related.userFields) collection

/-- A file as a user could write it: the identifier not first, a declaration as a list, a null
counter, and members that are not known. -/
def Catalog.handWritten : String :=
  "\x7b\"note\": 1.5, \"documents\": \x7b\"c\": \x7b\"data\": [\x7b\"b\": 1, \"_id\": 7\x7d], " ++
  "\"x\": [], \"schema\": \x7b\"t\": [\"string\", null]\x7d, \"next_id\": null\x7d\x7d\x7d"

/-- A file written by hand is written again as what is kept of it, although it looks quite different. -/
theorem CatalogFile.encode_keeps_handWritten : ∃ c v v',
    CatalogFile.decode ⟨⟨["notes.json"]⟩, .atomic, .compact⟩ Catalog.handWritten.toUTF8 = .ok c ∧
    Json.ofSymbols? (Symbol.ofBytes Catalog.handWritten.toUTF8) = some v ∧
    Json.ofSymbols? (Symbol.ofBytes (c.encode .compact)) = some v' ∧
    v'.sorted = (Catalog.kept v).sorted := by
  have accepted : ∃ c, Catalog.decode Catalog.handWritten.toUTF8 = .ok c ∧ c.toJson.ReadsBack := by
    have checked : ((Catalog.decode Catalog.handWritten.toUTF8).toOption.any fun c =>
        decide c.toJson.ReadsBack) = true := by decide +kernel
    cases read : Catalog.decode Catalog.handWritten.toUTF8 with
    | error problem =>
      rw [read] at checked
      cases checked
    | ok c =>
      rw [read] at checked
      exact ⟨c, rfl, of_decide_eq_true checked⟩
  obtain ⟨c, read, readsBack⟩ := accepted
  obtain ⟨v, plain⟩ : ∃ v, Json.ofSymbols? (Symbol.ofBytes Catalog.handWritten.toUTF8) = some v :=
    Option.isSome_iff_exists.1 (by decide +kernel)
  have decoded : CatalogFile.decode ⟨⟨["notes.json"]⟩, .atomic, .compact⟩
      Catalog.handWritten.toUTF8 = .ok c := CatalogFile.decode_ok.2 read
  obtain ⟨_, _, v', written, sorted, _⟩ :=
    CatalogFile.encode_keeps _ .compact decoded plain readsBack
  exact ⟨c, v, v', decoded, plain, written, sorted⟩

example : (Catalog.decode Catalog.handWritten.toUTF8).toOption.map (fun c => c.text .compact) =
    some ("\x7b\"documents\":\x7b\"c\":\x7b\"schema\":\x7b\"t\":\x7b\"type\":\"string\"\x7d\x7d," ++
      "\"data\":[\x7b\"_id\":7,\"b\":1\x7d],\"x\":[]\x7d\x7d,\"note\":1.5\x7d") := by
  decide +kernel

end DocStore
