-- SUMMARY: Records kept flat, with the identifier among the fields as well: both copies stay in step.
import DocStore.Proofs.Catalog.Decoded
import DocStore.Proofs.Record.Merge

/-!
# Records kept flat

A record can be kept as one map of all its fields, the identifier under the reserved name among them,
with the identifier beside it a second time. Whoever matches, shows or writes a record then reads the
map, and whoever asks for the identifier reads the other copy. That both agree is no matter of types
there: every operation has to pass the reserved name over.

Operations on flat records are the images of those on records, which have one copy only. So a flat
record, however it came about, is the object of a record, and has what the object of a record has.
-/

namespace DocStore

/-- A record with its identifier beside the map of all its fields. -/
structure Flat where
  id : RecordId
  fields : Object

namespace Flat

/-- Put a field into a map, unless it is under the reserved name. -/
def put (fields : Object) (field : String × Json) : Object :=
  if field.1 = idField then fields else Assoc.set field.1 field.2 fields

/-- The flat record of an identifier and fields: the identifier is put first. -/
def new (id : RecordId) (fields : Object) : Flat :=
  ⟨id, fields.foldl put [(idField, RecordId.toJson id)]⟩

/-- The flat record that an object is. -/
def ofObject (object : Object) : Except Record.Fault Flat :=
  match Assoc.get? idField object with
  | none => .error .missingId
  | some value =>
    match RecordId.ofJson? value with
    | none => .error (.invalidId value)
    | some id => .ok (new id object)

/-- Give one field its value in a patch, unless it has the same value already. -/
def mergeField (f : Flat) (name : String) (value : Json) : Flat :=
  if name = idField then f
  else
    match Assoc.get? name f.fields with
    | some old => if old.same value then f else ⟨f.id, Assoc.set name value f.fields⟩
    | none => ⟨f.id, Assoc.set name value f.fields⟩

/-- Give the fields of a patch their values there. -/
def merge (f : Flat) (patch : Object) : Flat :=
  patch.foldl (fun f field => f.mergeField field.1 field.2) f

def userFields (f : Flat) : Object :=
  f.fields.filter fun field => field.1 ≠ idField

end Flat

namespace Record

/-- A record kept flat. -/
def flat (r : Record) : Flat :=
  ⟨r.id, r.toObject⟩

/-! ## Operations on flat records -/

theorem flat_new (id : RecordId) (fields : Object) : (new id fields).flat = Flat.new id fields := by
  -- The identifier is put first and stays there, as nothing else is put under its name.
  have behind : ∀ rest : Object, fields.foldl Flat.put ((idField, RecordId.toJson id) :: rest) =
      (idField, RecordId.toJson id) ::
        (Assoc.erase idField fields).foldl (fun map entry => Assoc.set entry.1 entry.2 map) rest := by
    induction fields with
    | nil => exact fun _ => rfl
    | cons field fields ih =>
      intro rest
      by_cases isId : field.1 = idField
      · simpa [Flat.put, Assoc.erase, isId] using ih rest
      · simpa [Flat.put, Assoc.erase, Assoc.set, isId, Ne.symm isId]
          using ih (Assoc.set field.1 field.2 rest)
  rw [flat, Flat.new, behind []]
  rfl

theorem flat_ofObject (object : Object) :
    (ofObject object).map flat = Flat.ofObject object := by
  unfold ofObject Flat.ofObject
  cases Assoc.get? idField object with
  | none => rfl
  | some value =>
    cases isId : RecordId.ofJson? value with
    | none => simp only [isId]; rfl
    | some id =>
      simp only [isId]
      exact congrArg Except.ok (flat_new id object)

theorem flat_mergeField (r : Record) (name : String) (value : Json) :
    (r.mergeField name value).flat = r.flat.mergeField name value := by
  unfold mergeField Flat.mergeField
  by_cases isId : name = idField
  · rw [if_pos isId, if_pos isId]
  · have found : Assoc.get? name r.flat.fields = Assoc.get? name r.fields := get?_of_ne isId r
    have laid : ∀ v, (⟨r.id, Assoc.set name v r.fields⟩ : Record).flat =
        ⟨r.flat.id, Assoc.set name v r.flat.fields⟩ := by
      intro v
      simp [flat, toObject, Assoc.set, Ne.symm isId]
    rw [if_neg isId, if_neg isId, found]
    cases Assoc.get? name r.fields with
    | none => exact laid value
    | some old =>
      by_cases same : old.same value
      · simp [same]
      · simpa [same] using laid value

theorem flat_merge (r : Record) (patch : Object) : (r.merge patch).flat = r.flat.merge patch := by
  induction patch generalizing r with
  | nil => rfl
  | cons field patch ih =>
    change ((r.mergeField field.1 field.2).merge patch).flat = _
    rw [ih, flat_mergeField]
    rfl

/-! ## Distinct names -/

theorem nodup_keys_toObject_new (id : RecordId) (fields : Object) :
    (Assoc.keys (new id fields).toObject).Nodup := by
  refine List.nodup_cons.2 ⟨?_, Assoc.nodup_keys_ofEntries _⟩
  intro mem
  obtain ⟨field, kept, isId⟩ := List.mem_map.1 mem
  have erased := Assoc.mem_keys_of_mem (Assoc.mem_of_mem_ofEntries kept)
  rw [isId] at erased
  exact Assoc.not_mem_keys_erase idField fields erased

theorem nodup_keys_toObject_mergeField {r : Record} (nodup : (Assoc.keys r.toObject).Nodup)
    (name : String) (value : Json) : (Assoc.keys (r.mergeField name value).toObject).Nodup := by
  by_cases isId : name = idField
  · rwa [isId, mergeField_idField]
  · rw [toObject_mergeField isId]
    exact Assoc.nodup_keys_set nodup

theorem nodup_keys_toObject_merge {r : Record} (nodup : (Assoc.keys r.toObject).Nodup)
    (patch : Object) : (Assoc.keys (r.merge patch).toObject).Nodup := by
  induction patch generalizing r with
  | nil => exact nodup
  | cons field patch ih => exact ih (nodup_keys_toObject_mergeField nodup field.1 field.2)

end Record

/-! ## How a record comes about -/

/-- What a record is made from: an identifier with fields, an object, or a text. -/
inductive Origin where
  | made (id : RecordId) (fields : Object)
  | read (object : Object)
  | parsed (text : String)

/-- The record that comes from an origin, if one does. -/
def Record.ofOrigin? : Origin → Option Record
  | .made id fields => some (new id fields)
  | .read object => (ofObject object).toOption
  | .parsed text => (parse text).toOption

/-- The record that comes from an origin, with patches merged into it one after another. -/
def Record.build? (origin : Origin) (patches : List Object) : Option Record :=
  (ofOrigin? origin).map fun r => patches.foldl merge r

/-- The flat record that comes from an origin, if one does. -/
def Flat.ofOrigin? : Origin → Option Flat
  | .made id fields => some (new id fields)
  | .read object => (ofObject object).toOption
  | .parsed text =>
    match Json.parse? text with
    | some (.object object) => (ofObject object).toOption
    | _ => none

/-- The flat record that comes from an origin, with patches merged into it one after another. -/
def Flat.build? (origin : Origin) (patches : List Object) : Option Flat :=
  (ofOrigin? origin).map fun f => patches.foldl merge f

theorem Document.toOption_decode {α : Type} (walk : Tree → Except Problem α) (document : Document) :
    (document.decode walk).toOption =
      if document.complete then (walk document.tree).toOption else none := by
  unfold Document.decode
  cases walk document.tree <;> cases document.complete <;> rfl

namespace Record

theorem toOption_decode (room : Nat) (tree : Tree) : (Record.decode room tree).toOption =
    match tree.toJson? room with
    | some (.object object) => (ofObject object).toOption
    | _ => none := by
  cases tree with
  | object members closed =>
    simp only [Record.decode]
    cases (Tree.object members closed).toJson? room with
    | none => rfl
    | some value =>
      cases value with
      | object object => cases read : ofObject object <;> simp only [read] <;> rfl
      | _ => rfl
  | broken => rfl
  | null => rfl
  | bool b => rfl
  | number n => cases n <;> rfl
  | string s => cases s <;> rfl
  | array items closed =>
    cases room with
    | zero => rfl
    | succ room =>
      cases closed with
      | false => rfl
      | true => simp only [Tree.toJson?]; cases Tree.itemsToJson? room items <;> rfl

/-- The record of a text is that of the object which the text holds. -/
theorem toOption_parse (text : String) : (parse text).toOption =
    match Json.parse? text with
    | some (.object object) => (ofObject object).toOption
    | _ => none := by
  rw [parse, Document.toOption_decode, toOption_decode, Json.parse?, Json.ofSymbols?]
  cases (Document.read (Symbol.ofString text)).complete <;> rfl

theorem flat_ofOrigin? (origin : Origin) :
    (ofOrigin? origin).map flat = Flat.ofOrigin? origin := by
  have read : ∀ object, (ofObject object).toOption.map flat = (Flat.ofObject object).toOption := by
    intro object
    rw [← flat_ofObject]
    cases ofObject object <;> rfl
  cases origin with
  | made id fields => exact congrArg some (flat_new id fields)
  | read object => exact read object
  | parsed text =>
    simp only [ofOrigin?, Flat.ofOrigin?, toOption_parse]
    split
    · exact read _
    · rfl

theorem flat_foldl_merge (r : Record) (patches : List Object) :
    (patches.foldl merge r).flat = patches.foldl Flat.merge r.flat := by
  induction patches generalizing r with
  | nil => rfl
  | cons patch patches ih => rw [List.foldl_cons, List.foldl_cons, ih, flat_merge]

theorem flat_build? (origin : Origin) (patches : List Object) :
    (build? origin patches).map flat = Flat.build? origin patches := by
  rw [Flat.build?, ← flat_ofOrigin?, build?, Option.map_map, Option.map_map]
  exact congrArg (Option.map · _) (funext fun r => flat_foldl_merge r patches)

end Record

/-! ## In step -/

/-- Whether both copies of the identifier agree: the map has it first and under no other name, and
the map by itself says which record it is. -/
structure Flat.InStep (f : Flat) : Prop where
  first : f.fields.head? = some (idField, RecordId.toJson f.id)
  distinct : (Assoc.keys f.fields).Nodup
  userFields : f.userFields = f.fields.tail
  back : ofObject f.fields = .ok f

namespace Record

/-- A record without repeated names is kept flat in step. -/
theorem inStep_flat {r : Record} (nodup : (Assoc.keys r.toObject).Nodup) : r.flat.InStep := by
  obtain ⟨notId, distinct⟩ := List.nodup_cons.1 nodup
  refine ⟨rfl, nodup, ?_, ?_⟩
  · have user : ∀ field ∈ r.fields, field.1 ≠ idField := by
      intro field mem isId
      exact notId (List.mem_map.2 ⟨field, mem, isId⟩)
    change r.toObject.filter _ = r.fields
    simpa [toObject] using user
  · change Flat.ofObject r.toObject = .ok r.flat
    rw [← flat_ofObject, ofObject_toObject distinct notId]
    rfl

theorem nodup_keys_toObject_of_ofObject {object : Object} {r : Record}
    (h : ofObject object = .ok r) : (Assoc.keys r.toObject).Nodup := by
  unfold ofObject at h
  split at h
  · cases h
  · split at h
    · cases h
    · cases h
      exact nodup_keys_toObject_new _ object

theorem nodup_keys_toObject_ofOrigin? {origin : Origin} {r : Record}
    (h : ofOrigin? origin = some r) : (Assoc.keys r.toObject).Nodup := by
  have read : ∀ object, (ofObject object).toOption = some r → (Assoc.keys r.toObject).Nodup := by
    intro object h
    cases found : ofObject object with
    | error fault => simp [found, Except.toOption] at h
    | ok s =>
      rw [found] at h
      cases h
      exact nodup_keys_toObject_of_ofObject found
  cases origin with
  | made id fields =>
    cases h
    exact nodup_keys_toObject_new id fields
  | read object => exact read object h
  | parsed text =>
    rw [ofOrigin?, toOption_parse] at h
    split at h
    · exact read _ h
    · cases h

theorem nodup_keys_toObject_foldl_merge {r : Record} (nodup : (Assoc.keys r.toObject).Nodup)
    (patches : List Object) : (Assoc.keys (patches.foldl merge r).toObject).Nodup := by
  induction patches generalizing r with
  | nil => exact nodup
  | cons patch patches ih => exact ih (nodup_keys_toObject_merge nodup patch)

theorem nodup_keys_toObject_build? {origin : Origin} {patches : List Object} {r : Record}
    (h : build? origin patches = some r) : (Assoc.keys r.toObject).Nodup := by
  obtain ⟨start, made, rfl⟩ := Option.map_eq_some_iff.1 h
  exact nodup_keys_toObject_foldl_merge (nodup_keys_toObject_ofOrigin? made) patches

/-- A record that is kept flat stays in step with the record it stands for, whatever it is made from
and whatever is merged into it; and reading an object keeps the user's fields in their order. -/
theorem identifier_in_step (origin : Origin) (patches : List Object) :
    Flat.build? origin patches = (build? origin patches).map flat ∧
      (∀ f, Flat.build? origin patches = some f → f.InStep) ∧
      ∀ object f, (Assoc.keys object).Nodup → Flat.ofObject object = .ok f →
        f.userFields = object.filter fun field => field.1 ≠ idField := by
  refine ⟨(flat_build? origin patches).symm, ?_, ?_⟩
  · intro f built
    obtain ⟨r, made, rfl⟩ := Option.map_eq_some_iff.1 ((flat_build? origin patches).trans built)
    exact inStep_flat (nodup_keys_toObject_build? made)
  · intro object f nodup read
    obtain ⟨r, made, rfl⟩ := map_eq_ok.1 ((flat_ofObject object).trans read)
    rw [(inStep_flat (nodup_keys_toObject_of_ofObject made)).userFields]
    exact (ofObject_ok nodup made).2

/-- A text with the identifier in the middle and a repeated name, and patches with an identifier. -/
theorem identifier_in_step_parsed :
    let origin := Origin.parsed "\x7b\"b\": 1, \"_id\": 7, \"a\": 2, \"b\": 3\x7d"
    let patches := [[("_id", .number (.int 9)), ("a", .bool true)], [("c", .null)]]
    let object := [("b", .null), ("_id", .number (.int 7)), ("a", .bool true)]
    (∃ f, Flat.build? origin patches = some f ∧ f.InStep ∧
      f.id = 7 ∧ Assoc.keys f.fields = ["_id", "b", "a", "c"]) ∧
    ∃ f, Flat.ofObject object = .ok f ∧ f.userFields = [("b", .null), ("a", .bool true)] := by
  intro origin patches object
  obtain ⟨-, inStep, order⟩ := identifier_in_step origin patches
  constructor
  · have checked : ((Flat.build? origin patches).any fun f =>
        f.id = 7 ∧ Assoc.keys f.fields = ["_id", "b", "a", "c"]) = true := by decide +kernel
    obtain ⟨f, built, seen⟩ := (Option.any_eq_true _ _).1 checked
    exact ⟨f, built, inStep f built, of_decide_eq_true seen⟩
  · exact ⟨_, rfl, order object _ (by decide) rfl⟩

end Record
end DocStore
