-- SUMMARY: Reading accepts exactly the bytes of texts of the file format, and calls all others corrupt.
import DocStore.CatalogFile
import DocStore.Proofs.Catalog.Decoded
import DocStore.Proofs.Json.Grammar

/-!
# The file format

`Catalog.Format` says of a value whether it is a catalog in the file format. The value is one that
has its members as they stand in the text, so the format can ask for a member that stands there once,
and speaks of a collection that a later one of the same name replaces as of any other.

Bytes are accepted if and only if they are a text of such a value that opens no more containers at
once than are allowed. This is so as long as declarations have no members but `type` and `required`:
of a member of a declaration that is not known only the end is looked for.

Both directions follow the readers. Members are taken one by one, and `Parts.Admits` says which
members may still come after the parts met so far.
-/

namespace DocStore

/-! ## The format -/

/-- Whether there is one value, and it has a property. -/
def Once (p : Json → Prop) : List Json → Prop
  | [v] => p v
  | _ => False

/-- Whether there is no value, or one that has a property. -/
def AtMostOnce (p : Json → Prop) : List Json → Prop
  | [] => True
  | [v] => p v
  | _ => False

def Json.NullOr (p : Json → Prop) (v : Json) : Prop :=
  v = .null ∨ p v

def Json.IsString (v : Json) : Prop :=
  ∃ s, v = .string s

def Json.IsBool (v : Json) : Prop :=
  ∃ b, v = .bool b

/-- Whether a value is an integer of 64 bits. -/
def RecordId.Format (v : Json) : Prop :=
  ∃ i : Int, v = .number (.int i) ∧ 0 ≤ i ∧ i ≤ Number.maxInt

/-- Whether a value is the declaration of a field. -/
def FieldSpec.Format : Json → Prop
  | .object members =>
    Once Json.IsString (Assoc.valuesOf "type" members) ∧
      AtMostOnce (Json.NullOr Json.IsBool) (Assoc.valuesOf "required" members)
  | .array [kind] => kind.IsString
  | .array [kind, required] => kind.IsString ∧ required.NullOr Json.IsBool
  | _ => False

/-- Whether a value is a schema. -/
def Schema.Format : Json → Prop
  | .object members => ∀ member ∈ members, FieldSpec.Format member.2
  | _ => False

/-- Whether a value is a record: the last member of the reserved name is an identifier. -/
def Record.Format : Json → Prop
  | .object members => ∃ v, (Assoc.valuesOf idField members).getLast? = some v ∧ RecordId.Format v
  | _ => False

/-- Whether a value is a list of records. -/
def Collection.DataFormat : Json → Prop
  | .array items => ∀ item ∈ items, Record.Format item
  | _ => False

/-- Whether a value is a collection. -/
def Collection.Format : Json → Prop
  | .object members =>
    AtMostOnce (Json.NullOr Schema.Format) (Assoc.valuesOf "schema" members) ∧
    AtMostOnce (Json.NullOr DataFormat) (Assoc.valuesOf "data" members) ∧
    AtMostOnce (Json.NullOr RecordId.Format) (Assoc.valuesOf "next_id" members)
  | _ => False

/-- Whether a value is an object of collections. -/
def Catalog.DocumentsFormat : Json → Prop
  | .object members => ∀ member ∈ members, Collection.Format member.2
  | _ => False

/-- Whether a value is a catalog. -/
def Catalog.Format : Json → Prop
  | .object members => Once DocumentsFormat (Assoc.valuesOf "documents" members)
  | _ => False

/-! ## Declarations without unknown members -/

/-- The members of a tree, if it is an object. -/
def Tree.members : Tree → List (Option String × Tree)
  | .object members _ => members
  | _ => []

/-- Whether a declaration that is an object has no members but the known ones. -/
def FieldSpec.KnownOnly (tree : Tree) : Prop :=
  ∀ member ∈ tree.members, member.1 = some "type" ∨ member.1 = some "required"

/-- Whether the declarations of a schema have no members but the known ones. -/
def Schema.KnownOnly (tree : Tree) : Prop :=
  ∀ member ∈ tree.members, FieldSpec.KnownOnly member.2

/-- Whether the declarations in a collection have no members but the known ones. -/
def Collection.KnownOnly (tree : Tree) : Prop :=
  ∀ member ∈ tree.members, member.1 = some "schema" → Schema.KnownOnly member.2

/-- Whether the declarations in an object of collections have no members but the known ones. -/
def Catalog.DocumentsKnownOnly (tree : Tree) : Prop :=
  ∀ member ∈ tree.members, Collection.KnownOnly member.2

/-- Whether the declarations in a catalog have no members but the known ones. -/
def Catalog.KnownOnly (tree : Tree) : Prop :=
  ∀ member ∈ tree.members, member.1 = some "documents" → DocumentsKnownOnly member.2

instance : DecidablePred FieldSpec.KnownOnly := fun tree =>
  inferInstanceAs (Decidable (∀ member ∈ tree.members, _))

instance : DecidablePred Schema.KnownOnly := fun tree =>
  inferInstanceAs (Decidable (∀ member ∈ tree.members, FieldSpec.KnownOnly member.2))

instance : DecidablePred Collection.KnownOnly := fun tree =>
  inferInstanceAs (Decidable (∀ member ∈ tree.members, _ → Schema.KnownOnly member.2))

instance : DecidablePred Catalog.DocumentsKnownOnly := fun tree =>
  inferInstanceAs (Decidable (∀ member ∈ tree.members, Collection.KnownOnly member.2))

instance : DecidablePred Catalog.KnownOnly := fun tree =>
  inferInstanceAs (Decidable (∀ member ∈ tree.members, _ → Catalog.DocumentsKnownOnly member.2))

/-! ## Members that may still come -/

/-- Whether the values of a name that are still to come are as asked; there is none if the name was
met. -/
def StillToCome (asked : List Json → Prop) (met : Bool) (values : List Json) : Prop :=
  if met then values = [] else asked values

theorem stillToCome_once_nil {p : Json → Prop} {met : Bool} :
    StillToCome (Once p) met [] ↔ met = true := by
  cases met <;> simp [StillToCome, Once]

theorem stillToCome_atMostOnce_nil {p : Json → Prop} {met : Bool} :
    StillToCome (AtMostOnce p) met [] := by
  cases met <;> simp [StillToCome, AtMostOnce]

theorem stillToCome_once_cons {p : Json → Prop} {met : Bool} {v : Json} {values : List Json} :
    StillToCome (Once p) met (v :: values) ↔
      met = false ∧ p v ∧ StillToCome (Once p) true values := by
  cases met <;> cases values <;> simp [StillToCome, Once]

theorem stillToCome_atMostOnce_cons {p : Json → Prop} {met : Bool} {v : Json} {values : List Json} :
    StillToCome (AtMostOnce p) met (v :: values) ↔
      met = false ∧ p v ∧ StillToCome (AtMostOnce p) true values := by
  cases met <;> cases values <;> simp [StillToCome, AtMostOnce]

/-- The range of an object's numbers is that of the numbers in each of its members. -/
theorem Tree.membersInRange_iff {members : List (Option String × Tree)} :
    membersInRange members ↔ ∀ member ∈ members, member.2.InRange := by
  induction members with
  | nil => simp [membersInRange]
  | cons member members ih => simp [membersInRange, ih]

/-- Whether a tree is that of a value that has a property and opens at most `room` containers. -/
def Tree.Holds (p : Json → Prop) (room : Nat) (tree : Tree) : Prop :=
  ∃ v : Json, tree = v.plainTree ∧ p v ∧ v.depth ≤ room

/-- The members of an object that is read are those of a value, and what holds at the end and is kept
by each step backwards holds of them at the start. -/
theorem Reads.exists_members {σ : Type} {step : σ → String → Tree → σ → Prop}
    {motive : σ → Object → Prop} {s t : σ} {entries : List (String × Tree)}
    (reads : Reads step s entries t) (asked : Option String × Tree → Prop)
    (each : ∀ member ∈ named entries, asked member) (base : motive t [])
    (keep : ∀ {s name tree t members}, step s name tree t → asked (some name, tree) →
      motive t members → ∃ v : Json, tree = v.plainTree ∧ motive s ((name, v) :: members)) :
    ∃ members, named entries = membersPlainTree members ∧ motive s members := by
  induction reads with
  | nil => exact ⟨[], rfl, base⟩
  | cons first _ ih =>
    obtain ⟨head, tail⟩ := List.forall_mem_cons.1 each
    obtain ⟨members, same, rest⟩ := ih tail base
    obtain ⟨v, rfl, all⟩ := keep first head rest
    exact ⟨_, congrArg _ same, all⟩

/-! ## Declarations -/

namespace FieldSpec

theorem holds_of_decodeString {tree : Tree} {kind : String} (h : decodeString tree = .ok kind) :
    tree.Holds Json.IsString 0 := by
  rw [decodeString_ok h]
  exact ⟨.string kind, rfl, ⟨kind, rfl⟩, Nat.le_refl 0⟩

theorem holds_of_decodeRequired {tree : Tree} {required : Option Bool}
    (h : decodeRequired tree = .ok required) : tree.Holds (Json.NullOr Json.IsBool) 0 := by
  unfold decodeRequired at h
  split at h
  · exact ⟨.null, rfl, .inl rfl, Nat.le_refl 0⟩
  · rename_i b
    exact ⟨.bool b, rfl, .inr ⟨b, rfl⟩, Nat.le_refl 0⟩
  · cases h

theorem exists_decodeRequired {v : Json} (format : v.NullOr Json.IsBool) :
    ∃ required, decodeRequired v.plainTree = .ok required := by
  obtain rfl | ⟨b, rfl⟩ := format
  · exact ⟨none, rfl⟩
  · exact ⟨some b, rfl⟩

/-- Whether members may still come after the parts of a declaration met so far. -/
structure Parts.Admits (parts : Parts) (members : Object) : Prop where
  kind : StillToCome (Once Json.IsString) parts.kind.isSome (Assoc.valuesOf "type" members)
  required : StillToCome (AtMostOnce (Json.NullOr Json.IsBool)) parts.required.isSome
    (Assoc.valuesOf "required" members)

/-- A member that is read was still to come, whatever is read after it. -/
theorem Step.admits {parts next : Parts} {name : String} {tree : Tree} {members : Object}
    (step : Step parts name tree next) (known : some name = some "type" ∨ some name = some "required")
    (rest : next.Admits members ∧ membersDepth members ≤ 0) :
    ∃ v : Json, tree = v.plainTree ∧ parts.Admits ((name, v) :: members) ∧
      membersDepth ((name, v) :: members) ≤ 0 := by
  obtain ⟨⟨kind, required⟩, deep⟩ := rest
  cases step with
  | @kind word absent =>
    refine ⟨.string word, rfl, ⟨?_, ?_⟩, Nat.max_le.2 ⟨Nat.le_refl 0, deep⟩⟩
    · rw [absent]
      exact stillToCome_once_cons.2 ⟨rfl, ⟨word, rfl⟩, kind⟩
    · exact required
  | required absent read =>
    obtain ⟨v, rfl, format, flat⟩ := holds_of_decodeRequired read
    refine ⟨v, rfl, ⟨?_, ?_⟩, Nat.max_le.2 ⟨flat, deep⟩⟩
    · exact kind
    · rw [absent]
      exact stillToCome_atMostOnce_cons.2 ⟨rfl, format, required⟩
  | other notType notRequired =>
    rcases known with known | known
    · exact absurd (Option.some.inj known) notType
    · exact absurd (Option.some.inj known) notRequired

/-- What is read as a declaration has a kind, once, and says at most once whether it is required. -/
theorem holds_of_decodeMembers {closed : Bool} {members : List (Option String × Tree)}
    {spec : FieldSpec}
    (known : ∀ member ∈ members, member.1 = some "type" ∨ member.1 = some "required")
    (h : decodeMembers closed members ⟨none, none⟩ = .ok spec) :
    (Tree.object members closed).Holds Format 1 := by
  obtain ⟨entries, last, rfl, reads, rfl, kind, _⟩ := reads_of_decodeMembers h
  have ended : last.Admits [] :=
    ⟨stillToCome_once_nil.2 (by rw [kind]; rfl), stillToCome_atMostOnce_nil⟩
  obtain ⟨members, same, ⟨kind, required⟩, deep⟩ := reads.exists_members
    (motive := fun parts members => parts.Admits members ∧ membersDepth members ≤ 0)
    (fun member => member.1 = some "type" ∨ member.1 = some "required") known
    ⟨ended, Nat.le_refl 0⟩ Step.admits
  exact ⟨.object members, by rw [same]; rfl, ⟨kind, required⟩, Nat.succ_le_succ deep⟩

theorem holds_of_decodeItems {closed : Bool} {items : List Tree} {spec : FieldSpec}
    (h : decodeItems closed items = .ok spec) : (Tree.array items closed).Holds Format 1 := by
  unfold decodeItems at h
  split at h
  · cases h
  · obtain ⟨word, first, done⟩ := bind_eq_ok.1 h
    obtain ⟨kind, rfl, isString, flat⟩ := holds_of_decodeString first
    cases closed <;> cases done
    exact ⟨.array [kind], rfl, isString, Nat.succ_le_succ (Nat.max_le.2 ⟨flat, Nat.le_refl 0⟩)⟩
  · obtain ⟨word, first, rest⟩ := bind_eq_ok.1 h
    obtain ⟨flag, second, done⟩ := bind_eq_ok.1 rest
    obtain ⟨kind, rfl, isString, flat⟩ := holds_of_decodeString first
    obtain ⟨required, rfl, isFlag, flatToo⟩ := holds_of_decodeRequired second
    cases closed <;> cases done
    exact ⟨.array [kind, required], rfl, ⟨isString, isFlag⟩, Nat.succ_le_succ
      (Nat.max_le.2 ⟨flat, Nat.max_le.2 ⟨flatToo, Nat.le_refl 0⟩⟩)⟩
  · obtain ⟨word, _, h⟩ := bind_eq_ok.1 h
    obtain ⟨flag, _, h⟩ := bind_eq_ok.1 h
    cases h

theorem holds_of_decode {tree : Tree} {spec : FieldSpec} (known : KnownOnly tree)
    (h : FieldSpec.decode tree = .ok spec) : tree.Holds Format 1 := by
  unfold FieldSpec.decode at h
  split at h
  · exact holds_of_decodeMembers known h
  · exact holds_of_decodeItems h
  · cases h

/-- Members that have a kind still to come, and nothing twice, are read to their end. -/
theorem exists_decodeMembers {members : Object} {parts : Parts} (admits : parts.Admits members) :
    ∃ spec, decodeMembers true (membersPlainTree members) parts = .ok spec := by
  induction members generalizing parts with
  | nil =>
    obtain ⟨kind, met⟩ := Option.isSome_iff_exists.1 (stillToCome_once_nil.1 admits.kind)
    simp [membersPlainTree, decodeMembers, met]
  | cons member members ih =>
    obtain ⟨name, v⟩ := member
    obtain ⟨kind, required⟩ := admits
    simp only [membersPlainTree, decodeMembers, Assoc.valuesOf_cons] at kind required ⊢
    by_cases isType : name = "type"
    · subst isType
      obtain ⟨absent, ⟨word, rfl⟩, later⟩ := stillToCome_once_cons.1 kind
      simp only [if_true, absent, Bool.false_eq_true, if_false]
      exact ih ⟨later, required⟩
    · by_cases isRequired : name = "required"
      · subst isRequired
        obtain ⟨absent, format, later⟩ := stillToCome_atMostOnce_cons.1 required
        obtain ⟨flag, read⟩ := exists_decodeRequired format
        simp only [if_neg isType, if_true, absent, read, Bool.false_eq_true, if_false]
        exact ih ⟨kind, later⟩
      · simp only [if_neg isType, if_neg isRequired, Tree.intact_plainTree, if_true] at kind required ⊢
        exact ih ⟨kind, required⟩

/-- Each declaration that has the format is read. -/
theorem exists_decode {v : Json} (format : Format v) :
    ∃ spec, FieldSpec.decode v.plainTree = .ok spec := by
  unfold Format at format
  split at format
  · exact exists_decodeMembers ⟨format.1, format.2⟩
  · obtain ⟨word, rfl⟩ := format
    exact ⟨_, rfl⟩
  · obtain ⟨⟨word, rfl⟩, isFlag⟩ := format
    obtain ⟨flag, read⟩ := exists_decodeRequired isFlag
    exact ⟨⟨word, flag⟩, by
      simp [Json.plainTree, itemsPlainTree, FieldSpec.decode, decodeItems, decodeString, read]⟩
  · exact format.elim

end FieldSpec

/-! ## Maps by name -/

/-- If each value that is read is that of a value with a property, so are the members of the
object. -/
theorem exists_of_decodeNameMap {α : Type} {decode : Tree → Except Problem α} {p : Json → Prop}
    {room : Nat} {closed : Bool} {members : List (Option String × Tree)} {start map : NameMap α}
    (h : decodeNameMap decode closed members start = .ok map)
    (each : ∀ member ∈ members, ∀ {a}, decode member.2 = .ok a → member.2.Holds p room) :
    ∃ values, Tree.object members closed = (Json.object values).plainTree ∧
      (∀ member ∈ values, p member.2) ∧ (Json.object values).depth ≤ room + 1 := by
  obtain ⟨entries, last, rfl, reads, rfl, _⟩ := reads_of_decodeNameMap h
  obtain ⟨values, same, format, deep⟩ := reads.exists_members
    (motive := fun _ values => (∀ member ∈ values, p member.2) ∧ membersDepth values ≤ room)
    (fun member => ∀ {a}, decode member.2 = .ok a → member.2.Holds p room)
    each ⟨List.forall_mem_nil _, Nat.zero_le _⟩ (by
      rintro map name tree _ values ⟨read⟩ holds ⟨format, deep⟩
      obtain ⟨v, rfl, isFormat, flat⟩ := holds read
      exact ⟨v, rfl, List.forall_mem_cons.2 ⟨isFormat, format⟩, Nat.max_le.2 ⟨flat, deep⟩⟩)
  exact ⟨values, by rw [same]; rfl, format, Nat.succ_le_succ deep⟩

/-- An object is read by name if each of its values is, those that are overwritten too. -/
theorem exists_decodeNameMap {α : Type} {decode : Tree → Except Problem α} {values : Object}
    (each : ∀ member ∈ values, ∃ a, decode member.2.plainTree = .ok a) (start : NameMap α) :
    ∃ map, decodeNameMap decode true (membersPlainTree values) start = .ok map := by
  induction values generalizing start with
  | nil => exact ⟨start, rfl⟩
  | cons member values ih =>
    obtain ⟨⟨a, read⟩, rest⟩ := List.forall_mem_cons.1 each
    simp only [membersPlainTree, decodeNameMap, read]
    exact ih rest _

namespace Schema

theorem holds_of_decode {tree : Tree} {schema : Schema} (known : KnownOnly tree)
    (h : Schema.decode tree = .ok schema) : tree.Holds Format 2 := by
  unfold Schema.decode at h
  split at h
  · obtain ⟨values, same, format, deep⟩ := exists_of_decodeNameMap h fun member mem _ read =>
      FieldSpec.holds_of_decode (known member mem) read
    exact ⟨.object values, same, format, deep⟩
  · cases h

/-- Each schema that has the format is read. -/
theorem exists_decode {v : Json} (format : Format v) :
    ∃ schema, Schema.decode v.plainTree = .ok schema := by
  cases v with
  | object members =>
    exact exists_decodeNameMap (fun member mem => FieldSpec.exists_decode (format member mem)) _
  | _ => exact format.elim

end Schema

/-! ## Records -/

/-- A value is taken for an identifier exactly if it is an integer of 64 bits. -/
theorem RecordId.exists_ofJson? {v : Json} : (∃ id, ofJson? v = some id) ↔ Format v := by
  constructor
  · rintro ⟨id, read⟩
    unfold ofJson? at read
    split at read
    · rename_i i
      split at read
      · rename_i range
        exact ⟨i, rfl, range⟩
      · cases read
    · cases read
  · rintro ⟨i, rfl, range⟩
    exact ⟨_, if_pos range⟩

/-- Which repeated members are dropped makes no difference to an integer. -/
theorem RecordId.format_merged {v : Json} : Format v.merged ↔ Format v := by
  cases v with
  | array items => simp [Format, Json.merged]
  | object members => simp [Format, Json.merged]
  | _ => rfl

/-- Dropping repeated members inside of values leaves the values of a name in their order. -/
theorem valuesOf_membersMerged (name : String) (members : Object) :
    Assoc.valuesOf name (membersMerged members) =
      (Assoc.valuesOf name members).map Json.merged := by
  induction members with
  | nil => rfl
  | cons member members ih =>
    obtain ⟨key, v⟩ := member
    rw [membersMerged, Assoc.valuesOf_cons, Assoc.valuesOf_cons, ih]
    split <;> rfl

namespace Record

/-- An object is a record exactly if it has an identifier under the reserved name. -/
theorem exists_ofObject {object : Object} : (∃ r, ofObject object = .ok r) ↔
    ∃ v, Assoc.get? idField object = some v ∧ RecordId.Format v := by
  unfold ofObject
  cases Assoc.get? idField object with
  | none => simp
  | some v =>
    simp only [Option.some.injEq, exists_eq_left', ← RecordId.exists_ofJson?]
    cases RecordId.ofJson? v with
    | none => simp
    | some id => exact ⟨fun _ => ⟨id, rfl⟩, fun _ => ⟨_, rfl⟩⟩

/-- Merging keeps whether an object is a record, since of members with the same name the last one
counts. -/
theorem exists_ofObject_merged {members : Object} :
    (∃ r, ofObject (Assoc.ofEntries (membersMerged members)) = .ok r) ↔ Format (.object members) := by
  rw [exists_ofObject, Assoc.get?_ofEntries, valuesOf_membersMerged, List.getLast?_map]
  constructor
  · rintro ⟨_, found, format⟩
    obtain ⟨v, last, rfl⟩ := Option.map_eq_some_iff.1 found
    exact ⟨v, last, RecordId.format_merged.1 format⟩
  · rintro ⟨v, last, format⟩
    exact ⟨v.merged, by rw [last]; rfl, RecordId.format_merged.2 format⟩

/-- A record is read from an object that has an identifier, the last of its name, and from nothing
else. -/
theorem holds_of_decode {room : Nat} {tree : Tree} {r : Record}
    (h : Record.decode room tree = .ok r) : tree.Holds Format room := by
  obtain ⟨members, denoted, read⟩ := decode_ok h
  obtain ⟨v, rfl, deep⟩ := Tree.exists_plainTree denoted
  rw [Tree.toJson?_plainTree deep] at denoted
  refine ⟨v, rfl, ?_, deep⟩
  cases v with
  | object values =>
    obtain rfl := Json.object.inj (Option.some.inj denoted)
    exact exists_ofObject_merged.1 ⟨r, read⟩
  | _ => cases Option.some.inj denoted

/-- Each record that has the format is read where there is room for it. -/
theorem exists_decode {room : Nat} {v : Json} (format : Format v) (deep : v.depth ≤ room) :
    ∃ r, Record.decode room v.plainTree = .ok r := by
  cases v with
  | object members =>
    obtain ⟨r, read⟩ := exists_ofObject_merged.2 format
    have denoted := Tree.toJson?_plainTree deep
    simp only [Json.plainTree, Json.merged] at denoted ⊢
    exact ⟨r, by simp only [Record.decode, denoted, read, Except.mapError]⟩
  | _ => exact format.elim

theorem holds_of_decodeItems {room : Nat} {closed : Bool} {items : List Tree}
    {records : List Record} (h : Record.decodeItems room closed items = .ok records) :
    (Tree.array items closed).Holds Collection.DataFormat (room + 1) := by
  induction items generalizing records with
  | nil =>
    cases closed <;> cases h
    exact ⟨.array [], rfl, List.forall_mem_nil _, Nat.succ_le_succ (Nat.zero_le _)⟩
  | cons item items ih =>
    obtain ⟨r, more, first, rest, _⟩ := decodeItems_cons_ok h
    obtain ⟨v, rfl, format, flat⟩ := holds_of_decode first
    obtain ⟨data, same, formats, deep⟩ := ih rest
    obtain ⟨values, rfl, rfl⟩ := Tree.plainTree_eq_array same
    obtain ⟨_, rfl⟩ := Tree.array.inj same
    exact ⟨.array (v :: values), rfl, List.forall_mem_cons.2 ⟨format, formats⟩,
      Nat.succ_le_succ (Nat.max_le.2 ⟨flat, Nat.le_of_succ_le_succ deep⟩)⟩

theorem exists_decodeItems {room : Nat} {items : List Json}
    (each : ∀ item ∈ items, Format item ∧ item.depth ≤ room) :
    ∃ records, Record.decodeItems room true (itemsPlainTree items) = .ok records := by
  induction items with
  | nil => exact ⟨[], rfl⟩
  | cons item items ih =>
    obtain ⟨⟨format, deep⟩, rest⟩ := List.forall_mem_cons.1 each
    obtain ⟨r, first⟩ := exists_decode format deep
    obtain ⟨records, more⟩ := ih rest
    exact ⟨r :: records, by simp [itemsPlainTree, Record.decodeItems, first, more]⟩

end Record

/-! ## Collections -/

namespace Collection

theorem holds_of_decodeSchemaMember {tree : Tree} {schema : Option Schema}
    (known : Schema.KnownOnly tree) (h : decodeSchemaMember tree = .ok schema) :
    tree.Holds (Json.NullOr Schema.Format) 2 := by
  unfold decodeSchemaMember at h
  split at h
  · exact ⟨.null, rfl, .inl rfl, Nat.zero_le _⟩
  · obtain ⟨schema, read, _⟩ := map_eq_ok.1 h
    obtain ⟨v, rfl, format, deep⟩ := Schema.holds_of_decode known read
    exact ⟨v, rfl, .inr format, deep⟩

theorem holds_of_decodeDataMember {room : Nat} {tree : Tree} {data : Option (List Record)}
    (h : decodeDataMember (room + 1) tree = .ok data) :
    tree.Holds (Json.NullOr DataFormat) (room + 1) := by
  rcases decodeDataMember_ok h with ⟨rfl, _⟩ | ⟨items, closed, records, rfl, _, read⟩
  · exact ⟨.null, rfl, .inl rfl, Nat.zero_le _⟩
  · obtain ⟨v, same, format, deep⟩ := Record.holds_of_decodeItems read
    exact ⟨v, same, .inr format, deep⟩

theorem holds_of_decodeNextIdMember {tree : Tree} {nextId : Option RecordId} (range : tree.InRange)
    (h : decodeNextIdMember tree = .ok nextId) : tree.Holds (Json.NullOr RecordId.Format) 0 := by
  unfold decodeNextIdMember at h
  split at h
  · exact ⟨.null, rfl, .inl rfl, Nat.zero_le _⟩
  · rename_i i
    split at h
    · cases h
    · rename_i notNegative
      have bound := (range (.int i) rfl).2
      exact ⟨.number (.int i), rfl, .inr ⟨i, rfl, Int.not_lt.1 notNegative, bound⟩, Nat.zero_le _⟩
  · cases h

/-- Whether members may still come after the parts of a collection met so far. -/
structure Parts.Admits (parts : Parts) (members : Object) : Prop where
  schema : StillToCome (AtMostOnce (Json.NullOr Schema.Format)) parts.schema.isSome
    (Assoc.valuesOf "schema" members)
  data : StillToCome (AtMostOnce (Json.NullOr DataFormat)) parts.data.isSome
    (Assoc.valuesOf "data" members)
  nextId : StillToCome (AtMostOnce (Json.NullOr RecordId.Format)) parts.nextId.isSome
    (Assoc.valuesOf "next_id" members)

/-- A member of a collection that is read was still to come, or has a name of the user's. -/
theorem Step.admits {room : Nat} {parts next : Parts} {name : String} {tree : Tree}
    {members : Object} (step : Step (room + 2) parts name tree next)
    (asked : tree.InRange ∧ (some name = some "schema" → Schema.KnownOnly tree))
    (rest : next.Admits members ∧ membersDepth members ≤ room + 2) :
    ∃ v : Json, tree = v.plainTree ∧ parts.Admits ((name, v) :: members) ∧
      membersDepth ((name, v) :: members) ≤ room + 2 := by
  obtain ⟨⟨schema, data, nextId⟩, deep⟩ := rest
  cases step with
  | schema absent read =>
    obtain ⟨v, rfl, format, flat⟩ := holds_of_decodeSchemaMember (asked.2 rfl) read
    refine ⟨v, rfl, ⟨?_, data, nextId⟩, Nat.max_le.2 ⟨by omega, deep⟩⟩
    rw [absent]
    exact stillToCome_atMostOnce_cons.2 ⟨rfl, format, schema⟩
  | data absent read =>
    obtain ⟨v, rfl, format, flat⟩ := holds_of_decodeDataMember read
    refine ⟨v, rfl, ⟨schema, ?_, nextId⟩, Nat.max_le.2 ⟨flat, deep⟩⟩
    rw [absent]
    exact stillToCome_atMostOnce_cons.2 ⟨rfl, format, data⟩
  | nextId absent read =>
    obtain ⟨v, rfl, format, flat⟩ := holds_of_decodeNextIdMember asked.1 read
    refine ⟨v, rfl, ⟨schema, data, ?_⟩, Nat.max_le.2 ⟨by omega, deep⟩⟩
    rw [absent]
    exact stillToCome_atMostOnce_cons.2 ⟨rfl, format, nextId⟩
  | extra unknown denoted =>
    obtain ⟨v, rfl, flat⟩ := Tree.exists_plainTree denoted
    simp only [knownNames, List.mem_cons, List.not_mem_nil, or_false, not_or] at unknown
    refine ⟨v, rfl, ⟨?_, ?_, ?_⟩, Nat.max_le.2 ⟨flat, deep⟩⟩
    · rwa [Assoc.valuesOf_cons, if_neg unknown.1]
    · rwa [Assoc.valuesOf_cons, if_neg unknown.2.1]
    · rwa [Assoc.valuesOf_cons, if_neg unknown.2.2]

/-- What is read as a collection has the format of one, and there is room for it. -/
theorem holds_of_decode {room : Nat} {tree : Tree} {c : Collection} (range : tree.InRange)
    (known : KnownOnly tree) (h : Collection.decode (room + 3) tree = .ok c) :
    tree.Holds Format (room + 3) := by
  unfold Collection.decode at h
  split at h
  · obtain ⟨entries, last, rfl, reads, rfl, _⟩ := reads_of_decodeMembers h
    have ended : last.Admits [] :=
      ⟨stillToCome_atMostOnce_nil, stillToCome_atMostOnce_nil, stillToCome_atMostOnce_nil⟩
    obtain ⟨members, same, ⟨schema, data, nextId⟩, deep⟩ := reads.exists_members
      (motive := fun parts members => parts.Admits members ∧ membersDepth members ≤ room + 2)
      (fun member => member.2.InRange ∧ (member.1 = some "schema" → Schema.KnownOnly member.2))
      (fun member mem => ⟨Tree.membersInRange_iff.1 range member mem, known member mem⟩)
      ⟨ended, Nat.zero_le _⟩ Step.admits
    exact ⟨.object members, by rw [same]; rfl, ⟨schema, data, nextId⟩, Nat.succ_le_succ deep⟩
  · cases h

theorem exists_decodeSchemaMember {v : Json} (format : v.NullOr Schema.Format) :
    ∃ schema, decodeSchemaMember v.plainTree = .ok schema := by
  obtain rfl | format := format
  · exact ⟨none, rfl⟩
  · obtain ⟨schema, read⟩ := Schema.exists_decode format
    cases v with
    | object members => exact ⟨some schema, map_eq_ok.2 ⟨schema, read, rfl⟩⟩
    | _ => exact format.elim

theorem exists_decodeDataMember {room : Nat} {v : Json} (format : v.NullOr DataFormat)
    (deep : v.depth ≤ room) : ∃ data, decodeDataMember room v.plainTree = .ok data := by
  obtain rfl | format := format
  · exact ⟨none, rfl⟩
  · cases v with
    | array items =>
      have each := itemsDepth_le.1 (Nat.le_sub_one_of_lt deep)
      obtain ⟨records, read⟩ := Record.exists_decodeItems fun item mem =>
        ⟨format item mem, each item mem⟩
      exact ⟨some records, map_eq_ok.2 ⟨records, read, rfl⟩⟩
    | _ => exact format.elim

theorem exists_decodeNextIdMember {v : Json} (format : v.NullOr RecordId.Format) :
    ∃ nextId, decodeNextIdMember v.plainTree = .ok nextId := by
  obtain rfl | ⟨i, rfl, notNegative, _⟩ := format
  · exact ⟨none, rfl⟩
  · exact ⟨_, if_neg (Int.not_lt.2 notNegative)⟩

/-- Members of a collection that has nothing known twice are read to their end. -/
theorem exists_decodeMembers {room : Nat} {members : Object} {parts : Parts}
    (admits : parts.Admits members) (deep : ∀ member ∈ members, member.2.depth ≤ room) :
    ∃ c, decodeMembers room true (membersPlainTree members) parts = .ok c := by
  induction members generalizing parts with
  | nil => exact ⟨_, rfl⟩
  | cons member members ih =>
    obtain ⟨name, v⟩ := member
    obtain ⟨schema, data, nextId⟩ := admits
    obtain ⟨flat, deepRest⟩ := List.forall_mem_cons.1 deep
    simp only [membersPlainTree, decodeMembers, Assoc.valuesOf_cons] at schema data nextId ⊢
    by_cases isSchema : name = "schema"
    · subst isSchema
      obtain ⟨absent, format, later⟩ := stillToCome_atMostOnce_cons.1 schema
      obtain ⟨found, read⟩ := exists_decodeSchemaMember format
      simp only [if_true, absent, read, Bool.false_eq_true, if_false]
      exact ih ⟨later, data, nextId⟩ deepRest
    · by_cases isData : name = "data"
      · subst isData
        obtain ⟨absent, format, later⟩ := stillToCome_atMostOnce_cons.1 data
        obtain ⟨found, read⟩ := exists_decodeDataMember format flat
        simp only [if_neg isSchema, if_true, absent, read, Bool.false_eq_true, if_false]
        exact ih ⟨schema, later, nextId⟩ deepRest
      · by_cases isNextId : name = "next_id"
        · subst isNextId
          obtain ⟨absent, format, later⟩ := stillToCome_atMostOnce_cons.1 nextId
          obtain ⟨found, read⟩ := exists_decodeNextIdMember format
          simp only [if_neg isSchema, if_neg isData, if_true, absent, read, Bool.false_eq_true,
            if_false]
          exact ih ⟨schema, data, later⟩ deepRest
        · simp only [if_neg isSchema, if_neg isData, if_neg isNextId] at schema data nextId ⊢
          simp only [Tree.value, Tree.toJson?_plainTree flat]
          exact ih ⟨schema, data, nextId⟩ deepRest

/-- Each collection that has the format is read where there is room for it. -/
theorem exists_decode {room : Nat} {v : Json} (format : Format v) (deep : v.depth ≤ room) :
    ∃ c, Collection.decode room v.plainTree = .ok c := by
  cases v with
  | object members =>
    obtain ⟨schema, data, nextId⟩ := format
    exact exists_decodeMembers ⟨schema, data, nextId⟩
      (membersDepth_le.1 (Nat.le_sub_one_of_lt deep))
  | _ => exact format.elim

end Collection

/-! ## Catalogs -/

namespace Catalog

/-- Whether members may still come after the parts of a catalog met so far. -/
def Parts.Admits (parts : Parts) (members : Object) : Prop :=
  StillToCome (Once DocumentsFormat) parts.documents.isSome (Assoc.valuesOf "documents" members)

theorem holds_of_decodeDocuments {room : Nat} {tree : Tree} {documents : NameMap Collection}
    (range : tree.InRange) (known : DocumentsKnownOnly tree)
    (h : decodeDocuments (room + 4) tree = .ok documents) :
    tree.Holds DocumentsFormat (room + 4) := by
  obtain ⟨members, closed, rfl, read⟩ := decodeDocuments_ok h
  obtain ⟨values, same, format, deep⟩ := exists_of_decodeNameMap read fun member mem _ read =>
    Collection.holds_of_decode (Tree.membersInRange_iff.1 range member mem) (known member mem) read
  exact ⟨.object values, same, format, deep⟩

/-- The collections of a catalog were still to come when they are read; other members are free. -/
theorem Step.admits {room : Nat} {parts next : Parts} {name : String} {tree : Tree}
    {members : Object} (step : Step (room + 4) parts name tree next)
    (asked : tree.InRange ∧ (some name = some "documents" → DocumentsKnownOnly tree))
    (rest : next.Admits members ∧ membersDepth members ≤ room + 4) :
    ∃ v : Json, tree = v.plainTree ∧ parts.Admits ((name, v) :: members) ∧
      membersDepth ((name, v) :: members) ≤ room + 4 := by
  obtain ⟨documents, deep⟩ := rest
  cases step with
  | documents absent read =>
    obtain ⟨v, rfl, format, flat⟩ := holds_of_decodeDocuments asked.1 (asked.2 rfl) read
    refine ⟨v, rfl, ?_, Nat.max_le.2 ⟨flat, deep⟩⟩
    rw [Parts.Admits, absent]
    exact stillToCome_once_cons.2 ⟨rfl, format, documents⟩
  | extra unknown denoted =>
    obtain ⟨v, rfl, flat⟩ := Tree.exists_plainTree denoted
    refine ⟨v, rfl, ?_, Nat.max_le.2 ⟨flat, deep⟩⟩
    rwa [Parts.Admits, Assoc.valuesOf_cons, if_neg unknown]

/-- A tree that is read as a catalog is that of a value in the file format. -/
theorem holds_of_ofTree {tree : Tree} {c : Catalog} (range : tree.InRange) (known : KnownOnly tree)
    (h : Catalog.ofTree tree = .ok c) : tree.Holds Format maxDepth := by
  unfold Catalog.ofTree at h
  split at h
  · obtain ⟨entries, last, rfl, reads, rfl, documents, _⟩ := reads_of_decodeMembers ⟨none, []⟩ h
    have ended : last.Admits [] := stillToCome_once_nil.2 (by rw [documents]; rfl)
    obtain ⟨members, same, format, deep⟩ := reads.exists_members
      (motive := fun parts members => parts.Admits members ∧ membersDepth members ≤ 122 + 4)
      (fun member => member.2.InRange ∧ (member.1 = some "documents" → DocumentsKnownOnly member.2))
      (fun member mem => ⟨Tree.membersInRange_iff.1 range member mem, known member mem⟩)
      ⟨ended, Nat.zero_le _⟩ Step.admits
    exact ⟨.object members, by rw [same]; rfl, format, Nat.succ_le_succ deep⟩
  · cases h

theorem exists_decodeDocuments {room : Nat} {v : Json} (format : DocumentsFormat v)
    (deep : v.depth ≤ room) : ∃ documents, decodeDocuments room v.plainTree = .ok documents := by
  cases v with
  | object members =>
    have each := membersDepth_le.1 (Nat.le_sub_one_of_lt deep)
    exact exists_decodeNameMap
      (fun member mem => Collection.exists_decode (format member mem) (each member mem)) _
  | _ => exact format.elim

/-- Members with the collections once among them are read to their end. -/
theorem exists_decodeMembers {room : Nat} {members : Object} (parts : Parts)
    (admits : parts.Admits members) (deep : ∀ member ∈ members, member.2.depth ≤ room) :
    ∃ c, decodeMembers room true (membersPlainTree members) parts.documents parts.extra = .ok c := by
  induction members generalizing parts with
  | nil =>
    obtain ⟨documents, met⟩ := Option.isSome_iff_exists.1 (stillToCome_once_nil.1 admits)
    simp [membersPlainTree, decodeMembers, met]
  | cons member members ih =>
    obtain ⟨name, v⟩ := member
    obtain ⟨flat, deepRest⟩ := List.forall_mem_cons.1 deep
    simp only [Parts.Admits, Assoc.valuesOf_cons] at admits
    simp only [membersPlainTree, decodeMembers]
    by_cases isDocuments : name = "documents"
    · subst isDocuments
      obtain ⟨absent, format, later⟩ := stillToCome_once_cons.1 admits
      obtain ⟨found, read⟩ := exists_decodeDocuments format flat
      simp only [if_true, absent, read, Bool.false_eq_true, if_false]
      exact ih ⟨some found, parts.extra⟩ later deepRest
    · simp only [if_neg isDocuments] at admits ⊢
      simp only [Tree.value, Tree.toJson?_plainTree flat]
      exact ih ⟨parts.documents, parts.extra ++ [(name, v.merged)]⟩ admits deepRest

/-- The tree of a value in the file format is read as a catalog. -/
theorem exists_ofTree {v : Json} (format : Format v) (deep : v.depth ≤ maxDepth) :
    ∃ c, Catalog.ofTree v.plainTree = .ok c := by
  cases v with
  | object members =>
    exact exists_decodeMembers ⟨none, []⟩ format
      (membersDepth_le.1 (Nat.le_of_succ_le_succ deep))
  | _ => exact format.elim

end Catalog

/-- Bytes in which declarations have no members but the known ones are accepted exactly if they are a
text of a value in the file format within the limit of nesting, and all others are called corrupt. -/
theorem CatalogFile.decode_exactly_format (file : CatalogFile) (bytes : ByteArray)
    (known : Catalog.KnownOnly (Document.read (Symbol.ofBytes bytes)).tree) :
    ((∃ c, file.decode bytes = .ok c) ↔
      ∃ v : Json, v.WrittenAs bytes ∧ v.depth ≤ maxDepth ∧ Catalog.Format v) ∧
    ∀ error, file.decode bytes = .error error →
      ∃ problem, error = .corruptCatalog file.path.text (.undecodable problem bytes) := by
  refine ⟨⟨?_, ?_⟩, ?_⟩
  · rintro ⟨c, decoded⟩
    obtain ⟨complete, read⟩ := Catalog.decode_ok (CatalogFile.decode_ok.1 decoded)
    obtain ⟨v, same, format, deep⟩ := Catalog.holds_of_ofTree (Document.inRange_read _) known read
    refine ⟨v, Document.read_eq_plainTree.1 ?_, deep, format⟩
    rw [← same, ← complete]
  · rintro ⟨v, written, deep, format⟩
    obtain ⟨c, read⟩ := Catalog.exists_ofTree format deep
    refine ⟨c, CatalogFile.decode_ok.2 ?_⟩
    rw [Catalog.decode, Document.read_eq_plainTree.2 written, Document.decode, read]
    rfl
  · intro error refused
    unfold CatalogFile.decode at refused
    cases decoded : Catalog.decode bytes with
    | ok c =>
      rw [decoded] at refused
      cases refused
    | error problem =>
      rw [decoded] at refused
      cases refused
      exact ⟨problem, rfl⟩

/-- A text of a catalog without collections that has a number as a further member. -/
def Catalog.withNumber (number : List Char) : String :=
  "\x7b\"documents\":\x7b\x7d,\"x\":" ++ String.ofList number ++ "\x7d"

/-- The numbers that are in range are not exactly those that are nearest to a double: with a number
below the greatest double a text can be corrupt, and with one beyond the doubles it can be accepted. -/
theorem CatalogFile.decode_at_greatest_double :
    (∃ c, (default : CatalogFile).decode (Catalog.withNumber ['0']).toUTF8 = .ok c) ∧
    (Number.Literal.refusedBelow.Spelled Number.Literal.refusedBelow.chars ∧
      Number.Literal.refusedBelow.magnitude < Decimal.firstBeyond ∧
      Catalog.KnownOnly (Document.read (Symbol.ofBytes
        (Catalog.withNumber Number.Literal.refusedBelow.chars).toUTF8)).tree ∧
      ¬∃ c, (default : CatalogFile).decode
        (Catalog.withNumber Number.Literal.refusedBelow.chars).toUTF8 = .ok c) ∧
    Number.Literal.readBeyond.Spelled Number.Literal.readBeyond.chars ∧
      Decimal.firstBeyond ≤ Number.Literal.readBeyond.magnitude ∧
      Catalog.KnownOnly (Document.read (Symbol.ofBytes
        (Catalog.withNumber Number.Literal.readBeyond.chars).toUTF8)).tree ∧
      ∃ c, (default : CatalogFile).decode
        (Catalog.withNumber Number.Literal.readBeyond.chars).toUTF8 = .ok c := by
  have decoded (text : String) : (∃ c, (default : CatalogFile).decode text.toUTF8 = .ok c) ↔
      (Catalog.decode text.toUTF8).toOption.isSome = true := by
    simp only [CatalogFile.decode_ok]
    cases Catalog.decode text.toUTF8 <;> simp [Except.toOption]
  obtain ⟨wf, below, -⟩ := Number.Literal.refusedBelow_spec
  obtain ⟨wf', beyond, -⟩ := Number.Literal.readBeyond_spec
  refine ⟨?_, ⟨wf.spelled, below, by decide +kernel, ?_⟩, wf'.spelled, beyond, by decide +kernel, ?_⟩
  · rw [decoded]
    decide +kernel
  · rw [decoded]
    decide +kernel
  · rw [decoded]
    decide +kernel

/-- A text with a collection that stands there twice. Its record has two members of the reserved name,
one of them spelled by a number, and its schema a declaration that is a list. -/
def Catalog.repeated : String :=
  "\x7b\"documents\": \x7b\"c\": \x7b\"data\": [\x7b\"_id\": \"x\", \"\\u005fid\": 7\x7d], " ++
  "\"schema\": \x7b\"t\": [\"string\", null]\x7d\x7d, \"c\": \x7b\"next_id\": null\x7d\x7d\x7d"

/-- A text with a collection that is none, and one of the same name that replaces it. -/
def Catalog.replaced : String :=
  "\x7b\"documents\": \x7b\"c\": \x7b\"next_id\": -1\x7d, \"c\": \x7b\x7d\x7d\x7d"

/-- A record may have two identifiers of which the last counts, and a collection may be replaced by one
of its name; but what is replaced has to be a collection too. -/
theorem CatalogFile.decode_exactly_format_repeated :
    Catalog.KnownOnly (Document.read (Symbol.ofBytes Catalog.repeated.toUTF8)).tree ∧
    (∃ v : Json, v.WrittenAs Catalog.repeated.toUTF8 ∧ v.depth ≤ maxDepth ∧ Catalog.Format v) ∧
    Catalog.KnownOnly (Document.read (Symbol.ofBytes Catalog.replaced.toUTF8)).tree ∧
    ¬∃ v : Json, v.WrittenAs Catalog.replaced.toUTF8 ∧ v.depth ≤ maxDepth ∧ Catalog.Format v := by
  have known : Catalog.KnownOnly (Document.read (Symbol.ofBytes Catalog.repeated.toUTF8)).tree := by
    decide +kernel
  have knownToo : Catalog.KnownOnly (Document.read (Symbol.ofBytes Catalog.replaced.toUTF8)).tree := by
    decide +kernel
  refine ⟨known, ?_, knownToo, ?_⟩
  · apply (CatalogFile.decode_exactly_format default Catalog.repeated.toUTF8 known).1.1
    have accepted : (Catalog.decode Catalog.repeated.toUTF8).toOption.isSome = true := by
      decide +kernel
    cases decoded : Catalog.decode Catalog.repeated.toUTF8 with
    | ok c => exact ⟨c, CatalogFile.decode_ok.2 decoded⟩
    | error problem =>
      rw [decoded] at accepted
      cases accepted
  · intro written
    obtain ⟨c, decoded⟩ :=
      (CatalogFile.decode_exactly_format default Catalog.replaced.toUTF8 knownToo).1.2 written
    have refused : (Catalog.decode Catalog.replaced.toUTF8).toOption.isSome = false := by
      decide +kernel
    rw [CatalogFile.decode_ok.1 decoded] at refused
    cases refused

-- A half alone is no character, but in a member that is not known only the end of it is looked for.
example : (Catalog.decode ("\x7b\"documents\": \x7b\"c\": \x7b\"schema\": \x7b\"t\": " ++
    "\x7b\"type\": \"string\", \"note\": \"\\ud800\"\x7d\x7d\x7d\x7d\x7d").toUTF8).toOption.isSome =
      true := by
  decide +kernel

end DocStore
