-- SUMMARY: Every catalog that is read from bytes is well-formed and within the limit of nesting.
import DocStore.Proofs.Catalog.Reading
import DocStore.Proofs.Catalog.RoundTrip

/-!
# Catalogs that are read

Reading establishes what the operations on catalogs rely on. A record is read from an object with
one member of each name and is made without the reserved one, and the members that a collection or a
catalog carries along are those that were none of the known ones.
-/

namespace DocStore

/-! ## Records -/

/-- Only the value of an identifier is taken for that identifier. -/
theorem RecordId.eq_toJson_of_ofJson? {v : Json} {id : RecordId} (h : ofJson? v = some id) :
    v = toJson id := by
  unfold ofJson? at h
  split at h
  · rename_i i
    split at h
    · rename_i range
      cases h
      obtain ⟨low, high⟩ := range
      simp only [Number.maxInt] at high
      have same : (i.toNat.toUInt64.toNat : Int) = i := by
        rw [Nat.toUInt64_eq, UInt64.toNat_ofNat_of_lt' (by simp [UInt64.size]; omega)]
        omega
      rw [toJson, same]
    · cases h
  · cases h

namespace Record

/-- An object without repeated names is a record if it has the value of an identifier under the
reserved name; its other members are the fields, in their order. -/
theorem ofObject_ok {object : Object} {r : Record} (nodup : (Assoc.keys object).Nodup)
    (h : ofObject object = .ok r) :
    Assoc.get? idField object = some (RecordId.toJson r.id) ∧
      r.fields = Assoc.erase idField object := by
  unfold ofObject at h
  split at h
  · cases h
  · rename_i value found
    split at h
    · cases h
    · rename_i id isId
      cases h
      rw [RecordId.eq_toJson_of_ofJson? isId] at found
      exact ⟨found, Assoc.ofEntries_eq_self (Assoc.nodup_keys_erase nodup)⟩

/-- The text of a record is that of an object that makes one. -/
theorem decode_ok {room : Nat} {tree : Tree} {r : Record} (h : Record.decode room tree = .ok r) :
    ∃ members, tree.toJson? room = some (.object members) ∧ ofObject members = .ok r := by
  unfold Record.decode at h
  split at h
  · split at h
    · rename_i members denoted
      exact ⟨members, denoted, mapError_eq_ok.1 h⟩
    · cases h
  · cases h

theorem wellFormed_of_decode {room : Nat} {tree : Tree} {r : Record} (range : tree.InRange)
    (h : Record.decode room tree = .ok r) : r.WellFormed ∧ r.toJson.depth ≤ room := by
  obtain ⟨members, denoted, read⟩ := decode_ok h
  obtain ⟨sound, depth⟩ := Tree.sound_of_toJson? range denoted
  obtain ⟨nodup, values⟩ := Json.sound_object.1 sound
  obtain ⟨_, fields⟩ := ofObject_ok nodup read
  have kept : ∀ member ∈ r.fields, member ∈ members := by
    rw [fields]
    exact fun member mem => (List.mem_filter.1 mem).1
  refine ⟨⟨Json.sound_object.2 ⟨?_, fun member mem => values member (kept member mem)⟩, ?_⟩, ?_⟩
  · rw [fields]
    exact Assoc.nodup_keys_erase nodup
  · rw [fields]
    exact Assoc.not_mem_keys_erase idField members
  · cases room with
    | zero => simp [Json.depth] at depth
    | succ room =>
      have each := membersDepth_le.1 (Nat.le_of_succ_le_succ depth)
      refine Nat.succ_le_succ (membersDepth_le.2 (List.forall_mem_cons.2 ⟨Nat.zero_le _, ?_⟩))
      exact fun member mem => each member (kept member mem)

theorem decodeItems_cons_ok {room : Nat} {closed : Bool} {item : Tree} {items : List Tree}
    {records : List Record} (h : Record.decodeItems room closed (item :: items) = .ok records) :
    ∃ r more, Record.decode room item = .ok r ∧ Record.decodeItems room closed items = .ok more ∧
      records = r :: more := by
  obtain ⟨r, first, h⟩ := bind_eq_ok.1 h
  obtain ⟨more, rest, h⟩ := bind_eq_ok.1 h
  cases h
  exact ⟨r, more, first, rest, rfl⟩

/-- The records of a list are well-formed, and each of them is as deep as there is room. -/
theorem wellFormed_of_decodeItems {room : Nat} {closed : Bool} {items : List Tree}
    {records : List Record} (range : Tree.itemsInRange items)
    (h : Record.decodeItems room closed items = .ok records) :
    ∀ r ∈ records, r.WellFormed ∧ r.toJson.depth ≤ room := by
  induction items generalizing records with
  | nil =>
    cases closed <;> cases h
    simp
  | cons item items ih =>
    obtain ⟨r, more, first, rest, rfl⟩ := decodeItems_cons_ok h
    exact List.forall_mem_cons.2 ⟨wellFormed_of_decode range.1 first, ih range.2 rest⟩

end Record

/-! ## Collections -/

namespace Collection

/-- Whether the parts of a collection met so far are those of a well-formed one, with values that
open at most `room` containers. -/
structure Parts.Sound (room : Nat) (parts : Parts) : Prop where
  data : ∀ records, parts.data = some (some records) →
    ∀ r ∈ records, r.WellFormed ∧ r.toJson.depth ≤ room - 1
  extra : ∀ member ∈ parts.extra,
    member.1 ∉ knownNames ∧ member.2.Sound ∧ member.2.depth ≤ room

theorem decodeDataMember_ok {room : Nat} {tree : Tree} {data : Option (List Record)}
    (h : decodeDataMember room tree = .ok data) :
    (tree = .null ∧ data = none) ∨ ∃ items closed records, tree = .array items closed ∧
      data = some records ∧ Record.decodeItems (room - 1) closed items = .ok records := by
  unfold decodeDataMember at h
  split at h
  · cases h
    exact .inl ⟨rfl, rfl⟩
  · rename_i items closed
    obtain ⟨records, read, rfl⟩ := map_eq_ok.1 h
    exact .inr ⟨items, closed, records, rfl, rfl, read⟩
  · cases h

/-- What is known of the parts of a collection survives one more member. -/
theorem Step.sound {room : Nat} {parts next : Parts} {name : String} {tree : Tree}
    (step : Step room parts name tree next) (range : tree.InRange) (sound : parts.Sound room) :
    next.Sound room := by
  cases step with
  | schema absent read => exact ⟨sound.data, sound.extra⟩
  | nextId absent read => exact ⟨sound.data, sound.extra⟩
  | data absent read =>
    refine ⟨fun records same => ?_, sound.extra⟩
    cases same
    rcases decodeDataMember_ok read with ⟨_, none⟩ | ⟨items, closed, found, rfl, some, decoded⟩
    · cases none
    · cases some
      exact Record.wellFormed_of_decodeItems range decoded
  | extra unknown denoted =>
    refine ⟨sound.data, fun member mem => ?_⟩
    rcases List.mem_append.1 mem with mem | mem
    · exact sound.extra member mem
    · obtain rfl := List.mem_singleton.1 mem
      exact ⟨unknown, Tree.sound_of_toJson? range denoted⟩

/-- A collection is three levels deeper than what it holds. -/
theorem depth_toJson_le {c : Collection} {room : Nat}
    (data : ∀ r ∈ c.records, r.toJson.depth ≤ room + 1)
    (extra : ∀ member ∈ c.extra, member.2.depth ≤ room + 2) : c.toJson.depth ≤ room + 3 := by
  rw [toJson_eq]
  refine Nat.succ_le_succ (membersDepth_le.2 ?_)
  simp only [List.forall_mem_append,
    forall_mem_optionMember (motive := fun v : Json => v.depth ≤ room + 2)]
  refine ⟨fun schema _ => (schema.fits_toJson room).1, fun records same => ?_,
    fun id _ => Nat.zero_le _, extra⟩
  refine Nat.succ_le_succ (itemsDepth_le.2 (List.forall_mem_map.2 fun r mem => data r ?_))
  rw [Collection.records, Option.mem_def.1 same]
  exact mem

/-- A collection that was decoded is well-formed, and there was room for it. -/
theorem wellFormed_of_decode {room : Nat} {tree : Tree} {c : Collection} (range : tree.InRange)
    (h : Collection.decode (room + 3) tree = .ok c) :
    c.WellFormed ∧ c.toJson.depth ≤ room + 3 := by
  unfold Collection.decode at h
  split at h
  · obtain ⟨entries, last, rfl, reads, _, rfl⟩ := reads_of_decodeMembers h
    -- The reader starts with no parts, and each member keeps them sound.
    have start : Parts.Sound (room + 2) ⟨none, none, none, []⟩ := by
      constructor <;> simp
    have sound : last.Sound (room + 2) := reads.invariant range start Step.sound
    have records : ∀ r ∈ last.collection.records, r.WellFormed ∧ r.toJson.depth ≤ room + 1 := by
      intro r mem
      cases data : last.data with
      | none => simp [Collection.records, Parts.collection, data] at mem
      | some found =>
        cases found with
        | none => simp [Collection.records, Parts.collection, data] at mem
        | some records =>
          simp only [Collection.records, Parts.collection, data, Option.getD_some] at mem
          exact sound.data records data r mem
    have extra : ∀ member ∈ last.collection.extra,
        member.1 ∉ knownNames ∧ member.2.Sound ∧ member.2.depth ≤ room + 2 :=
      fun member mem => sound.extra member (Assoc.mem_of_mem_ofEntries mem)
    refine ⟨⟨fun r mem => (records r mem).1, ?_, ?_⟩, ?_⟩
    · exact Json.sound_object.2
        ⟨Assoc.nodup_keys_ofEntries _, fun member mem => (extra member mem).2.1⟩
    · intro name known mem
      obtain ⟨member, memExtra, rfl⟩ := List.mem_map.1 mem
      exact (extra member memExtra).1 known
    · exact depth_toJson_le (fun r mem => (records r mem).2) fun member mem =>
        (extra member mem).2.2
  · cases h

end Collection

/-! ## Catalogs -/

/-- What holds of every value that is read holds of the values of the map. -/
theorem forall_of_decodeNameMap {α : Type} {decode : Tree → Except Problem α} {motive : α → Prop}
    {closed : Bool} {members : List (Option String × Tree)} {map : NameMap α}
    (range : Tree.membersInRange members)
    (h : decodeNameMap decode closed members NameMap.empty = .ok map)
    (each : ∀ {tree value}, tree.InRange → decode tree = .ok value → motive value) :
    ∀ entry ∈ map.entries, motive entry.2 := by
  obtain ⟨entries, last, rfl, reads, _, rfl⟩ := reads_of_decodeNameMap h
  refine reads.invariant (motive := fun map => ∀ entry ∈ map.entries, motive entry.2) range ?_ ?_
  · intro entry mem
    cases mem
  · rintro map name tree _ ⟨read⟩ range keep entry mem
    rcases NameMap.mem_insert mem with rfl | mem
    · exact each range read
    · exact keep entry mem

namespace Catalog

/-- Whether the parts of a catalog met so far are those of a well-formed one, with values that open
at most `room` containers. -/
structure Parts.Sound (room : Nat) (parts : Parts) : Prop where
  documents : ∀ documents, parts.documents = some documents →
    ∀ entry ∈ documents.entries, entry.2.WellFormed ∧ entry.2.toJson.depth ≤ room - 1
  extra : ∀ member ∈ parts.extra,
    member.1 ≠ "documents" ∧ member.2.Sound ∧ member.2.depth ≤ room

theorem decodeDocuments_ok {room : Nat} {tree : Tree} {documents : NameMap Collection}
    (h : decodeDocuments room tree = .ok documents) :
    ∃ members closed, tree = .object members closed ∧
      decodeNameMap (Collection.decode (room - 1)) closed members NameMap.empty = .ok documents := by
  unfold decodeDocuments at h
  split at h
  · exact ⟨_, _, rfl, h⟩
  · cases h

theorem Step.sound {room : Nat} {parts next : Parts} {name : String} {tree : Tree}
    (step : Step (room + 4) parts name tree next) (range : tree.InRange)
    (sound : parts.Sound (room + 4)) : next.Sound (room + 4) := by
  cases step with
  | documents absent read =>
    refine ⟨fun documents same => ?_, sound.extra⟩
    cases same
    obtain ⟨members, closed, rfl, decoded⟩ := decodeDocuments_ok read
    exact forall_of_decodeNameMap range decoded Collection.wellFormed_of_decode
  | extra unknown denoted =>
    refine ⟨sound.documents, fun member mem => ?_⟩
    rcases List.mem_append.1 mem with mem | mem
    · exact sound.extra member mem
    · obtain rfl := List.mem_singleton.1 mem
      exact ⟨unknown, Tree.sound_of_toJson? range denoted⟩

/-- A catalog that was decoded is well-formed, and as deep as a text may be. -/
theorem wellFormed_of_ofTree {tree : Tree} {c : Catalog} (range : tree.InRange)
    (h : Catalog.ofTree tree = .ok c) : c.WellFormed ∧ c.toJson.depth ≤ maxDepth := by
  unfold Catalog.ofTree at h
  split at h
  · obtain ⟨entries, last, rfl, reads, _, documents, extra⟩ := reads_of_decodeMembers ⟨none, []⟩ h
    have start : Parts.Sound (122 + 4) ⟨none, []⟩ := by
      constructor <;> simp
    have sound : last.Sound (122 + 4) := reads.invariant range start Step.sound
    have collections := sound.documents c.documents documents
    have members : ∀ member ∈ c.extra,
        member.1 ≠ "documents" ∧ member.2.Sound ∧ member.2.depth ≤ 122 + 4 := by
      rw [← extra]
      exact fun member mem => sound.extra member (Assoc.mem_of_mem_ofEntries mem)
    refine ⟨⟨fun entry mem => (collections entry mem).1, ?_, ?_⟩, ?_⟩
    · refine Json.sound_object.2 ⟨?_, fun member mem => (members member mem).2.1⟩
      rw [← extra]
      exact Assoc.nodup_keys_ofEntries _
    · intro mem
      obtain ⟨member, memExtra, same⟩ := List.mem_map.1 mem
      exact (members member memExtra).1 same
    · refine Nat.succ_le_succ (membersDepth_le.2 (List.forall_mem_cons.2 ⟨?_, ?_⟩))
      · refine Nat.succ_le_succ (membersDepth_le.2 (List.forall_mem_map.2 ?_))
        exact fun entry mem => (collections entry mem).2
      · exact fun member mem => (members member mem).2.2
  · cases h

/-- Bytes hold a catalog if they are a whole document, and its tree is one. -/
theorem decode_ok {bytes : ByteArray} {c : Catalog} (h : Catalog.decode bytes = .ok c) :
    (Document.read (Symbol.ofBytes bytes)).complete = true ∧
      Catalog.ofTree (Document.read (Symbol.ofBytes bytes)).tree = .ok c := by
  obtain ⟨found, read, h⟩ := bind_eq_ok.1 h
  split at h
  · rename_i complete
    cases h
    exact ⟨complete, read⟩
  · cases h

/-- A catalog that is read from bytes is well-formed, and its value is within the limit of
nesting. -/
theorem wellFormed_of_decode {bytes : ByteArray} {c : Catalog} (h : Catalog.decode bytes = .ok c) :
    c.WellFormed ∧ c.toJson.depth ≤ maxDepth :=
  wellFormed_of_ofTree (Document.inRange_read _) (decode_ok h).2

end Catalog

/-- The path of a file is only in the error: which bytes are decoded does not depend on it. -/
theorem CatalogFile.decode_ok {file : CatalogFile} {bytes : ByteArray} {c : Catalog} :
    file.decode bytes = .ok c ↔ Catalog.decode bytes = .ok c :=
  mapError_eq_ok

end DocStore
