-- SUMMARY: How the objects of a catalog file are read: one step for each member.
import DocStore.Proofs.Catalog.WellFormed
import DocStore.Proofs.Json.Denoted
import DocStore.Proofs.Result

/-!
# How objects are read

The readers of declarations, of maps by name, of collections and of catalogs go through the members
of an object one after another and keep what they met. What one member does is a step, and a reader
that accepts an object has made one step for each of its members. Whatever the steps keep therefore
holds of what was read.
-/

namespace DocStore

section Runs

variable {σ : Type} {step : σ → String → Tree → σ → Prop} {room : Nat}

def named (members : List (String × Tree)) : List (Option String × Tree) :=
  members.map fun member => (some member.1, member.2)

/-- One step for each member, from a first state to a last. -/
inductive Reads (step : σ → String → Tree → σ → Prop) : σ → List (String × Tree) → σ → Prop
  | nil {s : σ} : Reads step s [] s
  | cons {s t u : σ} {name : String} {tree : Tree} {members : List (String × Tree)} :
    step s name tree t → Reads step t members u → Reads step s ((name, tree) :: members) u

/-- What each step keeps holds in the end. -/
theorem Reads.invariant {motive : σ → Prop} {s t : σ} {members : List (String × Tree)}
    (reads : Reads step s members t) (range : Tree.membersInRange (named members))
    (base : motive s)
    (keep : ∀ {s name tree t}, step s name tree t → tree.InRange → motive s → motive t) :
    motive t := by
  induction reads with
  | nil => exact base
  | cons first _ ih => exact ih range.2 (keep first range.1 base)

theorem Reads.simulation_append {motive : σ → List (String × Json) → Prop} {s t : σ}
    {members : List (String × Tree)} {before values : List (String × Json)}
    (reads : Reads step s members t) (range : Tree.membersInRange (named members))
    (denoted : Tree.membersToJson? room (named members) = some values) (base : motive s before)
    (keep : ∀ {s name tree t value before}, step s name tree t → tree.InRange →
      tree.toJson? room = some value → motive s before → motive t (before ++ [(name, value)])) :
    motive t (before ++ values) := by
  induction reads generalizing before values with
  | nil =>
    cases denoted
    simpa using base
  | cons first _ ih =>
    -- The values so far grow at their end, as the reader goes on.
    obtain ⟨_, value, rest, same, found, more, rfl⟩ := Tree.membersToJson?_cons_ok denoted
    cases same
    simpa using ih range.2 more (keep first range.1 found base)

/-- What each step keeps of a state and the values met so far holds of the values of all members. -/
theorem Reads.simulation {motive : σ → List (String × Json) → Prop} {s t : σ}
    {members : List (String × Tree)} {values : List (String × Json)} (reads : Reads step s members t)
    (range : Tree.membersInRange (named members))
    (denoted : Tree.membersToJson? room (named members) = some values) (base : motive s [])
    (keep : ∀ {s name tree t value before}, step s name tree t → tree.InRange →
      tree.toJson? room = some value → motive s before → motive t (before ++ [(name, value)])) :
    motive t values :=
  reads.simulation_append range denoted base keep

/-- A reader that accepts makes one step for each member, if it makes one for the first and goes on
with the rest. -/
theorem reads_of_ok {α : Type} (read : List (Option String × Tree) → σ → Except Problem α)
    (ends : σ → α → Prop) (last : ∀ {s a}, read [] s = .ok a → ends s a)
    (unnamed : ∀ {tree members s a}, read ((none, tree) :: members) s ≠ .ok a)
    (next : ∀ {name tree members s a}, read ((some name, tree) :: members) s = .ok a →
      ∃ t, step s name tree t ∧ read members t = .ok a)
    {members : List (Option String × Tree)} {s : σ} {a : α} (h : read members s = .ok a) :
    ∃ entries t, members = named entries ∧ Reads step s entries t ∧ ends t a := by
  induction members generalizing s with
  | nil => exact ⟨[], s, rfl, .nil, last h⟩
  | cons member members ih =>
    obtain ⟨name, tree⟩ := member
    cases name with
    | none => exact absurd h unnamed
    | some name =>
      obtain ⟨t, first, rest⟩ := next h
      obtain ⟨entries, u, rfl, reads, finished⟩ := ih rest
      exact ⟨(name, tree) :: entries, u, rfl, .cons first reads, finished⟩

end Runs

/-! ## Declarations -/

/-- What a member of a declaration does. -/
inductive FieldSpec.Step : Parts → String → Tree → Parts → Prop
  | kind {parts : Parts} {kind : String} : parts.kind = none →
    Step parts "type" (.string (some kind)) { parts with kind := some kind }
  | required {parts : Parts} {tree : Tree} {required : Option Bool} : parts.required = none →
    decodeRequired tree = .ok required →
    Step parts "required" tree { parts with required := some required }
  | other {parts : Parts} {name : String} {tree : Tree} : name ≠ "type" → name ≠ "required" →
    Step parts name tree parts

theorem decodeString_ok {tree : Tree} {s : String} (h : decodeString tree = .ok s) :
    tree = .string (some s) := by
  unfold decodeString at h
  split at h
  · cases h
    rfl
  · cases h

/-- Reading a declaration goes on after each member with what is known by then. -/
theorem FieldSpec.step_of_decodeMembers {closed : Bool} {name : String} {tree : Tree}
    {members : List (Option String × Tree)} {parts : Parts} {spec : FieldSpec}
    (h : decodeMembers closed ((some name, tree) :: members) parts = .ok spec) :
    ∃ next, Step parts name tree next ∧ decodeMembers closed members next = .ok spec := by
  unfold decodeMembers at h
  split at h
  · rename_i isType
    subst isType
    split at h
    · cases h
    · rename_i absent
      split at h
      · rename_i kind read
        rw [decodeString_ok read]
        exact ⟨_, .kind (by simpa using absent), h⟩
      · cases h
  · rename_i notType
    split at h
    · rename_i isRequired
      subst isRequired
      split at h
      · cases h
      · rename_i absent
        split at h
        · rename_i required read
          exact ⟨_, .required (by simpa using absent) read, h⟩
        · cases h
    · rename_i notRequired
      split at h
      · exact ⟨parts, .other notType notRequired, h⟩
      · cases h

/-- A declaration that is read to its end has been met member by member. -/
theorem FieldSpec.reads_of_decodeMembers {closed : Bool} {members : List (Option String × Tree)}
    {parts : Parts} {spec : FieldSpec} (h : decodeMembers closed members parts = .ok spec) :
    ∃ entries last, members = named entries ∧ Reads Step parts entries last ∧
      closed = true ∧ last.kind = some spec.kind ∧ last.required.getD none = spec.required := by
  refine reads_of_ok (decodeMembers closed) (fun last spec => closed = true ∧
    last.kind = some spec.kind ∧ last.required.getD none = spec.required) ?_ ?_
    step_of_decodeMembers h
  · intro parts spec h
    unfold decodeMembers at h
    split at h
    · cases h
    · rename_i notOpen
      split at h
      · rename_i kind met
        cases h
        exact ⟨by simpa using notOpen, met, rfl⟩
      · cases h
  · intro tree members parts spec h
    cases h

/-! ## Maps by name -/

/-- What a member of an object does whose values are all read in the same way. -/
inductive NameMap.Step {α : Type} (decode : Tree → Except Problem α) :
    NameMap α → String → Tree → NameMap α → Prop
  | value {map : NameMap α} {name : String} {tree : Tree} {value : α} : decode tree = .ok value →
    Step decode map name tree (map.insert name value)

/-- A map that is read to its end has been met member by member, each value decoded. -/
theorem reads_of_decodeNameMap {α : Type} {decode : Tree → Except Problem α} {closed : Bool}
    {members : List (Option String × Tree)} {start map : NameMap α}
    (h : decodeNameMap decode closed members start = .ok map) :
    ∃ entries last, members = named entries ∧ Reads (NameMap.Step decode) start entries last ∧
      closed = true ∧ last = map := by
  refine reads_of_ok (decodeNameMap decode closed) (fun last map => closed = true ∧ last = map)
    ?_ ?_ ?_ h
  · intro last map h
    unfold decodeNameMap at h
    split at h
    · rename_i isClosed
      cases h
      exact ⟨isClosed, rfl⟩
    · cases h
  · intro tree members last map h
    cases h
  · intro name tree members start map h
    unfold decodeNameMap at h
    split at h
    · rename_i value read
      exact ⟨_, .value read, h⟩
    · cases h

/-! ## Collections -/

/-- What a member of a collection does. -/
inductive Collection.Step (room : Nat) : Parts → String → Tree → Parts → Prop
  | schema {parts : Parts} {tree : Tree} {schema : Option Schema} : parts.schema = none →
    decodeSchemaMember tree = .ok schema →
    Step room parts "schema" tree { parts with schema := some schema }
  | data {parts : Parts} {tree : Tree} {data : Option (List Record)} : parts.data = none →
    decodeDataMember room tree = .ok data →
    Step room parts "data" tree { parts with data := some data }
  | nextId {parts : Parts} {tree : Tree} {nextId : Option RecordId} : parts.nextId = none →
    decodeNextIdMember tree = .ok nextId →
    Step room parts "next_id" tree { parts with nextId := some nextId }
  | extra {parts : Parts} {name : String} {tree : Tree} {value : Json} : name ∉ knownNames →
    tree.toJson? room = some value →
    Step room parts name tree { parts with extra := parts.extra ++ [(name, value)] }

def Collection.Parts.collection (parts : Parts) : Collection :=
  ⟨parts.schema.getD none, parts.data.getD none, parts.nextId.getD none, Assoc.ofEntries parts.extra⟩

theorem Tree.value_ok {tree : Tree} {room : Nat} {v : Json} (h : tree.value room = .ok v) :
    tree.toJson? room = some v := by
  unfold Tree.value at h
  split at h
  · rename_i denoted
    cases h
    exact denoted
  · cases h

/-- Reading a collection goes on after each member with what is known by then. -/
theorem Collection.step_of_decodeMembers {room : Nat} {closed : Bool} {name : String} {tree : Tree}
    {members : List (Option String × Tree)} {parts : Parts} {c : Collection}
    (h : decodeMembers room closed ((some name, tree) :: members) parts = .ok c) :
    ∃ next, Step room parts name tree next ∧ decodeMembers room closed members next = .ok c := by
  unfold decodeMembers at h
  split at h
  · rename_i isSchema
    subst isSchema
    split at h
    · cases h
    · rename_i absent
      split at h
      · rename_i schema read
        exact ⟨_, .schema (by simpa using absent) read, h⟩
      · cases h
  · rename_i notSchema
    split at h
    · rename_i isData
      subst isData
      split at h
      · cases h
      · rename_i absent
        split at h
        · rename_i data read
          exact ⟨_, .data (by simpa using absent) read, h⟩
        · cases h
    · rename_i notData
      split at h
      · rename_i isNextId
        subst isNextId
        split at h
        · cases h
        · rename_i absent
          split at h
          · rename_i nextId read
            exact ⟨_, .nextId (by simpa using absent) read, h⟩
          · cases h
      · rename_i notNextId
        split at h
        · rename_i value read
          have unknown : name ∉ knownNames := by
            simp [knownNames, notSchema, notData, notNextId]
          exact ⟨_, .extra unknown (Tree.value_ok read), h⟩
        · cases h

/-- A collection that is read to its end has been met member by member. -/
theorem Collection.reads_of_decodeMembers {room : Nat} {closed : Bool}
    {members : List (Option String × Tree)} {parts : Parts} {c : Collection}
    (h : decodeMembers room closed members parts = .ok c) :
    ∃ entries last, members = named entries ∧ Reads (Step room) parts entries last ∧
      closed = true ∧ last.collection = c := by
  refine reads_of_ok (decodeMembers room closed)
    (fun last c => closed = true ∧ last.collection = c) ?_ ?_ step_of_decodeMembers h
  · intro parts c h
    unfold decodeMembers at h
    split at h
    · rename_i isClosed
      cases h
      exact ⟨isClosed, rfl⟩
    · cases h
  · intro tree members parts c h
    cases h

/-! ## Catalogs -/

/-- The parts of a catalog met so far. -/
structure Catalog.Parts where
  documents : Option (NameMap Collection)
  extra : List (String × Json)

/-- What a member of a catalog does. -/
inductive Catalog.Step (room : Nat) : Parts → String → Tree → Parts → Prop
  | documents {parts : Parts} {tree : Tree} {documents : NameMap Collection} :
    parts.documents = none → decodeDocuments room tree = .ok documents →
    Step room parts "documents" tree { parts with documents := some documents }
  | extra {parts : Parts} {name : String} {tree : Tree} {value : Json} : name ≠ "documents" →
    tree.toJson? room = some value →
    Step room parts name tree { parts with extra := parts.extra ++ [(name, value)] }

theorem Catalog.step_of_decodeMembers {room : Nat} {closed : Bool} {name : String} {tree : Tree}
    {members : List (Option String × Tree)} {parts : Parts} {c : Catalog}
    (h : decodeMembers room closed ((some name, tree) :: members) parts.documents parts.extra =
      .ok c) :
    ∃ next : Parts, Step room parts name tree next ∧
      decodeMembers room closed members next.documents next.extra = .ok c := by
  unfold decodeMembers at h
  split at h
  · rename_i isDocuments
    subst isDocuments
    split at h
    · cases h
    · rename_i absent
      split at h
      · rename_i documents read
        exact ⟨_, .documents (by simpa using absent) read, h⟩
      · cases h
  · rename_i notDocuments
    split at h
    · rename_i value read
      exact ⟨_, .extra notDocuments (Tree.value_ok read), h⟩
    · cases h

/-- A catalog that is read to its end has been met member by member. -/
theorem Catalog.reads_of_decodeMembers {room : Nat} {closed : Bool}
    {members : List (Option String × Tree)} (parts : Parts) {c : Catalog}
    (h : decodeMembers room closed members parts.documents parts.extra = .ok c) :
    ∃ entries last, members = named entries ∧ Reads (Step room) parts entries last ∧
      closed = true ∧ last.documents = some c.documents ∧ Assoc.ofEntries last.extra = c.extra := by
  refine reads_of_ok
    (fun members (parts : Parts) => decodeMembers room closed members parts.documents parts.extra)
    (fun last c => closed = true ∧ last.documents = some c.documents ∧
      Assoc.ofEntries last.extra = c.extra) ?_ ?_ step_of_decodeMembers h
  · intro parts c h
    simp only [decodeMembers] at h
    split at h
    · cases h
    · rename_i notOpen
      split at h
      · rename_i documents met
        cases h
        exact ⟨by simpa using notOpen, met, rfl⟩
      · cases h
  · intro tree members parts c h
    cases h

end DocStore
