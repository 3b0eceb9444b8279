-- SUMMARY: Changes of a collection as data, and what each of them does to the identifiers present.
import DocStore.Collection

/-!
# Changes of a collection

A collection changes by inserting, deleting and updating records, and a run is a list of such
changes. Of a record only its identifier matters here. Deleting takes identifiers away, updating
keeps them all, whatever the patch says, and inserting adds one at the end.

The identifier that is added follows every identifier present, where the last one counts as its own
successor. All that is said about fresh identifiers comes from this one fact.
-/

namespace DocStore

/-! ## Identifiers -/

namespace RecordId

theorem le_last (id : RecordId) : id ≤ last := by
  have bound := id.toNat_lt
  exact UInt64.le_iff_toNat_le.2 (Nat.le_pred_of_lt bound)

theorem toNat_add_one {id : RecordId} (notLast : id ≠ last) : (id + 1).toNat = id.toNat + 1 := by
  have below : id.toNat < last.toNat :=
    Nat.lt_of_le_of_ne (UInt64.le_iff_toNat_le.1 (le_last id)) fun same => notLast (UInt64.toNat_inj.1 same)
  rw [UInt64.toNat_add]
  exact Nat.mod_eq_of_lt (Nat.succ_lt_succ below)

@[simp] theorem next_last : next last = last := rfl

/-- The next identifier is the least one beyond an identifier, if there is one. -/
theorem next_le_iff {id other : RecordId} : next id ≤ other ↔ id < other ∨ other = last := by
  unfold next
  split
  · rename_i isLast
    constructor
    · intro above
      exact .inr (UInt64.le_antisymm (le_last other) above)
    · rintro (above | rfl)
      · exact absurd (le_last other) (UInt64.not_le.2 (isLast ▸ above))
      · exact le_last last
  · rename_i notLast
    rw [UInt64.le_iff_toNat_le, toNat_add_one notLast, UInt64.lt_iff_toNat_lt]
    constructor
    · exact .inl
    · rintro (above | rfl)
      · exact above
      · exact Nat.lt_of_le_of_ne (UInt64.le_iff_toNat_le.1 (le_last id)) fun same =>
          notLast (UInt64.toNat_inj.1 same)

/-- Only the last identifier is not less than its successor. -/
theorem eq_last_of_next_le_self {id : RecordId} (h : next id ≤ id) : id = last := by
  rcases next_le_iff.1 h with below | isLast
  · exact absurd below (UInt64.lt_irrefl id)
  · exact isLast

theorem lt_of_next_le {id other : RecordId} (h : next id ≤ other) (notLast : other < last) :
    id < other := by
  rcases next_le_iff.1 h with below | isLast
  · exact below
  · exact absurd isLast (UInt64.ne_of_lt notLast)

theorem le_next (id : RecordId) : id ≤ next id := by
  rcases next_le_iff.1 (UInt64.le_refl (next id)) with below | isLast
  · exact UInt64.le_of_lt below
  · rw [isLast]
    exact le_last id

/-- The order of identifiers is kept by taking the next one. -/
theorem next_le_next {id other : RecordId} (h : id ≤ other) : next id ≤ next other := by
  rcases next_le_iff.1 (UInt64.le_refl (next other)) with below | isLast
  · exact next_le_iff.2 (.inl (UInt64.lt_of_le_of_lt h below))
  · exact next_le_iff.2 (.inr isLast)

/-- The greater of two identifiers is the least one that is not below either. -/
instance lawfulOrderMax : Std.LawfulOrderMax RecordId where
  max_eq_or a b := by
    change (if a ≤ b then b else a) = a ∨ (if a ≤ b then b else a) = b
    split <;> simp
  max_le_iff a b c := by
    change (if a ≤ b then b else a) ≤ c ↔ a ≤ c ∧ b ≤ c
    split
    · rename_i le
      exact ⟨fun h => ⟨UInt64.le_trans le h, h⟩, And.right⟩
    · rename_i gt
      have le := UInt64.le_of_lt (UInt64.not_le.1 gt)
      exact ⟨fun h => ⟨h, UInt64.le_trans le h⟩, And.left⟩

end RecordId

namespace Record

@[simp] theorem id_mergeField (r : Record) (name : String) (value : Json) :
    (r.mergeField name value).id = r.id := by
  unfold mergeField
  split
  · rfl
  · split
    · split <;> rfl
    · rfl

/-- Merging keeps the identifier, also with a patch that names another one. -/
@[simp] theorem id_merge (r : Record) (patch : Object) : (r.merge patch).id = r.id := by
  induction patch generalizing r with
  | nil => rfl
  | cons field patch ih => exact (ih (r.mergeField field.1 field.2)).trans (id_mergeField r _ _)

end Record

/-! ## Changes -/

/-- A change of the records of a collection. -/
inductive Change where
  | insert (policy : IdPolicy) (fields : Object)
  /-- Delete the records that match, or all of them without a predicate. -/
  | delete (p : Option Predicate)
  | update (p : Predicate) (patch : Object)

namespace Change

def isInsert : Change → Bool
  | .insert _ _ => true
  | _ => false

/-- Whether a change takes its identifier from the counter, if it needs one. -/
def isCounted : Change → Bool
  | .insert policy _ => policy == .sequence
  | _ => true

/-- A change under a counter does not insert, or it inserts by the counter. -/
theorem cases_of_isCounted {change : Change} (counted : change.isCounted = true) :
    change.isInsert = false ∨ ∃ fields, change = .insert .sequence fields := by
  cases change with
  | insert policy fields =>
    cases policy with
    | maxPlusOne => cases counted
    | sequence => exact .inr ⟨fields, rfl⟩
  | delete p => exact .inl rfl
  | update p patch => exact .inl rfl

end Change

namespace Collection

variable {c : Collection} {policy : IdPolicy} {fields : Object} {id : RecordId}

/-- The identifiers present, in the order of the records. -/
def ids (c : Collection) : List RecordId :=
  c.records.map Record.id

def after (c : Collection) : Change → Collection
  | .insert policy fields => (c.insert policy fields).2
  | .delete (some p) => (c.removeMatching p).2
  | .delete none => c.clear.2
  | .update p patch => (c.updateMatching p patch).2

def afterAll (c : Collection) (changes : List Change) : Collection :=
  changes.foldl after c

theorem afterAll_append (c : Collection) (changes more : List Change) :
    c.afterAll (changes ++ more) = (c.afterAll changes).afterAll more :=
  List.foldl_append

/-! ## What changes do to identifiers -/

theorem id_insert (c : Collection) (policy : IdPolicy) (fields : Object) :
    (c.insert policy fields).1.id = (c.allocateId policy).1 := rfl

/-- An insertion puts its identifier behind those that are there. -/
theorem ids_insert (c : Collection) (policy : IdPolicy) (fields : Object) :
    (c.after (.insert policy fields)).ids = c.ids ++ [(c.allocateId policy).1] := by
  cases policy <;> exact List.map_append

/-- A deletion takes identifiers away and keeps the order of the others. -/
theorem ids_delete_sublist (c : Collection) (p : Option Predicate) :
    (c.after (.delete p)).ids.Sublist c.ids := by
  cases p with
  | none => exact List.nil_sublist _
  | some p => exact List.Sublist.map Record.id List.filter_sublist

/-- An update changes no identifier. -/
theorem ids_update (c : Collection) (p : Predicate) (patch : Object) :
    (c.after (.update p patch)).ids = c.ids := by
  refine (List.map_map ..).trans (List.map_congr_left fun r _ => ?_)
  change (if p.holds r then r.merge patch else r).id = r.id
  split
  · exact r.id_merge patch
  · rfl

/-- A change that does not insert leaves no identifier that was not there. -/
theorem mem_ids_of_mem_after {change : Change} (notInsert : change.isInsert = false)
    (mem : id ∈ (c.after change).ids) : id ∈ c.ids := by
  cases change with
  | insert policy fields => cases notInsert
  | delete p => exact (c.ids_delete_sublist p).subset mem
  | update p patch => exact c.ids_update p patch ▸ mem

/-! ## New identifiers -/

/-- The identifier after the greatest is above each one present. -/
theorem next_le_idAfterMax (mem : id ∈ c.ids) : RecordId.next id ≤ c.idAfterMax := by
  unfold idAfterMax
  cases greatest : c.maxId? with
  | none => simp [List.max?_eq_none_iff.1 greatest, ids] at mem
  | some max => exact RecordId.next_le_next ((List.max?_eq_some_iff.1 greatest).2 id mem)

/-- Neither policy gives an identifier below the one after the greatest. -/
theorem idAfterMax_le_allocateId (c : Collection) (policy : IdPolicy) :
    c.idAfterMax ≤ (c.allocateId policy).1 := by
  cases policy with
  | maxPlusOne => exact UInt64.le_refl _
  | sequence => exact Std.right_le_max

/-- A new identifier follows every identifier present, under either policy. -/
theorem next_le_allocateId (policy : IdPolicy) (mem : id ∈ c.ids) :
    RecordId.next id ≤ (c.allocateId policy).1 :=
  UInt64.le_trans (next_le_idAfterMax mem) (c.idAfterMax_le_allocateId policy)

/-- A new identifier is present already exactly if there is none after those present. -/
theorem allocateId_mem_ids (c : Collection) (policy : IdPolicy) :
    (c.allocateId policy).1 ∈ c.ids ↔ RecordId.last ∈ c.ids := by
  constructor
  · intro mem
    rwa [RecordId.eq_last_of_next_le_self (next_le_allocateId policy mem)] at mem
  · intro mem
    have above : RecordId.last ≤ (c.allocateId policy).1 := next_le_allocateId policy mem
    rwa [UInt64.le_antisymm (RecordId.le_last _) above]

end Collection

end DocStore
