-- SUMMARY: Finite maps from names to values, kept sorted by name.

/-!
# Maps sorted by name

The fields of a schema and the collections of a catalog are kept in the order of their names, by
code point. The order is part of the type, so two maps with the same entries are equal, and
`entries` is the one written form. Replacing the value of a name leaves the other entries as they
are.
-/

namespace DocStore

/-- A finite map from names, sorted by name. -/
structure NameMap (α : Type) where
  entries : List (String × α)
  sorted : entries.Pairwise (fun a b => a.1 < b.1)

namespace NameMap

variable {α : Type}

def empty : NameMap α := ⟨[], .nil⟩

instance : Inhabited (NameMap α) := ⟨empty⟩

instance [Repr α] : Repr (NameMap α) := ⟨fun map n => reprPrec map.entries n⟩

/-- Maps with the same entries are equal. -/
theorem ext {a b : NameMap α} (h : a.entries = b.entries) : a = b := by
  cases a; cases b; cases h; rfl

def names (map : NameMap α) : List String :=
  map.entries.map Prod.fst

def size (map : NameMap α) : Nat :=
  map.entries.length

/-- The value of a name among sorted entries. -/
def find? (name : String) : List (String × α) → Option α
  | [] => none
  | (n, v) :: rest => if n = name then some v else find? name rest

def get? (map : NameMap α) (name : String) : Option α :=
  find? name map.entries

/-! ## Insertion -/

/-- Put a value at the place of its name among sorted entries. -/
def place (name : String) (value : α) : List (String × α) → List (String × α)
  | [] => [(name, value)]
  | (n, v) :: rest =>
    if name < n then (name, value) :: (n, v) :: rest
    else if n = name then (name, value) :: rest
    else (n, v) :: place name value rest

/-- Placing a name adds no other name. -/
theorem mem_place {name : String} {value : α} {entries : List (String × α)} {e : String × α}
    (h : e ∈ place name value entries) : e = (name, value) ∨ e ∈ entries := by
  induction entries with
  | nil => exact Or.inl (by simpa [place] using h)
  | cons entry rest ih =>
    obtain ⟨n, v⟩ := entry
    unfold place at h
    split at h
    · simpa using h
    · split at h
      · rcases List.mem_cons.1 h with h | h
        · exact Or.inl h
        · exact Or.inr (List.mem_cons_of_mem _ h)
      · rcases List.mem_cons.1 h with h | h
        · exact Or.inr (h ▸ List.mem_cons_self)
        · exact (ih h).imp id (List.mem_cons_of_mem _)

/-- Sorted entries stay sorted. -/
theorem sorted_place (name : String) (value : α) {entries : List (String × α)}
    (h : entries.Pairwise (fun a b => a.1 < b.1)) :
    (place name value entries).Pairwise (fun a b => a.1 < b.1) := by
  induction entries with
  | nil => simp [place]
  | cons entry rest ih =>
    obtain ⟨n, v⟩ := entry
    obtain ⟨first, tail⟩ := List.pairwise_cons.1 h
    unfold place
    split
    · rename_i less
      refine List.pairwise_cons.2 ⟨fun e he => ?_, h⟩
      rcases List.mem_cons.1 he with rfl | he
      · exact less
      · exact String.lt_trans less (first e he)
    · split
      · rename_i same
        exact List.pairwise_cons.2 ⟨fun e he => same ▸ first e he, tail⟩
      · rename_i notLess notSame
        refine List.pairwise_cons.2 ⟨fun e he => ?_, ih tail⟩
        rcases mem_place he with rfl | he
        · exact Decidable.byContradiction fun notGreater =>
            notSame (String.le_antisymm (String.not_lt.1 notLess) (String.not_lt.1 notGreater))
        · exact first e he

def insert (map : NameMap α) (name : String) (value : α) : NameMap α :=
  ⟨place name value map.entries, sorted_place name value map.sorted⟩

/-- The map of a list of entries; of entries with the same name the last one counts. -/
def ofEntries (entries : List (String × α)) : NameMap α :=
  entries.foldl (fun map entry => map.insert entry.1 entry.2) empty

/-! ## What a look-up sees -/

theorem find?_place_self (name : String) (value : α) (entries : List (String × α)) :
    find? name (place name value entries) = some value := by
  induction entries with
  | nil => simp [place, find?]
  | cons entry rest ih =>
    obtain ⟨n, v⟩ := entry
    unfold place
    split
    · simp [find?]
    · split
      · simp [find?]
      · rename_i different
        simp [find?, different, ih]

theorem find?_place_of_ne {name other : String} (h : other ≠ name) (value : α)
    (entries : List (String × α)) : find? other (place name value entries) = find? other entries := by
  induction entries with
  | nil => simp [place, find?, h.symm]
  | cons entry rest ih =>
    obtain ⟨n, v⟩ := entry
    unfold place
    split
    · simp [find?, h.symm]
    · split
      · rename_i same
        subst same
        simp [find?, h.symm]
      · simp [find?, ih]

@[simp] theorem get?_insert_self (map : NameMap α) (name : String) (value : α) :
    (map.insert name value).get? name = some value :=
  find?_place_self name value map.entries

theorem get?_insert_of_ne (map : NameMap α) {name other : String} (h : other ≠ name) (value : α) :
    (map.insert name value).get? other = map.get? other :=
  find?_place_of_ne h value map.entries

end NameMap

end DocStore
