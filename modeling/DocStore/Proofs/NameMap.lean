-- SUMMARY: Sorted maps are determined by their look-ups, and rebuilt from their entries.
import DocStore.NameMap
import DocStore.Proofs.Assoc

/-!
# Sorted maps

A sorted map is determined by what it has under each name, so two of them are compared name by name.
A name that comes after all others goes to the end, and so inserting the entries of a map in their
order builds the map again.
-/

namespace DocStore.NameMap

variable {α β : Type}

/-! ## Look-ups -/

theorem find?_eq (name : String) (entries : List (String × α)) :
    find? name entries = Assoc.get? name entries := by
  induction entries with
  | nil => rfl
  | cons entry entries ih => simp [find?, Assoc.get?, ih]

theorem get?_eq (map : NameMap α) (name : String) :
    map.get? name = Assoc.get? name map.entries :=
  find?_eq name map.entries

theorem nodup_keys (map : NameMap α) : (Assoc.keys map.entries).Nodup := by
  have sorted : (Assoc.keys map.entries).Pairwise (· < ·) := List.pairwise_map.2 map.sorted
  refine List.Pairwise.imp ?_ sorted
  rintro a b less rfl
  exact String.lt_irrefl a less

theorem get?_eq_some_iff {map : NameMap α} {name : String} {value : α} :
    map.get? name = some value ↔ (name, value) ∈ map.entries := by
  rw [get?_eq, Assoc.get?_eq_some_iff map.nodup_keys]

theorem get?_insert (map : NameMap α) (name other : String) (value : α) :
    (map.insert name value).get? other = if other = name then some value else map.get? other := by
  split
  · rename_i same
    rw [same, get?_insert_self]
  · rename_i different
    exact get?_insert_of_ne map different value

theorem get?_foldl_insert {m : NameMap α} {list : List (String × α)}
    (same : ∀ name, m.get? name = Assoc.get? name list) (entries : List (String × α))
    (name : String) :
    (entries.foldl (fun map entry => map.insert entry.1 entry.2) m).get? name =
      Assoc.get? name (entries.foldl (fun map entry => Assoc.set entry.1 entry.2 map) list) := by
  induction entries generalizing m list with
  | nil => exact same name
  | cons entry entries ih =>
    refine ih fun name => ?_
    rw [get?_insert, Assoc.get?_set, same]

/-- Of entries with the same name the last one counts, as it does in a list. -/
theorem get?_ofEntries (entries : List (String × α)) (name : String) :
    (ofEntries entries).get? name = Assoc.get? name (Assoc.ofEntries entries) :=
  get?_foldl_insert (fun _ => rfl) entries name

/-- Sorted lists with the same elements are equal. -/
private theorem eq_of_mem_iff {a b : List (String × α)}
    (sorted_a : a.Pairwise (fun x y => x.1 < y.1)) (sorted_b : b.Pairwise (fun x y => x.1 < y.1))
    (same : ∀ e, e ∈ a ↔ e ∈ b) : a = b := by
  induction a generalizing b with
  | nil =>
    match b with
    | [] => rfl
    | e :: b => exact nomatch (same e).2 List.mem_cons_self
  | cons x a ih =>
    match b with
    | [] => exact nomatch (same x).1 List.mem_cons_self
    | y :: b =>
      obtain ⟨first_a, tail_a⟩ := List.pairwise_cons.1 sorted_a
      obtain ⟨first_b, tail_b⟩ := List.pairwise_cons.1 sorted_b
      -- The least element of either list is the least of the other.
      obtain rfl : x = y := by
        rcases List.mem_cons.1 ((same x).1 List.mem_cons_self) with h | h
        · exact h
        rcases List.mem_cons.1 ((same y).2 List.mem_cons_self) with h' | h'
        · exact h'.symm
        · exact absurd (String.lt_trans (first_b x h) (first_a y h')) (String.lt_irrefl _)
      refine congrArg (x :: ·) (ih tail_a tail_b fun e => ?_)
      constructor
      · intro mem
        refine (List.mem_cons.1 ((same e).1 (List.mem_cons_of_mem _ mem))).resolve_left ?_
        rintro rfl
        exact String.lt_irrefl _ (first_a e mem)
      · intro mem
        refine (List.mem_cons.1 ((same e).2 (List.mem_cons_of_mem _ mem))).resolve_left ?_
        rintro rfl
        exact String.lt_irrefl _ (first_b e mem)

/-- Maps with the same look-ups are equal. -/
theorem ext_get? {a b : NameMap α} (h : ∀ name, a.get? name = b.get? name) : a = b := by
  refine ext (eq_of_mem_iff a.sorted b.sorted fun e => ?_)
  obtain ⟨name, value⟩ := e
  rw [← get?_eq_some_iff, ← get?_eq_some_iff, h]

/-- In which order different names are set does not matter. -/
theorem insert_comm (m : NameMap α) {name other : String} (apart : name ≠ other) (value more : α) :
    (m.insert name value).insert other more = (m.insert other more).insert name value := by
  refine ext_get? fun key => ?_
  simp only [get?_insert]
  by_cases same : key = name
  · rw [if_pos same, if_neg (same ▸ apart), if_pos same]
  · rw [if_neg same, if_neg same]

/-- The value that is set last counts. -/
theorem insert_insert (m : NameMap α) (name : String) (value more : α) :
    (m.insert name value).insert name more = m.insert name more := by
  refine ext_get? fun key => ?_
  simp only [get?_insert]
  by_cases same : key = name
  · rw [if_pos same, if_pos same]
  · rw [if_neg same, if_neg same, if_neg same]

/-! ## Values -/

def map (f : α → β) (m : NameMap α) : NameMap β :=
  ⟨m.entries.map fun entry => (entry.1, f entry.2), List.pairwise_map.2 m.sorted⟩

@[simp] theorem entries_map (f : α → β) (m : NameMap α) :
    (m.map f).entries = m.entries.map fun entry => (entry.1, f entry.2) := rfl

theorem map_eq_self {f : α → α} {m : NameMap α} (h : ∀ entry ∈ m.entries, f entry.2 = entry.2) :
    m.map f = m := by
  refine ext ?_
  rw [entries_map, List.map_congr_left (g := id), List.map_id]
  intro entry mem
  rw [h entry mem]
  rfl

theorem mem_insert {m : NameMap α} {name : String} {value : α} {entry : String × α}
    (h : entry ∈ (m.insert name value).entries) : entry = (name, value) ∨ entry ∈ m.entries :=
  mem_place h

/-! ## Rebuilding -/

/-- A name that comes after all others goes to the end. -/
theorem place_last {name : String} {entries : List (String × α)}
    (last : ∀ entry ∈ entries, entry.1 < name) (value : α) :
    place name value entries = entries ++ [(name, value)] := by
  induction entries with
  | nil => rfl
  | cons entry entries ih =>
    obtain ⟨n, v⟩ := entry
    have less : n < name := last (n, v) List.mem_cons_self
    have notLess : ¬name < n := fun h => String.lt_irrefl _ (String.lt_trans h less)
    have different : n ≠ name := fun h => String.lt_irrefl _ (h ▸ less)
    simp [place, notLess, different, ih fun e he => last e (List.mem_cons_of_mem _ he)]

theorem entries_insert_last {m : NameMap α} {name : String}
    (last : ∀ entry ∈ m.entries, entry.1 < name) (value : α) :
    (m.insert name value).entries = m.entries ++ [(name, value)] :=
  place_last last value

theorem entries_foldl_insert (m : NameMap α) {entries : List (String × α)}
    (sorted : (m.entries ++ entries).Pairwise fun a b => a.1 < b.1) :
    (entries.foldl (fun map entry => map.insert entry.1 entry.2) m).entries =
      m.entries ++ entries := by
  induction entries generalizing m with
  | nil => simp
  | cons entry entries ih =>
    -- In a sorted list each entry comes after those that were inserted before it.
    have last : (m.insert entry.1 entry.2).entries = m.entries ++ [entry] :=
      entries_insert_last (fun e he =>
        (List.pairwise_append.1 sorted).2.2 e he entry List.mem_cons_self) entry.2
    rw [List.foldl_cons, ih, last, List.append_assoc, List.singleton_append]
    rw [last, List.append_assoc, List.singleton_append]
    exact sorted

/-- Inserting the entries of a map in their order builds the map again. -/
theorem ofEntries_entries (m : NameMap α) : ofEntries m.entries = m :=
  ext (entries_foldl_insert empty m.sorted)

end DocStore.NameMap
