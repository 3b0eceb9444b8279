-- SUMMARY: Association lists without repeated keys as finite maps: keys, look-ups, and what setting keeps.
import DocStore.Assoc

/-!
# Association lists as finite maps

`set` puts a key into a list at most once, so the lists that it builds have no repeated key, and a
list without one is what `ofEntries` makes of it.
-/

namespace DocStore.Assoc

universe u v w
variable {κ : Type u} {α : Type v} {β : Type w} [DecidableEq κ]

/-! ## Keys -/

omit [DecidableEq κ] in
@[simp] theorem keys_nil : keys ([] : List (κ × α)) = [] := rfl

omit [DecidableEq κ] in
@[simp] theorem keys_cons (entry : κ × α) (entries : List (κ × α)) :
    keys (entry :: entries) = entry.1 :: keys entries := rfl

omit [DecidableEq κ] in
@[simp] theorem keys_append (entries more : List (κ × α)) :
    keys (entries ++ more) = keys entries ++ keys more :=
  List.map_append

omit [DecidableEq κ] in
theorem mem_keys_of_mem {entry : κ × α} {entries : List (κ × α)} (h : entry ∈ entries) :
    entry.1 ∈ keys entries :=
  List.mem_map_of_mem h

omit [DecidableEq κ] in
@[simp] theorem keys_map (f : α → β) (entries : List (κ × α)) :
    keys (entries.map fun entry => (entry.1, f entry.2)) = keys entries := by
  simp [keys]

/-- A key has no value exactly if no entry is of it. -/
theorem get?_eq_none_iff {key : κ} {entries : List (κ × α)} :
    get? key entries = none ↔ key ∉ keys entries := by
  induction entries with
  | nil => simp
  | cons entry entries ih =>
    obtain ⟨k, v⟩ := entry
    by_cases h : k = key
    · simp [get?_cons, h]
    · simp [get?_cons, h, ih, Ne.symm h]

theorem mem_of_get? {key : κ} {value : α} {entries : List (κ × α)}
    (h : get? key entries = some value) : (key, value) ∈ entries := by
  induction entries with
  | nil => cases h
  | cons entry entries ih =>
    obtain ⟨k, v⟩ := entry
    by_cases same : k = key
    · rw [get?_cons, if_pos same] at h
      cases h
      rw [same]
      exact List.mem_cons_self
    · rw [get?_cons, if_neg same] at h
      exact List.mem_cons_of_mem _ (ih h)

/-- In a list without repeated keys a look-up finds every entry. -/
theorem get?_eq_some_iff {key : κ} {value : α} {entries : List (κ × α)}
    (nodup : (keys entries).Nodup) : get? key entries = some value ↔ (key, value) ∈ entries := by
  refine ⟨mem_of_get?, fun h => ?_⟩
  induction entries with
  | nil => cases h
  | cons entry entries ih =>
    obtain ⟨k, v⟩ := entry
    obtain ⟨fresh, rest⟩ := List.nodup_cons.1 nodup
    rcases List.mem_cons.1 h with same | later
    · cases same
      simp [get?_cons]
    · have other : k ≠ key := by
        intro same
        have mem : key ∈ keys entries := mem_keys_of_mem later
        exact fresh (same ▸ mem)
      rw [get?_cons, if_neg other]
      exact ih rest later

/-- A lookup goes through the first of two lists and then through the second. -/
theorem get?_append (key : κ) (entries more : List (κ × α)) :
    get? key (entries ++ more) = (get? key entries).or (get? key more) := by
  induction entries with
  | nil => rfl
  | cons entry entries ih =>
    obtain ⟨k, v⟩ := entry
    by_cases h : k = key <;> simp [get?_cons, h, ih]

theorem get?_map (f : α → β) (key : κ) (entries : List (κ × α)) :
    get? key (entries.map fun entry => (entry.1, f entry.2)) = (get? key entries).map f := by
  induction entries with
  | nil => rfl
  | cons entry entries ih =>
    obtain ⟨k, v⟩ := entry
    by_cases h : k = key <;> simp [get?_cons, h, ih]

theorem set_map (f : α → β) (key : κ) (value : α) (entries : List (κ × α)) :
    set key (f value) (entries.map fun entry => (entry.1, f entry.2)) =
      (set key value entries).map fun entry => (entry.1, f entry.2) := by
  induction entries with
  | nil => rfl
  | cons entry entries ih =>
    obtain ⟨k, v⟩ := entry
    by_cases h : k = key <;> simp [set, h, ih]

theorem erase_map (f : α → β) (key : κ) (entries : List (κ × α)) :
    erase key (entries.map fun entry => (entry.1, f entry.2)) =
      (erase key entries).map fun entry => (entry.1, f entry.2) :=
  List.filter_map

/-- A look-up finds what it found as long as that is kept. -/
theorem get?_filter {key : κ} {value : α} {entries : List (κ × α)} {keep : κ × α → Bool}
    (h : get? key entries = some value) (kept : keep (key, value) = true) :
    get? key (entries.filter keep) = some value := by
  induction entries with
  | nil => cases h
  | cons entry entries ih =>
    obtain ⟨k, v⟩ := entry
    by_cases same : k = key
    · subst same
      rw [get?_cons, if_pos rfl] at h
      cases h
      simp [kept, get?_cons]
    · rw [get?_cons, if_neg same] at h
      rw [List.filter_cons]
      split
      · rw [get?_cons, if_neg same]
        exact ih h
      · exact ih h

/-! ## Setting -/

/-- A key that is not there goes to the end. -/
theorem set_of_not_mem {key : κ} {entries : List (κ × α)} (h : key ∉ keys entries) (value : α) :
    set key value entries = entries ++ [(key, value)] := by
  induction entries with
  | nil => rfl
  | cons entry entries ih =>
    obtain ⟨k, v⟩ := entry
    have other : k ≠ key := by
      rintro rfl
      exact h List.mem_cons_self
    have later : key ∉ keys entries := fun mem => h (List.mem_cons_of_mem _ mem)
    simp [set, other, ih later]

/-- A key that is there keeps its place. -/
theorem keys_set_of_mem {key : κ} {entries : List (κ × α)} (h : key ∈ keys entries) (value : α) :
    keys (set key value entries) = keys entries := by
  induction entries with
  | nil => cases h
  | cons entry entries ih =>
    obtain ⟨k, v⟩ := entry
    by_cases same : k = key
    · simp [set, same]
    · have later : key ∈ keys entries := (List.mem_cons.1 h).resolve_left (Ne.symm same)
      simp [set, same, ih later]

/-- Setting keeps the order of the keys; a new one comes last. -/
theorem keys_set (key : κ) (value : α) (entries : List (κ × α)) :
    keys (set key value entries) =
      if key ∈ keys entries then keys entries else keys entries ++ [key] := by
  split
  · rename_i h
    exact keys_set_of_mem h value
  · rename_i h
    rw [set_of_not_mem h, keys_append]
    rfl

theorem set_set (key : κ) (old value : α) (entries : List (κ × α)) :
    set key value (set key old entries) = set key value entries := by
  induction entries with
  | nil => simp [set]
  | cons entry entries ih =>
    obtain ⟨k, v⟩ := entry
    by_cases same : k = key
    · simp [set, same]
    · simp [set, same, ih]

/-- Setting a key to the value that it has changes nothing. -/
theorem set_of_get? {key : κ} {value : α} {entries : List (κ × α)}
    (h : get? key entries = some value) : set key value entries = entries := by
  induction entries with
  | nil => cases h
  | cons entry entries ih =>
    obtain ⟨k, v⟩ := entry
    by_cases same : k = key
    · rw [get?_cons, if_pos same] at h
      cases h
      simp [set, same]
    · rw [get?_cons, if_neg same] at h
      simp [set, same, ih h]

/-- No key has two entries after one of them was set. -/
theorem nodup_keys_set {key : κ} {value : α} {entries : List (κ × α)}
    (nodup : (keys entries).Nodup) : (keys (set key value entries)).Nodup := by
  rw [keys_set]
  split
  · exact nodup
  · rename_i fresh
    rw [List.nodup_append]
    refine ⟨nodup, by simp, ?_⟩
    intro a ha b hb same
    rw [List.mem_singleton] at hb
    exact fresh (hb ▸ same ▸ ha)

theorem mem_set {key : κ} {value : α} {entries : List (κ × α)} {entry : κ × α}
    (h : entry ∈ set key value entries) : entry = (key, value) ∨ entry ∈ entries := by
  induction entries with
  | nil => exact .inl (by simpa [set] using h)
  | cons first entries ih =>
    obtain ⟨k, v⟩ := first
    by_cases same : k = key
    · simp only [set, same, if_true] at h
      exact (List.mem_cons.1 h).imp id (List.mem_cons_of_mem _)
    · simp only [set, same, if_false] at h
      rcases List.mem_cons.1 h with rfl | later
      · exact .inr List.mem_cons_self
      · exact (ih later).imp id (List.mem_cons_of_mem _)

theorem erase_cons_self (key : κ) (value : α) (entries : List (κ × α)) :
    erase key ((key, value) :: entries) = erase key entries := by
  simp [erase]

theorem erase_of_not_mem {key : κ} {entries : List (κ × α)} (h : key ∉ keys entries) :
    erase key entries = entries := by
  refine List.filter_eq_self.2 fun entry mem => ?_
  refine decide_eq_true ?_
  rintro rfl
  exact h (mem_keys_of_mem mem)

theorem nodup_keys_erase {key : κ} {entries : List (κ × α)} (nodup : (keys entries).Nodup) :
    (keys (erase key entries)).Nodup :=
  nodup.sublist (List.filter_sublist.map Prod.fst)

theorem not_mem_keys_erase (key : κ) (entries : List (κ × α)) :
    key ∉ keys (erase key entries) :=
  get?_eq_none_iff.1 (get?_erase_self key entries)

/-- What is set and then removed was never there. -/
theorem erase_set (key : κ) (value : α) (entries : List (κ × α)) :
    erase key (set key value entries) = erase key entries := by
  induction entries with
  | nil => simp [set, erase]
  | cons entry entries ih =>
    obtain ⟨k, v⟩ := entry
    by_cases same : k = key
    · simp [set, erase, same]
    · simpa [set, erase, same] using ih

theorem erase_set_of_ne {key other : κ} (h : key ≠ other) (value : α) (entries : List (κ × α)) :
    erase key (set other value entries) = set other value (erase key entries) := by
  induction entries with
  | nil => simp [set, erase, h.symm]
  | cons entry entries ih =>
    obtain ⟨k, v⟩ := entry
    by_cases same : k = other
    · simp [set, erase, same, h.symm]
    · by_cases gone : k = key
      · simpa [set, erase, gone, h] using ih
      · simpa [set, erase, same, gone] using ih

theorem get?_set (key other : κ) (value : α) (entries : List (κ × α)) :
    get? other (set key value entries) = if other = key then some value else get? other entries := by
  split
  · rename_i same
    rw [same, get?_set_self]
  · rename_i different
    exact get?_set_of_ne different value entries

theorem get?_erase (key other : κ) (entries : List (κ × α)) :
    get? other (erase key entries) = if other = key then none else get? other entries := by
  split
  · rename_i same
    rw [same, get?_erase_self]
  · rename_i different
    exact get?_erase_of_ne different entries

/-! ## Choosing entries -/

/-- The entries whose value `f` keeps, with what it makes of it. -/
def filterMap (f : κ → α → Option β) (entries : List (κ × α)) : List (κ × β) :=
  entries.filterMap fun entry => (f entry.1 entry.2).map fun value => (entry.1, value)

/-- A map with each key once can be filtered key by key. -/
theorem get?_filterMap (f : κ → α → Option β) (key : κ) {entries : List (κ × α)}
    (nodup : (keys entries).Nodup) :
    get? key (filterMap f entries) = (get? key entries).bind (f key) := by
  induction entries with
  | nil => rfl
  | cons entry entries ih =>
    obtain ⟨k, v⟩ := entry
    obtain ⟨fresh, rest⟩ := List.nodup_cons.1 nodup
    have later := ih rest
    rw [filterMap] at later ⊢
    cases kept : f k v with
    | none =>
      rw [List.filterMap_cons_none (by simp [kept]), later, get?_cons]
      split
      · rename_i same
        subst same
        simp [kept, get?_eq_none_iff.2 fresh]
      · rfl
    | some value =>
      rw [List.filterMap_cons_some (by simp [kept]; rfl), get?_cons, get?_cons, later]
      split
      · rename_i same
        subst same
        simp [kept]
      · rfl

omit [DecidableEq κ] in
theorem nodup_keys_filterMap (f : κ → α → Option β) {entries : List (κ × α)}
    (nodup : (keys entries).Nodup) : (keys (filterMap f entries)).Nodup := by
  have sublist : (keys (filterMap f entries)).Sublist (keys entries) := by
    induction entries with
    | nil => exact List.Sublist.refl _
    | cons entry entries ih =>
      have rest := ih (List.nodup_cons.1 nodup).2
      rw [filterMap] at rest ⊢
      cases kept : f entry.1 entry.2 with
      | none =>
        rw [List.filterMap_cons_none (by simp [kept])]
        exact rest.cons _
      | some value =>
        rw [List.filterMap_cons_some (by simp [kept]; rfl)]
        exact rest.cons_cons _
  exact nodup.sublist sublist

/-! ## Lists made by setting -/

/-- What holds of a list and is kept by setting holds of the list that setting builds. -/
theorem foldl_set_induction {motive : List (κ × α) → Prop} {start : List (κ × α)}
    (entries : List (κ × α)) (base : motive start)
    (step : ∀ map, motive map → ∀ entry ∈ entries, motive (set entry.1 entry.2 map)) :
    motive (entries.foldl (fun map entry => set entry.1 entry.2 map) start) := by
  induction entries generalizing start with
  | nil => exact base
  | cons entry entries ih =>
    exact ih (step start base entry List.mem_cons_self)
      fun map h e he => step map h e (List.mem_cons_of_mem _ he)

theorem nodup_keys_ofEntries (entries : List (κ × α)) : (keys (ofEntries entries)).Nodup :=
  foldl_set_induction (motive := fun map => (keys map).Nodup) entries List.nodup_nil
    fun _ h _ _ => nodup_keys_set h

theorem mem_of_mem_ofEntries {entries : List (κ × α)} {entry : κ × α}
    (h : entry ∈ ofEntries entries) : entry ∈ entries := by
  refine foldl_set_induction (motive := fun map => ∀ e ∈ map, e ∈ entries) entries
    (List.forall_mem_nil _) ?_ entry h
  intro map earlier first mem e placed
  rcases mem_set placed with rfl | before
  · exact mem
  · exact earlier e before

/-- Entries of new keys that are set one after another are appended in their order. -/
theorem foldl_set_eq_append (start : List (κ × α)) {entries : List (κ × α)}
    (nodup : (keys (start ++ entries)).Nodup) :
    entries.foldl (fun map entry => set entry.1 entry.2 map) start = start ++ entries := by
  induction entries generalizing start with
  | nil => simp
  | cons entry entries ih =>
    have fresh : entry.1 ∉ keys start := by
      intro mem
      rw [keys_append, List.nodup_append] at nodup
      exact nodup.2.2 _ mem _ List.mem_cons_self rfl
    rw [List.foldl_cons, set_of_not_mem fresh, ih]
    · simp
    · simpa using nodup

/-- A list without repeated keys is the map of its entries. -/
theorem ofEntries_eq_self {entries : List (κ × α)} (nodup : (keys entries).Nodup) :
    ofEntries entries = entries :=
  foldl_set_eq_append [] nodup

/-- Which entries are kept, and where, does not depend on their values. -/
theorem ofEntries_map (f : α → β) (entries : List (κ × α)) :
    ofEntries (entries.map fun entry => (entry.1, f entry.2)) =
      (ofEntries entries).map fun entry => (entry.1, f entry.2) := by
  have fromStart : ∀ start : List (κ × α),
      (entries.map fun entry => (entry.1, f entry.2)).foldl
          (fun map entry => set entry.1 entry.2 map) (start.map fun entry => (entry.1, f entry.2)) =
        (entries.foldl (fun map entry => set entry.1 entry.2 map) start).map
          fun entry => (entry.1, f entry.2) := by
    induction entries with
    | nil => exact fun _ => rfl
    | cons entry entries ih =>
      intro start
      have step := ih (set entry.1 entry.2 start)
      rwa [← set_map] at step
  exact fromStart []

theorem ofEntries_concat (entries : List (κ × α)) (key : κ) (value : α) :
    ofEntries (entries ++ [(key, value)]) = set key value (ofEntries entries) := by
  simp [ofEntries]

/-- The last entry of a key counts. -/
theorem get?_ofEntries_concat (entries : List (κ × α)) (key other : κ) (value : α) :
    get? other (ofEntries (entries ++ [(key, value)])) =
      if other = key then some value else get? other (ofEntries entries) := by
  rw [ofEntries_concat, get?_set]

/-! ## Lists with repeated keys -/

/-- The values of all entries of a key, in order. -/
def valuesOf (key : κ) (entries : List (κ × α)) : List α :=
  entries.filterMap fun entry => if entry.1 = key then some entry.2 else none

@[simp] theorem valuesOf_nil (key : κ) : valuesOf key ([] : List (κ × α)) = [] := rfl

@[simp] theorem valuesOf_cons (key k : κ) (value : α) (entries : List (κ × α)) :
    valuesOf key ((k, value) :: entries) =
      if k = key then value :: valuesOf key entries else valuesOf key entries := by
  by_cases same : k = key <;> simp [valuesOf, same]

/-- The value that is set last counts, and the one from before only if there is none. -/
theorem get?_foldl_set (key : κ) (start entries : List (κ × α)) :
    get? key (entries.foldl (fun map entry => set entry.1 entry.2 map) start) =
      (valuesOf key entries).getLast?.or (get? key start) := by
  induction entries generalizing start with
  | nil => rfl
  | cons entry entries ih =>
    obtain ⟨k, value⟩ := entry
    rw [List.foldl_cons, ih, get?_set, valuesOf_cons]
    by_cases same : k = key
    · rw [if_pos same.symm, if_pos same, List.getLast?_cons]
      cases (valuesOf key entries).getLast? <;> rfl
    · rw [if_neg (Ne.symm same), if_neg same]

/-- Of the entries of a key the last one counts. -/
theorem get?_ofEntries (key : κ) (entries : List (κ × α)) :
    get? key (ofEntries entries) = (valuesOf key entries).getLast? := by
  rw [ofEntries, get?_foldl_set]
  simp

/-! ## One list over another -/

/-- The list in which all entries of another one are set. -/
def overlay (base top : List (κ × α)) : List (κ × α) :=
  top.foldl (fun map entry => set entry.1 entry.2 map) base

@[simp] theorem overlay_nil (base : List (κ × α)) : overlay base [] = base := rfl

@[simp] theorem overlay_cons (base : List (κ × α)) (key : κ) (value : α) (top : List (κ × α)) :
    overlay base ((key, value) :: top) = overlay (set key value base) top := rfl

/-- What a key has on top hides what it has below. -/
theorem get?_overlay (key : κ) (base : List (κ × α)) {top : List (κ × α)}
    (nodup : (keys top).Nodup) :
    get? key (overlay base top) = (get? key top).or (get? key base) := by
  have last := get?_ofEntries key top
  rw [ofEntries_eq_self nodup] at last
  rw [overlay, get?_foldl_set, last]

/-- Keys that are there keep their places, and the new ones come after them in their order. -/
theorem keys_overlay (base : List (κ × α)) {top : List (κ × α)} (nodup : (keys top).Nodup) :
    keys (overlay base top) = keys base ++ (keys top).filter fun key => key ∉ keys base := by
  induction top generalizing base with
  | nil => simp
  | cons entry top ih =>
    obtain ⟨key, value⟩ := entry
    obtain ⟨fresh, rest⟩ := List.nodup_cons.1 nodup
    rw [overlay_cons, ih _ rest, keys_set, keys_cons, List.filter_cons]
    by_cases there : key ∈ keys base
    · simp [there]
    · -- No later entry has the key that is added here.
      have later : (keys top).filter (fun other => other ∉ keys base ++ [key]) =
          (keys top).filter fun other => other ∉ keys base := by
        apply List.filter_congr
        intro other mem
        have different : other ≠ key := by
          rintro rfl
          exact fresh mem
        simp [different]
      rw [if_neg there, later]
      simp [there]

theorem nodup_keys_overlay {base : List (κ × α)} (nodup : (keys base).Nodup)
    (top : List (κ × α)) : (keys (overlay base top)).Nodup :=
  foldl_set_induction (motive := fun map => (keys map).Nodup) top nodup
    fun _ h _ _ => nodup_keys_set h

end DocStore.Assoc
