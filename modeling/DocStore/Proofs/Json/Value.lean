-- SUMMARY: The value of a written value: itself, unless it is nested too deeply or has a double that does not read back.
import DocStore.Proofs.Assoc
import DocStore.Proofs.Json.Text

/-!
# The value of a written value

The tree of a value denotes a value again if there is room for its nesting and every number in it
has a text that denotes a number. It is the same value if the names of each object are distinct and
the numbers read back, and with `reread` in place of the numbers in any case.

What a value must be like for this is split in two. `Sound` is what readers and operations keep: no
repeated names, and integers of the exact range. `Fits` is what only holds of some: at most so many
containers open at once, and doubles whose text denotes a number.
-/

namespace DocStore

mutual
/-- Whether no object in a value has a repeated name, and every integer is in the exact range. -/
def Json.Sound : Json → Prop
  | .number n => n.InRange
  | .array items => itemsSound items
  | .object members => (Assoc.keys members).Nodup ∧ membersSound members
  | _ => True

def itemsSound : List Json → Prop
  | [] => True
  | item :: items => item.Sound ∧ itemsSound items

def membersSound : List (String × Json) → Prop
  | [] => True
  | (_, value) :: members => value.Sound ∧ membersSound members
end

mutual
/-- Decide whether a value is sound. -/
def Json.decideSound : (v : Json) → Decidable v.Sound
  | .null => isTrue trivial
  | .bool _ => isTrue trivial
  | .number n => inferInstanceAs (Decidable n.InRange)
  | .string _ => isTrue trivial
  | .array items => decideItemsSound items
  | .object members =>
    have := decideMembersSound members
    inferInstanceAs (Decidable (_ ∧ _))

def decideItemsSound : (items : List Json) → Decidable (itemsSound items)
  | [] => isTrue trivial
  | item :: items =>
    have := item.decideSound
    have := decideItemsSound items
    inferInstanceAs (Decidable (_ ∧ _))

/-- Decide whether the values of all members are sound. -/
def decideMembersSound : (members : List (String × Json)) → Decidable (membersSound members)
  | [] => isTrue trivial
  | (_, value) :: members =>
    have := value.decideSound
    have := decideMembersSound members
    inferInstanceAs (Decidable (_ ∧ _))
end

instance (v : Json) : Decidable v.Sound := v.decideSound

mutual
/-- The doubles in a value. -/
def Json.doubles : Json → List Float
  | .number (.float f) => [f]
  | .array items => itemsDoubles items
  | .object members => membersDoubles members
  | _ => []

def itemsDoubles : List Json → List Float
  | [] => []
  | item :: items => item.doubles ++ itemsDoubles items

def membersDoubles : List (String × Json) → List Float
  | [] => []
  | (_, value) :: members => value.doubles ++ membersDoubles members
end

mutual
/-- A value with each number replaced by the one that its text denotes. -/
def Json.reread : Json → Json
  | .number n => .number (n.reread?.getD n)
  | .array items => .array (itemsReread items)
  | .object members => .object (membersReread members)
  | value => value

def itemsReread : List Json → List Json
  | [] => []
  | item :: items => item.reread :: itemsReread items

def membersReread : List (String × Json) → List (String × Json)
  | [] => []
  | (name, value) :: members => (name, value.reread) :: membersReread members
end

/-- Whether a value opens at most `room` containers at once and each of its doubles has a text that
denotes a number. -/
def Json.Fits (room : Nat) (v : Json) : Prop :=
  v.depth ≤ room ∧ ∀ f ∈ v.doubles, (Number.float f).reread?.isSome = true

instance (room : Nat) (v : Json) : Decidable (v.Fits room) :=
  inferInstanceAs (Decidable (_ ∧ _))

/-- Whether every double in a value reads back. -/
def Json.ReadsBack (v : Json) : Prop :=
  ∀ f ∈ v.doubles, (Number.float f).ReadsBack

instance (v : Json) : Decidable v.ReadsBack :=
  inferInstanceAs (Decidable (∀ f ∈ v.doubles, (Number.float f).ReadsBack))

/-! ## Items and members -/

theorem itemsSound_iff {items : List Json} : itemsSound items ↔ ∀ item ∈ items, item.Sound := by
  induction items with
  | nil => simp [itemsSound]
  | cons item items ih => simp [itemsSound, ih]

theorem membersSound_iff {members : Object} :
    membersSound members ↔ ∀ member ∈ members, member.2.Sound := by
  induction members with
  | nil => simp [membersSound]
  | cons member members ih => simp [membersSound, ih]

@[simp] theorem Json.sound_array {items : List Json} :
    (Json.array items).Sound ↔ ∀ item ∈ items, item.Sound :=
  itemsSound_iff

@[simp] theorem Json.sound_object {members : Object} :
    (Json.object members).Sound ↔
      (Assoc.keys members).Nodup ∧ ∀ member ∈ members, member.2.Sound :=
  and_congr_right fun _ => membersSound_iff

theorem membersTree_eq_map (members : Object) :
    membersTree members = members.map fun member => (some member.1, member.2.tree) := by
  induction members with
  | nil => rfl
  | cons member members ih => simp [membersTree, ih]

theorem membersTree_append (members more : Object) :
    membersTree (members ++ more) = membersTree members ++ membersTree more := by
  simp [membersTree_eq_map]

theorem membersReread_eq_map (members : Object) :
    membersReread members = members.map fun member => (member.1, member.2.reread) := by
  induction members with
  | nil => rfl
  | cons member members ih => simp [membersReread, ih]

/-- Rereading merges no members. -/
theorem ofEntries_membersReread {members : Object} (nodup : (Assoc.keys members).Nodup) :
    Assoc.ofEntries (membersReread members) = membersReread members := by
  refine Assoc.ofEntries_eq_self ?_
  rw [membersReread_eq_map, Assoc.keys_map]
  exact nodup

theorem mem_itemsDoubles {f : Float} {items : List Json} :
    f ∈ itemsDoubles items ↔ ∃ item ∈ items, f ∈ item.doubles := by
  induction items with
  | nil => simp [itemsDoubles]
  | cons item items ih => simp [itemsDoubles, ih]

theorem mem_membersDoubles {f : Float} {members : Object} :
    f ∈ membersDoubles members ↔ ∃ member ∈ members, f ∈ member.2.doubles := by
  induction members with
  | nil => simp [membersDoubles]
  | cons member members ih => simp [membersDoubles, ih]

theorem itemsDepth_le {room : Nat} {items : List Json} :
    itemsDepth items ≤ room ↔ ∀ item ∈ items, item.depth ≤ room := by
  induction items with
  | nil => simp [itemsDepth]
  | cons item items ih => simp [itemsDepth, ih]

theorem membersDepth_le {room : Nat} {members : Object} :
    membersDepth members ≤ room ↔ ∀ member ∈ members, member.2.depth ≤ room := by
  induction members with
  | nil => simp [membersDepth]
  | cons member members ih => simp [membersDepth, ih]

theorem Json.readsBack_array {items : List Json} :
    (Json.array items).ReadsBack ↔ ∀ item ∈ items, item.ReadsBack := by
  simp only [Json.ReadsBack, Json.doubles, mem_itemsDoubles]
  exact ⟨fun h item mem f hf => h f ⟨item, mem, hf⟩, fun h f ⟨item, mem, hf⟩ => h item mem f hf⟩

theorem Json.readsBack_object {members : Object} :
    (Json.object members).ReadsBack ↔ ∀ member ∈ members, member.2.ReadsBack := by
  simp only [Json.ReadsBack, Json.doubles, mem_membersDoubles]
  exact ⟨fun h member mem f hf => h f ⟨member, mem, hf⟩,
    fun h f ⟨member, mem, hf⟩ => h member mem f hf⟩

/-! ## Room -/

namespace Json

theorem not_fits_zero_array (items : List Json) : ¬(Json.array items).Fits 0 := by
  intro h
  exact absurd h.1 (by simp [Json.depth])

theorem not_fits_zero_object (members : Object) : ¬(Json.object members).Fits 0 := by
  intro h
  exact absurd h.1 (by simp [Json.depth])

@[simp] theorem fits_array {room : Nat} {items : List Json} :
    (Json.array items).Fits (room + 1) ↔ ∀ item ∈ items, item.Fits room := by
  simp only [Fits, depth, doubles, Nat.add_le_add_iff_right, itemsDepth_le, mem_itemsDoubles]
  constructor
  · intro h item mem
    exact ⟨h.1 item mem, fun f hf => h.2 f ⟨item, mem, hf⟩⟩
  · intro h
    exact ⟨fun item mem => (h item mem).1, fun f ⟨item, mem, hf⟩ => (h item mem).2 f hf⟩

@[simp] theorem fits_object {room : Nat} {members : Object} :
    (Json.object members).Fits (room + 1) ↔ ∀ member ∈ members, member.2.Fits room := by
  simp only [Fits, depth, doubles, Nat.add_le_add_iff_right, membersDepth_le, mem_membersDoubles]
  constructor
  · intro h member mem
    exact ⟨h.1 member mem, fun f hf => h.2 f ⟨member, mem, hf⟩⟩
  · intro h
    exact ⟨fun member mem => (h member mem).1, fun f ⟨member, mem, hf⟩ => (h member mem).2 f hf⟩

@[simp] theorem fits_null (room : Nat) : Json.null.Fits room := by
  simp [Fits, depth, doubles]

@[simp] theorem fits_bool (room : Nat) (b : Bool) : (Json.bool b).Fits room := by
  simp [Fits, depth, doubles]

@[simp] theorem fits_string (room : Nat) (s : String) : (Json.string s).Fits room := by
  simp [Fits, depth, doubles]

@[simp] theorem fits_int (room : Nat) (i : Int) : (Json.number (.int i)).Fits room := by
  simp [Fits, depth, doubles]

/-- A number of a sound value fits if its text denotes a number: of an integer it does. -/
theorem fits_number {room : Nat} {n : Number} (range : n.InRange) :
    (Json.number n).Fits room ↔ n.reread?.isSome = true := by
  cases n with
  | int i =>
    have readsBack : (Number.int i).reread? = some (.int i) := Number.readsBack_int range
    simp [readsBack]
  | float f => simp [Fits, depth, doubles]

/-- For a value whose doubles read back, all that matters is its depth. -/
theorem ReadsBack.fits_iff {v : Json} (h : v.ReadsBack) {room : Nat} :
    v.Fits room ↔ v.depth ≤ room := by
  refine ⟨And.left, fun depth => ⟨depth, fun f hf => ?_⟩⟩
  rw [show (Number.float f).reread? = some (.float f) from h f hf]
  rfl

mutual
/-- A sound value whose doubles read back is not changed by rereading. -/
theorem reread_eq_self : ∀ {v : Json}, v.Sound → v.ReadsBack → v.reread = v
  | .null, _, _ => rfl
  | .bool _, _, _ => rfl
  | .string _, _, _ => rfl
  | .number (.int i), range, _ => by
    have same : (Number.int i).reread? = some (.int i) := Number.readsBack_int range
    simp [Json.reread, same]
  | .number (.float f), _, readsBack => by
    have same : (Number.float f).reread? = some (.float f) := readsBack f List.mem_cons_self
    simp [Json.reread, same]
  | .array items, sound, readsBack => by
    rw [Json.reread, itemsReread_eq_self sound (readsBack_array.1 readsBack)]
  | .object members, sound, readsBack => by
    rw [Json.reread, membersReread_eq_self sound.2 (readsBack_object.1 readsBack)]

theorem itemsReread_eq_self : ∀ {items : List Json}, itemsSound items →
    (∀ item ∈ items, item.ReadsBack) → itemsReread items = items
  | [], _, _ => rfl
  | item :: items, sound, readsBack => by
    rw [itemsReread, reread_eq_self sound.1 (readsBack item List.mem_cons_self),
      itemsReread_eq_self sound.2 fun v mem => readsBack v (List.mem_cons_of_mem _ mem)]

theorem membersReread_eq_self : ∀ {members : Object}, membersSound members →
    (∀ member ∈ members, member.2.ReadsBack) → membersReread members = members
  | [], _, _ => rfl
  | (name, value) :: members, sound, readsBack => by
    rw [membersReread, reread_eq_self sound.1 (readsBack (name, value) List.mem_cons_self),
      membersReread_eq_self sound.2 fun m mem => readsBack m (List.mem_cons_of_mem _ mem)]
end

end Json

/-! ## Values of trees -/

namespace Tree

mutual
/-- The tree of a sound value denotes the value, reread, exactly if it fits. -/
theorem toJson?_tree : ∀ {v : Json} (room : Nat), v.Sound →
    v.tree.toJson? room = if v.Fits room then some v.reread else none
  | .null, room, _ => by simp [Json.tree, toJson?, Json.reread]
  | .bool b, room, _ => by simp [Json.tree, toJson?, Json.reread]
  | .string s, room, _ => by simp [Json.tree, toJson?, Json.reread]
  | .number n, room, sound => by
    have range : n.InRange := sound
    cases denoted : n.reread? <;>
      simp [Json.tree, toJson?, Json.reread, Json.fits_number range, denoted]
  | .array items, 0, _ => by
    simp [Json.tree, toJson?, Json.not_fits_zero_array]
  | .array items, room + 1, sound => by
    simp only [Json.tree, toJson?, if_true, itemsToJson?_tree room sound, Json.fits_array]
    split <;> simp [Json.reread]
  | .object members, 0, _ => by
    simp [Json.tree, toJson?, Json.not_fits_zero_object]
  | .object members, room + 1, ⟨nodup, sound⟩ => by
    have distinct := ofEntries_membersReread nodup
    simp only [Json.tree, toJson?, if_true, membersToJson?_tree room sound, Json.fits_object]
    split <;> simp [Json.reread, distinct]

/-- The trees of sound items denote the items, reread, exactly if all of them fit. -/
theorem itemsToJson?_tree : ∀ {items : List Json} (room : Nat), itemsSound items →
    itemsToJson? room (itemsTree items) =
      if ∀ item ∈ items, item.Fits room then some (itemsReread items) else none
  | [], room, _ => by simp [itemsTree, itemsToJson?, itemsReread]
  | item :: items, room, ⟨first, rest⟩ => by
    simp only [itemsTree, itemsToJson?, toJson?_tree room first, itemsToJson?_tree room rest,
      List.forall_mem_cons, itemsReread]
    by_cases fits : item.Fits room
    · by_cases fit : ∀ item ∈ items, item.Fits room
      · rw [if_pos fits, if_pos fit, if_pos ⟨fits, fit⟩]
      · rw [if_pos fits, if_neg fit, if_neg fun h => fit h.2]
    · rw [if_neg fits, if_neg (c := _ ∧ _) fun h => fits h.1]

/-- The trees of sound members denote the members, reread, exactly if all of them fit. -/
theorem membersToJson?_tree : ∀ {members : Object} (room : Nat), membersSound members →
    membersToJson? room (membersTree members) =
      if ∀ member ∈ members, member.2.Fits room then some (membersReread members) else none
  | [], room, _ => by simp [membersTree, membersToJson?, membersReread]
  | (name, value) :: members, room, ⟨first, rest⟩ => by
    simp only [membersTree, membersToJson?, toJson?_tree room first, membersToJson?_tree room rest,
      List.forall_mem_cons, membersReread]
    by_cases fits : value.Fits room
    · by_cases fit : ∀ member ∈ members, member.2.Fits room
      · rw [if_pos fits, if_pos fit, if_pos ⟨fits, fit⟩]
      · rw [if_pos fits, if_neg fit, if_neg fun h => fit h.2]
    · rw [if_neg fits, if_neg (c := _ ∧ _) fun h => fits h.1]
end

end Tree

/-! ## Whole texts -/

/-- A value that is not nested too deeply is read from its text in either style, names and items in
their order. -/
theorem Json.parse?_text (style : Style) {v : Json} (sound : v.Sound) (readsBack : v.ReadsBack)
    (deep : v.depth ≤ maxDepth) : Json.parse? (v.text style) = some v := by
  rw [Json.parse?, Json.ofSymbols?, Document.read_text]
  simp only [if_true, Tree.toJson?_tree maxDepth sound, if_pos (readsBack.fits_iff.2 deep),
    Json.reread_eq_self sound readsBack]

end DocStore
