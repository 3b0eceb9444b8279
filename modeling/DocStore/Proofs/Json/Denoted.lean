-- SUMMARY: Every value that is read from a text is sound and within the limit of nesting.
import DocStore.Proofs.Json.Value

/-!
# Values that are read

Whatever the text, the integers in its tree are in the exact range: a literal beyond it is read as a
double. A value that a tree denotes has no repeated names, because of members with the same name
only one is kept, and it opens no more containers than there was room for.
-/

namespace DocStore

/-- The number that a literal denotes is in range. -/
theorem Number.Literal.inRange_of_toNumber? {l : Number.Literal} {n : Number}
    (h : l.toNumber? = some n) : n.InRange := by
  unfold toNumber? at h
  split at h
  · rename_i i denoted
    cases h
    simp only [toInt?] at denoted
    simp only [InRange]
    split at denoted
    · cases denoted
    · split at denoted
      · split at denoted
        · cases denoted
        · cases denoted
          omega
      · split at denoted
        · cases denoted
        · cases denoted
          omega
  · obtain ⟨f, _, rfl⟩ := Option.map_eq_some_iff.1 h
    trivial

namespace Tree

mutual
/-- Whether the integers in a tree are in range. -/
def InRange : Tree → Prop
  | .number n => ∀ m ∈ n, m.InRange
  | .array items _ => itemsInRange items
  | .object members _ => membersInRange members
  | _ => True

def itemsInRange : List Tree → Prop
  | [] => True
  | item :: items => item.InRange ∧ itemsInRange items

/-- Whether the integers in the values of some members are in range. -/
def membersInRange : List (Option String × Tree) → Prop
  | [] => True
  | (_, tree) :: members => tree.InRange ∧ membersInRange members
end

/-- A leaf whose tree is in range is in range. -/
theorem inRange_leaf {α : Type} {found : Option α} {f : α → Tree × List Symbol}
    (h : ∀ a ∈ found, (f a).1.InRange) : (leaf (found.map f)).1.InRange := by
  cases found with
  | none => trivial
  | some a => exact h a rfl

/-- What the reader yields with so many steps is in range. -/
structure ReadsInRange (fuel : Nat) : Prop where
  value : ∀ s, (readValue fuel s).1.InRange
  items : ∀ s, itemsInRange (readItems fuel s).1
  members : ∀ s, membersInRange (readMembers fuel s).1

/-- A value that is read has its integers in range if what is read inside of it has. -/
theorem inRange_readValue {fuel : Nat} (ih : ReadsInRange fuel) (s : List Symbol) :
    (readValue (fuel + 1) s).1.InRange := by
  rw [readValue]
  split
  · split
    · trivial
    · exact ih.members _
  · split
    · trivial
    · exact ih.items _
  · exact inRange_leaf fun _ _ => trivial
  · exact inRange_leaf fun _ _ => trivial
  · exact inRange_leaf fun _ _ => trivial
  · exact inRange_leaf fun _ _ => trivial
  · exact inRange_leaf fun found _ n denoted => Number.Literal.inRange_of_toNumber? denoted

theorem inRange_readItems {fuel : Nat} (ih : ReadsInRange fuel) (s : List Symbol) :
    itemsInRange (readItems (fuel + 1) s).1 := by
  have first := ih.value s
  rw [readItems]
  split
  · rename_i item read
    rw [read] at first
    exact ⟨first, trivial⟩
  · rename_i item rest read
    rw [read] at first
    split
    · exact ⟨first, ih.items _⟩
    · exact ⟨first, trivial⟩
    · exact ⟨first, trivial⟩

theorem inRange_readMembers {fuel : Nat} (ih : ReadsInRange fuel) (s : List Symbol) :
    membersInRange (readMembers (fuel + 1) s).1 := by
  rw [readMembers]
  split
  · split
    · trivial
    · split
      · rename_i s _
        have first := ih.value s
        split
        · rename_i value read
          rw [read] at first
          exact ⟨first, trivial⟩
        · rename_i value rest read
          rw [read] at first
          split
          · exact ⟨first, ih.members _⟩
          · exact ⟨first, trivial⟩
          · exact ⟨first, trivial⟩
      · exact ⟨trivial, trivial⟩
  · trivial

/-- Whatever is read has its integers in range: a literal that is out of range is read as a
double. -/
theorem readsInRange (fuel : Nat) : ReadsInRange fuel := by
  induction fuel with
  | zero => exact ⟨fun _ => trivial, fun _ => trivial, fun _ => trivial⟩
  -- The three readers call each other, each with one step less.
  | succ fuel ih =>
    exact ⟨inRange_readValue ih, inRange_readItems ih, inRange_readMembers ih⟩

/-! ## Values of trees -/

/-- The value of an object has its members, the last one of each name. -/
theorem toJson?_object_ok {members : List (Option String × Tree)} {closed : Bool} {room : Nat}
    {v : Json} (h : (Tree.object members closed).toJson? room = some v) :
    ∃ values, membersToJson? (room - 1) members = some values ∧
      v = .object (Assoc.ofEntries values) := by
  cases room with
  | zero => simp [toJson?] at h
  | succ room =>
    simp only [toJson?, Option.ite_none_right_eq_some] at h
    obtain ⟨values, denoted, rfl⟩ := Option.map_eq_some_iff.1 h.2
    exact ⟨values, denoted, rfl⟩

theorem toJson?_array_ok {items : List Tree} {closed : Bool} {room : Nat} {v : Json}
    (h : (Tree.array items closed).toJson? room = some v) :
    ∃ values, itemsToJson? (room - 1) items = some values ∧ v = .array values := by
  cases room with
  | zero => simp [toJson?] at h
  | succ room =>
    simp only [toJson?, Option.ite_none_right_eq_some] at h
    obtain ⟨values, denoted, rfl⟩ := Option.map_eq_some_iff.1 h.2
    exact ⟨values, denoted, rfl⟩

/-- An object that a tree denotes has no repeated name. -/
theorem nodup_of_toJson? {tree : Tree} {room : Nat} {members : Object}
    (h : tree.toJson? room = some (.object members)) : (Assoc.keys members).Nodup := by
  cases tree with
  | object _ _ =>
    obtain ⟨values, _, same⟩ := toJson?_object_ok h
    cases same
    exact Assoc.nodup_keys_ofEntries values
  | array _ _ =>
    obtain ⟨values, _, same⟩ := toJson?_array_ok h
    cases same
  | _ => simp [toJson?] at h

theorem itemsToJson?_cons_ok {item : Tree} {items : List Tree} {room : Nat} {values : List Json}
    (h : itemsToJson? room (item :: items) = some values) :
    ∃ value more, item.toJson? room = some value ∧ itemsToJson? room items = some more ∧
      values = value :: more := by
  simp only [itemsToJson?] at h
  split at h
  · rename_i value more first rest
    cases h
    exact ⟨value, more, first, rest, rfl⟩
  · cases h

theorem membersToJson?_cons_ok {name : Option String} {tree : Tree}
    {members : List (Option String × Tree)} {room : Nat} {values : List (String × Json)}
    (h : membersToJson? room ((name, tree) :: members) = some values) :
    ∃ key value more, name = some key ∧ tree.toJson? room = some value ∧
      membersToJson? room members = some more ∧ values = (key, value) :: more := by
  simp only [membersToJson?] at h
  split at h
  · rename_i key value more first rest
    cases h
    exact ⟨key, value, more, rfl, first, rest, rfl⟩
  · cases h

mutual
/-- The value of a tree is sound and opens no more containers than there was room for. -/
theorem sound_of_toJson? : ∀ {tree : Tree} {room : Nat} {v : Json}, tree.InRange →
    tree.toJson? room = some v → v.Sound ∧ v.depth ≤ room
  | .broken, _, _, _, h => by simp [toJson?] at h
  | .null, _, _, _, h => by
    simp only [toJson?, Option.some.injEq] at h
    exact h ▸ ⟨trivial, Nat.zero_le _⟩
  | .bool _, _, _, _, h => by
    simp only [toJson?, Option.some.injEq] at h
    exact h ▸ ⟨trivial, Nat.zero_le _⟩
  | .number _, _, _, range, h => by
    obtain ⟨n, denoted, rfl⟩ := Option.map_eq_some_iff.1 h
    exact ⟨range n denoted, Nat.zero_le _⟩
  | .string _, _, _, _, h => by
    obtain ⟨s, _, rfl⟩ := Option.map_eq_some_iff.1 h
    exact ⟨trivial, Nat.zero_le _⟩
  | .array _ _, 0, _, _, h => by simp [toJson?] at h
  | .array items closed, room + 1, _, range, h => by
    obtain ⟨values, denoted, rfl⟩ := toJson?_array_ok h
    have each := sound_of_itemsToJson? range denoted
    have sound : (Json.array values).Sound := Json.sound_array.2 fun v mem => (each v mem).1
    have deep : itemsDepth values ≤ room := itemsDepth_le.2 fun v mem => (each v mem).2
    exact ⟨sound, Nat.succ_le_succ deep⟩
  | .object _ _, 0, _, _, h => by simp [toJson?] at h
  | .object members closed, room + 1, _, range, h => by
    obtain ⟨values, denoted, rfl⟩ := toJson?_object_ok h
    have each : ∀ member ∈ Assoc.ofEntries values, member.2.Sound ∧ member.2.depth ≤ room :=
      fun member mem => sound_of_membersToJson? range denoted member (Assoc.mem_of_mem_ofEntries mem)
    have sound : (Json.object (Assoc.ofEntries values)).Sound :=
      Json.sound_object.2 ⟨Assoc.nodup_keys_ofEntries values, fun m mem => (each m mem).1⟩
    have deep : membersDepth (Assoc.ofEntries values) ≤ room :=
      membersDepth_le.2 fun m mem => (each m mem).2
    exact ⟨sound, Nat.succ_le_succ deep⟩

/-- The values of items are sound and as deep as there is room. -/
theorem sound_of_itemsToJson? : ∀ {items : List Tree} {room : Nat} {values : List Json},
    itemsInRange items → itemsToJson? room items = some values →
      ∀ v ∈ values, v.Sound ∧ v.depth ≤ room
  | [], _, _, _, h => by
    cases h
    simp
  | item :: items, room, _, ⟨first, rest⟩, h => by
    obtain ⟨value, values, found, more, rfl⟩ := itemsToJson?_cons_ok h
    exact List.forall_mem_cons.2
      ⟨sound_of_toJson? first found, sound_of_itemsToJson? rest more⟩

/-- The values of members are sound and as deep as there is room. -/
theorem sound_of_membersToJson? : ∀ {members : List (Option String × Tree)} {room : Nat}
    {values : List (String × Json)}, membersInRange members →
      membersToJson? room members = some values → ∀ m ∈ values, m.2.Sound ∧ m.2.depth ≤ room
  | [], _, _, _, h => by
    cases h
    simp
  | (_, tree) :: members, room, _, ⟨first, rest⟩, h => by
    obtain ⟨_, value, values, _, found, more, rfl⟩ := membersToJson?_cons_ok h
    exact List.forall_mem_cons.2
      ⟨sound_of_toJson? first found, sound_of_membersToJson? rest more⟩
end

end Tree

/-- A document that is read has its integers in range. -/
theorem Document.inRange_read (s : List Symbol) : (Document.read s).tree.InRange := by
  have read := (Tree.readsInRange (2 * s.length + 2)).value s
  unfold Document.read
  split
  · rename_i tree found
    rwa [found] at read
  · rename_i tree rest found
    rwa [found] at read

end DocStore
