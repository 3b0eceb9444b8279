-- SUMMARY: Merging a patch into a record lays it over the fields, tells whether a value changed, and composes.
import DocStore.Proofs.Catalog.WellFormed
import DocStore.Proofs.Collection.Change
import DocStore.Proofs.Json.Sameness

/-!
# Merging

Seen as an object, a record after a merge is the record before with the patch laid over it, less the
identifier: names that are there keep their places and the new ones come after them in the order of
the patch. A value that is the same as the one in the patch stays as it is, so what is laid over is
not quite the patch but what `settled` makes of it.

Sameness is coarser than equality, and so a merge may keep a value that is written differently. As
sameness is an equivalence this cannot be seen by comparing: merging twice is merging once, and merging
two patches in turn is merging one patch over the other at once.
-/

namespace DocStore

namespace Record

variable {r : Record} {patch : Object} {name other : String} {value : Json}

/-! ## One field -/

/-- The value of a field after it was given one: the old one stays if the two are the same. -/
def settled (old : Option Json) (value : Json) : Json :=
  match old with
  | some old => if old.same value then old else value
  | none => value

/-- Giving a field its value a second time settles nothing anew. -/
theorem settled_settled (old : Option Json) (value : Json) :
    settled (some (settled old value)) value = settled old value := by
  cases old with
  | none => exact ite_self value
  | some old => by_cases same : old.same value <;> simp [settled, same]

theorem settled_eq_or (old : Option Json) (value : Json) :
    (old = some (settled old value) ∧ (settled old value).same value = true) ∨
      settled old value = value := by
  cases old with
  | none => exact .inr rfl
  | some old => by_cases same : old.same value <;> simp [settled, same]

@[simp] theorem mergeField_idField (r : Record) (value : Json) : r.mergeField idField value = r :=
  if_pos rfl

theorem toObject_mergeField (notId : name ≠ idField) (r : Record) (value : Json) :
    (r.mergeField name value).toObject =
      Assoc.set name (settled (r.get? name) value) r.toObject := by
  have laid : ∀ v, Assoc.set name v r.toObject =
      toObject ⟨r.id, Assoc.set name v r.fields⟩ := by
    intro v
    rw [toObject, Assoc.set, if_neg notId.symm]
    rfl
  rw [get?_of_ne notId, laid]
  unfold mergeField
  rw [if_neg notId]
  cases held : Assoc.get? name r.fields with
  | none => rfl
  | some old =>
    by_cases same : old.same value
    · simp [settled, same, Assoc.set_of_get? held]
    · simp [settled, same]

theorem get?_mergeField (notId : name ≠ idField) (r : Record) (value : Json) (other : String) :
    (r.mergeField name value).get? other =
      if other = name then some (settled (r.get? name) value) else r.get? other := by
  rw [get?, toObject_mergeField notId, Assoc.get?_set]
  rfl

theorem toObject_inj {a b : Record} (same : a.toObject = b.toObject) : a = b := by
  obtain ⟨id, fields⟩ := a
  obtain ⟨otherId, otherFields⟩ := b
  simp only [toObject, RecordId.toJson, List.cons.injEq, Prod.mk.injEq, true_and,
    Json.number.injEq, Number.int.injEq, Int.natCast_inj, UInt64.toNat_inj] at same
  rw [same.1, same.2]

/-! ## A whole patch -/

/-- The fields of a patch, less the identifier, with the values that they have in a record after
the merge. -/
def settledPatch (r : Record) (patch : Object) : Object :=
  Assoc.filterMap (fun name value => if name = idField then none else some (settled (r.get? name) value))
    patch

theorem nodup_keys_settledPatch (nodup : (Assoc.keys patch).Nodup) :
    (Assoc.keys (r.settledPatch patch)).Nodup :=
  Assoc.nodup_keys_filterMap _ nodup

theorem keys_settledPatch (r : Record) (patch : Object) :
    Assoc.keys (r.settledPatch patch) = (Assoc.keys patch).filter (· ≠ idField) := by
  induction patch with
  | nil => rfl
  | cons field patch ih =>
    rw [settledPatch, Assoc.filterMap] at ih ⊢
    by_cases isId : field.1 = idField
    · simp [isId, ih]
    · simp [isId, ih]

/-- A merge lays the patch over the record, one field after another. -/
theorem toObject_merge (nodup : (Assoc.keys patch).Nodup) (r : Record) :
    (r.merge patch).toObject = Assoc.overlay r.toObject (r.settledPatch patch) := by
  induction patch generalizing r with
  | nil => rfl
  | cons field patch ih =>
    obtain ⟨name, value⟩ := field
    obtain ⟨fresh, rest⟩ := List.nodup_cons.1 nodup
    change ((r.mergeField name value).merge patch).toObject = _
    rw [ih rest]
    by_cases isId : name = idField
    · subst isId
      simp [settledPatch, Assoc.filterMap]
    · -- The fields that are still to come are not the one that was given here.
      have later : (r.mergeField name value).settledPatch patch = r.settledPatch patch := by
        apply List.filterMap_congr
        rintro ⟨other, v⟩ mem
        have held : other ∈ Assoc.keys patch := Assoc.mem_keys_of_mem mem
        have different : other ≠ name := by
          rintro rfl
          exact fresh held
        simp only [get?_mergeField isId, if_neg different]
      rw [later, toObject_mergeField isId]
      simp [settledPatch, Assoc.filterMap, isId]

/-- Names that are there keep their places, and the new ones come after them in the order of the
patch. -/
theorem names_merge (nodup : (Assoc.keys patch).Nodup) (r : Record) :
    (r.merge patch).names = r.names ++ (Assoc.keys patch).filter (· ∉ r.names) := by
  have isName : idField ∈ r.names := List.mem_cons_self
  have laid : (r.merge patch).names =
      r.names ++ ((Assoc.keys patch).filter (· ≠ idField)).filter (· ∉ r.names) := by
    rw [names, toObject_merge nodup, Assoc.keys_overlay _ (nodup_keys_settledPatch nodup),
      keys_settledPatch]
    rfl
  rw [laid, List.filter_filter]
  refine congrArg _ (List.filter_congr ?_)
  intro name _
  by_cases isId : name = idField
  · simp [isId, isName]
  · simp [isId]

/-- After a merge a field is what the patch settles for it, and the identifier stays. -/
theorem get?_merge (nodup : (Assoc.keys patch).Nodup) (r : Record) (name : String) :
    (r.merge patch).get? name =
      if name = idField then r.get? name
      else ((Assoc.get? name patch).map (settled (r.get? name))).or (r.get? name) := by
  rw [get?, toObject_merge nodup, Assoc.get?_overlay _ _ (nodup_keys_settledPatch nodup),
    settledPatch, Assoc.get?_filterMap _ _ nodup]
  by_cases isId : name = idField
  · cases Assoc.get? name patch <;> simp [isId, get?]
  · cases Assoc.get? name patch <;> simp [isId, get?]

/-- A field that the patch gives a value has it settled. -/
theorem get?_merge_of_get? (nodup : (Assoc.keys patch).Nodup) (notId : name ≠ idField)
    (given : Assoc.get? name patch = some value) (r : Record) :
    (r.merge patch).get? name = some (settled (r.get? name) value) := by
  rw [get?_merge nodup, if_neg notId, given]
  rfl

/-- A field that the patch does not give a value stays as it is, and so does the identifier. -/
theorem get?_merge_of_not_mem (nodup : (Assoc.keys patch).Nodup)
    (spared : name ∉ Assoc.keys patch ∨ name = idField) (r : Record) :
    (r.merge patch).get? name = r.get? name := by
  rw [get?_merge nodup]
  rcases spared with absent | isId
  · rw [Assoc.get?_eq_none_iff.2 absent]
    simp
  · rw [if_pos isId]

/-! ## The same patch again -/

theorem mergeField_eq_self (held : r.get? name = some (settled (r.get? name) value)) :
    r.mergeField name value = r := by
  by_cases isId : name = idField
  · rw [isId, mergeField_idField]
  · apply toObject_inj
    rw [toObject_mergeField isId]
    exact Assoc.set_of_get? held

theorem merge_eq_self
    (held : ∀ field ∈ patch, field.1 ≠ idField →
      r.get? field.1 = some (settled (r.get? field.1) field.2)) :
    r.merge patch = r := by
  induction patch with
  | nil => rfl
  | cons field patch ih =>
    obtain ⟨first, rest⟩ := List.forall_mem_cons.1 held
    change (r.mergeField field.1 field.2).merge patch = r
    by_cases isId : field.1 = idField
    · rw [isId, mergeField_idField]
      exact ih rest
    · rw [mergeField_eq_self (first isId)]
      exact ih rest

/-- A merge can be repeated without effect. -/
theorem merge_merge_self (nodup : (Assoc.keys patch).Nodup) (r : Record) :
    (r.merge patch).merge patch = r.merge patch := by
  apply merge_eq_self
  intro field mem notId
  have given : Assoc.get? field.1 patch = some field.2 := (Assoc.get?_eq_some_iff nodup).2 mem
  rw [get?_merge_of_get? nodup notId given, settled_settled]

/-! ## Whether a merge changes something -/

/-- Whether two records have the same value under a name, or both have none. -/
def AgreeAt (a b : Record) (name : String) : Prop :=
  Option.Rel (fun v w => v.same w = true) (a.get? name) (b.get? name)

theorem changesField_eq_true_iff :
    r.changesField name value = true ↔
      name ≠ idField ∧ ¬Option.Rel (fun v w => v.same w = true) (r.get? name) (some value) := by
  unfold changesField
  by_cases isId : name = idField
  · simp [isId]
  · rw [get?_of_ne isId]
    cases Assoc.get? name r.fields <;> simp [isId]

/-- A merge changes something if one of the fields of the patch does, for itself. -/
theorem changes_eq_true_iff (nodup : (Assoc.keys patch).Nodup) (r : Record) :
    r.changes patch = true ↔ ∃ field ∈ patch, r.changesField field.1 field.2 = true := by
  induction patch generalizing r with
  | nil => simp [changes]
  | cons field patch ih =>
    obtain ⟨name, value⟩ := field
    obtain ⟨fresh, rest⟩ := List.nodup_cons.1 nodup
    have later : ∀ field ∈ patch,
        ((r.mergeField name value).changesField field.1 field.2 = true ↔
          r.changesField field.1 field.2 = true) := by
      intro field mem
      have held : field.1 ∈ Assoc.keys patch := Assoc.mem_keys_of_mem mem
      have different : field.1 ≠ name := by
        intro same
        exact fresh (same ▸ held)
      rw [changesField_eq_true_iff, changesField_eq_true_iff]
      by_cases isId : name = idField
      · rw [isId, mergeField_idField]
      · rw [get?_mergeField isId, if_neg different]
    rw [changes, Bool.or_eq_true, ih rest, List.exists_mem_cons_iff]
    refine or_congr_right (exists_congr fun field => and_congr_right (later field))

section Sameness

variable {p q : Object}

theorem rel_same_self {held : Option Json} (wf : ∀ v, held = some v → v.WellFormed) :
    Option.Rel (fun v w => v.same w = true) held held := by
  cases held with
  | none => exact .none
  | some value => exact .some (Json.same_self (wf value rfl))

/-- A field that the patch gives a value has the same value after the merge. -/
theorem same_settled (wf : value.WellFormed) (old : Option Json) :
    (settled old value).same value = true := by
  rcases settled_eq_or old value with ⟨-, same⟩ | given
  · exact same
  · rw [given]
    exact Json.same_self wf

theorem wellFormed_settled {old : Option Json} (wf : value.WellFormed)
    (wf_old : ∀ v, old = some v → v.WellFormed) : (settled old value).WellFormed := by
  rcases settled_eq_or old value with ⟨kept, -⟩ | given
  · exact wf_old _ kept
  · rw [given]
    exact wf

theorem wellFormed_get?_merge (wf : r.toJson.WellFormed) (wf_p : (Json.object p).WellFormed)
    (held : (r.merge p).get? name = some value) : value.WellFormed := by
  by_cases spared : name ∉ Assoc.keys p ∨ name = idField
  · rw [get?_merge_of_not_mem wf_p.1 spared] at held
    exact Json.WellFormed.get? wf held
  · rw [not_or, not_not] at spared
    obtain ⟨⟨_, v⟩, mem, rfl⟩ := List.mem_map.1 spared.1
    have given := (Assoc.get?_eq_some_iff wf_p.1).2 mem
    rw [get?_merge_of_get? wf_p.1 spared.2 given] at held
    cases held
    exact wellFormed_settled (wf_p.get? given) fun _ => Json.WellFormed.get? wf

/-- A merge tells that something changes exactly if some field has another value afterwards. -/
theorem changes_iff_not_agreeAt (wf : r.toJson.WellFormed) (nodup : (Assoc.keys p).Nodup) :
    r.changes p = true ↔ ∃ name, ¬r.AgreeAt (r.merge p) name := by
  rw [changes_eq_true_iff nodup]
  constructor
  · rintro ⟨⟨name, value⟩, mem, changed⟩
    obtain ⟨notId, differs⟩ := changesField_eq_true_iff.1 changed
    refine ⟨name, ?_⟩
    rw [AgreeAt, get?_merge_of_get? nodup notId ((Assoc.get?_eq_some_iff nodup).2 mem)]
    -- The old value is another one, so the one of the patch took its place.
    rcases settled_eq_or (r.get? name) value with ⟨kept, same⟩ | given
    · rw [kept, Option.rel_some_some] at differs
      exact absurd same differs
    · rwa [given]
  · rintro ⟨name, differs⟩
    by_cases spared : name ∉ Assoc.keys p ∨ name = idField
    · rw [AgreeAt, get?_merge_of_not_mem nodup spared] at differs
      exact absurd (rel_same_self fun _ => Json.WellFormed.get? wf) differs
    · rw [not_or, not_not] at spared
      obtain ⟨given, notId⟩ := spared
      obtain ⟨⟨_, value⟩, mem, rfl⟩ := List.mem_map.1 given
      refine ⟨_, mem, changesField_eq_true_iff.2 ⟨notId, ?_⟩⟩
      intro same
      apply differs
      obtain ⟨old, held, same⟩ : ∃ old, r.get? _ = some old ∧ old.same value = true := by
        rwa [rel_swap, rel_some_iff] at same
      rw [AgreeAt, get?_merge_of_get? nodup notId ((Assoc.get?_eq_some_iff nodup).2 mem), held]
      simpa [settled, same] using Json.same_self (Json.WellFormed.get? wf held)

/-- A patch that was merged changes nothing any more. -/
theorem changes_merge_self (wf : (Json.object p).WellFormed) (r : Record) :
    (r.merge p).changes p = false := by
  rw [← Bool.not_eq_true, changes_eq_true_iff wf.1]
  rintro ⟨⟨name, value⟩, mem, changed⟩
  obtain ⟨notId, differs⟩ := changesField_eq_true_iff.1 changed
  have given : Assoc.get? name p = some value := (Assoc.get?_eq_some_iff wf.1).2 mem
  rw [get?_merge_of_get? wf.1 notId given, Option.rel_some_some] at differs
  exact differs (same_settled (wf.get? given) _)

/-! ## Two patches in turn -/

/-- Two patches in turn give the names that one over the other gives, in the same order. -/
theorem names_merge_merge (nodup : (Assoc.keys p).Nodup) (nodup' : (Assoc.keys q).Nodup)
    (r : Record) : ((r.merge p).merge q).names = (r.merge (Assoc.overlay p q)).names := by
  rw [names_merge nodup', names_merge nodup, names_merge (Assoc.nodup_keys_overlay nodup q),
    Assoc.keys_overlay p nodup', List.filter_append, List.append_assoc, List.filter_filter]
  refine congrArg _ (congrArg _ (List.filter_congr ?_))
  intro name _
  by_cases there : name ∈ r.names <;> by_cases given : name ∈ Assoc.keys p <;>
    simp [there, given]

/-- Two merges one after another come to the merge of the one patch laid over the other. -/
theorem agreeAt_merge_merge (wf : r.toJson.WellFormed) (wf_p : (Json.object p).WellFormed)
    (wf_q : (Json.object q).WellFormed) (name : String) :
    ((r.merge p).merge q).AgreeAt (r.merge (Assoc.overlay p q)) name := by
  have nodup := Assoc.nodup_keys_overlay wf_p.1 q
  have laid := Assoc.get?_overlay name p wf_q.1
  by_cases isId : name = idField
  · rw [AgreeAt, get?_merge_of_not_mem wf_q.1 (.inr isId), get?_merge_of_not_mem wf_p.1 (.inr isId),
      get?_merge_of_not_mem nodup (.inr isId)]
    exact rel_same_self fun _ => Json.WellFormed.get? wf
  cases later : Assoc.get? name q with
  | some value =>
    -- Both sides settled the value of the second patch, though over different old values.
    rw [later, Option.some_or] at laid
    rw [AgreeAt, get?_merge_of_get? wf_q.1 isId later, get?_merge_of_get? nodup isId laid]
    have wf_value := wf_q.get? later
    have wf_first : (settled ((r.merge p).get? name) value).WellFormed :=
      wellFormed_settled wf_value fun _ => wellFormed_get?_merge wf wf_p
    have wf_second : (settled (r.get? name) value).WellFormed :=
      wellFormed_settled wf_value fun _ => Json.WellFormed.get? wf
    refine .some (Json.same_trans wf_first wf_value wf_second (same_settled wf_value _) ?_)
    rw [Json.same_comm wf_value wf_second]
    exact same_settled wf_value _
  | none =>
    rw [later, Option.none_or] at laid
    have same : (r.merge (Assoc.overlay p q)).get? name = (r.merge p).get? name := by
      rw [get?_merge nodup, get?_merge wf_p.1, laid]
    rw [AgreeAt, get?_merge_of_not_mem wf_q.1 (.inl (Assoc.get?_eq_none_iff.1 later)), same]
    exact rel_same_self fun _ => wellFormed_get?_merge wf wf_p

/-- Merging a patch keeps the identifier and the places of the names that are there, and the new names
come after them in the order of the patch. Under each name of the patch but the reserved one stands
the value of the patch, and under every other name what stood there. The merge tells that something
changes exactly if some field has another value afterwards; the same patch again changes nothing and
tells so; and a second patch has the effect of having been laid over the first one before. -/
theorem merge_lays_patch_over (wf : r.toJson.WellFormed) (wf_p : (Json.object p).WellFormed)
    (wf_q : (Json.object q).WellFormed) :
    (r.merge p).id = r.id ∧
    (r.merge p).names = r.names ++ (Assoc.keys p).filter (· ∉ r.names) ∧
    (∀ name value, Assoc.get? name p = some value → name ≠ idField →
      ∃ v, (r.merge p).get? name = some v ∧ v.same value = true) ∧
    (∀ name, name ∉ Assoc.keys p ∨ name = idField → (r.merge p).get? name = r.get? name) ∧
    (r.changes p = true ↔ ∃ name, ¬r.AgreeAt (r.merge p) name) ∧
    ((r.merge p).changes p = false ∧ (r.merge p).merge p = r.merge p) ∧
    ((r.merge p).merge q).names = (r.merge (Assoc.overlay p q)).names ∧
    ∀ name, ((r.merge p).merge q).AgreeAt (r.merge (Assoc.overlay p q)) name := by
  refine ⟨r.id_merge p, names_merge wf_p.1 r, ?_, ?_, changes_iff_not_agreeAt wf wf_p.1,
    ⟨changes_merge_self wf_p r, merge_merge_self wf_p.1 r⟩, names_merge_merge wf_p.1 wf_q.1 r,
    agreeAt_merge_merge wf wf_p wf_q⟩
  · intro name value given notId
    exact ⟨_, get?_merge_of_get? wf_p.1 notId given r, same_settled (wf_p.get? given) _⟩
  · intro name spared
    exact get?_merge_of_not_mem wf_p.1 spared r

/-- A patch that gives a zero its other sign, which is the same value, and names an identifier; and one
that gives a field of the first another value. -/
theorem merge_lays_patch_over_zero :
    let zero := Json.number (.float (Float.ofBits 0))
    let minusZero := Json.number (.float (Float.ofBits 0x8000000000000000))
    let r : Record := ⟨7, [("a", zero), ("b", .null)]⟩
    let p : Object := [("c", .bool true), (idField, .null), ("a", minusZero)]
    let q : Object := [("d", minusZero), ("c", .bool false)]
    (r.merge p).names = [idField, "a", "b", "c"] ∧
      (∃ v, (r.merge p).get? "a" = some v ∧ v.same minusZero = true) ∧
      (r.changes p = true ↔ ∃ name, ¬r.AgreeAt (r.merge p) name) ∧
      (r.merge p).changes p = false ∧
      ((r.merge p).merge q).names = (r.merge (Assoc.overlay p q)).names ∧
      ((r.merge p).merge q).AgreeAt (r.merge (Assoc.overlay p q)) "c" := by
  intro zero minusZero r p q
  have wf_zero : zero.WellFormed := by rfl
  have wf_minusZero : minusZero.WellFormed := by rfl
  have wf_r : r.toJson.WellFormed := ⟨by decide, ⟨by decide, by decide⟩, wf_zero, trivial, trivial⟩
  have wf_p : (Json.object p).WellFormed := ⟨by decide, trivial, trivial, wf_minusZero, trivial⟩
  have wf_q : (Json.object q).WellFormed := ⟨by decide, wf_minusZero, trivial, trivial⟩
  obtain ⟨-, names, given, -, changes, again, order, values⟩ := merge_lays_patch_over wf_r wf_p wf_q
  exact ⟨names, given "a" minusZero rfl (by decide), changes, again.1, order, values "c"⟩

end Sameness

end Record

end DocStore
