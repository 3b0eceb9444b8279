-- SUMMARY: Identifiers along runs of changes: distinct among the records present, and never given twice by the counter.
import DocStore.Proofs.Collection.Change

/-!
# Identifiers along runs of changes

Two records of a collection never have the same identifier, under either policy and whatever changes
come, as long as nothing is inserted while the last identifier is present: there is no identifier
after it. Under the policy of a counter more is true. The counter is kept beyond every identifier
that was present since the first insertion, so an identifier does not come back when its record is
gone.
-/

namespace DocStore

namespace Collection

variable {c : Collection} {n : RecordId} {change : Change} {changes : List Change}

/-! ## Distinct identifiers -/

/-- Whether nothing is inserted in a run of changes while the last identifier is present. -/
def InsertsBelowLast (c : Collection) : List Change → Prop
  | [] => True
  | change :: changes =>
    (change.isInsert = true → RecordId.last ∉ c.ids) ∧ (c.after change).InsertsBelowLast changes

instance decidableInsertsBelowLast (c : Collection) (changes : List Change) :
    Decidable (c.InsertsBelowLast changes) :=
  match changes with
  | [] => isTrue trivial
  | change :: changes =>
    have := decidableInsertsBelowLast (c.after change) changes
    inferInstanceAs (Decidable (_ ∧ _))

/-- One change keeps the identifiers distinct, unless it inserts when the last one is in use. -/
theorem nodup_ids_after (distinct : c.ids.Nodup)
    (room : change.isInsert = true → RecordId.last ∉ c.ids) : (c.after change).ids.Nodup := by
  cases change with
  | insert policy fields =>
    have fresh : (c.allocateId policy).1 ∉ c.ids := by
      rw [allocateId_mem_ids]
      exact room rfl
    rw [ids_insert, List.nodup_append]
    refine ⟨distinct, by simp, fun id mem new isNew => ?_⟩
    rw [List.mem_singleton.1 isNew]
    rintro rfl
    exact fresh mem
  | delete p => exact (c.ids_delete_sublist p).nodup distinct
  | update p patch => rwa [ids_update]

/-- Changes keep the identifiers distinct as long as none inserts when the last one is in use. -/
theorem nodup_ids_afterAll (distinct : c.ids.Nodup) (room : c.InsertsBelowLast changes) :
    (c.afterAll changes).ids.Nodup := by
  induction changes generalizing c with
  | nil => exact distinct
  | cons change changes ih => exact ih (nodup_ids_after distinct room.1) room.2

/-- From distinct identifiers every run of changes comes to distinct identifiers, as long as nothing
is inserted while the last identifier is present; and at any moment of a run, an insertion gives an
identifier that is present exactly if the last one is. -/
theorem ids_distinct_below_last (distinct : c.ids.Nodup) (changes : List Change) :
    (c.InsertsBelowLast changes → (c.afterAll changes).ids.Nodup) ∧
    ∀ policy fields,
      ((c.afterAll changes).insert policy fields).1.id ∈ (c.afterAll changes).ids ↔
        RecordId.last ∈ (c.afterAll changes).ids := by
  refine ⟨nodup_ids_afterAll distinct, fun policy fields => ?_⟩
  rw [id_insert]
  exact allocateId_mem_ids _ policy

/-- A collection just below the end of the identifiers, with a counter that is behind. -/
def nearLast : Collection :=
  ⟨none, some [⟨7, []⟩, ⟨RecordId.last - 2, []⟩], some 3, []⟩

/-- Changes that give the last identifier, delete its record, and give it again. -/
def toLastAndBack : List Change :=
  [.insert .sequence [],
    .insert .maxPlusOne [],
    .update (.byId 7) [(idField, RecordId.toJson RecordId.last), ("a", .bool true)],
    .delete (some (.byId RecordId.last)),
    .insert .maxPlusOne []]

/-- With the last identifier in use the next insertion repeats it. -/
theorem ids_distinct_below_last_nearLast :
    nearLast.ids.Nodup ∧ nearLast.InsertsBelowLast toLastAndBack ∧
      (nearLast.afterAll toLastAndBack).ids =
        [7, RecordId.last - 2, RecordId.last - 1, RecordId.last] ∧
      (nearLast.afterAll toLastAndBack).ids.Nodup ∧
      ((nearLast.afterAll toLastAndBack).insert .sequence []).1.id ∈
        (nearLast.afterAll toLastAndBack).ids := by
  have distinct : nearLast.ids.Nodup := by decide +kernel
  have room : nearLast.InsertsBelowLast toLastAndBack := by decide +kernel
  have ids : (nearLast.afterAll toLastAndBack).ids =
      [7, RecordId.last - 2, RecordId.last - 1, RecordId.last] := by decide +kernel
  obtain ⟨nodup, present⟩ := ids_distinct_below_last distinct toLastAndBack
  exact ⟨distinct, room, ids, nodup room, (present .sequence []).2 (by rw [ids]; simp)⟩

/-! ## The counter -/

/-- The identifiers that a run of changes gives, in order. -/
def issued (c : Collection) : List Change → List RecordId
  | [] => []
  | .insert policy fields :: changes =>
    (c.insert policy fields).1.id :: (c.after (.insert policy fields)).issued changes
  | change :: changes => (c.after change).issued changes

theorem issued_cons_of_not_isInsert (notInsert : change.isInsert = false) :
    c.issued (change :: changes) = (c.after change).issued changes := by
  cases change with
  | insert policy fields => cases notInsert
  | delete p => rfl
  | update p patch => rfl

/-- Whether the counter of a collection is there and beyond every identifier present. -/
structure Counts (c : Collection) (n : RecordId) : Prop where
  counter : c.nextId = some n
  beyond : ∀ id ∈ c.ids, RecordId.next id ≤ n

theorem le_allocateId_of_counter (counter : c.nextId = some n) :
    n ≤ (c.allocateId .sequence).1 := by
  simp only [allocateId, counter, Option.getD_some]
  exact Std.left_le_max

/-- Whatever the counter was, after an insertion by it it is beyond every identifier present. -/
theorem counts_insert (c : Collection) (fields : Object) :
    (c.after (.insert .sequence fields)).Counts (RecordId.next (c.allocateId .sequence).1) := by
  refine ⟨rfl, fun id mem => ?_⟩
  rw [ids_insert] at mem
  rcases List.mem_append.1 mem with old | new
  · exact UInt64.le_trans (next_le_allocateId .sequence old) (RecordId.le_next _)
  · rw [List.mem_singleton.1 new]
    exact UInt64.le_refl _

/-- Only an insertion moves the counter. -/
theorem nextId_after_of_not_isInsert (notInsert : change.isInsert = false) :
    (c.after change).nextId = c.nextId := by
  cases change with
  | insert policy fields => cases notInsert
  | delete p => cases p <;> rfl
  | update p patch => rfl

/-- One change under a counter does not move it down. -/
theorem Counts.after (counts : c.Counts n) (counted : change.isCounted = true) :
    ∃ m, n ≤ m ∧ (c.after change).Counts m := by
  rcases Change.cases_of_isCounted counted with notInsert | ⟨fields, rfl⟩
  · refine ⟨n, UInt64.le_refl n, ?_, fun id mem => ?_⟩
    · rw [nextId_after_of_not_isInsert notInsert]
      exact counts.counter
    · exact counts.beyond id (mem_ids_of_mem_after notInsert mem)
  · exact ⟨_, UInt64.le_trans (le_allocateId_of_counter counts.counter) (RecordId.le_next _),
      c.counts_insert fields⟩

/-- Changes under a counter do not move it down. -/
theorem Counts.afterAll (counts : c.Counts n)
    (counted : ∀ change ∈ changes, change.isCounted = true) :
    ∃ m, n ≤ m ∧ (c.afterAll changes).Counts m := by
  induction changes generalizing c n with
  | nil => exact ⟨n, UInt64.le_refl n, counts⟩
  | cons change changes ih =>
    obtain ⟨first, rest⟩ := List.forall_mem_cons.1 counted
    obtain ⟨k, le, next⟩ := counts.after first
    obtain ⟨m, le', last⟩ := ih next rest
    exact ⟨m, UInt64.le_trans le le', last⟩

/-- A run with an insertion in it leaves the counter beyond every identifier present. -/
theorem exists_counts_afterAll (counted : ∀ change ∈ changes, change.isCounted = true)
    (inserts : changes.any Change.isInsert = true) : ∃ m, (c.afterAll changes).Counts m := by
  induction changes generalizing c with
  | nil => cases inserts
  | cons change changes ih =>
    obtain ⟨first, rest⟩ := List.forall_mem_cons.1 counted
    rcases Change.cases_of_isCounted first with notInsert | ⟨fields, rfl⟩
    · rw [List.any_cons, notInsert, Bool.false_or] at inserts
      exact ih rest inserts
    · obtain ⟨m, -, counts⟩ := (c.counts_insert fields).afterAll rest
      exact ⟨m, counts⟩

/-! ## Identifiers are not given twice -/

/-- No identifier that is issued under a counter is below where the counter stood. -/
theorem Counts.le_issued (counts : c.Counts n)
    (counted : ∀ change ∈ changes, change.isCounted = true) :
    ∀ id ∈ c.issued changes, n ≤ id := by
  induction changes generalizing c n with
  | nil => nofun
  | cons change changes ih =>
    obtain ⟨first, rest⟩ := List.forall_mem_cons.1 counted
    obtain ⟨m, le, next⟩ := counts.after first
    have later : ∀ id ∈ (c.after change).issued changes, n ≤ id := fun id mem =>
      UInt64.le_trans le (ih next rest id mem)
    rcases Change.cases_of_isCounted first with notInsert | ⟨fields, rfl⟩
    · rwa [issued_cons_of_not_isInsert notInsert]
    · exact List.forall_mem_cons.2 ⟨le_allocateId_of_counter counts.counter, later⟩

/-- Each identifier that is given is followed by every later one. -/
theorem issued_pairwise (c : Collection) (counted : ∀ change ∈ changes, change.isCounted = true) :
    (c.issued changes).Pairwise fun id later => RecordId.next id ≤ later := by
  induction changes generalizing c with
  | nil => exact List.Pairwise.nil
  | cons change changes ih =>
    obtain ⟨first, rest⟩ := List.forall_mem_cons.1 counted
    rcases Change.cases_of_isCounted first with notInsert | ⟨fields, rfl⟩
    · rw [issued_cons_of_not_isInsert notInsert]
      exact ih _ rest
    · exact List.pairwise_cons.2 ⟨(c.counts_insert fields).le_issued rest, ih _ rest⟩

/-- Identifiers of which each is followed by every later one rise to the last one and stay there. -/
theorem exists_rising {ids : List RecordId}
    (h : ids.Pairwise fun id later => RecordId.next id ≤ later) :
    ∃ rising count, ids = rising ++ List.replicate count RecordId.last ∧
      rising.Pairwise (· < ·) ∧ ∀ id ∈ rising, id < RecordId.last := by
  induction ids with
  | nil => exact ⟨[], 0, rfl, .nil, nofun⟩
  | cons id ids ih =>
    obtain ⟨later, tail⟩ := List.pairwise_cons.1 h
    by_cases isLast : id = RecordId.last
    · -- Nothing but the last identifier follows the last one.
      refine ⟨[], ids.length + 1, ?_, .nil, nofun⟩
      have allLast : ∀ other ∈ ids, other = RecordId.last := fun other mem =>
        UInt64.le_antisymm (RecordId.le_last other) (by simpa [isLast] using later other mem)
      rw [List.nil_append, List.replicate_succ, isLast, ← List.eq_replicate_of_mem allLast]
    · obtain ⟨rising, count, rfl, increasing, below⟩ := ih tail
      have idBelow : id < RecordId.last :=
        UInt64.lt_of_le_of_ne (RecordId.le_last id) isLast
      refine ⟨id :: rising, count, rfl, List.pairwise_cons.2 ⟨fun other mem => ?_, increasing⟩,
        List.forall_mem_cons.2 ⟨idBelow, below⟩⟩
      exact RecordId.lt_of_next_le (later other (List.mem_append_left _ mem)) (below other mem)

/-- Whether a run that has come so far has made its first insertion or makes it next. -/
def Begun (before rest : List Change) : Prop :=
  before.any Change.isInsert = true ∨ rest.head?.any Change.isInsert = true

/-- What is issued after some changes is above every identifier that was there before. -/
theorem Counts.next_le_allocateId (counts : c.Counts n)
    (counted : ∀ change ∈ changes, change.isCounted = true) {id : RecordId} (mem : id ∈ c.ids) :
    RecordId.next id ≤ ((c.afterAll changes).allocateId .sequence).1 := by
  obtain ⟨m, le, countsAfter⟩ := counts.afterAll counted
  exact UInt64.le_trans (counts.beyond id mem)
    (UInt64.le_trans le (le_allocateId_of_counter countsAfter.counter))

/-- What is present once the first insertion is made or made next is followed by everything that is
given later. -/
theorem next_le_id_insert (c : Collection) {before between : List Change} {fields : Object}
    (counted : ∀ change ∈ before ++ between, change.isCounted = true)
    (begun : Begun before (between ++ [.insert .sequence fields])) {id : RecordId}
    (mem : id ∈ (c.afterAll before).ids) :
    RecordId.next id ≤ ((c.afterAll (before ++ between)).insert .sequence fields).1.id := by
  obtain ⟨countedBefore, countedBetween⟩ := List.forall_mem_append.1 counted
  rw [id_insert, afterAll_append]
  rcases begun with inserted | inserts
  · obtain ⟨n, counts⟩ := exists_counts_afterAll (c := c) countedBefore inserted
    exact counts.next_le_allocateId countedBetween mem
  · cases between with
    | nil => exact next_le_allocateId .sequence mem
    | cons change between =>
      obtain ⟨first, rest⟩ := List.forall_mem_cons.1 countedBetween
      rcases Change.cases_of_isCounted first with notInsert | ⟨given, rfl⟩
      · cases notInsert.symm.trans inserts
      · -- The first insertion keeps what is present, and takes the counter beyond it.
        have kept : id ∈ ((c.afterAll before).after (.insert .sequence given)).ids := by
          rw [ids_insert]
          exact List.mem_append_left _ mem
        exact ((c.afterAll before).counts_insert given).next_le_allocateId rest kept

/-- The identifiers that a run gives by the counter rise until the last one is given, and then only
the last one is given. An identifier before the last one is greater than every identifier that was
present when the first insertion of the run was made, or at any moment after that. -/
theorem counter_never_repeats (c : Collection)
    (counted : ∀ change ∈ changes, change.isCounted = true) :
    (∃ rising count, c.issued changes = rising ++ List.replicate count RecordId.last ∧
      rising.Pairwise (· < ·) ∧ ∀ id ∈ rising, id < RecordId.last) ∧
    ∀ before between fields rest,
      changes = before ++ between ++ .insert .sequence fields :: rest →
      Begun before (between ++ [.insert .sequence fields]) →
      ((c.afterAll (before ++ between)).insert .sequence fields).1.id < RecordId.last →
      ∀ id ∈ (c.afterAll before).ids,
        id < ((c.afterAll (before ++ between)).insert .sequence fields).1.id := by
  refine ⟨exists_rising (c.issued_pairwise counted), ?_⟩
  rintro before between fields rest rfl begun below id mem
  have countedSoFar := (List.forall_mem_append.1 counted).1
  exact RecordId.lt_of_next_le (c.next_le_id_insert countedSoFar begun mem) below

/-- The counter rises to the last identifier, which is issued again after that. -/
theorem counter_never_repeats_nearLast :
    let changes : List Change :=
      [.delete (some (.byId 7)), .insert .sequence [], .delete none, .insert .sequence [],
        .insert .sequence []]
    nearLast.issued changes = [RecordId.last - 1, RecordId.last, RecordId.last] ∧
      (∃ rising count, nearLast.issued changes = rising ++ List.replicate count RecordId.last ∧
        rising.Pairwise (· < ·) ∧ ∀ id ∈ rising, id < RecordId.last) ∧
      RecordId.last - 2 < ((nearLast.afterAll [.delete (some (.byId 7))]).insert .sequence []).1.id := by
  intro changes
  have counted : ∀ change ∈ changes, change.isCounted = true := by decide
  obtain ⟨rising, greater⟩ := counter_never_repeats nearLast counted
  refine ⟨by decide +kernel, rising, ?_⟩
  exact greater [.delete (some (.byId 7))] [] [] _ rfl (.inr rfl) (by decide +kernel) _
    (by decide +kernel)

end Collection

end DocStore
