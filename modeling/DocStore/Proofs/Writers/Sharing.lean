-- SUMMARY: Handles in use hold the same writer exactly if their paths have the same route, and the notes that count are those of such routes.
import DocStore.Proofs.Writers
import Mathlib.Data.List.Nodup

/-!
# Which handles share a writer

Which handles are in use, and for which path each was obtained, follows from what happened to them; the
table has no part in that. The table only has to give out writers so that two handles hold the same one
exactly if their paths have the same route, although it drops notes while it is asked for other paths.

A table has one note for each route, and each note is of a writer of its own. The note that a new
writer is made for therefore goes behind all others, and a writer that is held counts for the route of
whoever holds it and for no other.
-/

namespace DocStore.Writers

variable {w : Writers} {path : Path}

/-! ## Handles without their writers -/

/-- The handles in use, each with the path that it was obtained for, and the number of the next one. -/
structure Uses where
  inUse : List (Nat × Path)
  next : Nat

namespace Uses

/-- One more handle is in use for a path. -/
def add (u : Uses) (path : Path) : Uses :=
  ⟨(u.next, path) :: u.inUse, u.next + 1⟩

/-- What is in use after an event. A copy is for the path of the handle that is copied. -/
def after (u : Uses) : Event → Uses
  | .obtain path => u.add path
  | .share handle => ((Assoc.get? handle u.inUse).map u.add).getD u
  | .release handle => { u with inUse := Assoc.erase handle u.inUse }

/-- What is in use after a sequence of events. -/
def afterAll (u : Uses) (events : List Event) : Uses :=
  events.foldl after u

end Uses

/-- The handles in use after a sequence of events, where there were none before. -/
def inUse (events : List Event) : List (Nat × Path) :=
  (Uses.afterAll ⟨[], 0⟩ events).inUse

/-- What is in use, whatever writers are held. -/
def uses (w : Writers) : Uses :=
  ⟨w.handles.map fun entry => (entry.1, entry.2.path), w.nextHandle⟩

def writerOf? (w : Writers) (handle : Nat) : Option Writer :=
  (Assoc.get? handle w.handles).map Holding.writer

theorem uses_addHandle (w : Writers) (holding : Holding) :
    (w.addHandle holding).2.uses = w.uses.add holding.path := rfl

theorem uses_obtain (w : Writers) (path : Path) : (w.obtain path).2.uses = w.uses.add path := by
  unfold obtain
  cases w.current? path with
  | some writer => exact w.uses_addHandle ⟨path, writer⟩
  | none => rfl

theorem uses_after (w : Writers) (event : Event) : (w.after event).uses = w.uses.after event := by
  cases event with
  | obtain path => exact w.uses_obtain path
  | share handle =>
    have found : Assoc.get? handle w.uses.inUse = (Assoc.get? handle w.handles).map Holding.path :=
      Assoc.get?_map Holding.path handle w.handles
    simp only [after, share, Uses.after, found]
    cases Assoc.get? handle w.handles with
    | none => rfl
    | some holding => exact w.uses_addHandle holding
  | release handle =>
    exact congrArg (Uses.mk · w.nextHandle) (Assoc.erase_map Holding.path handle w.handles).symm

theorem uses_afterAll (w : Writers) (events : List Event) :
    (w.afterAll events).uses = w.uses.afterAll events := by
  induction events generalizing w with
  | nil => rfl
  | cons event events ih =>
    change ((w.after event).afterAll events).uses = (w.uses.after event).afterAll events
    rw [ih, uses_after]

/-! ## Handles, routes and writers are told apart -/

/-- Whether no two handles have one number, no two notes are of one route or of one writer, and a new
writer gets a new number. -/
structure Distinct (w : Writers) : Prop where
  handles : (Assoc.keys w.handles).Nodup
  routes : (Assoc.keys w.notes).Nodup
  writers : (w.notes.map Prod.snd).Nodup
  made : ∀ note ∈ w.notes, note.2 < w.nextWriter

theorem distinct_empty : empty.Distinct :=
  ⟨List.nodup_nil, List.nodup_nil, List.nodup_nil, nofun⟩

theorem Distinct.addHandle (distinct : w.Distinct) (coherent : w.Coherent) (holding : Holding) :
    (w.addHandle holding).2.Distinct := by
  refine ⟨List.nodup_cons.2 ⟨?_, distinct.handles⟩, distinct.routes, distinct.writers, distinct.made⟩
  intro mem
  obtain ⟨entry, old, same⟩ := List.mem_map.1 mem
  exact Nat.ne_of_lt (coherent.fresh entry old) same

/-- The route of a path without a writer has no note once those that do not count are dropped. -/
theorem Distinct.route_not_mem_prune (distinct : w.Distinct) (unused : w.current? path = none) :
    path.route ∉ Assoc.keys w.prune.notes := by
  intro mem
  obtain ⟨⟨_, writer⟩, kept, rfl⟩ := List.mem_map.1 mem
  obtain ⟨noted, held⟩ := List.mem_filter.1 kept
  have found : w.current? path = some writer := by
    rw [current?, (Assoc.get?_eq_some_iff distinct.routes).2 noted, Option.filter_some, if_pos held]
  cases unused.symm.trans found

/-- The note of a new writer goes behind those that count. -/
theorem Distinct.notes_noteNew (distinct : w.Distinct) (unused : w.current? path = none) :
    (w.prune.noteNew path).2.notes = w.prune.notes ++ [(path.route, w.nextWriter)] :=
  Assoc.set_of_not_mem (distinct.route_not_mem_prune unused) w.nextWriter

/-- Writers of different paths stay apart when one is made for a path that has none. -/
theorem Distinct.noteNew (distinct : w.Distinct) (unused : w.current? path = none) :
    (w.prune.noteNew path).2.Distinct := by
  have older : ∀ note ∈ w.prune.notes, note.2 < w.nextWriter :=
    fun note mem => distinct.made note (List.mem_filter.1 mem).1
  have fewer : w.prune.notes.Sublist w.notes := List.filter_sublist
  refine ⟨distinct.handles, ?_, ?_, ?_⟩
  · exact Assoc.nodup_keys_set (distinct.routes.sublist (fewer.map Prod.fst))
  · rw [distinct.notes_noteNew unused, List.map_append, List.map_singleton, List.nodup_append_comm]
    refine List.nodup_cons.2 ⟨fun mem => ?_, distinct.writers.sublist (fewer.map Prod.snd)⟩
    obtain ⟨note, old, same⟩ := List.mem_map.1 mem
    exact Nat.ne_of_lt (older note old) same
  · intro note mem
    rcases Assoc.mem_set mem with rfl | old
    · exact Nat.lt_succ_self _
    · exact Nat.lt_succ_of_lt (older note old)

theorem Distinct.obtain (distinct : w.Distinct) (coherent : w.Coherent) (path : Path) :
    (w.obtain path).2.Distinct := by
  unfold Writers.obtain
  split
  · exact distinct.addHandle coherent _
  · rename_i unused
    exact (distinct.noteNew unused).addHandle (coherent.noteNew unused) _

/-- Every event keeps the writers of different paths apart. -/
theorem Distinct.after (distinct : w.Distinct) (coherent : w.Coherent) (event : Event) :
    (w.after event).Distinct := by
  cases event with
  | obtain path => exact distinct.obtain coherent path
  | share handle =>
    simp only [Writers.after, share]
    cases Assoc.get? handle w.handles with
    | none => exact distinct
    | some holding => exact distinct.addHandle coherent holding
  | release handle =>
    exact ⟨Assoc.nodup_keys_erase distinct.handles, distinct.routes, distinct.writers, distinct.made⟩

/-- Whatever happens, the table knows the writer of every handle, and all is told apart. -/
theorem coherent_and_distinct_afterAll (coherent : w.Coherent) (distinct : w.Distinct)
    (events : List Event) : (w.afterAll events).Coherent ∧ (w.afterAll events).Distinct := by
  induction events generalizing w with
  | nil => exact ⟨coherent, distinct⟩
  | cons event events ih => exact ih (coherent.after event) (distinct.after coherent event)

/-! ## Notes that count -/

theorem mem_inUse_uses {handle : Nat} :
    (handle, path) ∈ w.uses.inUse ↔ ∃ writer, (handle, ⟨path, writer⟩) ∈ w.handles := by
  constructor
  · intro mem
    obtain ⟨⟨_, _, writer⟩, held, same⟩ := List.mem_map.1 mem
    cases same
    exact ⟨writer, held⟩
  · rintro ⟨writer, held⟩
    exact List.mem_map.2 ⟨_, held, rfl⟩

theorem Distinct.get? (distinct : w.Distinct) {entry : Nat × Holding} (mem : entry ∈ w.handles) :
    Assoc.get? entry.1 w.handles = some entry.2 :=
  (Assoc.get?_eq_some_iff distinct.handles).2 mem

theorem Distinct.writerOf? (distinct : w.Distinct) {entry : Nat × Holding} (mem : entry ∈ w.handles) :
    w.writerOf? entry.1 = some entry.2.writer :=
  congrArg (Option.map Holding.writer) (distinct.get? mem)

/-- A new handle leaves the writers held that were. -/
theorem isHeld_addHandle (w : Writers) (holding : Holding) (writer : Writer) :
    (w.addHandle holding).2.isHeld writer = (holding.writer == writer || w.isHeld writer) := rfl

theorem Coherent.mem_notes (coherent : w.Coherent) {entry : Nat × Holding} (mem : entry ∈ w.handles) :
    (entry.2.path.route, entry.2.writer) ∈ w.notes :=
  Assoc.mem_of_get? (coherent.noted entry mem)

/-- Dropping notes that do not count leaves those of the handles. -/
theorem Coherent.mem_prune (coherent : w.Coherent) {entry : Nat × Holding} (mem : entry ∈ w.handles) :
    (entry.2.path.route, entry.2.writer) ∈ w.prune.notes :=
  List.mem_filter.2 ⟨coherent.mem_notes mem, isHeld_of_mem mem⟩

/-- The writer of a note tells it from all others. -/
theorem Distinct.note_eq (distinct : w.Distinct) {note other : Route × Writer} (mem : note ∈ w.notes)
    (otherMem : other ∈ w.notes) (same : note.2 = other.2) : note = other :=
  List.inj_on_of_nodup_map distinct.writers mem otherMem same

/-- Two handles hold the same writer exactly if their paths have the same route. -/
theorem Distinct.writer_eq_iff (distinct : w.Distinct) (coherent : w.Coherent)
    {entry other : Nat × Holding} (mem : entry ∈ w.handles) (otherMem : other ∈ w.handles) :
    entry.2.writer = other.2.writer ↔ entry.2.path.route = other.2.path.route := by
  constructor
  · intro same
    have notes := distinct.note_eq (coherent.mem_notes mem) (coherent.mem_notes otherMem) same
    exact congrArg Prod.fst notes
  · exact coherent.writer_eq (distinct.get? mem) (distinct.get? otherMem)

/-- A note counts exactly if a handle for its route holds its writer. -/
theorem Distinct.counts_iff (distinct : w.Distinct) (coherent : w.Coherent) {route : Route}
    {writer : Writer} : (route, writer) ∈ w.notes ∧ w.isHeld writer = true ↔
      ∃ entry ∈ w.handles, entry.2.path.route = route ∧ entry.2.writer = writer := by
  constructor
  · rintro ⟨noted, held⟩
    obtain ⟨entry, mem, same⟩ := List.any_eq_true.1 held
    obtain rfl : entry.2.writer = writer := eq_of_beq same
    have notes := distinct.note_eq (coherent.mem_notes mem) noted rfl
    exact ⟨entry, mem, congrArg Prod.fst notes, rfl⟩
  · rintro ⟨entry, mem, rfl, rfl⟩
    exact ⟨coherent.mem_notes mem, isHeld_of_mem mem⟩

/-! ## Notes that do not count -/

/-- Whether an event asks for a writer that the table does not have. -/
def Misses (w : Writers) : Event → Prop
  | .obtain path => w.current? path = none
  | .share _ => False
  | .release _ => False

/-- The notes stay as they are, counting or not, until the table is asked for a writer that it does
not have. -/
theorem notes_after_of_not_misses {event : Event} (hit : ¬ w.Misses event) :
    (w.after event).notes = w.notes := by
  cases event with
  | obtain path =>
    obtain ⟨writer, found⟩ := Option.ne_none_iff_exists'.1 hit
    simp only [after, obtain, found]
    rfl
  | share handle =>
    simp only [after, share]
    cases Assoc.get? handle w.handles <;> rfl
  | release handle => rfl

/-- Once the table was asked for a writer that it did not have, all its notes count. -/
theorem Distinct.isHeld_after_of_misses (distinct : w.Distinct) {event : Event}
    (missed : w.Misses event) {note : Route × Writer} (mem : note ∈ (w.after event).notes) :
    (w.after event).isHeld note.2 = true := by
  cases event with
  | obtain path =>
    simp only [Writers.after, Writers.obtain, show w.current? path = none from missed] at mem ⊢
    change note ∈ (w.prune.noteNew path).2.notes at mem
    rw [distinct.notes_noteNew missed] at mem
    rw [isHeld_addHandle, Bool.or_eq_true]
    rcases List.mem_append.1 mem with old | new
    · exact .inr (List.mem_filter.1 old).2
    · rw [List.mem_singleton.1 new]
      exact .inl (beq_self_eq_true _)
  | share _ => exact missed.elim
  | release _ => exact missed.elim

/-! ## Every sequence of events -/

/-- Handles of whatever paths are made, copied and given up, in any order. At every moment two handles
in use hold the same writer exactly if their paths have the same route; the notes that count are those
of the routes that have a handle in use, each of the writer which the handle holds; and the table has
them still when those that do not count are dropped. That happens whenever it is asked for a writer
that it does not have, and no other event changes a note. -/
theorem shared_exactly_by_route (events : List Event) :
    let w := empty.afterAll events
    (∀ handle path, (handle, path) ∈ inUse events →
      ∃ writer, w.writerOf? handle = some writer ∧ (path.route, writer) ∈ w.prune.notes) ∧
    (∀ handle path other otherPath,
      (handle, path) ∈ inUse events → (other, otherPath) ∈ inUse events →
      (w.writerOf? handle = w.writerOf? other ↔ path.route = otherPath.route)) ∧
    (∀ route writer, (route, writer) ∈ w.notes ∧ w.isHeld writer = true ↔
      ∃ handle path, (handle, path) ∈ inUse events ∧ path.route = route ∧
        w.writerOf? handle = some writer) ∧
    (∀ event, ¬ w.Misses event → (w.after event).notes = w.notes) ∧
    ∀ event, w.Misses event →
      ∀ note ∈ (w.after event).notes, (w.after event).isHeld note.2 = true := by
  intro w
  obtain ⟨coherent, distinct⟩ := coherent_and_distinct_afterAll coherent_empty distinct_empty events
  have used : inUse events = w.uses.inUse := congrArg Uses.inUse (uses_afterAll empty events).symm
  simp only [used, mem_inUse_uses]
  refine ⟨?_, ?_, ?_, ?_, ?_⟩
  · rintro handle path ⟨writer, mem⟩
    exact ⟨writer, distinct.writerOf? mem, coherent.mem_prune mem⟩
  · rintro handle path other otherPath ⟨writer, mem⟩ ⟨otherWriter, otherMem⟩
    rw [distinct.writerOf? mem, distinct.writerOf? otherMem, Option.some.injEq]
    exact distinct.writer_eq_iff coherent mem otherMem
  · intro route writer
    rw [distinct.counts_iff coherent]
    constructor
    · rintro ⟨⟨handle, path, _⟩, mem, sameRoute, rfl⟩
      exact ⟨handle, path, ⟨_, mem⟩, sameRoute, distinct.writerOf? mem⟩
    · rintro ⟨handle, path, ⟨held, mem⟩, sameRoute, holds⟩
      exact ⟨_, mem, sameRoute, Option.some.inj ((distinct.writerOf? mem).symm.trans holds)⟩
  · exact fun event hit => notes_after_of_not_misses hit
  · exact fun event missed note mem => distinct.isHeld_after_of_misses missed mem

/-- A path written in two ways, with handles that are copied and given up meanwhile, beside a path
whose only handle is given up: its note stays until a third path is asked for. -/
theorem shared_exactly_by_route_rewritten :
    let written : Path := ⟨["data", "db.json"]⟩
    let rewritten : Path := ⟨["data", "", ".", "db.json"]⟩
    let other : Path := ⟨["other.json"]⟩
    let third : Path := ⟨["third.json"]⟩
    let w := empty.afterAll
      [.obtain written, .share 0, .obtain other, .release 0, .release 2, .obtain rewritten]
    w.writerOf? 1 = w.writerOf? 3 ∧
    (other.route, 1) ∈ (w.after (.share 1)).notes ∧ w.isHeld 1 = false ∧
    ∀ note ∈ (w.after (.obtain third)).notes, (w.after (.obtain third)).isHeld note.2 = true := by
  intro written rewritten other third w
  obtain ⟨-, shared, -, unchanged, pruned⟩ := shared_exactly_by_route
    [.obtain written, .share 0, .obtain other, .release 0, .release 2, .obtain rewritten]
  have same := shared 1 written 3 rewritten (by decide) (by decide)
  refine ⟨same.2 (by decide), ?_, by decide, pruned (.obtain third) ?_⟩
  · rw [unchanged (.share 1) id]
    decide
  · change w.current? third = none
    decide

end DocStore.Writers
