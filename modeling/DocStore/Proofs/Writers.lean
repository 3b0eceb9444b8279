-- SUMMARY: The handles of one path in use always hold the same writer, whatever comes and goes.
import DocStore.Proofs.Assoc
import DocStore.Writers

/-!
# Handles of one path hold one writer

The table does not keep a writer in use, and it drops notes when it is asked for other paths. Still,
as long as some handle holds the writer of a path, the note of that path stays and counts, so every
handle that is made for the path gets the same writer.
-/

namespace DocStore.Writers

variable {w : Writers} {path : Path} {handle : Nat} {holding : Holding}

/-- Whether the table knows the writer of every handle in use, and a new handle gets a new number. -/
structure Coherent (w : Writers) : Prop where
  noted : ∀ entry ∈ w.handles, Assoc.get? entry.2.path.route w.notes = some entry.2.writer
  fresh : ∀ entry ∈ w.handles, entry.1 < w.nextHandle

theorem coherent_empty : empty.Coherent :=
  ⟨nofun, nofun⟩

/-- Two handles of one path, in whatever way it is written, hold the same writer. -/
theorem Coherent.writer_eq (coherent : w.Coherent) {other : Nat} {otherHolding : Holding}
    (here : Assoc.get? handle w.handles = some holding)
    (there : Assoc.get? other w.handles = some otherHolding)
    (same : holding.path.route = otherHolding.path.route) : holding.writer = otherHolding.writer := by
  have note := coherent.noted _ (Assoc.mem_of_get? here)
  have otherNote := coherent.noted _ (Assoc.mem_of_get? there)
  simp only [same, otherNote] at note
  exact (Option.some.inj note).symm

theorem isHeld_of_mem {entry : Nat × Holding} (mem : entry ∈ w.handles) :
    w.isHeld entry.2.writer = true :=
  List.any_eq_true.2 ⟨entry, mem, by simp⟩

theorem current?_eq_some {writer : Writer} (h : w.current? path = some writer) :
    Assoc.get? path.route w.notes = some writer :=
  (Option.filter_eq_some_iff.1 h).1

/-- The writer of a path is found as long as a handle of the path is in use. -/
theorem Coherent.current? (coherent : w.Coherent) {entry : Nat × Holding} (mem : entry ∈ w.handles) :
    w.current? entry.2.path = some entry.2.writer := by
  rw [Writers.current?, coherent.noted entry mem]
  simp [isHeld_of_mem mem]

/-! ## What happens to handles -/

theorem Coherent.addHandle (coherent : w.Coherent)
    (noted : Assoc.get? holding.path.route w.notes = some holding.writer) :
    (w.addHandle holding).2.Coherent := by
  constructor
  · intro entry mem
    rcases List.mem_cons.1 mem with rfl | old
    · exact noted
    · exact coherent.noted entry old
  · intro entry mem
    rcases List.mem_cons.1 mem with rfl | old
    · exact Nat.lt_succ_self _
    · exact Nat.lt_succ_of_lt (coherent.fresh entry old)

/-- Noting a new writer for a path without handles keeps the writers of the handles there are. -/
theorem Coherent.noteNew (coherent : w.Coherent) (unused : w.current? path = none) :
    (w.prune.noteNew path).2.Coherent := by
  refine ⟨fun entry mem => ?_, coherent.fresh⟩
  have other : entry.2.path.route ≠ path.route := by
    intro same
    have used := coherent.current? mem
    rw [Writers.current?, same] at used
    cases unused.symm.trans used
  have kept : Assoc.get? entry.2.path.route w.prune.notes = some entry.2.writer :=
    Assoc.get?_filter (coherent.noted entry mem) (isHeld_of_mem mem)
  exact (Assoc.get?_set_of_ne other _ _).trans kept

/-- Looking up the writer of a path keeps the table coherent. -/
theorem Coherent.obtain (coherent : w.Coherent) (path : Path) : (w.obtain path).2.Coherent := by
  unfold Writers.obtain
  split
  · rename_i writer found
    exact coherent.addHandle (current?_eq_some found)
  · rename_i unused
    exact (coherent.noteNew unused).addHandle (Assoc.get?_set_self _ _ _)

/-- Every event keeps the table coherent. -/
theorem Coherent.after (coherent : w.Coherent) (event : Event) : (w.after event).Coherent := by
  cases event with
  | obtain path => exact coherent.obtain path
  | share handle =>
    simp only [Writers.after, share]
    cases found : Assoc.get? handle w.handles with
    | none => exact coherent
    | some holding => exact coherent.addHandle (coherent.noted _ (Assoc.mem_of_get? found))
  | release handle =>
    constructor
    · intro entry mem
      exact coherent.noted entry (List.mem_filter.1 mem).1
    · intro entry mem
      exact coherent.fresh entry (List.mem_filter.1 mem).1

/-! ## Handles stay what they are -/

theorem Coherent.get?_addHandle (coherent : w.Coherent) (new : Holding)
    (h : Assoc.get? handle w.handles = some holding) :
    Assoc.get? handle (w.addHandle new).2.handles = some holding := by
  have older : handle < w.nextHandle := coherent.fresh _ (Assoc.mem_of_get? h)
  exact (if_neg (Nat.ne_of_gt older)).trans h

/-- A new handle for a path is in use and of that path. -/
theorem get?_obtain (w : Writers) (path : Path) :
    ∃ writer, Assoc.get? (w.obtain path).1 (w.obtain path).2.handles = some ⟨path, writer⟩ := by
  unfold Writers.obtain
  split
  · exact ⟨_, if_pos rfl⟩
  · exact ⟨_, if_pos rfl⟩

theorem Coherent.get?_obtain (coherent : w.Coherent) (path : Path)
    (h : Assoc.get? handle w.handles = some holding) :
    Assoc.get? handle (w.obtain path).2.handles = some holding := by
  unfold Writers.obtain
  split
  · exact coherent.get?_addHandle _ h
  · rename_i unused
    exact (coherent.noteNew unused).get?_addHandle _ h

/-- A handle holds what it holds until it is released. -/
theorem Coherent.get?_after (coherent : w.Coherent) {event : Event}
    (kept : event ≠ .release handle) (h : Assoc.get? handle w.handles = some holding) :
    Assoc.get? handle (w.after event).handles = some holding := by
  cases event with
  | obtain path => exact coherent.get?_obtain path h
  | share other =>
    simp only [Writers.after, share]
    cases Assoc.get? other w.handles with
    | none => exact h
    | some new => exact coherent.get?_addHandle new h
  | release other =>
    have different : handle ≠ other := by
      rintro rfl
      exact kept rfl
    exact (Assoc.get?_erase_of_ne different w.handles).trans h

end DocStore.Writers
