-- SUMMARY: Operations on one file that take turns come to the same as one after another, in the order of their turns.
import DocStore.Proofs.Database.Readable
import DocStore.Proofs.Database.Refinement
import DocStore.Proofs.Process.Stage
import DocStore.Proofs.Writers
import Mathlib.Data.List.Nodup
import Mathlib.Logic.Function.Basic
import Mathlib.Logic.Relation

/-!
# Operations that take turns

Any number of operations on one database file go on at the same time, through any handles, and
handles come and go. An operation asks for the writer of its handle and waits until nobody has it. All
handles of the file hold the same writer, so between the moment an operation gets it and the moment it
gives it back no other operation touches the file. What the operations come to is therefore what they
come to one after another, in the order in which they got the writer.
-/

namespace DocStore

/-! ## A process -/

/-- Where an operation is. -/
inductive Phase where
  | idle
  /-- It has passed what is checked before it has a handle. -/
  | accepted
  | waiting (handle : Nat)
  /-- It has the writer of its handle. -/
  | inside (handle : Nat) (stage : Stage)
  | ended (result : Except Error Reply)

/-- The handle that an operation is using. -/
def Phase.handle? : Phase → Option Nat
  | .waiting handle => some handle
  | .inside handle _ => some handle
  | _ => none

/-- A program with its handles and operations. -/
structure Process where
  fs : FileSystem
  writers : Writers
  /-- The writers that an operation has. -/
  taken : List Writer
  phase : Nat → Phase
  /-- The operations that have got the writer so far, in the order in which they got it. -/
  order : List Nat

namespace Process

/-- Nothing has happened yet. -/
def start (fs : FileSystem) : Process := ⟨fs, .empty, [], fun _ => .idle, []⟩

/-- An operation comes to a phase. -/
def set (s : Process) (i : Nat) (phase : Phase) : Process :=
  { s with phase := Function.update s.phase i phase }

/-- Whether a handle is in use and of a path. -/
def HasHandle (s : Process) (path : Path) (handle : Nat) : Prop :=
  ∃ writer, Assoc.get? handle s.writers.handles = some ⟨path, writer⟩

/-- Whether no operation has the writer. -/
def Quiet (s : Process) : Prop :=
  ∀ i handle stage, s.phase i ≠ .inside handle stage

/-- What can happen next, where all operations are on the file at a path. -/
inductive Step (path : Path) (work : Nat → Work) : Process → Process → Prop
  | refuse {s : Process} {i : Nat} {error : Error} (idle : s.phase i = .idle)
      (refused : (work i).refusal? path s.fs = some error) :
      Step path work s (s.set i (.ended (.error error)))
  | accept {s : Process} {i : Nat} (idle : s.phase i = .idle)
      (accepted : (work i).refusal? path s.fs = none) : Step path work s (s.set i .accepted)
  /-- An operation that makes a handle looks up the writer of the path. -/
  | lookUp {s : Process} {i : Nat} (accepted : s.phase i = .accepted)
      (makes : (work i).makesHandle = true) :
      Step path work s
        { s.set i (.waiting (s.writers.obtain path).1) with writers := (s.writers.obtain path).2 }
  | borrow {s : Process} {i handle : Nat} (accepted : s.phase i = .accepted)
      (makes : (work i).makesHandle = false) (has : s.HasHandle path handle) :
      Step path work s (s.set i (.waiting handle))
  /-- The writer of a handle is got when nobody has it. -/
  | acquire {s : Process} {i handle : Nat} {holding : Holding}
      (waiting : s.phase i = .waiting handle)
      (holds : Assoc.get? handle s.writers.handles = some holding)
      (free : holding.writer ∉ s.taken) :
      Step path work s
        { s.set i (.inside handle (.entered ((work i).turn path))) with
          taken := holding.writer :: s.taken
          order := s.order ++ [i] }
  | advance {s : Process} {i handle : Nat} {stage : Stage} (inside : s.phase i = .inside handle stage) :
      Step path work s
        { s.set i (.inside handle (stage.advance ((work i).database path) s.fs).1) with
          fs := (stage.advance ((work i).database path) s.fs).2 }
  | leave {s : Process} {i handle : Nat} {holding : Holding} {result : Except Error Reply}
      (inside : s.phase i = .inside handle (.finished result))
      (holds : Assoc.get? handle s.writers.handles = some holding) :
      Step path work s
        { s.set i (.ended result) with taken := s.taken.erase holding.writer }
  /-- Handles of any path are made, copied and given up; not one that an operation is using. -/
  | handles {s : Process} (event : Writers.Event)
      (unused : ∀ handle, event = .release handle → ∀ i, (s.phase i).handle? ≠ some handle) :
      Step path work s { s with writers := s.writers.after event }

/-- What a process can come to from another. -/
abbrev Reaches (path : Path) (work : Nat → Work) : Process → Process → Prop :=
  Relation.ReflTransGen (Step path work)

end Process

/-- Operations one after another. -/
def Work.serially : List Work → FileSystem → List (Except Error Reply) × FileSystem
  | [], fs => ([], fs)
  | work :: works, fs =>
    let (result, fs) := work.run.runOn fs
    let (results, fs) := serially works fs
    (result :: results, fs)

theorem Work.serially_concat (works : List Work) (work : Work) (fs : FileSystem) :
    serially (works ++ [work]) fs =
      ((serially works fs).1 ++ [(work.run.runOn (serially works fs).2).1],
        (work.run.runOn (serially works fs).2).2) := by
  induction works generalizing fs with
  | nil => rfl
  | cons first works ih => simp only [List.cons_append, serially, ih]

namespace Process

variable {path : Path} {work : Nat → Work} {fs₀ : FileSystem} {s s' : Process} {i : Nat} {phase : Phase}

@[simp] theorem phase_set_self (s : Process) (i : Nat) (phase : Phase) : (s.set i phase).phase i = phase :=
  Function.update_self ..

theorem phase_set_of_ne {j : Nat} (other : j ≠ i) (s : Process) (phase : Phase) :
    (s.set i phase).phase j = s.phase j :=
  Function.update_of_ne other ..

/-! ## The invariant -/

/-- What some of the operations come to, one after another. -/
def outcome (work : Nat → Work) (fs₀ : FileSystem) (done : List Nat) :
    List (Except Error Reply) × FileSystem :=
  Work.serially (done.map work) fs₀

/-- Whether some of the operations have ended with the results that they have one after another. -/
def Settled (work : Nat → Work) (fs₀ : FileSystem) (s : Process) (done : List Nat) : Prop :=
  done.map s.phase = (outcome work fs₀ done).1.map .ended

/-- Whether an operation has a result by itself, after some of those that got the writer, and changes
nothing there. -/
def WouldBe (work : Nat → Work) (fs₀ : FileSystem) (s : Process) (i : Nat)
    (result : Except Error Reply) : Prop :=
  ∃ before, before <+: s.order ∧
    (work i).run.runOn (outcome work fs₀ before).2 = (result, (outcome work fs₀ before).2)

/-- What holds of one operation, by its phase. -/
def Accounted (path : Path) (work : Nat → Work) (fs₀ : FileSystem) (s : Process) (i : Nat) :
    Phase → Prop
  | .idle => i ∉ s.order
  | .accepted => i ∉ s.order ∧ (work i).refusal? path s.fs = none
  | .waiting handle =>
    i ∉ s.order ∧ (work i).refusal? path s.fs = none ∧ s.HasHandle path handle
  | .inside _ _ => i ∈ s.order
  | .ended result => i ∉ s.order → WouldBe work fs₀ s i result

/-- What holds while an operation has the writer: it got the writer last, and what is left of it to do
makes of the file what all of it makes of the file that the others left. -/
structure Underway (path : Path) (work : Nat → Work) (fs₀ : FileSystem) (s : Process)
    (before : List Nat) (i handle : Nat) (stage : Stage) (writer : Writer) : Prop where
  order : s.order = before ++ [i]
  settled : Settled work fs₀ s before
  inside : s.phase i = .inside handle stage
  holds : Assoc.get? handle s.writers.handles = some ⟨path, writer⟩
  taken : s.taken = [writer]
  rest : (stage.rest ((work i).database path)).runOn s.fs =
    (work i).run.runOn (outcome work fs₀ before).2
  isFile : (outcome work fs₀ before).2.isFile path = true → s.fs.isFile path = true

/-- Who has the writer, and how far the operations have come with the file. -/
inductive Writing (path : Path) (work : Nat → Work) (fs₀ : FileSystem) (s : Process) : Prop
  | nobody (free : s.taken = []) (settled : Settled work fs₀ s s.order)
      (fs : s.fs = (outcome work fs₀ s.order).2)
  | one {before : List Nat} {i handle : Nat} {stage : Stage} {writer : Writer}
      (underway : Underway path work fs₀ s before i handle stage writer)

/-- What holds of a process at every moment. -/
structure Serial (path : Path) (work : Nat → Work) (fs₀ : FileSystem) (s : Process) : Prop where
  coherent : s.writers.Coherent
  nodup : s.order.Nodup
  accounted : ∀ i, Accounted path work fs₀ s i (s.phase i)
  writing : Writing path work fs₀ s

/-- Before anything has happened nothing is out of order. -/
theorem serial_start (path : Path) (work : Nat → Work) (fs : FileSystem) :
    Serial path work fs (start fs) where
  coherent := Writers.coherent_empty
  nodup := List.nodup_nil
  accounted _ := List.not_mem_nil
  writing := .nobody rfl rfl rfl

theorem Settled.ended {done : List Nat} (settled : Settled work fs₀ s done) (mem : i ∈ done) :
    ∃ result, s.phase i = .ended result := by
  have mapped : s.phase i ∈ (outcome work fs₀ done).1.map .ended := settled ▸ List.mem_map_of_mem mem
  obtain ⟨result, _, same⟩ := List.mem_map.1 mapped
  exact ⟨result, same.symm⟩

theorem Settled.of_set {done : List Nat} (settled : Settled work fs₀ s done)
    (moved : s'.phase = (s.set i phase).phase) (other : i ∉ done) : Settled work fs₀ s' done := by
  rw [Settled, moved, ← settled]
  exact List.map_congr_left fun j mem => phase_set_of_ne (ne_of_mem_of_not_mem mem other) s phase

/-- An operation more adds its result, from the state in which the others end. -/
theorem outcome_concat {before : List Nat} {result : Except Error Reply} {fs : FileSystem}
    (run : (work i).run.runOn (outcome work fs₀ before).2 = (result, fs)) :
    outcome work fs₀ (before ++ [i]) = ((outcome work fs₀ before).1 ++ [result], fs) := by
  rw [outcome, List.map_append, List.map_singleton, Work.serially_concat]
  exact congrArg (fun ran => ((outcome work fs₀ before).1 ++ [ran.1], ran.2)) run

theorem Settled.concat {before : List Nat} {result : Except Error Reply} {fs : FileSystem}
    (settled : Settled work fs₀ s before) (ended : s.phase i = .ended result)
    (run : (work i).run.runOn (outcome work fs₀ before).2 = (result, fs)) :
    Settled work fs₀ s (before ++ [i]) := by
  rw [Settled, outcome_concat run, List.map_append, List.map_append, settled, List.map_singleton, ended]
  rfl

/-- The operation that is inside is the one that got the writer last. -/
theorem Serial.underway {handle : Nat} {stage : Stage} (serial : Serial path work fs₀ s)
    (inside : s.phase i = .inside handle stage) :
    ∃ before writer, Underway path work fs₀ s before i handle stage writer := by
  have begun : i ∈ s.order := by
    have accounted := serial.accounted i
    rwa [inside] at accounted
  cases serial.writing with
  | nobody free settled fs =>
    obtain ⟨result, ended⟩ := settled.ended begun
    cases inside.symm.trans ended
  | one underway =>
    rw [underway.order] at begun
    rcases List.mem_append.1 begun with earlier | last
    · obtain ⟨result, ended⟩ := underway.settled.ended earlier
      cases inside.symm.trans ended
    · cases List.mem_singleton.1 last
      cases inside.symm.trans underway.inside
      exact ⟨_, _, underway⟩

section Underway

variable {before : List Nat} {handle : Nat} {stage : Stage} {writer : Writer}

theorem Underway.mem_order (underway : Underway path work fs₀ s before i handle stage writer) :
    i ∈ s.order :=
  underway.order ▸ List.mem_append_right _ (List.mem_singleton_self i)

theorem Underway.not_mem_before (underway : Underway path work fs₀ s before i handle stage writer)
    (nodup : s.order.Nodup) : i ∉ before := by
  rw [underway.order, List.nodup_append_comm] at nodup
  exact (List.nodup_cons.1 nodup).1

end Underway

/-- Some of the operations one after another left no file that is not there now. -/
theorem Serial.exists_outcome (serial : Serial path work fs₀ s) :
    ∃ before, before <+: s.order ∧
      ((outcome work fs₀ before).2.isFile path = true → s.fs.isFile path = true) := by
  cases serial.writing with
  | nobody free settled fs => exact ⟨s.order, List.prefix_rfl, fun isFile => fs ▸ isFile⟩
  | one underway => exact ⟨_, underway.order ▸ List.prefix_append _ _, underway.isFile⟩

/-! ## Steps outside -/

theorem Accounted.mono (accounted : Accounted path work fs₀ s i phase)
    (mem : i ∈ s'.order ↔ i ∈ s.order) (order : s.order <+: s'.order)
    (isFile : s.fs.isFile path = true → s'.fs.isFile path = true)
    (has : ∀ handle, phase.handle? = some handle → s.HasHandle path handle → s'.HasHandle path handle) :
    Accounted path work fs₀ s' i phase := by
  cases phase with
  | idle => exact mt mem.1 accounted
  | accepted => exact ⟨mt mem.1 accounted.1, Work.refusal?_eq_none_of_isFile isFile accounted.2⟩
  | waiting handle =>
    obtain ⟨unbegun, accepted, here⟩ := accounted
    exact ⟨mt mem.1 unbegun, Work.refusal?_eq_none_of_isFile isFile accepted, has handle rfl here⟩
  | inside handle stage => exact mem.2 accounted
  | ended result =>
    intro unbegun
    obtain ⟨before, done, run⟩ := accounted (mt mem.2 unbegun)
    exact ⟨before, done.trans order, run⟩

/-- If one operation comes to a phase that accounts for it, all operations are accounted for. -/
theorem Serial.accounted_set (serial : Serial path work fs₀ s) (moved : s'.phase = (s.set i phase).phase)
    (accounted : Accounted path work fs₀ s' i phase) (mem : ∀ j ≠ i, j ∈ s'.order ↔ j ∈ s.order)
    (order : s.order <+: s'.order) (isFile : s.fs.isFile path = true → s'.fs.isFile path = true)
    (writers : s'.writers = s.writers) (j : Nat) : Accounted path work fs₀ s' j (s'.phase j) := by
  rw [moved]
  by_cases same : j = i
  · rw [same, phase_set_self]
    exact accounted
  · rw [phase_set_of_ne same]
    refine (serial.accounted j).mono (mem j same) order isFile fun handle _ has => ?_
    rwa [HasHandle, writers]

/-- Handles may come and go as long as those in use by an operation stay. -/
theorem Serial.withWriters (serial : Serial path work fs₀ s) {w : Writers} (coherent : w.Coherent)
    (kept : ∀ i handle holding, (s.phase i).handle? = some handle →
      Assoc.get? handle s.writers.handles = some holding → Assoc.get? handle w.handles = some holding) :
    Serial path work fs₀ { s with writers := w } where
  coherent := coherent
  nodup := serial.nodup
  accounted i := (serial.accounted i).mono Iff.rfl List.prefix_rfl id
    fun handle uses ⟨writer, holds⟩ => ⟨writer, kept i handle _ uses holds⟩
  writing := by
    cases serial.writing with
    | nobody free settled fs => exact .nobody free settled fs
    | one underway =>
      have uses : (s.phase _).handle? = some _ := congrArg Phase.handle? underway.inside
      exact .one { underway with holds := kept _ _ _ uses underway.holds }

/-- An operation that has not had the writer yet may come to any phase that accounts for it. -/
theorem Serial.set (serial : Serial path work fs₀ s) (unbegun : i ∉ s.order)
    (accounted : Accounted path work fs₀ s i phase) : Serial path work fs₀ (s.set i phase) where
  coherent := serial.coherent
  nodup := serial.nodup
  accounted := serial.accounted_set rfl (accounted.mono Iff.rfl List.prefix_rfl id fun _ _ => id)
    (fun _ _ => Iff.rfl) List.prefix_rfl id rfl
  writing := by
    cases serial.writing with
    | nobody free settled fs => exact .nobody free (settled.of_set rfl unbegun) fs
    | one underway =>
      rw [underway.order, List.mem_append, not_or, List.mem_singleton] at unbegun
      exact .one
        { underway with
          settled := underway.settled.of_set rfl unbegun.1
          inside := (phase_set_of_ne (Ne.symm unbegun.2) s phase).trans underway.inside }

theorem Serial.refuse (serial : Serial path work fs₀ s) (on : (work i).On path) {error : Error}
    (idle : s.phase i = .idle) (refused : (work i).refusal? path s.fs = some error) :
    Serial path work fs₀ (s.set i (.ended (.error error))) := by
  have unbegun := serial.accounted i
  rw [idle] at unbegun
  refine serial.set unbegun fun _ => ?_
  -- Had there been a file before the operation that has the writer, there would be one now.
  obtain ⟨before, done, isFile⟩ := serial.exists_outcome
  exact ⟨before, done, Work.runOn_eq_of_refusal on (Work.refusal?_eq_some_of_isFile isFile refused)⟩

theorem Serial.accept (serial : Serial path work fs₀ s) (idle : s.phase i = .idle)
    (accepted : (work i).refusal? path s.fs = none) : Serial path work fs₀ (s.set i .accepted) := by
  have unbegun := serial.accounted i
  rw [idle] at unbegun
  exact serial.set unbegun ⟨unbegun, accepted⟩

theorem Serial.borrow (serial : Serial path work fs₀ s) {handle : Nat} (accepted : s.phase i = .accepted)
    (has : s.HasHandle path handle) : Serial path work fs₀ (s.set i (.waiting handle)) := by
  have accounted := serial.accounted i
  rw [accepted] at accounted
  exact serial.set accounted.1 ⟨accounted.1, accounted.2, has⟩

theorem Serial.lookUp (serial : Serial path work fs₀ s) (accepted : s.phase i = .accepted) :
    Serial path work fs₀
      { s.set i (.waiting (s.writers.obtain path).1) with writers := (s.writers.obtain path).2 } := by
  have obtained : Serial path work fs₀ { s with writers := (s.writers.obtain path).2 } :=
    serial.withWriters (serial.coherent.obtain path) fun _ _ _ _ holds =>
      serial.coherent.get?_obtain path holds
  exact obtained.borrow accepted (s.writers.get?_obtain path)

/-! ## Steps with the writer -/

theorem Serial.acquire (serial : Serial path work fs₀ s) (on : (work i).On path) {handle : Nat}
    {holding : Holding} (waiting : s.phase i = .waiting handle)
    (holds : Assoc.get? handle s.writers.handles = some holding) (free : holding.writer ∉ s.taken) :
    Serial path work fs₀
      { s.set i (.inside handle (.entered ((work i).turn path))) with
        taken := holding.writer :: s.taken
        order := s.order ++ [i] } := by
  have accounted := serial.accounted i
  rw [waiting] at accounted
  obtain ⟨unbegun, accepted, writer, has⟩ := accounted
  cases holds.symm.trans has
  cases serial.writing with
  | one underway =>
    -- The handle of whoever is inside is of the same path, so its writer is the one that is free.
    have same := serial.coherent.writer_eq has underway.holds rfl
    rw [underway.taken, same] at free
    exact absurd (List.mem_singleton_self _) free
  | nobody noneTaken settled fs =>
    constructor
    · exact serial.coherent
    · rw [List.nodup_append_comm]
      exact List.nodup_cons.2 ⟨unbegun, serial.nodup⟩
    · refine serial.accounted_set rfl (List.mem_append_right _ (List.mem_singleton_self i))
        (fun j other => ?_) (List.prefix_append _ _) id rfl
      simp [other]
    · exact .one
        { order := rfl
          settled := settled.of_set rfl unbegun
          inside := phase_set_self s i _
          holds := has
          taken := congrArg _ noneTaken
          rest := fs ▸ (Work.runOn_eq on accepted).symm
          isFile := fun isFile => fs ▸ isFile }

theorem Serial.advance (serial : Serial path work fs₀ s) (on : (work i).On path) {handle : Nat}
    {stage : Stage} (inside : s.phase i = .inside handle stage) :
    Serial path work fs₀
      { s.set i (.inside handle (stage.advance ((work i).database path) s.fs).1) with
        fs := (stage.advance ((work i).database path) s.fs).2 } := by
  obtain ⟨before, writer, underway⟩ := serial.underway inside
  have kept : s.fs.isFile path = true →
      (stage.advance ((work i).database path) s.fs).2.isFile path = true :=
    Stage.isFile_advance (Work.path_database on) stage
  constructor
  · exact serial.coherent
  · exact serial.nodup
  · exact serial.accounted_set rfl underway.mem_order (fun _ _ => Iff.rfl) List.prefix_rfl kept rfl
  · exact .one
      { underway with
        settled := underway.settled.of_set rfl (underway.not_mem_before serial.nodup)
        inside := phase_set_self s i _
        rest := (Stage.rest_advance _ stage s.fs).trans underway.rest
        isFile := kept ∘ underway.isFile }

theorem Serial.leave (serial : Serial path work fs₀ s) {handle : Nat} {holding : Holding}
    {result : Except Error Reply} (inside : s.phase i = .inside handle (.finished result))
    (holds : Assoc.get? handle s.writers.handles = some holding) :
    Serial path work fs₀ { s.set i (.ended result) with taken := s.taken.erase holding.writer } := by
  obtain ⟨before, writer, underway⟩ := serial.underway inside
  cases holds.symm.trans underway.holds
  constructor
  · exact serial.coherent
  · exact serial.nodup
  · exact serial.accounted_set rfl (fun unbegun => absurd underway.mem_order unbegun)
      (fun _ _ => Iff.rfl) List.prefix_rfl id rfl
  · have run : (work i).run.runOn (outcome work fs₀ before).2 = (result, s.fs) := underway.rest.symm
    have unmoved : Settled work fs₀ (s.set i (.ended result)) before :=
      underway.settled.of_set rfl (underway.not_mem_before serial.nodup)
    have settled := unmoved.concat (phase_set_self ..) run
    have left := congrArg Prod.snd (outcome_concat run)
    rw [← underway.order] at settled left
    refine .nobody ?_ settled left.symm
    rw [underway.taken]
    exact List.erase_cons_head ..

/-! ## Every run -/

/-- A step of any operation keeps the operations in order. -/
theorem Serial.step (serial : Serial path work fs₀ s) (on : ∀ i, (work i).On path)
    (step : Step path work s s') : Serial path work fs₀ s' := by
  cases step with
  | refuse idle refused => exact serial.refuse (on _) idle refused
  | accept idle accepted => exact serial.accept idle accepted
  | lookUp accepted makes => exact serial.lookUp accepted
  | borrow accepted makes has => exact serial.borrow accepted has
  | acquire waiting holds free => exact serial.acquire (on _) waiting holds free
  | advance inside => exact serial.advance (on _) inside
  | leave inside holds => exact serial.leave inside holds
  | handles event unused =>
    refine serial.withWriters (serial.coherent.after event) fun i handle holding uses holds => ?_
    exact serial.coherent.get?_after (fun released => unused handle released i uses) holds

/-- A run keeps the operations in order. -/
theorem Serial.reaches (serial : Serial path work fs₀ s) (on : ∀ i, (work i).On path)
    (reaches : Reaches path work s s') : Serial path work fs₀ s' := by
  induction reaches with
  | refl => exact serial
  | tail _ step ih => exact ih.step on step

/-- An operation has ended, and the writer that it had is free. -/
def finish (s : Process) (i : Nat) (writer : Writer) (ran : Except Error Reply × FileSystem) : Process :=
  { s.set i (.ended ran.1) with
    fs := ran.2
    taken := s.taken.erase writer }

theorem finish_set (s : Process) (i : Nat) (phase : Phase) (fs : FileSystem) (writer : Writer)
    (ran : Except Error Reply × FileSystem) :
    Process.finish { s.set i phase with fs := fs } i writer ran = s.finish i writer ran := by
  simp only [finish, set, Function.update_idem]

/-- An operation that has the writer can go on to its end without the others. -/
theorem reaches_finish {handle : Nat} {stage : Stage} {holding : Holding}
    (inside : s.phase i = .inside handle stage)
    (holds : Assoc.get? handle s.writers.handles = some holding) :
    Reaches path work s
      (s.finish i holding.writer ((stage.rest ((work i).database path)).runOn s.fs)) := by
  induction left : stage.left using Nat.strong_induction_on generalizing s stage with
  | _ n ih =>
    rcases stage.finished_or_left_advance ((work i).database path) s.fs with ⟨result, rfl⟩ | fewer
    · exact .single (.leave inside holds)
    · rw [← Stage.rest_advance, ← finish_set s i (.inside handle (stage.advance _ s.fs).1)
        (stage.advance _ s.fs).2]
      exact .head (.advance inside) (ih _ (left ▸ fewer) (phase_set_self s i _) holds rfl)

/-- Any number of operations on one file, through any handles, in whatever order their steps come and
whatever other handles come and go: once no operation has the writer, the files and the results are
those of the operations one after another in the order in which they got the writer. An operation that
was refused before it asked for the writer has the result that it has by itself at some point of that
order, and there it changes nothing. -/
theorem serial_in_order (on : ∀ i, (work i).On path) (reaches : Reaches path work (start fs₀) s)
    (quiet : s.Quiet) :
    s.fs = (Work.serially (s.order.map work) fs₀).2 ∧
    s.order.map s.phase = (Work.serially (s.order.map work) fs₀).1.map .ended ∧
    s.order.Nodup ∧
    ∀ i result, s.phase i = .ended result → i ∉ s.order → ∃ before, before <+: s.order ∧
      (work i).run.runOn (Work.serially (before.map work) fs₀).2 =
        (result, (Work.serially (before.map work) fs₀).2) := by
  have serial := (serial_start path work fs₀).reaches on reaches
  cases serial.writing with
  | one underway => exact absurd underway.inside (quiet _ _ _)
  | nobody free settled fs =>
    refine ⟨fs, settled, serial.nodup, fun i result ended unbegun => ?_⟩
    have accounted := serial.accounted i
    rw [ended] at accounted
    exact accounted unbegun

def twoInserts : Nat → Work
  | 0 => .call .plain (.insert "c" [("a", .bool true)])
  | _ => .call .plain (.insert "c" [("a", .bool false)])

theorem serially_twoInserts : ∃ fs,
    Work.serially [twoInserts 0, twoInserts 1] .plain =
      ([.ok (.answer (.record ⟨1, [("a", .bool true)]⟩)),
        .ok (.answer (.record ⟨2, [("a", .bool false)]⟩))], fs) ∧
    Database.plain.file.content fs =
      .ok (.holding (some [⟨1, [("a", .bool true)]⟩, ⟨2, [("a", .bool false)]⟩])) := by
  obtain ⟨fs, first, ready⟩ := Call.runOn_eq Database.ready_plain
    (show (Call.insert "c" [("a", .bool true)]).Sound by decide +kernel)
    (by decide +kernel) (by decide +kernel)
  obtain ⟨fs', second, ready⟩ := Call.runOn_eq ready
    (show (Call.insert "c" [("a", .bool false)]).Sound by decide +kernel)
    (by decide +kernel) (by decide +kernel)
  refine ⟨fs', ?_, ready.content_eq⟩
  simp only [Work.serially, twoInserts, Work.run, Disk.runOn_map, first, second]
  rfl

theorem reaches_twoInserts : ∃ s,
    Reaches Database.plain.path twoInserts (start .plain) s ∧ s.Quiet ∧ s.order = [0, 1] := by
  -- The second insert comes while the first is under way, through a copy of its handle.
  have first : Reaches Database.plain.path twoInserts (start .plain) _ :=
    .head (.handles (.obtain Database.plain.path) nofun) <|
    .head (.accept (i := 0) rfl rfl) <|
    .head (.borrow (i := 0) rfl rfl (show Process.HasHandle _ _ 0 from ⟨0, rfl⟩)) <|
    .head (.acquire (i := 0) rfl rfl List.not_mem_nil) <|
    .head (.advance (i := 0) rfl) <|
    .head (.handles (.share 0) nofun) <|
    .head (.accept (i := 1) rfl rfl) <|
    .head (.borrow (i := 1) rfl rfl (show Process.HasHandle _ _ 1 from ⟨0, rfl⟩)) <|
    reaches_finish (i := 0) rfl rfl
  -- The first handle is given up and another file is opened before the second insert goes on.
  have second := first.trans <|
    .head (.handles (.release 0) (by rintro _ ⟨⟩ (_ | _ | i) <;> nofun)) <|
    .head (.handles (.obtain ⟨["other.json"]⟩) nofun) <|
    .head (.acquire (i := 1) rfl rfl List.not_mem_nil) <|
    reaches_finish (i := 1) rfl rfl
  refine ⟨_, second, ?_, rfl⟩
  rintro (_ | _ | i) _ _ inside <;> exact Phase.noConfusion inside

theorem serial_in_order_twoInserts : ∃ s,
    Reaches Database.plain.path twoInserts (start .plain) s ∧ s.Quiet ∧
    s.phase 0 = .ended (.ok (.answer (.record ⟨1, [("a", .bool true)]⟩))) ∧
    s.phase 1 = .ended (.ok (.answer (.record ⟨2, [("a", .bool false)]⟩))) ∧
    Database.plain.file.content s.fs =
      .ok (.holding (some [⟨1, [("a", .bool true)]⟩, ⟨2, [("a", .bool false)]⟩])) := by
  have on : ∀ i, (twoInserts i).On Database.plain.path := by
    rintro (_ | i) <;> rfl
  obtain ⟨s, reaches, quiet, order⟩ := reaches_twoInserts
  obtain ⟨left, results, -⟩ := serial_in_order on reaches quiet
  obtain ⟨fs, run, content⟩ := serially_twoInserts
  rw [order] at left results
  have same : Work.serially (List.map twoInserts [0, 1]) .plain = _ := run
  rw [same] at left results
  injection results with first rest
  injection rest with second
  exact ⟨s, reaches, quiet, first, second, left ▸ content⟩

end Process

end DocStore
