-- SUMMARY: The writer that all handles of one database file share, so that they take turns.
import DocStore.Assoc
import DocStore.Path

/-!
# Writers

The handles of one database file that a program has at once take turns, and for that they share a
writer. A table notes the writer of each path, however the path is written. It does not keep a writer
in use; only handles do. A note whose writer no handle holds any more does not count. It stays until a
writer is asked for that the table does not have, and all such notes are dropped then.
-/

namespace DocStore

/-- A writer, known by a number that no other writer ever has. -/
abbrev Writer := Nat

/-- What a handle in use holds: the path it was made for and the writer it was given. -/
structure Holding where
  path : Path
  writer : Writer
deriving DecidableEq, Repr

/-- The table of writers and the handles in use. -/
structure Writers where
  notes : List (Route × Writer)
  handles : List (Nat × Holding)
  nextWriter : Writer
  nextHandle : Nat
deriving Repr, Inhabited

namespace Writers

def empty : Writers := ⟨[], [], 0, 0⟩

/-- Whether a handle in use holds a writer. -/
def isHeld (w : Writers) (writer : Writer) : Bool :=
  w.handles.any fun handle => handle.2.writer == writer

/-- The writer of a path, if a handle holds it. -/
def current? (w : Writers) (path : Path) : Option Writer :=
  (Assoc.get? path.route w.notes).filter w.isHeld

/-- The table without the notes that do not count. -/
def prune (w : Writers) : Writers :=
  { w with notes := w.notes.filter fun note => w.isHeld note.2 }

/-- A new handle that holds a writer. -/
def addHandle (w : Writers) (holding : Holding) : Nat × Writers :=
  (w.nextHandle,
    { w with
      handles := (w.nextHandle, holding) :: w.handles
      nextHandle := w.nextHandle + 1 })

/-- Note a new writer for a path. -/
def noteNew (w : Writers) (path : Path) : Writer × Writers :=
  (w.nextWriter,
    { w with
      notes := Assoc.set path.route w.nextWriter w.notes
      nextWriter := w.nextWriter + 1 })

/-- A new handle for a path: it holds the writer of the path, or a new one if there is none. -/
def obtain (w : Writers) (path : Path) : Nat × Writers :=
  match w.current? path with
  | some writer => w.addHandle ⟨path, writer⟩
  | none =>
    let (writer, w) := w.prune.noteNew path
    w.addHandle ⟨path, writer⟩

/-- A copy of a handle holds the same writer. -/
def share (w : Writers) (handle : Nat) : Option (Nat × Writers) :=
  (Assoc.get? handle w.handles).map w.addHandle

/-- A handle is no longer in use. -/
def release (w : Writers) (handle : Nat) : Writers :=
  { w with handles := Assoc.erase handle w.handles }

/-- What can happen to handles. -/
inductive Event where
  | obtain (path : Path)
  | share (handle : Nat)
  | release (handle : Nat)
deriving Repr

/-- The table and the handles after an event. Copying a handle that is not in use does nothing. -/
def after (w : Writers) : Event → Writers
  | .obtain path => (w.obtain path).2
  | .share handle => ((w.share handle).map Prod.snd).getD w
  | .release handle => w.release handle

/-- The table and the handles after a sequence of events. -/
def afterAll (w : Writers) (events : List Event) : Writers :=
  events.foldl after w

end Writers

end DocStore
