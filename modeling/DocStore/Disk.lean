-- SUMMARY: Computations on a file system that can fail, and keep what they changed when they do.
import DocStore.Error

/-!
# Computations on a file system

The operations of the store take a file system to a result and the next file system. A failure
keeps the changes made before it, as it does on a real disk: what a failed operation leaves behind
is part of its meaning.
-/

namespace DocStore

/-- A computation on a file system. -/
abbrev Disk := ExceptT Error (StateM FileSystem)

namespace Disk

/-- Run a computation on a file system. -/
def runOn {α : Type} (computation : Disk α) (fs : FileSystem) : Except Error α × FileSystem :=
  (computation.run).run fs

/-- The result of a computation that needs no file system. -/
def ofExcept {α : Type} (result : Except Error α) : Disk α :=
  ExceptT.mk (pure result)

/-- A primitive step that gives a result; its fault is an error of the given path. -/
def attempt {α : Type} (path : Path) (step : FileSystem → Except IoFault (α × FileSystem)) :
    Disk α :=
  ExceptT.mk fun fs =>
    match step fs with
    | .ok (result, fs) => (.ok result, fs)
    | .error fault => (.error (.io path.text fault), fs)

/-- A primitive step; its fault is an error of the given path. -/
def change (path : Path) (step : FileSystem → Except IoFault FileSystem) : Disk Unit :=
  attempt path fun fs => (step fs).map fun fs => ((), fs)

/-- Primitive steps of which those before a fault stay; the fault is an error of the given path. -/
def sequence {α : Type} (path : Path) (steps : FileSystem → Except IoFault α × FileSystem) : Disk α :=
  ExceptT.mk fun fs =>
    let (result, fs) := steps fs
    (result.mapError (.io path.text), fs)

/-- A primitive step whose fault does not matter. -/
def attemptQuietly (step : FileSystem → Except IoFault FileSystem) : Disk Unit :=
  ExceptT.mk fun fs =>
    match step fs with
    | .ok fs => (.ok (), fs)
    | .error _ => (.ok (), fs)

end Disk

end DocStore
