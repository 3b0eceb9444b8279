-- SUMMARY: The lock file beside a database file, held by at most one process at a time.
import DocStore.Disk

/-!
# Lock files

Processes that share a database can keep apart by the exclusive lock of a file beside it. Taking the
lock opens that file, creating it if need be, and then locks the file it opened. It does not wait:
if another holds the lock the attempt fails. Giving the lock back leaves the file where it is.
-/

namespace DocStore.FileLock

def ending : String := ".lock"

/-- The path of the lock file of a database file. -/
def pathFor (path : Path) : Path :=
  path.withEnding ending

/-- Lock an opened file, unless its lock is taken. -/
def lockOpened (path : Path) (number : Nat) : Disk Unit :=
  ExceptT.mk fun fs =>
    match fs.tryLock? number with
    | some fs => (.ok (), fs)
    | none => (.error (.databaseLocked path.text), fs)

/-- Take the lock of a database file, and give the number of the file that carries it. -/
def acquire (path : Path) : Disk Nat := do
  let number ← Disk.attempt (pathFor path) fun fs => fs.openOrCreate (pathFor path)
  lockOpened path number
  return number

/-- Run a computation while the lock of a database file is held; it is given back however the
computation ends. -/
def hold {α : Type} (path : Path) (computation : Disk α) : Disk α :=
  ExceptT.mk fun fs =>
    match (acquire path).runOn fs with
    | (.error error, fs) => (.error error, fs)
    | (.ok number, fs) =>
      let (result, fs) := computation.runOn fs
      (result, fs.unlock number)

end DocStore.FileLock
