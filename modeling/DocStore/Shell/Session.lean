-- SUMMARY: Sessions: a store with the database that is currently connected.
import DocStore.Shell.Command
import DocStore.Store

/-!
# Sessions

A session works on one store and remembers the database that was created or connected to last.
Commands on collections and records go to it, and fail without one. Dropping the connected database
disconnects from it; a command that fails leaves the connection as it is.
-/

namespace DocStore.Shell

/-- Why a command fails. -/
inductive SessionError where
  | noDatabase
  | store (error : Error)
deriving Repr

def SessionError.message : SessionError → String
  | .noDatabase => "no database selected (use 'db connect <name>' or --db)"
  | .store error => error.message

/-- The answer to a command. -/
inductive Output where
  | created (name : String)
  | connected (name : String)
  | done
  | names (names : List String)
  | inserted (r : Record)
  | records (records : List Record)
  | deleted (count : Nat)
  | updated (count : Nat)
deriving Repr

/-- A store with the database that is connected. -/
structure Session where
  store : Store
  current : Option Database
deriving Repr, Inhabited

/-- A computation on a session and its file system. -/
abbrev SessionM := ExceptT SessionError (StateM (Session × FileSystem))

namespace SessionM

/-- Run a computation on a session and its file system. -/
def runOn {α : Type} (computation : SessionM α) (session : Session) (fs : FileSystem) :
    Except SessionError α × Session × FileSystem :=
  (computation.run).run (session, fs)

def disk {α : Type} (computation : Disk α) : SessionM α :=
  ExceptT.mk fun (session, fs) =>
    let (result, fs) := computation.runOn fs
    (result.mapError .store, session, fs)

def session : SessionM Session := do
  return (← get).1

/-- Connect to a database, or to none. -/
def setCurrent (db : Option Database) : SessionM Unit :=
  modify fun (session, fs) => ({ session with current := db }, fs)

def database : SessionM Database := do
  match (← session).current with
  | some db => return db
  | none => throw .noDatabase

end SessionM

namespace Session

/-- A session on a store, connected to no database. -/
def start (store : Store) : Session := ⟨store, none⟩

def databaseName? (session : Session) : Option String :=
  session.current.map Database.name

/-- What stands before a line to be typed. -/
def prompt (session : Session) : String :=
  match session.databaseName? with
  | some name => s!"jsondoc:{name}> "
  | none => "jsondoc> "

def connect (name : String) : SessionM Unit := do
  let session ← SessionM.session
  let db ← SessionM.disk (session.store.connect name)
  SessionM.setCurrent (some db)

/-- Do what a command says. -/
def execute (command : Command) : SessionM Output := do
  let session ← SessionM.session
  match command with
  | .createDatabase name =>
    let db ← SessionM.disk (session.store.createDatabase name)
    SessionM.setCurrent (some db)
    return .created name
  | .connectDatabase name =>
    connect name
    return .connected name
  | .dropDatabase name =>
    SessionM.disk (session.store.deleteDatabase name)
    if session.databaseName? == some name then SessionM.setCurrent none
    return .done
  | .listDatabases => return .names (← SessionM.disk session.store.listDatabases)
  | .createCollection name schema =>
    let db ← SessionM.database
    SessionM.disk (db.createCollection name schema)
    return .done
  | .listCollections =>
    let db ← SessionM.database
    return .names (← SessionM.disk db.collectionNames)
  | .insert collection fields =>
    let db ← SessionM.database
    return .inserted (← SessionM.disk (db.insert collection fields))
  | .select collection predicate =>
    let db ← SessionM.database
    return .records (← SessionM.disk (db.select collection predicate))
  | .delete collection predicate =>
    let db ← SessionM.database
    return .deleted (← SessionM.disk (db.delete collection predicate))
  | .update collection predicate patch =>
    let db ← SessionM.database
    return .updated (← SessionM.disk (db.update collection (some predicate) patch))

end Session

end DocStore.Shell
