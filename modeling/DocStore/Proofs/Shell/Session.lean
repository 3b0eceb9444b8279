-- SUMMARY: Which database a session is connected to after any commands: the one its history says.
import DocStore.Proofs.Database.Failure
import DocStore.Proofs.Store
import DocStore.Shell.Session

/-!
# The connected database

A session is moved by what is carried out on it: commands, and the word of the prompt that connects.
Its history lists them with their results. Only what succeeds counts. The database that is connected
is the one that was created or connected to last, unless it was dropped after that.

One act changes the connection in one of three ways, or not at all. So the connection after a list of
acts is decided by the last act of the list that counts, or else by the connection before the list.
-/

namespace DocStore.Shell

/-! ## Running computations -/

namespace SessionM

variable {α β : Type} (session : Session) (fs : FileSystem)

@[simp] theorem runOn_pure (a : α) : (pure a : SessionM α).runOn session fs = (.ok a, session, fs) :=
  rfl

theorem runOn_bind (computation : SessionM α) (next : α → SessionM β) :
    (computation >>= next).runOn session fs =
      match computation.runOn session fs with
      | (.ok a, session, fs) => (next a).runOn session fs
      | (.error error, session, fs) => (.error error, session, fs) := by
  simp only [runOn, ExceptT.run_bind, StateT.run_bind]
  rcases computation.run.run (session, fs) with ⟨_ | _, _⟩ <;> rfl

@[simp] theorem runOn_disk (computation : Disk α) :
    (disk computation).runOn session fs =
      ((computation.runOn fs).1.mapError .store, session, (computation.runOn fs).2) := rfl

@[simp] theorem runOn_database :
    database.runOn session fs =
      (match session.current with
        | some db => .ok db
        | none => .error .noDatabase,
        session, fs) := by
  change (match session.current with
    | some db => return db
    | none => throw .noDatabase : SessionM Database).runOn session fs = _
  cases session.current <;> rfl

/-- Looking at the session changes nothing. -/
theorem runOn_session_bind (next : Session → SessionM β) :
    (SessionM.session >>= next).runOn session fs = (next session).runOn session fs := rfl

/-- A computation on the file system alone leaves the session as it is. -/
theorem runOn_disk_bind (computation : Disk α) (next : α → SessionM β) :
    (disk computation >>= next).runOn session fs =
      match computation.runOn fs with
      | (.ok a, fs) => (next a).runOn session fs
      | (.error error, fs) => (.error (.store error), session, fs) := by
  rw [runOn_bind, runOn_disk]
  rcases computation.runOn fs with ⟨_ | _, _⟩ <;> rfl

end SessionM

/-! ## Acts -/

/-- What is carried out on a session: a command, or the word of the prompt that connects. -/
inductive Act where
  | command (asked : Command)
  | use (name : String)

namespace Act

/-- Carry out an act. -/
def run : Act → SessionM Output
  | .command asked => Session.execute asked
  | .use name => do
    Session.connect name
    return .connected name

/-- The database that an act connects to if it succeeds. -/
def opens? : Act → Option String
  | .command (.createDatabase name) => some name
  | .command (.connectDatabase name) => some name
  | .use name => some name
  | _ => none

/-- The database that is gone after an act if it succeeds. -/
def drops? : Act → Option String
  | .command (.dropDatabase name) => some name
  | _ => none

/-- Whether an act is a command on the collections or the records of the connected database. -/
def isInside : Act → Bool
  | .command (.createCollection _ _) => true
  | .command .listCollections => true
  | .command (.insert _ _) => true
  | .command (.select _ _) => true
  | .command (.delete _ _) => true
  | .command (.update _ _ _) => true
  | _ => false

end Act

/-- An act with its result. -/
structure Event where
  act : Act
  result : Except SessionError Output

def Event.Succeeded (event : Event) : Prop :=
  ∃ output, event.result = .ok output

/-- Carry out acts one after another: their history, and the session and the file system after them. -/
def Session.carryOut : List Act → Session → FileSystem → List Event × Session × FileSystem
  | [], session, fs => ([], session, fs)
  | act :: acts, session, fs =>
    let (result, session, fs) := act.run.runOn session fs
    let (history, session, fs) := carryOut acts session fs
    (⟨act, result⟩ :: history, session, fs)

/-- Whether no event of a history connects to a database or drops the one of a name. -/
def Keeps (name : String) (history : List Event) : Prop :=
  ∀ event ∈ history, event.Succeeded → event.act.opens? = none ∧ event.act.drops? ≠ some name

/-- Whether a history leaves a database connected: of the acts that succeeded it was the last to be
created or connected to, and it was not dropped since. -/
def LeavesConnected (name : String) (history : List Event) : Prop :=
  ∃ before event after, history = before ++ event :: after ∧ event.Succeeded ∧
    event.act.opens? = some name ∧ Keeps name after

/-! ## One act -/

variable {session session' : Session} {fs fs' : FileSystem} {name : String} {act : Act}
variable {result : Except SessionError Output} {history : List Event}

/-- Whether the connected database, if there is one, is the one that the store has under its name. -/
def Session.Sound (session : Session) : Prop :=
  ∀ db ∈ session.current, ∃ path, session.store.databasePath db.name = .ok path ∧
    db = session.store.handle db.name path

/-- What an act can make of a session: it fails and leaves the session as it is, or it succeeds and
leaves it, connects to a database of the store, or drops the database that was connected. -/
inductive Session.Moves (session : Session) (act : Act) : Except SessionError Output → Session → Prop
  | failed (error : SessionError) : Moves session act (.error error) session
  | stayed (output : Output) : act.opens? = none →
    (∀ name ∈ act.drops?, session.databaseName? ≠ some name) → Moves session act (.ok output) session
  | opened (output : Output) {name : String} {path : Path} : act.opens? = some name →
    session.store.databasePath name = .ok path →
    Moves session act (.ok output) { session with current := some (session.store.handle name path) }
  | dropped (output : Output) {name : String} : act.opens? = none → act.drops? = some name →
    session.databaseName? = some name →
    Moves session act (.ok output) { session with current := none }

namespace SessionM

/-- What is done inside the connected database leaves the session as it is, and is refused without
one. -/
theorem runOn_inside {α : Type} (session : Session) (fs : FileSystem) (tag : α → Output)
    (inside : Database → Disk α) :
    (do let db ← database; return tag (← disk (inside db)) : SessionM Output).runOn session fs =
      match session.current with
      | some db =>
        (((tag <$> inside db).runOn fs).1.mapError .store, session, ((tag <$> inside db).runOn fs).2)
      | none => (.error .noDatabase, session, fs) := by
  rw [runOn_bind, runOn_database]
  cases session.current with
  | none => rfl
  | some db =>
    simp only [runOn_disk_bind, runOn_pure, Disk.runOn_map]
    rcases (inside db).runOn fs with ⟨_ | _, _⟩ <;> rfl

end SessionM

namespace Act

/-- An act inside the connected database is a computation on its handle and the file system alone. -/
theorem runOn_of_isInside (inside : act.isInside = true) : ∃ computation : Database → Disk Output,
    ∀ session fs, act.run.runOn session fs =
      match session.current with
      | some db => (((computation db).runOn fs).1.mapError .store, session, ((computation db).runOn fs).2)
      | none => (.error .noDatabase, session, fs) := by
  cases act with
  | use name => cases inside
  | command asked =>
    cases asked with
    | createDatabase name => cases inside
    | connectDatabase name => cases inside
    | dropDatabase name => cases inside
    | listDatabases => cases inside
    | createCollection name schema =>
      exact ⟨_, fun session fs => SessionM.runOn_inside session fs (fun _ => .done)
        fun db => db.createCollection name schema⟩
    | listCollections =>
      exact ⟨_, fun session fs => SessionM.runOn_inside session fs .names Database.collectionNames⟩
    | insert collection fields =>
      exact ⟨_, fun session fs => SessionM.runOn_inside session fs .inserted
        fun db => db.insert collection fields⟩
    | select collection predicate =>
      exact ⟨_, fun session fs => SessionM.runOn_inside session fs .records
        fun db => db.select collection predicate⟩
    | delete collection predicate =>
      exact ⟨_, fun session fs => SessionM.runOn_inside session fs .deleted
        fun db => db.delete collection predicate⟩
    | update collection predicate patch =>
      exact ⟨_, fun session fs => SessionM.runOn_inside session fs .updated
        fun db => db.update collection (some predicate) patch⟩

theorem stays_of_isInside (inside : act.isInside = true) : act.opens? = none ∧ act.drops? = none := by
  unfold isInside at inside
  split at inside <;> first | exact ⟨rfl, rfl⟩ | cases inside

theorem run_dropDatabase (name : String) :
    (Act.command (.dropDatabase name)).run = (do
      let session ← SessionM.session
      SessionM.disk (session.store.deleteDatabase name)
      if session.databaseName? == some name then SessionM.setCurrent none
      return .done) := rfl

theorem run_listDatabases :
    (Act.command .listDatabases).run = (do
      let session ← SessionM.session
      return .names (← SessionM.disk session.store.listDatabases)) := rfl

end Act

namespace Session

/-- A handle that a store gives for a name is the one of that name. -/
theorem handle_of_createDatabase {store : Store} {db : Database}
    (h : (store.createDatabase name).runOn fs = (.ok db, fs')) :
    ∃ path, store.databasePath name = .ok path ∧ db = store.handle name path := by
  rw [Store.runOn_createDatabase] at h
  cases checked : store.databasePath name with
  | error error =>
    rw [checked] at h
    cases h
  | ok path =>
    simp only [checked, Disk.runOn_map] at h
    obtain ⟨_, _, rfl⟩ := map_eq_ok.1 (congrArg Prod.fst h)
    exact ⟨path, rfl, rfl⟩

theorem handle_of_connect {store : Store} {db : Database}
    (h : (store.connect name).runOn fs = (.ok db, fs')) :
    ∃ path, store.databasePath name = .ok path ∧ db = store.handle name path := by
  rw [Store.runOn_connect] at h
  cases checked : store.databasePath name with
  | error error =>
    rw [checked] at h
    cases h
  | ok path =>
    simp only [checked, Disk.runOn_map] at h
    split at h
    · obtain ⟨_, _, rfl⟩ := map_eq_ok.1 (congrArg Prod.fst h)
      exact ⟨path, rfl, rfl⟩
    · cases h

/-- A database that was opened is connected to. -/
theorem moves_of_opening (opening : Store → Disk Database) (output : Output)
    (opens : act.opens? = some name)
    (handle : ∀ {store fs db fs'}, (opening store).runOn fs = (.ok db, fs') →
      ∃ path, store.databasePath name = .ok path ∧ db = store.handle name path)
    (h : (do let session ← SessionM.session
             let db ← SessionM.disk (opening session.store)
             SessionM.setCurrent (some db)
             return output : SessionM Output).runOn session fs = (result, session', fs')) :
    session.Moves act result session' := by
  rw [SessionM.runOn_session_bind, SessionM.runOn_disk_bind] at h
  rcases opened : (opening session.store).runOn fs with ⟨error | db, fs₁⟩
  · rw [opened] at h
    cases h
    exact .failed _
  · rw [opened] at h
    cases h
    obtain ⟨path, checked, rfl⟩ := handle opened
    exact .opened output opens checked

theorem moves_of_createDatabase
    (h : (Act.command (.createDatabase name)).run.runOn session fs = (result, session', fs')) :
    session.Moves (.command (.createDatabase name)) result session' :=
  moves_of_opening (fun store => store.createDatabase name) (.created name) rfl
    handle_of_createDatabase h

theorem moves_of_use (opens : act.opens? = some name)
    (h : (Act.use name).run.runOn session fs = (result, session', fs')) :
    session.Moves act result session' := by
  rw [Act.run, Session.connect] at h
  simp only [bind_assoc] at h
  exact moves_of_opening (fun store => store.connect name) (.connected name) opens handle_of_connect h

theorem moves_of_dropDatabase
    (h : (Act.command (.dropDatabase name)).run.runOn session fs = (result, session', fs')) :
    session.Moves (.command (.dropDatabase name)) result session' := by
  rw [Act.run_dropDatabase, SessionM.runOn_session_bind, SessionM.runOn_disk_bind] at h
  rcases removed : (session.store.deleteDatabase name).runOn fs with ⟨error | _, fs₁⟩
  · rw [removed] at h
    cases h
    exact .failed _
  · rw [removed] at h
    by_cases connected : session.databaseName? = some name
    · simp only [connected, BEq.rfl, if_true] at h
      cases h
      exact .dropped .done rfl rfl connected
    · simp only [beq_iff_eq, connected, if_false] at h
      cases h
      refine .stayed .done rfl ?_
      rintro _ ⟨⟩
      exact connected

theorem moves_of_listDatabases
    (h : (Act.command .listDatabases).run.runOn session fs = (result, session', fs')) :
    session.Moves (.command .listDatabases) result session' := by
  rw [Act.run_listDatabases, SessionM.runOn_session_bind, SessionM.runOn_disk_bind] at h
  rcases listed : session.store.listDatabases.runOn fs with ⟨error | names, fs₁⟩
  · rw [listed] at h
    cases h
    exact .failed _
  · rw [listed] at h
    cases h
    exact .stayed _ rfl nofun

/-- An act inside of a database moves no session. -/
theorem moves_of_isInside (inside : act.isInside = true)
    (h : act.run.runOn session fs = (result, session', fs')) : session.Moves act result session' := by
  obtain ⟨computation, run⟩ := Act.runOn_of_isInside inside
  rw [run] at h
  have same : session' = session := by
    cases connected : session.current <;> rw [connected] at h <;> cases h <;> rfl
  subst same
  cases result with
  | error error => exact .failed error
  | ok output =>
    obtain ⟨noName, noDrop⟩ := Act.stays_of_isInside inside
    refine .stayed output noName ?_
    rw [noDrop]
    exact nofun

/-- An act makes one of four things of a session. -/
theorem moves_of_run (h : act.run.runOn session fs = (result, session', fs')) :
    session.Moves act result session' := by
  cases act with
  | use name => exact moves_of_use rfl h
  | command asked =>
    cases asked with
    | createDatabase name => exact moves_of_createDatabase h
    | connectDatabase name => exact moves_of_use rfl h
    | dropDatabase name => exact moves_of_dropDatabase h
    | listDatabases => exact moves_of_listDatabases h
    | createCollection name schema => exact moves_of_isInside rfl h
    | listCollections => exact moves_of_isInside rfl h
    | insert collection fields => exact moves_of_isInside rfl h
    | select collection predicate => exact moves_of_isInside rfl h
    | delete collection predicate => exact moves_of_isInside rfl h
    | update collection predicate patch => exact moves_of_isInside rfl h

/-- After an act a database is connected if the act connected to it, or if it was connected and the act
did not change that. -/
theorem Moves.connected_iff (moves : session.Moves act result session') (name : String) :
    session'.databaseName? = some name ↔
      (Event.Succeeded ⟨act, result⟩ ∧ act.opens? = some name) ∨
        (session.databaseName? = some name ∧ Keeps name [⟨act, result⟩]) := by
  cases moves with
  | failed error => simp [Keeps, Event.Succeeded]
  | stayed output noName noDrop =>
    have kept : session.databaseName? = some name → act.drops? ≠ some name :=
      fun connected dropped => noDrop name dropped connected
    simpa [Keeps, Event.Succeeded, noName] using kept
  | opened output opens checked => simp [Keeps, Event.Succeeded, opens, databaseName?, Store.handle]
  | dropped output noName dropped connected =>
    rw [connected]
    simp [Keeps, Event.Succeeded, noName, dropped, databaseName?]

theorem Moves.store_eq (moves : session.Moves act result session') : session'.store = session.store := by
  cases moves <;> rfl

theorem Moves.sound (moves : session.Moves act result session') (sound : session.Sound) :
    session'.Sound := by
  cases moves with
  | failed error => exact sound
  | stayed output noName noDrop => exact sound
  | opened output opens checked =>
    rintro _ ⟨⟩
    exact ⟨_, checked, rfl⟩
  | dropped output noName dropped connected => exact nofun

/-- An act that fails leaves the session as it was. -/
theorem Moves.eq_of_error {error : SessionError} (moves : session.Moves act (.error error) session') :
    session' = session := by
  cases moves
  rfl

end Session

/-! ## Acts one after another -/

theorem keeps_cons (event : Event) (history : List Event) :
    Keeps name (event :: history) ↔ Keeps name [event] ∧ Keeps name history := by
  simp [Keeps]

/-- What a longer history leaves connected is what the rest of it does, or what its first act connected
to if the rest leaves that. -/
theorem leavesConnected_cons {event : Event} :
    LeavesConnected name (event :: history) ↔
      LeavesConnected name history ∨
        (event.Succeeded ∧ event.act.opens? = some name) ∧ Keeps name history := by
  constructor
  · rintro ⟨before, last, after, whole, succeeded, opens, keeps⟩
    cases before with
    | nil =>
      obtain ⟨rfl, rfl⟩ := List.cons.inj whole
      exact .inr ⟨⟨succeeded, opens⟩, keeps⟩
    | cons first before =>
      obtain ⟨_, rest⟩ := List.cons.inj whole
      exact .inl ⟨before, last, after, rest, succeeded, opens, keeps⟩
  · rintro (⟨before, last, after, rfl, succeeded, opens, keeps⟩ | ⟨⟨succeeded, opens⟩, keeps⟩)
    · exact ⟨event :: before, last, after, rfl, succeeded, opens, keeps⟩
    · exact ⟨[], event, history, rfl, succeeded, opens, keeps⟩

namespace Session

/-- What the history of some acts leaves connected is connected after them, and what was connected
before stays so if the history keeps it. -/
theorem connected_carryOut {acts : List Act}
    (h : carryOut acts session fs = (history, session', fs')) (name : String) :
    session'.databaseName? = some name ↔
      LeavesConnected name history ∨ (session.databaseName? = some name ∧ Keeps name history) := by
  induction acts generalizing session fs history with
  | nil =>
    cases h
    simp [LeavesConnected, Keeps]
  | cons act acts ih =>
    rcases run : act.run.runOn session fs with ⟨result, session₁, fs₁⟩
    rcases rest : carryOut acts session₁ fs₁ with ⟨later, session₂, fs₂⟩
    simp only [carryOut, run, rest] at h
    cases h
    rw [ih rest, (moves_of_run run).connected_iff, leavesConnected_cons, keeps_cons _ later]
    simp only [or_and_right, and_assoc, or_assoc]

theorem sound_carryOut {acts : List Act} (h : carryOut acts session fs = (history, session', fs'))
    (sound : session.Sound) : session'.store = session.store ∧ session'.Sound := by
  induction acts generalizing session fs history with
  | nil =>
    cases h
    exact ⟨rfl, sound⟩
  | cons act acts ih =>
    rcases run : act.run.runOn session fs with ⟨result, session₁, fs₁⟩
    rcases rest : carryOut acts session₁ fs₁ with ⟨later, session₂, fs₂⟩
    simp only [carryOut, run, rest] at h
    cases h
    have moves := moves_of_run run
    obtain ⟨same, kept⟩ := ih rest (moves.sound sound)
    exact ⟨same.trans moves.store_eq, kept⟩

/-- After any acts on a session that started without a database, the connected database is the one that
their history leaves connected, and none if it leaves none; it is the one that the store has under that
name. An act that fails changes nothing about the session. Without a database every command on
collections and records is refused for that reason and changes no file. -/
theorem connected_by_history (store : Store) (fs : FileSystem) (acts : List Act) :
    ∃ history session fs', carryOut acts (start store) fs = (history, session, fs') ∧
      (∀ name, session.databaseName? = some name ↔ LeavesConnected name history) ∧
      (∀ db ∈ session.current, ∃ path, store.databasePath db.name = .ok path ∧
        db = store.handle db.name path) ∧
      (∀ (act : Act) error session' fs'', act.run.runOn session fs' = (.error error, session', fs'') →
        session' = session) ∧
      (session.current = none → ∀ act : Act, act.isInside = true →
        act.run.runOn session fs' = (.error .noDatabase, session, fs')) := by
  rcases run : carryOut acts (start store) fs with ⟨history, session, fs'⟩
  obtain ⟨same, sound⟩ := sound_carryOut run nofun
  refine ⟨history, session, fs', rfl, fun name => ?_, ?_, ?_, ?_⟩
  · rw [connected_carryOut run]
    simp [start, databaseName?]
  · rw [show store = session.store from same.symm]
    exact sound
  · intro act error session' fs'' failed
    exact (moves_of_run failed).eq_of_error
  · intro none act inside
    obtain ⟨computation, runs⟩ := Act.runOn_of_isInside inside
    rw [runs, none]

end Session

/-- Two databases are created, the first one is dropped, and connecting to it again fails. -/
def Act.samples : List Act :=
  [.command .listCollections, .command (.createDatabase "notes"), .command (.createDatabase "tasks"),
    .command (.dropDatabase "notes"), .use "notes"]

/-- A session that was connected to one database and then to another one is connected to the
other. -/
theorem Session.connected_by_history_twoDatabases : ∃ history session fs',
    Session.carryOut Act.samples (.start .sample) (.empty ["home"]) = (history, session, fs') ∧
      history.map (fun event => event.result.isOk) = [false, true, true, true, false] ∧
      session.databaseName? = some "tasks" ∧ LeavesConnected "tasks" history := by
  obtain ⟨history, session, fs', run, connected, _⟩ :=
    Session.connected_by_history .sample (.empty ["home"]) Act.samples
  have results : (Session.carryOut Act.samples (.start .sample) (.empty ["home"])).1.map
      (fun event => event.result.isOk) = [false, true, true, true, false] := by decide +kernel
  have name : (Session.carryOut Act.samples (.start .sample) (.empty ["home"])).2.1.databaseName? =
      some "tasks" := by decide +kernel
  rw [run] at results name
  exact ⟨history, session, fs', run, results, name, (connected "tasks").1 name⟩

end DocStore.Shell
