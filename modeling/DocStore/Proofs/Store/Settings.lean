-- SUMMARY: How a store keeps its files changes no answer and no catalog.
import DocStore.Proofs.CatalogFile.Crash
import DocStore.Proofs.Database.Alike
import DocStore.Proofs.Database.Readable
import DocStore.Proofs.Name
import DocStore.Proofs.Text.Symbol

/-!
# Settings that are not seen

Three settings of a store are about how its files are kept: the mode in which a file is replaced, the
style of its text and the lock file. Two stores of one directory that were opened with settings that
differ in these only give the same answers to the same requests, one after another, and after each of
them every database file holds the same catalog on both sides, or none on both.

The exception is a catalog that was stored and cannot be read back. Both stores refuse it, and each
error tells of the text of its own store: reading stops at another line and column in another style.

Two stores are twins as long as the file systems are alike in their database files. Each request keeps
them twins and is answered alike; so is a sequence of requests, by induction.
-/

namespace DocStore

open FileSystem (Alike IsPlain Tame)

/-! ## Requests -/

/-- What is asked of a store: one of its own operations, or a call through a handle that it gives. -/
inductive Request where
  | create (name : String)
  | connect (name : String)
  | drop (name : String)
  | list
  | contains (name : String)
  | call (name : String) (call : Call)

/-- What is answered to a request. Of a handle it is told what is not about how its file is kept. -/
inductive Response where
  | handle (name : String) (path : Path) (idPolicy : IdPolicy) (enforceSchema : Bool)
  | dropped
  | names (names : List String)
  | present (isPresent : Bool)
  | answer (answer : Answer)

/-- What is told of a handle. -/
def Response.ofHandle (db : Database) : Response :=
  .handle db.name db.path db.options.idPolicy db.options.enforceSchema

namespace Request

/-- Answer a request. -/
def run (store : Store) : Request → Disk Response
  | .create name => .ofHandle <$> store.createDatabase name
  | .connect name => .ofHandle <$> store.connect name
  | .drop name => (fun _ => .dropped) <$> store.deleteDatabase name
  | .list => .names <$> store.listDatabases
  | .contains name => .present <$> store.contains name
  | .call name asked => do
    let path ← Disk.ofExcept (store.databasePath name)
    .answer <$> asked.run (store.handle name path)

/-- The name of the database that a request is about. -/
def name? : Request → Option String
  | .create name => some name
  | .connect name => some name
  | .drop name => some name
  | .list => none
  | .contains name => some name
  | .call name _ => some name

/-- Whether the values among the arguments of a request that it stores are sound. -/
def Sound : Request → Prop
  | .call _ asked => asked.Sound
  | _ => True

instance (request : Request) : Decidable request.Sound :=
  match request with
  | .call _ asked => inferInstanceAs (Decidable asked.Sound)
  | .create _ => isTrue trivial
  | .connect _ => isTrue trivial
  | .drop _ => isTrue trivial
  | .list => isTrue trivial
  | .contains _ => isTrue trivial

theorem runOn_call {store : Store} {name : String} {path : Path} {fs : FileSystem}
    (checked : store.databasePath name = .ok path) (asked : Call) :
    ((call name asked).run store).runOn fs =
      (Response.answer <$> asked.run (store.handle name path)).runOn fs := by
  rw [run, checked]
  rfl

end Request

namespace Store

/-- What the file of a database holds, if there is one: a catalog, or why it holds none. -/
def kept (store : Store) (fs : FileSystem) (name : String) : Option (Except Problem Catalog) :=
  match store.databasePath name with
  | .error _ => none
  | .ok path => (fs.read path).toOption.map Catalog.decode

/-- What is seen of requests one after another: each answer, and what every database file holds after
it. -/
def observe (store : Store) : List Request → FileSystem →
    List (Except Error Response × (String → Option (Except Problem Catalog)))
  | [], _ => []
  | request :: requests, fs =>
    let (response, fs) := (request.run store).runOn fs
    (response, store.kept fs) :: store.observe requests fs

/-- The style of the texts of a store. -/
def style (store : Store) : Style :=
  Style.ofIndent store.config.pretty

end Store

/-! ## Settings -/

/-- Whether settings differ only in how files are kept. -/
def Config.Kin (config config' : Config) : Prop :=
  config'.idPolicy = config.idPolicy ∧ config'.enforceSchema = config.enforceSchema

namespace Store

variable {store store' : Store} {name : String} {names : List String} {fs fs' fs₁ fs₁' : FileSystem}
variable {path : Path} {α : Type}

/-- Whether two stores are of one directory and differ only in how files are kept. -/
structure Kin (store store' : Store) : Prop where
  directory : store'.directory = store.directory
  idPolicy : store'.options.idPolicy = store.options.idPolicy
  enforceSchema : store'.options.enforceSchema = store.options.enforceSchema

theorem Kin.databasePath (kin : Kin store store') (name : String) :
    store'.databasePath name = store.databasePath name := by
  rw [Store.databasePath, Store.databasePath, kin.directory]

theorem Kin.handle (kin : Kin store store') (name : String) (path : Path) :
    (store.handle name path).Kin (store'.handle name path) :=
  ⟨rfl, kin.idPolicy, kin.enforceSchema⟩

theorem Kin.ofHandle (kin : Kin store store') (name : String) (path : Path) :
    Response.ofHandle (store'.handle name path) = Response.ofHandle (store.handle name path) := by
  unfold Response.ofHandle
  rw [(kin.handle name path).idPolicy, (kin.handle name path).enforceSchema]
  rfl

/-- Opening a directory makes it and gives its path, and takes the settings as they are. -/
theorem openWith_ok {directory : Path} {config : Config}
    (opened : (openWith directory config).runOn fs = (.ok store, fs')) :
    (do makeDirectory directory; canonical directory : Disk Path).runOn fs =
        (.ok store.directory, fs') ∧
      config.databaseOptions = .ok store.options := by
  obtain ⟨mode, _, checked, opened⟩ := Disk.runOn_bind_ok opened
  obtain ⟨_, rfl⟩ := Prod.mk.inj checked
  obtain ⟨options, _, taken, opened⟩ := Disk.runOn_bind_ok opened
  obtain ⟨given, rfl⟩ := Prod.mk.inj taken
  obtain ⟨_, fs₁, made, opened⟩ := Disk.runOn_bind_ok opened
  obtain ⟨whole, _, found, opened⟩ := Disk.runOn_bind_ok opened
  cases opened
  refine ⟨?_, given⟩
  rw [Disk.runOn_bind, made]
  exact found

/-- Two stores of one directory whose settings differ only in how files are kept are kin. -/
theorem kin_of_openWith {directory : Path} {config config' : Config} (kin : config.Kin config')
    (opened : (openWith directory config).runOn fs = (.ok store, fs₁))
    (opened' : (openWith directory config').runOn fs = (.ok store', fs₁')) :
    Kin store store' ∧ fs₁' = fs₁ := by
  obtain ⟨run, options⟩ := openWith_ok opened
  obtain ⟨run', options'⟩ := openWith_ok opened'
  obtain ⟨directories, rfl⟩ := Prod.mk.inj (run.symm.trans run')
  obtain ⟨policy, checked, taken⟩ := bind_eq_ok.1 options
  obtain ⟨policy', checked', taken'⟩ := bind_eq_ok.1 options'
  have policies : config'.idPolicy? = config.idPolicy? := by
    rw [Config.idPolicy?, Config.idPolicy?, kin.1]
  rw [policies, checked] at checked'
  cases checked'
  refine ⟨⟨(Except.ok.inj directories).symm, ?_, ?_⟩, rfl⟩
  · rw [← Except.ok.inj taken, ← Except.ok.inj taken']
  · rw [← Except.ok.inj taken, ← Except.ok.inj taken']
    exact kin.2

/-! ## Room for the databases -/

/-- Whether a database file can be replaced by either mode, under the lock file or without: nothing or a
file stands where the second file and the lock file are to be. -/
structure Roomy (path : Path) (fs : FileSystem) : Prop where
  temp : fs.Writable (path.withEnding ".tmp")
  lock : fs.Writable (FileLock.pathFor path)
  notDevice : ∀ place number, fs.find path ≠ .ok (place, .device number)

/-- Whether the data directory is there, nobody holds a lock, and there is room for the databases of
some names. -/
structure Clear (store : Store) (names : List String) (fs : FileSystem) : Prop where
  there : ∃ place, fs.find store.directory = .ok (place, .directory)
  distinct : fs.Distinct
  free : fs.locked = []
  roomy : ∀ name ∈ names, ∀ path, store.databasePath name = .ok path → Roomy path fs

theorem databasePath_ok (checked : store.databasePath name = .ok path) :
    path = store.directory.child (name ++ ending) := by
  obtain ⟨_, _, rest⟩ := bind_eq_ok.1 checked
  exact (Except.ok.inj rest).symm

theorem Roomy.housed (roomy : Roomy path fs) (checked : store.databasePath name = .ok path) :
    ∃ directory, Housed path directory name fs := by
  have longer : (name ++ ending).length = name.length + 5 := by
    rw [String.length_append]
    rfl
  obtain ⟨_, _, looked, _⟩ := roomy.temp
  obtain ⟨_, directory, _, _, temp⟩ := FileSystem.leads_of_findToWrite looked
  have parts : path.parts = _ ++ [name ++ ending] := congrArg Path.parts (databasePath_ok checked)
  have leads := temp.of_withEnding (by decide) parts (by omega)
  refine ⟨directory, ⟨leads, fun number device => ?_, roomy.temp.hasRoom leads (by decide)⟩,
    roomy.lock.hasRoom leads (by decide)⟩
  rw [device] at leads
  exact roomy.notDevice _ number leads.find

/-! ## Twins -/

/-- Whether stores that differ only in how files are kept are used on file systems that are alike, with
room for the databases of some names and no lock taken. -/
structure Twins (store store' : Store) (names : List String) (fs fs' : FileSystem) : Prop
    extends Kin store store' where
  alike : Alike (SameCatalog store.style store'.style) IsFilePlace fs fs'
  there : ∃ place, fs.find store.directory = .ok (place, .directory)
  distinct : fs.Distinct
  distinct' : fs'.Distinct
  free : fs.locked = []
  free' : fs'.locked = []
  housed : ∀ name ∈ names, ∀ path, store.databasePath name = .ok path →
    ∃ directory, Housed path directory name fs ∧ Housed path directory name fs'

/-- A clear directory makes twins of kin. -/
theorem Clear.twins (clear : store.Clear names fs) (kin : Kin store store') :
    Twins store store' names fs fs where
  toKin := kin
  alike := .refl (fun bytes => .same bytes) _ fs
  there := clear.there
  distinct := clear.distinct
  distinct' := clear.distinct
  free := clear.free
  free' := clear.free
  housed := by
    intro name mem path checked
    obtain ⟨directory, housed⟩ := (clear.roomy name mem path checked).housed checked
    exact ⟨directory, housed, housed⟩

namespace Twins

/-- Twins stay twins as long as their file systems stay alike and only files come and go. -/
theorem tame {places places' : List Place} (twins : Twins store store' names fs fs')
    (alike : Alike (SameCatalog store.style store'.style) IsFilePlace fs₁ fs₁')
    (tame : Tame places fs fs₁) (tame' : Tame places' fs' fs₁') (locked : fs₁.locked = fs.locked)
    (locked' : fs₁'.locked = fs'.locked) : Twins store store' names fs₁ fs₁' where
  toKin := twins.toKin
  alike := alike
  there := by
    obtain ⟨place, found⟩ := twins.there
    exact ⟨place, tame.keeps.find_directory found⟩
  distinct := tame.distinct twins.distinct
  distinct' := tame'.distinct twins.distinct'
  free := locked.trans twins.free
  free' := locked'.trans twins.free'
  housed := by
    intro name mem path checked
    obtain ⟨directory, housed, housed'⟩ := twins.housed name mem path checked
    exact ⟨directory, housed.tame tame, housed'.tame tame'⟩

theorem handles (twins : Twins store store' names fs fs') (mem : name ∈ names)
    (checked : store.databasePath name = .ok path) :
    ∃ directory, (store.handle name path).Twins (store'.handle name path) directory name fs fs' := by
  obtain ⟨directory, housed, housed'⟩ := twins.housed name mem path checked
  exact ⟨directory, twins.toKin.handle name path, twins.alike, housed, housed', twins.free, twins.free'⟩

end Twins

/-! ## What is seen of the files -/

theorem isFilePlace_of_resolve {place : Place} {fileName : String} {slash : Bool}
    (checked : store.databasePath name = .ok path)
    (resolved : fs.resolve path = .ok (.named place fileName slash)) :
    IsFilePlace (place ++ [fileName]) := by
  rw [databasePath_ok checked] at resolved
  cases fileName_of_resolve resolved
  exact ⟨place, name, rfl⟩

theorem isFile_alike {same : ByteArray → ByteArray → Prop} (alike : Alike same IsFilePlace fs fs')
    (checked : store.databasePath name = .ok path) : fs'.isFile path = fs.isFile path :=
  alike.isFile_eq (isFilePlace_of_resolve checked)

/-- Every database file holds the same catalog in file systems that are alike, or none in both. -/
theorem Kin.kept_eq {style style' : Style} (kin : Kin store store')
    (alike : Alike (SameCatalog style style') IsFilePlace fs fs') :
    store'.kept fs' = store.kept fs := by
  funext name
  rw [kept, kept, kin.databasePath]
  cases checked : store.databasePath name with
  | error error => rfl
  | ok path =>
    rcases alike.find_cases (isFilePlace_of_resolve checked) with
      ⟨_, _, nowhere, nowhere'⟩ | ⟨_, _, _, found, found', entries⟩
    · simp only [FileSystem.read, nowhere, nowhere', error_bind]
      rfl
    · simp only [FileSystem.read, found, found', ok_bind]
      cases entries with
      | directory => rfl
      | file contents => exact congrArg some contents.decode_eq
      | device => rfl

/-! ## One request -/

namespace Twins

/-- What is done with the path of a database agrees if it does for every name that one may have. -/
theorem agree_path {next next' : Path → Disk α} (twins : Twins store store' names fs fs')
    (onward : ∀ path, store.databasePath name = .ok path →
      Disk.AgreeOnCatalogs store.style store'.style (next path) (next' path) fs fs') :
    Disk.AgreeOnCatalogs store.style store'.style (Disk.ofExcept (store.databasePath name) >>= next)
      (Disk.ofExcept (store'.databasePath name) >>= next') fs fs' := by
  rw [twins.databasePath name]
  cases checked : store.databasePath name with
  | error error => exact .of_unchanged twins.alike (.same _) rfl rfl
  | ok path => exact (onward path checked).congr rfl rfl

/-- What is done with the handle of a database that is there agrees if it does wherever one is. -/
theorem agree_existing {next next' : Database → Disk α} (twins : Twins store store' names fs fs')
    (onward : ∀ path, store.databasePath name = .ok path →
      Disk.AgreeOnCatalogs store.style store'.style (next (store.handle name path))
        (next' (store'.handle name path)) fs fs') :
    Disk.AgreeOnCatalogs store.style store'.style (store.existing name >>= next)
      (store'.existing name >>= next') fs fs' := by
  have run := Disk.runOn_bind fs (store.existing name) next
  have run' := Disk.runOn_bind fs' (store'.existing name) next'
  rw [runOn_existing] at run run'
  rw [twins.databasePath name] at run'
  cases checked : store.databasePath name with
  | error error =>
    rw [checked] at run run'
    exact .of_unchanged twins.alike (.same _) run run'
  | ok path =>
    have isFile := isFile_alike twins.alike checked
    simp only [checked, isFile] at run run'
    cases there : fs.isFile path with
    | false =>
      rw [there] at run run'
      exact .of_unchanged twins.alike (.same _) run run'
    | true =>
      rw [there] at run run'
      exact (onward path checked).congr run run'

theorem agree_create (twins : Twins store store' names fs fs') (mem : name ∈ names) :
    Disk.AgreeOnCatalogs store.style store'.style (Response.ofHandle <$> store.createDatabase name)
      (Response.ofHandle <$> store'.createDatabase name) fs fs' := by
  have wf : Catalog.empty.WellFormed := by decide
  simp only [createDatabase, map_bind, ← map_eq_pure_bind, Functor.map_map]
  refine twins.agree_path fun path checked => ?_
  obtain ⟨_, handles⟩ := twins.handles mem checked
  rw [twins.ofHandle name path]
  exact (handles.agree_reset wf).map _

theorem agree_connect (twins : Twins store store' names fs fs') (mem : name ∈ names) :
    Disk.AgreeOnCatalogs store.style store'.style (Response.ofHandle <$> store.connect name)
      (Response.ofHandle <$> store'.connect name) fs fs' := by
  simp only [connect, map_bind, ← map_eq_pure_bind, Functor.map_map]
  refine twins.agree_existing fun path checked => ?_
  obtain ⟨_, handles⟩ := twins.handles mem checked
  rw [twins.ofHandle name path]
  exact (handles.agree_read _).map _

/-- Removing a lock file agrees, whether there is one on either side or not. -/
theorem agree_removeLock {directory : Place} {style style' : Style}
    (alike : Alike (SameCatalog style style') IsFilePlace fs fs')
    (housed : Housed path directory name fs) (housed' : Housed path directory name fs') :
    Disk.AgreeOnCatalogs style style' (removeIfPresent (FileLock.pathFor path))
      (removeIfPresent (FileLock.pathFor path)) fs fs' := by
  have runs : ∀ {fs fs₁ : FileSystem}, fs.remove (FileLock.pathFor path) = .ok fs₁ ∨
      fs.remove (FileLock.pathFor path) = .error .notFound ∧ fs₁ = fs →
        (removeIfPresent (FileLock.pathFor path)).runOn fs = (.ok (), fs₁) := by
    intro fs fs₁ removed
    rw [removeIfPresent, Disk.runOn_change]
    rcases removed with removed | ⟨absent, rfl⟩
    · rw [removed]
    · rw [absent]
  obtain ⟨fs₁, tame, locked, removed⟩ := housed.lock.remove
  obtain ⟨fs₁', tame', locked', removed'⟩ := housed'.lock.remove
  exact ⟨.ok (), .ok (), fs₁, fs₁', runs removed, runs removed', .same _,
    Housed.alike_of_lock alike tame tame', ⟨_, tame⟩, ⟨_, tame'⟩, locked, locked'⟩

theorem agree_delete (twins : Twins store store' names fs fs') (mem : name ∈ names) :
    Disk.AgreeOnCatalogs store.style store'.style (store.deleteDatabase name)
      (store'.deleteDatabase name) fs fs' := by
  refine twins.agree_existing fun path checked => ?_
  obtain ⟨directory, handles⟩ := twins.handles mem checked
  refine handles.agree_removeFile.bind fun _ {_ _ _ _} alike tame tame' _ _ => ?_
  exact agree_removeLock alike (handles.housed.tame tame) (handles.housed'.tame tame')

end Twins

/-- A request with sound arguments is answered alike. -/
theorem Twins.agree {request : Request} (twins : Twins store store' names fs fs')
    (named : ∀ name ∈ request.name?, name ∈ names) (sound : request.Sound) :
    Disk.AgreeOnCatalogs store.style store'.style (request.run store) (request.run store') fs fs' := by
  cases request with
  | create name => exact twins.agree_create (named name rfl)
  | connect name => exact twins.agree_connect (named name rfl)
  | drop name => exact (twins.agree_delete (named name rfl)).map _
  | list =>
    obtain ⟨_, there⟩ := twins.there
    obtain ⟨_, run, run'⟩ := listDatabases_alike twins.alike twins.distinct twins.distinct'
      twins.directory there fun place name => ⟨place, name, rfl⟩
    exact (Disk.Agree.of_unchanged twins.alike (.same _) run run').map _
  | contains name =>
    refine (twins.agree_path fun path checked => ?_).map _
    refine .of_unchanged twins.alike (.same _) rfl ?_
    rw [← isFile_alike twins.alike checked]
    rfl
  | call name asked =>
    refine twins.agree_path fun path checked => ?_
    obtain ⟨_, handles⟩ := twins.handles (named name rfl) checked
    exact (Call.agree handles sound).map _

/-! ## Requests one after another -/

theorem observe_cons {request : Request} {requests : List Request} {response : Except Error Response}
    (run : (request.run store).runOn fs = (response, fs₁)) :
    store.observe (request :: requests) fs =
      (response, store.kept fs₁) :: store.observe requests fs₁ := by
  simp only [observe, run]

/-- Whether the same is seen in two stores after a request: the same catalogs, and the same answer
unless a catalog was refused that was stored and cannot be read back. -/
structure SeenAlike (store store' : Store)
    (seen seen' : Except Error Response × (String → Option (Except Problem Catalog))) : Prop where
  answer : SameResult (Error.OfTexts store.style store'.style) seen.1 seen'.1
  kept : seen'.2 = seen.2

/-- Requests one after another are answered alike by twins, and leave alike files behind. -/
theorem Twins.observe_alike {requests : List Request} (twins : Twins store store' names fs fs')
    (named : ∀ request ∈ requests, ∀ name ∈ request.name?, name ∈ names)
    (sound : ∀ request ∈ requests, request.Sound) :
    List.Forall₂ (SeenAlike store store') (store.observe requests fs) (store'.observe requests fs') := by
  induction requests generalizing fs fs' with
  | nil => exact .nil
  | cons request requests ih =>
    simp only [List.forall_mem_cons] at named sound
    obtain ⟨response, response', fs₁, fs₁', run, run', same, alike, ⟨_, tame⟩, ⟨_, tame'⟩, locked,
      locked'⟩ := twins.agree named.1 sound.1
    have after := twins.tame alike tame tame' locked locked'
    rw [observe_cons run, observe_cons run']
    exact .cons ⟨same, after.kept_eq alike⟩ (ih after named.2 sound.2)

/-- Two stores that were opened with settings that differ only in the mode in which files are replaced,
the style of their text and the lock file answer the same requests with the same values and the same
errors, and after each of them every database file is missing in both, holds no catalog in both for the
same reason, or holds the same catalog in both. Only where a catalog is refused that was stored and
cannot be read back, each error tells of the text of that catalog in the style of its store. What stands
in the directory at first does not matter, as long as no directory stands where a second file or a lock
file is to be, and nobody else holds a lock. -/
theorem settings_unseen {config config' : Config} {directory : Path} {requests : List Request}
    (kin : config.Kin config') (opened : (openWith directory config).runOn fs = (.ok store, fs₁))
    (opened' : (openWith directory config').runOn fs = (.ok store', fs₁'))
    (clear : store.Clear (requests.filterMap Request.name?) fs₁)
    (sound : ∀ request ∈ requests, request.Sound) :
    List.Forall₂ (SeenAlike store store') (store.observe requests fs₁)
      (store'.observe requests fs₁') := by
  obtain ⟨kin, rfl⟩ := kin_of_openWith kin opened opened'
  refine (clear.twins kin).observe_alike (fun request mem name named => ?_) sound
  exact List.mem_filterMap.2 ⟨request, mem, named⟩

end Store

/-- The settings that differ from the standard ones in all that is about how files are kept. -/
def Config.opposite : Config :=
  { Config.standard with writeMode := WriteMode.overwrite.name, lockFile := true, pretty := true }

/-- Requests by which a database comes, is used and goes, and another one is read and changed. -/
def Request.samples : List Request :=
  [.create "tasks", .call "tasks" (.createCollection "open" NameMap.empty),
    .call "tasks" (.insert "open" [("title", .string "a")]), .list,
    .call "notes" (.delete "notes" none), .drop "tasks", .connect "tasks"]

def Store.standard : Store :=
  ⟨⟨["", "home"]⟩, .standard, .atomic, ⟨.maxPlusOne, false, false⟩⟩

/-- The store of the same directory with the other settings. -/
def Store.opposite : Store :=
  ⟨⟨["", "home"]⟩, .opposite, .overwrite, ⟨.maxPlusOne, false, true⟩⟩

/-- The standard settings and their opposite are not told apart by requests of every kind. -/
theorem Store.settings_unseen_opposite :
    (Store.openWith ⟨["", "home"]⟩ .standard).runOn .littered = (.ok .standard, .littered) ∧
    (Store.openWith ⟨["", "home"]⟩ .opposite).runOn .littered = (.ok .opposite, .littered) ∧
    Store.standard.Clear (Request.samples.filterMap Request.name?) .littered ∧
    List.Forall₂ (Store.SeenAlike .standard .opposite)
      (Store.standard.observe Request.samples .littered)
      (Store.opposite.observe Request.samples .littered) := by
  have kin : Config.standard.Kin .opposite := ⟨rfl, rfl⟩
  have names : ∀ name ∈ Request.samples.filterMap Request.name?, name = "tasks" ∨ name = "notes" := by
    decide
  have clear : Store.standard.Clear (Request.samples.filterMap Request.name?) .littered := by
    refine ⟨⟨["home"], rfl⟩, by decide, rfl, fun name mem path checked => ?_⟩
    obtain rfl := Store.databasePath_ok checked
    rcases names name mem with rfl | rfl
    · exact ⟨⟨_, _, rfl, FileSystem.isPlain_none⟩, ⟨_, _, rfl, FileSystem.isPlain_none⟩, nofun⟩
    · exact ⟨⟨_, _, rfl, FileSystem.isPlain_file _ _⟩, ⟨_, _, rfl, FileSystem.isPlain_none⟩, nofun⟩
  have opened : (Store.openWith ⟨["", "home"]⟩ .standard).runOn .littered = (.ok .standard, .littered) :=
    rfl
  have opened' : (Store.openWith ⟨["", "home"]⟩ .opposite).runOn .littered = (.ok .opposite, .littered) :=
    rfl
  exact ⟨opened, opened', clear, Store.settings_unseen kin opened opened' clear (by decide)⟩

/-! ## Where a text is refused -/

/-- How far a text was read: how many more containers may be open, the line and the column. -/
structure Cursor where
  room : Nat
  line : Nat
  column : Nat
deriving DecidableEq

namespace Cursor

variable {cursor next : Cursor}

/-- Past one symbol of a text that has no brackets in its strings, unless it opens a container that
there is no room for. -/
def past (cursor : Cursor) (symbol : Symbol) : Option Cursor :=
  let column := cursor.column + symbol.elim 1 Char.utf8Size
  if symbol = some '\n' then some ⟨cursor.room, cursor.line + 1, 0⟩
  else if symbol = some '[' ∨ symbol = some '\x7b' then
    if cursor.room = 0 then none else some ⟨cursor.room - 1, cursor.line, column⟩
  else if symbol = some ']' ∨ symbol = some '\x7d' then some ⟨cursor.room + 1, cursor.line, column⟩
  else some ⟨cursor.room, cursor.line, column⟩

/-- Where a reader stops in front of a container that there is no room for. -/
def stop? (cursor : Cursor) : List Symbol → Option Cursor
  | [] => none
  | symbol :: symbols =>
    match cursor.past symbol with
    | some next => next.stop? symbols
    | none => some cursor

/-- Symbols that a cursor passes can be left out if it starts behind them. -/
theorem stop?_append {symbols : List Symbol} (rest : List Symbol)
    (passed : symbols.foldlM past cursor = some next) :
    cursor.stop? (symbols ++ rest) = next.stop? rest := by
  induction symbols generalizing cursor with
  | nil =>
    cases passed
    rfl
  | cons symbol symbols ih =>
    obtain ⟨between, first, later⟩ := Option.bind_eq_some_iff.1 passed
    rw [List.cons_append, stop?, first]
    exact ih later

theorem passes_spaces (cursor : Cursor) (n : Nat) :
    (List.replicate n (some ' ')).foldlM past cursor =
      some ⟨cursor.room, cursor.line, cursor.column + n⟩ := by
  induction n generalizing cursor with
  | zero => rfl
  | succ n ih =>
    rw [List.replicate_succ, List.foldlM_cons, Nat.add_comm n, ← Nat.add_assoc]
    exact ih ⟨cursor.room, cursor.line, cursor.column + 1⟩

theorem passes_lineBreak (cursor : Cursor) (level : Nat) :
    ((Style.indented.lineBreak level).map some).foldlM past cursor =
      some ⟨cursor.room, cursor.line + 1, 2 * level⟩ := by
  rw [Style.lineBreak, List.map_cons, List.map_replicate, List.foldlM_cons]
  refine (passes_spaces ⟨cursor.room, cursor.line + 1, 0⟩ (2 * level)).trans ?_
  rw [Nat.zero_add]

/-- In compact text every array takes one column. -/
theorem stop?_compact (room line column level n : Nat) (rest : List Symbol) :
    stop? ⟨room, line, column⟩ (((Json.nested (room + 1 + n)).chars .compact level).map some ++ rest) =
      some ⟨0, line, column + room⟩ := by
  induction room generalizing column level rest with
  | zero =>
    rw [Nat.zero_add, Nat.add_comm, Json.nested, Json.chars]
    rfl
  | succ room ih =>
    rw [Nat.add_right_comm _ 1 n, Json.nested, Json.chars]
    simp only [Style.lineBreak, List.nil_append, moreItemsChars, List.append_nil, List.map_cons,
      List.map_append, List.cons_append, List.append_assoc]
    refine (ih (column + 1) (level + 1) _).trans ?_
    rw [Nat.add_assoc, Nat.add_comm 1]

/-- In indented text the item of an array is on a line of its own. -/
theorem stop?_item (room line column level : Nat) (item : Json) (rest : List Symbol) :
    ∃ after, stop? ⟨room + 1, line, column⟩
        (((Json.array [item]).chars .indented level).map some ++ rest) =
      stop? ⟨room, line + 1, 2 * (level + 1)⟩
        ((item.chars .indented (level + 1)).map some ++ after) := by
  refine ⟨((Style.indented.lineBreak level ++ [']']).map some) ++ rest, ?_⟩
  rw [Json.chars]
  simp only [moreItemsChars, List.append_nil, List.map_cons, List.map_append, List.cons_append,
    List.append_assoc]
  exact stop?_append _ (passes_lineBreak ⟨room, line, column + 1⟩ (level + 1))

theorem stop?_indented (room line column level n : Nat) (rest : List Symbol) :
    stop? ⟨room + 1, line, column⟩
        (((Json.nested (room + 2 + n)).chars .indented level).map some ++ rest) =
      some ⟨0, line + room + 1, 2 * (level + room + 1)⟩ := by
  induction room generalizing line column level rest with
  | zero =>
    obtain ⟨after, item⟩ := stop?_item 0 line column level (Json.nested (1 + n)) rest
    rw [show 0 + 2 + n = 1 + n + 1 by omega, Json.nested, item, Nat.add_comm 1, Json.nested, Json.chars]
    rfl
  | succ room ih =>
    obtain ⟨after, item⟩ := stop?_item (room + 1) line column level (Json.nested (room + 2 + n)) rest
    rw [show room + 1 + 2 + n = room + 2 + n + 1 by omega, Json.nested, item, ih,
      Nat.add_right_comm line 1, Nat.add_right_comm level 1]
    rfl

end Cursor

/-- The text of a catalog with one record in front of the value of its only field. -/
def Style.beforeValue (style : Style) : List Char :=
  '\x7b' :: (style.lineBreak 1 ++ stringChars "documents" ++ style.colon ++
  '\x7b' :: (style.lineBreak 2 ++ stringChars "c" ++ style.colon ++
  '\x7b' :: (style.lineBreak 3 ++ stringChars "schema" ++ style.colon ++ '\x7b' :: '\x7d' ::
  ',' :: (style.lineBreak 3 ++ stringChars "data" ++ style.colon ++
  '[' :: (style.lineBreak 4 ++
  '\x7b' :: (style.lineBreak 5 ++ stringChars "_id" ++ style.colon ++ '1' ::
  ',' :: (style.lineBreak 5 ++ stringChars "a" ++ style.colon)))))))

/-- The value of the only field of the only record stands behind a text that depends on the style
only. -/
theorem chars_holding (value : Json) (style : Style) : ∃ after,
    (Catalog.holding (some [⟨1, [("a", value)]⟩])).toJson.chars style 0 =
      style.beforeValue ++ (value.chars style 5 ++ after) := by
  have json : (Catalog.holding (some [⟨1, [("a", value)]⟩])).toJson =
      .object [("documents", .object [("c", .object [("schema", .object []),
        ("data", .array [.object [("_id", .number (.int 1)), ("a", value)]])])])] := rfl
  refine ⟨style.lineBreak 4 ++ '\x7d' :: (style.lineBreak 3 ++ ']' :: (style.lineBreak 2 ++ '\x7d' ::
    (style.lineBreak 1 ++ '\x7d' :: (style.lineBreak 0 ++ ['\x7d'])))), ?_⟩
  rw [json]
  have one : (Number.int 1).chars = ['1'] := by decide +kernel
  simp [Json.chars, moreItemsChars, moreMembersChars, Style.beforeValue, one]

/-- What the reader of a file says of a text that nests too deep: where the container stands that it
had no room for. -/
def tooDeepWording (bytes : ByteArray) : String :=
  match Cursor.stop? ⟨maxDepth, 1, 0⟩ (Symbol.ofBytes bytes) with
  | some ⟨_, line, column⟩ => s!"recursion limit exceeded at line {line} column {column + 1}"
  | none => ""

/-- Where a reader stops in the text of the lost catalog is where it stops in the nested arrays, from
where it has come to by then. -/
theorem stop?_lost {style : Style} {cursor found : Cursor}
    (passed : (style.beforeValue.map some).foldlM Cursor.past ⟨maxDepth, 1, 0⟩ = some cursor)
    (stops : ∀ rest, cursor.stop? (((Json.nested 123).chars style 5).map some ++ rest) = some found) :
    Cursor.stop? ⟨maxDepth, 1, 0⟩ (Symbol.ofBytes (Catalog.lost.encode style)) = some found := by
  obtain ⟨after, text⟩ := chars_holding (Json.nested 123) style
  rw [Catalog.encode, Catalog.text, Json.text, Symbol.ofBytes_toUTF8, Symbol.ofString,
    String.toList_ofList, Catalog.lost, text, List.map_append, List.map_append,
    Cursor.stop?_append _ passed]
  exact stops _

theorem stop?_lost_compact :
    Cursor.stop? ⟨maxDepth, 1, 0⟩ (Symbol.ofBytes (Catalog.lost.encode .compact)) =
      some ⟨0, 1, 174⟩ := by
  have passed : (Style.compact.beforeValue.map some).foldlM Cursor.past ⟨maxDepth, 1, 0⟩ =
      some ⟨122, 1, 52⟩ := by decide +kernel
  exact stop?_lost passed (Cursor.stop?_compact 122 1 52 5 0)

theorem stop?_lost_indented :
    Cursor.stop? ⟨maxDepth, 1, 0⟩ (Symbol.ofBytes (Catalog.lost.encode .indented)) =
      some ⟨0, 130, 254⟩ := by
  have passed : (Style.indented.beforeValue.map some).foldlM Cursor.past ⟨maxDepth, 1, 0⟩ =
      some ⟨122, 8, 15⟩ := by decide +kernel
  exact stop?_lost passed (Cursor.stop?_indented 121 8 15 5 0)

/-! ## Settings that are seen -/

/-- The standard settings, but for the style of the texts. -/
def Config.indented : Config :=
  { Config.standard with pretty := true }

/-- The store of the home directory that is opened with settings that say nothing else of its files. -/
def Store.inHome (config : Config) : Store :=
  ⟨⟨["", "home"]⟩, config, .atomic, ⟨.maxPlusOne, false, false⟩⟩

/-- Requests by which a database is lost and then looked at. -/
def Request.losing : List Request :=
  [.call "notes" (.insert "c" [("a", Json.nested 123)]), .call "notes" (.select "c" none)]

theorem Store.ready_inHome (config : Config) :
    ((Store.inHome config).handle "notes" ⟨["", "home", "notes.json"]⟩).Ready ["home"] "notes.json"
      FileSystem.plain (Catalog.holding none) := by
  obtain ⟨bytes, read, decoded⟩ := CatalogFile.content_ok.1 Database.content_plain
  cases read
  have found : FileSystem.plain.resolve ⟨["", "home", "notes.json"]⟩ =
    .ok (.named ["home"] "notes.json" false) := rfl
  have temp : FileSystem.plain.resolve ⟨["", "home", "notes.json.tmp"]⟩ =
    .ok (.named ["home"] "notes.json.tmp" false) := rfl
  refine ⟨⟨⟨_, _, ⟨found, by decide, rfl⟩, decoded⟩, fun _ => ?_⟩, nofun⟩
  exact ⟨none, ⟨temp, by decide, rfl⟩, FileSystem.isPlain_none⟩

/-- The second request is told of the text that the first one left. -/
theorem Store.observe_losing (config : Config) :
    ∃ kept, (Store.inHome config).observe Request.losing .plain =
      [(.ok (.answer (.record ⟨1, [("a", Json.nested 123)]⟩)), kept),
        (.error (.corruptCatalog "/home/notes.json" (.undecodable .malformed
          (Catalog.lost.encode (Style.ofIndent config.pretty)))), kept)] := by
  have checked : (Store.inHome config).databasePath "notes" = .ok ⟨["", "home", "notes.json"]⟩ := by
    rw [Store.databasePath, Name.checkDatabase_eq_ok.2 (by decide +kernel)]
    rfl
  obtain ⟨fs, inserted, lost⟩ := Database.lost_after_insert (Store.ready_inHome config) rfl rfl
  refine ⟨(Store.inHome config).kept fs, ?_⟩
  have first : ((Request.call "notes" (.insert "c" [("a", Json.nested 123)])).run
      (Store.inHome config)).runOn .plain =
        (.ok (.answer (.record ⟨1, [("a", Json.nested 123)]⟩)), fs) := by
    rw [Request.runOn_call checked, Call.run, Disk.runOn_map, Disk.runOn_map, inserted]
    rfl
  have second : ((Request.call "notes" (.select "c" none)).run (Store.inHome config)).runOn fs =
      (.error (.corruptCatalog "/home/notes.json" (.undecodable .malformed
        (Catalog.lost.encode (Style.ofIndent config.pretty)))), fs) := by
    rw [Request.runOn_call checked, Call.run, Disk.runOn_map, Disk.runOn_map, Database.select,
      Database.read, Database.locked, if_neg (by exact Bool.false_ne_true), Disk.runOn_bind,
      CatalogFile.runOn_load, lost]
    rfl
  rw [Request.losing, Store.observe_cons first, Store.observe_cons second]
  rfl

/-- Two stores that differ in the style only need not give the same error: a catalog that cannot be read
back is refused with the place where reading stopped, and that is another place in the other style. -/
theorem Store.settings_seen_in_reason : ∃ stored fault fault' kept kept',
    Config.standard.Kin .indented ∧
    (openWith ⟨["", "home"]⟩ .standard).runOn .plain = (.ok (inHome .standard), .plain) ∧
    (openWith ⟨["", "home"]⟩ .indented).runOn .plain = (.ok (inHome .indented), .plain) ∧
    (inHome .standard).Clear (Request.losing.filterMap Request.name?) .plain ∧
    (∀ request ∈ Request.losing, request.Sound) ∧
    (inHome .standard).observe Request.losing .plain =
      [(.ok stored, kept), (.error (.corruptCatalog "/home/notes.json" fault), kept)] ∧
    (inHome .indented).observe Request.losing .plain =
      [(.ok stored, kept'), (.error (.corruptCatalog "/home/notes.json" fault'), kept')] ∧
    fault.reason tooDeepWording = "recursion limit exceeded at line 1 column 175" ∧
    fault'.reason tooDeepWording = "recursion limit exceeded at line 130 column 255" := by
  obtain ⟨kept, seen⟩ := observe_losing .standard
  obtain ⟨kept', seen'⟩ := observe_losing .indented
  have clear : (inHome .standard).Clear (Request.losing.filterMap Request.name?) .plain := by
    refine ⟨⟨["home"], rfl⟩, by decide, rfl, fun name mem path checked => ?_⟩
    obtain rfl := databasePath_ok checked
    obtain rfl : name = "notes" := by simpa [Request.losing, Request.name?] using mem
    exact ⟨⟨_, _, rfl, FileSystem.isPlain_none⟩, ⟨_, _, rfl, FileSystem.isPlain_none⟩, nofun⟩
  refine ⟨_, _, _, kept, kept', ⟨rfl, rfl⟩, rfl, rfl, clear, by decide +kernel, seen, seen', ?_, ?_⟩
  · rw [CatalogFault.reason, tooDeepWording, Config.standard, Style.ofIndent, if_neg Bool.false_ne_true,
      stop?_lost_compact]
    decide +kernel
  · rw [CatalogFault.reason, tooDeepWording, Config.indented, Style.ofIndent, if_pos rfl,
      stop?_lost_indented]
    decide +kernel

end DocStore
