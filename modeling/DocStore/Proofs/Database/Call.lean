-- SUMMARY: Calls on a database as data, and what each of them means for a catalog alone.
import DocStore.Database
import DocStore.Proofs.Operation

/-!
# Calls on a database

A call is one of the operations of a handle with its arguments. `Call.run` makes it on a database,
and `Call.effect` says what it is to answer, and which catalog it is to write, given the catalog at
that time and nothing else: no file, no lock and no text.
-/

namespace DocStore

/-- An operation of a handle with its arguments. -/
inductive Call where
  | createCollection (collection : String) (schema : Schema)
  | insert (collection : String) (fields : Object)
  | select (collection : String) (p : Option Predicate)
  | delete (collection : String) (p : Option Predicate)
  | update (collection : String) (p : Option Predicate) (patch : Object)
  | collectionNames
  | schema (collection : String)

/-- What a call answers. -/
inductive Answer where
  | done
  | record (r : Record)
  | records (records : List Record)
  | count (n : Nat)
  | names (names : List String)
  | schema (schema : Schema)

namespace Call

/-- Make a call on a database. -/
def run (db : Database) : Call → Disk Answer
  | .createCollection collection definition =>
    (fun _ => .done) <$> db.createCollection collection definition
  | .insert collection fields => .record <$> db.insert collection fields
  | .select collection p => .records <$> db.select collection p
  | .delete collection p => .count <$> db.delete collection p
  | .update collection p patch => .count <$> db.update collection p patch
  | .collectionNames => .names <$> db.collectionNames
  | .schema collection => .schema <$> db.schema collection

/-- The name and the schema of a new collection are checked before the file is looked at. -/
theorem run_createCollection (db : Database) (collection : String) (definition : Schema) :
    (Call.createCollection collection definition).run db = (do
      Disk.ofExcept (Catalog.checkNewCollection db.options.enforceSchema collection definition)
      (fun _ => Answer.done) <$>
        db.write fun catalog => .ok ((), catalog.createCollection collection definition)) := by
  simp only [run, Database.createCollection, map_bind]

/-- An answer, and the catalog that is written with it. -/
def writing {α : Type} (answer : α → Answer) (result : Except Error (α × Catalog)) :
    Except Error (Answer × Option Catalog) :=
  result.map fun (a, next) => (answer a, some next)

/-- An answer with which nothing is written. -/
def reading {α : Type} (answer : α → Answer) (result : Except Error α) :
    Except Error (Answer × Option Catalog) :=
  result.map fun a => (answer a, none)

/-- What a call answers on a catalog, and the catalog that it writes, if it writes one. -/
def effect (options : DatabaseOptions) (c : Catalog) : Call → Except Error (Answer × Option Catalog)
  | .createCollection collection definition =>
    writing (fun _ => .done) do
      Catalog.checkNewCollection options.enforceSchema collection definition
      return ((), c.createCollection collection definition)
  | .insert collection fields =>
    writing .record (c.insertRecord options.idPolicy options.enforceSchema collection fields)
  | .select collection p => reading .records (c.select collection p)
  | .delete collection p => writing .count (c.deleteRecords collection p)
  | .update collection p patch =>
    writing .count (c.updateRecords options.enforceSchema collection p patch)
  | .collectionNames => reading .names (.ok c.names)
  | .schema collection => reading .schema (c.schemaOf collection)

def answer (options : DatabaseOptions) (c : Catalog) (call : Call) : Except Error Answer :=
  (call.effect options c).map Prod.fst

/-- The catalog that a call writes, if it writes one. -/
def written? (options : DatabaseOptions) (c : Catalog) (call : Call) : Option Catalog :=
  (call.effect options c).toOption.bind Prod.snd

/-- The catalog after a call. -/
def next (options : DatabaseOptions) (c : Catalog) (call : Call) : Catalog :=
  (call.written? options c).getD c

/-- Whether the values among the arguments of a call that it stores are sound. -/
def Sound : Call → Prop
  | .insert _ fields => (Json.object fields).Sound
  | .update _ _ patch => (Json.object patch).Sound
  | _ => True

instance (call : Call) : Decidable call.Sound :=
  match call with
  | .insert _ fields => inferInstanceAs (Decidable (Json.object fields).Sound)
  | .update _ _ patch => inferInstanceAs (Decidable (Json.object patch).Sound)
  | .createCollection _ _ => isTrue trivial
  | .select _ _ => isTrue trivial
  | .delete _ _ => isTrue trivial
  | .collectionNames => isTrue trivial
  | .schema _ => isTrue trivial

variable {options : DatabaseOptions} {c next : Catalog} {call : Call}

theorem written?_writing {α : Type} {answer : α → Answer} {result : Except Error (α × Catalog)}
    (h : (writing answer result).toOption.bind Prod.snd = some next) :
    ∃ a, result = .ok (a, next) := by
  rcases result with error | ⟨a, written⟩
  · cases h
  · cases h
    exact ⟨a, rfl⟩

/-- A call that only reads writes nothing. -/
theorem written?_reading {α : Type} (answer : α → Answer) (result : Except Error α) :
    (reading answer result).toOption.bind Prod.snd = none := by
  cases result <;> rfl

/-- A call with sound arguments writes well-formed catalogs. -/
theorem wellFormed_written (wf : c.WellFormed) (sound : call.Sound)
    (h : call.written? options c = some next) : next.WellFormed := by
  cases call with
  | createCollection collection definition =>
    rw [written?, effect] at h
    obtain ⟨_, result⟩ := written?_writing h
    obtain ⟨_, _, result⟩ := bind_eq_ok.1 result
    cases result
    exact wf.createCollection collection definition
  | insert collection fields =>
    obtain ⟨r, result⟩ := written?_writing h
    exact wf.insertRecord sound result
  | delete collection p =>
    obtain ⟨count, result⟩ := written?_writing h
    exact wf.deleteRecords result
  | update collection p patch =>
    obtain ⟨count, result⟩ := written?_writing h
    exact wf.updateRecords sound result
  | select collection p =>
    rw [written?, effect, written?_reading] at h
    cases h
  | collectionNames =>
    rw [written?, effect, written?_reading] at h
    cases h
  | schema collection =>
    rw [written?, effect, written?_reading] at h
    cases h

end Call

/-! ## Calls one after another -/

/-- What is seen of calls one after another on a database: each answer, and what the file holds
after it. -/
def Database.observe (db : Database) :
    List Call → FileSystem → List (Except Error Answer × Except Error Catalog)
  | [], _ => []
  | call :: calls, fs =>
    let (answer, fs) := (call.run db).runOn fs
    (answer, db.file.content fs) :: db.observe calls fs

/-- What is to be seen of calls one after another, given the catalog at first. -/
def Catalog.observe (options : DatabaseOptions) :
    List Call → Catalog → List (Except Error Answer × Except Error Catalog)
  | [], _ => []
  | call :: calls, c =>
    (call.answer options c, .ok (call.next options c)) :: observe options calls (call.next options c)

/-- The catalogs that calls one after another write. -/
def Catalog.written (options : DatabaseOptions) : List Call → Catalog → List Catalog
  | [], _ => []
  | call :: calls, c =>
    (call.written? options c).toList ++ written options calls (call.next options c)

end DocStore
