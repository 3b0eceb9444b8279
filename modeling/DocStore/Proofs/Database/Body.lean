-- SUMMARY: What a call does under the lock file, and what the whole call leaves of the files.
import DocStore.Proofs.FileLock.Apart
import DocStore.Proofs.Process.Stage

/-!
# Calls under the lock file

A call is refused before anything is looked at, or it is a body that runs under the lock file, if that
is used. The body loads the catalog and, if the call writes one, stores the next. It touches nothing
but the database file and the second file; and the database file holds what it held, byte for byte, or
the catalog that the call writes.
-/

namespace DocStore

variable {db : Database} {fs fs' : FileSystem} {c next : Catalog}

/-- What a database holds depends only on what its path leads to. -/
theorem Database.content_of_find (same : fs'.find db.path = fs.find db.path) :
    db.file.content fs' = db.file.content fs := by
  rw [Database.path] at same
  rw [CatalogFile.content, CatalogFile.content, FileSystem.read, FileSystem.read, same]

namespace Call

variable {call : Call} {options : DatabaseOptions}

theorem written?_eq_some :
    call.written? options c = some next ↔ ∃ answer, call.effect options c = .ok (answer, some next) := by
  unfold written?
  rcases call.effect options c with error | ⟨answer, _ | written⟩
  · simp [Except.toOption]
  · simp [Except.toOption]
  · constructor
    · rintro ⟨⟩
      exact ⟨answer, rfl⟩
    · rintro ⟨_, ⟨⟩⟩
      rfl

/-- What a call that is not refused does under the lock file. -/
def body (db : Database) (call : Call) : Disk Reply :=
  ((Work.call db call).turn db.path).body db

/-- A call on a file that holds no catalog fails with what is wrong with it. -/
theorem runOn_body_error (call : Call) {error : Error} (content : db.file.content fs = .error error) :
    (call.body db).runOn fs = (.error error, fs) := by
  simp only [body, Work.turn, Turn.body, Disk.runOn_bind, CatalogFile.runOn_load, content]

/-- A call on a file with a catalog is answered by the catalog, and stores what is written. -/
theorem runOn_body (call : Call) (content : db.file.content fs = .ok c) :
    (call.body db).runOn fs =
      match call.effect db.options c with
      | .error error => (.error error, fs)
      | .ok (answer, none) => (.ok (.answer answer), fs)
      | .ok (answer, some next) =>
        (((db.file.store next).runOn fs).1.map fun _ => .answer answer,
          ((db.file.store next).runOn fs).2) := by
  simp only [body, Work.turn, Turn.body, Disk.runOn_bind, CatalogFile.runOn_load, content]
  rcases call.effect db.options c with error | ⟨answer, _ | next⟩
  · rfl
  · rfl
  · simp only [Except.map, Database.conclude, Disk.runOn_bind]
    rcases (db.file.store next).runOn fs with ⟨error | _, fs'⟩ <;> rfl

/-- A call changes nothing but the database file and the second file under the lock. -/
theorem touched_body (db : Database) (call : Call) (fs : FileSystem) :
    db.file.Touched fs ((call.body db).runOn fs).2 ∧
      ((call.body db).runOn fs).2.locked = fs.locked := by
  have unchanged : db.file.Touched fs fs := .of_tidied (.refl _ _)
  cases content : db.file.content fs with
  | error error =>
    rw [runOn_body_error call content]
    exact ⟨unchanged, rfl⟩
  | ok c =>
    rw [runOn_body call content]
    rcases call.effect db.options c with error | ⟨answer, _ | next⟩
    · exact ⟨unchanged, rfl⟩
    · exact ⟨unchanged, rfl⟩
    · exact CatalogFile.touched_of_store rfl

/-! ## Whole calls -/

/-- A call is refused whatever the file system is, or it is what it does under the lock file. -/
theorem refused_or_locked (db : Database) (call : Call) :
    (∃ error, ∀ fs, (Reply.answer <$> call.run db).runOn fs = (.error error, fs)) ∨
      Reply.answer <$> call.run db = db.locked (call.body db) := by
  cases refused : (Work.call db call).refusal? db.path default with
  | none => exact .inr (map_run refused)
  | some error =>
    refine .inl ⟨error, fun fs => ?_⟩
    have on : (Work.call db call).On db.path := rfl
    have refusedThere : (Work.call db call).refusal? db.path fs = some error := by
      cases call <;> exact refused
    exact Work.runOn_eq_of_refusal on refusedThere

/-- What the database file holds after a call under the lock file: what it held, byte for byte, or
the catalog that the call writes. -/
theorem file_after_body (db : Database) (call : Call) (fs : FileSystem) :
    ((call.body db).runOn fs).2.find db.path = fs.find db.path ∨
      ∃ c answer next, db.file.content fs = .ok c ∧
        call.effect db.options c = .ok (answer, some next) ∧
        ((call.body db).runOn fs).2.read db.path = .ok (next.encode db.file.style) := by
  cases content : db.file.content fs with
  | error error =>
    rw [runOn_body_error call content]
    exact .inl rfl
  | ok c =>
    rw [runOn_body call content]
    rcases written : call.effect db.options c with error | ⟨answer, _ | next⟩
    · exact .inl rfl
    · exact .inl rfl
    · simp only
      rcases stored : (db.file.store next).runOn fs with ⟨error | _, fs'⟩
      · exact .inl (Database.find_of_tidied (CatalogFile.tidied_of_store stored).1)
      · obtain ⟨directory, file, number, bytes, leads, _⟩ := CatalogFile.leads_of_content content
        obtain ⟨newNumber, newLeads⟩ := (CatalogFile.stored_of_store leads stored).content
        exact .inr ⟨c, answer, next, rfl, written, newLeads.read⟩

/-- The same of a whole call: the lock file stands beside the database file. -/
theorem file_after_run (db : Database) (call : Call) (fs : FileSystem) :
    ((call.run db).runOn fs).2.find db.path = fs.find db.path ∨
      ∃ c answer next, db.file.content fs = .ok c ∧
        call.effect db.options c = .ok (answer, some next) ∧
        ((call.run db).runOn fs).2.read db.path = .ok (next.encode db.file.style) := by
  have same : ((call.run db).runOn fs).2 = ((Reply.answer <$> call.run db).runOn fs).2 := by
    rw [Disk.runOn_map]
  rw [same]
  rcases refused_or_locked db call with ⟨error, refused⟩ | accepted
  · rw [refused]
    exact .inl rfl
  rw [accepted, Database.locked]
  cases db.options.lockFile with
  | false => exact file_after_body db call fs
  | true =>
    simp only [if_true, FileLock.runOn_hold_eq]
    rcases acquired : (FileLock.acquire db.path).runOn fs with ⟨error | number, fs₁⟩
    · exact .inl (Database.find_of_opened (FileLock.opened_of_acquire acquired).1)
    · have opened := Database.find_of_opened (FileLock.opened_of_acquire acquired).1
      have unlocked : ∀ fs' : FileSystem, (fs'.unlock number).find db.path = fs'.find db.path :=
        fun fs' => FileSystem.find_of_same (fs'.same_of_locked _) db.path
      rcases file_after_body db call fs₁ with kept | ⟨c, answer, next, content, written, read⟩
      · exact .inl ((unlocked _).trans (kept.trans opened))
      · refine .inr ⟨c, answer, next, (Database.content_of_find opened).symm.trans content, written, ?_⟩
        rw [← read, FileSystem.read, FileSystem.read, unlocked]

end Call

end DocStore
