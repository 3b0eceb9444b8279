-- SUMMARY: Two calls that commute on the catalog can change places on the database.
import DocStore.Proofs.CatalogFile.Again
import DocStore.Proofs.Database.Body
import DocStore.Proofs.Database.Refinement

/-!
# Calls that change places

Two calls commute on a catalog if each of them answers the same after the other, and the catalog that
both leave is the same in either order. Then they can change places on a database whose file holds the
catalog: the answers are the same, and so is every byte in the file system afterwards. This includes
calls that are refused, that find no database file or a lock that is taken, and that cannot write.
-/

namespace DocStore

/-! ## Computations in either order -/

namespace Disk

variable {α β γ δ : Type} {x : Disk α} {y : Disk β} {fs : FileSystem}

/-- The results of two computations one after the other, and what they leave. -/
def both (x : Disk α) (y : Disk β) (fs : FileSystem) :
    (Except Error α × Except Error β) × FileSystem :=
  let (a, fs) := x.runOn fs
  let (b, fs) := y.runOn fs
  ((a, b), fs)

/-- Whether two computations on a file system can change places: each of them gives the same result
in either order, and what they leave is the same. -/
def Commute (x : Disk α) (y : Disk β) (fs : FileSystem) : Prop :=
  both y x fs = ((both x y fs).1.swap, (both x y fs).2)

theorem both_eq (x : Disk α) (y : Disk β) (fs : FileSystem) :
    both x y fs = (((x.runOn fs).1, (y.runOn (x.runOn fs).2).1), (y.runOn (x.runOn fs).2).2) := rfl

/-- Which of two computations is named first makes no difference to whether they commute. -/
theorem Commute.symm (commute : Commute x y fs) : Commute y x fs := by
  unfold Commute at commute ⊢
  rw [commute, Prod.swap_swap]

/-- A computation that changes nothing changes places with one after which it still gives the same. -/
theorem commute_of_unchanged {result : Except Error α} (here : x.runOn fs = (result, fs))
    (after : x.runOn (y.runOn fs).2 = (result, (y.runOn fs).2)) : Commute x y fs := by
  rw [Commute, both_eq, both_eq, here, after]
  rfl

/-- Computations can change places if they can under other names for their results. -/
theorem commute_of_map {f : α → γ} {g : β → δ} (injective : ∀ {a a'}, f a = f a' → a = a')
    (otherInjective : ∀ {b b'}, g b = g b' → b = b') (commute : Commute (f <$> x) (g <$> y) fs) :
    Commute x y fs := by
  simp only [Commute, both_eq, runOn_map, Prod.swap_prod_mk, Prod.mk.injEq] at commute ⊢
  obtain ⟨⟨second, first⟩, left⟩ := commute
  exact ⟨⟨map_inj otherInjective second, map_inj injective first⟩, left⟩

end Disk

/-! ## The lock file -/

namespace FileLock

variable {path : Path} {fs fs₁ fs₂ : FileSystem} {number : Nat}

/-- A lock that was taken was free, and its file stands where its path leads. -/
theorem acquire_ok (h : (acquire path).runOn fs = (.ok number, fs₁)) :
    Stands path fs₁ number ∧ number ∉ fs.locked ∧ fs₁.locked = number :: fs.locked := by
  simp only [acquire, Disk.runOn_bind, Disk.runOn_attempt] at h
  cases opens : fs.openOrCreate (pathFor path) with
  | error fault => simp [opens] at h
  | ok result =>
    obtain ⟨opened, fs₀⟩ := result
    have stands := stands_of_openOrCreate opens
    have same := (opened_of_openOrCreate opens).2
    simp only [opens, runOn_lockOpened, FileSystem.tryLock?] at h
    by_cases taken : opened ∈ fs₀.locked
    · simp [taken] at h
    · simp only [if_neg taken, Disk.runOn_pure] at h
      cases h
      exact ⟨stands.of_same (fs₀.same_of_locked _), same ▸ taken, congrArg _ same⟩

/-- A lock that was given back is taken again, and everything is as it was under it. -/
theorem acquire_again (file : CatalogFile) (h : (acquire file.path).runOn fs = (.ok number, fs₁))
    (touched : file.Touched fs₁ fs₂) (locked : fs₂.locked = fs₁.locked) :
    (acquire file.path).runOn (fs₂.unlock number) = (.ok number, fs₂) := by
  obtain ⟨stands, free, taken⟩ := acquire_ok h
  have again : Stands file.path (fs₂.unlock number) number :=
    (stands.of_touched touched).of_same (fs₂.same_of_locked _)
  have before : (fs₂.unlock number).locked = fs.locked := by
    rw [FileSystem.unlock, locked, taken, List.erase_cons_head]
  have retaken : (fs₂.unlock number).tryLock? number = some fs₂ := by
    rw [FileSystem.tryLock?, before, if_neg free, ← taken, ← locked]
    rfl
  simp only [acquire, Disk.runOn_bind, Disk.runOn_attempt, again.openOrCreate, runOn_lockOpened,
    retaken, Disk.runOn_pure]

/-- A lock that cannot be taken cannot be taken the next time either, and nothing changes then. -/
theorem acquire_again_error {error : Error} (h : (acquire path).runOn fs = (.error error, fs₁)) :
    (acquire path).runOn fs₁ = (.error error, fs₁) := by
  have failed := h
  simp only [acquire, Disk.runOn_bind, Disk.runOn_attempt] at h
  cases opens : fs.openOrCreate (pathFor path) with
  | error fault =>
    rw [opens] at h
    cases h
    exact failed
  | ok result =>
    obtain ⟨opened, fs₀⟩ := result
    simp only [opens, runOn_lockOpened] at h
    cases taken : fs₀.tryLock? opened with
    | some _ => simp [taken] at h
    | none =>
      rw [taken] at h
      cases h
      simp only [acquire, Disk.runOn_bind, Disk.runOn_attempt,
        (stands_of_openOrCreate opens).openOrCreate, runOn_lockOpened, taken]

end FileLock

variable {db : Database} {fs fs' : FileSystem} {c next : Catalog}

theorem Database.Unhindered.tempPlain (unhindered : db.Unhindered fs) : db.file.TempPlain fs := by
  intro mode place found looked
  obtain ⟨_, _, lookedPlain, plain⟩ := unhindered.temp mode
  cases lookedPlain.symm.trans looked
  exact plain

/-- What runs under the lock file can change places if it can by itself, and leaves the lock file
alone. -/
theorem Database.commute_locked {α β : Type} {x : Disk α} {y : Disk β}
    (touched : ∀ fs, db.file.Touched fs (x.runOn fs).2 ∧ (x.runOn fs).2.locked = fs.locked)
    (otherTouched : ∀ fs, db.file.Touched fs (y.runOn fs).2 ∧ (y.runOn fs).2.locked = fs.locked)
    (inner : ∀ {fs₁}, FileLock.Opened db.path fs fs₁ → Disk.Commute x y fs₁) :
    Disk.Commute (db.locked x) (db.locked y) fs := by
  unfold Database.locked
  cases db.options.lockFile with
  | false => exact inner (.inl (.refl _ _))
  | true =>
    -- Either the lock cannot be taken by both, or it is as if it had been taken once for both.
    rcases acquired : (FileLock.acquire db.path).runOn fs with ⟨error | number, fs₁⟩
    · have again := FileLock.acquire_again_error acquired
      simp only [if_true, Disk.Commute, Disk.both_eq, FileLock.runOn_hold_eq, acquired, again,
        Prod.swap_prod_mk]
    · have commute := inner (FileLock.opened_of_acquire acquired).1
      have again := FileLock.acquire_again db.file acquired (touched fs₁).1 (touched fs₁).2
      have otherAgain :=
        FileLock.acquire_again db.file acquired (otherTouched fs₁).1 (otherTouched fs₁).2
      simp only [Disk.Commute, Disk.both_eq, Prod.swap_prod_mk, Prod.mk.injEq] at commute
      obtain ⟨results, left⟩ := commute
      change (FileLock.acquire db.path).runOn _ = _ at again otherAgain
      simp only [if_true, Disk.Commute, Disk.both_eq, FileLock.runOn_hold_eq, acquired, again,
        otherAgain, Prod.swap_prod_mk, Prod.mk.injEq, left]
      exact ⟨results, trivial⟩

/-! ## The catalog that a call leaves -/

namespace Call

variable {call first second : Call} {options : DatabaseOptions} {answer : Answer}

theorem next_of_effect (effect : call.effect options c = .ok (answer, some next)) :
    call.next options c = next := by
  rw [Call.next, written?_eq_some.2 ⟨answer, effect⟩]
  rfl

theorem isSome_writing {α : Type} (answer : α → Answer) (result : Except Error (α × Catalog)) :
    ((writing answer result).toOption.bind Prod.snd).isSome =
      (true && ((writing answer result).map Prod.fst).toOption.isSome) := by
  cases result <;> rfl

/-- Whether a call writes depends on its kind and on whether it succeeds. -/
theorem isSome_written? (call : Call) (options : DatabaseOptions) : ∃ writes : Bool, ∀ c,
    (call.written? options c).isSome = (writes && (call.answer options c).toOption.isSome) := by
  cases call with
  | createCollection collection definition => exact ⟨true, fun c => isSome_writing (fun _ => .done) _⟩
  | insert collection fields => exact ⟨true, fun c => isSome_writing ..⟩
  | delete collection p => exact ⟨true, fun c => isSome_writing ..⟩
  | update collection p patch => exact ⟨true, fun c => isSome_writing ..⟩
  | select collection p => exact ⟨false, fun c => congrArg _ (written?_reading ..)⟩
  | collectionNames => exact ⟨false, fun c => congrArg _ (written?_reading ..)⟩
  | schema collection => exact ⟨false, fun c => congrArg _ (written?_reading ..)⟩

/-- A call that answers alike on two catalogs writes on both or on neither. -/
theorem isSome_written?_of_answer {d : Catalog}
    (same : call.answer options d = call.answer options c) :
    (call.written? options d).isSome = (call.written? options c).isSome := by
  obtain ⟨writes, isSome⟩ := call.isSome_written? options
  rw [isSome, isSome, same]

theorem written?_eq_none_of_answer {d : Catalog}
    (same : call.answer options d = call.answer options c) (unwritten : call.written? options c = none) :
    call.written? options d = none := by
  rw [← Option.isNone_iff_eq_none, ← Option.not_isSome, isSome_written?_of_answer same, unwritten]
  rfl

/-- A call that answers the same on another catalog writes there if it writes here. -/
theorem exists_effect_of_answer {d : Catalog}
    (same : call.answer options d = call.answer options c)
    (written : call.effect options c = .ok (answer, some next)) :
    ∃ last, call.effect options d = .ok (answer, some last) := by
  have writes := isSome_written?_of_answer same
  rw [written?_eq_some.2 ⟨answer, written⟩, Option.isSome_some, Option.isSome_iff_exists] at writes
  obtain ⟨last, writes⟩ := writes
  obtain ⟨given, effect⟩ := written?_eq_some.1 writes
  rw [Call.answer, Call.answer, effect, written] at same
  cases same
  exact ⟨last, effect⟩

/-- Whether the catalog that a call writes, if it writes one, can be read again as it is: it opens at
most as many containers as can be read, and its doubles read back. -/
def Storable (db : Database) (c : Catalog) (call : Call) : Prop :=
  ∀ next ∈ call.written? db.options c, next.toJson.depth ≤ maxDepth ∧ next.toJson.ReadsBack

/-- A catalog that a call writes is read back from its text. -/
theorem Storable.decode (storable : call.Storable db c) (content : db.file.content fs = .ok c)
    (sound : call.Sound) (written : call.effect db.options c = .ok (answer, some next)) :
    Catalog.decode (next.encode db.file.style) = .ok next := by
  obtain ⟨bytes, -, decoded⟩ := CatalogFile.content_ok.1 content
  have wf := (Catalog.wellFormed_of_decode decoded).1
  have writes := written?_eq_some.2 ⟨answer, written⟩
  obtain ⟨depth, readsBack⟩ := storable next writes
  rw [Catalog.decode_encode_of_readsBack (wellFormed_written wf sound writes) readsBack, if_pos depth]

/-- A call that is not stopped leaves the next catalog in the file, and one that is leaves the file. -/
theorem content_body (content : db.file.content fs = .ok c) (sound : call.Sound)
    (storable : call.Storable db c) :
    db.file.content ((call.body db).runOn fs).2 = .ok c ∨
      db.file.content ((call.body db).runOn fs).2 = .ok (call.next db.options c) := by
  obtain ⟨directory, file, number, bytes, leads, decoded⟩ := CatalogFile.leads_of_content content
  rw [runOn_body call content]
  rcases written : call.effect db.options c with error | ⟨answer, _ | next⟩
  · exact .inl content
  · exact .inl content
  · simp only
    rcases stored : (db.file.store next).runOn fs with ⟨error | _, fs'⟩
    · have same := Database.find_of_tidied (CatalogFile.tidied_of_store stored).1
      exact .inl ((Database.content_of_find same).trans content)
    · obtain ⟨newNumber, newLeads⟩ := (CatalogFile.stored_of_store leads stored).content
      rw [next_of_effect written]
      have reads := storable.decode content sound written
      exact .inr (CatalogFile.content_ok.2 ⟨_, newLeads.read, reads⟩)

/-- A call that writes nothing answers from the catalog and leaves the files as they are. -/
theorem runOn_body_of_unwritten (call : Call) (content : db.file.content fs = .ok c)
    (unwritten : call.written? db.options c = none) :
    (call.body db).runOn fs = ((call.answer db.options c).map .answer, fs) := by
  rw [runOn_body call content, answer]
  rcases effect : call.effect db.options c with error | ⟨answer, _ | next⟩
  · rfl
  · rfl
  · cases unwritten.symm.trans (written?_eq_some.2 ⟨answer, effect⟩)

/-! ## Two calls that commute on the catalog -/

/-- Whether two calls commute on a catalog: each of them answers the same after the other, and both
leave the same catalog in either order. -/
structure Interchange (options : DatabaseOptions) (c : Catalog) (first second : Call) : Prop where
  answer : first.answer options (second.next options c) = first.answer options c
  otherAnswer : second.answer options (first.next options c) = second.answer options c
  next : first.next options (second.next options c) = second.next options (first.next options c)

theorem Interchange.symm (commute : Interchange options c first second) :
    Interchange options c second first :=
  ⟨commute.otherAnswer, commute.answer, commute.next.symm⟩

/-- Whether a call commutes with a change of the catalog: on the changed catalog it does what it does
without the change, and the catalog that it writes has the change too. -/
def CommutesWith (options : DatabaseOptions) (c : Catalog) (change : Catalog → Catalog) (call : Call) :
    Prop :=
  call.effect options (change c) =
    (call.effect options c).map fun (answer, next) => (answer, next.map change)

/-- A call answers the same after a change that it commutes with. -/
theorem CommutesWith.answer_eq {change : Catalog → Catalog}
    (commutes : CommutesWith options c change call) :
    call.answer options (change c) = call.answer options c := by
  unfold CommutesWith at commutes
  rw [Call.answer, Call.answer, commutes]
  cases call.effect options c <;> rfl

theorem CommutesWith.next_eq {change : Catalog → Catalog}
    (commutes : CommutesWith options c change call) :
    call.next options (change c) = change (call.next options c) := by
  unfold CommutesWith at commutes
  rw [Call.next, Call.next, written?, written?, commutes]
  rcases call.effect options c with error | ⟨answer, _ | next⟩ <;> rfl

/-- Two calls commute if each of them makes a change, or none, with which the other commutes. -/
theorem interchange_of_commutesWith {change otherChange : Catalog → Catalog}
    (made : first.next options c = c ∨ first.next options c = change c)
    (otherMade : second.next options c = c ∨ second.next options c = otherChange c)
    (commutes : CommutesWith options c otherChange first)
    (otherCommutes : CommutesWith options c change second)
    (same : otherChange (change c) = change (otherChange c)) :
    Interchange options c first second := by
  constructor
  · rcases otherMade with none | some
    · rw [none]
    · rw [some, commutes.answer_eq]
  · rcases made with none | some
    · rw [none]
    · rw [some, otherCommutes.answer_eq]
  · rcases made with none | some
    · rcases otherMade with otherNone | otherSome
      · rw [otherNone, none, otherNone]
      · rw [otherSome, commutes.next_eq, none, otherSome]
    · rw [some, otherCommutes.next_eq]
      rcases otherMade with otherNone | otherSome
      · rw [otherNone, some]
      · rw [otherSome, commutes.next_eq, some, same]

/-- A call that writes nothing changes places with any call with which it commutes. -/
theorem commute_body_of_unwritten (commute : Interchange db.options c first second)
    (content : db.file.content fs = .ok c) (sound : second.Sound) (storable : second.Storable db c)
    (unwritten : first.written? db.options c = none) :
    Disk.Commute (first.body db) (second.body db) fs := by
  refine Disk.commute_of_unchanged (runOn_body_of_unwritten first content unwritten) ?_
  rcases content_body content sound storable with kept | stored
  · exact runOn_body_of_unwritten first kept unwritten
  · rw [← commute.answer]
    exact runOn_body_of_unwritten first stored (written?_eq_none_of_answer commute.answer unwritten)

/-- A call after one with which it commutes, if both write: it stores the catalog of both, and
succeeds. -/
theorem runOn_body_of_stored {directory : Place} {file : String}
    (commute : Interchange db.options c first second)
    (written : first.effect db.options c = .ok (answer, some next))
    (serves : db.Serves directory file fs (second.next db.options c)) :
    (db.file.store (first.next db.options (second.next db.options c))).runOn fs =
        (.ok (), ((first.body db).runOn fs).2) ∧
      ((first.body db).runOn fs).1 = .ok (.answer answer) := by
  obtain ⟨last, effect⟩ := exists_effect_of_answer commute.answer written
  obtain ⟨number, bytes, leads, _⟩ := serves.content
  obtain ⟨fs', stored, _⟩ := CatalogFile.runOn_store leads (FileSystem.isPlain_file number bytes)
    serves.temp last
  have run := runOn_body first serves.content_eq
  simp only [effect, stored] at run
  rw [run, next_of_effect effect]
  exact ⟨stored, rfl⟩

/-- Two calls that commute and both write can change places: what is left is the catalog of both, and
nothing of the one that was stored first. -/
theorem commute_body_of_written {otherAnswer : Answer} {otherNext : Catalog}
    (commute : Interchange db.options c first second) (content : db.file.content fs = .ok c)
    (plain : db.file.TempPlain fs) (sound : first.Sound) (otherSound : second.Sound)
    (storable : first.Storable db c) (otherStorable : second.Storable db c)
    (written : first.effect db.options c = .ok (answer, some next))
    (otherWritten : second.effect db.options c = .ok (otherAnswer, some otherNext)) :
    Disk.Commute (first.body db) (second.body db) fs := by
  obtain ⟨directory, file, number, bytes, leads, decoded⟩ := CatalogFile.leads_of_content content
  have reads := storable.decode content sound written
  have otherReads := otherStorable.decode content otherSound otherWritten
  have run := runOn_body first content
  have otherRun := runOn_body second content
  simp only [written] at run
  simp only [otherWritten] at otherRun
  rcases CatalogFile.tempReady_or_error leads plain with ready | ⟨error, fails⟩
  · have serves : db.Serves directory file fs c := ⟨⟨number, bytes, leads, decoded⟩, ready⟩
    obtain ⟨fs₁, stored, serves₁, _⟩ := serves.store reads
    obtain ⟨fs₂, otherStored, serves₂, _⟩ := serves.store otherReads
    rw [← next_of_effect written] at serves₁
    rw [← next_of_effect otherWritten] at serves₂
    obtain ⟨last, result⟩ := runOn_body_of_stored commute.symm otherWritten serves₁
    obtain ⟨otherLast, otherResult⟩ := runOn_body_of_stored commute written serves₂
    -- Both orders store the same catalog last, over different ones.
    have same := CatalogFile.runOn_store_store leads ready next otherNext
      (first.next db.options (second.next db.options c))
    rw [stored, otherStored, otherLast, commute.next, last] at same
    rw [stored] at run
    rw [otherStored] at otherRun
    simp only [Disk.Commute, Disk.both_eq, run, otherRun, Prod.swap_prod_mk, result, otherResult]
    exact congrArg _ (congrArg Prod.snd same).symm
  · simp only [fails] at run otherRun
    simp only [Disk.Commute, Disk.both_eq, run, otherRun, Prod.swap_prod_mk]

/-- Two calls that can change places on every catalog can change places on the disk. -/
theorem commute_body (sound : first.Sound) (otherSound : second.Sound) (plain : db.file.TempPlain fs)
    (storable : ∀ c, db.file.content fs = .ok c → first.Storable db c ∧ second.Storable db c)
    (commute : ∀ c, db.file.content fs = .ok c → Interchange db.options c first second) :
    Disk.Commute (first.body db) (second.body db) fs := by
  cases content : db.file.content fs with
  | error error =>
    refine Disk.commute_of_unchanged (runOn_body_error first content) ?_
    rw [runOn_body_error second content]
    exact runOn_body_error first content
  | ok c =>
    obtain ⟨firstStorable, secondStorable⟩ := storable c content
    have here := commute c content
    cases writes : first.written? db.options c with
    | none => exact commute_body_of_unwritten here content otherSound secondStorable writes
    | some next =>
      cases otherWrites : second.written? db.options c with
      | none =>
        exact (commute_body_of_unwritten here.symm content sound firstStorable otherWrites).symm
      | some otherNext =>
        obtain ⟨answer, written⟩ := written?_eq_some.1 writes
        obtain ⟨otherAnswer, otherWritten⟩ := written?_eq_some.1 otherWrites
        exact commute_body_of_written here content plain sound otherSound firstStorable
          secondStorable written otherWritten

/-- Two calls that commute on the catalog of a database, if there is one, can change places on the
database. -/
theorem commute_run_of_interchange (sound : first.Sound) (otherSound : second.Sound)
    (plain : db.file.TempPlain fs)
    (storable : ∀ c, db.file.content fs = .ok c → first.Storable db c ∧ second.Storable db c)
    (commute : ∀ c, db.file.content fs = .ok c → Interchange db.options c first second) :
    Disk.Commute (first.run db) (second.run db) fs := by
  have injective : ∀ {a b : Answer}, Reply.answer a = Reply.answer b → a = b := Reply.answer.inj
  refine Disk.commute_of_map injective injective ?_
  rcases refused_or_locked db first with ⟨error, refused⟩ | accepted
  · exact Disk.commute_of_unchanged (refused fs) (refused _)
  rcases refused_or_locked db second with ⟨error, refused⟩ | otherAccepted
  · exact (Disk.commute_of_unchanged (refused fs) (refused _)).symm
  rw [accepted, otherAccepted]
  refine Database.commute_locked (touched_body db first) (touched_body db second) fun {fs₁} opened => ?_
  -- The lock file stands beside the other two, and they are found as before when it was opened.
  have held : db.file.content fs₁ = db.file.content fs :=
    Database.content_of_find (Database.find_of_opened opened)
  refine commute_body sound otherSound (fun mode place found looked => ?_) ?_ ?_
  · exact plain mode place found (Database.findToWrite_of_opened opened looked)
  · intro c content
    exact storable c (held.symm.trans content)
  · intro c content
    exact commute c (held.symm.trans content)

end Call

end DocStore
