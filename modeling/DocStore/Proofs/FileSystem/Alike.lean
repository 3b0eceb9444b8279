-- SUMMARY: Steps that let files come and go, and file systems that are alike wherever it matters.
import DocStore.Proofs.FileSystem.Beside

/-!
# File systems that are alike

A step is tame if files come, go and change at some places, and no directory does. All paths lead to
the same places after it.

Two file systems are alike if they have the same directories and, at every place that is looked at, the
same kind of entry. The files there may have different numbers, and their contents need only be the
same in a sense that is given. What stands at the other places does not matter, as long as it is no
directory on one side only. Tame steps on both sides keep two file systems alike if they leave alike
what is looked at.
-/

namespace DocStore.FileSystem

variable {fs fs' fs'' fs₁ fs₁' : FileSystem} {path : Path} {directory place : Place} {name : String}
variable {found : Option Entry} {content : ByteArray}

/-! ## Distinct places -/

/-- Whether no place is listed twice. -/
def Distinct (fs : FileSystem) : Prop :=
  (Assoc.keys fs.entries).Nodup

instance (fs : FileSystem) : Decidable fs.Distinct :=
  inferInstanceAs (Decidable (Assoc.keys fs.entries).Nodup)

theorem Distinct.withEntry (distinct : fs.Distinct) (place : Place) (entry : Entry) :
    (fs.withEntry place entry).Distinct :=
  Assoc.nodup_keys_set distinct

theorem Distinct.withoutEntry (distinct : fs.Distinct) (place : Place) :
    (fs.withoutEntry place).Distinct :=
  Assoc.nodup_keys_erase distinct

/-- Writing a file gives no directory two entries of one name. -/
theorem Distinct.write (distinct : fs.Distinct) (h : fs.write path content = .ok fs') :
    fs'.Distinct := by
  obtain ⟨⟨place, found⟩, _, h⟩ := bind_eq_ok.1 h
  rcases found with _ | (_ | _ | _)
  · cases h
    exact distinct.withEntry place _
  · cases h
    exact distinct
  · cases h
    exact distinct.withEntry place _
  · cases h
    exact distinct

theorem Distinct.opened (distinct : fs.Distinct) (place : Place) (found : Option Entry) :
    (fs.opened place found).2.Distinct := by
  unfold FileSystem.opened
  split
  · exact distinct
  · exact distinct
  · exact distinct.withEntry place _

theorem Distinct.remove (distinct : fs.Distinct) (h : fs.remove path = .ok fs') : fs'.Distinct := by
  obtain ⟨target, _, h⟩ := bind_eq_ok.1 h
  cases target with
  | directory place => cases h
  | named directory name slash =>
    obtain ⟨there, _, h⟩ := bind_eq_ok.1 h
    rcases there with _ | (_ | _ | _) <;> cases slash <;> cases h
    all_goals exact distinct.withoutEntry _

/-! ## Directories that stay -/

/-- A path that leads to a directory leads to it as long as directories stay. -/
theorem KeepsDirectories.find_directory (keeps : KeepsDirectories fs fs')
    (h : fs.find path = .ok (place, .directory)) :
    fs'.find path = .ok (place, .directory) := by
  obtain ⟨target, resolved, h⟩ := bind_eq_ok.1 h
  refine bind_eq_ok.2 ⟨target, keeps.resolve resolved, ?_⟩
  cases target with
  | directory other => exact h
  | named directory name slash =>
    obtain ⟨there, looked, h⟩ := bind_eq_ok.1 h
    obtain ⟨short, entry⟩ := lookup_eq_ok.1 looked
    rcases there with _ | there
    · cases h
    simp only at h
    split at h
    · cases h
    · rename_i passed
      cases h
      refine bind_eq_ok.2 ⟨some .directory, lookup_eq_ok.2 ⟨short, keeps.directory _ entry⟩, ?_⟩
      simp only [if_neg passed]
      rfl

/-! ## Tame steps -/

/-- Whether files came, went or changed at some places, and nothing else did but locks and the number of
the next file. -/
structure Tame (places : List Place) (fs fs' : FileSystem) : Prop where
  frame : Frame places fs fs'
  before : ∀ place ∈ places, IsPlain (fs.entryAt place)
  after : ∀ place ∈ places, IsPlain (fs'.entryAt place)
  distinct : fs.Distinct → fs'.Distinct

namespace Tame

variable {places more : List Place}

theorem refl (fs : FileSystem) : Tame [] fs fs :=
  ⟨.refl [] fs, nofun, nofun, id⟩

/-- A change at one place is tame if a regular file or nothing stands there before and after it. -/
theorem of_frame (frame : Frame [place] fs fs') (before : IsPlain (fs.entryAt place))
    (after : IsPlain (fs'.entryAt place)) (distinct : fs.Distinct → fs'.Distinct) :
    Tame [place] fs fs' where
  frame := frame
  before := by
    intro other mem
    rwa [List.mem_singleton.1 mem]
  after := by
    intro other mem
    rwa [List.mem_singleton.1 mem]
  distinct := distinct

theorem stay (plain : IsPlain (fs.entryAt place)) : Tame [place] fs fs :=
  .of_frame (.refl _ fs) plain plain id

theorem locked (fs : FileSystem) (locked : List Nat) : Tame [] fs { fs with locked } :=
  ⟨fs.same_of_locked locked, nofun, nofun, id⟩

/-- Tame changes at some places and then at others are tame at all of them. -/
theorem trans (first : Tame places fs fs') (second : Tame more fs' fs'') :
    Tame (places ++ more) fs fs'' where
  frame := (first.frame.mono fun _ => List.mem_append_left _).trans
    (second.frame.mono fun _ => List.mem_append_right _)
  before := by
    intro place mem
    by_cases early : place ∈ places
    · exact first.before place early
    · rw [← first.frame.entryAt place early]
      exact second.before place ((List.mem_append.1 mem).resolve_left early)
  after := by
    intro place mem
    by_cases late : place ∈ more
    · exact second.after place late
    · rw [second.frame.entryAt place late]
      exact first.after place ((List.mem_append.1 mem).resolve_right late)
  distinct := second.distinct ∘ first.distinct

theorem keeps (tame : Tame places fs fs') : KeepsDirectories fs fs' :=
  tame.frame.keepsDirectories fun place mem => (tame.before place mem).ne_directory

/-- No directory comes to be by a tame change. -/
theorem kept (tame : Tame places fs fs') : KeepsDirectories fs' fs :=
  tame.frame.symm.keepsDirectories fun place mem => (tame.after place mem).ne_directory

/-- A path leads to the same place after a tame step. -/
theorem leads (tame : Tame places fs fs') (leads : fs.Leads path directory name found) :
    fs'.Leads path directory name (fs'.entryAt (directory ++ [name])) :=
  ⟨tame.keeps.resolve leads.resolved, leads.short, rfl⟩

/-- What was nothing or a file is nothing or a file. -/
theorem isPlain (tame : Tame places fs fs') (plain : IsPlain (fs.entryAt place)) :
    IsPlain (fs'.entryAt place) := by
  by_cases mem : place ∈ places
  · exact tame.after place mem
  · rwa [tame.frame.entryAt place mem]

/-- Where no device stands, none comes to be by a tame change. -/
theorem ne_device (tame : Tame places fs fs') {number : Nat}
    (notDevice : fs.entryAt place ≠ some (.device number)) :
    fs'.entryAt place ≠ some (.device number) := by
  by_cases mem : place ∈ places
  · intro device
    exact absurd (tame.after place mem _ device) nofun
  · rwa [tame.frame.entryAt place mem]

end Tame

/-! ## Removing -/

theorem Leads.remove_nothing (leads : fs.Leads path directory name none) :
    fs.remove path = .error .notFound := by
  simp only [FileSystem.remove, leads.resolved, leads.lookup, ok_bind]
  rfl

theorem Leads.remove_directory (leads : fs.Leads path directory name (some .directory)) :
    fs.remove path = .error .isDirectory := by
  simp only [FileSystem.remove, leads.resolved, leads.lookup, ok_bind]
  rfl

/-- Removing a regular file is tame. -/
theorem tame_withoutEntry (plain : IsPlain (fs.entryAt (directory ++ [name]))) :
    Tame [directory ++ [name]] fs (fs.withoutEntry (directory ++ [name])) := by
  refine .of_frame (fs.frame_withoutEntry (by simp)) plain ?_ fun distinct => distinct.withoutEntry _
  rw [entryAt_withoutEntry_self]
  exact isPlain_none

/-! ## Alike -/

/-- Whether two file systems have the same kind of entry at a place, and files of the same content. -/
inductive EntryAlike (same : ByteArray → ByteArray → Prop) : Option Entry → Option Entry → Prop
  | nothing : EntryAlike same none none
  | directory : EntryAlike same (some .directory) (some .directory)
  | file {number number' : Nat} {content content' : ByteArray} (contents : same content content') :
      EntryAlike same (some (.file number content)) (some (.file number' content'))
  | device {number number' : Nat} : EntryAlike same (some (.device number)) (some (.device number'))

theorem EntryAlike.refl {same : ByteArray → ByteArray → Prop} (refl : ∀ bytes, same bytes bytes)
    (found : Option Entry) : EntryAlike same found found := by
  rcases found with _ | (_ | _ | _)
  · exact .nothing
  · exact .directory
  · exact .file (refl _)
  · exact .device

/-- Whether two file systems have the same directories and are alike where it is looked at. -/
structure Alike (same : ByteArray → ByteArray → Prop) (seen : Place → Prop) (fs fs' : FileSystem) :
    Prop where
  keeps : KeepsDirectories fs fs'
  kept : KeepsDirectories fs' fs
  entries : ∀ place, seen place → EntryAlike same (fs.entryAt place) (fs'.entryAt place)

variable {same : ByteArray → ByteArray → Prop} {seen : Place → Prop}

theorem Alike.refl (refl : ∀ bytes, same bytes bytes) (seen : Place → Prop) (fs : FileSystem) :
    Alike same seen fs fs := by
  have keeps : KeepsDirectories fs fs := ⟨rfl, fun _ => id⟩
  refine ⟨keeps, keeps, ?_⟩
  intro place isSeen
  exact .refl refl _

namespace Alike

/-- Tame steps on both sides keep file systems alike, as long as what they change is alike or not looked
at. -/
theorem tame {places places' : List Place} (alike : Alike same seen fs fs')
    (step : Tame places fs fs₁) (step' : Tame places' fs' fs₁')
    (changed : ∀ place, place ∈ places ∨ place ∈ places' → seen place →
      EntryAlike same (fs₁.entryAt place) (fs₁'.entryAt place)) : Alike same seen fs₁ fs₁' where
  keeps := by
    refine ⟨?_, fun place h => step'.keeps.directory _ (alike.keeps.directory _ (step.kept.directory _ h))⟩
    rw [step'.keeps.workingDirectory, alike.keeps.workingDirectory, step.kept.workingDirectory]
  kept := by
    refine ⟨?_, fun place h => step.keeps.directory _ (alike.kept.directory _ (step'.kept.directory _ h))⟩
    rw [step.keeps.workingDirectory, alike.kept.workingDirectory, step'.kept.workingDirectory]
  entries := by
    intro place isSeen
    by_cases touched : place ∈ places ∨ place ∈ places'
    · exact changed place touched isSeen
    · obtain ⟨away, away'⟩ := not_or.1 touched
      rw [step.frame.entryAt place away, step'.frame.entryAt place away']
      exact alike.entries place isSeen

/-- Paths lead to the same places in file systems that are alike. -/
theorem leads (alike : Alike same seen fs fs') (leads : fs.Leads path directory name found) :
    fs'.Leads path directory name (fs'.entryAt (directory ++ [name])) :=
  ⟨alike.keeps.resolve leads.resolved, leads.short, rfl⟩

/-- A path that leads to a place that is looked at leads nowhere in both, or to entries that are
alike. -/
theorem find_cases (alike : Alike same seen fs fs')
    (isSeen : ∀ {directory name slash}, fs.resolve path = .ok (.named directory name slash) →
      seen (directory ++ [name])) :
    (∃ fault fault', fs.find path = .error fault ∧ fs'.find path = .error fault') ∨
      ∃ place entry entry', fs.find path = .ok (place, entry) ∧ fs'.find path = .ok (place, entry') ∧
        EntryAlike same (some entry) (some entry') := by
  unfold find
  cases resolved : fs.resolve path with
  | error fault =>
    -- A path that cannot be followed on one side cannot be followed on the other.
    cases resolved' : fs'.resolve path with
    | error fault' => exact .inl ⟨fault, fault', rfl, rfl⟩
    | ok target =>
      have both := resolved.symm.trans (alike.kept.resolve resolved')
      cases both
  | ok target =>
    rw [alike.keeps.resolve resolved]
    cases target with
    | directory place => exact .inr ⟨place, _, _, rfl, rfl, .directory⟩
    | named directory name slash =>
      simp only [ok_bind, lookup]
      by_cases long : maxNameSize < name.utf8ByteSize
      · simp only [if_pos long, error_bind]
        exact .inl ⟨_, _, rfl, rfl⟩
      · simp only [if_neg long, ok_bind]
        have there := alike.entries _ (isSeen resolved)
        generalize fs.entryAt (directory ++ [name]) = entry at there
        generalize fs'.entryAt (directory ++ [name]) = entry' at there
        cases there with
        | nothing => exact .inl ⟨_, _, rfl, rfl⟩
        | directory =>
          simp only [Entry.isDirectory, Bool.not_true, Bool.and_false]
          exact .inr ⟨_, _, _, rfl, rfl, .directory⟩
        | file contents =>
          cases slash with
          | true => exact .inl ⟨_, _, rfl, rfl⟩
          | false => exact .inr ⟨_, _, _, rfl, rfl, .file contents⟩
        | device =>
          cases slash with
          | true => exact .inl ⟨_, _, rfl, rfl⟩
          | false => exact .inr ⟨_, _, _, rfl, rfl, .device⟩

/-- A path that leads to a place that is looked at leads to a file in both or in neither. -/
theorem isFile_eq (alike : Alike same seen fs fs')
    (isSeen : ∀ {directory name slash}, fs.resolve path = .ok (.named directory name slash) →
      seen (directory ++ [name])) : fs'.isFile path = fs.isFile path := by
  unfold isFile leadsTo
  rcases alike.find_cases isSeen with ⟨_, _, nowhere, nowhere'⟩ | ⟨_, _, _, found, found', entries⟩
  · rw [nowhere, nowhere']
  · rw [found, found']
    cases entries <;> rfl

/-- What is read of a file that is looked at is the same in both, and so is the reason why nothing is
read. -/
theorem read_cases (alike : Alike same seen fs fs')
    (leads : fs.Leads path directory name (fs.entryAt (directory ++ [name])))
    (isSeen : seen (directory ++ [name])) :
    (∃ fault, fs.read path = .error fault ∧ fs'.read path = .error fault) ∨
      ∃ bytes bytes', fs.read path = .ok bytes ∧ fs'.read path = .ok bytes' ∧
        (same bytes bytes' ∨ bytes = bytes') := by
  have leads' := alike.leads leads
  have there := alike.entries _ isSeen
  simp only [read, find, leads.resolved, leads'.resolved, leads.lookup, leads'.lookup, ok_bind]
  generalize fs.entryAt (directory ++ [name]) = entry at there
  generalize fs'.entryAt (directory ++ [name]) = entry' at there
  cases there with
  | nothing => exact .inl ⟨_, rfl, rfl⟩
  | directory => exact .inl ⟨_, rfl, rfl⟩
  | file contents => exact .inr ⟨_, _, rfl, rfl, .inl contents⟩
  | device => exact .inr ⟨_, _, rfl, rfl, .inr rfl⟩

end Alike

end DocStore.FileSystem
