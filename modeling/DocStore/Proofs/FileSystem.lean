-- SUMMARY: What the steps on a file system leave as it is, and the files beside a file.
import DocStore.FileSystem
import DocStore.Proofs.Assoc
import DocStore.Proofs.Result

/-!
# What steps on a file system leave as it is

A step changes what stands at one or two places. Paths lead to where they led before as long as no
directory is among these places, so a file stays where it is and keeps its content while files beside
it are written, moved and removed. The files beside it that matter are those whose name has an ending
more.
-/

namespace DocStore

/-! ## Paths with an ending -/

namespace Path

theorem extendLast_append (ending : String) (before : List String) (last : String) :
    extendLast ending (before ++ [last]) = before ++ [last ++ ending] := by
  induction before with
  | nil => rfl
  | cons part before ih =>
    cases before with
    | nil => rfl
    | cons next before => exact congrArg (part :: ·) ih

/-- A path that does not end in a slash ends in its last step. -/
theorem exists_parts {p : Path} {last : String} (h : p.steps.getLast? = some last)
    (notOpen : p.endsOpen = false) : ∃ before, p.parts = before ++ [last] ∧ last ≠ "" := by
  rcases List.eq_nil_or_concat p.parts with none | ⟨before, part, parts⟩
  · rw [steps, none] at h
    cases h
  · have partNonempty : part ≠ "" := by
      rintro rfl
      simp [endsOpen, parts] at notOpen
    rw [steps, parts] at h
    simp [partNonempty] at h
    cases h
    exact ⟨before, by rw [parts, List.concat_eq_append], partNonempty⟩

variable {p : Path} {before : List String} {last : String}

theorem steps_of_parts (parts : p.parts = before ++ [last]) (nonempty : last ≠ "") :
    p.steps = before.filter (· != "") ++ [last] := by
  simp [steps, parts, nonempty]

/-- The ending goes to the last part of a path and leaves the others as they are. -/
theorem parts_withEnding (ending : String) (parts : p.parts = before ++ [last]) :
    (p.withEnding ending).parts = before ++ [last ++ ending] := by
  rw [withEnding, parts, extendLast_append]

theorem isAbsolute_withEnding (ending : String) (parts : p.parts = before ++ [last]) :
    (p.withEnding ending).isAbsolute = p.isAbsolute := by
  unfold isAbsolute
  rw [parts_withEnding ending parts, parts]
  rcases before with _ | ⟨first, _ | ⟨second, before⟩⟩
  · simp
  · by_cases root : first = "" <;> simp [root]
  · by_cases root : first = "" <;> simp [root]

end Path

namespace FileSystem

variable {fs fs' fs'' : FileSystem}

/-! ## Frames -/

/-- Whether two file systems differ at most in what stands at some places, in their locks and in the
number of the next file. -/
structure Frame (places : List Place) (fs fs' : FileSystem) : Prop where
  workingDirectory : fs'.workingDirectory = fs.workingDirectory
  entryAt : ∀ place, place ∉ places → fs'.entryAt place = fs.entryAt place

theorem Frame.refl (places : List Place) (fs : FileSystem) : Frame places fs fs :=
  ⟨rfl, fun _ _ => rfl⟩

theorem Frame.symm {places : List Place} (frame : Frame places fs fs') : Frame places fs' fs := by
  refine ⟨frame.workingDirectory.symm, ?_⟩
  intro place other
  exact (frame.entryAt place other).symm

theorem Frame.trans {places : List Place} (first : Frame places fs fs')
    (second : Frame places fs' fs'') : Frame places fs fs'' := by
  refine ⟨second.workingDirectory.trans first.workingDirectory, ?_⟩
  intro place other
  rw [second.entryAt place other, first.entryAt place other]

theorem Frame.mono {places more : List Place} (frame : Frame places fs fs')
    (sub : ∀ place ∈ places, place ∈ more) : Frame more fs fs' := by
  refine ⟨frame.workingDirectory, ?_⟩
  intro place other
  exact frame.entryAt place fun mem => other (sub place mem)

theorem ne_of_root {place other : Place} (notRoot : place ≠ []) (root : other = []) :
    other ≠ place := by
  rintro rfl
  exact notRoot root

theorem entryAt_withEntry (fs : FileSystem) {place : Place} (notRoot : place ≠ []) (other : Place)
    (entry : Entry) :
    (fs.withEntry place entry).entryAt other = if other = place then some entry else fs.entryAt other := by
  unfold FileSystem.entryAt withEntry
  by_cases root : other = []
  · rw [if_pos root, if_pos root, if_neg (ne_of_root notRoot root)]
  · rw [if_neg root, if_neg root, Assoc.get?_set]

theorem entryAt_withoutEntry (fs : FileSystem) {place : Place} (notRoot : place ≠ []) (other : Place) :
    (fs.withoutEntry place).entryAt other = if other = place then none else fs.entryAt other := by
  unfold FileSystem.entryAt withoutEntry
  by_cases root : other = []
  · rw [if_pos root, if_pos root, if_neg (ne_of_root notRoot root)]
  · rw [if_neg root, if_neg root, Assoc.get?_erase]

theorem entryAt_withoutEntry_self (fs : FileSystem) (directory : Place) (name : String) :
    (fs.withoutEntry (directory ++ [name])).entryAt (directory ++ [name]) = none := by
  rw [entryAt_withoutEntry fs (by simp), if_pos rfl]

/-- Putting an entry at a place changes what stands there and nothing else. -/
theorem frame_withEntry (fs : FileSystem) {place : Place} (notRoot : place ≠ []) (entry : Entry) :
    Frame [place] fs (fs.withEntry place entry) := by
  refine ⟨rfl, fun other different => ?_⟩
  rw [entryAt_withEntry fs notRoot, if_neg (List.ne_of_not_mem_cons different)]

/-- A new file changes what stands at its place and nothing else. -/
theorem frame_withNewFile (fs : FileSystem) {place : Place} (notRoot : place ≠ [])
    (content : ByteArray) : Frame [place] fs (fs.withNewFile place content) :=
  ⟨rfl, (frame_withEntry fs notRoot (.file fs.nextNumber content)).entryAt⟩

theorem frame_withoutEntry (fs : FileSystem) {place : Place} (notRoot : place ≠ []) :
    Frame [place] fs (fs.withoutEntry place) := by
  refine ⟨rfl, fun other different => ?_⟩
  rw [entryAt_withoutEntry fs notRoot, if_neg (List.ne_of_not_mem_cons different)]

/-! ## Paths lead where they led -/

/-- Whether no directory stands at some places. -/
def NoDirectory (fs : FileSystem) (places : List Place) : Prop :=
  ∀ place ∈ places, fs.entryAt place ≠ some .directory

/-- Whether every directory of a file system is a directory of another one too. -/
structure KeepsDirectories (fs fs' : FileSystem) : Prop where
  workingDirectory : fs'.workingDirectory = fs.workingDirectory
  directory : ∀ place, fs.entryAt place = some .directory → fs'.entryAt place = some .directory

/-- A change at places of which none is a directory keeps every directory. -/
theorem Frame.keepsDirectories {places : List Place} (frame : Frame places fs fs')
    (noDirectory : fs.NoDirectory places) : KeepsDirectories fs fs' := by
  refine ⟨frame.workingDirectory, fun place h => ?_⟩
  rw [frame.entryAt place fun mem => noDirectory place mem h, h]

namespace KeepsDirectories

variable (keeps : KeepsDirectories fs fs')

include keeps

/-- A step into a directory stays possible as long as directories are kept. -/
theorem enter {directory place : Place} {step : String} (h : fs.enter directory step = .ok place) :
    fs'.enter directory step = .ok place := by
  unfold FileSystem.enter at h ⊢
  by_cases isHere : step == Path.here
  · rwa [if_pos isHere] at h ⊢
  rw [if_neg isHere] at h ⊢
  by_cases isAbove : step == Path.above
  · rwa [if_pos isAbove] at h ⊢
  rw [if_neg isAbove] at h ⊢
  unfold lookup at h ⊢
  by_cases long : maxNameSize < step.utf8ByteSize
  · simp [if_pos long] at h
  simp only [if_neg long] at h ⊢
  split at h
  · rename_i found
    rw [keeps.directory _ (Except.ok.inj found)]
    exact h
  · cases h
  · cases h
  · cases h

/-- A walk through directories stays possible as long as directories are kept. -/
theorem walk {directory place : Place} {steps : List String}
    (h : fs.walk directory steps = .ok place) : fs'.walk directory steps = .ok place := by
  induction steps generalizing directory with
  | nil => exact h
  | cons step steps ih =>
    obtain ⟨next, entered, rest⟩ := bind_eq_ok.1 h
    exact bind_eq_ok.2 ⟨next, keeps.enter entered, ih rest⟩

theorem startOf (path : Path) : fs'.startOf path = fs.startOf path := by
  rw [FileSystem.startOf, FileSystem.startOf, keeps.workingDirectory]

/-- A path whose directories are there leads to the same directory or name. -/
theorem resolve_eq {path : Path} {directory : Place}
    (walked : fs.walk (fs.startOf path) path.steps.dropLast = .ok directory) :
    fs'.resolve path = fs.resolve path := by
  unfold FileSystem.resolve
  rw [keeps.startOf, walked, keeps.walk walked]

/-- A path is resolved to the same target as long as directories are kept. -/
theorem resolve {path : Path} {target : Target} (h : fs.resolve path = .ok target) :
    fs'.resolve path = .ok target := by
  cases walked : fs.walk (fs.startOf path) path.steps.dropLast with
  | ok directory => rw [keeps.resolve_eq walked, h]
  | error fault =>
    cases fault : pathFault? path <;> simp [FileSystem.resolve, fault, walked] at h

end KeepsDirectories

/-- What a path that leads to a name is like. -/
theorem resolve_eq_named {path : Path} {directory : Place} {name : String} {slash : Bool} :
    fs.resolve path = .ok (.named directory name slash) ↔
      pathFault? path = none ∧ fs.walk (fs.startOf path) path.steps.dropLast = .ok directory ∧
        path.steps.getLast? = some name ∧ name ≠ Path.here ∧ name ≠ Path.above ∧
          path.endsOpen = slash := by
  unfold resolve
  cases fault : pathFault? path with
  | some fault => simp
  | none =>
    cases walked : fs.walk (fs.startOf path) path.steps.dropLast with
    | error fault => simp
    | ok place =>
      cases last : path.steps.getLast? with
      | none => simp
      | some step =>
        by_cases isHere : step = Path.here
        · subst isHere
          simp only [pure_eq_ok, ok_bind, BEq.rfl, if_true]
          constructor
          · intro h
            cases h
          · rintro ⟨-, -, same, notHere, -⟩
            exact absurd (Option.some.inj same).symm notHere
        by_cases isAbove : step = Path.above
        · subst isAbove
          simp only [pure_eq_ok, ok_bind, beq_iff_eq, if_neg isHere, if_true]
          constructor
          · intro h
            cases h
          · rintro ⟨-, -, same, -, notAbove, -⟩
            exact absurd (Option.some.inj same).symm notAbove
        simp only [pure_eq_ok, ok_bind, beq_iff_eq, if_neg isHere, if_neg isAbove]
        constructor
        · intro h
          cases h
          exact ⟨trivial, rfl, rfl, isHere, isAbove, rfl⟩
        · rintro ⟨-, walk, same, -, -, rfl⟩
          cases walk
          cases same
          rfl

/-! ## Files beside a file -/

theorem pathFault?_of_resolve {path : Path} {target : Target} (h : fs.resolve path = .ok target) :
    pathFault? path = none := by
  cases fault : pathFault? path with
  | none => rfl
  | some fault => simp [resolve, fault] at h

/-- A path with an ending more that can be followed leads to the same directory and to a name with
that ending. -/
theorem resolve_withEnding_of_followed {path : Path} {directory : Place} {name ending : String}
    (h : fs.resolve path = .ok (.named directory name false)) (long : 2 < ending.length)
    (followed : pathFault? (path.withEnding ending) = none) :
    fs.resolve (path.withEnding ending) = .ok (.named directory (name ++ ending) false) := by
  obtain ⟨_, walked, last, _, _, notOpen⟩ := resolve_eq_named.1 h
  obtain ⟨before, parts, nonempty⟩ := Path.exists_parts last notOpen
  have partsBeside := Path.parts_withEnding ending parts
  have longName : 2 < (name ++ ending).length := by
    rw [String.length_append]
    omega
  -- With such an ending the name is none of the steps that are no names, and it is not empty.
  have notShort : ∀ short : String, short.length ≤ 2 → name ++ ending ≠ short := by
    rintro short bound rfl
    omega
  have steps := Path.steps_of_parts partsBeside (notShort "" (by decide))
  refine resolve_eq_named.2 ⟨followed, ?_, ?_, notShort _ (by decide), notShort _ (by decide), ?_⟩
  · rw [startOf, Path.isAbsolute_withEnding ending parts, steps, List.dropLast_concat]
    rw [Path.steps_of_parts parts nonempty, List.dropLast_concat] at walked
    exact walked
  · rw [steps, List.getLast?_concat]
  · rw [Path.endsOpen, partsBeside, List.getLast?_concat]
    simpa using notShort "" (by decide)

/-- A path with an ending more that leads anywhere leads to the same directory and to a name with that
ending. -/
theorem resolve_withEnding {path : Path} {directory : Place} {name ending : String}
    (h : fs.resolve path = .ok (.named directory name false)) (long : 2 < ending.length)
    {target : Target} (beside : fs.resolve (path.withEnding ending) = .ok target) :
    target = .named directory (name ++ ending) false := by
  have same := resolve_withEnding_of_followed h long (pathFault?_of_resolve beside)
  exact Except.ok.inj (beside.symm.trans same)

/-- Files whose names have different endings stand at different places. -/
theorem place_ne (directory : Place) (name : String) {ending other : String} (h : ending ≠ other) :
    directory ++ [name ++ ending] ≠ directory ++ [name ++ other] := by
  simpa using h

theorem place_ne_self (directory : Place) (name : String) {ending : String} (h : ending ≠ "") :
    directory ++ [name ++ ending] ≠ directory ++ [name] := by
  simpa using h

/-! ## Where paths lead -/

/-- Whether a path leads to a name in a directory, and what is found there. -/
structure Leads (fs : FileSystem) (path : Path) (directory : Place) (name : String)
    (found : Option Entry) : Prop where
  resolved : fs.resolve path = .ok (.named directory name false)
  short : ¬maxNameSize < name.utf8ByteSize
  entry : fs.entryAt (directory ++ [name]) = found

variable {path : Path} {directory : Place} {name : String} {found : Option Entry}

/-- What stands under a name is told if the name is not too long. -/
theorem lookup_eq_ok {fs : FileSystem} :
    fs.lookup directory name = .ok found ↔
      ¬maxNameSize < name.utf8ByteSize ∧ fs.entryAt (directory ++ [name]) = found := by
  unfold lookup
  split
  · rename_i long
    simp [long]
  · rename_i short
    simp [short]

theorem Leads.lookup (leads : fs.Leads path directory name found) :
    fs.lookup directory name = .ok found :=
  lookup_eq_ok.2 ⟨leads.short, leads.entry⟩

/-- A path that leads to a name leads to it after changes at places of which none is a directory. -/
theorem Leads.of_frame {places : List Place} (leads : fs.Leads path directory name found)
    (frame : Frame places fs fs') (noDirectory : fs.NoDirectory places) :
    fs'.Leads path directory name (fs'.entryAt (directory ++ [name])) :=
  ⟨(frame.keepsDirectories noDirectory).resolve leads.resolved, leads.short, rfl⟩

/-- Away from the places that change a path leads to what it led to. -/
theorem Leads.of_frame_of_not_mem {places : List Place} (leads : fs.Leads path directory name found)
    (frame : Frame places fs fs') (noDirectory : fs.NoDirectory places)
    (away : directory ++ [name] ∉ places) : fs'.Leads path directory name found := by
  have same := leads.of_frame frame noDirectory
  rwa [frame.entryAt _ away, leads.entry] at same

/-- Locks and numbers do not matter for where a path leads. -/
theorem Leads.of_entries (leads : fs.Leads path directory name found)
    (workingDirectory : fs'.workingDirectory = fs.workingDirectory)
    (entries : fs'.entries = fs.entries) : fs'.Leads path directory name found := by
  have frame : Frame [] fs fs' := by
    refine ⟨workingDirectory, fun place _ => ?_⟩
    rw [FileSystem.entryAt, FileSystem.entryAt, entries]
  exact leads.of_frame_of_not_mem frame nofun nofun

theorem Leads.unlock (leads : fs.Leads path directory name found) (number : Nat) :
    (fs.unlock number).Leads path directory name found :=
  leads.of_entries rfl rfl

/-- A path that leads to an entry finds it. -/
theorem Leads.find {entry : Entry} (leads : fs.Leads path directory name (some entry)) :
    fs.find path = .ok (directory ++ [name], entry) := by
  simp [FileSystem.find, leads.resolved, leads.lookup]

/-- A path that leads to something other than a directory leads to it by name. -/
theorem leads_of_find {place : Place} {entry : Entry} (h : fs.find path = .ok (place, entry))
    (notDirectory : entry ≠ .directory) :
    ∃ directory name, fs.Leads path directory name (some entry) := by
  obtain ⟨target, resolved, h⟩ := bind_eq_ok.1 h
  cases target with
  | directory _ =>
    cases h
    exact absurd rfl notDirectory
  | named directory name slash =>
    obtain ⟨found, looked, h⟩ := bind_eq_ok.1 h
    obtain ⟨short, there⟩ := lookup_eq_ok.1 looked
    cases found with
    | none => cases h
    | some other =>
      simp only at h
      split at h
      · cases h
      · rename_i passed
        cases h
        -- The slash is refused for anything but a directory.
        cases slash with
        | false => exact ⟨directory, name, resolved, short, there⟩
        | true => cases entry <;> simp [Entry.isDirectory] at passed notDirectory

/-! ## What the steps do -/

/-- A path that leads to a file reads its content. -/
theorem Leads.read {number : Nat} {content : ByteArray}
    (leads : fs.Leads path directory name (some (.file number content))) :
    fs.read path = .ok content := by
  simp [FileSystem.read, leads.find]

/-- A file that is read is found, unless it has no content. -/
theorem leads_of_read {content : ByteArray} (h : fs.read path = .ok content)
    (nonempty : content ≠ .empty) :
    ∃ directory name number, fs.Leads path directory name (some (.file number content)) := by
  obtain ⟨⟨place, entry⟩, found, h⟩ := bind_eq_ok.1 h
  cases entry with
  | directory => cases h
  | device number =>
    cases h
    exact absurd rfl nonempty
  | file number bytes =>
    cases h
    obtain ⟨directory, name, leads⟩ := leads_of_find found nofun
    exact ⟨directory, name, number, leads⟩

/-- A path that leads to no directory can be written to at its place. -/
theorem Leads.findToWrite (leads : fs.Leads path directory name found)
    (notDirectory : found ≠ some .directory) :
    fs.findToWrite path = .ok (directory ++ [name], found) := by
  simp only [FileSystem.findToWrite, leads.resolved, leads.lookup, ok_bind]
  rcases found with _ | (_ | _ | _)
  · rfl
  · exact absurd rfl notDirectory
  · rfl
  · rfl

/-- Where a path can be written to, it leads to a name in a directory. -/
theorem leads_of_findToWrite {place : Place} (h : fs.findToWrite path = .ok (place, found)) :
    found ≠ some .directory ∧
      ∃ directory name, place = directory ++ [name] ∧ fs.Leads path directory name found := by
  obtain ⟨target, resolved, h⟩ := bind_eq_ok.1 h
  cases target with
  | directory _ => cases h
  | named directory name slash =>
    cases slash with
    | true => cases h
    | false =>
      obtain ⟨there, looked, h⟩ := bind_eq_ok.1 h
      obtain ⟨short, entry⟩ := lookup_eq_ok.1 looked
      rcases there with _ | (_ | _ | _) <;> cases h
      all_goals exact ⟨nofun, directory, name, rfl, resolved, short, entry⟩

/-- Whether nothing or a file is found, and so what is written can be read again. -/
def IsPlain (found : Option Entry) : Prop :=
  ∀ entry ∈ found, entry.isFile = true

theorem isPlain_file (number : Nat) (content : ByteArray) : IsPlain (some (.file number content)) := by
  simp [IsPlain, Entry.isFile]

theorem isPlain_none : IsPlain none :=
  nofun

theorem IsPlain.ne_directory (plain : IsPlain found) : found ≠ some .directory := by
  rintro rfl
  exact absurd (plain .directory rfl) (by decide)

theorem noDirectory_singleton (leads : fs.Leads path directory name found)
    (notDirectory : found ≠ some .directory) : fs.NoDirectory [directory ++ [name]] := by
  intro place mem
  rw [List.mem_singleton.1 mem, leads.entry]
  exact notDirectory

/-- A path leads to the entry that is put at its place. -/
theorem Leads.withEntry (leads : fs.Leads path directory name found)
    (notDirectory : found ≠ some .directory) (entry : Entry) :
    (fs.withEntry (directory ++ [name]) entry).Leads path directory name (some entry) := by
  have notRoot : directory ++ [name] ≠ [] := by simp
  have moved := leads.of_frame (frame_withEntry fs notRoot entry)
    (noDirectory_singleton leads notDirectory)
  rwa [entryAt_withEntry fs notRoot, if_pos rfl] at moved

/-- Writing a file makes the path lead to a file with that content, and changes nothing else. -/
theorem Leads.write (leads : fs.Leads path directory name found) (plain : IsPlain found)
    (content : ByteArray) : ∃ fs' number, fs.write path content = .ok fs' ∧
      fs'.Leads path directory name (some (.file number content)) ∧
      Frame [directory ++ [name]] fs fs' ∧ fs'.locked = fs.locked := by
  have notRoot : directory ++ [name] ≠ [] := by simp
  have looked := leads.findToWrite plain.ne_directory
  have there := leads.withEntry plain.ne_directory
  rcases found with _ | (_ | ⟨number, old⟩ | number)
  · refine ⟨fs.withNewFile (directory ++ [name]) content, fs.nextNumber, ?_, ?_,
      frame_withNewFile fs notRoot content, rfl⟩
    · simp [FileSystem.write, looked]
    · exact (there (.file fs.nextNumber content)).of_entries rfl rfl
  · exact absurd rfl plain.ne_directory
  · refine ⟨fs.withEntry (directory ++ [name]) (.file number content), number, ?_, there _,
      frame_withEntry fs notRoot _, rfl⟩
    simp [FileSystem.write, looked]
  · exact absurd (plain (.device number) rfl) nofun

/-- A file that is written a second time is as if it had been written only then. -/
theorem write_write (leads : fs.Leads path directory name found) (plain : IsPlain found)
    {first : ByteArray} (written : fs.write path first = .ok fs') (second : ByteArray) :
    fs'.write path second = fs.write path second := by
  have looked := leads.findToWrite plain.ne_directory
  have there := leads.withEntry plain.ne_directory
  rcases found with _ | (_ | ⟨number, old⟩ | number)
  · simp only [FileSystem.write, looked, ok_bind, pure_eq_ok, Except.ok.injEq] at written
    subst written
    have created : (fs.withNewFile (directory ++ [name]) first).Leads path directory name _ :=
      (there (.file fs.nextNumber first)).of_entries rfl rfl
    have again := created.findToWrite nofun
    simp only [FileSystem.write, looked, again, ok_bind, pure_eq_ok]
    simp only [withNewFile, FileSystem.withEntry, Assoc.set_set]
  · exact absurd rfl plain.ne_directory
  · simp only [FileSystem.write, looked, ok_bind, pure_eq_ok, Except.ok.injEq] at written
    subst written
    have again := (there (.file number first)).findToWrite nofun
    simp only [FileSystem.write, looked, again, ok_bind, pure_eq_ok]
    simp only [FileSystem.withEntry, Assoc.set_set]
  · exact absurd (plain (.device number) rfl) nofun

/-- Bringing a file to the disk changes nothing of what can be read. -/
theorem Leads.sync {number : Nat} {content : ByteArray}
    (leads : fs.Leads path directory name (some (.file number content))) :
    fs.sync path = .ok fs := by
  simp [FileSystem.sync, leads.find]

/-- A device takes what is written, but cannot bring it to the disk. -/
theorem Leads.write_device {number : Nat}
    (leads : fs.Leads path directory name (some (.device number))) (content : ByteArray) :
    fs.write path content = .ok fs ∧ fs.sync path = .error .invalidArgument := by
  constructor
  · simp [FileSystem.write, leads.findToWrite]
  · simp [FileSystem.sync, leads.find]

/-- Moving a file over another makes the path lead to what was moved, and nothing is left in its old
place. -/
theorem Leads.rename {source : Path} {sourceDirectory : Place} {sourceName : String} {moved : Entry}
    (fromPath : fs.Leads source sourceDirectory sourceName (some moved))
    (leads : fs.Leads path directory name found) (movedFile : moved ≠ .directory)
    (notDirectory : found ≠ some .directory)
    (apart : sourceDirectory ++ [sourceName] ≠ directory ++ [name]) :
    ∃ fs', fs.rename source path = .ok fs' ∧ fs'.Leads path directory name (some moved) ∧
      fs'.entryAt (sourceDirectory ++ [sourceName]) = none ∧
      Frame [directory ++ [name], sourceDirectory ++ [sourceName]] fs fs' ∧
      fs'.locked = fs.locked := by
  have notRoot : directory ++ [name] ≠ [] := by simp
  have sourceNotRoot : sourceDirectory ++ [sourceName] ≠ [] := by simp
  have removed := frame_withoutEntry fs sourceNotRoot
  have leadsAfter : (fs.withoutEntry (sourceDirectory ++ [sourceName])).Leads path directory name found :=
    leads.of_frame_of_not_mem removed
      (noDirectory_singleton fromPath fun h => movedFile (Option.some.inj h))
      (by simpa using Ne.symm apart)
  refine ⟨_, ?_, leadsAfter.withEntry notDirectory moved, ?_, ?_, rfl⟩
  · simp only [FileSystem.rename, fromPath.resolved, leads.resolved, fromPath.lookup, leads.lookup,
      ok_bind]
    rfl
  · rw [entryAt_withEntry _ notRoot, if_neg apart, entryAt_withoutEntry _ sourceNotRoot, if_pos rfl]
  · exact (removed.mono (by simp)).trans ((frame_withEntry _ notRoot moved).mono (by simp))

/-- The number of a file that is opened, and the file system in which it is there. -/
def opened (fs : FileSystem) (place : Place) : Option Entry → Nat × FileSystem
  | some (.file number _) => (number, fs)
  | some (.device number) => (number, fs)
  | _ => (fs.nextNumber, fs.withNewFile place .empty)

/-- Where a path leads to no directory, opening it gives the file that is there or a new one. -/
theorem Leads.openOrCreate (leads : fs.Leads path directory name found)
    (notDirectory : found ≠ some .directory) :
    fs.openOrCreate path = .ok (fs.opened (directory ++ [name]) found) := by
  simp only [FileSystem.openOrCreate, leads.findToWrite notDirectory, ok_bind]
  rcases found with _ | (_ | _ | _) <;> rfl

/-- A file that was opened stands where its path leads. -/
theorem leads_of_openOrCreate {number : Nat} (h : fs.openOrCreate path = .ok (number, fs')) :
    ∃ directory name found, fs.Leads path directory name found ∧ found ≠ some .directory ∧
      (number, fs') = fs.opened (directory ++ [name]) found := by
  obtain ⟨⟨place, found⟩, looked, _⟩ := bind_eq_ok.1 h
  obtain ⟨notDirectory, directory, name, rfl, leads⟩ := leads_of_findToWrite looked
  rw [leads.openOrCreate notDirectory] at h
  exact ⟨directory, name, found, leads, notDirectory, (Except.ok.inj h).symm⟩

/-- Opening a file changes what stands at its place and nothing else. -/
theorem frame_opened (fs : FileSystem) {place : Place} (notRoot : place ≠ []) (found : Option Entry) :
    Frame [place] fs (fs.opened place found).2 := by
  unfold opened
  split
  · exact Frame.refl _ _
  · exact Frame.refl _ _
  · exact frame_withNewFile fs notRoot .empty

/-- A file that was opened is there, and opening it again gives the same number. -/
theorem entryAt_opened {place : Place} (notRoot : place ≠ []) (there : fs.entryAt place = found)
    (notDirectory : found ≠ some .directory) :
    ∃ entry, (fs.opened place found).2.entryAt place = some entry ∧ entry ≠ .directory ∧
      ∀ fs' : FileSystem, (fs'.opened place (some entry)).1 = (fs.opened place found).1 := by
  rcases found with _ | (_ | ⟨number, content⟩ | number)
  · refine ⟨.file fs.nextNumber .empty, ?_, nofun, fun _ => rfl⟩
    refine (entryAt_withEntry fs notRoot place _).trans ?_
    rw [if_pos rfl]
  · exact absurd rfl notDirectory
  · exact ⟨.file number content, there, nofun, fun _ => rfl⟩
  · exact ⟨.device number, there, nofun, fun _ => rfl⟩

theorem locked_opened (fs : FileSystem) (place : Place) (found : Option Entry) :
    (fs.opened place found).2.locked = fs.locked := by
  unfold opened
  split <;> rfl

end FileSystem

end DocStore
