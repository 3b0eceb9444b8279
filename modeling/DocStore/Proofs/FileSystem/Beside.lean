-- SUMMARY: A file beside another one, under its name with an ending: replacing it leaves the other where it is.
import DocStore.Proofs.FileSystem

/-!
# Files beside a file

The lock file and the second file of a database stand beside its file, under the same name with an
ending. What stands there may be created, replaced and removed, and still the path of the database
leads to what it led to before, or to nothing for the same reason. This holds of every path, one that
ends in a slash or that leads nowhere included.
-/

namespace DocStore

namespace Path

/-- The last part of a path, which is empty if the path ends in a slash. -/
def lastPart (p : Path) : String :=
  p.parts.getLast?.getD ""

theorem getLast?_steps_withEnding (p : Path) {ending : String} (nonempty : ending ≠ "") :
    (p.withEnding ending).steps.getLast? = some (p.lastPart ++ ending) := by
  rcases List.eq_nil_or_concat p.parts with none | ⟨before, part, parts⟩
  · simp [steps, withEnding, lastPart, none, extendLast, nonempty]
  · rw [List.concat_eq_append] at parts
    have last : p.lastPart = part := by simp [lastPart, parts]
    rw [last, steps_of_parts (parts_withEnding ending parts) (by simp [nonempty]),
      List.getLast?_concat]

/-- The text of a path with an ending has that ending. -/
theorem text_withEnding {p : Path} {before : List String} {last : String} (ending : String)
    (parts : p.parts = before ++ [last]) : (p.withEnding ending).text = p.text ++ ending := by
  rw [text, text, parts_withEnding ending parts, parts]
  rcases before with _ | ⟨first, before⟩
  · simp
  · rw [String.intercalate_append_of_ne_nil (by simp) (by simp),
      String.intercalate_append_of_ne_nil (by simp) (by simp)]
    simp [String.append_assoc]

end Path

namespace FileSystem

variable {fs fs' fs'' : FileSystem} {path : Path} {place : Place} {ending : String}
variable {found now : Option Entry}

/-- The name to which a path with an ending leads has that ending. -/
theorem Leads.name_withEnding {directory : Place} {name : String} (nonempty : ending ≠ "")
    (leads : fs.Leads (path.withEnding ending) directory name found) :
    name = path.lastPart ++ ending := by
  obtain ⟨_, _, last, _⟩ := resolve_eq_named.1 leads.resolved
  rw [path.getLast?_steps_withEnding nonempty] at last
  exact (Option.some.inj last).symm

/-! ## Where a path leads when a file beside it changes -/

/-- What a path leads to is the same if it is resolved alike and the same stands at its place. -/
theorem find_congr (resolved : fs'.resolve path = fs.resolve path)
    (same : ∀ {directory name slash}, fs.resolve path = .ok (.named directory name slash) →
      fs'.entryAt (directory ++ [name]) = fs.entryAt (directory ++ [name])) :
    fs'.find path = fs.find path := by
  unfold find
  rw [resolved]
  rcases target : fs.resolve path with fault | (place | ⟨directory, name, slash⟩)
  · rfl
  · rfl
  · simp only [ok_bind, lookup, same target]

/-- A walk ends with its last step. -/
theorem walk_concat_ok {directory last : Place} {steps : List String} {step : String}
    (h : fs.walk directory (steps ++ [step]) = .ok last) :
    ∃ place, fs.walk directory steps = .ok place ∧ fs.enter place step = .ok last := by
  induction steps generalizing directory with
  | nil =>
    obtain ⟨next, entered, rest⟩ := bind_eq_ok.1 h
    cases rest
    exact ⟨directory, rfl, entered⟩
  | cons first steps ih =>
    obtain ⟨next, entered, rest⟩ := bind_eq_ok.1 h
    obtain ⟨place, walked, last⟩ := ih rest
    exact ⟨place, bind_eq_ok.2 ⟨next, entered, walked⟩, last⟩

/-- A step that is a name leads to a directory. -/
theorem entryAt_of_enter {directory place : Place} {step : String}
    (h : fs.enter directory step = .ok place) (notHere : step ≠ Path.here)
    (notAbove : step ≠ Path.above) : fs.entryAt (directory ++ [step]) = some .directory := by
  unfold enter at h
  simp only [beq_iff_eq, notHere, notAbove, if_false] at h
  split at h
  · rename_i looked
    exact (lookup_eq_ok.1 looked).2
  · cases h
  · cases h
  · cases h

section Beside

variable {directory : Place} {name part : String} {before : List String}

/-- A path with an ending leads into the directory into which the path itself leads. -/
theorem Leads.walk_withEnding (leads : fs.Leads (path.withEnding ending) directory name found)
    (nonempty : ending ≠ "") (parts : path.parts = before ++ [part]) :
    fs.walk (fs.startOf path) (before.filter (· != "")) = .ok directory := by
  obtain ⟨_, walked, _⟩ := resolve_eq_named.1 leads.resolved
  rw [startOf, Path.isAbsolute_withEnding ending parts,
    Path.steps_of_parts (Path.parts_withEnding ending parts) (by simp [nonempty]),
    List.dropLast_concat] at walked
  exact walked

/-- All steps of a path that ends in a slash lead to directories, and these stay. -/
theorem find_of_steps {places : List Place} {last : Place} (frame : Frame places fs fs')
    (noDirectory : fs.NoDirectory places)
    (walked : fs.walk (fs.startOf path) path.steps = .ok last) : fs'.find path = fs.find path := by
  rcases List.eq_nil_or_concat path.steps with none | ⟨init, step, concat⟩
  · have start : fs.walk (fs.startOf path) path.steps.dropLast = .ok (fs.startOf path) := by
      rw [none]
      rfl
    refine find_congr ((frame.keepsDirectories noDirectory).resolve_eq start) fun {_ _ _} target => ?_
    simp [resolve_eq_named, none] at target
  · rw [List.concat_eq_append] at concat
    rw [concat] at walked
    obtain ⟨place, walkedInit, entered⟩ := walk_concat_ok walked
    have init : fs.walk (fs.startOf path) path.steps.dropLast = .ok place := by
      rw [concat, List.dropLast_concat]
      exact walkedInit
    refine find_congr ((frame.keepsDirectories noDirectory).resolve_eq init) fun {_ _ _} target => ?_
    obtain ⟨_, walkedTo, lastStep, notHere, notAbove, _⟩ := resolve_eq_named.1 target
    rw [init] at walkedTo
    rw [concat, List.getLast?_concat] at lastStep
    cases walkedTo
    cases lastStep
    have isDirectory := entryAt_of_enter entered notHere notAbove
    rw [(frame.keepsDirectories noDirectory).directory _ isDirectory, isDirectory]

/-- A path leads to what it led to, or to nothing for the same reason, when only the entry of a file
beside it changes. -/
theorem find_of_beside (nonempty : ending ≠ "")
    (leads : fs.Leads (path.withEnding ending) directory name found)
    (notDirectory : found ≠ some .directory) (frame : Frame [directory ++ [name]] fs fs') :
    fs'.find path = fs.find path := by
  have noDirectory := noDirectory_singleton leads notDirectory
  cases fault : pathFault? path with
  | some fault => simp [find, resolve, fault]
  | none =>
    rcases List.eq_nil_or_concat path.parts with none | ⟨before, part, parts⟩
    · simp [pathFault?, Path.text, none] at fault
    rw [List.concat_eq_append] at parts
    have walked := leads.walk_withEnding nonempty parts
    by_cases isOpen : part = ""
    · have all : fs.walk (fs.startOf path) path.steps = .ok directory := by
        simpa [Path.steps, parts, isOpen] using walked
      exact find_of_steps frame noDirectory all
    · have steps := Path.steps_of_parts parts isOpen
      have init : fs.walk (fs.startOf path) path.steps.dropLast = .ok directory := by
        rw [steps, List.dropLast_concat]
        exact walked
      refine find_congr ((frame.keepsDirectories noDirectory).resolve_eq init) fun {_ _ _} target => ?_
      obtain ⟨_, _, last, _⟩ := resolve_eq_named.1 target
      rw [steps, List.getLast?_concat] at last
      cases last
      refine frame.entryAt _ fun mem => ?_
      -- Names of which one has an ending more stand at different places.
      have same := (List.append_inj' (List.mem_singleton.1 mem) rfl).2
      rw [leads.name_withEnding nonempty, Path.lastPart, parts, List.getLast?_concat] at same
      have longer : part ++ "" = part ++ ending := by simpa using same
      exact nonempty ((String.append_right_inj part).1 longer).symm

/-- A path can be followed if it can be followed with an ending. -/
theorem pathFault?_of_withEnding (followed : pathFault? (path.withEnding ending) = none)
    (parts : path.parts = before ++ [part]) (nonempty : part ≠ "") : pathFault? path = none := by
  have text := Path.text_withEnding ending parts
  unfold pathFault? at followed ⊢
  rw [text] at followed
  split at followed
  · cases followed
  rename_i noZero
  split at followed
  · cases followed
  split at followed
  · cases followed
  rename_i short
  have notEmpty : ¬path.text.isEmpty = true := by
    -- The path itself is one with an ending: its last part.
    have whole : path = (Path.mk (before ++ [""])).withEnding part := by
      cases path
      simpa [Path.withEnding, Path.extendLast_append] using parts
    rw [whole, Path.text_withEnding part rfl]
    simp [nonempty]
  rw [if_neg, if_neg notEmpty, if_neg]
  · rw [String.utf8ByteSize_append] at short
    omega
  · simpa [String.toList_append] using mt (fun h => by simp [h]) noZero

/-- A path that can be followed can be followed with an ending, unless that makes it too long. -/
theorem pathFault?_withEnding (followed : pathFault? path = none)
    (parts : path.parts = before ++ [part]) (noZero : '\x00' ∉ ending.toList) :
    pathFault? (path.withEnding ending) =
      if maxPathSize < (path.withEnding ending).text.utf8ByteSize then some .nameTooLong else none := by
  have text := Path.text_withEnding ending parts
  unfold pathFault? at followed ⊢
  split at followed
  · cases followed
  rename_i pathNoZero
  split at followed
  · cases followed
  rename_i written
  rw [if_neg, if_neg]
  · rw [text]
    simpa using fun empty => absurd empty (by simpa using written)
  · rw [text, String.toList_append]
    simpa using ⟨by simpa using pathNoZero, noZero⟩

/-- With an ending a path leads to the name with that ending, if it can still be followed. -/
theorem Leads.withEnding (leads : fs.Leads path directory name found) (long : 2 < ending.length)
    (followed : pathFault? (path.withEnding ending) = none)
    (short : ¬maxNameSize < (name ++ ending).utf8ByteSize) :
    fs.Leads (path.withEnding ending) directory (name ++ ending)
      (fs.entryAt (directory ++ [name ++ ending])) :=
  ⟨resolve_withEnding_of_followed leads.resolved long followed, short, rfl⟩

/-- A path leads to a name if with an ending it leads to the name with that ending. -/
theorem Leads.of_withEnding (leads : fs.Leads (path.withEnding ending) directory name found)
    (nonempty : ending ≠ "") (parts : path.parts = before ++ [part]) (long : 2 < part.length) :
    fs.Leads path directory part (fs.entryAt (directory ++ [part])) := by
  have notShort : ∀ short : String, short.length ≤ 2 → part ≠ short := by
    rintro short bound rfl
    omega
  have notEmpty : part ≠ "" := notShort "" (by decide)
  have steps := Path.steps_of_parts parts notEmpty
  have longer := leads.name_withEnding nonempty
  rw [Path.lastPart, parts, List.getLast?_concat, Option.getD_some] at longer
  refine ⟨resolve_eq_named.2 ⟨?_, ?_, ?_, notShort _ (by decide), notShort _ (by decide), ?_⟩, ?_, rfl⟩
  · exact pathFault?_of_withEnding (pathFault?_of_resolve leads.resolved) parts notEmpty
  · rw [steps, List.dropLast_concat]
    exact leads.walk_withEnding nonempty parts
  · rw [steps, List.getLast?_concat]
  · simp [Path.endsOpen, parts, notEmpty]
  · have short := leads.short
    rw [longer, String.utf8ByteSize_append] at short
    omega

end Beside

/-! ## Replacing one entry -/

/-- Whether what stands where a path leads is another entry now, and nothing else changed. Neither
entry is a directory. -/
structure Replaced (path : Path) (place : Place) (found now : Option Entry) (fs fs' : FileSystem) :
    Prop where
  looked : fs.findToWrite path = .ok (place, found)
  entry : fs'.entryAt place = now
  frame : Frame [place] fs fs'
  notDirectory : now ≠ some .directory

theorem Replaced.eq_or_place (replaced : Replaced path place found now fs fs') (other : Place) :
    fs'.entryAt other = fs.entryAt other ∨ other = place := by
  by_cases here : other = place
  · exact .inr here
  · exact .inl (replaced.frame.entryAt other (by simpa using here))

/-- A change beside a path, at its name with an ending, does not change what the path leads to. -/
theorem Replaced.find (replaced : Replaced (path.withEnding ending) place found now fs fs')
    (nonempty : ending ≠ "") : fs'.find path = fs.find path := by
  obtain ⟨notDirectory, directory, name, rfl, leads⟩ := leads_of_findToWrite replaced.looked
  exact find_of_beside nonempty leads notDirectory replaced.frame

/-- A file beside another under one more ending is found as before when the one under another ending
is replaced. -/
theorem Replaced.findToWrite_of_ne {other : String} {otherPlace : Place} {otherFound : Option Entry}
    (replaced : Replaced (path.withEnding ending) place found now fs fs') (nonempty : ending ≠ "")
    (otherNonempty : other ≠ "") (different : ending ≠ other)
    (looked : fs'.findToWrite (path.withEnding other) = .ok (otherPlace, otherFound)) :
    fs.findToWrite (path.withEnding other) = .ok (otherPlace, otherFound) := by
  obtain ⟨_, directory, name, rfl, leads⟩ := leads_of_findToWrite replaced.looked
  obtain ⟨notDirectory, otherDirectory, otherName, rfl, otherLeads⟩ := leads_of_findToWrite looked
  have noDirectory : fs'.NoDirectory [directory ++ [name]] := by
    intro place mem
    rw [List.mem_singleton.1 mem, replaced.entry]
    exact replaced.notDirectory
  refine (otherLeads.of_frame_of_not_mem replaced.frame.symm noDirectory fun mem => ?_).findToWrite
    notDirectory
  have same := (List.append_inj' (List.mem_singleton.1 mem) rfl).2
  rw [leads.name_withEnding nonempty, otherLeads.name_withEnding otherNonempty] at same
  have endings : path.lastPart ++ other = path.lastPart ++ ending := by simpa using same
  exact different ((String.append_right_inj _).1 endings).symm

/-- Removing a file replaces it by nothing. -/
theorem replaced_of_remove (h : fs.remove path = .ok fs') :
    ∃ place stale, Replaced path place (some stale) none fs fs' ∧ fs'.locked = fs.locked := by
  obtain ⟨target, resolved, h⟩ := bind_eq_ok.1 h
  cases target with
  | directory place => cases h
  | named directory name slash =>
    obtain ⟨there, looked, h⟩ := bind_eq_ok.1 h
    obtain ⟨short, entry⟩ := lookup_eq_ok.1 looked
    rcases there with _ | stale
    · cases h
    have notRoot : directory ++ [name] ≠ [] := by simp
    have gone := fs.entryAt_withoutEntry_self directory name
    cases slash with
    | true => cases stale <;> cases h
    | false =>
      have leads : fs.Leads path directory name (some stale) := ⟨resolved, short, entry⟩
      cases stale with
      | directory => cases h
      | file number content =>
        cases h
        exact ⟨_, _, ⟨leads.findToWrite nofun, gone, frame_withoutEntry fs notRoot, nofun⟩, rfl⟩
      | device number =>
        cases h
        exact ⟨_, _, ⟨leads.findToWrite nofun, gone, frame_withoutEntry fs notRoot, nofun⟩, rfl⟩

/-- A path to anything but a directory is removed at its place. -/
theorem Leads.remove {directory : Place} {name : String} {entry : Entry}
    (leads : fs.Leads path directory name (some entry)) (notDirectory : entry ≠ .directory) :
    fs.remove path = .ok (fs.withoutEntry (directory ++ [name])) := by
  simp only [FileSystem.remove, leads.resolved, leads.lookup, ok_bind]
  cases entry with
  | directory => exact absurd rfl notDirectory
  | file number content => rfl
  | device number => rfl

/-! ## Changes that no path sees -/

theorem walk_of_same (same : Frame [] fs fs') (directory : Place) (steps : List String) :
    fs'.walk directory steps = fs.walk directory steps := by
  induction steps generalizing directory with
  | nil => rfl
  | cons step steps ih =>
    have entered : fs'.enter directory step = fs.enter directory step := by
      simp only [enter, lookup, same.entryAt _ List.not_mem_nil]
    simp only [walk, entered, ih]

/-- What a path is resolved to depends on the entries alone. -/
theorem resolve_of_same (same : Frame [] fs fs') (path : Path) : fs'.resolve path = fs.resolve path := by
  simp only [resolve, startOf, same.workingDirectory, walk_of_same same]

theorem find_of_same (same : Frame [] fs fs') (path : Path) : fs'.find path = fs.find path :=
  find_congr (resolve_of_same same path) fun {_ _ _} _ => same.entryAt _ List.not_mem_nil

theorem findToWrite_of_same (same : Frame [] fs fs') (path : Path) :
    fs'.findToWrite path = fs.findToWrite path := by
  simp only [findToWrite, resolve_of_same same, lookup, same.entryAt _ List.not_mem_nil]

theorem Replaced.trans_same (replaced : Replaced path place found now fs fs')
    (same : Frame [] fs' fs'') : Replaced path place found now fs fs'' := by
  have entry : fs''.entryAt place = now := by
    rw [same.entryAt place List.not_mem_nil]
    exact replaced.entry
  have frame : Frame [place] fs fs'' := replaced.frame.trans (same.mono nofun)
  exact ⟨replaced.looked, entry, frame, replaced.notDirectory⟩

theorem same_of_locked (fs : FileSystem) (locked : List Nat) : Frame [] fs { fs with locked } :=
  ⟨rfl, fun _ _ => rfl⟩

/-- A place from which a file is gone that was not there before is as it was. -/
theorem same_or_replaced (looked : fs.findToWrite path = .ok (place, found))
    (frame : Frame [place] fs fs') (gone : fs'.entryAt place = none) :
    Frame [] fs fs' ∨ ∃ stale, Replaced path place (some stale) none fs fs' := by
  cases found with
  | some stale => exact .inr ⟨stale, looked, gone, frame, nofun⟩
  | none =>
    obtain ⟨_, directory, name, rfl, leads⟩ := leads_of_findToWrite looked
    refine .inl ⟨frame.workingDirectory, fun other _ => ?_⟩
    by_cases here : other = directory ++ [name]
    · rw [here, gone, leads.entry]
    · exact frame.entryAt other (by simpa using here)

end FileSystem

end DocStore
