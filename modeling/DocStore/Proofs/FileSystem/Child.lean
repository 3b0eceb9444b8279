-- SUMMARY: The path of a name in a directory leads into the directory that the path of the directory leads to.
import DocStore.Proofs.FileSystem.Alike

/-!
# Names in a directory

A path of a directory may go up and down on its way, end in a slash, or end in no name at all. The
path of a name in it is followed by the same steps and one more, so if it leads anywhere, it leads to
that name in the directory. With an ending more it is the path of the name with the ending.
-/

namespace DocStore

namespace Path

variable {p : Path} {before : List String} {name part : String}

/-- The path of a name in a directory goes on where the path of the directory ends: after its last
part, or in the place of that part if it is empty. -/
theorem parts_child (parts : p.parts = before ++ [part]) (name : String) :
    (p.child name).parts = (if part = "" then before else before ++ [part]) ++ [name] := by
  by_cases isOpen : part = ""
  · simp [child, endsOpen, parts, isOpen]
  · simp [child, endsOpen, parts, isOpen]

/-- A name in a directory is one step more. -/
theorem steps_child (p : Path) (nonempty : name ≠ "") : (p.child name).steps = p.steps ++ [name] := by
  rcases List.eq_nil_or_concat p.parts with none | ⟨before, part, parts⟩
  · simp [steps, child, endsOpen, none, nonempty]
  · rw [List.concat_eq_append] at parts
    rw [steps, parts_child parts, steps, parts]
    by_cases isOpen : part = ""
    · simp [isOpen, nonempty]
    · simp [isOpen, nonempty]

/-- An ending of a name in a directory goes to the name. -/
theorem withEnding_child (p : Path) (name ending : String) :
    (p.child name).withEnding ending = p.child (name ++ ending) := by
  simp only [withEnding, child, extendLast_append]

theorem endsOpen_child (p : Path) (nonempty : name ≠ "") : (p.child name).endsOpen = false := by
  simp [endsOpen, child, nonempty]

theorem isAbsolute_child (written : p.text ≠ "") (name : String) :
    (p.child name).isAbsolute = p.isAbsolute := by
  rcases List.eq_nil_or_concat p.parts with none | ⟨before, part, parts⟩
  · exact absurd (by simp [text, none]) written
  · rw [List.concat_eq_append] at parts
    unfold isAbsolute
    rw [parts_child parts, parts]
    rcases before with _ | ⟨first, before⟩
    · -- A path of one part is not empty, so it does not start with a slash.
      have nonempty : part ≠ "" := by
        rintro rfl
        exact written (by simp [text, parts])
      simp [nonempty]
    · by_cases isOpen : part = ""
      · by_cases root : first = "" <;> cases before <;> simp [isOpen, root]
      · by_cases root : first = "" <;> cases before <;> simp [isOpen, root]

/-- Whether the path of a name in a directory starts at the root does not depend on the name. -/
theorem isAbsolute_sibling (p : Path) (name other : String) :
    (p.child name).isAbsolute = (p.child other).isAbsolute := by
  unfold isAbsolute child
  generalize (if p.endsOpen then p.parts.dropLast else p.parts) = parts
  rcases parts with _ | ⟨first, _ | ⟨second, parts⟩⟩
  · simp
  · by_cases root : first = "" <;> simp [root]
  · by_cases root : first = "" <;> simp [root]

end Path

namespace FileSystem

variable {fs : FileSystem} {path : Path} {directory place last : Place} {name step : String}

/-- A walk can be continued by a step. -/
theorem walk_concat {steps : List String} (walked : fs.walk directory steps = .ok place)
    (entered : fs.enter place step = .ok last) : fs.walk directory (steps ++ [step]) = .ok last := by
  induction steps generalizing directory with
  | nil =>
    cases walked
    exact bind_eq_ok.2 ⟨last, entered, rfl⟩
  | cons first steps ih =>
    obtain ⟨next, enteredFirst, rest⟩ := bind_eq_ok.1 walked
    exact bind_eq_ok.2 ⟨next, enteredFirst, ih rest⟩

/-- All steps of a path that leads to a directory can be entered one after another. -/
theorem walk_of_find (there : fs.find path = .ok (directory, .directory)) :
    pathFault? path = none ∧ fs.walk (fs.startOf path) path.steps = .ok directory := by
  obtain ⟨target, resolved, there⟩ := bind_eq_ok.1 there
  have followed := pathFault?_of_resolve resolved
  refine ⟨followed, ?_⟩
  unfold resolve at resolved
  simp only [followed, pure_eq_ok] at resolved
  obtain ⟨place, walked, resolved⟩ := bind_eq_ok.1 resolved
  rcases List.eq_nil_or_concat path.steps with none | ⟨init, step, concat⟩
  · rw [none] at resolved walked ⊢
    cases walked
    cases resolved
    cases there
    rfl
  · rw [List.concat_eq_append] at concat
    rw [concat, List.dropLast_concat] at walked
    rw [concat, List.getLast?_concat] at resolved
    rw [concat]
    refine walk_concat walked ?_
    simp only at resolved
    unfold enter
    split at resolved
    · rename_i isHere
      cases resolved
      cases there
      rw [if_pos isHere]
    · rename_i notHere
      split at resolved
      · rename_i isAbove
        cases resolved
        cases there
        rw [if_neg notHere, if_pos isAbove]
      · rename_i notAbove
        cases resolved
        obtain ⟨found, looked, there⟩ := bind_eq_ok.1 there
        rw [if_neg notHere, if_neg notAbove, looked]
        rcases found with _ | entry
        · cases there
        · simp only at there
          split at there
          · cases there
          · cases there
            rfl

/-- The path of a name in a directory is followed as the path of the directory is, up to the name. -/
theorem walk_child (there : fs.find path = .ok (directory, .directory)) (nonempty : name ≠ "") :
    fs.walk (fs.startOf (path.child name)) (path.child name).steps.dropLast = .ok directory := by
  obtain ⟨followed, walked⟩ := walk_of_find there
  have written : path.text ≠ "" := by
    intro empty
    simp [pathFault?, empty] at followed
  rw [startOf, Path.isAbsolute_child written, Path.steps_child path nonempty, List.dropLast_concat]
  exact walked

/-- The path of a name in a directory leads to that name in it, if it leads anywhere. -/
theorem resolve_child (there : fs.find path = .ok (directory, .directory)) (long : 2 < name.length)
    {target : Target} (resolved : fs.resolve (path.child name) = .ok target) :
    target = .named directory name false := by
  have notShort : ∀ short : String, short.length ≤ 2 → name ≠ short := by
    rintro short bound rfl
    omega
  have nonempty := notShort "" (by decide)
  have same : fs.resolve (path.child name) = .ok (.named directory name false) := by
    refine resolve_eq_named.2 ⟨pathFault?_of_resolve resolved, walk_child there nonempty, ?_,
      notShort _ (by decide), notShort _ (by decide), Path.endsOpen_child path nonempty⟩
    rw [Path.steps_child path nonempty, List.getLast?_concat]
  exact Except.ok.inj (resolved.symm.trans same)

/-! ## Names beside one another -/

/-- Paths of two names in one directory are followed by the same steps up to the names. -/
theorem walk_sibling (path : Path) {other : String} (nonempty : name ≠ "")
    (otherNonempty : other ≠ "") :
    fs.walk (fs.startOf (path.child other)) (path.child other).steps.dropLast =
      fs.walk (fs.startOf (path.child name)) (path.child name).steps.dropLast := by
  rw [startOf, startOf, Path.isAbsolute_sibling path other name, Path.steps_child path nonempty,
    Path.steps_child path otherNonempty, List.dropLast_concat, List.dropLast_concat]

/-- What is replaced under a name in a directory does not matter for another name in it. -/
theorem Replaced.find_sibling {found now : Option Entry} {fs' : FileSystem} {other : String}
    (replaced : Replaced (path.child name) place found now fs fs') (nonempty : name ≠ "")
    (otherNonempty : other ≠ "") (apart : other ≠ name) :
    fs'.find (path.child other) = fs.find (path.child other) := by
  obtain ⟨notDirectory, directory, last, rfl, leads⟩ := leads_of_findToWrite replaced.looked
  obtain ⟨_, walked, isLast, _⟩ := resolve_eq_named.1 leads.resolved
  rw [Path.steps_child path nonempty, List.getLast?_concat] at isLast
  cases isLast
  rw [← walk_sibling path nonempty otherNonempty] at walked
  have keeps := replaced.frame.keepsDirectories (noDirectory_singleton leads notDirectory)
  refine find_congr (keeps.resolve_eq walked) fun {_ _ _} resolved => ?_
  obtain ⟨_, otherWalked, otherLast, _⟩ := resolve_eq_named.1 resolved
  rw [Path.steps_child path otherNonempty, List.getLast?_concat] at otherLast
  cases otherLast
  cases walked.symm.trans otherWalked
  exact replaced.frame.entryAt _ (by simpa using apart)

end FileSystem

end DocStore
