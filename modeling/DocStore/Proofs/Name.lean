-- SUMMARY: The names that a database may have, said by their characters, and what follows for their files.
import DocStore.Name
import DocStore.Proofs.Result
import Mathlib.Data.List.Basic
import Mathlib.Data.String.Basic

/-!
# Names of databases

A name is checked by a scan that stops at the first fault. What passes is a text of one to 128
letters, digits, underscores and hyphens of ASCII that does not start with a hyphen. Such a text has
no dot, so the name of a file that starts with it and goes on with a dot tells it apart from every
other one.
-/

namespace DocStore.Name

variable {name other : String} {c : Char}

/-- Whether a character is a letter, a digit, an underscore or a hyphen of ASCII. -/
def IsAllowed (c : Char) : Prop :=
  'A' ≤ c ∧ c ≤ 'Z' ∨ 'a' ≤ c ∧ c ≤ 'z' ∨ '0' ≤ c ∧ c ≤ '9' ∨ c = '_' ∨ c = '-'

instance (c : Char) : Decidable (IsAllowed c) :=
  inferInstanceAs (Decidable (_ ∨ _))

/-- Whether a text is one to 128 such characters, of which the first is no hyphen. -/
structure IsValid (name : String) : Prop where
  allowed : ∀ c ∈ name.toList, IsAllowed c
  nonempty : 1 ≤ name.length
  short : name.length ≤ 128
  start : name.toList.head? ≠ some '-'

instance (name : String) : Decidable (IsValid name) :=
  -- The characters of the name are gone through, not all characters.
  have : Decidable (∀ c ∈ name.toList, IsAllowed c) := List.decidableBAll _ _
  decidable_of_iff ((∀ c ∈ name.toList, IsAllowed c) ∧ 1 ≤ name.length ∧ name.length ≤ 128 ∧
      name.toList.head? ≠ some '-')
    ⟨fun ⟨allowed, nonempty, short, start⟩ => ⟨allowed, nonempty, short, start⟩,
      fun ⟨allowed, nonempty, short, start⟩ => ⟨allowed, nonempty, short, start⟩⟩

/-! ## The check -/

theorem isNameChar_iff : isNameChar c = true ↔ IsAllowed c := by
  have upper : c.isUpper = true ↔ 'A' ≤ c ∧ c ≤ 'Z' := decide_eq_true_iff
  have lower : c.isLower = true ↔ 'a' ≤ c ∧ c ≤ 'z' :=
    Bool.and_eq_true_iff.trans (and_congr decide_eq_true_iff decide_eq_true_iff)
  have digit : c.isDigit = true ↔ '0' ≤ c ∧ c ≤ '9' :=
    Bool.and_eq_true_iff.trans (and_congr decide_eq_true_iff decide_eq_true_iff)
  have alphanum : c.isAlphanum = true ↔
      (c.isUpper = true ∨ c.isLower = true) ∨ c.isDigit = true :=
    Bool.or_eq_true_iff.trans (or_congr_left Bool.or_eq_true_iff)
  rw [isNameChar, Bool.or_eq_true_iff, Bool.or_eq_true_iff, alphanum, upper, lower, digit, IsAllowed]
  simp only [beq_iff_eq, or_assoc]

theorem IsAllowed.utf8Size (allowed : IsAllowed c) : c.utf8Size = 1 := by
  rw [Char.utf8Size_eq_one_iff, UInt32.le_iff_toNat_le]
  change c.toNat ≤ 127
  rcases allowed with ⟨_, high⟩ | ⟨_, high⟩ | ⟨_, high⟩ | rfl | rfl
  · exact Nat.le_trans (UInt32.le_iff_toNat_le.1 high) (by decide)
  · exact Nat.le_trans (UInt32.le_iff_toNat_le.1 high) (by decide)
  · exact Nat.le_trans (UInt32.le_iff_toNat_le.1 high) (by decide)
  · decide
  · decide

theorem IsAllowed.ne_dot (allowed : IsAllowed c) : c ≠ '.' := by
  rintro rfl
  exact absurd allowed (by decide)

/-- The scan finds no fault exactly if every character may stand in a name. -/
theorem badCharacter?_eq_none (cs : List Char) (position : Nat) :
    badCharacter? cs position = none ↔ ∀ c ∈ cs, IsAllowed c := by
  induction cs generalizing position with
  | nil => simp [badCharacter?]
  | cons c cs ih =>
    rw [badCharacter?, List.forall_mem_cons, ← isNameChar_iff]
    split
    · rename_i fine
      rw [ih]
      exact (and_iff_right fine).symm
    · rename_i bad
      exact iff_of_false (Option.some_ne_none _) fun all => bad all.1

/-- A text of characters of one byte each has as many bytes as characters. -/
theorem utf8ByteSize_eq_length (narrow : ∀ c ∈ name.toList, c.utf8Size = 1) :
    name.utf8ByteSize = name.length := by
  obtain ⟨cs, rfl⟩ : ∃ cs, name = String.ofList cs := ⟨name.toList, String.ofList_toList.symm⟩
  rw [String.toList_ofList] at narrow
  induction cs with
  | nil => rfl
  | cons c cs ih =>
    obtain ⟨first, rest⟩ := List.forall_mem_cons.1 narrow
    rw [String.ofList_cons, String.utf8ByteSize_append, String.utf8ByteSize_singleton,
      String.length_append, String.length_singleton, ih rest, first]

theorem startsWith_hyphen : name.startsWith "-" = true ↔ name.toList.head? = some '-' := by
  rw [String.startsWith_string_iff]
  cases name.toList with
  | nil => simp
  | cons c cs =>
    simp only [List.head?_cons, Option.some.injEq]
    constructor
    · intro starts
      exact (List.cons_prefix_cons.1 starts).1.symm
    · rintro rfl
      exact List.cons_prefix_cons.2 ⟨rfl, List.nil_prefix⟩

/-- The check of names lets exactly the valid ones pass. -/
theorem checkDatabase_eq_ok : checkDatabase name = .ok () ↔ IsValid name := by
  have whole : checkDatabase name = .ok () ↔ name.isEmpty = false ∧
      ¬maxBytes < name.utf8ByteSize ∧ ¬name.startsWith "-" = true ∧
        badCharacter? name.toList 0 = none := by
    unfold checkDatabase
    cases name.isEmpty with
    | true => simp
    | false =>
      by_cases long : maxBytes < name.utf8ByteSize
      · simp [long]
      by_cases hyphen : name.startsWith "-" = true
      · simp [long, hyphen]
      cases badCharacter? name.toList 0 <;> simp [long, hyphen]
  rw [whole, startsWith_hyphen, badCharacter?_eq_none]
  -- The length is counted in bytes, which for allowed characters is the same.
  have size : (∀ c ∈ name.toList, IsAllowed c) → name.utf8ByteSize = name.length :=
    fun allowed => utf8ByteSize_eq_length fun c mem => (allowed c mem).utf8Size
  constructor
  · rintro ⟨nonempty, short, start, allowed⟩
    refine ⟨allowed, ?_, ?_, start⟩
    · refine Nat.pos_of_ne_zero fun none => ?_
      rw [String.isEmpty_eq_utf8ByteSize_beq_zero, size allowed, none] at nonempty
      cases nonempty
    · rw [← size allowed]
      exact Nat.not_lt.1 short
  · intro valid
    refine ⟨?_, ?_, valid.start, valid.allowed⟩
    · rw [String.isEmpty_eq_utf8ByteSize_beq_zero, size valid.allowed]
      exact beq_false_of_ne (Nat.ne_of_gt valid.nonempty)
    · rw [size valid.allowed]
      exact Nat.not_lt.2 valid.short

/-! ## Names and endings -/

/-- A text without dots is what stands before the first dot. -/
theorem takeWhile_append {ending : String} (valid : IsValid name)
    (dotted : ending.toList.head? = some '.') :
    (name ++ ending).toList.takeWhile (· != '.') = name.toList := by
  rw [String.toList_append, List.takeWhile_append_of_pos]
  · cases chars : ending.toList with
    | nil => simp
    | cons c cs =>
      rw [chars, List.head?_cons, Option.some.injEq] at dotted
      simp [dotted]
  · intro c mem
    simpa using (valid.allowed c mem).ne_dot

/-- Names of databases with endings that start with a dot are the same only if both parts are. -/
theorem append_inj {ending otherEnding : String} (valid : IsValid name) (otherValid : IsValid other)
    (dotted : ending.toList.head? = some '.') (otherDotted : otherEnding.toList.head? = some '.')
    (same : name ++ ending = other ++ otherEnding) : name = other ∧ ending = otherEnding := by
  have names : name = other := by
    have before := congrArg (fun text : String => text.toList.takeWhile (· != '.')) same
    simp only [takeWhile_append valid dotted, takeWhile_append otherValid otherDotted] at before
    exact String.toList_inj.1 before
  subst names
  exact ⟨rfl, (String.append_right_inj _).1 same⟩

end DocStore.Name
