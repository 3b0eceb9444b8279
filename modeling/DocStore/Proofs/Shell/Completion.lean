-- SUMMARY: What completion replaces: the word being typed, unless white space other than a space ends the text.
import DocStore.Shell.Completion
import Mathlib.Data.List.Induction
import Mathlib.Tactic.SplitIfs

/-!
# The word being typed

Completion finds the word being typed from two readings of the text before the cursor. The words of the
text are cut at all white space of Unicode, but whether the cursor stands behind the last one is asked
of a space alone. The two readings differ where the text ends in other white space, a tab or a space
of three bytes, after one word or two: there the last word is taken for the one being typed, and its
length is counted back from the cursor, which is not where it ends.
-/

namespace DocStore

/-! ## Words -/

/-- Whether a text is empty or ends in white space, so that what follows it is the start of a word. -/
def IsBreak (cs : List Char) : Prop :=
  ∀ c ∈ cs.getLast?, isBlank c = true

theorem wordsFrom_append {b : Char} (blank : isBlank b = true) (word cs ds : List Char) :
    wordsFrom word (cs ++ b :: ds) = wordsFrom word cs ++ wordsFrom [] ds := by
  induction cs generalizing word with
  | nil => by_cases none : word.isEmpty <;> simp [wordsFrom, blank, none]
  | cons c cs ih =>
    by_cases isSpace : isBlank c
    · by_cases none : word.isEmpty <;> simp [wordsFrom, isSpace, none, ih]
    · simp [wordsFrom, isSpace, ih]

theorem wordsFrom_of_not_blank {cs : List Char} (letters : ∀ c ∈ cs, isBlank c = false)
    {word : List Char} (nonempty : word ≠ [] ∨ cs ≠ []) :
    wordsFrom word cs = [word.reverse ++ cs] := by
  induction cs generalizing word with
  | nil => simpa [wordsFrom] using nonempty
  | cons c cs ih =>
    obtain ⟨first, rest⟩ := List.forall_mem_cons.1 letters
    simp [wordsFrom, first, ih rest (.inl (List.cons_ne_nil c word))]

/-- White space at the end belongs to no word. -/
theorem words_concat {b : Char} (blank : isBlank b = true) (cs : List Char) :
    words (cs ++ [b]) = words cs := by
  simpa [words, wordsFrom] using wordsFrom_append blank [] cs []

/-- What stands behind the last white space of a text is its last word. -/
theorem words_append {front word : List Char} (isBreak : IsBreak front)
    (letters : ∀ c ∈ word, isBlank c = false) (nonempty : word ≠ []) :
    words (front ++ word) = words front ++ [word] := by
  have alone : words word = [word] := wordsFrom_of_not_blank letters (.inr nonempty)
  rcases List.eq_nil_or_concat front with rfl | ⟨init, b, rfl⟩
  · simpa [words, wordsFrom] using alone
  · rw [List.concat_eq_append] at isBreak ⊢
    have blank : isBlank b = true := isBreak b (by simp)
    rw [words_concat blank, List.append_assoc, List.singleton_append, words, words,
      wordsFrom_append blank]
    exact congrArg _ alone

theorem ne_nil_of_mem_wordsFrom {w word cs : List Char} (mem : w ∈ wordsFrom word cs) : w ≠ [] := by
  induction cs generalizing word with
  | nil =>
    by_cases none : word.isEmpty <;> simp_all [wordsFrom]
  | cons c cs ih =>
    rw [wordsFrom] at mem
    split_ifs at mem with isSpace none
    · exact ih mem
    · rcases List.mem_cons.1 mem with rfl | later
      · simpa using none
      · exact ih later
    · exact ih mem

/-- A text is what stands behind its last white space, and what stands before. -/
theorem exists_lastWord (cs : List Char) :
    ∃ front word, cs = front ++ word ∧ IsBreak front ∧ ∀ c ∈ word, isBlank c = false := by
  induction cs using List.reverseRecOn with
  | nil => exact ⟨[], [], rfl, nofun, nofun⟩
  | append_singleton cs c ih =>
    obtain ⟨front, word, rfl, isBreak, letters⟩ := ih
    cases blank : isBlank c with
    | true => exact ⟨front ++ word ++ [c], [], by simp, by simp [IsBreak, blank], nofun⟩
    | false =>
      refine ⟨front, word ++ [c], by simp, isBreak, ?_⟩
      exact List.forall_mem_append.2 ⟨letters, List.forall_mem_singleton.2 blank⟩

namespace Shell

/-! ## The text before the cursor -/

theorem beforeCursor_append (cs ds : List Char) :
    beforeCursor (cs ++ ds) (String.ofList cs).utf8ByteSize = cs := by
  induction cs with
  | nil =>
    cases ds with
    | nil => rfl
    | cons d ds => simp [beforeCursor, Nat.ne_of_gt d.utf8Size_pos]
  | cons c cs ih =>
    rw [String.ofList_cons, String.utf8ByteSize_append, String.utf8ByteSize_singleton,
      List.cons_append, beforeCursor, if_pos (Nat.le_add_right _ _), Nat.add_sub_cancel_left, ih]

theorem utf8ByteSize_ofList_pos {cs : List Char} (nonempty : cs ≠ []) :
    0 < (String.ofList cs).utf8ByteSize := by
  obtain ⟨c, cs, rfl⟩ := List.exists_cons_of_ne_nil nonempty
  rw [String.ofList_cons, String.utf8ByteSize_append, String.utf8ByteSize_singleton]
  exact Nat.lt_add_right _ c.utf8Size_pos

/-- A place where a character starts, or the line ends, cuts the line in two. -/
theorem exists_cut {line : String} {place : Nat} (valid : String.Pos.Raw.IsValid line ⟨place⟩) :
    ∃ before after : String, line = before ++ after ∧ before.utf8ByteSize = place ∧
      beforeCursor line.toList place = before.toList := by
  obtain ⟨before, after, cut, same⟩ := String.Pos.Raw.isValid_iff_exists_append.1 valid
  cases same
  refine ⟨before, after, cut, rfl, ?_⟩
  have read := beforeCursor_append before.toList after.toList
  rwa [String.ofList_toList, ← String.toList_append, ← cut] at read

theorem isValid_append (before after : String) :
    String.Pos.Raw.IsValid (before ++ after) ⟨before.utf8ByteSize⟩ :=
  String.Pos.Raw.isValid_iff_exists_append.2 ⟨before, after, rfl, rfl⟩

/-! ## Replacing the word being typed -/

/-- Whether a completion at a place of a line replaces the word being typed. It starts at a character
of the line, not behind the cursor; and if it offers anything, then what it replaces is the text
behind the last white space before the cursor, and each word on offer begins with that text. -/
structure ReplacesTyped (line : String) (place start : Nat) (offered : List String) : Prop where
  start_le : start ≤ place
  isValid : String.Pos.Raw.IsValid line ⟨start⟩
  typed : offered ≠ [] → ∃ front word rest : String,
    line = front ++ word ++ rest ∧ front.utf8ByteSize = start ∧
    (front ++ word).utf8ByteSize = place ∧
    IsBreak front.toList ∧ (∀ c ∈ word.toList, isBlank c = false) ∧
    ∀ known ∈ offered, word.toList <+: known.toList

/-- What stands behind the last white space may be replaced by any words that begin with it. -/
theorem replacesTyped_word {front word : String} (after : String) {offered : List String}
    (isBreak : IsBreak front.toList) (letters : ∀ c ∈ word.toList, isBlank c = false)
    (begins : ∀ known ∈ offered, word.toList <+: known.toList) :
    ReplacesTyped (front ++ word ++ after) (front ++ word).utf8ByteSize front.utf8ByteSize offered where
  start_le := by
    rw [String.utf8ByteSize_append]
    exact Nat.le_add_right _ _
  isValid := by
    rw [String.append_assoc]
    exact isValid_append front (word ++ after)
  typed := fun _ => ⟨front, word, after, rfl, rfl, rfl, isBreak, letters, begins⟩

/-- Behind white space there is no word yet, and any words may be put there. -/
theorem replacesTyped_break {before : String} (after : String) (offered : List String)
    (isBreak : IsBreak before.toList) :
    ReplacesTyped (before ++ after) before.utf8ByteSize before.utf8ByteSize offered := by
  have empty : ReplacesTyped (before ++ "" ++ after) (before ++ "").utf8ByteSize before.utf8ByteSize
      offered := replacesTyped_word after isBreak (by simp) (by simp)
  simpa using empty

/-- Behind white space a completion that offers anything has to start at the cursor. -/
theorem ReplacesTyped.start_eq {line before : String} {place start : Nat} {offered : List String}
    (replaces : ReplacesTyped line place start offered) (nonempty : offered ≠ [])
    (read : beforeCursor line.toList place = before.toList) (isBreak : IsBreak before.toList) :
    start = place := by
  obtain ⟨front, word, rest, cut, atStart, atPlace, -, letters, -⟩ := replaces.typed nonempty
  have same : (front ++ word).toList = before.toList := by
    have again := beforeCursor_append (front ++ word).toList rest.toList
    rw [String.ofList_toList, atPlace, ← String.toList_append, ← cut, read] at again
    exact again.symm
  -- A word would have its last character where the white space is.
  have none : word.toList = [] := by
    rw [← same, String.toList_append, IsBreak, List.getLast?_append] at isBreak
    cases last : word.toList.getLast? with
    | none => exact List.getLast?_eq_none_iff.1 last
    | some c =>
      have blank := isBreak c (by simp [last])
      rw [letters c (List.mem_of_getLast? last)] at blank
      cases blank
  rw [String.toList_eq_nil_iff.1 none, String.append_empty] at atPlace
  exact atStart.symm.trans atPlace

/-! ## The two readings -/

/-- Whether the two readings of a text differ: after one word or two it ends in white space that is not
a space. -/
structure Misread (before : List Char) : Prop where
  ends : ∃ b, before.getLast? = some b ∧ isBlank b = true ∧ b ≠ ' '
  few : (words before).length = 1 ∨ (words before).length = 2

section Readings

variable {line : String} {place : Nat} {before : List Char}

/-- Behind white space completion starts at the cursor, unless it misreads the text. -/
theorem complete_of_break (read : beforeCursor line.toList place = before) (isBreak : IsBreak before)
    (clear : ¬Misread before) : (complete line place).1 = place := by
  have space : words before ≠ [] → (words before).length ≤ 2 → before.getLast? = some ' ' := by
    intro nonempty few
    have positive := List.length_pos_iff.2 nonempty
    cases last : before.getLast? with
    | none =>
      rw [List.getLast?_eq_none_iff.1 last] at nonempty
      exact absurd rfl nonempty
    | some b =>
      by_contra other
      exact clear ⟨⟨b, last, isBreak b last, fun same => other (congrArg _ same)⟩, by omega⟩
  rw [complete, read]
  rcases found : words before with _ | ⟨first, _ | ⟨second, _ | ⟨third, rest⟩⟩⟩
  · rfl
  · simp [space (by simp [found]) (by simp [found])]
  · simp [space (by simp [found]) (by simp [found])]
  · rfl

/-- Where it misreads the text, completion starts before the cursor. -/
theorem complete_of_misread (read : beforeCursor line.toList place = before)
    (positive : 0 < place) (misread : Misread before) : (complete line place).1 < place := by
  obtain ⟨⟨b, last, -, notSpace⟩, few⟩ := misread
  have noSpace : (before.getLast? == some ' ') = false := by
    rw [last]
    simpa using notSpace
  have filled : ∀ w ∈ words before, 0 < (String.ofList w).utf8ByteSize :=
    fun w mem => utf8ByteSize_ofList_pos (ne_nil_of_mem_wordsFrom mem)
  rw [complete, read, noSpace]
  rcases found : words before with _ | ⟨first, _ | ⟨second, _ | ⟨third, rest⟩⟩⟩
  · simp [found] at few
  · have size := filled first (by simp [found])
    exact Nat.sub_lt positive size
  · have size := filled second (by simp [found])
    exact Nat.sub_lt positive size
  · simp [found] at few

/-- Behind a character of a word completion starts where the word does and offers words that begin with
it, or offers nothing. -/
theorem complete_of_word {front word : List Char}
    (read : beforeCursor line.toList place = front ++ word) (isBreak : IsBreak front)
    (letters : ∀ c ∈ word, isBlank c = false) (nonempty : word ≠ []) :
    complete line place = (place, []) ∨
      (complete line place).1 = place - (String.ofList word).utf8ByteSize ∧
        ∀ known ∈ (complete line place).2, word <+: known.toList := by
  have noSpace : ((front ++ word).getLast? == some ' ') = false := by
    rw [beq_eq_false_iff_ne, List.getLast?_append, List.getLast?_eq_some_getLast nonempty]
    intro space
    have letter := letters _ (List.getLast_mem nonempty)
    rw [Option.some.inj space] at letter
    cases letter
  have begins : ∀ known, ∀ w ∈ completions known (String.ofList word), word <+: w.toList := by
    intro known w mem
    simpa [completions] using (List.mem_filter.1 mem).2
  rw [complete, read, noSpace, words_append isBreak letters nonempty]
  rcases words front with _ | ⟨first, _ | ⟨second, rest⟩⟩
  · exact .inr ⟨rfl, begins _⟩
  · exact .inr ⟨rfl, begins _⟩
  · exact .inl (by cases rest <;> rfl)

end Readings

/-- Where it reads the text before the cursor rightly, completion replaces the word being typed. -/
theorem replacesTyped_of_not_misread {line : String} {place : Nat}
    (valid : String.Pos.Raw.IsValid line ⟨place⟩)
    (clear : ¬Misread (beforeCursor line.toList place)) :
    ReplacesTyped line place (complete line place).1 (complete line place).2 := by
  obtain ⟨before, after, rfl, rfl, read⟩ := exists_cut valid
  rw [read] at clear
  obtain ⟨front, word, cut, isBreak, letters⟩ := exists_lastWord before.toList
  by_cases none : word = []
  · rw [none, List.append_nil] at cut
    rw [← cut] at isBreak
    rw [complete_of_break read isBreak clear]
    exact replacesTyped_break after _ isBreak
  · rcases complete_of_word (read.trans cut) isBreak letters none with nothing | ⟨start, begins⟩
    · rw [nothing]
      exact ⟨Nat.le_refl _, valid, fun offered => absurd rfl offered⟩
    · have parts : before = String.ofList front ++ String.ofList word := by
        rw [← String.ofList_append, ← cut, String.ofList_toList]
      subst parts
      rw [String.utf8ByteSize_append, Nat.add_sub_cancel, ← String.utf8ByteSize_append] at start
      rw [start]
      exact replacesTyped_word after (by simpa using isBreak) (by simpa using letters)
        (by simpa using begins)

/-- Completion never starts behind the cursor. It replaces the word being typed, whatever the line is and
wherever the cursor stands in it, exactly if it does not misread the text before the cursor, or
misreads it with nothing to offer and a start that cuts no character. When it misreads the text it
starts before the cursor although no word is being typed there. -/
theorem complete_replaces_typed_iff {line : String} {place : Nat}
    (valid : String.Pos.Raw.IsValid line ⟨place⟩) :
    (complete line place).1 ≤ place ∧
    (ReplacesTyped line place (complete line place).1 (complete line place).2 ↔
      ¬Misread (beforeCursor line.toList place) ∨
        (complete line place).2 = [] ∧
          String.Pos.Raw.IsValid line ⟨(complete line place).1⟩) ∧
    (Misread (beforeCursor line.toList place) → (complete line place).1 < place) := by
  by_cases misread : Misread (beforeCursor line.toList place)
  · obtain ⟨before, after, -, size, read⟩ := exists_cut valid
    obtain ⟨b, last, blank, -⟩ := misread.ends
    have positive : 0 < place := by
      have nonempty : before.toList ≠ [] := by
        rw [← read]
        exact List.ne_nil_of_mem (List.mem_of_getLast? last)
      have filled := utf8ByteSize_ofList_pos nonempty
      rwa [String.ofList_toList, size] at filled
    have less := complete_of_misread rfl positive misread
    refine ⟨Nat.le_of_lt less, ⟨fun replaces => .inr ⟨?_, replaces.isValid⟩, ?_⟩, fun _ => less⟩
    · by_contra offered
      have isBreak : IsBreak before.toList := by
        rw [← read]
        intro c isLast
        rw [Option.mem_def, last, Option.some.injEq] at isLast
        exact isLast ▸ blank
      exact Nat.ne_of_lt less (replaces.start_eq offered read isBreak)
    · rintro (clear | ⟨nothing, atCharacter⟩)
      · exact absurd misread clear
      · exact ⟨Nat.le_of_lt less, atCharacter, fun offered => absurd nothing offered⟩
  · have replaces := replacesTyped_of_not_misread valid misread
    exact ⟨replaces.start_le, ⟨fun _ => .inl misread, fun _ => replaces⟩, fun h => absurd h misread⟩

/-- A second word behind a space of three bytes, with blanks in front of the first one. -/
theorem complete_replaces_typed_wide :
    complete "  db\u3000co" 9 = (7, ["connect"]) ∧
    ReplacesTyped "  db\u3000co" 9 7 ["connect"] := by
  have found : complete "  db\u3000co" 9 = (7, ["connect"]) := by decide +kernel
  have valid : String.Pos.Raw.IsValid "  db\u3000co" ⟨9⟩ := by decide +kernel
  have last : (beforeCursor "  db\u3000co".toList 9).getLast? = some 'o' := by decide +kernel
  have clear : ¬Misread (beforeCursor "  db\u3000co".toList 9) := by
    rintro ⟨⟨b, isLast, blank, -⟩, -⟩
    rw [last] at isLast
    cases isLast
    cases blank
  have replaces := (complete_replaces_typed_iff valid).2.1.2 (.inl clear)
  rw [found] at replaces
  exact ⟨found, replaces⟩

/-- A tab behind a group: its second character and the tab would be replaced by the whole name. And a
space of three bytes behind a letter: completion starts within that space. -/
theorem complete_misreads :
    (String.Pos.Raw.IsValid "db\t" ⟨3⟩ ∧ complete "db\t" 3 = (1, ["db"]) ∧
      ¬ReplacesTyped "db\t" 3 1 ["db"]) ∧
    (String.Pos.Raw.IsValid "d\u3000" ⟨4⟩ ∧ complete "d\u3000" 4 = (3, ["db", "delete"]) ∧
      ¬String.Pos.Raw.IsValid "d\u3000" ⟨3⟩) := by
  refine ⟨⟨by decide +kernel, by decide +kernel, fun replaces => ?_⟩, by decide +kernel,
    by decide +kernel, by decide +kernel⟩
  have read : beforeCursor "db\t".toList 3 = "db\t".toList := by decide +kernel
  have isBreak : IsBreak "db\t".toList := by
    have last : "db\t".toList.getLast? = some '\t' := by decide +kernel
    intro c isLast
    rw [last] at isLast
    cases isLast
    rfl
  cases replaces.start_eq (List.cons_ne_nil _ _) read isBreak

end Shell

end DocStore
