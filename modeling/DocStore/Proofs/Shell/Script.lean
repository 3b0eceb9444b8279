-- SUMMARY: What a script does: its lines one after another as far as they are text, and the code it ends with.
import DocStore.Proofs.Shell.Session
import DocStore.Shell.Program
import Mathlib.Data.List.TakeWhile

/-!
# Scripts

A script is a stream of bytes whose lines are carried out one after another. What a line asks for is an
act on the session, or nothing that could be carried out: its quotes do not match, its words call no
command, or the arguments of the command are wrong. One line moves the session as its act does, and
from that a whole script does what its acts do in order. The code that it ends with says whether all of
its lines asked for an act and all acts succeeded.

That is so up to a line that is not text. There a script ends, with the code of the lines before it.
-/

namespace DocStore

/-! ## Lines of a stream -/

/-- Whether some lines are those of a stream: none of them has a line feed in it, and with one behind
each of them they are the stream, up to a line feed that it may lack at its end. -/
structure AreLines (lines : List (List UInt8)) (bytes : List UInt8) : Prop where
  unbroken : ∀ line ∈ lines, lineFeed ∉ line
  joined : lines.flatMap (· ++ [lineFeed]) =
    bytes ++ if bytes.getLast?.getD lineFeed = lineFeed then [] else [lineFeed]

theorem areLines_byteLinesFrom {line : List UInt8} (unbroken : lineFeed ∉ line) (bytes : List UInt8) :
    AreLines (byteLinesFrom line bytes) (line.reverse ++ bytes) := by
  fun_induction byteLinesFrom line bytes with
  | case1 line empty =>
    rw [List.isEmpty_iff.1 empty]
    exact ⟨List.forall_mem_nil _, rfl⟩
  | case2 line some =>
    refine ⟨by simpa using unbroken, ?_⟩
    cases line with
    | nil => exact absurd rfl some
    | cons b bs =>
      have notFeed : b ≠ lineFeed := fun same => unbroken (same ▸ List.mem_cons_self)
      simp [notFeed]
  | case3 line b bs ends ih =>
    obtain ⟨inner, joined⟩ := ih List.not_mem_nil
    rw [List.reverse_nil, List.nil_append] at joined
    refine ⟨List.forall_mem_cons.2 ⟨by simpa using unbroken, inner⟩, ?_⟩
    rw [List.flatMap_cons, joined, eq_of_beq ends]
    simp [List.getLast?_cons]
  | case4 line b bs goesOn ih =>
    have other : lineFeed ∉ b :: line := by
      rw [List.mem_cons, not_or]
      exact ⟨fun same => goesOn (beq_iff_eq.2 same.symm), unbroken⟩
    have lines := ih other
    rwa [List.reverse_cons, List.append_assoc, List.singleton_append] at lines

theorem areLines_byteLines (bytes : List UInt8) : AreLines (byteLines bytes) bytes :=
  areLines_byteLinesFrom List.not_mem_nil bytes

namespace Shell

/-! ## Words -/

/-- Once a word has begun, a line has a word. -/
theorem wordsFrom_ne_nil {mode : WordMode} (between : mode ≠ .between) (comment : mode ≠ .comment)
    (cs : List Char) : wordsFrom mode cs ≠ some [] := by
  fun_induction wordsFrom mode cs <;> simp_all
  -- Left are the quotes, where the next character decides whether the word goes on in them.
  · rename_i ih
    exact ih (by split <;> simp) (by split <;> simp)
  · rename_i ih
    exact ih (by split <;> simp) (by split <;> simp)

/-- A line that starts with no white space and no comment has a word. -/
theorem splitWords?_ne_nil {line : String} {c : Char} {cs : List Char} (text : line.toList = c :: cs)
    (visible : isBlank c = false) (noComment : c ≠ '#') : splitWords? line ≠ some [] := by
  have noDivider : isDivider c = false := by
    rw [Bool.eq_false_iff]
    intro divider
    simp only [isDivider, Bool.or_eq_true, beq_iff_eq] at divider
    rcases divider with (rfl | rfl) | rfl <;> cases visible
  have noWords : wordsFrom .between (c :: cs) ≠ some [] := by
    by_cases backslash : c = '\\'
    · subst backslash
      cases cs with
      | nil => simp [wordsFrom]
      | cons d cs => exact wordsFrom_ne_nil (by simp) (by simp) cs
    · rw [wordsFrom, noDivider, beq_eq_false_iff_ne.2 noComment]
      · simp only [Bool.false_eq_true, if_false]
        split
        · exact wordsFrom_ne_nil (by simp) (by simp) cs
        split
        · exact wordsFrom_ne_nil (by simp) (by simp) cs
        · exact wordsFrom_ne_nil (by simp) (by simp) cs
      · exact fun same _ => backslash same
      · exact fun _ _ same _ => backslash same
  intro none
  rw [splitWords?, text] at none
  obtain ⟨words, found, empty⟩ := Option.map_eq_some_iff.1 none
  rw [List.map_eq_nil_iff.1 empty] at found
  exact noWords found

/-! ## Lines -/

namespace Console

/-- What is left of a line without the white space at both ends is nothing, if there is nothing else,
or it starts with the first character that is not white space. -/
theorem trimmedLine_cases (line : String) :
    (trimStart line.toList = [] ∧ (trimmedLine line).toList = []) ∨
      ∃ c rest more, trimStart line.toList = c :: rest ∧ (trimmedLine line).toList = c :: more ∧
        isBlank c = false := by
  rw [trimmedLine, String.toList_ofList, trim]
  rcases start : trimStart line.toList with _ | ⟨c, rest⟩
  · exact .inl ⟨rfl, rfl⟩
  · have visible : isBlank c = false := by
      have first := List.head?_dropWhile_not isBlank line.toList
      rw [show line.toList.dropWhile isBlank = c :: rest from start] at first
      simpa using first
    have kept : ∃ more, trimEnd (c :: rest) = c :: more := by
      rw [trimEnd, List.reverse_cons, List.dropWhile_append]
      split
      · simp [visible]
      · simp
    obtain ⟨more, kept⟩ := kept
    exact .inr ⟨c, rest, more, rfl, kept, visible⟩

/-- A script passes over a line exactly if it is blank or its first character that is not white space
starts a comment. -/
theorem isPassedOver_trimmedLine (line : String) :
    isPassedOver (trimmedLine line) = true ↔
      line.toList.all isBlank = true ∨ (trimStart line.toList).head? = some '#' := by
  have blank : line.toList.all isBlank = true ↔ trimStart line.toList = [] := by
    rw [trimStart, List.dropWhile_eq_nil_iff, List.all_eq_true]
  rw [isPassedOver, blank]
  rcases trimmedLine_cases line with ⟨start, text⟩ | ⟨c, rest, more, start, text, _⟩
  · simp [start, text]
  · simp [start, text]

/-- A line that a script does not pass over has a word. -/
theorem splitWords?_trimmedLine {line : String} (asked : isPassedOver (trimmedLine line) = false) :
    splitWords? (trimmedLine line) ≠ some [] := by
  rw [isPassedOver] at asked
  rcases trimmedLine_cases line with ⟨_, text⟩ | ⟨c, rest, more, _, text, visible⟩
  · rw [text] at asked
    cases asked
  · rw [text] at asked
    refine splitWords?_ne_nil text visible ?_
    rintro rfl
    cases asked

/-! ## One line -/

/-- The act that a line of a script asks for, if its words call a command that can be understood. -/
def lineAct? (line : String) : Option Act :=
  match MetaCommand.ofLine? line with
  | some (.use name) => some (.use name)
  | _ => do
    let words ← splitWords? line
    let found ← (matchLine words).toOption
    let command ← (Command.ofMatches found).toOption
    return .command command

/-- What a line does to a session and its file system: the act that it asks for is carried out, and the
line succeeds if the act does; a line that asks for none fails and changes nothing. -/
inductive LineMoves (line : String) (session : Session) (fs : FileSystem) :
    Bool → Session → FileSystem → Prop
  | carriedOut {act : Act} {result : Except SessionError Output} {session' : Session}
    {fs' : FileSystem} (asks : lineAct? line = some act)
    (run : act.run.runOn session fs = (result, session', fs')) :
    LineMoves line session fs result.isOk session' fs'
  | refused (asks : lineAct? line = none) : LineMoves line session fs false session fs

/-- Whether a console is moved as a line moves its session and its file system. -/
def Moves (line : String) (console : Console) (moved : Bool × Console) : Prop :=
  LineMoves line console.session console.files moved.1 moved.2.session moved.2.files

variable {mode : OutputMode} {line : String} {console : Console}

theorem perform_moves {command : Command} (asks : lineAct? line = some (.command command)) :
    Moves line console (console.perform mode command) := by
  rcases executed : (Session.execute command).runOn console.session console.files with
    ⟨error | output, session, files⟩
  · have moves := LineMoves.carriedOut asks executed
    simp only [perform, Console.run, executed]
    exact moves
  · have moves := LineMoves.carriedOut asks executed
    simp only [perform, Console.run, executed]
    -- An answer without text is not printed, which is no matter to the session.
    split
    · exact moves
    · exact moves

/-- A line that does not ask for `use` moves its session by the act that it asks for. -/
theorem executeLine_moves (words : splitWords? line ≠ some [])
    (noUse : ∀ name, MetaCommand.ofLine? line ≠ some (.use name)) :
    Moves line console (console.executeLine mode line) := by
  have asks : lineAct? line = (do
      let words ← splitWords? line
      let found ← (matchLine words).toOption
      let command ← (Command.ofMatches found).toOption
      return .command command) := by
    unfold lineAct?
    split
    · rename_i name use
      exact absurd use (noUse name)
    · rfl
  unfold executeLine
  split
  · rename_i split
    exact .refused (by rw [asks, split]; rfl)
  · rename_i split
    exact absurd split words
  · rename_i found _ split
    rw [split, Option.bind_eq_bind, Option.bind_some] at asks
    split
    · rename_i found matched
      unfold performMatches
      split
      · rename_i command called
        exact perform_moves (by simp [asks, matched, called, Except.toOption])
      · rename_i fault called
        exact .refused (by simp [asks, matched, called, Except.toOption])
    · rename_i error matched
      exact .refused (by simp [asks, matched, Except.toOption])

theorem runOn_use (name : String) (session : Session) (fs : FileSystem) :
    (Act.use name).run.runOn session fs =
      (((Session.connect name).runOn session fs).1.map fun _ => .connected name,
        ((Session.connect name).runOn session fs).2) := by
  rw [Act.run, SessionM.runOn_bind]
  rcases (Session.connect name).runOn session fs with ⟨_ | _, _, _⟩ <;> rfl

/-- A line of a script that has a word makes one of two things of a console. -/
theorem scriptLine_moves (mode : OutputMode) (console : Console) (words : splitWords? line ≠ some []) :
    Moves line console (console.scriptLine mode line) := by
  unfold scriptLine
  split
  · rename_i name use
    have asks : lineAct? line = some (.use name) := by rw [lineAct?, use]
    have run := runOn_use name console.session console.files
    rcases connected : (Session.connect name).runOn console.session console.files with
      ⟨error | _, session, files⟩
    · rw [connected] at run
      simp only [Console.run, connected]
      exact .carriedOut asks run
    · rw [connected] at run
      simp only [Console.run, connected]
      exact .carriedOut asks run
  · rename_i noUse
    exact executeLine_moves words fun name use => noUse name use

/-! ## Lines one after another -/

/-- The lines of a script before the first one that is not text. -/
def textLines : List (Option String) → List String
  | some line :: lines => line :: textLines lines
  | _ => []

theorem isOk_iff_succeeded {act : Act} {result : Except SessionError Output} :
    result.isOk = true ↔ Event.Succeeded ⟨act, result⟩ := by
  cases result <;> simp [Except.isOk, Except.toBool, Event.Succeeded]

/-- If all lines are text, these are all lines. -/
theorem textLines_eq_iff (lines : List (Option String)) :
    (textLines lines).map some = lines ↔ none ∉ lines := by
  induction lines with
  | nil => simp [textLines]
  | cons line lines ih =>
    cases line with
    | none => simp [textLines]
    | some line => simpa [textLines] using ih

/-- The lines that a script does not pass over, without the white space at both ends. -/
def askedLines (lines : List String) : List String :=
  (lines.map trimmedLine).filter fun line => !isPassedOver line

def askedActs (lines : List String) : List Act :=
  (askedLines lines).filterMap lineAct?

/-- Whether each of some lines asks for an act, and all acts of the history that they leave
succeeded. -/
def AllSucceed (lines : List String) (history : List Event) : Prop :=
  (∀ line ∈ askedLines lines, ∃ act, lineAct? line = some act) ∧ ∀ event ∈ history, event.Succeeded

theorem askedLines_cons_of_passedOver {line : String} (passed : isPassedOver (trimmedLine line) = true)
    (lines : List String) : askedLines (line :: lines) = askedLines lines := by
  simp [askedLines, passed]

theorem askedLines_cons {line : String} (asked : isPassedOver (trimmedLine line) = false)
    (lines : List String) : askedLines (line :: lines) = trimmedLine line :: askedLines lines := by
  simp [askedLines, asked]

/-- A line adds the event of the act that it asks for to the history, and it succeeds if there is such
an event and it did. -/
theorem LineMoves.carryOut {line : String} {session session₁ session₂ : Session}
    {fs fs₁ fs₂ : FileSystem} {succeeded : Bool} {acts : List Act} {history : List Event}
    (moves : LineMoves line session fs succeeded session₁ fs₁)
    (rest : Session.carryOut acts session₁ fs₁ = (history, session₂, fs₂)) :
    ∃ events, Session.carryOut ((lineAct? line).toList ++ acts) session fs =
        (events ++ history, session₂, fs₂) ∧
      (succeeded = true ↔
        (∃ act, lineAct? line = some act) ∧ ∀ event ∈ events, event.Succeeded) := by
  cases moves with
  | @carriedOut act result _ _ asks run =>
    refine ⟨[⟨act, result⟩], ?_, ?_⟩
    · simp [asks, Session.carryOut, run, rest]
    · simpa [asks] using isOk_iff_succeeded
  | refused asks => exact ⟨[], by simp [asks, rest], by simp [asks]⟩

/-- A script carries out the acts that its lines ask for, one after another, up to the first line that
is not text, and succeeds if every line up to there asks for an act and every act succeeds. -/
theorem runScript_carryOut (mode : OutputMode) (lines : List (Option String)) (console : Console) :
    ∃ history,
      Session.carryOut (askedActs (textLines lines)) console.session console.files =
        (history, (runScript mode lines console).2.session, (runScript mode lines console).2.files) ∧
      ((runScript mode lines console).1 = true ↔ AllSucceed (textLines lines) history) := by
  induction lines generalizing console with
  | nil => exact ⟨[], rfl, by simp [runScript, AllSucceed, textLines, askedLines]⟩
  | cons line lines ih =>
    cases line with
    | none => exact ⟨[], rfl, by simp [runScript, AllSucceed, textLines, askedLines]⟩
    | some line =>
      simp only [runScript, textLines]
      cases asked : isPassedOver (trimmedLine line) with
      | true =>
        simp only [if_true, askedActs, AllSucceed, askedLines_cons_of_passedOver asked]
        exact ih console
      | false =>
        have moves := scriptLine_moves mode console (splitWords?_trimmedLine asked)
        obtain ⟨later, run, all⟩ := ih (console.scriptLine mode (trimmedLine line)).2
        obtain ⟨events, runLine, one⟩ := LineMoves.carryOut moves run
        have acts : askedActs (line :: textLines lines) =
            (lineAct? (trimmedLine line)).toList ++ askedActs (textLines lines) := by
          rw [askedActs, askedLines_cons asked, List.filterMap_cons]
          cases lineAct? (trimmedLine line) <;> rfl
        refine ⟨events ++ later, ?_, ?_⟩
        · rw [acts, runLine]
          rfl
        · simp only [Bool.false_eq_true, if_false, Bool.and_eq_true, one, all, AllSucceed,
            askedLines_cons asked, List.forall_mem_cons, List.forall_mem_append]
          exact and_and_and_comm

/-- A script is the lines of a stream. The code after it is 0 exactly if every line before the first one
that is not text asks for an act and all of them succeed, and the session and the files are those after
these acts, carried out one after another. So the code tells whether all of the script was carried out
if all lines are text or one of these lines fails; after a line that is not text it is 0 otherwise, and
what follows is left out. -/
theorem runScript_exit_code (mode : OutputMode) (input : ByteArray) (console : Console) :
    ∃ lines history succeeded console',
      AreLines lines input.toList ∧ linesOf input = lines.map lineText? ∧
      console.runScript mode (linesOf input) = (succeeded, console') ∧
      Session.carryOut (askedActs (textLines (linesOf input))) console.session console.files =
        (history, console'.session, console'.files) ∧
      (∀ line, isPassedOver (trimmedLine line) = true ↔
        line.toList.all isBlank = true ∨ (trimStart line.toList).head? = some '#') ∧
      ((textLines (linesOf input)).map some = linesOf input ↔ none ∉ linesOf input) ∧
      ((Program.Outcome.ofConsole succeeded console').code = 0 ↔
        AllSucceed (textLines (linesOf input)) history) ∧
      (((Program.Outcome.ofConsole succeeded console').code = 0 ↔
          none ∉ linesOf input ∧ AllSucceed (textLines (linesOf input)) history) ↔
        none ∉ linesOf input ∨ ¬AllSucceed (textLines (linesOf input)) history) := by
  obtain ⟨history, run, all⟩ := runScript_carryOut mode (linesOf input) console
  have code : (Program.Outcome.ofConsole (console.runScript mode (linesOf input)).1
      (console.runScript mode (linesOf input)).2).code = 0 ↔
        AllSucceed (textLines (linesOf input)) history := by
    rw [← all, Program.Outcome.ofConsole]
    cases (console.runScript mode (linesOf input)).1 <;> simp
  refine ⟨_, history, _, _, areLines_byteLines _, rfl, rfl, run, isPassedOver_trimmedLine,
    textLines_eq_iff _, code, ?_⟩
  rw [code]
  by_cases text : none ∈ linesOf input <;> simp [text]

/-- A line that is not text, and behind it one that connects to a database. The code is 0, and the
session is connected to none. -/
theorem runScript_stops_unnoticed : ∃ input files,
    linesOf input = [none, some "use notes"] ∧ lineAct? "use notes" = some (.use "notes") ∧
    (Session.carryOut [.use "notes"] (.start .sample) files).2.1.databaseName? = some "notes" ∧
    ∃ console', runScript .human (linesOf input) (.start (.start .sample) files) = (true, console') ∧
      (Program.Outcome.ofConsole true console').code = 0 ∧ console'.session.databaseName? = none := by
  have lines : linesOf (⟨#[0xFF, lineFeed]⟩ ++ "use notes\n".toUTF8) = [none, some "use notes"] := by
    decide +kernel
  have use : MetaCommand.ofLine? "use notes" = some (.use "notes") := by decide +kernel
  refine ⟨_, (Session.carryOut [.command (.createDatabase "notes")] (.start .sample)
    (.empty ["home"])).2.2, lines, ?_, by decide +kernel, ?_⟩
  · rw [lineAct?, use]
  · rw [lines]
    exact ⟨_, rfl, rfl, rfl⟩

end Console

end Shell

end DocStore
