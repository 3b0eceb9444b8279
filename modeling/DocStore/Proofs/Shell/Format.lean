-- SUMMARY: Records shown for a program read back: one line for each record, or one array of all of them.
import DocStore.Proofs.Catalog.RoundTrip
import DocStore.Shell.Format
import Mathlib.Data.List.Forall2

/-!
# Records shown for a program

Shown bare, records are cut apart again at the line feeds between them: the compact text of a value
has no control character in it, whatever stands in its strings, because a string is written with all
of its control characters escaped and there is nothing between the parts of a container. Shown as
JSON, records are the items of one array, which opens one container more than they do.
-/

namespace DocStore

/-! ## Control characters -/

/-- Whether no control character is among some characters. -/
def Uncontrolled (cs : List Char) : Prop :=
  ∀ c ∈ cs, 0x20 ≤ c.toNat

namespace Uncontrolled

@[simp] theorem nil : Uncontrolled [] :=
  List.forall_mem_nil _

@[simp] theorem cons_iff {c : Char} {cs : List Char} :
    Uncontrolled (c :: cs) ↔ 0x20 ≤ c.toNat ∧ Uncontrolled cs :=
  List.forall_mem_cons

@[simp] theorem append_iff {cs ds : List Char} :
    Uncontrolled (cs ++ ds) ↔ Uncontrolled cs ∧ Uncontrolled ds :=
  List.forall_mem_append

theorem lineFeed_notMem {cs : List Char} (h : Uncontrolled cs) : '\n' ∉ cs := by
  intro mem
  exact absurd (h '\n' mem) (by decide)

end Uncontrolled

/-- No letter that stands for a character in an escape is a control character. -/
theorem le_toNat_of_shortEscape? {e c : Char} (letter : Tree.shortEscape? e = some c) :
    0x20 ≤ e.toNat := by
  unfold Tree.shortEscape? at letter
  split_ifs at letter with own b f n r t
  · simp only [Bool.or_eq_true, beq_iff_eq] at own
    rcases own with (rfl | rfl) | rfl <;> decide
  all_goals simp_all

theorem uncontrolled_escapeChar (c : Char) : Uncontrolled (escapeChar c) := by
  rcases Tree.escapeChar_cases c with ⟨text, -, -, plain⟩ | ⟨e, text, letter⟩ | ⟨text, control⟩
  · rw [text]
    simpa using Nat.le_of_not_lt plain
  · have shown := le_toNat_of_shortEscape? letter
    rw [text]
    simpa using shown
  · -- A control character is written by its number.
    have digit : ∀ n < 16, 0x20 ≤ (Nat.digitChar n).toNat := by decide
    have high := digit (c.toNat / 16) (by omega)
    have low := digit (c.toNat % 16) (by omega)
    rw [text, controlEscape]
    simp [high, low]

theorem uncontrolled_stringChars (s : String) : Uncontrolled (stringChars s) := by
  have escaped : Uncontrolled (s.toList.flatMap escapeChar) := by
    intro c mem
    obtain ⟨d, -, mem⟩ := List.mem_flatMap.1 mem
    exact uncontrolled_escapeChar d c mem
  simpa [stringChars] using escaped

theorem uncontrolled_of_isDigit {ds : List Char} (digits : ∀ c ∈ ds, c.isDigit = true) :
    Uncontrolled ds := by
  intro c mem
  have digit := digits c mem
  simp only [Char.isDigit, Bool.and_eq_true, decide_eq_true_eq] at digit
  have lower : 48 ≤ c.toNat := digit.1
  omega

theorem uncontrolled_numberChars (n : Number) : Uncontrolled n.chars := by
  obtain ⟨⟨negative, whole, fraction, power⟩, wf, text⟩ := n.exists_literal
  have sign : Uncontrolled (Number.Literal.signChars negative) := by
    cases negative <;> simp [Number.Literal.signChars]
  have point : Uncontrolled (Number.Literal.pointChars fraction) := by
    have digits := uncontrolled_of_isDigit wf.fraction
    cases fraction with
    | nil => simp [Number.Literal.pointChars]
    | cons c cs => simpa [Number.Literal.pointChars] using digits
  have exponent : Uncontrolled (Number.Literal.powerChars power) := by
    cases power with
    | none => simp [Number.Literal.powerChars]
    | some p =>
      have digits := uncontrolled_of_isDigit fun c => Number.isDigit_toDigits (n := p.natAbs) (c := c)
      by_cases negative : p < 0 <;> simp [Number.Literal.powerChars, negative, digits]
  rw [← text, Number.Literal.chars]
  simp [sign, uncontrolled_of_isDigit wf.whole.isDigit, point, exponent]

mutual
/-- The compact text of a value has no control character. -/
theorem uncontrolled_chars : ∀ (level : Nat) (v : Json), Uncontrolled (v.chars .compact level)
  | _, .null => by simp [Json.chars]
  | _, .bool true => by simp [Json.chars]
  | _, .bool false => by simp [Json.chars]
  | _, .number n => uncontrolled_numberChars n
  | _, .string s => uncontrolled_stringChars s
  | _, .array [] => by simp [Json.chars]
  | level, .array (item :: items) => by
    have first := uncontrolled_chars (level + 1) item
    have more := uncontrolled_moreItemsChars (level + 1) items
    simp [Json.chars, Style.lineBreak, first, more]
  | _, .object [] => by simp [Json.chars]
  | level, .object ((name, value) :: members) => by
    have first := uncontrolled_chars (level + 1) value
    have more := uncontrolled_moreMembersChars (level + 1) members
    simp [Json.chars, Style.lineBreak, Style.colon, uncontrolled_stringChars name, first, more]

/-- Nor have the texts of the items after the first one. -/
theorem uncontrolled_moreItemsChars : ∀ (level : Nat) (items : List Json),
    Uncontrolled (moreItemsChars .compact level items)
  | _, [] => by simp [moreItemsChars]
  | level, item :: items => by
    have first := uncontrolled_chars level item
    have more := uncontrolled_moreItemsChars level items
    simp [moreItemsChars, Style.lineBreak, first, more]

/-- Nor have the texts of the members after the first one. -/
theorem uncontrolled_moreMembersChars : ∀ (level : Nat) (members : Object),
    Uncontrolled (moreMembersChars .compact level members)
  | _, [] => by simp [moreMembersChars]
  | level, (name, value) :: members => by
    have first := uncontrolled_chars level value
    have more := uncontrolled_moreMembersChars level members
    simp [moreMembersChars, Style.lineBreak, Style.colon, uncontrolled_stringChars name, first, more]
end

theorem uncontrolled_compact (v : Json) : Uncontrolled v.compact.toList := by
  rw [Json.compact, Json.text, String.toList_ofList]
  exact uncontrolled_chars 0 v

/-! ## Lines -/

def linesBetween (text : String) : List String :=
  (text.toList.splitOn '\n').map String.ofList

/-- Values on lines of their own are cut apart again into their texts. -/
theorem linesBetween_compact {values : List Json} (nonempty : values ≠ []) :
    linesBetween ("\n".intercalate (values.map Json.compact)) = values.map Json.compact := by
  have plain : ∀ line ∈ (values.map Json.compact).map String.toList, '\n' ∉ line := by
    simp only [List.map_map, List.forall_mem_map]
    exact fun v _ => (uncontrolled_compact v).lineFeed_notMem
  have split := List.splitOn_intercalate '\n' plain (by simpa using nonempty)
  rw [linesBetween, String.toList_intercalate, show "\n".toList = ['\n'] from rfl, split]
  simp

/-! ## Records -/

/-- The text of a record is read as the record. -/
theorem Record.parse_text (style : Style) {r : Record} (wf : r.WellFormed)
    (readsBack : r.toJson.ReadsBack) (deep : r.toJson.depth ≤ maxDepth) :
    Record.parse (r.toJson.text style) = .ok r := by
  rw [Record.parse, Document.read_text, Document.decode, Record.decode_tree maxDepth wf,
    if_pos (readsBack.fits_iff.2 deep), Record.reread_eq_self wf readsBack]
  rfl

namespace Shell.Output

/-- Shown bare, one record or more stand on lines of their own, as many as there are records, and each
line is read as the record that it stands for, its fields in their order. Shown as JSON, any records
read back as the array of these records. -/
theorem records_read_back {records : List Record} (wf : ∀ r ∈ records, r.WellFormed)
    (readsBack : ∀ r ∈ records, r.toJson.ReadsBack) (deep : ∀ r ∈ records, r.toJson.depth ≤ 126) :
    (records ≠ [] →
      List.Forall₂ (fun line r => Json.parse? line = some r.toJson ∧ Record.parse line = .ok r)
        (linesBetween ((Output.records records).text .raw)) records) ∧
    Json.parse? ((Output.records records).text .json) =
      some (.array (records.map Record.toJson)) := by
  constructor
  · intro nonempty
    have lines : linesBetween ((Output.records records).text .raw) =
        records.map fun r => r.toJson.compact := by
      have notEmpty : records.map Record.toJson ≠ [] := by simpa using nonempty
      have cut := linesBetween_compact notEmpty
      rwa [List.map_map] at cut
    rw [lines, List.forall₂_map_left_iff, List.forall₂_same]
    intro r mem
    have fits : r.toJson.depth ≤ maxDepth := (deep r mem).trans (by decide)
    exact ⟨Json.parse?_text .compact (wf r mem).sound_toJson (readsBack r mem) fits,
      Record.parse_text .compact (wf r mem) (readsBack r mem) fits⟩
  · -- The array is one more container around the records.
    refine Json.parse?_text .indented ?_ ?_ ?_
    · exact Json.sound_array.2 (List.forall_mem_map.2 fun r mem => (wf r mem).sound_toJson)
    · exact Json.readsBack_array.2 (List.forall_mem_map.2 readsBack)
    · exact Nat.succ_le_succ (itemsDepth_le.2 (List.forall_mem_map.2 deep))

/-- Two records, one of them with line feeds in a name and in a string, and a double in an array. -/
theorem records_read_back_lineFeeds :
    let first : Record :=
      ⟨1, [("a\nb", .string "x\ny"), ("c", .array [.number (.float 1.5), .object []])]⟩
    let last : Record := ⟨RecordId.last, []⟩
    (∃ one two, linesBetween ((Output.records [first, last]).text .raw) = [one, two] ∧
      (Json.parse? one = some first.toJson ∧ Record.parse one = .ok first) ∧
      (Json.parse? two = some last.toJson ∧ Record.parse two = .ok last)) ∧
    Json.parse? ((Output.records [first, last]).text .json) =
      some (.array [first.toJson, last.toJson]) := by
  intro first last
  have wf : ∀ r ∈ [first, last], r.WellFormed := by decide +kernel
  obtain ⟨raw, json⟩ := records_read_back wf (by decide +kernel) (by decide +kernel)
  obtain ⟨one, _, readOne, rest, lines⟩ :=
    List.forall₂_cons_right_iff.1 (raw (List.cons_ne_nil _ _))
  obtain ⟨two, _, readTwo, none, rfl⟩ := List.forall₂_cons_right_iff.1 rest
  rw [List.forall₂_nil_right_iff.1 none] at lines
  exact ⟨⟨one, two, lines, readOne, readTwo⟩, json⟩

end Shell.Output

end DocStore
