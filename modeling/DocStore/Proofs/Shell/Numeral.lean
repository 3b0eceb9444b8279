-- SUMMARY: Decimals as they are spelled: the pattern of their texts, the splitter that recognises them and the reader.
import DocStore.Proofs.Decimal.Nearest
import DocStore.Proofs.Result
import DocStore.Shell.Argument
import Mathlib

/-!
# Decimals as they are spelled

A value on the command line is taken for a decimal by a splitter: it cuts a text at the first mark of
an exponent and what stands before that at the first point, and then looks for digits in the parts.
What it takes for one is given to a reader, which goes through the text from the left. Both are
compared here with one pattern, a regular expression, by way of the parts that a decimal has.

So the splitter takes exactly the texts of the pattern, and the reader refuses none of them.
-/

namespace DocStore.Shell

/-! ## Patterns -/

namespace Pattern

def oneOf (cs : List Char) : RegularExpression Char :=
  (cs.map RegularExpression.char).sum

/-- A text of a pattern, or nothing. -/
def optional (p : RegularExpression Char) : RegularExpression Char :=
  1 + p

def digit : RegularExpression Char :=
  oneOf ['0', '1', '2', '3', '4', '5', '6', '7', '8', '9']

def digits : RegularExpression Char :=
  digit * digit.star

/-- Digits, possibly after a minus sign. -/
def integer : RegularExpression Char :=
  optional (.char '-') * digits

/-- Digits before a point, behind it or both, or without one. -/
def mantissa : RegularExpression Char :=
  digits * optional (.char '.' * digit.star) + .char '.' * digits

/-- A mark, possibly a sign, and digits. -/
def exponent : RegularExpression Char :=
  oneOf ['e', 'E'] * optional (oneOf ['+', '-']) * digits

/-- A mantissa, possibly after a minus sign and before an exponent. -/
def float : RegularExpression Char :=
  optional (.char '-') * mantissa * optional exponent

variable {p q : RegularExpression Char} {cs : List Char}

theorem mem_oneOf {chars : List Char} : cs ∈ (oneOf chars).matches' ↔ ∃ c ∈ chars, cs = [c] := by
  induction chars with
  | nil => simp [oneOf, Language.notMem_zero]
  | cons c chars ih =>
    have step : (oneOf (c :: chars)).matches' = {[c]} + (oneOf chars).matches' := rfl
    simp only [step, Language.mem_add, ih, List.mem_cons, exists_eq_or_imp]
    rfl

theorem mem_optional : cs ∈ (optional p).matches' ↔ cs = [] ∨ cs ∈ p.matches' := by
  rw [optional, RegularExpression.matches'_add, Language.mem_add, RegularExpression.matches'_epsilon,
    Language.mem_one]

theorem mem_char {c : Char} : cs ∈ (RegularExpression.char c).matches' ↔ cs = [c] := by
  rw [RegularExpression.matches'_char]
  rfl

theorem mem_mul : cs ∈ (p * q).matches' ↔ ∃ a ∈ p.matches', ∃ b ∈ q.matches', a ++ b = cs := by
  rw [RegularExpression.matches'_mul, Language.mem_mul]

theorem isDigit_iff {c : Char} :
    c.isDigit = true ↔ c ∈ ['0', '1', '2', '3', '4', '5', '6', '7', '8', '9'] := by
  constructor
  · intro h
    simp only [Char.isDigit, Bool.and_eq_true, decide_eq_true_eq] at h
    have lower : 48 ≤ c.toNat := UInt32.le_iff_toNat_le.1 h.1
    have upper : c.toNat ≤ 57 := UInt32.le_iff_toNat_le.1 h.2
    rw [← Char.ofNat_toNat c]
    generalize c.toNat = n at lower upper
    interval_cases n <;> decide
  · intro mem
    fin_cases mem <;> rfl

theorem mem_star_digit : cs ∈ digit.star.matches' ↔ cs.all Char.isDigit = true := by
  rw [RegularExpression.matches'_star, Language.mem_kstar, List.all_eq_true]
  constructor
  · rintro ⟨words, rfl, each⟩ c mem
    obtain ⟨word, isWord, mem⟩ := List.mem_flatten.1 mem
    obtain ⟨d, isDigit, rfl⟩ := mem_oneOf.1 (each word isWord)
    rw [List.mem_singleton.1 mem]
    exact isDigit_iff.2 isDigit
  · intro all
    refine ⟨cs.map fun c => [c], by rw [← List.flatMap_def, List.flatMap_singleton'], ?_⟩
    intro word isWord
    obtain ⟨c, mem, rfl⟩ := List.mem_map.1 isWord
    exact mem_oneOf.2 ⟨c, isDigit_iff.1 (all c mem), rfl⟩

theorem mem_digits : cs ∈ digits.matches' ↔ isDigits cs = true := by
  rw [digits, mem_mul]
  constructor
  · rintro ⟨_, first, rest, others, rfl⟩
    obtain ⟨d, isDigit, rfl⟩ := mem_oneOf.1 first
    have all := mem_star_digit.1 others
    simp [isDigits, isDigit_iff.2 isDigit, all]
  · intro spelled
    cases cs with
    | nil => cases spelled
    | cons c cs =>
      simp only [isDigits, List.isEmpty_cons, List.all_cons, Bool.and_eq_true] at spelled
      exact ⟨[c], mem_oneOf.2 ⟨c, isDigit_iff.1 spelled.2.1, rfl⟩, cs, mem_star_digit.2 spelled.2.2, rfl⟩

end Pattern

/-! ## Splitting -/

variable {isMark : Char → Bool} {cs before after : List Char}

theorem splitOnce_append {c : Char} (unmarked : ∀ d ∈ before, isMark d = false)
    (marked : isMark c = true) (after : List Char) :
    splitOnce isMark (before ++ c :: after) = (before, some after) := by
  induction before with
  | nil => simp [splitOnce, marked]
  | cons d before ih =>
    obtain ⟨first, rest⟩ := List.forall_mem_cons.1 unmarked
    simp [splitOnce, first, ih rest]

theorem splitOnce_none (unmarked : ∀ d ∈ cs, isMark d = false) :
    splitOnce isMark cs = (cs, none) := by
  induction cs with
  | nil => rfl
  | cons d cs ih =>
    obtain ⟨first, rest⟩ := List.forall_mem_cons.1 unmarked
    simp [splitOnce, first, ih rest]

/-- A text without a mark is left whole, and any other one is cut at its first mark. -/
theorem splitOnce_cases (isMark : Char → Bool) (cs : List Char) :
    (splitOnce isMark cs = (cs, none) ∧ ∀ d ∈ cs, isMark d = false) ∨
      ∃ before c after, splitOnce isMark cs = (before, some after) ∧ cs = before ++ c :: after ∧
        isMark c = true ∧ ∀ d ∈ before, isMark d = false := by
  induction cs with
  | nil => exact .inl ⟨rfl, List.forall_mem_nil _⟩
  | cons d cs ih =>
    cases marked : isMark d with
    | true => exact .inr ⟨[], d, cs, by simp [splitOnce, marked], rfl, marked, List.forall_mem_nil _⟩
    | false =>
      rcases ih with ⟨whole, none⟩ | ⟨before, c, after, split, rfl, isFirst, unmarked⟩
      · exact .inl ⟨by simp [splitOnce, marked, whole], List.forall_mem_cons.2 ⟨marked, none⟩⟩
      · exact .inr ⟨d :: before, c, after, by simp [splitOnce, marked, split], rfl, isFirst,
          List.forall_mem_cons.2 ⟨marked, unmarked⟩⟩

/-- Whether a text is cut before and behind one byte of it, both at the boundary of a character, and
the bytes on both sides are those of two texts. -/
structure Sliced (text before after : String) : Prop where
  front : String.Pos.Raw.IsValid text ⟨before.utf8ByteSize⟩
  back : String.Pos.Raw.IsValid text ⟨before.utf8ByteSize + 1⟩
  head : text.toByteArray.extract 0 before.utf8ByteSize = before.toByteArray
  tail : text.toByteArray.extract (before.utf8ByteSize + 1) text.utf8ByteSize = after.toByteArray

/-- A text is cut at the boundaries of the mark, if the marks are characters of one byte. -/
theorem sliced_of_splitOnce {text : String} (narrow : ∀ c, isMark c = true → c.utf8Size = 1)
    (cut : splitOnce isMark text.toList = (before, some after)) :
    Sliced text (String.ofList before) (String.ofList after) := by
  rcases splitOnce_cases isMark text.toList with ⟨whole, _⟩ | ⟨_, c, _, split, chars, isFirst, _⟩
  · cases cut.symm.trans whole
  · cases cut.symm.trans split
    have parts : text = String.ofList before ++ (String.singleton c ++ String.ofList after) := by
      rw [← String.toList_inj, chars]
      simp
    have mark : (String.singleton c).utf8ByteSize = 1 := by
      rw [String.utf8ByteSize_singleton, narrow c isFirst]
    refine ⟨?_, ?_, ?_, ?_⟩
    · exact String.Pos.Raw.isValid_iff_exists_append.2 ⟨_, _, parts, rfl⟩
    · refine String.Pos.Raw.isValid_iff_exists_append.2
        ⟨String.ofList before ++ String.singleton c, String.ofList after, ?_, ?_⟩
      · rw [parts, String.append_assoc]
      · rw [String.Pos.Raw.ext_iff, String.byteIdx_rawEndPos, String.utf8ByteSize_append, mark]
    · rw [parts, String.toByteArray_append]
      exact ByteArray.extract_append_eq_left String.size_toByteArray.symm
    · rw [parts, ← String.append_assoc, String.toByteArray_append]
      apply ByteArray.extract_append_eq_right
      · rw [String.size_toByteArray, String.utf8ByteSize_append, mark]
      · rw [String.size_toByteArray, String.size_toByteArray, String.utf8ByteSize_append]

/-! ## Numerals -/

/-- The parts of a decimal as it is spelled. -/
structure Numeral where
  negative : Bool
  whole : List Char
  /-- The digits behind the point, if there is one. -/
  fraction : Option (List Char)
  /-- The mark of the exponent, its sign and its digits, if there is one. -/
  power : Option (Char × Option Char × List Char)

namespace Numeral

def mantissaChars (whole : List Char) : (fraction : Option (List Char)) → List Char
  | none => whole
  | some fraction => whole ++ '.' :: fraction

/-- The text of an exponent. -/
def powerChars : (power : Option (Char × Option Char × List Char)) → List Char
  | none => []
  | some (mark, sign, ds) => mark :: (sign.toList ++ ds)

/-- The text of a numeral. -/
def chars (n : Numeral) : List Char :=
  (if n.negative then ['-'] else []) ++ (mantissaChars n.whole n.fraction ++ powerChars n.power)

/-- Whether digits are digits and stand on one side of the point at least. -/
structure IsMantissa (whole : List Char) (fraction : Option (List Char)) : Prop where
  before : whole.all Char.isDigit = true
  behind : ∀ ds ∈ fraction, ds.all Char.isDigit = true
  nonempty : whole ≠ [] ∨ ∃ ds ∈ fraction, ds ≠ []

/-- Whether the mark, the sign and the digits of an exponent are what they have to be. -/
structure IsPower (mark : Char) (sign : Option Char) (ds : List Char) : Prop where
  isMark : mark ∈ ['e', 'E']
  isSign : ∀ c ∈ sign, c ∈ ['+', '-']
  isDigits : isDigits ds = true

/-- Whether the parts of a numeral are what they have to be. -/
structure WellFormed (n : Numeral) : Prop where
  mantissa : IsMantissa n.whole n.fraction
  power : ∀ mark sign ds, n.power = some (mark, sign, ds) → IsPower mark sign ds

/-! ## Numerals are the texts of the pattern -/

variable {whole ds : List Char} {fraction : Option (List Char)} {mark : Char} {sign : Option Char}

theorem mem_mantissa : cs ∈ Pattern.mantissa.matches' ↔
    ∃ whole fraction, IsMantissa whole fraction ∧ mantissaChars whole fraction = cs := by
  rw [Pattern.mantissa, RegularExpression.matches'_add, Language.mem_add, Pattern.mem_mul,
    Pattern.mem_mul]
  constructor
  · rintro (⟨whole, digits, rest, point, rfl⟩ | ⟨point, isPoint, ds, digits, rfl⟩)
    · have spelled := Pattern.mem_digits.1 digits
      simp only [isDigits, Bool.and_eq_true, Bool.not_eq_true', List.isEmpty_eq_false_iff] at spelled
      rcases Pattern.mem_optional.1 point with rfl | some
      · exact ⟨whole, none, ⟨spelled.2, nofun, .inl spelled.1⟩, (List.append_nil _).symm⟩
      · obtain ⟨_, isPoint, ds, digits, rfl⟩ := Pattern.mem_mul.1 some
        obtain rfl := Pattern.mem_char.1 isPoint
        refine ⟨whole, Option.some ds, ⟨spelled.2, ?_, .inl spelled.1⟩, rfl⟩
        rintro _ ⟨⟩
        exact Pattern.mem_star_digit.1 digits
    · obtain rfl := Pattern.mem_char.1 isPoint
      have spelled := Pattern.mem_digits.1 digits
      simp only [isDigits, Bool.and_eq_true, Bool.not_eq_true', List.isEmpty_eq_false_iff] at spelled
      refine ⟨[], some ds, ⟨rfl, ?_, .inr ⟨ds, rfl, spelled.1⟩⟩, rfl⟩
      rintro _ ⟨⟩
      exact spelled.2
  · rintro ⟨whole, fraction, ⟨before, behind, nonempty⟩, rfl⟩
    cases whole with
    | cons d whole =>
      refine .inl ⟨d :: whole, Pattern.mem_digits.2 (by simpa [isDigits] using before), ?_⟩
      cases fraction with
      | none => exact ⟨[], Pattern.mem_optional.2 (.inl rfl), List.append_nil _⟩
      | some ds =>
        refine ⟨'.' :: ds, Pattern.mem_optional.2 (.inr (Pattern.mem_mul.2 ?_)), rfl⟩
        exact ⟨['.'], Pattern.mem_char.2 rfl, ds, Pattern.mem_star_digit.2 (behind ds rfl), rfl⟩
    | nil =>
      obtain ⟨ds, rfl, some⟩ := nonempty.resolve_left (fun none => none rfl)
      refine .inr ⟨['.'], Pattern.mem_char.2 rfl, ds, Pattern.mem_digits.2 ?_, rfl⟩
      simpa [isDigits, some] using behind ds rfl

theorem mem_exponent : cs ∈ Pattern.exponent.matches' ↔
    ∃ mark sign ds, IsPower mark sign ds ∧ powerChars (some (mark, sign, ds)) = cs := by
  rw [Pattern.exponent, Pattern.mem_mul]
  constructor
  · rintro ⟨_, start, ds, digits, rfl⟩
    obtain ⟨_, first, _, second, rfl⟩ := Pattern.mem_mul.1 start
    obtain ⟨mark, isMark, rfl⟩ := Pattern.mem_oneOf.1 first
    rcases Pattern.mem_optional.1 second with rfl | some
    · exact ⟨mark, none, ds, ⟨isMark, nofun, Pattern.mem_digits.1 digits⟩, rfl⟩
    · obtain ⟨sign, isSign, rfl⟩ := Pattern.mem_oneOf.1 some
      refine ⟨mark, Option.some sign, ds, ⟨isMark, ?_, Pattern.mem_digits.1 digits⟩, rfl⟩
      rintro _ ⟨⟩
      exact isSign
  · rintro ⟨mark, sign, ds, ⟨isMark, isSign, digits⟩, rfl⟩
    refine ⟨mark :: sign.toList, Pattern.mem_mul.2 ⟨[mark], ?_, sign.toList, ?_, rfl⟩, ds,
      Pattern.mem_digits.2 digits, rfl⟩
    · exact Pattern.mem_oneOf.2 ⟨mark, isMark, rfl⟩
    · cases sign with
      | none => exact Pattern.mem_optional.2 (.inl rfl)
      | some c => exact Pattern.mem_optional.2 (.inr (Pattern.mem_oneOf.2 ⟨c, isSign c rfl, rfl⟩))

/-- The texts of the pattern are the texts of numerals. -/
theorem mem_float : cs ∈ Pattern.float.matches' ↔ ∃ n : Numeral, n.WellFormed ∧ n.chars = cs := by
  rw [Pattern.float, Pattern.mem_mul]
  constructor
  · rintro ⟨_, start, rest, power, rfl⟩
    obtain ⟨minus, isMinus, _, mantissa, rfl⟩ := Pattern.mem_mul.1 start
    obtain ⟨whole, fraction, fine, rfl⟩ := mem_mantissa.1 mantissa
    obtain ⟨negative, rfl⟩ : ∃ negative : Bool, minus = if negative then ['-'] else [] := by
      rcases Pattern.mem_optional.1 isMinus with rfl | some
      · exact ⟨false, rfl⟩
      · exact ⟨true, Pattern.mem_char.1 some⟩
    rcases Pattern.mem_optional.1 power with rfl | some
    · exact ⟨⟨negative, whole, fraction, none⟩, ⟨fine, nofun⟩, by simp [chars, powerChars]⟩
    · obtain ⟨mark, sign, ds, isPower, rfl⟩ := mem_exponent.1 some
      refine ⟨⟨negative, whole, fraction, Option.some (mark, sign, ds)⟩, ⟨fine, ?_⟩, by simp [chars]⟩
      rintro _ _ _ ⟨⟩
      exact isPower
  · rintro ⟨⟨negative, whole, fraction, power⟩, ⟨fine, isPower⟩, rfl⟩
    refine ⟨(if negative then ['-'] else []) ++ mantissaChars whole fraction,
      Pattern.mem_mul.2 ⟨_, ?_, _, mem_mantissa.2 ⟨whole, fraction, fine, rfl⟩, rfl⟩,
      powerChars power, ?_, by simp [chars]⟩
    · cases negative with
      | false => exact Pattern.mem_optional.2 (.inl rfl)
      | true => exact Pattern.mem_optional.2 (.inr (Pattern.mem_char.2 rfl))
    · cases power with
      | none => exact Pattern.mem_optional.2 (.inl rfl)
      | some power =>
        obtain ⟨mark, sign, ds⟩ := power
        exact Pattern.mem_optional.2 (.inr (mem_exponent.2 ⟨mark, sign, ds, isPower _ _ _ rfl, rfl⟩))

/-! ## Numerals are what the splitter takes -/

theorem not_isDigit {c : Char} (mem : c ∈ ['.', 'e', 'E', '+', '-']) : c.isDigit = false := by
  fin_cases mem <;> rfl

theorem isExponentMark_iff {c : Char} : isExponentMark c = true ↔ c ∈ ['e', 'E'] := by
  simp [isExponentMark]

/-- Digits are none of the characters at which a decimal is cut. -/
theorem isDigit_unmarked {c : Char} (digit : c.isDigit = true) :
    (c == '.') = false ∧ isExponentMark c = false := by
  constructor
  · rw [beq_eq_false_iff_ne]
    rintro rfl
    cases digit
  · rw [Bool.eq_false_iff, Ne, isExponentMark_iff]
    intro marked
    rw [not_isDigit (List.mem_cons_of_mem _ (List.mem_append_left ['+', '-'] marked))] at digit
    cases digit

/-- The check of a mantissa accepts digits before a point, behind it or both. -/
theorem isMantissa_iff : isMantissa cs = true ↔
    ∃ whole fraction, IsMantissa whole fraction ∧ mantissaChars whole fraction = cs := by
  constructor
  · intro taken
    rcases splitOnce_cases (· == '.') cs with ⟨split, _⟩ | ⟨whole, c, ds, split, rfl, isPoint, _⟩
    · simp only [isMantissa, split, isDigits, Bool.and_eq_true, Bool.not_eq_true',
        List.isEmpty_eq_false_iff] at taken
      exact ⟨cs, none, ⟨taken.2, nofun, .inl taken.1⟩, rfl⟩
    · obtain rfl := eq_of_beq isPoint
      simp only [isMantissa, split, Bool.and_eq_true, Bool.or_eq_true, Bool.not_eq_true',
        List.isEmpty_eq_false_iff] at taken
      obtain ⟨⟨nonempty, before⟩, behind⟩ := taken
      refine ⟨whole, some ds, ⟨before, ?_, nonempty.imp_right fun some => ⟨ds, rfl, some⟩⟩, rfl⟩
      rintro _ ⟨⟩
      exact behind
  · rintro ⟨whole, fraction, ⟨before, behind, nonempty⟩, rfl⟩
    have unmarked : ∀ c ∈ whole, (c == '.') = false := fun c mem =>
      (isDigit_unmarked (List.all_eq_true.1 before c mem)).1
    cases fraction with
    | none =>
      have some : whole ≠ [] := nonempty.resolve_right nofun
      simp [isMantissa, mantissaChars, splitOnce_none unmarked, isDigits, some, before]
    | some ds =>
      have split := splitOnce_append unmarked (beq_self_eq_true '.') ds
      have some : whole ≠ [] ∨ ds ≠ [] := by simpa using nonempty
      simpa [isMantissa, mantissaChars, split, before, behind ds rfl] using some

theorem splitSign_cons {c : Char} (noSign : c ∉ ['+', '-']) (cs : List Char) :
    splitSign (c :: cs) = (false, c :: cs) := by
  obtain ⟨plus, minus⟩ : c ≠ '+' ∧ c ≠ '-' := by simpa using noSign
  simp [splitSign, splitMinus, plus, minus]

theorem splitSign_append (isSign : ∀ c ∈ sign, c ∈ ['+', '-']) (digits : isDigits ds = true) :
    splitSign (sign.toList ++ ds) = (sign == some '-', ds) := by
  cases sign with
  | none =>
    cases ds with
    | nil => cases digits
    | cons d ds =>
      apply splitSign_cons
      intro signed
      simp only [isDigits, List.all_cons, Bool.and_eq_true] at digits
      fin_cases signed <;> exact absurd digits.2.1 (by decide)
  | some c =>
    have mem := isSign c rfl
    fin_cases mem <;> rfl

/-- The check of an exponent accepts digits with or without a sign. -/
theorem isExponent_iff : isExponent cs = true ↔
    ∃ sign ds, (∀ c ∈ sign, c ∈ ['+', '-']) ∧ isDigits ds = true ∧ Option.toList sign ++ ds = cs := by
  constructor
  · intro taken
    rcases cs with _ | ⟨c, cs⟩
    · cases taken
    · by_cases isSign : c ∈ ['+', '-']
      · have digits : isDigits cs = true := by
          fin_cases isSign <;> exact taken
        refine ⟨some c, cs, ?_, digits, rfl⟩
        rintro _ ⟨⟩
        exact isSign
      · rw [isExponent, splitSign_cons isSign] at taken
        exact ⟨none, c :: cs, nofun, taken, rfl⟩
  · rintro ⟨sign, ds, isSign, digits, rfl⟩
    rw [isExponent, splitSign_append isSign digits]
    exact digits

/-- The text of a mantissa starts with a digit or a point. -/
theorem exists_cons_mantissa (fine : IsMantissa whole fraction) (rest : List Char) :
    ∃ c cs, mantissaChars whole fraction ++ rest = c :: cs ∧ (c.isDigit = true ∨ c = '.') := by
  cases whole with
  | cons d whole =>
    have digit := List.all_eq_true.1 fine.before d List.mem_cons_self
    cases fraction <;> exact ⟨d, _, rfl, .inl digit⟩
  | nil =>
    obtain ⟨ds, rfl, _⟩ := fine.nonempty.resolve_left fun none => none rfl
    exact ⟨'.', _, rfl, .inr rfl⟩

theorem splitMinus_chars {n : Numeral} (fine : n.WellFormed) :
    splitMinus n.chars = (n.negative, mantissaChars n.whole n.fraction ++ powerChars n.power) ∧
      splitSign n.chars = (n.negative, mantissaChars n.whole n.fraction ++ powerChars n.power) := by
  obtain ⟨negative, whole, fraction, power⟩ := n
  cases negative with
  | true => exact ⟨rfl, rfl⟩
  | false =>
    obtain ⟨c, cs, start, front⟩ := exists_cons_mantissa fine.mantissa (powerChars power)
    have noSign : c ∉ ['+', '-'] := by
      intro signed
      fin_cases signed <;> simp at front
    have noMinus : c ≠ '-' := fun same => noSign (by simp [same])
    simp only [chars, Bool.false_eq_true, if_false, List.nil_append, start]
    exact ⟨by simp [splitMinus, noMinus], splitSign_cons noSign cs⟩

theorem unmarked_mantissa (fine : IsMantissa whole fraction) :
    ∀ c ∈ mantissaChars whole fraction, isExponentMark c = false := by
  have digits : ∀ {ds : List Char}, ds.all Char.isDigit = true → ∀ c ∈ ds, isExponentMark c = false :=
    fun all c mem => (isDigit_unmarked (List.all_eq_true.1 all c mem)).2
  cases fraction with
  | none => exact digits fine.before
  | some ds =>
    intro c mem
    rcases List.mem_append.1 mem with mem | mem
    · exact digits fine.before c mem
    · rcases List.mem_cons.1 mem with rfl | mem
      · decide
      · exact digits (fine.behind ds rfl) c mem

/-- The splitter takes exactly the texts of numerals. -/
theorem isFloat_iff : isFloat cs = true ↔ ∃ n : Numeral, n.WellFormed ∧ n.chars = cs := by
  constructor
  · intro taken
    obtain ⟨negative, body, split, rfl⟩ : ∃ negative body, splitMinus cs = (negative, body) ∧
        cs = (if negative then ['-'] else []) ++ body := by
      unfold splitMinus
      split
      · exact ⟨true, _, rfl, rfl⟩
      · exact ⟨false, cs, rfl, rfl⟩
    rw [isFloat, split] at taken
    rcases splitOnce_cases isExponentMark body with
      ⟨cut, _⟩ | ⟨before, mark, after, cut, rfl, isMark, _⟩
    · simp only [cut, Option.all_none, Bool.and_true] at taken
      obtain ⟨whole, fraction, fine, rfl⟩ := isMantissa_iff.1 taken
      exact ⟨⟨negative, whole, fraction, none⟩, ⟨fine, nofun⟩, by simp [chars, powerChars]⟩
    · simp only [cut, Option.all_some, Bool.and_eq_true] at taken
      obtain ⟨whole, fraction, fine, rfl⟩ := isMantissa_iff.1 taken.1
      obtain ⟨sign, ds, isSign, digits, rfl⟩ := isExponent_iff.1 taken.2
      refine ⟨⟨negative, whole, fraction, some (mark, sign, ds)⟩, ⟨fine, ?_⟩, rfl⟩
      rintro _ _ _ ⟨⟩
      exact ⟨isExponentMark_iff.1 isMark, isSign, digits⟩
  · rintro ⟨n, fine, rfl⟩
    have mantissa : isMantissa (mantissaChars n.whole n.fraction) = true :=
      isMantissa_iff.2 ⟨_, _, fine.mantissa, rfl⟩
    have unmarked := unmarked_mantissa fine.mantissa
    rw [isFloat, (splitMinus_chars fine).1]
    cases power : n.power with
    | none => simp [powerChars, splitOnce_none unmarked, mantissa]
    | some parts =>
      obtain ⟨mark, sign, ds⟩ := parts
      obtain ⟨isMark, isSign, digits⟩ := fine.power mark sign ds power
      have exponent : isExponent (sign.toList ++ ds) = true :=
        isExponent_iff.2 ⟨sign, ds, isSign, digits, rfl⟩
      have cut := splitOnce_append unmarked (isExponentMark_iff.2 isMark) (sign.toList ++ ds)
      simp [powerChars, cut, mantissa, exponent]

/-! ## Numerals are read -/

def powerValue : (power : Option (Char × Option Char × List Char)) → Int
  | none => 0
  | some (_, sign, ds) => signed (sign == some '-') (Nat.ofDigitChars 10 ds 0)

/-- The decimal of a numeral, without its sign. -/
def decimal (n : Numeral) : Decimal :=
  let fraction := n.fraction.getD []
  ⟨Nat.ofDigitChars 10 (n.whole ++ fraction) 0, powerValue n.power - fraction.length⟩

/-- The number that a numeral denotes, without its sign. -/
def magnitude (n : Numeral) : ℚ :=
  let fraction := n.fraction.getD []
  (Nat.ofDigitChars 10 n.whole 0 + Nat.ofDigitChars 10 fraction 0 / 10 ^ fraction.length) *
    10 ^ powerValue n.power

theorem span_digits {rest : List Char} (all : ds.all Char.isDigit = true)
    (ends : ∀ c ∈ rest.head?, c.isDigit = false) : (ds ++ rest).span Char.isDigit = (ds, rest) := by
  rw [List.all_eq_true] at all
  rw [List.span_eq_takeWhile_dropWhile, List.takeWhile_append_of_pos all,
    List.dropWhile_append_of_pos all]
  cases rest with
  | nil => simp
  | cons c rest => simp [ends c rfl]

theorem readExponent?_powerChars {power : Option (Char × Option Char × List Char)}
    (fine : ∀ mark sign ds, power = some (mark, sign, ds) → IsPower mark sign ds) :
    readExponent? (powerChars power) = some (powerValue power) := by
  cases power with
  | none => rfl
  | some parts =>
    obtain ⟨mark, sign, ds⟩ := parts
    obtain ⟨isMark, isSign, digits⟩ := fine mark sign ds rfl
    simp only [powerChars, readExponent?, splitSign_append isSign digits, isExponentMark_iff.2 isMark,
      digits]
    rfl

theorem head?_powerChars {power : Option (Char × Option Char × List Char)}
    (fine : ∀ mark sign ds, power = some (mark, sign, ds) → IsPower mark sign ds) :
    ∀ c ∈ (powerChars power).head?, c ∈ ['e', 'E'] := by
  cases power with
  | none => exact nofun
  | some parts =>
    obtain ⟨mark, sign, ds⟩ := parts
    rintro _ ⟨⟩
    exact (fine mark sign ds rfl).isMark

theorem readUnsigned?_of_parts {ds rest behind : List Char} {exponent : Int}
    (before : cs.span Char.isDigit = (whole, rest)) (after : readFraction rest = (ds, behind))
    (power : readExponent? behind = some exponent) (nonempty : (whole ++ ds).isEmpty = false) :
    readUnsigned? cs = some ⟨Nat.ofDigitChars 10 (whole ++ ds) 0, exponent - ds.length⟩ := by
  simp only [readUnsigned?, before, after, power, nonempty, Option.bind_eq_bind, Option.bind_some]
  rfl

/-- The reader refuses no numeral, and it reads the decimal of the numeral. -/
theorem readDecimal?_chars {n : Numeral} (fine : n.WellFormed) :
    readDecimal? n.chars = some (n.negative, n.decimal) := by
  have marks := head?_powerChars fine.power
  have ends : ∀ c ∈ (powerChars n.power).head?, c.isDigit = false := fun c mem =>
    not_isDigit (List.mem_cons_of_mem _ (List.mem_append_left ['+', '-'] (marks c mem)))
  have power := readExponent?_powerChars fine.power
  have read : readUnsigned? (mantissaChars n.whole n.fraction ++ powerChars n.power) =
      some n.decimal := by
    rw [decimal]
    cases fraction : n.fraction with
    | none =>
      have noFraction : readFraction (powerChars n.power) = ([], powerChars n.power) := by
        unfold readFraction
        split
        · rename_i front
          have mark := marks '.' (by rw [front]; rfl)
          exact absurd mark (by decide)
        · rfl
      have some : n.whole ≠ [] := by
        rcases fine.mantissa.nonempty with some | ⟨ds, isFraction, _⟩
        · exact some
        · cases fraction.symm.trans isFraction
      exact readUnsigned?_of_parts (span_digits fine.mantissa.before ends) noFraction power
        (by simpa using some)
    | some ds =>
      have point : ∀ c ∈ ('.' :: (ds ++ powerChars n.power)).head?, c.isDigit = false := by
        rintro _ ⟨⟩
        rfl
      have some : n.whole ++ ds ≠ [] := by
        rcases fine.mantissa.nonempty with some | ⟨_, isFraction, some⟩
        · simp [some]
        · cases fraction.symm.trans isFraction
          simp [some]
      have split : mantissaChars n.whole (Option.some ds) ++ powerChars n.power =
          n.whole ++ '.' :: (ds ++ powerChars n.power) := by
        simp [mantissaChars]
      rw [split]
      exact readUnsigned?_of_parts (span_digits fine.mantissa.before point)
        (span_digits (fine.mantissa.behind ds fraction) ends) power
        (List.isEmpty_eq_false_iff.2 some)
  rw [readDecimal?, (splitMinus_chars fine).2]
  simp only [read, Option.map_some]

/-- The decimal that is read is the number that the numeral denotes. -/
theorem value_decimal (n : Numeral) : n.decimal.value = n.magnitude := by
  have ten : (10 : ℚ) ≠ 0 := by norm_num
  simp only [Decimal.value, decimal, magnitude, Nat.ofDigitChars_append]
  rw [Nat.ofDigitChars_eq_ofDigitChars_zero, zpow_sub₀ ten, zpow_natCast]
  push_cast
  field_simp

end Numeral

end DocStore.Shell
