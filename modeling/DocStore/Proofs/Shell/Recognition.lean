-- SUMMARY: Which value an argument is recognised as: JSON, a word, an integer or a decimal by its grammar, and otherwise the text itself.
import DocStore.Proofs.Json.Grammar
import DocStore.Proofs.Shell.Numeral

/-!
# The value of an argument

The value of a field is recognised by its spelling alone. The kinds are tried one after another, and
what looks like one of them but is out of its range falls through to the next: an integer beyond 64
bits is a decimal, a decimal beyond the doubles is a text, and so is JSON that cannot be read. Here the
outcome is said without an order: a text spells at most one value, and what spells none is taken as it
stands, character for character.
-/

namespace DocStore

/-- A text is read as JSON exactly if it is a text of a value that is not nested too deeply. -/
theorem Json.parse?_eq_some_iff {text : String} {w : Json} :
    Json.parse? text = some w ↔
      ∃ v : Json, v.WrittenAs text.toUTF8 ∧ v.depth ≤ maxDepth ∧ v.merged = w := by
  have whole : ∀ v : Json, Document.read (Symbol.ofString text) = ⟨v.plainTree, true⟩ ↔
      v.WrittenAs text.toUTF8 := by
    intro v
    rw [← Symbol.ofBytes_toUTF8, Document.read_eq_plainTree]
  rw [Json.parse?, Json.ofSymbols?]
  constructor
  · intro read
    simp only [Option.ite_none_right_eq_some] at read
    obtain ⟨complete, denoted⟩ := read
    obtain ⟨v, tree, deep⟩ := Tree.exists_plainTree denoted
    have document : Document.read (Symbol.ofString text) = ⟨v.plainTree, true⟩ := by
      rw [← tree, ← complete]
    refine ⟨v, (whole v).1 document, deep, ?_⟩
    rw [tree, Tree.toJson?_plainTree deep] at denoted
    exact Option.some.inj denoted
  · rintro ⟨v, written, deep, rfl⟩
    simp only [(whole v).2 written, if_true]
    exact Tree.toJson?_plainTree deep

/-- No white space around a text is white space around it. -/
theorem padded_self (text : List Char) : Padded text text := by
  have padded : Padded text ([] ++ text ++ []) := .mk (List.forall_mem_nil _) (List.forall_mem_nil _)
  rwa [List.nil_append, List.append_nil] at padded

namespace Shell

/-! ## Integers -/

/-- Whether characters are an integer of 64 bits with a sign. -/
structure IsInt64 (cs : List Char) : Prop where
  pattern : cs ∈ Pattern.integer.matches'
  least : -2 ^ 63 ≤ integerValue cs
  greatest : integerValue cs < 2 ^ 63

/-- Digits do not start with a minus sign. -/
theorem splitMinus_of_isDigits {cs : List Char} (digits : isDigits cs = true) :
    splitMinus cs = (false, cs) := by
  unfold splitMinus
  split
  · cases digits
  · rfl

theorem isInteger_iff {cs : List Char} : isInteger cs = true ↔ cs ∈ Pattern.integer.matches' := by
  rw [isInteger, Pattern.integer, Pattern.mem_mul]
  constructor
  · intro digits
    unfold splitMinus at digits
    split at digits
    · exact ⟨['-'], Pattern.mem_optional.2 (.inr (Pattern.mem_char.2 rfl)), _,
        Pattern.mem_digits.2 digits, rfl⟩
    · exact ⟨[], Pattern.mem_optional.2 (.inl rfl), cs, Pattern.mem_digits.2 digits, rfl⟩
  · rintro ⟨minus, isMinus, ds, isDs, rfl⟩
    have digits := Pattern.mem_digits.1 isDs
    rcases Pattern.mem_optional.1 isMinus with rfl | some
    · rw [List.nil_append, splitMinus_of_isDigits digits]
      exact digits
    · rw [Pattern.mem_char.1 some]
      exact digits

/-- A word is read as an integer exactly if it spells one of 64 bits with a sign. -/
theorem integer?_eq_some_iff {cs : List Char} {i : Int} :
    integer? cs = some i ↔ IsInt64 cs ∧ integerValue cs = i := by
  have range : (Number.minIntMagnitude : Int) = 2 ^ 63 := by decide
  simp only [integer?, Option.ite_none_right_eq_some, Bool.and_eq_true, decide_eq_true_eq,
    isInteger_iff, range, Option.some.injEq]
  constructor
  · rintro ⟨⟨⟨pattern, least⟩, greatest⟩, value⟩
    exact ⟨⟨pattern, least, greatest⟩, value⟩
  · rintro ⟨⟨pattern, least, greatest⟩, value⟩
    exact ⟨⟨⟨pattern, least⟩, greatest⟩, value⟩

theorem integer?_eq_none {cs : List Char} (noInteger : ¬IsInt64 cs) : integer? cs = none := by
  rw [Option.eq_none_iff_forall_ne_some]
  intro i found
  exact noInteger (integer?_eq_some_iff.1 found).1

/-- An integer is a numeral without a point and an exponent. -/
theorem isFloat_of_isInteger {cs : List Char} (spelled : isInteger cs = true) : isFloat cs = true := by
  obtain ⟨minus, isMinus, ds, isDs, rfl⟩ := Pattern.mem_mul.1 (isInteger_iff.1 spelled)
  have mantissa : ds ∈ Pattern.mantissa.matches' :=
    .inl (Pattern.mem_mul.2 ⟨ds, isDs, [], Pattern.mem_optional.2 (.inl rfl), List.append_nil _⟩)
  refine Numeral.isFloat_iff.2 (Numeral.mem_float.1 (Pattern.mem_mul.2 ⟨minus ++ ds, ?_, [], ?_, ?_⟩))
  · exact Pattern.mem_mul.2 ⟨minus, isMinus, ds, mantissa, rfl⟩
  · exact Pattern.mem_optional.2 (.inl rfl)
  · exact List.append_nil _

/-! ## Decimals -/

/-- Minus a double, or the double itself. -/
def signedFloat (negative : Bool) (f : Float) : Float :=
  if negative then -f else f

theorem float?_eq_some_iff {cs : List Char} {g : Float} :
    float? cs = some g ↔ ∃ n : Numeral, n.WellFormed ∧ n.chars = cs ∧
      ∃ f, n.decimal.toFloat? = some f ∧ signedFloat n.negative f = g := by
  rw [float?, Option.ite_none_right_eq_some, Numeral.isFloat_iff]
  have read : ∀ n : Numeral, n.WellFormed → (readFloat? n.chars = some g ↔
      ∃ f, n.decimal.toFloat? = some f ∧ signedFloat n.negative f = g) := by
    intro n fine
    simp only [readFloat?, Numeral.readDecimal?_chars fine, Option.bind_eq_bind, Option.bind_some,
      Option.bind_eq_some_iff]
    simp [signedFloat]
  constructor
  · rintro ⟨⟨n, fine, rfl⟩, found⟩
    exact ⟨n, fine, rfl, (read n fine).1 found⟩
  · rintro ⟨n, fine, rfl, found⟩
    exact ⟨⟨n, fine, rfl⟩, (read n fine).2 found⟩

/-! ## Values -/

/-- Whether a text spells a value: a JSON object, array or string that can be read, a word, an integer
of 64 bits, or another decimal that is nearest to a double. -/
inductive Spells : String → Json → Prop
  | structured {text : String} {c : Char} {v : Json} (start : text.toList.head? = some c)
      (opens : c ∈ ['\x7b', '[', '"']) (written : v.WrittenAs text.toUTF8)
      (deep : v.depth ≤ maxDepth) : Spells text v.merged
  | null : Spells "null" .null
  | true : Spells "true" (.bool true)
  | false : Spells "false" (.bool false)
  | integer {text : String} (spelled : IsInt64 text.toList) :
      Spells text (.number (.int (integerValue text.toList)))
  | float {text : String} {n : Numeral} {f : Float} (fine : n.WellFormed)
      (parts : n.chars = text.toList) (noInteger : ¬IsInt64 text.toList)
      (finite : n.magnitude < Decimal.firstBeyond) (nearest : n.decimal.toFloat? = some f) :
      Spells text (.number (.float (signedFloat n.negative f)))

/-- Whether a value is what a text spells, or the text itself if it spells none. -/
def Denotes (text : String) (v : Json) : Prop :=
  Spells text v ∨ (∀ w, ¬Spells text w) ∧ v = .string text

theorem startsLikeJson_iff {cs : List Char} :
    startsLikeJson cs = true ↔ ∃ c ∈ cs.head?, c ∈ ['\x7b', '[', '"'] := by
  cases cs with
  | nil => simp [startsLikeJson]
  | cons c cs => simp [startsLikeJson, or_assoc]

theorem structured?_eq_some_iff {text : String} {w : Json} :
    structured? text = some w ↔
      (∃ c ∈ text.toList.head?, c ∈ ['\x7b', '[', '"']) ∧ Json.parse? text = some w := by
  rw [structured?, Option.ite_none_right_eq_some, startsLikeJson_iff]

/-- No decimal starts like a JSON object, array or string. -/
theorem startsLikeJson_of_isFloat {cs : List Char} (spelled : isFloat cs = true) :
    startsLikeJson cs = false := by
  obtain ⟨⟨negative, whole, fraction, power⟩, fine, rfl⟩ := Numeral.isFloat_iff.1 spelled
  rw [← Bool.not_eq_true, startsLikeJson_iff]
  rintro ⟨c, front, opens⟩
  cases negative with
  | true =>
    cases front
    revert opens
    decide
  | false =>
    obtain ⟨d, ds, same, isFront⟩ :=
      Numeral.exists_cons_mantissa fine.mantissa (Numeral.powerChars power)
    simp only [Numeral.chars, Bool.false_eq_true, if_false, List.nil_append, same] at front
    cases front
    rcases isFront with digit | rfl
    · fin_cases opens <;> cases digit
    · revert opens
      decide

/-- A text is not a word that has another spelling. -/
theorem beq_word_eq_false {spelling : List Char → Bool} {text word : String}
    (spelled : spelling text.toList = true) (other : spelling word.toList = false) :
    (text == word) = false := by
  rw [beq_eq_false_iff_ne]
  rintro rfl
  cases other.symm.trans spelled

/-- A decimal is none of the words and does not start like JSON. -/
theorem parseValue_of_isFloat {text : String} (spelled : isFloat text.toList = true) :
    parseValue text =
      match integer? text.toList with
      | some i => .number (.int i)
      | none =>
        match float? text.toList with
        | some f => .number (.float f)
        | none => .string text := by
  have notJson : structured? text = none := by
    rw [structured?, startsLikeJson_of_isFloat spelled]
    rfl
  have notNull := beq_word_eq_false spelled (show isFloat "null".toList = false by decide)
  have notTrue := beq_word_eq_false spelled (show isFloat "true".toList = false by decide)
  have notFalse := beq_word_eq_false spelled (show isFloat "false".toList = false by decide)
  rw [parseValue, notJson]
  cases found : integer? text.toList with
  | some i => simp [scalar, notNull, notTrue, notFalse, found]
  | none =>
    cases decimal : float? text.toList <;>
      simp [scalar, notNull, notTrue, notFalse, found, decimal]

/-- A text that starts like JSON is the value it is read as, or itself if it cannot be read. -/
theorem parseValue_of_startsLikeJson {text : String} (starts : startsLikeJson text.toList = true) :
    parseValue text = (Json.parse? text).getD (.string text) := by
  have notNull := beq_word_eq_false starts (show startsLikeJson "null".toList = false by decide)
  have notTrue := beq_word_eq_false starts (show startsLikeJson "true".toList = false by decide)
  have notFalse := beq_word_eq_false starts (show startsLikeJson "false".toList = false by decide)
  have noFloat : isFloat text.toList = false := by
    by_contra spelled
    cases starts.symm.trans (startsLikeJson_of_isFloat (Bool.not_eq_false _ ▸ spelled))
  have noInteger : isInteger text.toList = false := by
    by_contra spelled
    cases noFloat.symm.trans (isFloat_of_isInteger (Bool.not_eq_false _ ▸ spelled))
  rw [parseValue, structured?, if_pos starts]
  cases Json.parse? text with
  | some v => rfl
  | none =>
    simp [scalar, notNull, notTrue, notFalse, integer?, noInteger, float?, noFloat]

/-- A text that spells a value is recognised as that value. -/
theorem parseValue_of_spells {text : String} {v : Json} (spells : Spells text v) :
    parseValue text = v := by
  cases spells with
  | structured start opens written deep =>
    have found := structured?_eq_some_iff.2
      ⟨⟨_, start, opens⟩, Json.parse?_eq_some_iff.2 ⟨_, written, deep, rfl⟩⟩
    rw [parseValue, found]
  | null => rfl
  | true => rfl
  | false => rfl
  | integer spelled =>
    have isInteger := isInteger_iff.2 spelled.pattern
    rw [parseValue_of_isFloat (isFloat_of_isInteger isInteger),
      integer?_eq_some_iff.2 ⟨spelled, rfl⟩]
  | float fine parts noInteger finite nearest =>
    rw [parseValue_of_isFloat (Numeral.isFloat_iff.2 ⟨_, fine, parts⟩), integer?_eq_none noInteger,
      float?_eq_some_iff.2 ⟨_, fine, parts, _, nearest, rfl⟩]

/-- What a text is recognised as is spelled by it, or it is the text itself. -/
theorem spells_or_string (text : String) :
    Spells text (parseValue text) ∨ parseValue text = .string text := by
  unfold parseValue
  cases found : structured? text with
  | some w =>
    obtain ⟨⟨c, start, opens⟩, read⟩ := structured?_eq_some_iff.1 found
    obtain ⟨v, written, deep, rfl⟩ := Json.parse?_eq_some_iff.1 read
    exact .inl (.structured start opens written deep)
  | none =>
    simp only [scalar]
    split
    · rename_i word
      rw [eq_of_beq word]
      exact .inl .null
    split
    · rename_i word
      rw [eq_of_beq word]
      exact .inl .true
    split
    · rename_i word
      rw [eq_of_beq word]
      exact .inl .false
    cases number : integer? text.toList with
    | some i =>
      obtain ⟨spelled, rfl⟩ := integer?_eq_some_iff.1 number
      exact .inl (.integer spelled)
    | none =>
      cases decimal : float? text.toList with
      | none => exact .inr rfl
      | some g =>
        obtain ⟨n, fine, parts, f, nearest, rfl⟩ := float?_eq_some_iff.1 decimal
        have noInteger : ¬IsInt64 text.toList := by
          intro spelled
          cases number.symm.trans (integer?_eq_some_iff.2 ⟨spelled, rfl⟩)
        have finite : n.magnitude < Decimal.firstBeyond := by
          rw [← Numeral.value_decimal, ← not_le, ← Decimal.toFloat?_eq_none_iff, nearest]
          exact Option.some_ne_none f
        exact .inl (.float fine parts noInteger finite nearest)

/-- A word has exactly the value that it denotes. -/
theorem parseValue_eq_iff {text : String} {v : Json} : parseValue text = v ↔ Denotes text v := by
  constructor
  · rintro rfl
    by_cases spelled : ∃ w, Spells text w
    · obtain ⟨w, spells⟩ := spelled
      rw [parseValue_of_spells spells]
      exact .inl spells
    · rcases spells_or_string text with spells | string
      · exact absurd ⟨_, spells⟩ spelled
      · exact .inr ⟨fun w spells => spelled ⟨w, spells⟩, string⟩
  · rintro (spells | ⟨none, rfl⟩)
    · exact parseValue_of_spells spells
    · exact (spells_or_string text).resolve_left (none _)

/-- Every text is recognised as what it denotes: JSON, a word, an integer or a decimal by the grammar
of each, and otherwise the text itself. The splitter takes exactly the texts of the pattern of
decimals and cuts them at the boundaries of characters. The reader refuses none of them, and a decimal
has no double exactly if it is halfway past the greatest one or beyond that. -/
theorem parseValue_classifies (text : String) :
    (∀ v, parseValue text = v ↔ Denotes text v) ∧
    (isFloat text.toList = true ↔ text.toList ∈ Pattern.float.matches') ∧
    (isFloat text.toList = true → ∃ n : Numeral, n.WellFormed ∧ n.chars = text.toList ∧
      readDecimal? text.toList = some (n.negative, n.decimal) ∧
      (n.decimal.toFloat? = none ↔ Decimal.firstBeyond ≤ n.magnitude)) ∧
    ∀ mantissa exponent,
      splitOnce isExponentMark (splitMinus text.toList).2 = (mantissa, some exponent) →
      Sliced (String.ofList (splitMinus text.toList).2) (String.ofList mantissa)
        (String.ofList exponent) := by
  refine ⟨fun v => parseValue_eq_iff, ?_, ?_, ?_⟩
  · rw [Numeral.isFloat_iff, Numeral.mem_float]
  · intro spelled
    obtain ⟨n, fine, parts⟩ := Numeral.isFloat_iff.1 spelled
    refine ⟨n, fine, parts, ?_, ?_⟩
    · rw [← parts, Numeral.readDecimal?_chars fine]
    · rw [← Numeral.value_decimal, Decimal.toFloat?_eq_none_iff]
  · intro mantissa exponent cut
    have oneByte : ∀ c, isExponentMark c = true → c.utf8Size = 1 := by
      intro c marked
      have mem := Numeral.isExponentMark_iff.1 marked
      fin_cases mem <;> rfl
    refine sliced_of_splitOnce oneByte ?_
    rw [String.toList_ofList]
    exact cut

/-- So many arrays inside each other, the innermost one empty, as they are written. -/
def bracketChars (n : Nat) : List Char :=
  List.replicate n '[' ++ List.replicate n ']'

theorem spelled_bracketChars (n : Nat) :
    ∃ v : Json, v.Spelled (bracketChars (n + 1)) ∧ v.depth = n + 1 := by
  induction n with
  | zero => exact ⟨.array [], .emptyArray (List.forall_mem_nil _), rfl⟩
  | succ n ih =>
    obtain ⟨v, spelled, deep⟩ := ih
    have wrapped : bracketChars (n + 2) = '[' :: bracketChars (n + 1) ++ [']'] := by
      simp only [bracketChars, List.replicate_succ (a := '['), List.replicate_succ' (a := ']'),
        List.cons_append, List.append_assoc]
    refine ⟨.array [v], ?_, ?_⟩
    · rw [wrapped]
      exact .array (.last spelled (padded_self _))
    · simp [Json.depth, itemsDepth, deep]

/-- A literal between brackets, as characters. -/
def bracketed (l : Number.Literal) : List Char :=
  '[' :: l.chars ++ [']']

/-- Texts of JSON that are not read as JSON, and stay the texts they are: arrays one deeper than the
reader goes, literals of numbers beyond the doubles and of one below the greatest double that is too
much for the arithmetic of the reader, and half of a character. -/
theorem parseValue_beyond_reader :
    (∃ v : Json, v.WrittenAs (String.ofList (bracketChars 128)).toUTF8 ∧ v.depth = 128) ∧
    parseValue (String.ofList (bracketChars 128)) = .string (String.ofList (bracketChars 128)) ∧
    (∃ l : Number.Literal, l.Spelled ['1', 'e', '4', '0', '0']) ∧
    parseValue "[1e400]" = .string "[1e400]" ∧
    Number.Literal.refusedBelow.Spelled Number.Literal.refusedBelow.chars ∧
    Number.Literal.refusedBelow.magnitude < Decimal.firstBeyond ∧
    parseValue (String.ofList (bracketed Number.Literal.refusedBelow)) =
      .string (String.ofList (bracketed Number.Literal.refusedBelow)) ∧
    Tree.hexUnit? 'd' '8' '0' '0' = some 0xD800 ∧
    parseValue "\"\\ud800\"" = .string "\"\\ud800\"" := by
  have stays : ∀ cs, startsLikeJson cs = true → (Json.ofSymbols? (cs.map some)).isNone →
      parseValue (String.ofList cs) = .string (String.ofList cs) := by
    intro cs starts unread
    rw [parseValue_of_startsLikeJson (by rwa [String.toList_ofList]), Json.parse?,
      Symbol.ofString_ofList, Option.isNone_iff_eq_none.1 unread]
    rfl
  obtain ⟨wf, below, -⟩ := Number.Literal.refusedBelow_spec
  refine ⟨?_, stays _ (by decide) (by decide +kernel), ?_,
    stays ['[', '1', 'e', '4', '0', '0', ']'] (by decide) (by decide +kernel), wf.spelled, below,
    stays _ rfl (by decide +kernel), rfl,
    stays ['"', '\\', 'u', 'd', '8', '0', '0', '"'] (by decide) (by decide +kernel)⟩
  · obtain ⟨v, spelled, deep⟩ := spelled_bracketChars 127
    exact ⟨v, ⟨_, _, spelled, padded_self _, rfl⟩, deep⟩
  · have power : Number.Literal.PowerSpelled _ ['e', '4', '0', '0'] :=
      .unsigned (.inl rfl) ⟨List.cons_ne_nil _ _, List.all_eq_true.1 rfl⟩
    have wf : ∀ power, (⟨false, ['1'], [], power⟩ : Number.Literal).WellFormed := fun _ =>
      ⟨.digits (by decide) (List.forall_mem_singleton.2 rfl), List.forall_mem_nil _⟩
    exact ⟨⟨false, ['1'], [], _⟩, .mk (wf _) power⟩

end Shell

end DocStore
