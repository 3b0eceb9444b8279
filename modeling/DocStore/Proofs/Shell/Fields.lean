-- SUMMARY: The two forms of an object in arguments, one JSON object or a word for each member, and when they differ.
import DocStore.Proofs.Json.Value
import DocStore.Proofs.Result
import DocStore.Proofs.Shell.Recognition

/-!
# The two forms of an object

The members of an object are given as one argument that holds the JSON text of the object, or as one
word `field=value` for each member with the JSON text of its value. The first is read by the reader
of JSON, the second by the recogniser of spellings, so they have to agree on every kind of value.

They do on all but one. The reader keeps integers up to `2 ^ 64 - 1`, and the recogniser only those of
64 bits with a sign: an integer beyond `2 ^ 63 - 1` has the spelling of a decimal as well, and as a
word it becomes the double nearest to it.
-/

namespace DocStore

/-! ## The text of an object -/

/-- Of members with the same name in the text of an object the last one counts, at the place of the
first. -/
theorem Json.parse?_compact_object {members : Object} (sound : ∀ m ∈ members, m.2.Sound)
    (readsBack : ∀ m ∈ members, m.2.ReadsBack) (deep : ∀ m ∈ members, m.2.depth < maxDepth) :
    Json.parse? (Json.object members).compact = some (.object (Assoc.ofEntries members)) := by
  have fits : ∀ m ∈ members, m.2.Fits 126 := fun m mem =>
    (readsBack m mem).fits_iff.2 (Nat.le_of_lt_succ (deep m mem))
  have denoted := Tree.membersToJson?_tree 126 (membersSound_iff.2 sound)
  rw [if_pos fits, Json.membersReread_eq_self (membersSound_iff.2 sound) readsBack] at denoted
  rw [Json.parse?, Json.ofSymbols?, Json.compact, Document.read_text]
  simp only [if_true, Json.tree, maxDepth, Tree.toJson?, denoted, Option.map_some]

namespace Shell

/-! ## The text of a number is a numeral -/

theorem isDigits_toDigits (n : Nat) : isDigits (Nat.toDigits 10 n) = true := by
  rw [isDigits, Bool.and_eq_true, Bool.not_eq_true', List.isEmpty_eq_false_iff, List.all_eq_true]
  exact ⟨List.ne_nil_of_length_pos Nat.length_toDigits_pos, fun _ => Number.isDigit_toDigits⟩

namespace Numeral

/-- The numeral that a literal is. -/
def ofLiteral (l : Number.Literal) : Numeral where
  negative := l.negative
  whole := l.whole
  fraction := if l.fraction = [] then none else some l.fraction
  power := l.power.map fun p => ('e', some (if p < 0 then '-' else '+'), Nat.toDigits 10 p.natAbs)

theorem chars_ofLiteral (l : Number.Literal) : (ofLiteral l).chars = l.chars := by
  obtain ⟨negative, whole, fraction, power⟩ := l
  have mantissa : mantissaChars whole (if fraction = [] then none else some fraction) =
      whole ++ Number.Literal.pointChars fraction := by
    cases fraction with
    | nil => simp [mantissaChars, Number.Literal.pointChars]
    | cons c cs => rfl
  cases power <;>
    simp [ofLiteral, chars, mantissa, powerChars, Number.Literal.chars, Number.Literal.signChars,
      Number.Literal.powerChars]

theorem wellFormed_ofLiteral {l : Number.Literal} (wf : l.WellFormed) : (ofLiteral l).WellFormed := by
  refine ⟨⟨List.all_eq_true.2 wf.whole.isDigit, ?_, .inl ?_⟩, ?_⟩
  · intro ds mem
    have same : l.fraction = ds := by
      by_cases none : l.fraction = [] <;> simp_all [ofLiteral]
    exact List.all_eq_true.2 (same ▸ wf.fraction)
  · rintro empty
    have whole : Number.IsWhole [] := empty ▸ wf.whole
    cases whole
  · intro mark sign ds power
    obtain ⟨p, _, parts⟩ := Option.map_eq_some_iff.1 power
    cases parts
    refine ⟨by decide, ?_, ?_⟩
    · intro c mem
      rw [← Option.mem_some.1 mem]
      split <;> decide
    · exact isDigits_toDigits _

end Numeral

theorem isFloat_numberChars (n : Number) : isFloat n.chars = true := by
  obtain ⟨l, wf, text⟩ := n.exists_literal
  rw [← text, ← Numeral.chars_ofLiteral]
  exact Numeral.isFloat_iff.2 ⟨_, Numeral.wellFormed_ofLiteral wf, rfl⟩

/-! ## Integers -/

theorem splitMinus_intChars (i : Int) :
    splitMinus (Number.intChars i) = (decide (i < 0), Nat.toDigits 10 i.natAbs) := by
  by_cases negative : i < 0
  · simp [Number.intChars, negative, splitMinus]
  · simp [Number.intChars, negative, splitMinus_of_isDigits (isDigits_toDigits _)]

theorem integerValue_intChars (i : Int) : integerValue (Number.intChars i) = i := by
  rw [integerValue, splitMinus_intChars, Nat.ofDigitChars_ten_toDigits]
  by_cases negative : i < 0
  · simp only [signed, negative, decide_true, if_true]
    omega
  · simp only [signed, negative, decide_false, Bool.false_eq_true, if_false]
    omega

theorem isInt64_intChars {i : Int} (range : (Number.int i).InRange) :
    IsInt64 (Number.intChars i) ↔ i < 2 ^ 63 := by
  have lower : -2 ^ 63 ≤ i := range.1
  constructor
  · intro spelled
    rw [← integerValue_intChars i]
    exact spelled.greatest
  · intro upper
    refine ⟨isInteger_iff.1 ?_, ?_, ?_⟩
    · rw [isInteger, splitMinus_intChars]
      exact isDigits_toDigits _
    · rwa [integerValue_intChars]
    · rwa [integerValue_intChars]

theorem readDecimal?_intChars (i : Int) :
    readDecimal? (Number.intChars i) = some (decide (i < 0), ⟨i.natAbs, 0⟩) := by
  have decimal : (Numeral.ofLiteral (Number.intLiteral i)).decimal = ⟨i.natAbs, 0⟩ := by
    simp [Numeral.decimal, Numeral.ofLiteral, Number.intLiteral, Numeral.powerValue]
  have wf := Numeral.wellFormed_ofLiteral (Number.wellFormed_intLiteral i)
  have read := Numeral.readDecimal?_chars wf
  rw [Numeral.chars_ofLiteral, Number.chars_intLiteral, decimal] at read
  exact read

/-- An integer of 64 bits is within the range of doubles. -/
theorem exists_toFloat?_nat {n : Nat} (range : n ≤ Number.maxInt) :
    ∃ f, (⟨n, 0⟩ : Decimal).toFloat? = some f := by
  rw [← Option.ne_none_iff_exists', Ne, Decimal.toFloat?_eq_none_iff, not_le]
  have small : Number.maxInt < Decimal.firstBeyond := by decide +kernel
  have value : (⟨n, 0⟩ : Decimal).value = n := by simp [Decimal.value]
  rw [value]
  exact_mod_cast range.trans_lt small

/-! ## Doubles -/

/-- A double is written with a point or an exponent. -/
theorem exists_mem_floatChars (f : Float) : ∃ c ∈ Number.floatChars f, c ∈ ['.', 'e'] := by
  have magnitude : ∀ d : Decimal, ∃ c ∈ Number.decimalChars d, c ∈ ['.', 'e'] := by
    intro d
    unfold Number.decimalChars
    simp only
    split
    · refine ⟨'.', ?_, by decide⟩
      unfold Number.plainChars
      split
      · simp
      split
      · simp
      · simp
    · exact ⟨'e', by simp [Number.scientificChars], by decide⟩
  obtain ⟨c, mem, isMark⟩ := magnitude (Binary.ofFloat f).shortest
  refine ⟨c, ?_, isMark⟩
  unfold Number.floatChars
  split
  · exact List.mem_cons_of_mem _ mem
  · exact mem

theorem isInteger_floatChars (f : Float) : isInteger (Number.floatChars f) = false := by
  obtain ⟨c, mem, isMark⟩ := exists_mem_floatChars f
  have notMinus : c ≠ '-' := by
    rintro rfl
    revert isMark
    decide
  rw [Bool.eq_false_iff]
  intro spelled
  obtain ⟨minus, isMinus, ds, isDs, text⟩ := Pattern.mem_mul.1 (isInteger_iff.1 spelled)
  have digits := Pattern.mem_digits.1 isDs
  rw [isDigits, Bool.and_eq_true, List.all_eq_true] at digits
  rw [← text, List.mem_append] at mem
  rcases mem with front | digit
  · rcases Pattern.mem_optional.1 isMinus with rfl | sign
    · cases front
    · rw [Pattern.mem_char.1 sign, List.mem_singleton] at front
      exact notMinus front
  · have noDigit := Numeral.not_isDigit (List.mem_append_left ['E', '+', '-'] isMark)
    cases noDigit.symm.trans (digits.2 c digit)

/-! ## Values of words -/

/-- Whether a value is an integer that 64 bits with a sign do not hold. -/
def BeyondInt64 (v : Json) : Prop :=
  ∃ i : Int, 2 ^ 63 ≤ i ∧ v = .number (.int i)

/-- What a value becomes as the value of a word: an integer beyond 64 bits with a sign becomes the
double nearest to it. -/
def worded : Json → Json
  | .number (.int i) =>
    if i < 2 ^ 63 then .number (.int i)
    else
      match (⟨i.natAbs, 0⟩ : Decimal).toFloat? with
      | some f => .number (.float f)
      | none => .number (.int i)
  | v => v

theorem worded_of_beyond {i : Int} (range : (Number.int i).InRange) (beyond : 2 ^ 63 ≤ i) :
    ∃ f, (⟨i.natAbs, 0⟩ : Decimal).toFloat? = some f ∧
      worded (.number (.int i)) = .number (.float f) := by
  obtain ⟨f, nearest⟩ := exists_toFloat?_nat (n := i.natAbs) (by have := range.2; omega)
  refine ⟨f, nearest, ?_⟩
  rw [worded, if_neg (by omega), nearest]

/-- All other values are as a word what they are. -/
theorem worded_eq_self_iff {v : Json} (sound : v.Sound) : worded v = v ↔ ¬BeyondInt64 v := by
  constructor
  · rintro same ⟨i, beyond, rfl⟩
    obtain ⟨f, _, double⟩ := worded_of_beyond sound beyond
    cases same.symm.trans double
  · intro within
    cases v with
    | number n =>
      cases n with
      | int i =>
        have small : i < 2 ^ 63 := by
          by_contra large
          exact within ⟨i, by omega, rfl⟩
        rw [worded, if_pos small]
      | float f => rfl
    | _ => rfl

theorem toList_compact (v : Json) : v.compact.toList = v.chars .compact 0 :=
  String.toList_ofList

theorem parseValue_int {i : Int} (range : (Number.int i).InRange) :
    parseValue (Json.number (.int i)).compact = worded (.number (.int i)) := by
  have text : (Json.number (.int i)).compact.toList = Number.intChars i := toList_compact _
  have numeral : isFloat (Number.intChars i) = true := isFloat_numberChars (.int i)
  rw [parseValue_of_isFloat (text ▸ numeral), text]
  by_cases small : i < 2 ^ 63
  · rw [integer?_eq_some_iff.2 ⟨(isInt64_intChars range).2 small, integerValue_intChars i⟩, worded,
      if_pos small]
  · have notInteger := integer?_eq_none (mt (isInt64_intChars range).1 small)
    obtain ⟨f, nearest, double⟩ := worded_of_beyond range (by omega)
    have positive : decide (i < 0) = false := by
      rw [decide_eq_false_iff_not]
      omega
    have read : float? (Number.intChars i) = some f := by
      rw [float?, if_pos numeral, readFloat?, readDecimal?_intChars, positive]
      simp [nearest]
    rw [notInteger, read, double]

theorem parseValue_float {f : Float} (decimal : readFloat? (Number.floatChars f) = some f) :
    parseValue (Json.number (.float f)).compact = .number (.float f) := by
  have text : (Json.number (.float f)).compact.toList = Number.floatChars f := toList_compact _
  have numeral : isFloat (Number.floatChars f) = true := isFloat_numberChars (.float f)
  have notInteger : integer? (Number.floatChars f) = none := by
    simp [integer?, isInteger_floatChars]
  rw [parseValue_of_isFloat (text ▸ numeral), text, notInteger, float?, if_pos numeral, decimal]

/-- The text of a value, recognised as the value of a word, gives that value, or the nearest double to
an integer that 64 bits with a sign do not hold. -/
theorem parseValue_compact {v : Json} (sound : v.Sound) (readsBack : v.ReadsBack)
    (deep : v.depth ≤ maxDepth)
    (decimal : ∀ f, v = .number (.float f) → readFloat? (Number.floatChars f) = some f) :
    parseValue v.compact = worded v := by
  have structured : startsLikeJson v.compact.toList = true → parseValue v.compact = v := by
    intro starts
    have read : Json.parse? v.compact = some v := Json.parse?_text .compact sound readsBack deep
    rw [parseValue_of_startsLikeJson starts, read]
    rfl
  rw [toList_compact] at structured
  match v with
  | .null => rfl
  | .bool true => rfl
  | .bool false => rfl
  | .number (.int i) => exact parseValue_int sound
  | .number (.float f) => exact parseValue_float (decimal f rfl)
  | .string s => exact structured rfl
  | .array [] => exact structured rfl
  | .array (item :: items) => exact structured rfl
  | .object [] => exact structured rfl
  | .object ((name, value) :: members) => exact structured rfl

/-! ## Words -/

/-- A member as one word: its name, an equals sign and the text of its value. -/
def word (member : String × Json) : String :=
  member.1 ++ "=" ++ member.2.compact

theorem toList_word (member : String × Json) :
    (word member).toList = member.1.toList ++ '=' :: member.2.chars .compact 0 := by
  simp [word, toList_compact]

/-- A name that has no equals sign is cut off a word whatever its value is. -/
theorem parsePair_word {member : String × Json} (named : member.1 ≠ "")
    (plain : '=' ∉ member.1.toList) :
    parsePair (word member) = .ok (member.1, parseValue member.2.compact) := by
  have unmarked : ∀ c ∈ member.1.toList, (c == '=') = false := by
    intro c mem
    rw [beq_eq_false_iff_ne]
    rintro rfl
    exact plain mem
  have some : member.1.toList.isEmpty = false := by
    simpa [List.isEmpty_eq_false_iff] using named
  rw [parsePair, toList_word, splitOnce_append unmarked rfl]
  simp [some, Json.compact, Json.text]

/-- Members that can be given in both forms: their names are not empty and have no equals sign, a
single one does not look like an object, and their values are not nested too deeply. -/
structure Given (members : Object) : Prop where
  named : ∀ m ∈ members, m.1 ≠ ""
  plain : ∀ m ∈ members, '=' ∉ m.1.toList
  single : ∀ m, members = [m] → (trimStart m.1.toList).head? ≠ some '\x7b'
  sound : ∀ m ∈ members, m.2.Sound
  deep : ∀ m ∈ members, m.2.depth ≤ 126
  /-- The reader of JSON reads the doubles back from their texts. -/
  readsBack : ∀ m ∈ members, m.2.ReadsBack
  /-- The reader of decimals reads the doubles back from their texts. -/
  decimal : ∀ m ∈ members, ∀ f, m.2 = .number (.float f) → readFloat? (Number.floatChars f) = some f

variable {members : Object}

/-- Words `field=value` give the fields with their values, as far as a word can say them. -/
theorem parsePairs_words (given : Given members) :
    parsePairs (members.map word) =
      .ok ((Assoc.ofEntries members).map fun m => (m.1, worded m.2)) := by
  have each : ∀ m ∈ members, (parsePair ∘ word) m = .ok (m.1, worded m.2) := by
    intro m mem
    rw [Function.comp, parsePair_word (given.named m mem) (given.plain m mem),
      parseValue_compact (given.sound m mem) (given.readsBack m mem)
        ((given.deep m mem).trans (by decide)) (given.decimal m mem)]
  rw [parsePairs, List.mapM_map, mapM_eq_ok each, ok_bind, Assoc.ofEntries_map worded]
  rfl

/-- A word looks like an object only if its name does. -/
theorem head?_trimStart_word (member : String × Json) :
    (trimStart (word member).toList).head? = some '\x7b' ↔
      (trimStart member.1.toList).head? = some '\x7b' := by
  rw [toList_word, trimStart, List.dropWhile_append]
  split
  · rename_i blank
    rw [trimStart, List.isEmpty_iff.1 blank]
    simp [isBlank]
  · rename_i some
    rw [trimStart, List.head?_append_of_ne_nil _ (by simpa using some)]

theorem parseFields_words (given : Given members) :
    parseFields (members.map word) =
      .ok ((Assoc.ofEntries members).map fun m => (m.1, worded m.2)) := by
  rw [← parsePairs_words given]
  match members with
  | [] => rfl
  | [m] =>
    have noObject : ((trimStart (word m).toList).head? == some '\x7b') = false := by
      rw [beq_eq_false_iff_ne, Ne, head?_trimStart_word]
      exact given.single m rfl
    simp only [List.map_cons, List.map_nil, parseFields, noObject, Bool.false_eq_true, if_false]
  | m :: n :: members => rfl

/-- The text of an object gives the members of the object. -/
theorem parseFields_object (given : Given members) :
    parseFields [(Json.object members).compact] = .ok (Assoc.ofEntries members) := by
  have read := Json.parse?_compact_object given.sound given.readsBack fun m mem =>
    Nat.lt_of_le_of_lt (given.deep m mem) (by decide)
  have opens : (trimStart (Json.object members).compact.toList).head? = some '\x7b' := by
    rw [toList_compact]
    cases members <;> rfl
  rw [parseFields, opens, parseObject, read]
  rfl

/-- The two forms of members give the same, order included, exactly if none of the members that count
is an integer that 64 bits with a sign do not hold. The object is given as it is, and as words such an
integer becomes the double nearest to it. -/
theorem parseFields_words_eq_object_iff (given : Given members) :
    parseFields [(Json.object members).compact] = .ok (Assoc.ofEntries members) ∧
    parseFields (members.map word) =
      .ok ((Assoc.ofEntries members).map fun m => (m.1, worded m.2)) ∧
    (parseFields (members.map word) = parseFields [(Json.object members).compact] ↔
      ∀ m ∈ Assoc.ofEntries members, ¬BeyondInt64 m.2) := by
  refine ⟨parseFields_object given, parseFields_words given, ?_⟩
  rw [parseFields_object given, parseFields_words given, Except.ok.injEq]
  have same := List.map_inj_left (l := Assoc.ofEntries members) (f := fun m => (m.1, worded m.2))
    (g := id)
  rw [List.map_id] at same
  rw [same]
  refine forall₂_congr fun m mem => ?_
  rw [← worded_eq_self_iff (given.sound m (Assoc.mem_of_mem_ofEntries mem)), Prod.ext_iff]
  exact and_iff_right rfl

/-- A double, a name that stands twice, and an integer beyond 64 bits with a sign that does not
count. -/
theorem parseFields_words_eq_object_sample :
    parseFields (
        [("a", .number (.int (2 ^ 63))), ("b", .number (.float 2.5)), ("a", .string "x")].map word) =
      parseFields
        [(Json.object [("a", .number (.int (2 ^ 63))), ("b", .number (.float 2.5)),
          ("a", .string "x")]).compact] := by
  refine (parseFields_words_eq_object_iff ⟨?_, ?_, ?_, ?_, ?_, ?_, ?_⟩).2.2.2 ?_
  · decide +kernel
  · decide +kernel
  · exact fun _ one => nomatch one
  · decide +kernel
  · decide +kernel
  · decide +kernel
  · intro m mem f double
    simp only [List.mem_cons, List.not_mem_nil, or_false] at mem
    rcases mem with rfl | rfl | rfl <;> cases double
    decide +kernel
  · intro m mem
    have kept : Assoc.ofEntries [("a", .number (.int (2 ^ 63))), ("b", .number (.float 2.5)),
        ("a", .string "x")] = [("a", Json.string "x"), ("b", .number (.float 2.5))] := rfl
    rw [kept] at mem
    simp only [List.mem_cons, List.not_mem_nil, or_false] at mem
    rintro ⟨i, _, isInt⟩
    rcases mem with rfl | rfl <;> cases isInt

/-- The least such integer, given in both forms. -/
theorem parseFields_words_ne_object :
    Given [("a", .number (.int 9223372036854775808))] ∧
    parseFields ["\x7b\"a\":9223372036854775808\x7d"] =
      .ok [("a", .number (.int 9223372036854775808))] ∧
    ∃ f, parseFields ["a=9223372036854775808"] = .ok [("a", .number (.float f))] := by
  have given : Given [("a", .number (.int 9223372036854775808))] := by
    refine ⟨by decide +kernel, by decide +kernel, ?_, by decide +kernel, by decide +kernel,
      by decide +kernel, ?_⟩
    · rintro m one
      cases one
      decide +kernel
    · rintro m mem f double
      cases List.mem_singleton.1 mem
      cases double
  have object : (Json.object [("a", .number (.int 9223372036854775808))]).compact =
      "\x7b\"a\":9223372036854775808\x7d" := by decide +kernel
  have words : [("a", .number (.int 9223372036854775808))].map word = ["a=9223372036854775808"] := by
    decide +kernel
  obtain ⟨f, _, double⟩ := worded_of_beyond (i := 9223372036854775808) (by decide) (by decide)
  rw [← object, ← words]
  refine ⟨given, parseFields_object given, f, (parseFields_words given).trans ?_⟩
  simp [Assoc.ofEntries, Assoc.set, double]

end Shell

end DocStore
