-- SUMMARY: The text of a value, compact or indented, is read as the tree of the value.
import DocStore.Json.Printer
import DocStore.Json.Tree
import DocStore.Proofs.Json.Literal
import DocStore.Proofs.Text.Symbol

/-!
# Reading a written value

Both written forms of a value are read as one tree, the tree of the value. It has the members and
items of the value in their order, and at the place of a number the number that its text denotes, if
it denotes one. Names that stand in an object twice are written twice and read twice, so nothing is
asked of the value here.

The proof follows the printer. What stands after a part of the text is any text that does not go on
the part, white space before it is skipped, and each step of the reader consumes a symbol or hands it
to a step that does, so that twice the number of symbols are steps enough.
-/

namespace DocStore

mutual
/-- The tree as which the text of a value is read. -/
def Json.tree : Json → Tree
  | .null => .null
  | .bool b => .bool b
  | .number n => .number n.reread?
  | .string s => .string (some s)
  | .array items => .array (itemsTree items) true
  | .object members => .object (membersTree members) true

def itemsTree : List Json → List Tree
  | [] => []
  | item :: items => item.tree :: itemsTree items

def membersTree : List (String × Json) → List (Option String × Tree)
  | [] => []
  | (name, value) :: members => (some name, value.tree) :: membersTree members
end

namespace Tree

/-! ## White space -/

def AllSpace (ws : List Char) : Prop :=
  ∀ c ∈ ws, isSpace c = true

theorem allSpace_lineBreak (style : Style) (level : Nat) : AllSpace (style.lineBreak level) := by
  intro c hc
  cases style with
  | compact => cases hc
  | indented =>
    rcases List.mem_cons.1 hc with rfl | hc
    · rfl
    · rw [List.eq_of_mem_replicate hc]
      rfl

theorem skipSpace_append {ws : List Char} (h : AllSpace ws) (rest : List Symbol) :
    skipSpace (ws.map some ++ rest) = skipSpace rest := by
  induction ws with
  | nil => rfl
  | cons c ws ih =>
    have space := h c List.mem_cons_self
    have tail := ih fun d hd => h d (List.mem_cons_of_mem c hd)
    simp [skipSpace, space, tail]

theorem skipSpace_cons {c : Char} (h : isSpace c = false) (rest : List Symbol) :
    skipSpace (some c :: rest) = some c :: rest := by
  simp [skipSpace, h]

/-- A literal ends before white space. -/
theorem goesOn_eq_false_of_isSpace {c : Char} (h : isSpace c = true) : Number.goesOn c = false := by
  simp only [isSpace, Bool.or_eq_true, beq_iff_eq] at h
  rcases h with ((rfl | rfl) | rfl) | rfl <;> rfl

theorem ends_space_append {ws : List Char} (h : AllSpace ws) {c : Char}
    (stop : Number.goesOn c = false) (rest : List Symbol) :
    Number.Ends (ws.map some ++ some c :: rest) := by
  cases ws with
  | nil => exact .cons stop rest
  | cons d ws => exact .cons (goesOn_eq_false_of_isSpace (h d List.mem_cons_self)) _

/-! ## Strings -/

theorem hexDigit?_digitChar {n : Nat} (h : n < 16) : hexDigit? (Nat.digitChar n) = some n := by
  have all : ∀ m < 16, hexDigit? (Nat.digitChar m) = some m := by decide
  exact all n h

/-- A character stands for itself, is escaped by a letter, or by its number if it is a control
character. -/
theorem escapeChar_cases (c : Char) :
    (escapeChar c = [c] ∧ c ≠ '"' ∧ c ≠ '\\' ∧ ¬c.toNat < 0x20) ∨
    (∃ e, escapeChar c = ['\\', e] ∧ shortEscape? e = some c) ∨
    (escapeChar c = controlEscape c ∧ c.toNat < 0x20) := by
  by_cases short : c ∈ ['"', '\\', '\x08', '\x0c', '\n', '\r', '\t']
  · refine .inr (.inl ?_)
    simp only [List.mem_cons, List.not_mem_nil, or_false] at short
    rcases short with rfl | rfl | rfl | rfl | rfl | rfl | rfl <;>
      exact ⟨_, rfl, by decide⟩
  · simp only [List.mem_cons, List.not_mem_nil, or_false, not_or] at short
    obtain ⟨quote, backslash, backspace, formFeed, newline, carriageReturn, tab⟩ := short
    by_cases control : c.toNat < 0x20
    · refine .inr (.inr ⟨?_, control⟩)
      simp [escapeChar, quote, backslash, backspace, formFeed, newline, carriageReturn, tab, control]
    · refine .inl ⟨?_, quote, backslash, control⟩
      simp [escapeChar, quote, backslash, backspace, formFeed, newline, carriageReturn, tab, control]

theorem pieces?_plain {c : Char} (quote : c ≠ '"') (backslash : c ≠ '\\') (plain : ¬c.toNat < 0x20)
    (rest : List Symbol) :
    pieces? (some c :: rest) = (pieces? rest).map fun (ps, rest) => (.char c :: ps, rest) := by
  simp [pieces?, backslash, plain]

theorem pieces?_letter {e c : Char} (letter : shortEscape? e = some c) (rest : List Symbol) :
    pieces? (some '\\' :: some e :: rest) =
      (pieces? rest).map fun (ps, rest) => (.char c :: ps, rest) := by
  have notUnit : e ≠ 'u' := by
    rintro rfl
    cases letter
  rw [pieces?.eq_def]
  simp only [↓Char.isValue, notUnit, imp_self, implies_true, letter]
  cases pieces? rest <;> rfl

theorem pieces?_unit {a b c d : Char} {n : Nat} (unit : hexUnit? a b c d = some n)
    (rest : List Symbol) :
    pieces? (some '\\' :: some 'u' :: some a :: some b :: some c :: some d :: rest) =
      (pieces? rest).map fun (ps, rest) => (.unit n :: ps, rest) := by
  rw [pieces?, unit]
  cases pieces? rest <;> rfl

theorem piecesChars?_unit {n : Nat} (noHalf : ¬(0xD800 ≤ n ∧ n < 0xE000)) (ps : List Piece) :
    piecesChars? (.unit n :: ps) = (piecesChars? ps).map (Char.ofNat n :: ·) := by
  have noHigh : ¬(0xD800 ≤ n ∧ n < 0xDC00) := by omega
  have noLow : ¬(0xDC00 ≤ n ∧ n < 0xE000) := by omega
  match ps with
  | [] => simp only [piecesChars?, noHalf, if_false]
  | .unit lo :: ps => rw [piecesChars?, if_neg noHigh, if_neg noLow]
  | .char c :: ps => simp only [piecesChars?, noHalf, if_false]
  | .stray :: ps => simp only [piecesChars?, noHalf, if_false]

/-- A written character is read as one piece, which stands for that character. -/
theorem exists_piece (c : Char) : ∃ piece,
    (∀ rest, pieces? ((escapeChar c).map some ++ rest) =
      (pieces? rest).map fun (ps, rest) => (piece :: ps, rest)) ∧
    (∀ ps, piecesChars? (piece :: ps) = (piecesChars? ps).map (c :: ·)) := by
  rcases escapeChar_cases c with ⟨text, quote, backslash, plain⟩ | ⟨e, text, letter⟩ |
    ⟨text, control⟩
  · refine ⟨.char c, fun rest => ?_, fun ps => rfl⟩
    rw [text]
    exact pieces?_plain quote backslash plain rest
  · refine ⟨.char c, fun rest => ?_, fun ps => rfl⟩
    rw [text]
    exact pieces?_letter letter rest
  · refine ⟨.unit c.toNat, fun rest => ?_, fun ps => ?_⟩
    -- A control character is written by its number, of which the first two digits are zero.
    · have unit : hexUnit? '0' '0' (Nat.digitChar (c.toNat / 16)) (Nat.digitChar (c.toNat % 16)) =
          some c.toNat := by
        have zero : hexDigit? '0' = some 0 := by decide
        simp only [hexUnit?, zero, hexDigit?_digitChar (show c.toNat / 16 < 16 by omega),
          hexDigit?_digitChar (show c.toNat % 16 < 16 by omega), Option.bind_eq_bind, Option.bind_some,
          Option.pure_def, Nat.zero_mul, Nat.zero_add, Nat.div_add_mod']
      rw [text]
      exact pieces?_unit unit rest
    · rw [piecesChars?_unit (by omega), Char.ofNat_toNat]

/-- A written string is read as that string. -/
theorem string?_append (s : String) (rest : List Symbol) :
    string? ((s.toList.flatMap escapeChar).map some ++ some '"' :: rest) = some (some s, rest) := by
  have scanned : ∀ cs : List Char, ∃ ps,
      pieces? ((cs.flatMap escapeChar).map some ++ some '"' :: rest) = some (ps, rest) ∧
        piecesChars? ps = some cs := by
    intro cs
    induction cs with
    | nil => exact ⟨[], by simp [pieces?], rfl⟩
    | cons c cs ih =>
      obtain ⟨ps, found, chars⟩ := ih
      obtain ⟨piece, reads, stands⟩ := exists_piece c
      refine ⟨piece :: ps, ?_, by rw [stands, chars]; rfl⟩
      rw [List.flatMap_cons, List.map_append, List.append_assoc, reads, found]
      rfl
  obtain ⟨ps, found, chars⟩ := scanned s.toList
  simp [string?, found, chars]

/-! ## Where a value starts -/

def opensNumber (c : Char) : Bool :=
  c == '-' || c.isDigit

def opensValue (c : Char) : Bool :=
  opensNumber c || c == 'n' || c == 't' || c == 'f' || c == '"' || c == '[' || c == '\x7b'

theorem opensValue_ne {c d : Char} (h : opensValue c = true) (other : opensValue d = false) :
    c ≠ d := by
  rintro rfl
  rw [h] at other
  cases other

theorem isSpace_eq_false_of_opensValue {c : Char} (h : opensValue c = true) :
    isSpace c = false := by
  have space := opensValue_ne h (show opensValue ' ' = false by decide)
  have tab := opensValue_ne h (show opensValue '\t' = false by decide)
  have newline := opensValue_ne h (show opensValue '\n' = false by decide)
  have carriageReturn := opensValue_ne h (show opensValue '\r' = false by decide)
  simp [isSpace, space, tab, newline, carriageReturn]

/-- A literal starts with a minus sign or a digit. -/
theorem exists_cons_of_spelled {l : Number.Literal} {text : List Char} (spelled : l.Spelled text) :
    ∃ c cs, text = c :: cs ∧ opensNumber c = true := by
  obtain ⟨wf, _⟩ := spelled
  obtain ⟨negative, whole, fraction, power⟩ := l
  cases negative with
  | true => exact ⟨'-', _, rfl, by decide⟩
  | false =>
    have digit := wf.whole.isDigit
    match whole with
    | [] => cases wf.whole
    | c :: cs => exact ⟨c, _, rfl, by simp [opensNumber, digit c List.mem_cons_self]⟩

theorem exists_cons_numberChars (n : Number) :
    ∃ c cs, n.chars = c :: cs ∧ opensNumber c = true := by
  obtain ⟨l, wf, text⟩ := n.exists_literal
  exact exists_cons_of_spelled (text ▸ wf.spelled)

/-- The text of a value starts with a character that a value may start with. -/
theorem exists_cons_chars (style : Style) (level : Nat) (v : Json) :
    ∃ c cs, v.chars style level = c :: cs ∧ opensValue c = true := by
  match v with
  | .null => exact ⟨'n', _, rfl, by decide⟩
  | .bool true => exact ⟨'t', _, rfl, by decide⟩
  | .bool false => exact ⟨'f', _, rfl, by decide⟩
  | .number n =>
    obtain ⟨c, cs, text, opens⟩ := exists_cons_numberChars n
    exact ⟨c, cs, text, by simp [opensValue, opens]⟩
  | .string s => exact ⟨'"', _, rfl, by decide⟩
  | .array [] => exact ⟨'[', _, rfl, by decide⟩
  | .array (item :: items) => exact ⟨'[', _, rfl, by decide⟩
  | .object [] => exact ⟨'\x7b', _, rfl, by decide⟩
  | .object ((name, value) :: members) => exact ⟨'\x7b', _, rfl, by decide⟩

/-- White space in front of a value is passed over. -/
theorem readValue_space (fuel : Nat) {ws : List Char} (h : AllSpace ws) (rest : List Symbol) :
    readValue fuel (ws.map some ++ rest) = readValue fuel rest := by
  cases fuel with
  | zero => rfl
  | succ fuel => simp only [readValue, skipSpace_append h]

theorem readItems_space (fuel : Nat) {ws : List Char} (h : AllSpace ws) (rest : List Symbol) :
    readItems fuel (ws.map some ++ rest) = readItems fuel rest := by
  cases fuel with
  | zero => rfl
  | succ fuel => simp only [readItems, readValue_space fuel h]

theorem readMembers_space (fuel : Nat) {ws : List Char} (h : AllSpace ws) (rest : List Symbol) :
    readMembers fuel (ws.map some ++ rest) = readMembers fuel rest := by
  cases fuel with
  | zero => rfl
  | succ fuel => simp only [readMembers, skipSpace_append h]

/-- A literal is read as what it denotes. -/
theorem readValue_literal {l : Number.Literal} {text : List Char} (spelled : l.Spelled text)
    (fuel : Nat) {rest : List Symbol} (ends : Number.Ends rest) :
    readValue (fuel + 1) (text.map some ++ rest) = (.number l.toNumber?, some rest) := by
  obtain ⟨c, cs, rfl, opens⟩ := exists_cons_of_spelled spelled
  have opensAny : opensValue c = true := by simp [opensValue, opens]
  have ne (d : Char) (h : opensNumber d = false) : c ≠ d := by
    rintro rfl
    rw [opens] at h
    cases h
  have literal := Number.Literal.literal?_append spelled ends
  rw [List.map_cons, List.cons_append] at literal ⊢
  rw [readValue, skipSpace_cons (isSpace_eq_false_of_opensValue opensAny)]
  split
  -- The other branches of the reader ask for a first character that no number has.
  case h_7 => simp [literal, leaf]
  all_goals
    rename_i same
    exact absurd (Option.some.inj (List.cons.inj same).1) (ne _ (by decide))

/-- A number is read up to where its text ends, with what its literal rereads as. -/
theorem readValue_number (n : Number) (fuel : Nat) {rest : List Symbol} (ends : Number.Ends rest) :
    readValue (fuel + 1) (n.chars.map some ++ rest) = (.number n.reread?, some rest) := by
  obtain ⟨l, wf, text⟩ := n.exists_literal
  rw [Number.reread?_eq wf text, ← text]
  exact readValue_literal wf.spelled fuel ends

/-- What follows an item or a member does not go on its value. -/
theorem ends_more {more close : List Char} (space : AllSpace close)
    (comma : more = [] ∨ ∃ cs, more = ',' :: cs) {c : Char} (stop : Number.goesOn c = false)
    (rest : List Symbol) :
    Number.Ends (more.map some ++ (close.map some ++ some c :: rest)) := by
  rcases comma with rfl | ⟨cs, rfl⟩
  · exact ends_space_append space stop rest
  · exact .cons (by decide) _

theorem moreItemsChars_comma (style : Style) (level : Nat) (items : List Json) :
    moreItemsChars style level items = [] ∨
      ∃ cs, moreItemsChars style level items = ',' :: cs := by
  cases items with
  | nil => exact .inl rfl
  | cons item items => exact .inr ⟨_, rfl⟩

theorem moreMembersChars_comma (style : Style) (level : Nat) (members : Object) :
    moreMembersChars style level members = [] ∨
      ∃ cs, moreMembersChars style level members = ',' :: cs := by
  cases members with
  | nil => exact .inl rfl
  | cons member members => exact .inr ⟨_, rfl⟩

/-! ## Steps of the reader -/

theorem readValue_bracket {fuel : Nat} {s t : List Symbol} {c : Char}
    (skipped : skipSpace s = some c :: t) (notClose : c ≠ ']') :
    readValue (fuel + 1) (some '[' :: s) =
      (.array (readItems fuel (some c :: t)).1 (readItems fuel (some c :: t)).2.isSome,
        (readItems fuel (some c :: t)).2) := by
  rw [readValue, skipSpace_cons (by decide)]
  simp only [skipped]
  split
  · rename_i same
    exact absurd (Option.some.inj (List.cons.inj same).1) notClose
  · rfl

theorem readValue_brace {fuel : Nat} {s t : List Symbol} {c : Char}
    (skipped : skipSpace s = some c :: t) (notClose : c ≠ '\x7d') :
    readValue (fuel + 1) (some '\x7b' :: s) =
      (.object (readMembers fuel (some c :: t)).1 (readMembers fuel (some c :: t)).2.isSome,
        (readMembers fuel (some c :: t)).2) := by
  rw [readValue, skipSpace_cons (by decide)]
  simp only [skipped]
  split
  · rename_i same
    exact absurd (Option.some.inj (List.cons.inj same).1) notClose
  · rfl

theorem readItems_last {fuel : Nat} {s t rest : List Symbol} {item : Tree}
    (value : readValue fuel s = (item, some t)) (close : skipSpace t = some ']' :: rest) :
    readItems (fuel + 1) s = ([item], some rest) := by
  simp only [readItems, value, close]

theorem readItems_next {fuel : Nat} {s t rest : List Symbol} {item : Tree}
    (value : readValue fuel s = (item, some t)) (comma : skipSpace t = some ',' :: rest) :
    readItems (fuel + 1) s = (item :: (readItems fuel rest).1, (readItems fuel rest).2) := by
  simp only [readItems, value, comma]

/-- A name with its colon, and whatever white space follows, leads to the value of the member. -/
theorem skipSpace_colon (style : Style) (fuel : Nat) (s : List Symbol) :
    ∃ t, skipSpace (style.colon.map some ++ s) = some ':' :: t ∧
      readValue fuel t = readValue fuel s := by
  cases style with
  | compact => exact ⟨s, rfl, rfl⟩
  | indented =>
    have space : AllSpace [' '] := by
      intro c hc
      rw [List.mem_singleton.1 hc]
      rfl
    exact ⟨[some ' '] ++ s, rfl, readValue_space fuel space s⟩

theorem readMembers_last {fuel : Nat} {s body t u after rest : List Symbol} {name : Option String}
    {tree : Tree} (quote : skipSpace s = some '"' :: body) (text : string? body = some (name, t))
    (colon : skipSpace t = some ':' :: u) (value : readValue fuel u = (tree, some after))
    (close : skipSpace after = some '\x7d' :: rest) :
    readMembers (fuel + 1) s = ([(name, tree)], some rest) := by
  simp only [readMembers, quote, text, colon, value, close]

theorem readMembers_next {fuel : Nat} {s body t u after rest : List Symbol} {name : Option String}
    {tree : Tree} (quote : skipSpace s = some '"' :: body) (text : string? body = some (name, t))
    (colon : skipSpace t = some ':' :: u) (value : readValue fuel u = (tree, some after))
    (comma : skipSpace after = some ',' :: rest) :
    readMembers (fuel + 1) s =
      ((name, tree) :: (readMembers fuel rest).1, (readMembers fuel rest).2) := by
  simp only [readMembers, quote, text, colon, value, comma]

/-- After the opening quote of a written name stand the name and what follows it. -/
theorem skipSpace_stringChars (name : String) (s : List Symbol) :
    ∃ body, skipSpace ((stringChars name).map some ++ s) = some '"' :: body ∧
      string? body = some (some name, s) := by
  simp only [stringChars, List.map_cons, List.map_append, List.cons_append, List.append_assoc,
    List.map_nil, List.nil_append]
  exact ⟨_, skipSpace_cons (by decide) _, string?_append name s⟩

/-! ## Values -/

/-- Steps that are enough for a text are not none. -/
theorem exists_fuel {style : Style} {level : Nat} {v : Json} {fuel : Nat}
    (enough : 2 * (v.chars style level).length ≤ fuel) : ∃ n, fuel = n + 1 := by
  obtain ⟨c, cs, text, _⟩ := exists_cons_chars style level v
  rw [text, List.length_cons] at enough
  exact ⟨fuel - 1, by omega⟩

mutual
/-- The text of a value is read as its tree, up to where the text ends. -/
theorem readValue_chars (style : Style) : ∀ (level : Nat) (v : Json) (fuel : Nat)
    {rest : List Symbol}, 2 * (v.chars style level).length ≤ fuel → Number.Ends rest →
      readValue fuel ((v.chars style level).map some ++ rest) = (v.tree, some rest)
  | level, .null, fuel, rest, enough, ends => by
    obtain ⟨fuel, rfl⟩ := exists_fuel enough
    rfl
  | level, .bool true, fuel, rest, enough, ends => by
    obtain ⟨fuel, rfl⟩ := exists_fuel enough
    rfl
  | level, .bool false, fuel, rest, enough, ends => by
    obtain ⟨fuel, rfl⟩ := exists_fuel enough
    rfl
  | level, .number n, fuel, rest, enough, ends => by
    obtain ⟨fuel, rfl⟩ := exists_fuel enough
    exact readValue_number n fuel ends
  | level, .string s, fuel, rest, enough, ends => by
    obtain ⟨fuel, rfl⟩ := exists_fuel enough
    have scanned := string?_append s rest
    simp [Json.chars, stringChars, Json.tree, readValue, skipSpace, isSpace, scanned, leaf]
  | level, .array [], fuel, rest, enough, ends => by
    obtain ⟨fuel, rfl⟩ := exists_fuel enough
    rfl
  | level, .array (item :: items), fuel, rest, enough, ends => by
    obtain ⟨fuel, rfl⟩ := exists_fuel enough
    simp only [Json.chars, List.length_cons, List.length_append, List.length_nil] at enough
    have read := readItems_chars style (level + 1) item items fuel rest
      (allSpace_lineBreak style level) (by omega)
    -- After the line break stands the first item, and no item starts with the closing bracket.
    obtain ⟨c, cs, text, opens⟩ := exists_cons_chars style (level + 1) item
    simp only [Json.chars, List.map_cons, List.map_append, List.cons_append, List.append_assoc,
      List.map_nil, List.nil_append, text] at read ⊢
    rw [readValue_bracket ((skipSpace_append (allSpace_lineBreak style (level + 1)) _).trans
      (skipSpace_cons (isSpace_eq_false_of_opensValue opens) _)) (opensValue_ne opens (by decide)),
      read]
    rfl
  | level, .object [], fuel, rest, enough, ends => by
    obtain ⟨fuel, rfl⟩ := exists_fuel enough
    rfl
  | level, .object ((name, value) :: members), fuel, rest, enough, ends => by
    obtain ⟨fuel, rfl⟩ := exists_fuel enough
    simp only [Json.chars, List.length_cons, List.length_append, List.length_nil] at enough
    have read := readMembers_chars style (level + 1) name value members fuel rest
      (allSpace_lineBreak style level) (by omega)
    simp only [Json.chars, List.map_cons, List.map_append, List.cons_append, List.append_assoc,
      List.map_nil, List.nil_append, stringChars] at read ⊢
    rw [readValue_brace ((skipSpace_append (allSpace_lineBreak style (level + 1)) _).trans
      (skipSpace_cons (by decide) _)) (by decide), read]
    rfl
termination_by _ v => sizeOf v

/-- The texts of some items are read as their trees, up to the closing bracket. -/
theorem readItems_chars (style : Style) : ∀ (level : Nat) (item : Json) (items : List Json)
    (fuel : Nat) {close : List Char} (rest : List Symbol), AllSpace close →
      2 * ((item.chars style level).length + (moreItemsChars style level items).length) + 1 ≤ fuel →
        readItems fuel ((item.chars style level).map some ++
          ((moreItemsChars style level items).map some ++ (close.map some ++ some ']' :: rest))) =
            (item.tree :: itemsTree items, some rest)
  | level, item, [], fuel, close, rest, space, enough => by
    obtain ⟨fuel, rfl⟩ : ∃ n, fuel = n + 1 := ⟨fuel - 1, by omega⟩
    have value := readValue_chars style level item fuel (by omega)
      (ends_space_append space (c := ']') (by decide) rest)
    exact readItems_last value ((skipSpace_append space _).trans (skipSpace_cons (by decide) rest))
  | level, item, next :: items, fuel, close, rest, space, enough => by
    obtain ⟨fuel, rfl⟩ : ∃ n, fuel = n + 1 := ⟨fuel - 1, by omega⟩
    have value := readValue_chars style level item fuel (by omega)
      (ends_more space (moreItemsChars_comma style level (next :: items)) (c := ']') (by decide) rest)
    simp only [moreItemsChars, List.length_cons, List.length_append] at enough
    have more := readItems_chars style level next items fuel rest space (by omega)
    simp only [moreItemsChars, List.map_cons, List.map_append, List.cons_append,
      List.append_assoc] at value ⊢
    rw [readItems_next value (skipSpace_cons (by decide) _),
      readItems_space fuel (allSpace_lineBreak style level), more]
    rfl
termination_by _ item items => sizeOf (item :: items)

/-- The texts of some members are read as their trees, up to the closing brace. -/
theorem readMembers_chars (style : Style) : ∀ (level : Nat) (name : String) (value : Json)
    (members : Object) (fuel : Nat) {close : List Char} (rest : List Symbol), AllSpace close →
      2 * ((stringChars name).length + (value.chars style level).length +
        (moreMembersChars style level members).length) + 1 ≤ fuel →
          readMembers fuel ((stringChars name).map some ++ (style.colon.map some ++
            ((value.chars style level).map some ++
              ((moreMembersChars style level members).map some ++
                (close.map some ++ some '\x7d' :: rest))))) =
                  ((some name, value.tree) :: membersTree members, some rest)
  | level, name, value, [], fuel, close, rest, space, enough => by
    obtain ⟨fuel, rfl⟩ : ∃ n, fuel = n + 1 := ⟨fuel - 1, by omega⟩
    have read := readValue_chars style level value fuel (by omega)
      (ends_space_append space (c := '\x7d') (by decide) rest)
    obtain ⟨body, quote, text⟩ := skipSpace_stringChars name (style.colon.map some ++ _)
    obtain ⟨u, colon, same⟩ := skipSpace_colon style fuel _
    exact readMembers_last quote text colon (same.trans read)
      ((skipSpace_append space _).trans (skipSpace_cons (by decide) rest))
  | level, name, value, (next, nextValue) :: members, fuel, close, rest, space, enough => by
    obtain ⟨fuel, rfl⟩ : ∃ n, fuel = n + 1 := ⟨fuel - 1, by omega⟩
    have read := readValue_chars style level value fuel (by omega)
      (ends_more space (moreMembersChars_comma style level ((next, nextValue) :: members))
        (c := '\x7d') (by decide) rest)
    simp only [moreMembersChars, List.length_cons, List.length_append] at enough
    have more := readMembers_chars style level next nextValue members fuel rest space
      (by omega)
    simp only [moreMembersChars, List.map_cons, List.map_append, List.cons_append,
      List.append_assoc] at read ⊢
    obtain ⟨body, quote, text⟩ := skipSpace_stringChars name (style.colon.map some ++ _)
    obtain ⟨u, colon, same⟩ := skipSpace_colon style fuel _
    rw [readMembers_next quote text colon (same.trans read) (skipSpace_cons (by decide) _),
      readMembers_space fuel (allSpace_lineBreak style level), more]
    rfl
termination_by _ name value members => sizeOf ((name, value) :: members)
end

end Tree

/-! ## Whole texts -/

/-- The text of a value is a whole document, the tree of the value. -/
theorem Document.read_text (style : Style) (v : Json) :
    Document.read (Symbol.ofString (v.text style)) = ⟨v.tree, true⟩ := by
  have text : Symbol.ofString (v.text style) = (v.chars style 0).map some := by
    simp [Symbol.ofString, Json.text]
  have read := Tree.readValue_chars style 0 v (2 * ((v.chars style 0).map some).length + 2)
    (by simp only [List.length_map]; omega) Number.Ends.nil
  rw [List.append_nil] at read
  rw [text, Document.read, read]
  rfl

end DocStore
