-- SUMMARY: The grammar of texts, and that bytes are read as a whole value exactly if they are a text of it.
import DocStore.Proofs.Json.Denoted
import DocStore.Proofs.Json.Range

/-!
# The grammar of texts

A value has many texts: white space between the parts, characters by their number, powers of ten
with or without a sign. `Json.Spelled` is the relation between a value and its texts, and
`Json.WrittenAs` the one between a value and the bytes of a file. An object of the value has its
members as they stand in the text, repeated names included.

Bytes are read as the tree of a value if and only if they are a text of that value. So the reader
accepts no text that the grammar does not have and refuses none that it has, and no bytes are a text
of two values.
-/

namespace DocStore

/-! ## The grammar -/

/-- A text with white space around it. -/
inductive Padded (text : List Char) : List Char → Prop where
  | mk {before after : List Char} (front : Tree.AllSpace before) (back : Tree.AllSpace after) :
      Padded text (before ++ text ++ after)

/-- The letters that may follow a backslash, and what they stand for there. -/
def shortEscapes : List (Char × Char) :=
  [('"', '"'), ('\\', '\\'), ('/', '/'), ('b', '\x08'), ('f', '\x0c'), ('n', '\n'), ('r', '\r'),
    ('t', '\t')]

/-- The spellings of characters between quotes: each as it is, by a letter or by its number. A number
is four hexadecimal digits; a character beyond them takes a pair of halves, and no half stands
alone. -/
inductive Escaped : List Char → List Char → Prop where
  | nil : Escaped [] []
  | plain {c : Char} {cs text : List Char} (quote : c ≠ '"') (backslash : c ≠ '\\')
      (visible : ¬c.toNat < 0x20) (more : Escaped cs text) : Escaped (c :: cs) (c :: text)
  | letter {e c : Char} {cs text : List Char} (short : (e, c) ∈ shortEscapes)
      (more : Escaped cs text) : Escaped (c :: cs) ('\\' :: e :: text)
  | unit {a b c d : Char} {n : Nat} {cs text : List Char} (digits : Tree.hexUnit? a b c d = some n)
      (noHalf : ¬(0xD800 ≤ n ∧ n < 0xE000)) (more : Escaped cs text) :
      Escaped (Char.ofNat n :: cs) ('\\' :: 'u' :: a :: b :: c :: d :: text)
  | pair {a b c d e f g h : Char} {high low : Nat} {cs text : List Char}
      (first : Tree.hexUnit? a b c d = some high) (isHigh : 0xD800 ≤ high ∧ high < 0xDC00)
      (second : Tree.hexUnit? e f g h = some low) (isLow : 0xDC00 ≤ low ∧ low < 0xE000)
      (more : Escaped cs text) :
      Escaped (Char.ofNat (0x10000 + (high - 0xD800) * 0x400 + (low - 0xDC00)) :: cs)
        ('\\' :: 'u' :: a :: b :: c :: d :: '\\' :: 'u' :: e :: f :: g :: h :: text)

/-- The spellings of a string. -/
inductive Quoted : String → List Char → Prop where
  | mk {s : String} {text : List Char} (escaped : Escaped s.toList text) :
      Quoted s ('"' :: text ++ ['"'])

mutual
/-- The spellings of a value. A number is spelled by a literal that fits, so no literal beyond the range
of numbers spells anything. -/
inductive Json.Spelled : Json → List Char → Prop where
  | null : Json.Spelled .null ['n', 'u', 'l', 'l']
  | true : Json.Spelled (.bool true) ['t', 'r', 'u', 'e']
  | false : Json.Spelled (.bool false) ['f', 'a', 'l', 's', 'e']
  | number {l : Number.Literal} {text : List Char} (literal : l.Spelled text) (fits : l.Fits) :
      Json.Spelled (.number (l.number fits)) text
  | string {s : String} {text : List Char} (quoted : Quoted s text) : Json.Spelled (.string s) text
  | emptyArray {blank : List Char} (space : Tree.AllSpace blank) :
      Json.Spelled (.array []) ('[' :: blank ++ [']'])
  | array {items : List Json} {text : List Char} (spelled : ItemsSpelled items text) :
      Json.Spelled (.array items) ('[' :: text ++ [']'])
  | emptyObject {blank : List Char} (space : Tree.AllSpace blank) :
      Json.Spelled (.object []) ('\x7b' :: blank ++ ['\x7d'])
  | object {members : Object} {text : List Char} (spelled : MembersSpelled members text) :
      Json.Spelled (.object members) ('\x7b' :: text ++ ['\x7d'])

/-- The spellings of one item or more, with commas between them. -/
inductive ItemsSpelled : List Json → List Char → Prop where
  | last {item : Json} {text first : List Char} (spelled : item.Spelled text)
      (padded : Padded text first) : ItemsSpelled [item] first
  | next {item : Json} {items : List Json} {text first more : List Char}
      (spelled : item.Spelled text) (padded : Padded text first) (rest : ItemsSpelled items more) :
      ItemsSpelled (item :: items) (first ++ ',' :: more)

/-- The spellings of one member or more, with colons inside and commas between them. -/
inductive MembersSpelled : Object → List Char → Prop where
  | last {name : String} {value : Json} {quoted key text first : List Char}
      (isName : Quoted name quoted) (paddedName : Padded quoted key) (spelled : value.Spelled text)
      (padded : Padded text first) : MembersSpelled [(name, value)] (key ++ ':' :: first)
  | next {name : String} {value : Json} {members : Object} {quoted key text first more : List Char}
      (isName : Quoted name quoted) (paddedName : Padded quoted key) (spelled : value.Spelled text)
      (padded : Padded text first) (rest : MembersSpelled members more) :
      MembersSpelled ((name, value) :: members) (key ++ ':' :: first ++ ',' :: more)
end

/-- Whether bytes are a text of a value: the UTF-8 form of a spelling with white space around it. -/
def Json.WrittenAs (v : Json) (bytes : ByteArray) : Prop :=
  ∃ text padded, v.Spelled text ∧ Padded text padded ∧ bytes = (String.ofList padded).toUTF8

mutual
/-- The tree of the texts of a value. -/
def Json.plainTree : Json → Tree
  | .null => .null
  | .bool b => .bool b
  | .number n => .number (some n)
  | .string s => .string (some s)
  | .array items => .array (itemsPlainTree items) true
  | .object members => .object (membersPlainTree members) true

/-- The trees of the texts of some items. -/
def itemsPlainTree : List Json → List Tree
  | [] => []
  | item :: items => item.plainTree :: itemsPlainTree items

/-- The trees of the texts of some members. -/
def membersPlainTree : Object → List (Option String × Tree)
  | [] => []
  | (name, value) :: members => (some name, value.plainTree) :: membersPlainTree members
end

namespace Tree

/-! ## White space -/

theorem exists_space (s : List Symbol) : ∃ ws, AllSpace ws ∧ s = ws.map some ++ skipSpace s := by
  fun_induction skipSpace s with
  | case1 c rest space ih =>
    obtain ⟨ws, all, same⟩ := ih
    exact ⟨c :: ws, List.forall_mem_cons.2 ⟨space, all⟩, congrArg _ same⟩
  | case2 c rest notSpace => exact ⟨[], List.forall_mem_nil _, rfl⟩
  | case3 rest other => exact ⟨[], List.forall_mem_nil _, rfl⟩

theorem skipSpace_skipSpace (s : List Symbol) : skipSpace (skipSpace s) = skipSpace s := by
  obtain ⟨ws, space, same⟩ := exists_space s
  exact ((skipSpace_append space (skipSpace s)).symm.trans (congrArg skipSpace same.symm))

/-- White space in front of a value is passed over. -/
theorem readValue_skipSpace (fuel : Nat) (s : List Symbol) :
    readValue fuel (skipSpace s) = readValue fuel s := by
  cases fuel with
  | zero => rfl
  | succ fuel => simp only [readValue, skipSpace_skipSpace]

theorem readItems_skipSpace (fuel : Nat) (s : List Symbol) :
    readItems fuel (skipSpace s) = readItems fuel s := by
  cases fuel with
  | zero => rfl
  | succ fuel => simp only [readItems, readValue_skipSpace]

theorem readMembers_skipSpace (fuel : Nat) (s : List Symbol) :
    readMembers fuel (skipSpace s) = readMembers fuel s := by
  cases fuel with
  | zero => rfl
  | succ fuel => simp only [readMembers, skipSpace_skipSpace]

/-! ## Strings -/

theorem shortEscape?_eq_some {e c : Char} : shortEscape? e = some c ↔ (e, c) ∈ shortEscapes := by
  constructor
  · intro letter
    by_cases known : e ∈ ['"', '\\', '/', 'b', 'f', 'n', 'r', 't']
    · simp only [List.mem_cons, List.not_mem_nil, or_false] at known
      rcases known with rfl | rfl | rfl | rfl | rfl | rfl | rfl | rfl <;>
        exact Option.some.inj letter ▸ by decide
    · simp only [List.mem_cons, List.not_mem_nil, or_false, not_or] at known
      simp [shortEscape?, known] at letter
  · intro short
    simp only [shortEscapes, List.mem_cons, List.not_mem_nil, or_false, Prod.mk.injEq] at short
    rcases short with ⟨rfl, rfl⟩ | ⟨rfl, rfl⟩ | ⟨rfl, rfl⟩ | ⟨rfl, rfl⟩ | ⟨rfl, rfl⟩ | ⟨rfl, rfl⟩ |
      ⟨rfl, rfl⟩ | ⟨rfl, rfl⟩ <;> rfl

/-- The symbols of the pieces of a string. -/
inductive PiecesSpelled : List Piece → List Symbol → Prop where
  | nil : PiecesSpelled [] []
  | plain {c : Char} {ps : List Piece} {s : List Symbol} (quote : c ≠ '"') (backslash : c ≠ '\\')
      (visible : ¬c.toNat < 0x20) (more : PiecesSpelled ps s) :
      PiecesSpelled (.char c :: ps) (some c :: s)
  | letter {e c : Char} {ps : List Piece} {s : List Symbol} (short : (e, c) ∈ shortEscapes)
      (more : PiecesSpelled ps s) : PiecesSpelled (.char c :: ps) (some '\\' :: some e :: s)
  | unit {a b c d : Char} {n : Nat} {ps : List Piece} {s : List Symbol}
      (digits : hexUnit? a b c d = some n) (more : PiecesSpelled ps s) :
      PiecesSpelled (.unit n :: ps)
        (some '\\' :: some 'u' :: some a :: some b :: some c :: some d :: s)
  | stray {ps : List Piece} {s : List Symbol} (more : PiecesSpelled ps s) :
      PiecesSpelled (.stray :: ps) (none :: s)

/-- What is scanned as the pieces of a string are their symbols, up to the closing quote. -/
theorem pieces?_ok {s rest : List Symbol} {ps : List Piece} (h : pieces? s = some (ps, rest)) :
    ∃ front, PiecesSpelled ps front ∧ s = front ++ some '"' :: rest := by
  fun_induction pieces? s generalizing ps with
  | case1 s =>
    cases h
    exact ⟨[], .nil, rfl⟩
  | case2 a b c d s n ps rest found digits ih =>
    cases h
    obtain ⟨front, spelled, rfl⟩ := ih found
    exact ⟨_, .unit digits spelled, rfl⟩
  | case4 e s _ c ps rest found letter ih =>
    cases h
    obtain ⟨front, spelled, rfl⟩ := ih found
    exact ⟨_, .letter (shortEscape?_eq_some.1 letter) spelled, rfl⟩
  | case8 c s quote _ _ backslash visible ih =>
    obtain ⟨⟨ps, _⟩, found, same⟩ := Option.map_eq_some_iff.1 h
    cases same
    obtain ⟨front, spelled, rfl⟩ := ih found
    exact ⟨_, .plain quote backslash visible spelled, rfl⟩
  | case9 s ih =>
    obtain ⟨⟨ps, _⟩, found, same⟩ := Option.map_eq_some_iff.1 h
    cases same
    obtain ⟨front, spelled, rfl⟩ := ih found
    exact ⟨_, .stray spelled, rfl⟩
  | case3 | case5 | case6 | case7 | case10 => cases h

/-- The symbols of pieces that are characters spell these characters. -/
theorem escaped_of_piecesChars? {ps : List Piece} {cs : List Char} {s : List Symbol}
    (spelled : PiecesSpelled ps s) (h : piecesChars? ps = some cs) :
    ∃ text, Escaped cs text ∧ s = text.map some := by
  fun_induction piecesChars? ps generalizing cs s with
  | case1 =>
    cases h
    cases spelled
    exact ⟨[], .nil, rfl⟩
  | case2 c ps ih =>
    obtain ⟨cs, chars, rfl⟩ := Option.map_eq_some_iff.1 h
    cases spelled with
    | plain quote backslash visible more =>
      obtain ⟨text, escaped, rfl⟩ := ih more chars
      exact ⟨_, .plain quote backslash visible escaped, rfl⟩
    | letter short more =>
      obtain ⟨text, escaped, rfl⟩ := ih more chars
      exact ⟨_, .letter short escaped, rfl⟩
  | case3 high low ps isHigh isLow ih =>
    obtain ⟨cs, chars, rfl⟩ := Option.map_eq_some_iff.1 h
    obtain _ | _ | _ | ⟨first, more⟩ := spelled
    obtain _ | _ | _ | ⟨second, more⟩ := more
    obtain ⟨text, escaped, rfl⟩ := ih more chars
    exact ⟨_, .pair first isHigh second isLow escaped, rfl⟩
  | case6 n low ps noHigh noLow ih =>
    obtain ⟨cs, chars, rfl⟩ := Option.map_eq_some_iff.1 h
    obtain _ | _ | _ | ⟨digits, more⟩ := spelled
    obtain ⟨text, escaped, rfl⟩ := ih more chars
    exact ⟨_, .unit digits (by omega) escaped, rfl⟩
  | case8 n ps _ noHalf ih =>
    obtain ⟨cs, chars, rfl⟩ := Option.map_eq_some_iff.1 h
    obtain _ | _ | _ | ⟨digits, more⟩ := spelled
    obtain ⟨text, escaped, rfl⟩ := ih more chars
    exact ⟨_, .unit digits noHalf escaped, rfl⟩
  | case4 | case5 | case7 | case9 => cases h

/-- The spelling of characters is scanned as pieces that stand for these characters. -/
theorem exists_pieces {cs text : List Char} (escaped : Escaped cs text) : ∃ ps,
    (∀ rest, pieces? (text.map some ++ some '"' :: rest) = some (ps, rest)) ∧
      piecesChars? ps = some cs := by
  induction escaped with
  | nil => exact ⟨[], fun rest => by simp [pieces?], rfl⟩
  | @plain c _ _ quote backslash visible _ ih =>
    obtain ⟨ps, found, chars⟩ := ih
    refine ⟨.char c :: ps, fun rest => ?_, by rw [piecesChars?, chars]; rfl⟩
    simp only [List.map_cons, List.cons_append, pieces?_plain quote backslash visible, found,
      Option.map_some]
  | @letter _ c _ _ short _ ih =>
    obtain ⟨ps, found, chars⟩ := ih
    refine ⟨.char c :: ps, fun rest => ?_, by rw [piecesChars?, chars]; rfl⟩
    simp only [List.map_cons, List.cons_append, pieces?_letter (shortEscape?_eq_some.2 short), found,
      Option.map_some]
  | @unit _ _ _ _ n _ _ digits noHalf _ ih =>
    obtain ⟨ps, found, chars⟩ := ih
    refine ⟨.unit n :: ps, fun rest => ?_, by rw [piecesChars?_unit noHalf, chars]; rfl⟩
    simp only [List.map_cons, List.cons_append, pieces?_unit digits, found, Option.map_some]
  | @pair _ _ _ _ _ _ _ _ high low _ _ first isHigh second isLow _ ih =>
    obtain ⟨ps, found, chars⟩ := ih
    refine ⟨.unit high :: .unit low :: ps, fun rest => ?_, ?_⟩
    · simp only [List.map_cons, List.cons_append, pieces?_unit first, pieces?_unit second, found,
        Option.map_some]
    · rw [piecesChars?, if_pos isHigh, if_pos isLow, chars]
      rfl

/-- A string is read from each of its spellings, after the opening quote. -/
theorem string?_escaped {s : String} {text : List Char} (escaped : Escaped s.toList text)
    (rest : List Symbol) :
    string? (text.map some ++ some '"' :: rest) = some (some s, rest) := by
  obtain ⟨ps, found, chars⟩ := exists_pieces escaped
  simp [string?, found, chars]

/-- A string that is read is its characters, each of them as itself or escaped. -/
theorem string?_ok {s rest : List Symbol} {name : String}
    (h : string? s = some (some name, rest)) :
    ∃ text, Escaped name.toList text ∧ s = text.map some ++ some '"' :: rest := by
  obtain ⟨⟨ps, _⟩, found, same⟩ := Option.map_eq_some_iff.1 h
  obtain ⟨denoted, rfl⟩ := Prod.mk.inj same
  obtain ⟨cs, chars, rfl⟩ := Option.map_eq_some_iff.1 denoted
  obtain ⟨front, spelled, rfl⟩ := pieces?_ok found
  obtain ⟨text, escaped, rfl⟩ := escaped_of_piecesChars? spelled chars
  exact ⟨text, by simpa using escaped, rfl⟩

/-! ## Texts that are read -/

theorem afterWord?_ok {word : List Char} {s rest : List Symbol}
    (h : afterWord? word s = some rest) : s = word.map some ++ rest := by
  fun_induction afterWord? word s with
  | case1 s =>
    cases h
    rfl
  | case2 word d s ih => exact congrArg _ (ih h)
  | case3 | case4 => cases h

/-- A leaf that leaves something behind it was found. -/
theorem leaf_ok {found : Option (Tree × List Symbol)} {tree : Tree} {rest : List Symbol}
    (h : leaf found = (tree, some rest)) : found = some (tree, rest) := by
  cases found with
  | none => cases h
  | some found =>
    cases h
    rfl

theorem word_of_leaf {word : List Char} {tree found : Tree} {s rest : List Symbol}
    (h : leaf ((afterWord? word s).map fun rest => (tree, rest)) = (found, some rest)) :
    tree = found ∧ s = word.map some ++ rest := by
  obtain ⟨_, scanned, same⟩ := Option.map_eq_some_iff.1 (leaf_ok h)
  obtain ⟨isTree, rfl⟩ := Prod.mk.inj same
  exact ⟨isTree, afterWord?_ok scanned⟩

/-- Only the trees of arrays are the trees of a value with items. -/
theorem plainTree_eq_array {v : Json} {items : List Tree} {closed : Bool}
    (h : .array items closed = v.plainTree) :
    ∃ values, v = .array values ∧ items = itemsPlainTree values := by
  cases v with
  | array values =>
    cases h
    exact ⟨values, rfl, rfl⟩
  | _ => cases h

theorem plainTree_eq_object {v : Json} {members : List (Option String × Tree)} {closed : Bool}
    (h : .object members closed = v.plainTree) :
    ∃ values, v = .object values ∧ members = membersPlainTree values := by
  cases v with
  | object values =>
    cases h
    exact ⟨values, rfl, rfl⟩
  | _ => cases h

/-- Whatever is read with so many steps as the tree of a value is spelled. -/
structure ReadsSpelled (fuel : Nat) : Prop where
  value : ∀ {s rest : List Symbol} {v : Json}, readValue fuel s = (v.plainTree, some rest) →
    ∃ text, v.Spelled text ∧ skipSpace s = text.map some ++ rest
  items : ∀ {s rest : List Symbol} {items : List Json},
    readItems fuel s = (itemsPlainTree items, some rest) →
      ∃ text, ItemsSpelled items text ∧ s = text.map some ++ some ']' :: rest
  members : ∀ {s rest : List Symbol} {members : Object},
    readMembers fuel s = (membersPlainTree members, some rest) →
      ∃ text, MembersSpelled members text ∧ s = text.map some ++ some '\x7d' :: rest

/-- An object that is read to its brace is spelled as the grammar says, if its members are. -/
theorem spelled_of_brace {fuel : Nat} (ih : ReadsSpelled fuel) {s t rest : List Symbol} {v : Json}
    (first : skipSpace s = some '\x7b' :: t)
    (h : readValue (fuel + 1) s = (v.plainTree, some rest)) :
    ∃ text, v.Spelled text ∧ skipSpace s = text.map some ++ rest := by
  simp only [readValue, first] at h ⊢
  split at h
  · rename_i close
    obtain ⟨tree, after⟩ := Prod.mk.inj h
    cases after
    obtain ⟨members, rfl, empty⟩ := plainTree_eq_object tree
    cases members with
    | nil =>
      obtain ⟨blank, space, same⟩ := exists_space t
      refine ⟨_, .emptyObject space, ?_⟩
      rw [same, close]
      simp
    | cons => cases empty
  · obtain ⟨tree, after⟩ := Prod.mk.inj h
    obtain ⟨members, rfl, read⟩ := plainTree_eq_object tree
    rw [readMembers_skipSpace] at read after
    obtain ⟨text, spelled, rfl⟩ := ih.members (Prod.ext read after)
    exact ⟨_, .object spelled, by simp⟩

/-- An array that is read to its bracket is spelled as the grammar says, if its items are. -/
theorem spelled_of_bracket {fuel : Nat} (ih : ReadsSpelled fuel) {s t rest : List Symbol} {v : Json}
    (first : skipSpace s = some '[' :: t)
    (h : readValue (fuel + 1) s = (v.plainTree, some rest)) :
    ∃ text, v.Spelled text ∧ skipSpace s = text.map some ++ rest := by
  simp only [readValue, first] at h ⊢
  split at h
  · rename_i close
    obtain ⟨tree, after⟩ := Prod.mk.inj h
    cases after
    obtain ⟨items, rfl, empty⟩ := plainTree_eq_array tree
    cases items with
    | nil =>
      obtain ⟨blank, space, same⟩ := exists_space t
      refine ⟨_, .emptyArray space, ?_⟩
      rw [same, close]
      simp
    | cons => cases empty
  · obtain ⟨tree, after⟩ := Prod.mk.inj h
    obtain ⟨items, rfl, read⟩ := plainTree_eq_array tree
    rw [readItems_skipSpace] at read after
    obtain ⟨text, spelled, rfl⟩ := ih.items (Prod.ext read after)
    exact ⟨_, .array spelled, by simp⟩

/-- A value that is read is spelled as the grammar says, if what is read inside of it is. -/
theorem spelled_of_readValue {fuel : Nat} (ih : ReadsSpelled fuel) {s rest : List Symbol} {v : Json}
    (h : readValue (fuel + 1) s = (v.plainTree, some rest)) :
    ∃ text, v.Spelled text ∧ skipSpace s = text.map some ++ rest := by
  have whole := h
  rw [readValue] at h
  split at h
  · exact spelled_of_brace ih ‹_› whole
  · exact spelled_of_bracket ih ‹_› whole
  · rename_i first
    obtain ⟨⟨name, _⟩, scanned, same⟩ := Option.map_eq_some_iff.1 (leaf_ok h)
    obtain ⟨tree, rfl⟩ := Prod.mk.inj same
    cases v with
    | string s =>
      cases tree
      obtain ⟨text, escaped, rfl⟩ := string?_ok scanned
      exact ⟨_, .string (.mk escaped), by simp [first]⟩
    | _ => cases tree
  · rename_i first
    obtain ⟨tree, rfl⟩ := word_of_leaf h
    cases v with
    | null => exact ⟨_, .null, first⟩
    | _ => cases tree
  · rename_i first
    obtain ⟨tree, rfl⟩ := word_of_leaf h
    cases v with
    | bool b =>
      cases tree
      exact ⟨_, .true, first⟩
    | _ => cases tree
  · rename_i first
    obtain ⟨tree, rfl⟩ := word_of_leaf h
    cases v with
    | bool b =>
      cases tree
      exact ⟨_, .false, first⟩
    | _ => cases tree
  · obtain ⟨⟨l, _⟩, scanned, same⟩ := Option.map_eq_some_iff.1 (leaf_ok h)
    obtain ⟨tree, rfl⟩ := Prod.mk.inj same
    cases v with
    | number n =>
      obtain ⟨text, literal, front⟩ := Number.Literal.literal?_ok scanned
      obtain ⟨fits, rfl⟩ := Number.Literal.toNumber?_eq_some_iff.1 (Tree.number.inj tree)
      exact ⟨text, .number literal fits, front⟩
    | _ => cases tree

/-- What a text with white space in front is, from its part after the white space. -/
theorem exists_padded {s after : List Symbol} {text : List Char} {c : Char} {rest : List Symbol}
    (front : skipSpace s = text.map some ++ after) (stop : skipSpace after = some c :: rest) :
    ∃ padded, Padded text padded ∧ s = padded.map some ++ some c :: rest := by
  obtain ⟨before, space, same⟩ := exists_space s
  obtain ⟨behind, spaceBehind, sameBehind⟩ := exists_space after
  refine ⟨_, .mk space spaceBehind, ?_⟩
  rw [same, front, sameBehind, stop]
  simp

/-- What stands in a text that is read as items up to their closing bracket. -/
theorem readItems_ok {fuel : Nat} {s rest : List Symbol} {trees : List Tree}
    (h : readItems (fuel + 1) s = (trees, some rest)) :
    ∃ tree after, readValue fuel s = (tree, some after) ∧
      ((skipSpace after = some ']' :: rest ∧ trees = [tree]) ∨
        ∃ t more, skipSpace after = some ',' :: t ∧ readItems fuel t = (more, some rest) ∧
          trees = tree :: more) := by
  rw [readItems] at h
  split at h
  · cases (Prod.mk.inj h).2
  · rename_i tree after read
    refine ⟨tree, after, read, ?_⟩
    split at h
    · rename_i t comma
      obtain ⟨rfl, found⟩ := Prod.mk.inj h
      exact .inr ⟨t, _, comma, Prod.ext rfl found, rfl⟩
    · rename_i t close
      cases h
      exact .inl ⟨close, rfl⟩
    · cases (Prod.mk.inj h).2

/-- What stands in a text that is read as members up to their closing brace. -/
theorem readMembers_ok {fuel : Nat} {s rest : List Symbol} {trees : List (Option String × Tree)}
    (h : readMembers (fuel + 1) s = (trees, some rest)) :
    ∃ body name t u tree after, skipSpace s = some '"' :: body ∧ string? body = some (name, t) ∧
      skipSpace t = some ':' :: u ∧ readValue fuel u = (tree, some after) ∧
        ((skipSpace after = some '\x7d' :: rest ∧ trees = [(name, tree)]) ∨
          ∃ next more, skipSpace after = some ',' :: next ∧
            readMembers fuel next = (more, some rest) ∧ trees = (name, tree) :: more) := by
  rw [readMembers] at h
  split at h
  · rename_i body quote
    split at h
    · cases (Prod.mk.inj h).2
    · rename_i name t scanned
      split at h
      · rename_i u colon
        split at h
        · cases (Prod.mk.inj h).2
        · rename_i tree after read
          refine ⟨body, name, t, u, tree, after, quote, scanned, colon, read, ?_⟩
          split at h
          · rename_i next comma
            obtain ⟨rfl, found⟩ := Prod.mk.inj h
            exact .inr ⟨next, _, comma, Prod.ext rfl found, rfl⟩
          · rename_i next close
            cases h
            exact .inl ⟨close, rfl⟩
          · cases (Prod.mk.inj h).2
      · cases (Prod.mk.inj h).2
  · cases (Prod.mk.inj h).2

/-- Items that are read to the bracket are spelled with commas between them. -/
theorem spelled_of_readItems {fuel : Nat} (ih : ReadsSpelled fuel) {s rest : List Symbol}
    {items : List Json} (h : readItems (fuel + 1) s = (itemsPlainTree items, some rest)) :
    ∃ text, ItemsSpelled items text ∧ s = text.map some ++ some ']' :: rest := by
  obtain ⟨tree, after, read, ⟨close, trees⟩ | ⟨t, more, comma, readMore, trees⟩⟩ := readItems_ok h
  · match items with
    | [item] =>
      obtain ⟨rfl, _⟩ := List.cons.inj trees
      obtain ⟨text, spelled, front⟩ := ih.value read
      obtain ⟨first, padded, rfl⟩ := exists_padded front close
      exact ⟨_, .last spelled padded, rfl⟩
    | [] => cases trees
    | _ :: _ :: _ => cases (List.cons.inj trees).2
  · cases items with
    | cons item items =>
      obtain ⟨rfl, rfl⟩ := List.cons.inj trees
      obtain ⟨text, spelled, front⟩ := ih.value read
      obtain ⟨first, padded, rfl⟩ := exists_padded front comma
      obtain ⟨more, spelledMore, rfl⟩ := ih.items readMore
      exact ⟨_, .next spelled padded spelledMore, by simp⟩
    | nil => cases trees

/-- Members that are read to the brace are spelled with commas between them. -/
theorem spelled_of_readMembers {fuel : Nat} (ih : ReadsSpelled fuel) {s rest : List Symbol}
    {members : Object} (h : readMembers (fuel + 1) s = (membersPlainTree members, some rest)) :
    ∃ text, MembersSpelled members text ∧ s = text.map some ++ some '\x7d' :: rest := by
  obtain ⟨body, name, t, u, tree, after, quote, scanned, colon, read, next⟩ := readMembers_ok h
  -- The name is a string, since it is one in the tree of the members.
  have named {key : String} (isName : name = some key) : ∃ quoted padded, Quoted key quoted ∧
      Padded quoted padded ∧ s = padded.map some ++ some ':' :: u := by
    subst isName
    obtain ⟨text, escaped, rfl⟩ := string?_ok scanned
    have front : skipSpace s = ('"' :: text ++ ['"']).map some ++ t := quote.trans (by simp)
    obtain ⟨padded, isPadded, same⟩ := exists_padded front colon
    exact ⟨_, padded, .mk escaped, isPadded, same⟩
  obtain ⟨close, trees⟩ | ⟨next, more, comma, readMore, trees⟩ := next
  · match members with
    | [(key, value)] =>
      obtain ⟨member, _⟩ := List.cons.inj trees
      obtain ⟨isName, rfl⟩ := Prod.mk.inj member
      obtain ⟨quoted, padded, isQuoted, isPadded, rfl⟩ := named isName.symm
      obtain ⟨text, spelled, front⟩ := ih.value read
      obtain ⟨first, paddedValue, rfl⟩ := exists_padded front close
      exact ⟨_, .last isQuoted isPadded spelled paddedValue, by simp⟩
    | [] => cases trees
    | _ :: _ :: _ => cases (List.cons.inj trees).2
  · match members with
    | (key, value) :: members =>
      obtain ⟨member, rfl⟩ := List.cons.inj trees
      obtain ⟨isName, rfl⟩ := Prod.mk.inj member
      obtain ⟨quoted, padded, isQuoted, isPadded, rfl⟩ := named isName.symm
      obtain ⟨text, spelled, front⟩ := ih.value read
      obtain ⟨first, paddedValue, rfl⟩ := exists_padded front comma
      obtain ⟨more, spelledMore, rfl⟩ := ih.members readMore
      exact ⟨_, .next isQuoted isPadded spelled paddedValue spelledMore, by simp⟩
    | [] => cases trees

/-- Whatever is read to its end is spelled as the grammar says. -/
theorem readsSpelled (fuel : Nat) : ReadsSpelled fuel := by
  induction fuel with
  | zero =>
    refine ⟨fun h => ?_, fun h => ?_, fun h => ?_⟩
    all_goals cases (Prod.mk.inj h).2
  -- The three readers call each other, each with one step less.
  | succ fuel ih =>
    exact ⟨spelled_of_readValue ih, spelled_of_readItems ih, spelled_of_readMembers ih⟩

/-! ## Texts of the grammar -/

/-- A spelling of a value starts with a character that a value may start with. -/
theorem exists_cons_of_spelledValue {v : Json} {text : List Char} (spelled : v.Spelled text) :
    ∃ c cs, text = c :: cs ∧ opensValue c = true := by
  cases spelled with
  | number literal _ =>
    obtain ⟨c, cs, same, opens⟩ := exists_cons_of_spelled literal
    exact ⟨c, cs, same, by simp [opensValue, opens]⟩
  | string quoted =>
    obtain ⟨_⟩ := quoted
    exact ⟨_, _, rfl, by decide⟩
  | _ => exact ⟨_, _, rfl, by decide⟩

/-- White space in front of a value is skipped up to the value. -/
theorem skipSpace_padded {v : Json} {text padded : List Char} (spelled : v.Spelled text)
    (isPadded : Padded text padded) (s : List Symbol) :
    ∃ c t, skipSpace (padded.map some ++ s) = some c :: t ∧ opensValue c = true := by
  obtain ⟨front, _⟩ := isPadded
  obtain ⟨c, cs, rfl, opens⟩ := exists_cons_of_spelledValue spelled
  simp only [List.map_append, List.map_cons, List.append_assoc, List.cons_append]
  rw [skipSpace_append front, skipSpace_cons (isSpace_eq_false_of_opensValue opens)]
  exact ⟨c, _, rfl, opens⟩

/-- White space around a name is skipped, up to the colon. -/
theorem skipSpace_paddedName {name : String} {quoted key : List Char} (isName : Quoted name quoted)
    (isPadded : Padded quoted key) (s : List Symbol) :
    ∃ body t, skipSpace (key.map some ++ some ':' :: s) = some '"' :: body ∧
      string? body = some (some name, t) ∧ skipSpace t = some ':' :: s := by
  obtain ⟨escaped⟩ := isName
  obtain ⟨front, back⟩ := isPadded
  simp only [List.map_append, List.map_cons, List.append_assoc, List.cons_append, List.nil_append]
  exact ⟨_, _, (skipSpace_append front _).trans (skipSpace_cons (by decide) _),
    string?_escaped escaped _, (skipSpace_append back _).trans (skipSpace_cons (by decide) s)⟩

/-- The text of some items starts like that of a value. -/
theorem skipSpace_items {items : List Json} {text : List Char} (spelled : ItemsSpelled items text)
    (s : List Symbol) :
    ∃ c t, skipSpace (text.map some ++ s) = some c :: t ∧ opensValue c = true := by
  cases spelled with
  | last spelled isPadded => exact skipSpace_padded spelled isPadded s
  | next spelled isPadded _ =>
    simp only [List.map_append, List.append_assoc]
    exact skipSpace_padded spelled isPadded _

/-- The text of some members starts with a quote. -/
theorem skipSpace_members {members : Object} {text : List Char}
    (spelled : MembersSpelled members text) (s : List Symbol) :
    ∃ t, skipSpace (text.map some ++ s) = some '"' :: t := by
  cases spelled with
  | last isName paddedName _ _ =>
    simp only [List.map_append, List.map_cons, List.append_assoc, List.cons_append]
    obtain ⟨body, _, quote, _⟩ := skipSpace_paddedName isName paddedName _
    exact ⟨body, quote⟩
  | next isName paddedName _ _ _ =>
    simp only [List.map_append, List.map_cons, List.append_assoc, List.cons_append]
    obtain ⟨body, _, quote, _⟩ := skipSpace_paddedName isName paddedName _
    exact ⟨body, quote⟩

/-- Whatever is spelled with so few characters is read with so many steps. -/
structure SpelledReads (fuel : Nat) : Prop where
  value : ∀ {v : Json} {text : List Char} {rest : List Symbol}, v.Spelled text →
    2 * text.length ≤ fuel → Number.Ends rest →
      readValue fuel (text.map some ++ rest) = (v.plainTree, some rest)
  items : ∀ {items : List Json} {text : List Char} {rest : List Symbol}, ItemsSpelled items text →
    2 * text.length + 1 ≤ fuel →
      readItems fuel (text.map some ++ some ']' :: rest) = (itemsPlainTree items, some rest)
  members : ∀ {members : Object} {text : List Char} {rest : List Symbol},
    MembersSpelled members text → 2 * text.length + 1 ≤ fuel →
      readMembers fuel (text.map some ++ some '\x7d' :: rest) =
        (membersPlainTree members, some rest)

/-- A value with white space around it is read up to the white space behind it. -/
theorem SpelledReads.padded {fuel : Nat} (ih : SpelledReads fuel) {v : Json}
    {text padded : List Char} (spelled : v.Spelled text) (isPadded : Padded text padded)
    (enough : 2 * padded.length ≤ fuel) {c : Char} (notSpace : isSpace c = false)
    (stop : Number.goesOn c = false) (rest : List Symbol) :
    ∃ after, readValue fuel (padded.map some ++ some c :: rest) = (v.plainTree, some after) ∧
      skipSpace after = some c :: rest := by
  obtain ⟨front, back⟩ := isPadded
  simp only [List.length_append] at enough
  simp only [List.map_append, List.append_assoc]
  rw [readValue_space fuel front, ih.value spelled (by omega) (ends_space_append back stop rest)]
  exact ⟨_, rfl, (skipSpace_append back _).trans (skipSpace_cons notSpace rest)⟩

/-- A value that is spelled is read, given fuel for each of its characters twice. -/
theorem readValue_spelled {fuel : Nat} (ih : SpelledReads fuel) {v : Json} {text : List Char}
    {rest : List Symbol} (spelled : v.Spelled text) (enough : 2 * text.length ≤ fuel + 1)
    (ends : Number.Ends rest) :
    readValue (fuel + 1) (text.map some ++ rest) = (v.plainTree, some rest) := by
  cases spelled with
  | null => rfl
  | true => rfl
  | false => rfl
  | number literal fits =>
    have denotes := Number.Literal.toNumber?_eq_some_iff.2 ⟨fits, rfl⟩
    rw [readValue_literal literal fuel ends, denotes, Json.plainTree]
  | string quoted =>
    obtain ⟨escaped⟩ := quoted
    have scanned := string?_escaped escaped rest
    simp [Json.plainTree, readValue, skipSpace, isSpace, scanned, leaf]
  | emptyArray space =>
    simp only [List.map_append, List.map_cons, List.cons_append, List.append_assoc]
    rw [readValue, skipSpace_cons (by decide)]
    simp only [skipSpace_append space, skipSpace_cons (show isSpace ']' = false by decide)]
    rfl
  | @array items text spelled =>
    simp only [List.length_append, List.length_cons, List.length_nil] at enough
    obtain ⟨c, t, first, opens⟩ := skipSpace_items spelled (some ']' :: rest)
    simp only [List.map_append, List.map_cons, List.cons_append, List.append_assoc, List.map_nil,
      List.nil_append]
    rw [readValue_bracket first (opensValue_ne opens (by decide)), ← first, readItems_skipSpace,
      ih.items spelled (by omega)]
    rfl
  | emptyObject space =>
    simp only [List.map_append, List.map_cons, List.cons_append, List.append_assoc]
    rw [readValue, skipSpace_cons (by decide)]
    simp only [skipSpace_append space, skipSpace_cons (show isSpace '\x7d' = false by decide)]
    rfl
  | @object members text spelled =>
    simp only [List.length_append, List.length_cons, List.length_nil] at enough
    obtain ⟨t, first⟩ := skipSpace_members spelled (some '\x7d' :: rest)
    simp only [List.map_append, List.map_cons, List.cons_append, List.append_assoc, List.map_nil,
      List.nil_append]
    rw [readValue_brace first (by decide), ← first, readMembers_skipSpace,
      ih.members spelled (by omega)]
    rfl

/-- Items that are spelled are read up to the bracket. -/
theorem readItems_spelled {fuel : Nat} (ih : SpelledReads fuel) {items : List Json}
    {text : List Char} {rest : List Symbol} (spelled : ItemsSpelled items text)
    (enough : 2 * text.length ≤ fuel) :
    readItems (fuel + 1) (text.map some ++ some ']' :: rest) =
      (itemsPlainTree items, some rest) := by
  cases spelled with
  | last spelled isPadded =>
    obtain ⟨after, read, close⟩ :=
      ih.padded spelled isPadded enough (c := ']') (by decide) (by decide) rest
    rw [readItems_last read close]
    rfl
  | @next item items text first more spelled isPadded spelledMore =>
    simp only [List.length_append, List.length_cons] at enough
    obtain ⟨after, read, comma⟩ :=
      ih.padded spelled isPadded (by omega) (c := ',') (by decide) (by decide)
        (more.map some ++ some ']' :: rest)
    simp only [List.map_append, List.map_cons, List.append_assoc, List.cons_append]
    rw [readItems_next read comma, ih.items spelledMore (by omega)]
    rfl

/-- Members that are spelled are read up to the brace. -/
theorem readMembers_spelled {fuel : Nat} (ih : SpelledReads fuel) {members : Object}
    {text : List Char} {rest : List Symbol} (spelled : MembersSpelled members text)
    (enough : 2 * text.length ≤ fuel) :
    readMembers (fuel + 1) (text.map some ++ some '\x7d' :: rest) =
      (membersPlainTree members, some rest) := by
  cases spelled with
  | @last name value quoted key text first isName paddedName spelled isPadded =>
    simp only [List.length_append, List.length_cons] at enough
    obtain ⟨after, read, close⟩ :=
      ih.padded spelled isPadded (by omega) (c := '\x7d') (by decide) (by decide) rest
    obtain ⟨body, t, quote, scanned, colon⟩ := skipSpace_paddedName isName paddedName
      (first.map some ++ some '\x7d' :: rest)
    simp only [List.map_append, List.map_cons, List.append_assoc, List.cons_append]
    rw [readMembers_last quote scanned colon read close]
    rfl
  | @next name value members quoted key text first more isName paddedName spelled isPadded spelledMore =>
    simp only [List.length_append, List.length_cons] at enough
    obtain ⟨after, read, comma⟩ :=
      ih.padded spelled isPadded (by omega) (c := ',') (by decide) (by decide)
        (more.map some ++ some '\x7d' :: rest)
    obtain ⟨body, t, quote, scanned, colon⟩ := skipSpace_paddedName isName paddedName
      (first.map some ++ some ',' :: (more.map some ++ some '\x7d' :: rest))
    simp only [List.map_append, List.map_cons, List.append_assoc, List.cons_append]
    rw [readMembers_next quote scanned colon read comma, ih.members spelledMore (by omega)]
    rfl

/-- Whatever is spelled as the grammar says is read. -/
theorem spelledReads (fuel : Nat) : SpelledReads fuel := by
  induction fuel with
  | zero =>
    refine ⟨fun spelled enough _ => ?_, fun _ enough => ?_, fun _ enough => ?_⟩
    · obtain ⟨c, cs, rfl, _⟩ := exists_cons_of_spelledValue spelled
      simp at enough
    · omega
    · omega
  | succ fuel ih =>
    refine ⟨readValue_spelled ih, fun spelled enough => ?_, fun spelled enough => ?_⟩
    · exact readItems_spelled ih spelled (by omega)
    · exact readMembers_spelled ih spelled (by omega)

end Tree

/-! ## Whole texts -/

theorem Tree.ends_space {ws : List Char} (h : AllSpace ws) : Number.Ends (ws.map some) := by
  cases ws with
  | nil => exact .nil
  | cons c ws => exact .cons (goesOn_eq_false_of_isSpace (h c List.mem_cons_self)) _

theorem Symbol.ofString_ofList (cs : List Char) : ofString (String.ofList cs) = cs.map some := by
  simp [ofString]

/-- Bytes are read as a whole document with the tree of a value exactly if they are a text of that
value. -/
theorem Document.read_eq_plainTree {bytes : ByteArray} {v : Json} :
    Document.read (Symbol.ofBytes bytes) = ⟨v.plainTree, true⟩ ↔ v.WrittenAs bytes := by
  constructor
  · intro h
    unfold Document.read at h
    split at h
    · cases (Document.mk.inj h).2
    · rename_i tree rest read
      obtain ⟨rfl, complete⟩ := Document.mk.inj h
      obtain ⟨text, spelled, front⟩ := (Tree.readsSpelled _).value read
      obtain ⟨before, space, same⟩ := Tree.exists_space (Symbol.ofBytes bytes)
      obtain ⟨after, spaceBehind, sameBehind⟩ := Tree.exists_space rest
      rw [List.isEmpty_iff.1 complete, List.append_nil] at sameBehind
      refine ⟨text, _, spelled, .mk space spaceBehind, Symbol.ofBytes_eq_ofString.1 ?_⟩
      rw [same, front, sameBehind, Symbol.ofString_ofList]
      simp
  · rintro ⟨text, _, spelled, @⟨before, after, front, back⟩, rfl⟩
    have enough : 2 * text.length ≤ 2 * ((before ++ text ++ after).map some).length + 2 := by
      simp only [List.length_map, List.length_append]
      omega
    have read := (Tree.spelledReads _).value spelled enough (Tree.ends_space back)
    have behind := Tree.skipSpace_append back []
    rw [List.append_nil] at behind
    rw [Symbol.ofBytes_toUTF8, Symbol.ofString_ofList, Document.read]
    simp only [List.map_append, List.append_assoc] at read ⊢
    rw [Tree.readValue_space _ front, read]
    simp only [behind]
    rfl

/-! ## What a text denotes -/

mutual
/-- A value with only the last of the members of a name in each object, at the place of the first. -/
def Json.merged : Json → Json
  | .array items => .array (itemsMerged items)
  | .object members => .object (Assoc.ofEntries (membersMerged members))
  | value => value

/-- Some items with only the last of the members of a name in each object. -/
def itemsMerged : List Json → List Json
  | [] => []
  | item :: items => item.merged :: itemsMerged items

/-- Some members with only the last of the members of a name in each object of their values. -/
def membersMerged : Object → Object
  | [] => []
  | (name, value) :: members => (name, value.merged) :: membersMerged members
end

namespace Tree

mutual
/-- The tree of a value denotes the value, with members merged, if there is room for its nesting. -/
theorem toJson?_plainTree : ∀ {v : Json} {room : Nat}, v.depth ≤ room →
    v.plainTree.toJson? room = some v.merged
  | .null, _, _ => rfl
  | .bool _, _, _ => rfl
  | .number _, _, _ => rfl
  | .string _, _, _ => rfl
  | .array _, 0, deep => absurd deep (Nat.not_succ_le_zero _)
  | .array items, room + 1, deep => by
    have each := itemsToJson?_plainTree (Nat.le_of_succ_le_succ deep)
    simp [Json.plainTree, Json.merged, toJson?, each]
  | .object _, 0, deep => absurd deep (Nat.not_succ_le_zero _)
  | .object members, room + 1, deep => by
    have each := membersToJson?_plainTree (Nat.le_of_succ_le_succ deep)
    simp [Json.plainTree, Json.merged, toJson?, each]

/-- The values of items that fit are the items, with repeated members merged. -/
theorem itemsToJson?_plainTree : ∀ {items : List Json} {room : Nat}, itemsDepth items ≤ room →
    itemsToJson? room (itemsPlainTree items) = some (itemsMerged items)
  | [], _, _ => rfl
  | item :: items, room, deep => by
    have first : item.plainTree.toJson? room = some item.merged :=
      toJson?_plainTree (Nat.le_trans (Nat.le_max_left _ _) deep)
    have rest : itemsToJson? room (itemsPlainTree items) = some (itemsMerged items) :=
      itemsToJson?_plainTree (Nat.le_trans (Nat.le_max_right _ _) deep)
    simp [itemsPlainTree, itemsMerged, itemsToJson?, first, rest]

/-- The values of members that fit are the members, with repeated ones merged. -/
theorem membersToJson?_plainTree : ∀ {members : Object} {room : Nat}, membersDepth members ≤ room →
    membersToJson? room (membersPlainTree members) = some (membersMerged members)
  | [], _, _ => rfl
  | (name, value) :: members, room, deep => by
    have first : value.plainTree.toJson? room = some value.merged :=
      toJson?_plainTree (Nat.le_trans (Nat.le_max_left _ _) deep)
    have rest : membersToJson? room (membersPlainTree members) = some (membersMerged members) :=
      membersToJson?_plainTree (Nat.le_trans (Nat.le_max_right _ _) deep)
    simp [membersPlainTree, membersMerged, membersToJson?, first, rest]
end

mutual
/-- A tree that denotes a value is the tree of a value, for whose nesting there is room. -/
theorem exists_plainTree : ∀ {tree : Tree} {room : Nat} {w : Json}, tree.toJson? room = some w →
    ∃ v : Json, tree = v.plainTree ∧ v.depth ≤ room
  | .broken, _, _, h => by simp [toJson?] at h
  | .null, _, _, _ => ⟨.null, rfl, Nat.zero_le _⟩
  | .bool b, _, _, _ => ⟨.bool b, rfl, Nat.zero_le _⟩
  | .number _, _, _, h => by
    obtain ⟨n, rfl, _⟩ := Option.map_eq_some_iff.1 h
    exact ⟨.number n, rfl, Nat.zero_le _⟩
  | .string _, _, _, h => by
    obtain ⟨s, rfl, _⟩ := Option.map_eq_some_iff.1 h
    exact ⟨.string s, rfl, Nat.zero_le _⟩
  | .array _ _, 0, _, h => by simp [toJson?] at h
  | .array items closed, room + 1, _, h => by
    simp only [toJson?, Option.ite_none_right_eq_some] at h
    obtain ⟨rfl, denoted⟩ := h
    obtain ⟨values, found, _⟩ := Option.map_eq_some_iff.1 denoted
    obtain ⟨items, rfl, deep⟩ := exists_itemsPlainTree found
    exact ⟨.array items, rfl, Nat.succ_le_succ deep⟩
  | .object _ _, 0, _, h => by simp [toJson?] at h
  | .object members closed, room + 1, _, h => by
    simp only [toJson?, Option.ite_none_right_eq_some] at h
    obtain ⟨rfl, denoted⟩ := h
    obtain ⟨values, found, _⟩ := Option.map_eq_some_iff.1 denoted
    obtain ⟨members, rfl, deep⟩ := exists_membersPlainTree found
    exact ⟨.object members, rfl, Nat.succ_le_succ deep⟩

/-- Trees that have values are the trees of some items that are not too deep. -/
theorem exists_itemsPlainTree : ∀ {trees : List Tree} {room : Nat} {values : List Json},
    itemsToJson? room trees = some values →
      ∃ items : List Json, trees = itemsPlainTree items ∧ itemsDepth items ≤ room
  | [], _, _, _ => ⟨[], rfl, Nat.zero_le _⟩
  | _ :: _, _, _, h => by
    obtain ⟨_, _, first, rest, _⟩ := itemsToJson?_cons_ok h
    obtain ⟨v, rfl, deep⟩ := exists_plainTree first
    obtain ⟨items, rfl, deepRest⟩ := exists_itemsPlainTree rest
    exact ⟨v :: items, rfl, Nat.max_le.2 ⟨deep, deepRest⟩⟩

/-- Trees of members that have values are the trees of some members that are not too deep. -/
theorem exists_membersPlainTree : ∀ {trees : List (Option String × Tree)} {room : Nat}
    {values : Object}, membersToJson? room trees = some values →
      ∃ members : Object, trees = membersPlainTree members ∧ membersDepth members ≤ room
  | [], _, _, _ => ⟨[], rfl, Nat.zero_le _⟩
  | (_, _) :: _, _, _, h => by
    obtain ⟨name, _, _, rfl, first, rest, _⟩ := membersToJson?_cons_ok h
    obtain ⟨v, rfl, deep⟩ := exists_plainTree first
    obtain ⟨members, rfl, deepRest⟩ := exists_membersPlainTree rest
    exact ⟨(name, v) :: members, rfl, Nat.max_le.2 ⟨deep, deepRest⟩⟩
end

mutual
/-- The tree of a value was read to its end. -/
theorem intact_plainTree : ∀ v : Json, v.plainTree.intact = true
  | .null => rfl
  | .bool _ => rfl
  | .number _ => rfl
  | .string _ => rfl
  | .array items => by simp [Json.plainTree, intact, itemsIntact_plainTree items]
  | .object members => by simp [Json.plainTree, intact, membersIntact_plainTree members]

theorem itemsIntact_plainTree : ∀ items : List Json, itemsIntact (itemsPlainTree items) = true
  | [] => rfl
  | item :: items => by
    simp [itemsPlainTree, itemsIntact, intact_plainTree item, itemsIntact_plainTree items]

theorem membersIntact_plainTree : ∀ members : Object,
    membersIntact (membersPlainTree members) = true
  | [] => rfl
  | (_, value) :: members => by
    simp [membersPlainTree, membersIntact, intact_plainTree value, membersIntact_plainTree members]
end

end Tree

end DocStore
