-- SUMMARY: The tree of a text as far as it can be read, and the value that a whole tree denotes.
import DocStore.Json.Basic

/-!
# Trees of texts

Reading a text goes in two steps. The first turns it into a tree that holds everything the text
says: members in the order in which they stand, repeated names included, and, where the text is
malformed, the place at which reading had to stop. The second step, different for each kind of
document, walks the tree in the order of the text and stops at the first thing it cannot accept,
be that a malformed place or a value of the wrong kind. So the first problem of a text is the one
that is reported, as if both steps were one.

What a document ignores it does not look at closely: strings that are no Unicode text, numbers
beyond the range of doubles and deep nesting are kept in the tree as such, and are refused only by
a walk that needs their value.
-/

namespace DocStore

/-- The tree of a text. -/
inductive Tree where
  /-- Reading stopped: no value stands here. -/
  | broken
  | null
  | bool (b : Bool)
  /-- A number, or none if the literal is beyond the range of doubles. -/
  | number (n : Option Number)
  /-- A string, or none if it is no Unicode text. -/
  | string (s : Option String)
  /-- The items read, and whether the closing bracket was reached. -/
  | array (items : List Tree) (closed : Bool)
  /-- The members read, and whether the closing brace was reached. -/
  | object (members : List (Option String × Tree)) (closed : Bool)
deriving Repr, Inhabited

namespace Tree

/-! ## White space and words -/

/-- Whether a character may stand between the parts of a text. -/
def isSpace (c : Char) : Bool :=
  c == ' ' || c == '\t' || c == '\n' || c == '\r'

def skipSpace : List Symbol → List Symbol
  | some c :: rest => if isSpace c then skipSpace rest else some c :: rest
  | rest => rest

/-- The symbols after the characters `word`, if they stand in front. -/
def afterWord? : (word : List Char) → List Symbol → Option (List Symbol)
  | [], rest => some rest
  | c :: word, some d :: rest => if c = d then afterWord? word rest else none
  | _ :: _, _ => none

/-! ## Strings -/

/-- A part of a string: a character, a unit given by its number, or a stray byte. -/
inductive Piece where
  | char (c : Char)
  | unit (n : Nat)
  | stray
deriving DecidableEq, Repr

/-- The value of a hexadecimal digit. -/
def hexDigit? (c : Char) : Option Nat :=
  if '0' ≤ c ∧ c ≤ '9' then some (c.toNat - '0'.toNat)
  else if 'a' ≤ c ∧ c ≤ 'f' then some (c.toNat - 'a'.toNat + 10)
  else if 'A' ≤ c ∧ c ≤ 'F' then some (c.toNat - 'A'.toNat + 10)
  else none

def hexUnit? (a b c d : Char) : Option Nat := do
  return (((← hexDigit? a) * 16 + (← hexDigit? b)) * 16 + (← hexDigit? c)) * 16 + (← hexDigit? d)

/-- The character that a backslash and a letter stand for. -/
def shortEscape? (c : Char) : Option Char :=
  if c == '"' || c == '\\' || c == '/' then some c
  else if c == 'b' then some '\x08'
  else if c == 'f' then some '\x0c'
  else if c == 'n' then some '\n'
  else if c == 'r' then some '\r'
  else if c == 't' then some '\t'
  else none

/-- The pieces of a string whose opening quote is behind, and what follows its closing quote. A
control character, an unknown escape and the end of the text break it. -/
def pieces? : List Symbol → Option (List Piece × List Symbol)
  | some '"' :: rest => some ([], rest)
  | some '\\' :: some 'u' :: some a :: some b :: some c :: some d :: rest =>
    match hexUnit? a b c d, pieces? rest with
    | some n, some (ps, rest) => some (.unit n :: ps, rest)
    | _, _ => none
  | some '\\' :: some e :: rest =>
    match shortEscape? e, pieces? rest with
    | some c, some (ps, rest) => some (.char c :: ps, rest)
    | _, _ => none
  | some '\\' :: _ => none
  | some c :: rest =>
    if c.toNat < 0x20 then none
    else (pieces? rest).map fun (ps, rest) => (.char c :: ps, rest)
  | none :: rest => (pieces? rest).map fun (ps, rest) => (.stray :: ps, rest)
  | [] => none

/-- The characters of a string's pieces. A unit is a character of the basic plane, or one half of
a pair for a character beyond it; a half alone and a stray byte are no text. -/
def piecesChars? : List Piece → Option (List Char)
  | [] => some []
  | .char c :: rest => (piecesChars? rest).map (c :: ·)
  | .unit hi :: .unit lo :: rest =>
    if 0xD800 ≤ hi ∧ hi < 0xDC00 then
      if 0xDC00 ≤ lo ∧ lo < 0xE000 then
        (piecesChars? rest).map (Char.ofNat (0x10000 + (hi - 0xD800) * 0x400 + (lo - 0xDC00)) :: ·)
      else none
    else if 0xDC00 ≤ hi ∧ hi < 0xE000 then none
    else (piecesChars? (.unit lo :: rest)).map (Char.ofNat hi :: ·)
  | .unit n :: rest =>
    if 0xD800 ≤ n ∧ n < 0xE000 then none else (piecesChars? rest).map (Char.ofNat n :: ·)
  | .stray :: _ => none

/-- The string whose opening quote is behind, and what follows it. -/
def string? (s : List Symbol) : Option (Option String × List Symbol) :=
  (pieces? s).map fun (ps, rest) => ((piecesChars? ps).map String.ofList, rest)

/-! ## Values -/

/-- A leaf and what follows it, if the text could be read up to there. -/
def leaf (found : Option (Tree × List Symbol)) : Tree × Option (List Symbol) :=
  match found with
  | some (tree, rest) => (tree, some rest)
  | none => (.broken, none)

mutual
/-- The tree in front of a text, and what follows it; none if reading stopped inside the tree. -/
def readValue : (fuel : Nat) → List Symbol → Tree × Option (List Symbol)
  | 0, _ => (.broken, none)
  | fuel + 1, s =>
    match skipSpace s with
    | some '\x7b' :: s =>
      match skipSpace s with
      | some '\x7d' :: s => (.object [] true, some s)
      | s =>
        let (members, rest) := readMembers fuel s
        (.object members rest.isSome, rest)
    | some '[' :: s =>
      match skipSpace s with
      | some ']' :: s => (.array [] true, some s)
      | s =>
        let (items, rest) := readItems fuel s
        (.array items rest.isSome, rest)
    | some '"' :: s => leaf ((string? s).map fun (text, rest) => (.string text, rest))
    | some 'n' :: s => leaf ((afterWord? ['u', 'l', 'l'] s).map fun rest => (.null, rest))
    | some 't' :: s => leaf ((afterWord? ['r', 'u', 'e'] s).map fun rest => (.bool true, rest))
    | some 'f' :: s => leaf ((afterWord? ['a', 'l', 's', 'e'] s).map fun rest => (.bool false, rest))
    | s => leaf ((Number.literal? s).map fun (l, rest) => (.number l.toNumber?, rest))

/-- One item or more up to the closing bracket, and what follows it. -/
def readItems : (fuel : Nat) → List Symbol → List Tree × Option (List Symbol)
  | 0, _ => ([], none)
  | fuel + 1, s =>
    match readValue fuel s with
    | (item, none) => ([item], none)
    | (item, some s) =>
      match skipSpace s with
      | some ',' :: s =>
        let (items, rest) := readItems fuel s
        (item :: items, rest)
      | some ']' :: s => ([item], some s)
      | _ => ([item], none)

/-- One member or more up to the closing brace, and what follows it. -/
def readMembers : (fuel : Nat) → List Symbol → List (Option String × Tree) × Option (List Symbol)
  | 0, _ => ([], none)
  | fuel + 1, s =>
    match skipSpace s with
    | some '"' :: s =>
      match string? s with
      | none => ([], none)
      | some (name, s) =>
        match skipSpace s with
        | some ':' :: s =>
          match readValue fuel s with
          | (value, none) => ([(name, value)], none)
          | (value, some s) =>
            match skipSpace s with
            | some ',' :: s =>
              let (members, rest) := readMembers fuel s
              ((name, value) :: members, rest)
            | some '\x7d' :: s => ([(name, value)], some s)
            | _ => ([(name, value)], none)
        | _ => ([(name, .broken)], none)
    | _ => ([], none)
end

/-! ## What a tree denotes -/

mutual
/-- Whether a tree was read to its end. -/
def intact : Tree → Bool
  | .broken => false
  | .array items closed => itemsIntact items && closed
  | .object members closed => membersIntact members && closed
  | _ => true

def itemsIntact : List Tree → Bool
  | [] => true
  | item :: items => item.intact && itemsIntact items

/-- Whether the values of all members were read to their end. -/
def membersIntact : List (Option String × Tree) → Bool
  | [] => true
  | (_, value) :: members => value.intact && membersIntact members
end

mutual
/-- The value that a tree denotes, if it is whole and opens at most `room` containers at once. Of
members with the same name the last one counts, at the place of the first. -/
def toJson? (room : Nat) : Tree → Option Json
  | .broken => none
  | .null => some .null
  | .bool b => some (.bool b)
  | .number n => n.map .number
  | .string s => s.map .string
  | .array items closed =>
    match room with
    | 0 => none
    | room + 1 => if closed then (itemsToJson? room items).map .array else none
  | .object members closed =>
    match room with
    | 0 => none
    | room + 1 =>
      if closed then (membersToJson? room members).map fun ms => .object (Assoc.ofEntries ms)
      else none

/-- The values of the items. -/
def itemsToJson? (room : Nat) : List Tree → Option (List Json)
  | [] => some []
  | item :: items =>
    match item.toJson? room, itemsToJson? room items with
    | some value, some values => some (value :: values)
    | _, _ => none

/-- The names and values of the members. -/
def membersToJson? (room : Nat) : List (Option String × Tree) → Option (List (String × Json))
  | [] => some []
  | (name, tree) :: members =>
    match name, tree.toJson? room, membersToJson? room members with
    | some name, some value, some rest => some ((name, value) :: rest)
    | _, _, _ => none
end

end Tree

/-! ## Whole texts -/

/-- The greatest number of arrays and objects that may be open at once in a text. -/
def maxDepth : Nat := 127

/-- A text as a tree, with whether only white space follows it. -/
structure Document where
  tree : Tree
  complete : Bool
deriving Repr, Inhabited

/-- Read a text. A step consumes a symbol or hands it to a step that does, so twice the length of
the text is more than is needed. -/
def Document.read (s : List Symbol) : Document :=
  match Tree.readValue (2 * s.length + 2) s with
  | (tree, none) => ⟨tree, false⟩
  | (tree, some rest) => ⟨tree, (Tree.skipSpace rest).isEmpty⟩

/-- The value of a text, if the text is well-formed. -/
def Json.ofSymbols? (s : List Symbol) : Option Json :=
  let document := Document.read s
  if document.complete then document.tree.toJson? maxDepth else none

/-- The value of a text, if the text is well-formed. -/
def Json.parse? (text : String) : Option Json :=
  Json.ofSymbols? (Symbol.ofString text)

end DocStore
