-- SUMMARY: Configuration texts as tables of named items.
import DocStore.Assoc
import DocStore.Toml.Token

/-!
# Tables

A configuration text is a table of items by name. Names come with values, in headers, or as the
parts of a dotted name, and each way of naming a table decides how it may be added to later: a
header may complete a table that earlier headers only passed through, a dotted name only a table
that dotted names made, and a table written inside a value is complete.

A configuration of the store uses texts and flags. Other values are recognised, and a text with a
malformed one is refused, but their content is not kept.
-/

namespace DocStore.Toml

/-- A value, as far as a configuration uses it. -/
inductive Value where
  | text (s : String)
  | flag (b : Bool)
  /-- A number, a moment, a list or a table inside a value. -/
  | other
deriving DecidableEq, Repr

/-- What stands under a name. -/
inductive Item where
  | value (v : Value)
  /-- A table, whether it was only passed through so far, and whether dotted names made it. -/
  | table (implied dotted : Bool) (items : List (String × Item))
  /-- The tables of a repeated header, the last one first. -/
  | tables (last : List (String × Item)) (earlier : List (List (String × Item)))
deriving Repr

/-- The items of a table, by name. -/
abbrev Items := List (String × Item)

/-! ## Adding items -/

/-- Add an item under the last part of a name. `plain` says that the name has no dots: a plain name
goes into a table that dotted names did not make, a dotted one into a table that they made. -/
def addItem (plain : Bool) (name : String) (item : Item) :
    (path : List String) → (dotted : Bool) → Items → Option Items
  | [], dotted, items =>
    if dotted == plain || Assoc.contains name items then none else some (items ++ [(name, item)])
  | part :: path, _, items =>
    match Assoc.get? part items with
    | none => (addItem plain name item path true []).map fun inner =>
        items ++ [(part, .table true true inner)]
    | some (.table implied dotted inner) =>
      if implied then (addItem plain name item path dotted inner).map fun inner =>
        Assoc.set part (.table implied dotted inner) items
      else none
    | some (.tables last earlier) =>
      (addItem plain name item path false last).map fun last =>
        Assoc.set part (.tables last earlier) items
    | some (.value _) => none

/-- Change the table that a header names, or the last one of a repeated header. -/
def changeAt (change : Items → Option Items) : (header : List String) → Items → Option Items
  | [], items => change items
  | part :: header, items =>
    match Assoc.get? part items with
    | some (.table implied dotted inner) => (changeAt change header inner).map fun inner =>
        Assoc.set part (.table implied dotted inner) items
    | some (.tables last earlier) => (changeAt change header last).map fun last =>
        Assoc.set part (.tables last earlier) items
    | _ => none

/-- Open the table of a header. -/
def openTable (name : String) (items : Items) : Option Items :=
  match Assoc.get? name items with
  | none => some (items ++ [(name, .table false false [])])
  | some (.table true false inner) => some (Assoc.set name (.table false false inner) items)
  | some _ => none

/-- Open one more table of a repeated header. -/
def openRepeated (name : String) (items : Items) : Option Items :=
  match Assoc.get? name items with
  | none => some (items ++ [(name, .tables [] [])])
  | some (.tables last earlier) => some (Assoc.set name (.tables [] (last :: earlier)) items)
  | some _ => none

/-- Open a table by `open`, below the tables that the parts of a header before the last one name. -/
def openBelow (open? : Items → Option Items) : (path : List String) → Items → Option Items
  | [], items => open? items
  | part :: path, items =>
    match Assoc.get? part items with
    | none => (openBelow open? path []).map fun inner => items ++ [(part, .table true false inner)]
    | some (.table implied dotted inner) => (openBelow open? path inner).map fun inner =>
        Assoc.set part (.table implied dotted inner) items
    | some (.tables last earlier) => (openBelow open? path last).map fun last =>
        Assoc.set part (.tables last earlier) items
    | some (.value _) => none

/-! ## Names -/

/-- Whether a character may stand in an unquoted name. -/
def isBareChar (c : Char) : Bool :=
  c.isAlphanum || c == '_' || c == '-'

/-- One part of a name. -/
def namePart? (cs : List Char) : Option (String × List Char) :=
  match cs with
  | '"' :: _ => (lineString? cs).map fun (s, rest) => (String.ofList s, rest)
  | '\'' :: _ => (lineString? cs).map fun (s, rest) => (String.ofList s, rest)
  | _ =>
    match cs.takeWhile isBareChar with
    | [] => none
    | part => some (String.ofList part, cs.dropWhile isBareChar)

/-- The greatest number of parts of a name, and of lists and tables that may be open at once inside
a value. -/
def maxNesting : Nat := 79

/-- The parts of a name, at most `room` of them, with dots between them and white space around
each. -/
def nameParts? : (room : Nat) → List Char → Option (List String × List Char)
  | 0, _ => none
  | room + 1, cs => do
    let (part, rest) ← namePart? (skipSpace cs)
    match skipSpace rest with
    | '.' :: rest =>
      let (parts, rest) ← nameParts? room rest
      return (part :: parts, rest)
    | rest => return ([part], rest)

/-- A name, as its parts. -/
def name? (cs : List Char) : Option (List String × List Char) :=
  nameParts? maxNesting cs

/-! ## Values -/

/-- An unquoted value: a word for a flag, a number or a moment. A date may be followed by a space
and a time. -/
def wordValue? (cs : List Char) : Option (Value × List Char) :=
  let word := cs.takeWhile isWordChar
  let rest := cs.dropWhile isWordChar
  if word == "true".toList then some (.flag true, rest)
  else if word == "false".toList then some (.flag false, rest)
  else if isInteger word || isFloat word then some (.other, rest)
  else if isMoment word then
    match rest with
    | ' ' :: more =>
      if isDate word && isClock true (more.takeWhile isWordChar) then
        some (.other, more.dropWhile isWordChar)
      else some (.other, rest)
    | _ => some (.other, rest)
  else none

mutual
/-- A value that may open `room` lists and tables at once. -/
def value? : (fuel room : Nat) → List Char → Option (Value × List Char)
  | 0, _, _ => none
  | fuel + 1, room, cs =>
    match cs with
    | '"' :: _ => (string? cs).map fun (s, rest) => (.text (String.ofList s), rest)
    | '\'' :: _ => (string? cs).map fun (s, rest) => (.text (String.ofList s), rest)
    | '[' :: rest =>
      if room = 0 then none else (elements? fuel (room - 1) rest).map fun rest => (.other, rest)
    | '\x7b' :: rest =>
      if room = 0 then none
      else
        match skipSpace rest with
        | '\x7d' :: rest => some (.other, rest)
        | rest => (pairs? fuel (room - 1) [] rest).map fun rest => (.other, rest)
    | cs => wordValue? cs

/-- What follows the elements of a list, whose opening bracket is behind. -/
def elements? : (fuel room : Nat) → List Char → Option (List Char)
  | 0, _, _ => none
  | fuel + 1, room, cs =>
    match skipLines cs.length cs with
    | ']' :: rest => some rest
    | cs =>
      match value? fuel room cs with
      | none => none
      | some (_, rest) =>
        match skipLines rest.length rest with
        | ',' :: rest => elements? fuel room rest
        | ']' :: rest => some rest
        | _ => none

/-- What follows the pairs of a table inside a value, of which `items` are behind. -/
def pairs? : (fuel room : Nat) → Items → List Char → Option (List Char)
  | 0, _, _, _ => none
  | fuel + 1, room, items, cs =>
    match name? cs with
    | none => none
    | some (parts, rest) =>
      match rest with
      | '=' :: rest =>
        match value? fuel room (skipSpace rest) with
        | none => none
        | some (v, rest) =>
          match addItem (parts.length == 1) (parts.getLast?.getD "") (.value v) parts.dropLast false items with
          | none => none
          | some items =>
            match skipSpace rest with
            | ',' :: rest => pairs? fuel room items rest
            | '\x7d' :: rest => some rest
            | _ => none
      | _ => none
end

/-! ## Whole texts -/

/-- A text as far as it is read: the items of the whole, and the header whose table is open. -/
structure Draft where
  items : Items
  header : List String

/-- A line with a name and a value. -/
def pairLine? (draft : Draft) (cs : List Char) : Option (Draft × List Char) := do
  let (parts, rest) ← name? cs
  let rest ← after? '=' rest
  let (v, rest) ← value? (rest.length + 2) maxNesting (skipSpace rest)
  let rest ← lineEnd? rest
  let items ← changeAt
    (addItem (parts.length == 1) (parts.getLast?.getD "") (.value v) parts.dropLast false)
    draft.header draft.items
  return ({ draft with items := items }, rest)

/-- A line with a header, whose opening bracket is behind. -/
def headerLine? (draft : Draft) (cs : List Char) : Option (Draft × List Char) :=
  match cs with
  | '[' :: cs => do
    let (parts, rest) ← name? cs
    let rest ← after? ']' rest
    let rest ← after? ']' rest
    let rest ← lineEnd? rest
    let items ← openBelow (openRepeated (parts.getLast?.getD "")) parts.dropLast draft.items
    return (⟨items, parts⟩, rest)
  | cs => do
    let (parts, rest) ← name? cs
    let rest ← after? ']' rest
    let rest ← lineEnd? rest
    let items ← openBelow (openTable (parts.getLast?.getD "")) parts.dropLast draft.items
    return (⟨items, parts⟩, rest)

/-- The items of a text, after what is read of it. Each step leaves a line behind. -/
def lines? : (fuel : Nat) → Draft → List Char → Option Items
  | 0, _, _ => none
  | fuel + 1, draft, cs =>
    match skipSpace cs with
    | [] => some draft.items
    | '[' :: rest =>
      match headerLine? draft rest with
      | some (draft, rest) => lines? fuel draft rest
      | none => none
    | cs =>
      match lineEnd? cs with
      | some rest => lines? fuel draft rest
      | none =>
        match pairLine? draft cs with
        | some (draft, rest) => lines? fuel draft rest
        | none => none

/-- The items of a text. A mark of the byte order in front does not count. -/
def parse? (text : String) : Option Items :=
  let cs := text.toList
  let cs := if cs.head? == some '\uFEFF' then cs.drop 1 else cs
  lines? (cs.length + 1) ⟨[], []⟩ cs

/-! ## Writing strings -/

/-- A character as it stands in a basic string. -/
def escapeChar (multiline : Bool) (c : Char) : List Char :=
  if c == '\x08' then ['\\', 'b']
  else if c == '\t' then ['\\', 't']
  else if c == '\n' then if multiline then ['\n'] else ['\\', 'n']
  else if c == '\x0c' then ['\\', 'f']
  else if c == '\r' then ['\\', 'r']
  else if c == '\\' then ['\\', '\\']
  else if c.toNat < 0x20 || c.toNat == 0x7F then
    ['\\', 'u', '0', '0', Nat.digitChar (c.toNat / 16) |>.toUpper, Nat.digitChar (c.toNat % 16) |>.toUpper]
  else [c]

/-- The characters of a basic string. After `allowed` quotes in a row the next one is escaped, and
the count starts again. -/
def basicChars (multiline : Bool) (allowed : Nat) : (quotes : Nat) → List Char → List Char
  | _, [] => []
  | quotes, c :: cs =>
    if c == '"' then
      if quotes < allowed then c :: basicChars multiline allowed (quotes + 1) cs
      else '\\' :: c :: basicChars multiline allowed 0 cs
    else escapeChar multiline c ++ basicChars multiline allowed 0 cs

def longestRun (c : Char) : (run : Nat) → List Char → Nat
  | run, [] => run
  | run, d :: cs => if c == d then longestRun c (run + 1) cs else max run (longestRun c 0 cs)

/-- A string as it is written: in the plainest form that needs no escapes, if there is one. -/
def stringChars (s : String) : List Char :=
  let cs := s.toList
  let controls := cs.any fun c => c != '\t' && c != '\n' && (c.toNat < 0x20 || c.toNat == 0x7F)
  let backslash := cs.contains '\\'
  let newline := cs.contains '\n'
  let singles := longestRun '\'' 0 cs
  let doubles := longestRun '"' 0 cs
  let lineBreak := if newline then ['\n'] else []
  if !controls && !backslash && doubles == 0 && !newline then
    '"' :: basicChars false 0 0 cs ++ ['"']
  else if !controls && singles == 0 && !newline then
    '\'' :: cs ++ ['\'']
  else if !controls && !backslash && doubles ≤ 2 then
    "\"\"\"".toList ++ lineBreak ++ basicChars true 2 0 cs ++ "\"\"\"".toList
  else if !controls && singles ≤ 2 then
    "'''".toList ++ lineBreak ++ cs ++ "'''".toList
  else if newline then
    "\"\"\"".toList ++ lineBreak ++ basicChars true 2 0 cs ++ "\"\"\"".toList
  else '"' :: basicChars false 0 0 cs ++ ['"']

end DocStore.Toml
