-- SUMMARY: The text of a value, compact or indented.
import DocStore.Json.Basic

/-!
# The text of a value

A value has two written forms that differ in white space only: the compact one has none, and the
indented one puts each item and each member on a line of its own, two spaces deeper than its
container, and a space after each colon. One printer writes both, with the style as an argument.
-/

namespace DocStore

/-- How the parts of a container are laid out. -/
inductive Style where
  | compact
  | indented
deriving DecidableEq, Repr, Inhabited

namespace Style

/-- What stands before a part of a container at the given level. -/
def lineBreak : Style → (level : Nat) → List Char
  | .compact, _ => []
  | .indented, level => '\n' :: List.replicate (2 * level) ' '

/-- What stands between the name and the value of a member. -/
def colon : Style → List Char
  | .compact => [':']
  | .indented => [':', ' ']

/-- The style of a setting "indent the text". -/
def ofIndent (indent : Bool) : Style :=
  if indent then .indented else .compact

end Style

/-! ## Strings -/

/-- The control character `c` as four hexadecimal digits. -/
def controlEscape (c : Char) : List Char :=
  ['\\', 'u', '0', '0', Nat.digitChar (c.toNat / 16), Nat.digitChar (c.toNat % 16)]

/-- A character as it stands in a written string. -/
def escapeChar (c : Char) : List Char :=
  if c == '"' then ['\\', '"']
  else if c == '\\' then ['\\', '\\']
  else if c == '\x08' then ['\\', 'b']
  else if c == '\x0c' then ['\\', 'f']
  else if c == '\n' then ['\\', 'n']
  else if c == '\r' then ['\\', 'r']
  else if c == '\t' then ['\\', 't']
  else if c.toNat < 0x20 then controlEscape c
  else [c]

/-- A string as it is written: in quotes, with what cannot stand for itself escaped. -/
def stringChars (s : String) : List Char :=
  '"' :: (s.toList.flatMap escapeChar ++ ['"'])

/-! ## Values -/

mutual
/-- A value as it is written at the given level of nesting. -/
def Json.chars (style : Style) (level : Nat) : Json → List Char
  | .null => ['n', 'u', 'l', 'l']
  | .bool true => ['t', 'r', 'u', 'e']
  | .bool false => ['f', 'a', 'l', 's', 'e']
  | .number n => n.chars
  | .string s => stringChars s
  | .array [] => ['[', ']']
  | .array (item :: items) =>
    '[' :: (style.lineBreak (level + 1) ++ item.chars style (level + 1) ++
      moreItemsChars style (level + 1) items ++ style.lineBreak level ++ [']'])
  | .object [] => ['\x7b', '\x7d']
  | .object ((name, value) :: members) =>
    '\x7b' :: (style.lineBreak (level + 1) ++ stringChars name ++ style.colon ++
      value.chars style (level + 1) ++ moreMembersChars style (level + 1) members ++
      style.lineBreak level ++ ['\x7d'])

/-- The items after the first one, each with the comma before it. -/
def moreItemsChars (style : Style) (level : Nat) : List Json → List Char
  | [] => []
  | item :: items =>
    ',' :: (style.lineBreak level ++ item.chars style level ++ moreItemsChars style level items)

/-- The members after the first one, each with the comma before it. -/
def moreMembersChars (style : Style) (level : Nat) : List (String × Json) → List Char
  | [] => []
  | (name, value) :: members =>
    ',' :: (style.lineBreak level ++ stringChars name ++ style.colon ++ value.chars style level ++
      moreMembersChars style level members)
end

def Json.text (style : Style) (value : Json) : String :=
  String.ofList (value.chars style 0)

def Json.compact (value : Json) : String :=
  value.text .compact

/-- The text of a value on indented lines. -/
def Json.pretty (value : Json) : String :=
  value.text .indented

end DocStore
