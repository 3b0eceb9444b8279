-- SUMMARY: Characters and strings quoted for a message, with what cannot be seen written by number.
import DocStore.Text.Shapeless

/-!
# Quoted characters and strings

A message that points at a character or a string puts it in quotes. Inside, the usual control
characters, the backslash and the closing quote are written with a backslash, and a character
without a shape of its own by its code point. Everything else stands for itself.
-/

namespace DocStore

/-- The code point of a character in lower-case hexadecimal digits, in braces. -/
def codePointEscape (c : Char) : List Char :=
  "\\u\x7b".toList ++ Nat.toDigits 16 c.toNat ++ ['\x7d']

/-- A character as it stands between two of the marks `quote`. -/
def escapeFor (quote c : Char) : List Char :=
  if c == '\x00' then "\\0".toList
  else if c == '\t' then "\\t".toList
  else if c == '\r' then "\\r".toList
  else if c == '\n' then "\\n".toList
  else if c == '\\' then "\\\\".toList
  else if c == quote then ['\\', quote]
  else if isShapeless c then codePointEscape c
  else [c]

def quoteChar (c : Char) : String :=
  String.ofList ('\'' :: escapeFor '\'' c ++ ['\''])

def quoteString (s : String) : String :=
  String.ofList ('"' :: s.toList.flatMap (escapeFor '"') ++ ['"'])

end DocStore
