-- SUMMARY: Bytes as a sequence of symbols: the characters they encode, and the bytes that encode none.

/-!
# Symbols

A text comes either as a `String` or as the bytes of a file, and bytes need not be UTF-8. Readers
take a list of symbols, where a symbol is a character or, for a byte that is part of no encoded
character, `none`. A reader that reaches such a byte can then refuse it where it stands, after it
has reported any earlier problem, instead of refusing the whole text before it starts.

`lossyText` is the form in which bytes are shown to a person: what is not UTF-8 is replaced by the
replacement character.
-/

namespace DocStore

/-- A symbol of a text: a character, or `none` for a byte that is part of no UTF-8 character. -/
abbrev Symbol := Option Char

namespace Symbol

def ofString (s : String) : List Symbol :=
  s.toList.map some

/-- The symbols of `bytes` from position `i` on. Every symbol takes at least one byte, so the
number of bytes bounds the number of steps. -/
def ofBytesFrom (bytes : ByteArray) : (steps : Nat) → (i : Nat) → List Symbol
  | 0, _ => []
  | steps + 1, i =>
    if i < bytes.size then
      match bytes.utf8DecodeChar? i with
      | some c => some c :: ofBytesFrom bytes steps (i + c.utf8Size)
      | none => none :: ofBytesFrom bytes steps (i + 1)
    else []

def ofBytes (bytes : ByteArray) : List Symbol :=
  ofBytesFrom bytes bytes.size 0

end Symbol

/-! ## Bytes shown as text -/

/-- The character that stands for bytes that are not UTF-8. -/
def replacementChar : Char := '\uFFFD'

private def isContinuation (b : UInt8) : Bool :=
  0x80 ≤ b && b ≤ 0xBF

/-- Whether `second` may follow the lead byte `first` in a character of three or four bytes. -/
private def followsLead (first second : UInt8) : Bool :=
  if first == 0xE0 then 0xA0 ≤ second && second ≤ 0xBF
  else if first == 0xED then 0x80 ≤ second && second ≤ 0x9F
  else if first == 0xF0 then 0x90 ≤ second && second ≤ 0xBF
  else if first == 0xF4 then 0x80 ≤ second && second ≤ 0x8F
  else isContinuation second

/-- The number of bytes at position `i`, where no character starts, that one replacement character
stands for: the longest part that could still have become a character, and at least one byte. -/
def brokenLength (bytes : ByteArray) (i : Nat) : Nat :=
  match bytes[i]?, bytes[i + 1]? with
  | some first, some second =>
    if 0xE0 ≤ first && first ≤ 0xF4 && followsLead first second then
      match bytes[i + 2]? with
      | some third => if 0xF0 ≤ first && isContinuation third then 3 else 2
      | none => 2
    else 1
  | _, _ => 1

/-- The characters shown for `bytes` from position `i` on. -/
def lossyCharsFrom (bytes : ByteArray) : (steps : Nat) → (i : Nat) → List Char
  | 0, _ => []
  | steps + 1, i =>
    if i < bytes.size then
      match bytes.utf8DecodeChar? i with
      | some c => c :: lossyCharsFrom bytes steps (i + c.utf8Size)
      | none => replacementChar :: lossyCharsFrom bytes steps (i + brokenLength bytes i)
    else []

/-- The text shown for `bytes`: each broken part becomes one replacement character. -/
def lossyText (bytes : ByteArray) : String :=
  String.ofList (lossyCharsFrom bytes bytes.size 0)

end DocStore
