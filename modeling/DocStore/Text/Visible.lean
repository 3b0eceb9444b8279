-- SUMMARY: What is left of a text without the control sequences of terminals.
import DocStore.Text.Symbol

/-!
# Visible text

A word that a person typed can hold sequences that a terminal takes for commands: to colour what
follows, to set a title, to move the cursor. A message that repeats the word leaves them out,
together with all control characters but blanks and line ends.

The text is read byte by byte. A sequence starts with an escape character, and its second character
says how it ends. The bytes inside a character of several bytes are always shown: one inside a
sequence ends it, and what is left of its character is shown as a broken one.
-/

namespace DocStore

/-- Where in a control sequence a text is. -/
inductive ControlState where
  /-- In none. -/
  | ground
  /-- After the escape character. -/
  | escape
  /-- In a sequence that one more letter ends. -/
  | intermediate
  /-- In a sequence with parameters, which a letter ends. -/
  | parameters
  /-- In a title, which the bell ends. -/
  | title
  /-- In a text for the terminal, which only another sequence ends. -/
  | message
deriving DecidableEq, Repr

namespace ControlState

/-- The state after a byte that is not shown. -/
def next (s : ControlState) (b : UInt8) : ControlState :=
  if b == 0x1B then .escape
  else if b == 0x18 || b == 0x1A then .ground
  else
    match s with
    | .ground => .ground
    | .escape =>
      if b < 0x20 || 0x7F ≤ b then .escape
      else if b < 0x30 then .intermediate
      else if b == 0x5B then .parameters
      else if b == 0x5D then .title
      else if b == 0x50 || b == 0x58 || b == 0x5E || b == 0x5F then .message
      else .ground
    | .intermediate => if 0x30 ≤ b && b < 0x7F then .ground else .intermediate
    | .parameters => if 0x40 ≤ b && b < 0x7F then .ground else .parameters
    | .title => if b == 0x07 then .ground else .title
    | .message => .message

/-- Whether a byte is shown. Blanks and line ends are shown where control characters have an effect,
and the later bytes of a character everywhere. -/
def shows (s : ControlState) (b : UInt8) : Bool :=
  let inner := 0x80 ≤ b && b < 0xC0
  let blank := b == 0x09 || b == 0x0A || b == 0x0C || b == 0x0D
  match s with
  | .ground => inner || blank || (0x20 ≤ b && b != 0x7F)
  | .title => inner
  | .message => inner
  | _ => inner || blank

end ControlState

/-- The bytes that are shown, after those that led to a state. -/
def visibleBytes : ControlState → List UInt8 → List UInt8
  | _, [] => []
  | s, b :: bytes =>
    if s.shows b then b :: visibleBytes .ground bytes else visibleBytes (s.next b) bytes

/-- A text without control sequences and control characters. -/
def visible (text : String) : String :=
  lossyText ⟨(visibleBytes .ground text.toUTF8.toList).toArray⟩

end DocStore
