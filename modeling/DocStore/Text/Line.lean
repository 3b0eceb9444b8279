-- SUMMARY: Bytes as lines of text.

/-!
# Lines

A stream of bytes is a sequence of lines. Each line ends before a line feed, and what follows the
last line feed is a line too, unless nothing does. A line whose bytes are not UTF-8 is `none`.
-/

namespace DocStore

def lineFeed : UInt8 := 10

/-- The lines of bytes; `line` is the line being read, last byte first. -/
def byteLinesFrom (line : List UInt8) : List UInt8 → List (List UInt8)
  | [] => if line.isEmpty then [] else [line.reverse]
  | b :: bs => if b == lineFeed then line.reverse :: byteLinesFrom [] bs else byteLinesFrom (b :: line) bs

def byteLines (bytes : List UInt8) : List (List UInt8) :=
  byteLinesFrom [] bytes

/-- The text of a line, if it is UTF-8. -/
def lineText? (line : List UInt8) : Option String :=
  String.fromUTF8? ⟨line.toArray⟩

def linesOf (bytes : ByteArray) : List (Option String) :=
  (byteLines bytes.toList).map lineText?

end DocStore
