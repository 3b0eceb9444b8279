-- SUMMARY: White space of the Unicode standard: trimming a text and cutting it into words.

/-!
# White space

The characters with the Unicode property White_Space, and the two operations on texts that go by
it: `trim`, which takes white space off both ends, and `words`, the parts between it. Core's
`Char.isWhitespace` knows only four of these characters, so it is not used where a user's text can
hold any character.
-/

namespace DocStore

/-- Whether a character is white space in the sense of Unicode. -/
def isBlank (c : Char) : Bool :=
  let n := c.toNat
  (0x9 ≤ n && n ≤ 0xD) || n == 0x20 || n == 0x85 || n == 0xA0 || n == 0x1680 ||
  (0x2000 ≤ n && n ≤ 0x200A) || n == 0x2028 || n == 0x2029 || n == 0x202F || n == 0x205F ||
  n == 0x3000

def trimStart (cs : List Char) : List Char :=
  cs.dropWhile isBlank

def trimEnd (cs : List Char) : List Char :=
  (cs.reverse.dropWhile isBlank).reverse

def trim (cs : List Char) : List Char :=
  trimEnd (trimStart cs)

/-- The non-empty parts between white space; `word` is the part being read. -/
def wordsFrom (word : List Char) : List Char → List (List Char)
  | [] => if word.isEmpty then [] else [word.reverse]
  | c :: cs =>
    if isBlank c then
      if word.isEmpty then wordsFrom [] cs else word.reverse :: wordsFrom [] cs
    else wordsFrom (c :: word) cs

/-- The words of a text: its non-empty parts between white space. -/
def words (cs : List Char) : List (List Char) :=
  wordsFrom [] cs

end DocStore
