-- SUMMARY: Cutting a command line into words by blanks, quotes and backslashes.

/-!
# Words of a command line

Blanks divide a line into words. Single quotes take everything between them as it is. Inside double
quotes a backslash takes away the meaning of the few characters that have one there, and stays in
front of any other. Outside quotes it takes the next character as it is. A line end after a
backslash vanishes, but a word has begun. A `#` where a word could begin starts a comment to the end
of the line. A quote that is not closed and a backslash at the end are errors.
-/

namespace DocStore.Shell

/-- Where in a line the cut stands. Words are collected back to front. -/
inductive WordMode where
  /-- Between words. -/
  | between
  /-- In a comment. -/
  | comment
  /-- In a word, outside quotes. -/
  | bare (word : List Char)
  /-- In single quotes. -/
  | single (word : List Char)
  /-- In double quotes. -/
  | double (word : List Char)
deriving DecidableEq, Repr

def isDivider (c : Char) : Bool :=
  c == ' ' || c == '\t' || c == '\n'

/-- Whether a backslash in double quotes takes away the meaning of a character. -/
def isEscapable (c : Char) : Bool :=
  c == '$' || c == '`' || c == '"' || c == '\\'

/-- The word so far, if the cut stands outside quotes. -/
def WordMode.word : WordMode → List Char
  | .bare word => word
  | _ => []

/-- The words of the rest of a line. -/
def wordsFrom : WordMode → List Char → Option (List (List Char))
  | .between, [] => some []
  | .comment, [] => some []
  | .bare word, [] => some [word.reverse]
  | .single _, [] => none
  | .double _, [] => none
  | .comment, c :: cs => wordsFrom (if c == '\n' then .between else .comment) cs
  | .single word, c :: cs => wordsFrom (if c == '\'' then .bare word else .single (c :: word)) cs
  | .double _, ['\\'] => none
  | .double word, '\\' :: c :: cs =>
    if c == '\n' then wordsFrom (.double word) cs
    else if isEscapable c then wordsFrom (.double (c :: word)) cs
    else wordsFrom (.double (c :: '\\' :: word)) cs
  | .double word, c :: cs => wordsFrom (if c == '"' then .bare word else .double (c :: word)) cs
  | _, ['\\'] => none
  | mode, '\\' :: c :: cs =>
    wordsFrom (.bare (if c == '\n' then mode.word else c :: mode.word)) cs
  | .between, c :: cs =>
    if isDivider c then wordsFrom .between cs
    else if c == '#' then wordsFrom .comment cs
    else if c == '"' then wordsFrom (.double []) cs
    else if c == '\'' then wordsFrom (.single []) cs
    else wordsFrom (.bare [c]) cs
  | .bare word, c :: cs =>
    if isDivider c then (wordsFrom .between cs).map (word.reverse :: ·)
    else if c == '"' then wordsFrom (.double word) cs
    else if c == '\'' then wordsFrom (.single word) cs
    else wordsFrom (.bare (c :: word)) cs

/-- The words of a line, unless a quote is not closed or a backslash ends it. -/
def splitWords? (line : String) : Option (List String) :=
  (wordsFrom .between line.toList).map fun words => words.map String.ofList

end DocStore.Shell
