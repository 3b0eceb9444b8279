-- SUMMARY: The smallest parts of a configuration text: white space, comments, strings, and the spelling of numbers and moments.
import DocStore.Decimal.Nearest
import DocStore.Json.Tree

/-!
# Parts of a configuration text

Configuration files are TOML. This module has the parts below keys and values: white space, line
ends, comments, the four kinds of strings, and the spellings of numbers and moments of time. A
function whose name ends in `?` reads its part from the front of the characters and gives what
follows it, or nothing if the part does not stand there.
-/

namespace DocStore.Toml

/-! ## White space and line ends -/

def isSpace (c : Char) : Bool :=
  c == ' ' || c == '\t'

def skipSpace (cs : List Char) : List Char :=
  cs.dropWhile isSpace

/-- The characters after a line end. -/
def newline? : List Char → Option (List Char)
  | '\n' :: rest => some rest
  | '\r' :: '\n' :: rest => some rest
  | _ => none

/-- The characters after the white space and the line ends in front. -/
def skipBlank : List Char → List Char
  | '\r' :: '\n' :: rest => skipBlank rest
  | c :: rest => if isSpace c || c == '\n' then skipBlank rest else c :: rest
  | [] => []

/-- Whether a character may stand in a comment: no control character but the tab. -/
def isCommentChar (c : Char) : Bool :=
  c == '\t' || (0x20 ≤ c.toNat && c.toNat != 0x7F)

/-- The characters after a comment, if there is one. -/
def skipComment : List Char → List Char
  | '#' :: rest => rest.dropWhile isCommentChar
  | rest => rest

/-- The characters after the end of a line: white space, a comment, and a line end or the end of
the text. -/
def lineEnd? (cs : List Char) : Option (List Char) :=
  match skipComment (skipSpace cs) with
  | [] => some []
  | rest => newline? rest

/-- The characters after white space, comments and line ends. Each step leaves a line behind. -/
def skipLines : (fuel : Nat) → List Char → List Char
  | 0, cs => cs
  | fuel + 1, cs =>
    match newline? (skipComment (skipSpace cs)) with
    | some rest => skipLines fuel rest
    | none => skipSpace cs

/-! ## Strings -/

def isLiteralChar (c : Char) : Bool :=
  isCommentChar c && c != '\''

def isBasicChar (c : Char) : Bool :=
  isCommentChar c && c != '"' && c != '\\'

/-- The character with a number given in hexadecimal digits. -/
def scalar? (digits : List Char) : Option Char := do
  let values ← digits.mapM Tree.hexDigit?
  let n := values.foldl (fun n v => n * 16 + v) 0
  if n < 0xD800 ∨ (0xDFFF < n ∧ n < 0x110000) then some (Char.ofNat n) else none

/-- The character that the characters after a backslash stand for. -/
def escape? : List Char → Option (Char × List Char)
  | 'b' :: rest => some ('\x08', rest)
  | 't' :: rest => some ('\t', rest)
  | 'n' :: rest => some ('\n', rest)
  | 'f' :: rest => some ('\x0c', rest)
  | 'r' :: rest => some ('\r', rest)
  | '"' :: rest => some ('"', rest)
  | '\\' :: rest => some ('\\', rest)
  | 'u' :: rest =>
    if rest.length < 4 then none else (scalar? (rest.take 4)).map fun c => (c, rest.drop 4)
  | 'U' :: rest =>
    if rest.length < 8 then none else (scalar? (rest.take 8)).map fun c => (c, rest.drop 8)
  | _ => none

/-- The rest of a basic string on one line, after its opening quote. -/
def basic? : (fuel : Nat) → List Char → Option (List Char × List Char)
  | 0, _ => none
  | _, [] => none
  | fuel + 1, c :: rest =>
    if c == '"' then some ([], rest)
    else if c == '\\' then do
      let (c, rest) ← escape? rest
      let (cs, rest) ← basic? fuel rest
      return (c :: cs, rest)
    else if isBasicChar c then do
      let (cs, rest) ← basic? fuel rest
      return (c :: cs, rest)
    else none

/-- The rest of a literal string on one line, after its opening quote. -/
def literal? : List Char → Option (List Char × List Char)
  | [] => none
  | c :: rest =>
    if c == '\'' then some ([], rest)
    else if isLiteralChar c then (literal? rest).map fun (cs, rest) => (c :: cs, rest)
    else none

/-- Up to two more quotes after the three that close a string; they belong to the string. -/
def closingQuotes (quote : Char) : List Char → List Char × List Char
  | a :: b :: rest =>
    if a == quote && b == quote then ([quote, quote], rest)
    else if a == quote then ([quote], b :: rest)
    else ([], a :: b :: rest)
  | [a] => if a == quote then ([quote], []) else ([], [a])
  | [] => ([], [])

/-- Whether three quotes stand in front. -/
def startsTriple (quote : Char) (cs : List Char) : Bool :=
  cs.take 3 == [quote, quote, quote]

/-- The rest of a string over several lines, after its opening quotes. A backslash at the end of a
line of a basic string takes away the line end and all white space and line ends after it. -/
def multiline? (quote : Char) : (fuel : Nat) → List Char → Option (List Char × List Char)
  | 0, _ => none
  | _, [] => none
  | fuel + 1, c :: rest =>
    if startsTriple quote (c :: rest) then
      some (closingQuotes quote (rest.drop 2))
    else
      match newline? (c :: rest) with
      | some rest => (multiline? quote fuel rest).map fun (cs, rest) => ('\n' :: cs, rest)
      | none =>
        if quote == '"' && c == '\\' then
          match newline? (skipSpace rest) with
          | some rest => multiline? quote fuel (skipBlank rest)
          | none => do
            let (c, rest) ← escape? rest
            let (cs, rest) ← multiline? quote fuel rest
            return (c :: cs, rest)
        else if isCommentChar c then
          (multiline? quote fuel rest).map fun (cs, rest) => (c :: cs, rest)
        else none

/-- A string on one line, with its quotes. -/
def lineString? : List Char → Option (List Char × List Char)
  | '"' :: rest => basic? (rest.length + 1) rest
  | '\'' :: rest => literal? rest
  | _ => none

/-- A string of any kind, with its quotes. A line end right after three opening quotes does not
count. -/
def string? (cs : List Char) : Option (List Char × List Char) :=
  match cs with
  | quote :: _ =>
    if (quote == '"' || quote == '\'') && startsTriple quote cs then
      let body := cs.drop 3
      let body := (newline? body).getD body
      multiline? quote (body.length + 1) body
    else lineString? cs
  | [] => none

/-! ## Numbers -/

/-- Whether characters are digits with single underscores between them. -/
def isGrouped (isDigit : Char → Bool) : List Char → Bool
  | [] => false
  | [c] => isDigit c
  | c :: '_' :: rest => isDigit c && isGrouped isDigit rest
  | c :: rest => isDigit c && isGrouped isDigit rest

/-- The characters without the underscores. -/
def ungrouped (cs : List Char) : List Char :=
  cs.filter (· != '_')

/-- The characters after a sign, and whether it is a minus. -/
def splitSign : List Char → Bool × List Char
  | '-' :: rest => (true, rest)
  | '+' :: rest => (false, rest)
  | rest => (false, rest)

/-- Whether characters are a decimal integer without a sign: a zero alone, or digits that do not
start with one. -/
def isDecimal (cs : List Char) : Bool :=
  isGrouped Char.isDigit cs && (cs == ['0'] || cs.head? != some '0')

/-- The value of digits in a base, underscores apart. -/
def digitsValue (base : Nat) (cs : List Char) : Nat :=
  (ungrouped cs).foldl (fun n c => n * base + (Tree.hexDigit? c).getD 0) 0

/-- Whether characters are an integer of 64 bits: decimal with or without a sign, or in another base
without one. -/
def isInteger (cs : List Char) : Bool :=
  let limit := Number.minIntMagnitude
  match cs with
  | '0' :: 'x' :: ds =>
    isGrouped (fun c => (Tree.hexDigit? c).isSome) ds && digitsValue 16 ds < limit
  | '0' :: 'o' :: ds => isGrouped (fun c => '0' ≤ c && c ≤ '7') ds && digitsValue 8 ds < limit
  | '0' :: 'b' :: ds => isGrouped (fun c => c == '0' || c == '1') ds && digitsValue 2 ds < limit
  | cs =>
    let (negative, ds) := splitSign cs
    isDecimal ds && digitsValue 10 ds < (if negative then limit + 1 else limit)

/-- The digits before a fraction or an exponent, those of the fraction, and the exponent with its
sign; none if a part is not well spelled, or if there is neither a fraction nor an exponent. -/
def floatParts? (cs : List Char) : Option (List Char × List Char × Int) := do
  let isMark := fun c => c == 'e' || c == 'E'
  let mantissa := cs.takeWhile (!isMark ·)
  let exponent ← match cs.dropWhile (!isMark ·) with
    | [] => some 0
    | _ :: rest =>
      let (negative, ds) := splitSign rest
      if isGrouped Char.isDigit ds then
        some (if negative then -(digitsValue 10 ds : Int) else digitsValue 10 ds)
      else none
  let whole := mantissa.takeWhile (· != '.')
  let fraction ← match mantissa.dropWhile (· != '.') with
    | [] => some []
    | _ :: ds => if isGrouped Char.isDigit ds then some (ungrouped ds) else none
  if isDecimal whole && whole.length < cs.length then some (ungrouped whole, fraction, exponent)
  else none

/-- Whether characters are a floating-point number that is not beyond the greatest double. -/
def isFloat (cs : List Char) : Bool :=
  let (negative, magnitude) := splitSign cs
  magnitude == "inf".toList || magnitude == "nan".toList ||
  (match floatParts? magnitude with
    | some (whole, fraction, exponent) =>
      let decimal : Decimal := ⟨digitsValue 10 (whole ++ fraction), exponent - fraction.length⟩
      negative || decimal.toFloat?.isSome
    | none => false)

/-! ## Moments -/

/-- A number of exactly `count` digits. -/
def fixedDigits? (count : Nat) (cs : List Char) : Option (Nat × List Char) :=
  let ds := cs.take count
  if ds.length == count && ds.all Char.isDigit then some (digitsValue 10 ds, cs.drop count) else none

def twoDigits? (least greatest : Nat) (cs : List Char) : Option (Nat × List Char) := do
  let (n, rest) ← fixedDigits? 2 cs
  if least ≤ n ∧ n ≤ greatest then some (n, rest) else none

def after? (c : Char) : List Char → Option (List Char)
  | d :: rest => if c == d then some rest else none
  | [] => none

/-- The number of days of a month. -/
def daysIn (year month : Nat) : Nat :=
  if month == 2 then
    if year % 4 == 0 && (year % 100 != 0 || year % 400 == 0) then 29 else 28
  else if month == 4 || month == 6 || month == 9 || month == 11 then 30
  else 31

/-- The characters after a date. -/
def date? (cs : List Char) : Option (List Char) := do
  let (year, cs) ← fixedDigits? 4 cs
  let cs ← after? '-' cs
  let (month, cs) ← twoDigits? 1 12 cs
  let cs ← after? '-' cs
  let (_, cs) ← twoDigits? 1 (daysIn year month) cs
  return cs

/-- The characters after a time of day. -/
def time? (cs : List Char) : Option (List Char) := do
  let (_, cs) ← twoDigits? 0 23 cs
  let cs ← after? ':' cs
  let (_, cs) ← twoDigits? 0 59 cs
  let cs ← after? ':' cs
  let (_, cs) ← twoDigits? 0 60 cs
  match cs with
  | '.' :: rest => if (rest.head?.map Char.isDigit).getD false then some (rest.dropWhile Char.isDigit) else none
  | cs => some cs

/-- The characters after a distance from universal time. -/
def offset? : List Char → Option (List Char)
  | 'Z' :: rest => some rest
  | 'z' :: rest => some rest
  | c :: rest =>
    if c == '+' || c == '-' then do
      let (_, rest) ← twoDigits? 0 23 rest
      let rest ← after? ':' rest
      let (_, rest) ← twoDigits? 0 59 rest
      return rest
    else none
  | [] => none

/-- Whether characters are a time of day, with or without a distance from universal time. -/
def isClock (offsetAllowed : Bool) (cs : List Char) : Bool :=
  match time? cs with
  | some [] => true
  | some rest => offsetAllowed && offset? rest == some []
  | none => false

/-- Whether characters are a date, a time of day, or both with the letter T between them. -/
def isMoment (cs : List Char) : Bool :=
  match date? cs with
  | some [] => true
  | some (c :: rest) => (c == 'T' || c == 't') && isClock true rest
  | none => isClock false cs

/-! ## Unquoted values -/

/-- Whether a character can stand in an unquoted value. -/
def isWordChar (c : Char) : Bool :=
  c.isAlphanum || c == '+' || c == '-' || c == '_' || c == '.' || c == ':'

def isDate (cs : List Char) : Bool :=
  date? cs == some []

end DocStore.Toml
