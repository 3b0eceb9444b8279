-- SUMMARY: Values, objects and schemas given as arguments of a command.
import DocStore.Catalog.Codec
import DocStore.Decimal.Nearest
import DocStore.Text.Blank

/-!
# Values given as arguments

A record, a predicate or a patch is given as one JSON object, or as words `field=value`. The value
of a field is recognised by its spelling: JSON if it starts like an object, an array or a string and
is well-formed, one of the three words `null`, `true` and `false`, an integer of 64 bits with a
sign, a decimal number within the range of doubles, and otherwise the text itself.
-/

namespace DocStore.Shell

/-- Why an argument is refused. -/
inductive ArgumentFault where
  | notAnObject (found : Json)
  | invalidJson
  | notAPair (word : String)
  | emptyField (word : String)
  | invalidSchema (problem : Problem)
  | noCommand
deriving Repr

/-- What is said of a refused argument. -/
def ArgumentFault.message : ArgumentFault → String
  | .notAnObject found => "Expected a JSON object, got: " ++ found.compact
  | .invalidJson => "Invalid JSON: " ++ Problem.malformed.message
  | .notAPair word => s!"Expected field=value, got: {word}"
  | .emptyField word => s!"Empty field name in: {word}"
  | .invalidSchema problem => "Invalid schema: " ++ problem.message
  | .noCommand => "No command provided"

/-! ## Spellings -/

/-- What stands before the first character of a kind and what stands after it, if there is one. -/
def splitOnce (isMark : Char → Bool) : List Char → List Char × Option (List Char)
  | [] => ([], none)
  | c :: cs =>
    if isMark c then ([], some cs)
    else
      let (before, after) := splitOnce isMark cs
      (c :: before, after)

def isDigits (cs : List Char) : Bool :=
  !cs.isEmpty && cs.all Char.isDigit

/-- The characters after a minus sign, and whether there is one. -/
def splitMinus : List Char → Bool × List Char
  | '-' :: rest => (true, rest)
  | rest => (false, rest)

/-- The characters after a sign, and whether it is a minus. -/
def splitSign : List Char → Bool × List Char
  | '+' :: rest => (false, rest)
  | rest => splitMinus rest

/-- Minus a number, or the number itself. -/
def signed (negative : Bool) (n : Nat) : Int :=
  if negative then -n else n

/-- Whether characters spell an integer: digits, possibly after a minus sign. -/
def isInteger (cs : List Char) : Bool :=
  isDigits (splitMinus cs).2

def integerValue (cs : List Char) : Int :=
  signed (splitMinus cs).1 (Nat.ofDigitChars 10 (splitMinus cs).2 0)

/-- The integer that characters spell, if it has 64 bits with a sign. -/
def integer? (cs : List Char) : Option Int :=
  let i := integerValue cs
  if isInteger cs && -Number.minIntMagnitude ≤ i && i < Number.minIntMagnitude then some i else none

/-- Whether a character divides a decimal from its exponent. -/
def isExponentMark (c : Char) : Bool :=
  c == 'e' || c == 'E'

/-- Whether characters are digits with a point in front, behind or between them, or without one. -/
def isMantissa (cs : List Char) : Bool :=
  match splitOnce (· == '.') cs with
  | (whole, some fraction) =>
    (!whole.isEmpty || !fraction.isEmpty) && whole.all Char.isDigit && fraction.all Char.isDigit
  | (whole, none) => isDigits whole

/-- Whether characters are the digits of an exponent, possibly after a sign. -/
def isExponent (cs : List Char) : Bool :=
  isDigits (splitSign cs).2

/-- Whether characters spell a decimal. -/
def isFloat (cs : List Char) : Bool :=
  let (mantissa, exponent) := splitOnce isExponentMark (splitMinus cs).2
  isMantissa mantissa && exponent.all isExponent

/-! ## Reading decimals -/

/-- The power of ten that the rest of a decimal raises it by, if it is nothing or an exponent. -/
def readExponent? : List Char → Option Int
  | [] => some 0
  | c :: rest =>
    let (negative, ds) := splitSign rest
    if isExponentMark c && isDigits ds then some (signed negative (Nat.ofDigitChars 10 ds 0)) else none

/-- The digits behind a point, and what follows them. -/
def readFraction : List Char → List Char × List Char
  | '.' :: rest => rest.span Char.isDigit
  | rest => ([], rest)

/-- The decimal that characters without a sign denote: digits up to a point, digits behind it and an
exponent, where digits stand on one side of the point at least. -/
def readUnsigned? (cs : List Char) : Option Decimal := do
  let (whole, rest) := cs.span Char.isDigit
  let (fraction, rest) := readFraction rest
  let exponent ← readExponent? rest
  if (whole ++ fraction).isEmpty then none
  else some ⟨Nat.ofDigitChars 10 (whole ++ fraction) 0, exponent - fraction.length⟩

/-- The decimal that characters denote, with or without a sign, and whether the sign is a minus. -/
def readDecimal? (cs : List Char) : Option (Bool × Decimal) :=
  let (negative, rest) := splitSign cs
  (readUnsigned? rest).map fun decimal => (negative, decimal)

/-- The double nearest to what characters denote, if it is within the range of doubles. -/
def readFloat? (cs : List Char) : Option Float := do
  let (negative, decimal) ← readDecimal? cs
  let f ← decimal.toFloat?
  return if negative then -f else f

/-- The double that characters spell, if it is within the range of doubles. -/
def float? (cs : List Char) : Option Float :=
  if isFloat cs then readFloat? cs else none

/-! ## Values -/

/-- Whether a text starts like a JSON object, array or string. -/
def startsLikeJson (cs : List Char) : Bool :=
  match cs with
  | c :: _ => c == '\x7b' || c == '[' || c == '"'
  | [] => false

/-- The JSON value that a text is, if it starts like one and is well-formed. -/
def structured? (text : String) : Option Json :=
  if startsLikeJson text.toList then Json.parse? text else none

/-- The value of a text that is no JSON object, array or string. -/
def scalar (text : String) : Json :=
  if text == "null" then .null
  else if text == "true" then .bool true
  else if text == "false" then .bool false
  else
    match integer? text.toList with
    | some i => .number (.int i)
    | none =>
      match float? text.toList with
      | some f => .number (.float f)
      | none => .string text

def parseValue (text : String) : Json :=
  match structured? text with
  | some value => value
  | none => scalar text

/-! ## Objects -/

/-- The members of an object given as JSON. -/
def parseObject (text : String) : Except ArgumentFault Object :=
  match Json.parse? text with
  | some (.object members) => .ok members
  | some other => .error (.notAnObject other)
  | none => .error .invalidJson

/-- The field and the value of a word `field=value`. -/
def parsePair (word : String) : Except ArgumentFault (String × Json) :=
  match splitOnce (· == '=') word.toList with
  | (_, none) => .error (.notAPair word)
  | (name, some value) =>
    if name.isEmpty then .error (.emptyField word)
    else .ok (String.ofList name, parseValue (String.ofList value))

/-- The members given as words `field=value`; of words with the same field the last one counts. -/
def parsePairs (words : List String) : Except ArgumentFault Object := do
  let pairs ← words.mapM parsePair
  return Assoc.ofEntries pairs

/-- The members given as one JSON object or as words `field=value`. -/
def parseFields (words : List String) : Except ArgumentFault Object :=
  match words with
  | [word] =>
    if (trimStart word.toList).head? == some '\x7b' then parseObject word else parsePairs [word]
  | words => parsePairs words

/-- The predicate given by words; no words give none. -/
def parseWhere (words : List String) : Except ArgumentFault (Option Predicate) :=
  if words.isEmpty then .ok none else (parseFields words).map fun members => some ⟨members⟩

def parseSchema (text : String) : Except ArgumentFault Schema :=
  (Schema.parse text).mapError .invalidSchema

end DocStore.Shell
