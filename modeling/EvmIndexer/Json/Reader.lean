import EvmIndexer.Bytes.Hex
import EvmIndexer.Json.Value
import EvmIndexer.Text.Encoding

/-!
# Reading JSON

The grammar of the standard with three additions: the numbers `NaN`, `Infinity`
and `-Infinity` are read, the encoding may be any that can be detected, and an
escaped number set aside for pairs may stand alone. Raw control characters in
text are refused, and so is a whole number of more than 4300 digits.

Lists and objects are read to any depth. A reader with a stack has a limit there,
and beyond it breaks down; what is read here is what such a reader reads within its
limit, and its breaking down is for those who ask for a document to account for.

Each reader takes its part off the front and gives the rest.
-/

namespace EvmIndexer.Json

def isBlank (c : Char) : Bool := c == ' ' || c == '\t' || c == '\n' || c == '\r'

def skip (cs : List Char) : List Char := cs.dropWhile isBlank

def dropWord? (word : String) (cs : List Char) : Option (List Char) :=
  if word.toList.isPrefixOf cs then some (cs.drop word.length) else none

/-- The number that four hexadecimal digits spell, and the rest. -/
def readUnit : List Char → Option (Nat × List Char)
  | a :: b :: c :: d :: rest => do
    let digits ← [a, b, c, d].mapM Bytes.Hex.digit?
    return (digits.foldl (fun n digit => 16 * n + digit) 0, rest)
  | _ => none

/-- The character that an escape of one letter stands for. -/
def escaped? : Char → Option Char
  | '"' => some '"'
  | '\\' => some '\\'
  | '/' => some '/'
  | 'b' => some '\x08'
  | 'f' => some '\x0c'
  | 'n' => some '\n'
  | 'r' => some '\r'
  | 't' => some '\t'
  | _ => none

def opensPair (n : Nat) : Bool := 0xd800 ≤ n && n < 0xdc00

/-- Reads an escape after its backslash: a character and the rest. An escaped
number that opens a pair takes the next escape with it if that closes it. -/
def readEscape : List Char → Option (Char × List Char)
  | 'u' :: cs => do
    let (a, rest) ← readUnit cs
    match opensPair a, rest with
    | true, '\\' :: 'u' :: more => do
      let (b, after) ← readUnit more
      match Text.Encoding.joinPairs [a, b] with
      | [joined] => return (joined, after)
      | _ => return (Text.Encoding.charOf a, rest)
    | _, _ => return (Text.Encoding.charOf a, rest)
  | c :: rest => do return (← escaped? c, rest)
  | [] => none

/-- Reads a text after its opening quote, in at most so many steps. -/
def readText : Nat → List Char → Option (List Char × List Char)
  | 0, _ => none
  | _ + 1, [] => none
  | _ + 1, '"' :: rest => some ([], rest)
  | steps + 1, '\\' :: cs => do
    let (c, rest) ← readEscape cs
    let (content, rest) ← readText steps rest
    return (c :: content, rest)
  | steps + 1, c :: cs =>
    if c.toNat < 0x20 then none
    else do
      let (content, rest) ← readText steps cs
      return (c :: content, rest)

def isDigit (c : Char) : Bool := '0' ≤ c && c ≤ '9'

/-- The rest after the whole part of a number, and the number of its digits. -/
def readWhole : List Char → Option (Nat × List Char)
  | '0' :: rest => some (1, rest)
  | cs =>
    let digits := cs.takeWhile isDigit
    if digits.isEmpty then none else some (digits.length, cs.dropWhile isDigit)

/-- The rest after the fraction of a number, if it has one. -/
def dropFraction? : List Char → Option (List Char)
  | '.' :: c :: rest => if isDigit c then some (rest.dropWhile isDigit) else none
  | _ => none

/-- The rest after the exponent of a number, if it has one. -/
def dropExponent? : List Char → Option (List Char)
  | e :: cs =>
    let digits := match cs with
      | '+' :: rest | '-' :: rest => rest
      | _ => cs
    if (e == 'e' || e == 'E') && (digits.head?.map isDigit).getD false then
      some (digits.dropWhile isDigit)
    else none
  | [] => none

/-- The greatest number of digits of a whole number. -/
def maxDigits : Nat := 4300

def readNumber (cs : List Char) : Option (List Char) := do
  let unsigned := if cs.head? = some '-' then cs.drop 1 else cs
  let (digits, whole) ← readWhole unsigned
  let fraction := (dropFraction? whole).getD whole
  let rest := (dropExponent? fraction).getD fraction
  if rest.length = whole.length ∧ maxDigits < digits then none else some rest

/-- The words that are values, and the values that they are. -/
def words : List (String × Value) := [("null", .null), ("true", .bool true),
  ("false", .bool false), ("NaN", .number), ("Infinity", .number),
  ("-Infinity", .number)]

/-- Reads a value that is neither a list nor an object. -/
def readPlain (cs : List Char) : Option (Value × List Char) :=
  match cs with
  | '"' :: rest => do
    let (content, rest) ← readText (rest.length + 1) rest
    return (.text content, rest)
  | _ =>
    match words.findSome? fun (word, value) =>
        (dropWord? word cs).map fun rest => (value, rest) with
    | some found => some found
    | none => do return (.number, ← readNumber cs)

mutual

/-- Reads a value in at most so many steps. -/
def readValue : Nat → List Char → Option (Value × List Char)
  | 0, _ => none
  | steps + 1, '[' :: cs =>
    match skip cs with
    | ']' :: rest => some (.list [], rest)
    | cs => do
      let (members, rest) ← readMembers steps cs
      return (.list members, rest)
  | steps + 1, '{' :: cs =>
    match skip cs with
    | '}' :: rest => some (.object [], rest)
    | cs => do
      let (members, rest) ← readPairs steps cs
      return (.object members, rest)
  | _ + 1, cs => readPlain cs

/-- Reads the members of a list up to its closing bracket. -/
def readMembers : Nat → List Char → Option (List Value × List Char)
  | 0, _ => none
  | steps + 1, cs => do
    let (value, rest) ← readValue steps cs
    match skip rest with
    | ']' :: rest => return ([value], rest)
    | ',' :: rest => do
      let (members, rest) ← readMembers steps (skip rest)
      return (value :: members, rest)
    | _ => none

/-- Reads the members of an object up to its closing brace. -/
def readPairs : Nat → List Char → Option (List (List Char × Value) × List Char)
  | steps + 1, '"' :: cs => do
    let (key, rest) ← readText (cs.length + 1) cs
    match skip rest with
    | ':' :: rest => do
      let (value, rest) ← readValue steps (skip rest)
      match skip rest with
      | '}' :: rest => return ([(key, value)], rest)
      | ',' :: rest => do
        let (members, rest) ← readPairs steps (skip rest)
        return ((key, value) :: members, rest)
      | _ => none
    | _ => none
  | _, _ => none

end

/-- Reads a document from its characters. Every step but the last takes a
character. -/
def ofChars? (cs : List Char) : Option Value := do
  let (value, rest) ← readValue (2 * cs.length + 1) (skip cs)
  if (skip rest).isEmpty then some value else none

def ofBytes? (bs : Bytes) : Option Value := do
  ofChars? (← Text.Encoding.readAny bs)

end EvmIndexer.Json
