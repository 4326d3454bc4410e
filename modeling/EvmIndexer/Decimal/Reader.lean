import EvmIndexer.Decimal.Binary
import EvmIndexer.Text.Numeral

/-!
# Decimals in text

A decimal is a sign, digits with or without a point among them, and perhaps an
exponent of ten. Instead of digits there may be one of the words for what is no
number or beyond all numbers. Digits may be grouped as in whole numbers.
-/

namespace EvmIndexer

inductive DecimalText where
  /-- The number `digits * 10 ^ exponent`. -/
  | number (negative : Bool) (digits : Nat) (exponent : Int)
  | infinite (negative : Bool)
  | undefined
deriving DecidableEq, Repr

namespace DecimalText

def readSomeDigits (cs : List Char) : List Nat × List Char :=
  (Text.readDigits Text.asciiDigit? cs).getD ([], cs)

/-- Reads the digits after a point, if there is one. -/
def readFraction : List Char → List Nat × List Char
  | '.' :: rest => readSomeDigits rest
  | cs => ([], cs)

/-- Reads an exponent up to the end of the text. -/
def readExponent : List Char → Option Int
  | [] => some 0
  | c :: rest =>
    if c == 'e' || c == 'E' then
      match Text.readSigned Text.asciiDigit? rest with
      | some (n, []) => some n
      | _ => none
    else none

/-- Reads a number without its sign. -/
def readNumber (negative : Bool) (cs : List Char) : Option DecimalText := do
  let (whole, cs) := readSomeDigits cs
  let (fraction, cs) := readFraction cs
  if whole.isEmpty && fraction.isEmpty then none
  let exponent ← readExponent cs
  return .number negative (Text.ofDigits (whole ++ fraction))
    (exponent - fraction.length)

def read? (s : String) : Option DecimalText :=
  let (negative, cs) := Text.readSign (Text.trim s).toList
  match String.ofList (cs.map Char.toLower) with
  | "inf" | "infinity" => some (.infinite negative)
  | "nan" => some .undefined
  | _ => readNumber negative cs

/-- Beyond this exponent of the first digit all numbers are infinite, and below
its opposite all are zero. -/
def farAway : Int := 400

/-- The number nearest to a decimal that is not negative. -/
def toBinary (digits : Nat) (exponent : Int) : Binary :=
  let leading := (Nat.toDigits 10 digits).length + exponent
  if digits = 0 ∨ leading < -farAway then .finite 0 Binary.minExponent
  else if farAway < leading then .infinite
  else .ofRatio (digits * Nat.pow 10 exponent.toNat) (Nat.pow 10 (-exponent).toNat)

/-- The number that a text says, if it is above zero. -/
def positive? : DecimalText → Option Binary
  | .number false digits exponent =>
    let value := toBinary digits exponent
    if value.isPositive then some value else none
  | .infinite false => some .infinite
  | _ => none

end DecimalText

end EvmIndexer
