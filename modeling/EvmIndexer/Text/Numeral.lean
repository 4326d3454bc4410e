import EvmIndexer.Text.Blank
import EvmIndexer.Text.LowerCase
import EvmIndexer.Text.WordTable

/-!
# Whole numbers in text

A whole number is a row of digits, perhaps with a sign before it. Single low
lines may stand between digits to group them; they mean nothing. Blanks around
the number mean nothing either.

Two readers share this grammar. One takes the decimal digits of every script; the
other only those of the first 128 characters, but a fraction of zeros too.
-/

namespace EvmIndexer.Text

/-- The value of a digit among the first 128 characters. -/
def asciiDigit? (c : Char) : Option Nat :=
  if '0' ≤ c ∧ c ≤ '9' then some (c.toNat - '0'.toNat) else none

def anyDigit? (c : Char) : Option Nat :=
  match asciiDigit? c with
  | some n => some n
  | none =>
    let start := digitZeros.find? fun start =>
      start ≤ c.toNat && c.toNat < start + 10
    start.map (c.toNat - ·)

def isWordChar (c : Char) : Bool :=
  if c.toNat < 0x80 then c.isAlphanum || c == '_' else inRanges wordRanges c.toNat

def dropGroupMark : List Char → List Char
  | '_' :: rest => rest
  | cs => cs

theorem length_dropGroupMark_le (cs : List Char) :
    (dropGroupMark cs).length ≤ cs.length := by
  unfold dropGroupMark
  split <;> simp

/-- Reads a row of digits that may be grouped, and gives what comes after it. -/
def readDigits (digit? : Char → Option Nat) :
    List Char → Option (List Nat × List Char)
  | [] => none
  | c :: rest =>
    match digit? c with
    | none => none
    | some d =>
      match readDigits digit? (dropGroupMark rest) with
      | some (ds, after) => some (d :: ds, after)
      | none => some ([d], rest)
termination_by cs => cs.length
decreasing_by
  have := length_dropGroupMark_le rest
  simp
  omega

def ofDigits (ds : List Nat) : Nat := ds.foldl (fun n d => 10 * n + d) 0

def readSign : List Char → Bool × List Char
  | '-' :: rest => (true, rest)
  | '+' :: rest => (false, rest)
  | cs => (false, cs)

/-- Reads a signed number, and gives what comes after it. -/
def readSigned (digit? : Char → Option Nat) (cs : List Char) :
    Option (Int × List Char) := do
  let (negative, cs) := readSign cs
  let (ds, rest) ← readDigits digit? cs
  let n : Int := ofDigits ds
  return (if negative then -n else n, rest)

/-- Reads a whole number in digits of any script. -/
def readInteger? (s : String) : Option Int :=
  match readSigned anyDigit? (trim s).toList with
  | some (n, []) => some n
  | _ => none

/-- Whether what comes after a whole number is a fraction of zeros. -/
def isZeroFraction : List Char → Bool
  | [] => true
  | '.' :: rest => rest.all (· == '0')
  | _ => false

/-- Reads a whole number that may have a fraction of zeros. -/
def readWhole? (s : String) : Option Int :=
  match readSigned asciiDigit? (trim s).toList with
  | some (n, rest) => if isZeroFraction rest then some n else none
  | none => none

end EvmIndexer.Text
