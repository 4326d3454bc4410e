import EvmIndexer.Bytes.Basic
import EvmIndexer.Text.Blank

/-!
# Hexadecimal text

Two digits a byte, written in lower case. Reading takes either case and comes
in two forms. `read` takes digits alone, which is the form of addresses and of
byte code. `readSpaced` also passes over blanks between byte pairs, never
inside one, which is the form of pasted envelopes and recorded responses.

On text without blanks the two agree.
-/

namespace EvmIndexer.Bytes.Hex

/-- Whether a character is a digit in lower case. -/
def isLowerDigit (c : Char) : Bool :=
  ('0' ≤ c && c ≤ '9') || ('a' ≤ c && c ≤ 'f')

/-- The value of a hexadecimal digit of either case. -/
def digit? (c : Char) : Option Nat :=
  if '0' ≤ c && c ≤ '9' then some (c.toNat - '0'.toNat)
  else if 'a' ≤ c && c ≤ 'f' then some (c.toNat - 'a'.toNat + 10)
  else if 'A' ≤ c && c ≤ 'F' then some (c.toNat - 'A'.toNat + 10)
  else none

def pair? (hi lo : Char) : Option UInt8 := do
  let h ← digit? hi
  let l ← digit? lo
  return UInt8.ofNat (16 * h + l)

def writeByte (b : UInt8) : List Char :=
  [Nat.digitChar (b.toNat / 16), Nat.digitChar (b.toNat % 16)]

/-- The digits of a byte string, in lower case. -/
def write (bs : Bytes) : List Char := bs.flatMap writeByte

def read : List Char → Option Bytes
  | [] => some []
  | [_] => none
  | hi :: lo :: rest => do
    let b ← pair? hi lo
    let bs ← read rest
    return b :: bs

/-- Reads digits with blanks between byte pairs. -/
def readSpaced : List Char → Option Bytes
  | [] => some []
  | [c] => if Text.isAsciiBlank c then some [] else none
  | hi :: lo :: rest =>
    if Text.isAsciiBlank hi then readSpaced (lo :: rest)
    else do
      let b ← pair? hi lo
      let bs ← readSpaced rest
      return b :: bs

def hasMark : List Char → Bool
  | '0' :: x :: _ => x == 'x' || x == 'X'
  | _ => false

/-- The text after `0x` or `0X`, the whole text if it has neither. -/
def dropMark (cs : List Char) : List Char :=
  if hasMark cs then cs.drop 2 else cs

/-- Reads digits alone behind an optional mark. If the whole text, mark
included, has an odd number of characters, a zero is put before the digits. -/
def readPadded (cs : List Char) : Option Bytes :=
  read (if cs.length % 2 = 1 then '0' :: dropMark cs else dropMark cs)

/-- A byte string as it is stored: `0x` and its digits. -/
def marked (bs : Bytes) : String := String.ofList ('0' :: 'x' :: write bs)

end EvmIndexer.Bytes.Hex
