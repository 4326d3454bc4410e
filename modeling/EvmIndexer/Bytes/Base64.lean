import EvmIndexer.Bytes.Basic

/-!
# Base64 text

Three bytes are four characters of the standard alphabet; a last group of one
or two bytes is filled up with `=`. This is the ledger's own form of an
envelope.

Reading is strict about characters and lenient about two things that no writer
produces. The bits that the last character has over may be anything. And text
whose characters already fill their groups may carry any number of `=` behind
them. A group of one character spells nothing and is refused, and so is text
that begins with `=`.
-/

namespace EvmIndexer.Bytes.Base64

/-- The alphabet, in the order of its values. -/
def alphabet : List Char :=
  "ABCDEFGHIJKLMNOPQRSTUVWXYZabcdefghijklmnopqrstuvwxyz0123456789+/".toList

def value? (c : Char) : Option Nat :=
  if 'A' ≤ c && c ≤ 'Z' then some (c.toNat - 'A'.toNat)
  else if 'a' ≤ c && c ≤ 'z' then some (c.toNat - 'a'.toNat + 26)
  else if '0' ≤ c && c ≤ '9' then some (c.toNat - '0'.toNat + 52)
  else if c == '+' then some 62
  else if c == '/' then some 63
  else none

def char (v : Nat) : Char := alphabet.getD v '='

/-- Four characters for three bytes, the last group filled up. -/
def write : Bytes → List Char
  | [] => []
  | [a] => [char (a.toNat / 4), char (a.toNat % 4 * 16), '=', '=']
  | [a, b] =>
    [char (a.toNat / 4), char (a.toNat % 4 * 16 + b.toNat / 16),
      char (b.toNat % 16 * 4), '=']
  | a :: b :: c :: rest =>
    char (a.toNat / 4) :: char (a.toNat % 4 * 16 + b.toNat / 16)
      :: char (b.toNat % 16 * 4 + c.toNat / 64) :: char (c.toNat % 64) :: write rest

/-- The bytes of a list of values, four values a group. -/
def ofValues : List Nat → Option Bytes
  | [] => some []
  | [_] => none
  | [p, q] => some [UInt8.ofNat (p * 4 + q / 16)]
  | [p, q, r] =>
    some [UInt8.ofNat (p * 4 + q / 16), UInt8.ofNat (q % 16 * 16 + r / 4)]
  | p :: q :: r :: s :: rest => do
    let bs ← ofValues rest
    return UInt8.ofNat (p * 4 + q / 16) :: UInt8.ofNat (q % 16 * 16 + r / 4)
      :: UInt8.ofNat (r % 4 * 64 + s) :: bs

/-- Whether so many `=` may follow so many characters of the alphabet. -/
def fillFits (chars fill : Nat) : Bool :=
  match chars % 4 with
  | 0 => chars != 0 || fill == 0
  | 2 => fill == 2
  | 3 => fill == 1
  | _ => false

def read (cs : List Char) : Option Bytes := do
  let body := cs.takeWhile fun c => (value? c).isSome
  let fill := cs.dropWhile fun c => (value? c).isSome
  if fill.all (· == '=') && fillFits body.length fill.length then
    ofValues (body.filterMap value?)
  else none

end EvmIndexer.Bytes.Base64
