import EvmIndexer.Hash.Keccak
import EvmIndexer.Text.LowerCase

/-!
# Addresses

An address is twenty bytes. It has two written forms. The lower-case form is the
key of the token and contract tables. The checksummed form is that of decoded
transactions: a letter is a capital exactly when the digit of the hash of the
lower-case digits at its place is eight or more, so that a mistyped letter is
found out.

Reading takes both forms, with or without the mark `0x`.
-/

namespace EvmIndexer.Address

def size : Nat := 20

/-- The digits of an address with their checksum in the case of the letters. -/
def checksumDigits (address : Bytes) : List Char :=
  let digits := Bytes.Hex.write address
  let marks := keccak256 (digits.map fun c => UInt8.ofNat c.toNat)
  List.zipWith (fun c m => if 8 ≤ m then c.toUpper else c) digits
    (marks.flatMap fun b => [b.toNat / 16, b.toNat % 16])

def checksummed (address : Bytes) : String :=
  String.ofList ('0' :: 'x' :: checksumDigits address)

/-- Reads either form: forty digits of any case after an optional mark. -/
def ofText? (s : String) : Option Bytes :=
  let digits := Bytes.Hex.dropMark s.toList
  if digits.length = 2 * size then Bytes.Hex.read digits else none

/-- The address that a public key owns: the last twenty bytes of the hash of its
two coordinates. -/
def ofPublicKey (key : Nat × Nat) : Bytes :=
  (keccak256 (Bytes.ofNatFixed 32 key.1 ++ Bytes.ofNatFixed 32 key.2)).drop 12

end EvmIndexer.Address
