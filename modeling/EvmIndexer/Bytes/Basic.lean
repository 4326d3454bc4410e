/-!
# Byte strings

A byte string is a list of bytes. Lists make the readers of this library plain
recursions with the unread rest as their result, and make every law about them
a law about lists.

The second half is the big-endian reading of a byte string as a number and the
shortest byte string of a number. `ofNat` writes no leading zero byte, which is
the canonical form that the envelope formats demand.
-/

namespace EvmIndexer

abbrev Bytes := List UInt8

namespace Bytes

/-- The number that a byte string spells, most significant byte first. -/
def toNat (bs : Bytes) : Nat :=
  bs.foldl (fun n b => 256 * n + b.toNat) 0

/-- Prepends the big-endian digits of a number; zero has none. -/
def pushNat (n : Nat) (rest : Bytes) : Bytes :=
  if h : n = 0 then rest else pushNat (n / 256) (UInt8.ofNat (n % 256) :: rest)
termination_by n
decreasing_by omega

/-- The shortest byte string that spells a number. -/
def ofNat (n : Nat) : Bytes := pushNat n []

/-- Exactly `width` bytes: the number modulo `256 ^ width`. -/
def ofNatFixed (width n : Nat) : Bytes :=
  (List.range width).reverse.map fun i => UInt8.ofNat (n / Nat.pow 256 i % 256)

def ofText (s : String) : Bytes := s.toUTF8.toList

/-- The text that the bytes spell in UTF-8, if they do: surrogates, overlong
forms and numbers beyond the last character are refused. -/
def toText? (bs : Bytes) : Option String :=
  String.fromUTF8? ⟨bs.toArray⟩

/-- Reads the first `n` bytes, if there are that many, and gives the rest. -/
def splitAt? (n : Nat) (bs : Bytes) : Option (Bytes × Bytes) :=
  if n ≤ bs.length then some (bs.take n, bs.drop n) else none

end Bytes

end EvmIndexer
