import EvmIndexer.Rlp.Item

/-!
# Reading items

The reader is strict. A single byte below 128 must stand for itself, a length
that fits the head must be in the head, a long length has no leading zero byte,
and every payload must be there in full. A list is read from its payload alone,
so no item can reach beyond the end of the list it stands in.

`readItem` takes an item off the front and gives the rest; `readItems` takes
items until nothing is left. Each step takes at least one byte, so the number of
bytes bounds the steps.
-/

namespace EvmIndexer.Rlp

/-- The length that a long head announces, and what follows it. -/
def readLength (width : Nat) (bs : Bytes) : Option (Nat × Bytes) := do
  let (digits, rest) ← bs.splitAt? width
  let length := Bytes.toNat digits
  if digits.head? = some 0 ∨ length ≤ 55 then none else some (length, rest)

/-- Splits a payload off: the first byte of the head has been read already and
is above its mark by `offset`. -/
def readPayload (offset : Nat) (rest : Bytes) : Option (Bytes × Bytes) := do
  if offset ≤ 55 then rest.splitAt? offset
  else
    let (length, rest) ← readLength (offset - 55) rest
    rest.splitAt? length

mutual

/-- Takes an item off the front, in at most so many steps. -/
def readItem : Nat → Bytes → Option (Item × Bytes)
  | 0, _ => none
  | _ + 1, [] => none
  | steps + 1, b :: rest =>
    if b.toNat < 128 then some (.bytes [b], rest)
    else if b.toNat < 192 then do
      let (content, rest) ← readPayload (b.toNat - 128) rest
      match content with
      | [c] => if c.toNat < 128 then none else some (.bytes content, rest)
      | _ => some (.bytes content, rest)
    else do
      let (payload, rest) ← readPayload (b.toNat - 192) rest
      let items ← readItems steps payload
      return (.list items, rest)

/-- Takes items until nothing is left, in at most so many steps. -/
def readItems : Nat → Bytes → Option (List Item)
  | _, [] => some []
  | 0, _ :: _ => none
  | steps + 1, bs@(_ :: _) => do
    let (item, rest) ← readItem steps bs
    let items ← readItems steps rest
    return item :: items

end

/-- Reads one item that ends where the bytes end. -/
def decode (bs : Bytes) : Option Item := do
  let (item, rest) ← readItem (2 * bs.length + 1) bs
  if rest.isEmpty then some item else none

end EvmIndexer.Rlp
