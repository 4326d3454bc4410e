import EvmIndexer.Bytes.Basic

/-!
# Items and their encoding

The envelope of a transaction is a nested list of byte strings. An item is such
a tree, and its encoding puts a head before every payload: a byte below 128 is
its own encoding, a payload of up to 55 bytes has its length in the head, and a
longer one has the length of its length there and then the length.

Writing is defined first, on its own. The reader beside it accepts exactly what
is written here, which makes the encoding of an item unique.
-/

namespace EvmIndexer.Rlp

inductive Item where
  | bytes (content : Bytes)
  | list (items : List Item)
deriving Repr

/-- The head of a payload of a given length. The mark is 128 for a byte string
and 192 for a list. -/
def head (mark length : Nat) : Bytes :=
  if length ≤ 55 then [UInt8.ofNat (mark + length)]
  else
    let digits := Bytes.ofNat length
    UInt8.ofNat (mark + 55 + digits.length) :: digits

def encodeBytes (content : Bytes) : Bytes :=
  match content with
  | [b] => if b.toNat < 128 then [b] else head 128 1 ++ [b]
  | _ => head 128 content.length ++ content

mutual

def Item.encode : Item → Bytes
  | .bytes content => encodeBytes content
  | .list items =>
    let payload := encodeAll items
    head 192 payload.length ++ payload

/-- The encodings of items, one after the other. -/
def encodeAll : List Item → Bytes
  | [] => []
  | item :: rest => item.encode ++ encodeAll rest

end

/-- The shortest byte string of a number, as an item. -/
def Item.ofNat (n : Nat) : Item := .bytes (Bytes.ofNat n)

def Item.bytes? : Item → Option Bytes
  | .bytes content => some content
  | .list _ => none

def Item.list? : Item → Option (List Item)
  | .bytes _ => none
  | .list items => some items

end EvmIndexer.Rlp
