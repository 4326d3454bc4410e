import EvmIndexer.Bytes.Basic

/-!
# The wire format of messages

A message is a sequence of records, each a tag and a payload. The tag holds the
number of a field and the kind of its payload. The format says nothing about
what the fields mean; a reader that knows only some of them passes over the
others, and over known ones whose payload is of another kind.

Groups are an old kind of payload without a length: records up to a closing tag
with the same number. None of the messages read here has one, so a group is
passed over, but it has to be balanced. The stack of open groups is all that the
reader keeps.
-/

namespace EvmIndexer.Protobuf

inductive Payload where
  | varint (n : Nat)
  | fixed64 (content : Bytes)
  | bytes (content : Bytes)
  | fixed32 (content : Bytes)
deriving DecidableEq, Repr

/-- A record: the number of its field and its payload. -/
structure Record where
  number : Nat
  payload : Payload
deriving DecidableEq, Repr

/-- Reads a number of seven bits a byte, least significant first, in at most so
many bytes. All bytes but the last have their high bit set. -/
def readGroups : Nat → Bytes → Option (Nat × Bytes)
  | 0, _ => none
  | _ + 1, [] => none
  | width + 1, b :: rest =>
    if b.toNat < 128 then some (b.toNat, rest)
    else do
      let (high, rest) ← readGroups width rest
      return (b.toNat % 128 + 128 * high, rest)

/-- Reads a 64-bit number in at most ten bytes; bits beyond the 64th are
dropped. -/
def readVarint (bs : Bytes) : Option (Nat × Bytes) := do
  let (n, rest) ← readGroups 10 bs
  return (n % 0x10000000000000000, rest)

/-- Reads a tag in at most five bytes: the number of a field, which is not zero,
and the kind of its payload. -/
def readTag (bs : Bytes) : Option (Nat × Nat × Bytes) := do
  let (tag, rest) ← readGroups 5 bs
  if 0x100000000 ≤ tag ∨ tag / 8 = 0 then none else some (tag / 8, tag % 8, rest)

def readDelimited (bs : Bytes) : Option (Bytes × Bytes) := do
  let (length, rest) ← readVarint bs
  rest.splitAt? length

/-- Reads the payload of a kind that is not a group. -/
def readPayload (kind : Nat) (bs : Bytes) : Option (Payload × Bytes) :=
  match kind with
  | 0 => do let (n, rest) ← readVarint bs; return (.varint n, rest)
  | 1 => do let (content, rest) ← bs.splitAt? 8; return (.fixed64 content, rest)
  | 2 => do let (content, rest) ← readDelimited bs; return (.bytes content, rest)
  | 5 => do let (content, rest) ← bs.splitAt? 4; return (.fixed32 content, rest)
  | _ => none

/-- Reads records to the end of the bytes, in at most so many steps. Records
inside a group are read and dropped. -/
def readRecords : Nat → List Nat → Bytes → Option (List Record)
  | _, groups, [] => if groups.isEmpty then some [] else none
  | 0, _, _ :: _ => none
  | steps + 1, groups, bs@(_ :: _) => do
    let (number, kind, rest) ← readTag bs
    if kind = 3 then readRecords steps (number :: groups) rest
    else if kind = 4 then
      match groups with
      | [] => none
      | group :: outer =>
        if group = number then readRecords steps outer rest else none
    else
      let (payload, rest) ← readPayload kind rest
      let records ← readRecords steps groups rest
      return if groups.isEmpty then ⟨number, payload⟩ :: records else records

/-- The records of a message. Each of them takes at least one byte. -/
def records? (bs : Bytes) : Option (List Record) :=
  readRecords bs.length [] bs

end EvmIndexer.Protobuf
