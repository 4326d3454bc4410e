import EvmIndexer.Envelope.Error
import EvmIndexer.Rlp.Reader

/-!
# The parsed form of an envelope

Parsing finds the layout from the first byte, reads the items and maps them to
the fields of the layout, in order, so that the first field at fault is the one
reported. Numbers are taken as they come here, leading zeros included; the
stricter reading that the signature needs is made from the same items later.
-/

namespace EvmIndexer.Envelope

inductive FieldValue where
  | number (n : Nat)
  /-- The recipient's twenty bytes; a contract creation has none. -/
  | recipient (address : Option Bytes)
  | data (content : Bytes)
  /-- A part that is checked for the signature but not stored. -/
  | unread (item : Rlp.Item)
deriving Repr

/-- The content of an item that has to be a byte string. -/
def contentOf (field : Field) (item : Rlp.Item) : Except Refusal Bytes :=
  match item with
  | .bytes content => .ok content
  | .list _ => .error (.notBytes field)

def readField (field : Field) (item : Rlp.Item) : Except Refusal FieldValue :=
  match field with
  | .recipient => do
    let content ← contentOf field item
    if content.isEmpty then .ok (.recipient none)
    else if content.length = 20 then .ok (.recipient (some content))
    else .error (.recipientSize content.length)
  | .data => do
    let content ← contentOf field item
    .ok (.data content)
  | .accessList | .maxFeePerBlobGas | .blobVersionedHashes
  | .authorizationList => .ok (.unread item)
  | .chainId | .nonce | .gasPrice | .maxPriorityFeePerGas | .maxFeePerGas
  | .gasLimit | .value => do
    let content ← contentOf field item
    .ok (.number content.toNat)

/-- A parsed envelope: its type, its fields in the order of the layout, and the
items that it was read from, those of the signature last. -/
structure Parsed where
  type : Nat
  fields : List (Field × FieldValue)
  items : List Rlp.Item
deriving Repr

/-- Reads the items of a payload that is one list. -/
def readPayload (payload : Bytes) : Except Refusal (List Rlp.Item) :=
  match Rlp.decode payload with
  | none => .error .malformedItems
  | some (.bytes _) => .error .payloadNotAList
  | some (.list items) => .ok items

def readFields (layout : List Field) (items : List Rlp.Item) :
    Except Refusal (List (Field × FieldValue)) :=
  if items.length ≠ layout.length + signatureSize then
    .error (.itemCount (layout.length + signatureSize) items.length)
  else
    (layout.zip items).mapM fun (field, item) => do
      let value ← readField field item
      .ok (field, value)

/-- The recovery number of a legacy signature. A list without members counts as
zero. -/
def recoveryNumber : Rlp.Item → Except Refusal Nat
  | .bytes content => .ok content.toNat
  | .list [] => .ok 0
  | .list (_ :: _) => .error .malformedRecovery

/-- The chain that a legacy recovery number names: numbers from 35 on are
`2 * chain + 35` or one more, smaller ones name none. -/
def chainOfRecovery? (v : Nat) : Option Nat :=
  if 35 ≤ v then some ((v - 35) / 2) else none

/-- Reads a legacy envelope. The chain that its recovery number names is added
to the fields. -/
def parseLegacy (envelope : Bytes) : Except Refusal Parsed := do
  let items ← readPayload envelope
  let fields ← readFields legacyLayout items
  let v ← recoveryNumber (items.getD legacyLayout.length (.list []))
  let chain := (chainOfRecovery? v).map fun n => (Field.chainId, .number n)
  return ⟨0, fields ++ chain.toList, items⟩

def parseTyped (type : Nat) (payload : Bytes) : Except Refusal Parsed :=
  match typedLayout? type with
  | none => .error (.unsupportedType type)
  | some layout => do
    let items ← readPayload payload
    let fields ← readFields layout items
    return ⟨type, fields, items⟩

/-- Reads an envelope. A first byte below 128 is its type, one of 192 or more
begins the list of a legacy envelope. -/
def parse (envelope : Bytes) : Except Refusal Parsed :=
  match envelope with
  | [] => .error .empty
  | first :: payload =>
    if first.toNat < 128 then parseTyped first.toNat payload
    else if first.toNat < 192 then .error .notAList
    else parseLegacy envelope

namespace Parsed

def get? (parsed : Parsed) (field : Field) : Option FieldValue :=
  parsed.fields.lookup field

def number? (parsed : Parsed) (field : Field) : Option Nat :=
  match parsed.get? field with
  | some (.number n) => some n
  | _ => none

/-- The recipient, if the envelope names one. -/
def recipient? (parsed : Parsed) : Option Bytes :=
  match parsed.get? .recipient with
  | some (.recipient address) => address
  | _ => none

/-- The data of the call, or the code of the contract to create. -/
def data (parsed : Parsed) : Bytes :=
  match parsed.get? .data with
  | some (.data content) => content
  | _ => []

/-- The fields that are stored as signed 64-bit integers. -/
def boundedFields : List Field := [.nonce, .gasLimit, .chainId]

/-- The greatest number that such a column holds. -/
def maxBigint : Nat := 0x7fffffffffffffff

/-- Refuses the first bounded field whose number does not fit its column. -/
def checkRange (parsed : Parsed) : Except Refusal Unit :=
  boundedFields.forM fun field =>
    match parsed.number? field with
    | some n => if maxBigint < n then .error (.outOfRange field n) else .ok ()
    | none => .ok ()

end Parsed

end EvmIndexer.Envelope
