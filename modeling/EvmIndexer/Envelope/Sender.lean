import EvmIndexer.Address
import EvmIndexer.Curve.Secp256k1
import EvmIndexer.Envelope.Parsed

/-!
# The sender of an envelope

The sender signed the hash of the fields, so the fields are encoded once more,
without the signature, and here they are read strictly: a number has no leading
zero byte, an access list is made of twenty-byte addresses and 32-byte keys,
blob hashes and authorizations are well formed and not absent. A list without
members is taken for the number zero, and is signed as one.

A legacy signature whose recovery number names a chain covers that chain too,
followed by two zeros. All other envelopes are signed behind their type byte.
-/

namespace EvmIndexer.Envelope

/-- A number without leading zeros; a list without members counts as zero. -/
def strictNumber? : Rlp.Item → Option Nat
  | .bytes content =>
    if content.head? = some 0 then none else some content.toNat
  | .list [] => some 0
  | .list (_ :: _) => none

/-- Whether an item is a byte string of the given size. -/
def isBytesOf (size : Nat) : Rlp.Item → Bool
  | .bytes content => content.length == size
  | .list _ => false

/-- Whether an item is an entry of an access list: an address and its keys. -/
def isAccessEntry : Rlp.Item → Bool
  | .list [address, .list keys] =>
    isBytesOf Address.size address && keys.all (isBytesOf 32)
  | _ => false

/-- An authorization with its numbers in the form in which they are signed. -/
def signedAuthorization? : Rlp.Item → Option Rlp.Item
  | .list [chainId, address, nonce, parity, r, s] => do
    let chainId ← strictNumber? chainId
    let nonce ← strictNumber? nonce
    let parity ← strictNumber? parity
    let r ← strictNumber? r
    let s ← strictNumber? s
    if isBytesOf Address.size address && parity ≤ 1 then
      some (.list [.ofNat chainId, address, .ofNat nonce, .ofNat parity,
        .ofNat r, .ofNat s])
    else none
  | _ => none

/-- A field in the form in which it is signed, if it is well formed. -/
def signedItem? (field : Field) (item : Rlp.Item) : Option Rlp.Item :=
  match field with
  | .recipient =>
    if isBytesOf 0 item || isBytesOf Address.size item then some item else none
  | .data => item.bytes?.map fun _ => item
  | .accessList => do
    let entries ← item.list?
    if entries.all isAccessEntry then some item else none
  | .blobVersionedHashes => do
    let hashes ← item.list?
    if !hashes.isEmpty && hashes.all (isBytesOf 32) then some item else none
  | .authorizationList => do
    let entries ← item.list?
    let signed ← entries.mapM signedAuthorization?
    if signed.isEmpty then none else some (.list signed)
  | .chainId | .nonce | .gasPrice | .maxPriorityFeePerGas | .maxFeePerGas
  | .gasLimit | .value | .maxFeePerBlobGas =>
    (strictNumber? item).map Rlp.Item.ofNat

/-- The parity of the point that a recovery number stands for. -/
def parityOf? (v : Nat) : Option Nat :=
  if v = 0 ∨ v = 27 then some 0
  else if v = 1 ∨ v = 28 then some 1
  else if 35 ≤ v then some ((v - 35) % 2)
  else none

namespace Parsed

def layout (parsed : Parsed) : List Field :=
  (typedLayout? parsed.type).getD legacyLayout

/-- The fields in the form in which they are signed. -/
def signedItems? (parsed : Parsed) : Option (List Rlp.Item) :=
  (parsed.layout.zip parsed.items).mapM fun (field, item) =>
    signedItem? field item

/-- The bytes whose hash is signed, given the recovery number. -/
def signedBytes? (parsed : Parsed) (v : Nat) : Option Bytes := do
  let items ← parsed.signedItems?
  if parsed.type = 0 then
    let chain := match chainOfRecovery? v with
      | some chain => [Rlp.Item.ofNat chain, .ofNat 0, .ofNat 0]
      | none => []
    return (Rlp.Item.list (items ++ chain)).encode
  else
    return UInt8.ofNat parsed.type :: (Rlp.Item.list items).encode

/-- The numbers of the signature, if they are well formed. -/
def signatureNumbers? (parsed : Parsed) : Option (Nat × Nat × Nat) :=
  match parsed.items.drop parsed.layout.length with
  | [v, r, s] => do
    let v ← strictNumber? v
    let r ← strictNumber? r
    let s ← strictNumber? s
    return (v, r, s)
  | _ => none

/-- The address of the sender, if the envelope is well formed throughout and the
signature belongs to some key. -/
def sender? (parsed : Parsed) : Option Bytes := do
  let (v, r, s) ← parsed.signatureNumbers?
  let signed ← parsed.signedBytes? v
  let parity ← parityOf? v
  let key ← Secp256k1.Signature.publicKey? (keccak256 signed) ⟨parity, r, s⟩
  return Address.ofPublicKey key

end Parsed

end EvmIndexer.Envelope
