import EvmIndexer.Envelope.Sender
import EvmIndexer.Proofs.Rlp.RoundTrip
import Mathlib.Data.List.Forall2
import Mathlib.Tactic.FinCases

/-!
# The canonical envelope of a signed transaction

An envelope is written here from the values of its fields, one list of items for
each of the five kinds of transaction and without the layouts that the parser
reads by. Parsing gives every value back in its field, and the sender that is
recovered from the parsed items is the one that the fields and the signature
determine.

The parts that no column holds are carried as items. Recovery may rewrite them
before they are signed, which is what `Terms.signed?` says, and refuses an
envelope whose parts it cannot rewrite.
-/

namespace EvmIndexer

/-- A result behind a step was reached through a result of the step. -/
theorem exists_of_bind_eq_ok {ε α β : Type} {step : Except ε α}
    {next : α → Except ε β} {b : β} (h : step >>= next = .ok b) :
    ∃ a, step = .ok a ∧ next a = .ok b := by
  cases step with
  | error fault => cases h
  | ok a => exact ⟨a, rfl, h⟩

theorem exists_of_isSome_toOption {ε α : Type} {result : Except ε α}
    (h : result.toOption.isSome = true) : ∃ a, result = .ok a := by
  cases result with
  | error fault => cases h
  | ok a => exact ⟨a, rfl⟩

namespace Envelope

open Rlp (Item)

/-- What the transactions of every kind have. -/
structure Call where
  nonce : Nat
  gasLimit : Nat
  /-- Twenty bytes; a creation has none. -/
  recipient : Option { address : Bytes // address.length = Address.size }
  value : Nat
  data : Bytes

/-- What sets the kinds apart. -/
inductive Terms where
  | legacy (gasPrice : Nat)
  | accessList (chainId gasPrice : Nat) (accessList : Item)
  | feeMarket (chainId maxPriorityFee maxFee : Nat) (accessList : Item)
  | blob (chainId maxPriorityFee maxFee : Nat)
      (accessList maxBlobFee blobHashes : Item)
  | setCode (chainId maxPriorityFee maxFee : Nat)
      (accessList authorizations : Item)

/-- The type of an envelope of a kind. -/
def Terms.type : Terms → Nat
  | .legacy .. => 0
  | .accessList .. => 1
  | .feeMarket .. => 2
  | .blob .. => 3
  | .setCode .. => 4

/-- The terms as they are signed, if every part is well formed. -/
def Terms.signed? : Terms → Option Terms
  | .legacy gasPrice => some (.legacy gasPrice)
  | .accessList chainId gasPrice access => do
    let access ← signedItem? .accessList access
    return .accessList chainId gasPrice access
  | .feeMarket chainId maxPriorityFee maxFee access => do
    let access ← signedItem? .accessList access
    return .feeMarket chainId maxPriorityFee maxFee access
  | .blob chainId maxPriorityFee maxFee access maxBlobFee blobHashes => do
    let access ← signedItem? .accessList access
    let maxBlobFee ← signedItem? .maxFeePerBlobGas maxBlobFee
    let blobHashes ← signedItem? .blobVersionedHashes blobHashes
    return .blob chainId maxPriorityFee maxFee access maxBlobFee blobHashes
  | .setCode chainId maxPriorityFee maxFee access authorizations => do
    let access ← signedItem? .accessList access
    let authorizations ← signedItem? .authorizationList authorizations
    return .setCode chainId maxPriorityFee maxFee access authorizations

/-- The bytes of the recipient. -/
def Call.recipient? (call : Call) : Option Bytes := call.recipient.map (·.val)

/-- The item of a recipient. -/
def Call.recipientItem (call : Call) : Item :=
  .bytes (call.recipient?.getD [])

/-- The items of the fields that the last three kinds share. -/
def Call.feeMarketItems (call : Call) (chainId maxPriorityFee maxFee : Nat)
    (access : Item) : List Item :=
  [.ofNat chainId, .ofNat call.nonce, .ofNat maxPriorityFee, .ofNat maxFee,
    .ofNat call.gasLimit, call.recipientItem, .ofNat call.value,
    .bytes call.data, access]

/-- The items of the fields, in the order of the kind. -/
def Call.items (call : Call) : Terms → List Item
  | .legacy gasPrice =>
    [.ofNat call.nonce, .ofNat gasPrice, .ofNat call.gasLimit,
      call.recipientItem, .ofNat call.value, .bytes call.data]
  | .accessList chainId gasPrice access =>
    [.ofNat chainId, .ofNat call.nonce, .ofNat gasPrice, .ofNat call.gasLimit,
      call.recipientItem, .ofNat call.value, .bytes call.data, access]
  | .feeMarket chainId maxPriorityFee maxFee access =>
    call.feeMarketItems chainId maxPriorityFee maxFee access
  | .blob chainId maxPriorityFee maxFee access maxBlobFee blobHashes =>
    call.feeMarketItems chainId maxPriorityFee maxFee access
      ++ [maxBlobFee, blobHashes]
  | .setCode chainId maxPriorityFee maxFee access authorizations =>
    call.feeMarketItems chainId maxPriorityFee maxFee access
      ++ [authorizations]

/-- A signed transaction. The first number of the signature is the parity of a
point, or names the chain too. -/
structure Signed where
  call : Call
  terms : Terms
  v : Nat
  r : Nat
  s : Nat

namespace Signed

/-- A list of items behind the type byte of the envelope, if it has one. -/
def frame (tx : Signed) (items : List Item) : Bytes :=
  if tx.terms.type = 0 then (Item.list items).encode
  else UInt8.ofNat tx.terms.type :: (Item.list items).encode

/-- The items of the fields and of the signature. -/
def items (tx : Signed) : List Item :=
  tx.call.items tx.terms ++ [.ofNat tx.v, .ofNat tx.r, .ofNat tx.s]

/-- The canonical envelope. -/
def encode (tx : Signed) : Bytes := tx.frame tx.items

/-- The chain that the signature is good for. A legacy signature names it in its
first number, or names none. -/
def chainId? (tx : Signed) : Option Nat :=
  match tx.terms with
  | .legacy _ => if 35 ≤ tx.v then some ((tx.v - 35) / 2) else none
  | .accessList chainId .. | .feeMarket chainId .. | .blob chainId ..
  | .setCode chainId .. => some chainId

/-- What a legacy signature covers besides the fields. -/
def chainItems (tx : Signed) : List Item :=
  match tx.terms, tx.chainId? with
  | .legacy _, some chain => [.ofNat chain, .ofNat 0, .ofNat 0]
  | _, _ => []

/-- The bytes whose hash was signed. -/
def signedBytes? (tx : Signed) : Option Bytes := do
  let terms ← tx.terms.signed?
  return tx.frame (tx.call.items terms ++ tx.chainItems)

/-- The address of the signer, if some key made the signature. -/
def sender? (tx : Signed) : Option Bytes := do
  let signed ← tx.signedBytes?
  let parity ← parityOf? tx.v
  let key ← Secp256k1.Signature.publicKey? (keccak256 signed)
    ⟨parity, tx.r, tx.s⟩
  return Address.ofPublicKey key

/-- The first of nonce, gas limit and chain that does not fit its column. -/
def overflow? (tx : Signed) : Option (Field × Nat) :=
  if Parsed.maxBigint < tx.call.nonce then some (.nonce, tx.call.nonce)
  else if Parsed.maxBigint < tx.call.gasLimit then
    some (.gasLimit, tx.call.gasLimit)
  else tx.chainId?.bind fun chain =>
    if Parsed.maxBigint < chain then some (.chainId, chain) else none

end Signed

/-! ## Parsing

Each item gives its value back, and the items of a kind are read by the layout
of its type. -/

/-- The fields that the last three kinds share. -/
def Call.feeMarketFields (call : Call) (chainId maxPriorityFee maxFee : Nat)
    (access : Item) : List (Field × FieldValue) :=
  [(.chainId, .number chainId), (.nonce, .number call.nonce),
    (.maxPriorityFeePerGas, .number maxPriorityFee),
    (.maxFeePerGas, .number maxFee), (.gasLimit, .number call.gasLimit),
    (.recipient, .recipient call.recipient?), (.value, .number call.value),
    (.data, .data call.data), (.accessList, .unread access)]

/-- The value that stands in each field of a kind. -/
def Call.fields (call : Call) : Terms → List (Field × FieldValue)
  | .legacy gasPrice =>
    [(.nonce, .number call.nonce), (.gasPrice, .number gasPrice),
      (.gasLimit, .number call.gasLimit),
      (.recipient, .recipient call.recipient?), (.value, .number call.value),
      (.data, .data call.data)]
  | .accessList chainId gasPrice access =>
    [(.chainId, .number chainId), (.nonce, .number call.nonce),
      (.gasPrice, .number gasPrice), (.gasLimit, .number call.gasLimit),
      (.recipient, .recipient call.recipient?), (.value, .number call.value),
      (.data, .data call.data), (.accessList, .unread access)]
  | .feeMarket chainId maxPriorityFee maxFee access =>
    call.feeMarketFields chainId maxPriorityFee maxFee access
  | .blob chainId maxPriorityFee maxFee access maxBlobFee blobHashes =>
    call.feeMarketFields chainId maxPriorityFee maxFee access
      ++ [(.maxFeePerBlobGas, .unread maxBlobFee),
        (.blobVersionedHashes, .unread blobHashes)]
  | .setCode chainId maxPriorityFee maxFee access authorizations =>
    call.feeMarketFields chainId maxPriorityFee maxFee access
      ++ [(.authorizationList, .unread authorizations)]

/-- The layout of a kind. -/
def Terms.layout (terms : Terms) : List Field :=
  (typedLayout? terms.type).getD legacyLayout

theorem fields_map_fst (call : Call) (terms : Terms) :
    (call.fields terms).map Prod.fst = terms.layout := by
  cases terms <;> rfl

theorem ok_bind {α β : Type} (a : α) (f : α → Except Refusal β) :
    (Except.ok a >>= f) = f a := rfl

theorem readField_number {field : Field} (hfield : field ∈
    [.chainId, .nonce, .gasPrice, .maxPriorityFeePerGas, .maxFeePerGas,
      .gasLimit, .value]) (n : Nat) :
    readField field (.ofNat n) = .ok (.number n) := by
  have hread : readField field (.ofNat n) =
      .ok (.number (Bytes.toNat (Bytes.ofNat n))) := by
    fin_cases hfield <;> rfl
  rw [hread, Bytes.toNat_ofNat]

theorem readField_recipientItem (call : Call) :
    readField .recipient call.recipientItem =
      .ok (.recipient call.recipient?) := by
  unfold Call.recipientItem Call.recipient?
  cases call.recipient with
  | none => rfl
  | some address =>
      obtain ⟨address, hlength⟩ := address
      change address.length = 20 at hlength
      have hne : address ≠ [] := by
        intro hnil
        rw [hnil] at hlength
        exact absurd hlength (by decide)
      simp [readField, contentOf, ok_bind, hlength, hne]

/-- Every item of a field gives the field's value. -/
theorem readField_items (call : Call) (terms : Terms) :
    List.Forall₂ (fun slot item => readField slot.1 item = .ok slot.2)
      (call.fields terms) (call.items terms) := by
  have hdata : readField .data (.bytes call.data) = .ok (.data call.data) := rfl
  have hunread : ∀ (field : Field) (item : Item), field ∈
      [.accessList, .maxFeePerBlobGas, .blobVersionedHashes,
        .authorizationList] → readField field item = .ok (.unread item) := by
    intro field item hfield
    fin_cases hfield <;> rfl
  cases terms <;>
    simp [Call.fields, Call.items, Call.feeMarketFields, Call.feeMarketItems,
      readField_number, readField_recipientItem, hdata, hunread]

/-- Items that give the values of the fields of a layout are mapped to them. -/
theorem readFields_eq {fields : List (Field × FieldValue)}
    {items signature : List Item} (hsize : signature.length = signatureSize)
    (hread : List.Forall₂ (fun slot item => readField slot.1 item = .ok slot.2)
      fields items) :
    readFields (fields.map Prod.fst) (items ++ signature) = .ok fields := by
  have hlength := hread.length_eq
  rw [readFields, if_neg (by simp [hsize, hlength])]
  clear hsize hlength
  induction hread with
  | nil => rfl
  | cons hslot _ ih =>
      simp only [List.map_cons, List.cons_append, List.zip_cons_cons,
        List.mapM_cons, hslot, ih]
      rfl

namespace Signed

/-- What parsing makes of the canonical envelope. -/
def parsed (tx : Signed) : Parsed where
  type := tx.terms.type
  fields := tx.call.fields tx.terms ++
    match tx.terms with
    | .legacy _ =>
      (tx.chainId?.map fun chain => (Field.chainId, .number chain)).toList
    | _ => []
  items := tx.items

theorem readFields_items (tx : Signed) :
    readFields tx.terms.layout tx.items = .ok (tx.call.fields tx.terms) := by
  rw [← fields_map_fst tx.call tx.terms]
  exact readFields_eq rfl (readField_items tx.call tx.terms)

theorem readPayload_encode {items : List Item}
    (hsize : (Rlp.encodeAll items).length < Rlp.maxPayload) :
    readPayload (Item.list items).encode = .ok items := by
  have hread : Rlp.decode (Item.list items).encode = some (.list items) :=
    Rlp.decode_encode (by rwa [Item.payload])
  rw [readPayload, hread]

theorem parseTyped_encode {tx : Signed} (htype : tx.terms.type ≠ 0)
    (hsize : (Rlp.encodeAll tx.items).length < Rlp.maxPayload) :
    parseTyped tx.terms.type (Item.list tx.items).encode = .ok tx.parsed := by
  have hfields := tx.readFields_items
  have hlayout : typedLayout? tx.terms.type = some tx.terms.layout := by
    unfold Terms.layout
    cases hkind : tx.terms with
    | legacy => rw [hkind] at htype; exact absurd rfl htype
    | _ => rfl
  have hparsed : tx.parsed =
      ⟨tx.terms.type, tx.call.fields tx.terms, tx.items⟩ := by
    unfold parsed
    cases hkind : tx.terms with
    | legacy => rw [hkind] at htype; exact absurd rfl htype
    | _ => simp only [List.append_nil]
  rw [hparsed, parseTyped, hlayout]
  simp only [readPayload_encode hsize, hfields, ok_bind]
  rfl

theorem parseLegacy_encode {tx : Signed} (htype : tx.terms.type = 0)
    (hsize : (Rlp.encodeAll tx.items).length < Rlp.maxPayload) :
    parseLegacy (Item.list tx.items).encode = .ok tx.parsed := by
  have hfields := tx.readFields_items
  cases hkind : tx.terms with
  | legacy gasPrice =>
      have hrecovery : recoveryNumber
          (tx.items.getD legacyLayout.length (.list [])) = .ok tx.v := by
        simp [items, hkind, Call.items, legacyLayout, recoveryNumber,
          Item.ofNat]
      have hchain : chainOfRecovery? tx.v = tx.chainId? := by
        simp [chainOfRecovery?, chainId?, hkind]
      simp only [hkind, Terms.layout, Terms.type, typedLayout?,
        Option.getD_none] at hfields
      simp only [parseLegacy, readPayload_encode hsize, hfields, hrecovery,
        hchain, ok_bind, parsed, hkind, Terms.type]
      rfl
  | _ => rw [hkind] at htype; exact absurd htype (Nat.succ_ne_zero _)

/-- Parsing gives every value of the canonical envelope back. -/
theorem parse_encode {tx : Signed}
    (hsize : (Rlp.encodeAll tx.items).length < Rlp.maxPayload) :
    parse tx.encode = .ok tx.parsed := by
  unfold encode frame
  split
  · next htype =>
      obtain ⟨first, digits, hhead, hlow, -, -⟩ :=
        Rlp.readPayload_head (by omega : 192 + 63 < 256) hsize []
      have hcons : (Item.list tx.items).encode =
          first :: (digits ++ Rlp.encodeAll tx.items) := by
        rw [Item.encode, hhead, List.cons_append]
      rw [← parseLegacy_encode htype hsize, hcons, parse, if_neg (by omega),
        if_neg (by omega)]
  · next htype =>
      have hsmall : tx.terms.type ≤ 4 := by
        cases tx.terms <;> simp [Terms.type]
      have hbyte : (UInt8.ofNat tx.terms.type).toNat = tx.terms.type := by
        simp only [UInt8.toNat_ofNat']
        omega
      rw [parse, hbyte, if_pos (by omega)]
      exact parseTyped_encode htype hsize

end Signed

end Envelope

end EvmIndexer
