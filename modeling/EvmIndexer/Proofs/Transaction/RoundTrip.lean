import EvmIndexer.Proofs.Envelope.Canonical
import EvmIndexer.Proofs.Hash.Rows
import EvmIndexer.Transaction.Decode

/-!
# Decoding undoes the signing of a transaction

The canonical envelope of a signed transaction decodes to the row of that
transaction. There are three ends and no other: a number that does not fit its
column is refused before anything else is looked at, a signature that no key
made is refused next, and every other envelope gives its row.

The row is written out here from the fields, kind by kind, without the parsed
form that decoding goes through. What joins the two sides is that the parsed
form answers every question about a field as the fields themselves do.
-/

namespace EvmIndexer

open Rlp (Item)

namespace Envelope

/-- The price of gas; the kinds with a fee market have none. -/
def Terms.gasPrice? : Terms → Option Nat
  | .legacy gasPrice | .accessList _ gasPrice _ => some gasPrice
  | .feeMarket .. | .blob .. | .setCode .. => none

/-- The greatest fee for a unit of gas, in a fee market. -/
def Terms.maxFee? : Terms → Option Nat
  | .legacy .. | .accessList .. => none
  | .feeMarket _ _ maxFee _ | .blob _ _ maxFee _ _ _ | .setCode _ _ maxFee _ _ =>
    some maxFee

/-- The greatest part of the fee that goes to the block's proposer, in a fee
market. -/
def Terms.maxPriorityFee? : Terms → Option Nat
  | .legacy .. | .accessList .. => none
  | .feeMarket _ maxPriorityFee _ _ | .blob _ maxPriorityFee _ _ _ _
  | .setCode _ maxPriorityFee _ _ _ => some maxPriorityFee

namespace Signed

/-- The number of each field that holds one. -/
def number? (tx : Signed) : Field → Option Nat
  | .chainId => tx.chainId?
  | .nonce => some tx.call.nonce
  | .gasPrice => tx.terms.gasPrice?
  | .maxPriorityFeePerGas => tx.terms.maxPriorityFee?
  | .maxFeePerGas => tx.terms.maxFee?
  | .gasLimit => some tx.call.gasLimit
  | .value => some tx.call.value
  | .recipient | .data | .accessList | .maxFeePerBlobGas
  | .blobVersionedHashes | .authorizationList => none

/-! ## What the parsed form answers -/

theorem number?_parsed (tx : Signed) (field : Field) :
    tx.parsed.number? field = tx.number? field := by
  obtain ⟨call, terms, v, r, s⟩ := tx
  cases terms with
  | legacy gasPrice =>
      simp only [parsed, number?]
      generalize chainId? _ = chain
      cases chain <;> cases field <;> rfl
  | _ => cases field <;> rfl

theorem recipient?_parsed (tx : Signed) :
    tx.parsed.recipient? = tx.call.recipient? := by
  obtain ⟨call, terms, v, r, s⟩ := tx
  cases terms <;> rfl

theorem data_parsed (tx : Signed) : tx.parsed.data = tx.call.data := by
  obtain ⟨call, terms, v, r, s⟩ := tx
  cases terms <;> rfl

theorem checkRange_parsed (tx : Signed) :
    tx.parsed.checkRange =
      match tx.overflow? with
      | some (field, n) => .error (.outOfRange field n)
      | none => .ok () := by
  unfold Parsed.checkRange Parsed.boundedFields overflow?
  simp only [number?_parsed, List.forM_eq_forM, List.forM_cons, List.forM_nil,
    number?]
  by_cases hnonce : Parsed.maxBigint < tx.call.nonce
  · simp only [if_pos hnonce]
    rfl
  · simp only [if_neg hnonce, ok_bind]
    by_cases hgas : Parsed.maxBigint < tx.call.gasLimit
    · simp only [if_pos hgas]
      rfl
    · simp only [if_neg hgas, ok_bind]
      cases tx.chainId? with
      | none => rfl
      | some chain =>
          simp only [Option.bind_some]
          split <;> rfl

/-! ## The sender

Recovery reads the parsed items once more, strictly. Canonical numbers pass
unchanged, so what is signed is what the fields and the rewritten parts say. -/

theorem strictNumber?_ofNat (n : Nat) : strictNumber? (.ofNat n) = some n := by
  rw [Item.ofNat, strictNumber?, if_neg (Bytes.head?_ofNat_ne_zero n),
    Bytes.toNat_ofNat]

theorem signedItem?_number {field : Field} (hfield : field ∈
    [.chainId, .nonce, .gasPrice, .maxPriorityFeePerGas, .maxFeePerGas,
      .gasLimit, .value]) (n : Nat) :
    signedItem? field (.ofNat n) = some (.ofNat n) := by
  have hread : signedItem? field (.ofNat n) =
      (strictNumber? (.ofNat n)).map Item.ofNat := by
    fin_cases hfield <;> rfl
  rw [hread, strictNumber?_ofNat, Option.map_some]

theorem signedItem?_recipientItem (call : Call) :
    signedItem? .recipient call.recipientItem = some call.recipientItem := by
  unfold Call.recipientItem Call.recipient?
  cases call.recipient with
  | none => rfl
  | some address =>
      obtain ⟨address, hlength⟩ := address
      simp [signedItem?, isBytesOf, hlength]

theorem length_items (call : Call) (terms : Terms) :
    (call.items terms).length = terms.layout.length := by
  cases terms <;> rfl

theorem layout_parsed (tx : Signed) : tx.parsed.layout = tx.terms.layout := rfl

theorem signatureNumbers?_parsed (tx : Signed) :
    tx.parsed.signatureNumbers? = some (tx.v, tx.r, tx.s) := by
  have hdrop : tx.parsed.items.drop tx.parsed.layout.length =
      [.ofNat tx.v, .ofNat tx.r, .ofNat tx.s] := by
    rw [layout_parsed, ← length_items tx.call]
    exact List.drop_left
  rw [Parsed.signatureNumbers?, hdrop]
  simp only [strictNumber?_ofNat]
  rfl

theorem signedItems?_parsed (tx : Signed) :
    tx.parsed.signedItems? = tx.terms.signed?.map tx.call.items := by
  have hzip : tx.parsed.layout.zip tx.parsed.items =
      tx.terms.layout.zip (tx.call.items tx.terms) := by
    rw [layout_parsed]
    show tx.terms.layout.zip (tx.call.items tx.terms ++ _) = _
    rw [← List.append_nil (tx.terms.layout),
      List.zip_append (length_items tx.call tx.terms).symm]
    simp
  have hdata : signedItem? .data (.bytes tx.call.data) =
      some (.bytes tx.call.data) := rfl
  rw [Parsed.signedItems?, hzip]
  cases hkind : tx.terms with
  | legacy gasPrice =>
      simp [Terms.layout, Terms.type, typedLayout?, legacyLayout, Call.items,
        Terms.signed?, signedItem?_number, signedItem?_recipientItem, hdata]
  | accessList chainId gasPrice access =>
      cases haccess : signedItem? .accessList access <;>
        simp [Terms.layout, Terms.type, typedLayout?, Call.items,
          Terms.signed?, signedItem?_number, signedItem?_recipientItem, hdata,
          haccess]
  | feeMarket chainId maxPriorityFee maxFee access =>
      cases haccess : signedItem? .accessList access <;>
        simp [Terms.layout, Terms.type, typedLayout?, feeMarketLayout,
          Call.items, Call.feeMarketItems, Terms.signed?, signedItem?_number,
          signedItem?_recipientItem, hdata, haccess]
  | blob chainId maxPriorityFee maxFee access maxBlobFee blobHashes =>
      cases haccess : signedItem? .accessList access <;>
        cases hfee : signedItem? .maxFeePerBlobGas maxBlobFee <;>
        cases hhashes : signedItem? .blobVersionedHashes blobHashes <;>
        simp [Terms.layout, Terms.type, typedLayout?, feeMarketLayout,
          Call.items, Call.feeMarketItems, Terms.signed?, signedItem?_number,
          signedItem?_recipientItem, hdata, haccess, hfee, hhashes]
  | setCode chainId maxPriorityFee maxFee access authorizations =>
      cases haccess : signedItem? .accessList access <;>
        cases hauth : signedItem? .authorizationList authorizations <;>
        simp [Terms.layout, Terms.type, typedLayout?, feeMarketLayout,
          Call.items, Call.feeMarketItems, Terms.signed?, signedItem?_number,
          signedItem?_recipientItem, hdata, haccess, hauth]

theorem signedBytes?_parsed (tx : Signed) :
    tx.parsed.signedBytes? tx.v = tx.signedBytes? := by
  have htype : tx.parsed.type = tx.terms.type := rfl
  rw [Parsed.signedBytes?, signedBytes?, signedItems?_parsed, htype]
  cases htx : tx.terms.signed? with
  | none => rfl
  | some terms =>
      simp only [Option.map_some, Option.bind_eq_bind, Option.bind_some, frame]
      cases hkind : tx.terms with
      | legacy gasPrice =>
          simp only [Terms.type, chainOfRecovery?, chainItems, chainId?, hkind]
          by_cases hv : 35 ≤ tx.v <;> simp [hv]
      | _ => simp [Terms.type, chainItems, hkind]

theorem sender?_parsed (tx : Signed) : tx.parsed.sender? = tx.sender? := by
  rw [Parsed.sender?, signatureNumbers?_parsed, sender?]
  simp only [Option.bind_eq_bind, Option.bind_some, signedBytes?_parsed]

/-! ## The row -/

/-- The row of a transaction that was signed by the given address. The kinds
with a fee market have both fees and the price zero, the others have a price and
no fees. -/
def transaction (tx : Signed) (txId : String) (gasUsed : Option Int)
    (sender : Bytes) : Transaction :=
  let data := tx.call.data
  let selector :=
    if 4 ≤ data.length then some (Bytes.Hex.marked (data.take 4)) else none
  let signature := selector.bind Signature.ofSelector?
  { txId := txId
    hash := Bytes.Hex.marked (keccak256 tx.encode)
    sender := Address.checksummed sender
    recipient := tx.call.recipient?.map Address.checksummed
    nonce := tx.call.nonce
    gasLimit := tx.call.gasLimit
    gasPrice := tx.terms.gasPrice?.getD 0
    maxFeePerGas := tx.terms.maxFee?.map Int.ofNat
    maxPriorityFeePerGas := tx.terms.maxPriorityFee?.map Int.ofNat
    value := tx.call.value
    data := some (Bytes.Hex.marked data)
    type := tx.terms.type
    chainId := tx.chainId?.map Int.ofNat
    gasUsed := gasUsed
    status := .success
    functionName := signature.map Signature.name
    functionSignature := signature <|> selector }

theorem ofParsed_parsed (tx : Signed) (txId : String) (gasUsed : Option Int)
    (sender : Bytes) :
    Transaction.ofParsed txId gasUsed tx.encode tx.parsed sender =
      tx.transaction txId gasUsed sender := by
  have hprice : ((tx.terms.gasPrice?.map Int.ofNat).getD 0) =
      ((tx.terms.gasPrice?.getD 0 : Nat) : Int) := by
    cases tx.terms.gasPrice? <;> rfl
  simp only [Transaction.ofParsed, transaction, number?_parsed, number?,
    recipient?_parsed, data_parsed, hprice]
  rfl

end Signed

end Envelope

/-- The canonical envelope of a signed transaction decodes to its row if nonce,
gas limit and chain fit their columns and the signature belongs to a key; in
every other case the first of these that fails is named. The bound is that of
the encoding: a longer list of items has no envelope. -/
theorem Transaction.decode_canonical (tx : Envelope.Signed) (txId : String)
    (gasUsed : Option Int)
    (hsize : (Rlp.encodeAll tx.items).length < Rlp.maxPayload) :
    Transaction.decode (.bytes tx.encode) txId gasUsed =
      match tx.overflow?, tx.sender? with
      | some (field, n), _ => .error (.outOfRange field n)
      | none, none => .error .noSender
      | none, some sender => .ok (tx.transaction txId gasUsed sender) := by
  have hne : tx.encode.isEmpty = false := by
    have hpos := Rlp.length_encode_pos (.list tx.items)
    unfold Envelope.Signed.encode Envelope.Signed.frame
    split
    · exact List.isEmpty_eq_false_iff.2 (List.length_pos_iff.1 hpos)
    · rfl
  have hbytes : RawEnvelope.bytes? (.bytes tx.encode) = .ok tx.encode := by
    simp [RawEnvelope.bytes?, hne, bind, Except.bind]
  rw [Transaction.decode, hbytes, Envelope.ok_bind, Transaction.ofEnvelope,
    Envelope.Signed.parse_encode hsize, Envelope.ok_bind,
    Envelope.Signed.checkRange_parsed, Envelope.Signed.sender?_parsed]
  cases tx.overflow? with
  | some slot => rfl
  | none =>
      rw [Envelope.ok_bind]
      cases tx.sender? with
      | none => rfl
      | some sender => simp only [Envelope.Signed.ofParsed_parsed]

/-- A creation in a blob envelope with an access list. -/
def Envelope.Signed.blobCreation (nonce : Nat) : Envelope.Signed where
  call := {
    nonce := nonce
    gasLimit := 21000
    recipient := none
    value := 10 ^ 18
    data := List.replicate 60 0x60 }
  terms := .blob 1 2 3
    (.list [.list [.bytes (List.replicate 20 0xab),
      .list [.bytes (List.replicate 32 0)]]])
    (.ofNat 7) (.list [.bytes (List.replicate 32 1)])
  v := 1
  r := 6
  s := 2 ^ 255

/-- With the greatest nonce it decodes and its sender is recovered, with the next one it is
refused. -/
theorem Transaction.decode_blobCreation :
    let greatest := Envelope.Signed.blobCreation (2 ^ 63 - 1)
    let next := Envelope.Signed.blobCreation (2 ^ 63)
    let sender : Bytes := [0x63, 0x0a, 0x37, 0x46, 0x76, 0x80, 0x9c, 0x74, 0x40, 0xd6, 0x82,
      0x69, 0x4a, 0xcf, 0x3b, 0x6d, 0xb2, 0x7c, 0x8c, 0xce]
    (Rlp.encodeAll greatest.items).length < Rlp.maxPayload ∧
    greatest.sender? = some sender ∧
    Transaction.decode (.bytes greatest.encode) "tx" none =
      .ok (greatest.transaction "tx" none sender) ∧
    Transaction.decode (.bytes next.encode) "tx" none =
      .error (.outOfRange .nonce (2 ^ 63)) := by
  intro greatest next sender
  have hsize : ∀ nonce ∈ [2 ^ 63 - 1, 2 ^ 63],
      (Rlp.encodeAll (Envelope.Signed.blobCreation nonce).items).length <
        Rlp.maxPayload := by decide +kernel
  have hfits : greatest.overflow? = none := by decide +kernel
  have hlate : next.overflow? = some (.nonce, 2 ^ 63) := by decide +kernel
  have hsender : greatest.sender? = some sender := by
    simp only [Envelope.Signed.sender?, Address.ofPublicKey, keccak256_eq]
    decide +kernel
  have htaken := Transaction.decode_canonical greatest "tx" none (hsize _ (by simp))
  have hrefused := Transaction.decode_canonical next "tx" none (hsize _ (by simp))
  rw [hfits, hsender] at htaken
  rw [hlate] at hrefused
  exact ⟨hsize _ (by simp), hsender, htaken, hrefused⟩

end EvmIndexer
