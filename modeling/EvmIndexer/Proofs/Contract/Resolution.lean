import EvmIndexer.Proofs.Contract.Derivation
import EvmIndexer.Proofs.Outcome.Building
import EvmIndexer.Proofs.Rlp.Injective
import EvmIndexer.Proofs.Text.LowerCase
import EvmIndexer.Proofs.Transaction.Spelling

/-!
# Which contract a decoded transaction leaves

The contract is derived from a row of text: the creator stands there with a checksum,
the code with a mark. In between, the text is read back by readers of their own. What
comes out is the contract that the bytes of the envelope say, as if there had been no
text. The checksum changes the case of letters and nothing else, so it is lost when
the creator is lowered and makes no difference when the creator is read; and what the
reader of the code gives are the bytes that were written.

Two creations have the same address only if the hash function collides: what is
hashed tells the creator and the nonce, whatever the size of the nonce.
-/

namespace EvmIndexer

open Bytes

namespace Address

/-- Lowering takes the checksum off. -/
theorem lower_checksummed {address : Bytes} (h : address.length = size) :
    Text.lower (checksummed address) = Hex.marked address := by
  have hdigits := spells_checksumDigits h
  have hascii : ∀ c ∈ '0' :: 'x' :: checksumDigits address, c.toNat < 0x80 := by
    intro c hc
    rcases List.mem_cons.1 hc with rfl | hc
    · decide
    rcases List.mem_cons.1 hc with rfl | hc
    · decide
    have hrange := Text.toNat_of_isVisible (hdigits.isVisible hc)
    omega
  rw [Text.lower, checksummed, String.toList_ofList, Text.lowerFrom_of_ascii hascii,
    List.map_cons, List.map_cons, hdigits]
  rfl

end Address

namespace Contract

/-- The contract that the bytes of an envelope say: its sender, its nonce and its
data. -/
def ofBytes (sender : Bytes) (nonce : Nat) (data : Bytes) (txId : String)
    (height : Option Int) : Contract where
  address := Hex.marked ((keccak256 (preimage sender nonce)).drop 12)
  creator := Hex.marked sender
  creationTx := txId
  creationHeight := height
  codeHash := if data = [] then none else some (Hex.marked (keccak256 data))

/-- How the creator is written makes no difference to the address. -/
theorem derive_of_spells {mark digits : List Char} {creator : Bytes}
    (hmark : mark ∈ Hex.marks) (hdigits : Hex.Spells digits creator)
    (hlength : creator.length = 20) (nonce : Int) :
    derive (String.ofList (mark ++ digits)) nonce =
      if nonce < 0 then .error .negativeNonce
      else .ok (Hex.marked ((keccak256 (preimage creator nonce.toNat)).drop 12)) := by
  rw [derive, Address.ofText?_of_spells hmark hdigits hlength]
  rfl

theorem derive_checksummed {sender : Bytes} (hlength : sender.length = 20) (nonce : Nat) :
    derive (Address.checksummed sender) nonce =
      .ok (Hex.marked ((keccak256 (preimage sender nonce)).drop 12)) := by
  have hderived := @derive_of_spells ['0', 'x'] _ _ (by decide)
    (Address.spells_checksumDigits hlength) hlength nonce
  rwa [if_neg (Int.not_lt.2 (Int.natCast_nonneg nonce))] at hderived

theorem ofCreation_checksummed {sender : Bytes} (hlength : sender.length = 20)
    (nonce : Nat) (data : Bytes) (txId : String) (height : Option Int) :
    ofCreation txId (Address.checksummed sender) nonce (some (Hex.marked data)) height =
      .ok (ofBytes sender nonce data txId height) := by
  rw [ofCreation, derive_checksummed hlength, codeHash?_marked,
    Address.lower_checksummed hlength]
  rfl

theorem preimage_injective {a b : Bytes} {m n : Nat} (ha : a.length = 20)
    (hb : b.length = 20) (h : preimage a m = preimage b n) : a = b ∧ m = n := by
  have hlong : 1 < a.length := by omega
  obtain ⟨hcreator, hnonce⟩ := Rlp.pair_encode_injective (ha.trans hb.symm) hlong h
  exact ⟨hcreator, ofNat_injective hnonce⟩

/-- The contract of a row that was derived from an envelope, with any status. -/
theorem ofTransaction?_ofParsed {envelope : Bytes} {parsed : Envelope.Parsed}
    {sender : Bytes} (h : parsed.sender? = some sender) (txId : String)
    (gasUsed : Option Int) (status : Status) (height : Option Int) :
    let tx := Transaction.ofParsed txId gasUsed envelope parsed sender
    ofTransaction? { tx with status := status } height =
      .ok (if tx.recipient = none ∧ status = .success then
        some (ofBytes sender tx.nonce.toNat parsed.data txId height)
      else none) := by
  intro tx
  have hlength : sender.length = 20 := Envelope.Parsed.length_of_sender? h
  have hnonce : ((tx.nonce.toNat : Nat) : Int) = tx.nonce :=
    Int.toNat_of_nonneg (Transaction.derivable_ofParsed h).nonce
  have hsender : (Address.checksummed sender != "") = true :=
    bne_iff_ne.2 (Address.checksummed_ne_empty sender)
  have hcreated := ofCreation_checksummed hlength tx.nonce.toNat parsed.data txId height
  rw [hnonce] at hcreated
  have hcondition : ((tx.recipient.isNone && decide (status = .success) &&
      (Address.checksummed sender != "")) = true) ↔
      (tx.recipient = none ∧ status = .success) := by
    rw [hsender, Bool.and_true, Bool.and_eq_true, Option.isNone_iff_eq_none,
      decide_eq_true_eq]
  show (if (tx.recipient.isNone && decide (status = .success) &&
      (Address.checksummed sender != "")) = true then
    some <$> ofCreation txId (Address.checksummed sender) tx.nonce
      (some (Hex.marked parsed.data)) height else return none) = _
  by_cases hcreates : tx.recipient = none ∧ status = .success
  · rw [if_pos (hcondition.2 hcreates), if_pos hcreates, hcreated]
    rfl
  · rw [if_neg (mt hcondition.1 hcreates), if_neg hcreates]
    rfl

/-- A decoded transaction, whatever its status has become, has a contract exactly if
it has no recipient and succeeded, and never fails to have it derived. The contract is
the one that the envelope says in bytes. The address depends on the creator's bytes
and not on the way they are written, and what is hashed for it tells the creator and
the nonce. -/
theorem resolved_from_bytes :
    (∀ (raw : RawEnvelope) (txId : String) (gasUsed : Option Int) (tx : Transaction)
      (status : Status) (height : Option Int),
      Transaction.decode raw txId gasUsed = .ok tx →
        ∃ envelope parsed sender, raw.bytes? = .ok envelope ∧
          Envelope.parse envelope = .ok parsed ∧ parsed.sender? = some sender ∧
          sender.length = 20 ∧ 0 ≤ tx.nonce ∧
          ofTransaction? { tx with status := status } height =
            .ok (if tx.recipient = none ∧ status = .success then
              some (ofBytes sender tx.nonce.toNat parsed.data txId height)
            else none)) ∧
    (∀ (creator : Bytes) (mark digits : List Char) (nonce : Int),
      creator.length = 20 → mark ∈ Hex.marks → Hex.Spells digits creator →
        derive (String.ofList (mark ++ digits)) nonce =
          if nonce < 0 then .error .negativeNonce
          else .ok (Hex.marked ((keccak256 (preimage creator nonce.toNat)).drop 12))) ∧
    ∀ (a b : Bytes) (m n : Nat), a.length = 20 → b.length = 20 →
      preimage a m = preimage b n → a = b ∧ m = n := by
  refine ⟨?_, fun creator mark digits nonce hlength hmark hdigits =>
    derive_of_spells hmark hdigits hlength nonce, fun a b m n => preimage_injective⟩
  intro raw txId gasUsed tx status height h
  obtain ⟨envelope, henvelope, hdecoded⟩ := exists_of_bind_eq_ok h
  obtain ⟨parsed, sender, hparsed, -, hsender, rfl⟩ :=
    Transaction.ofEnvelope_eq_ok_iff.1 hdecoded
  exact ⟨envelope, parsed, sender, henvelope, hparsed, hsender,
    Envelope.Parsed.length_of_sender? hsender,
    (Transaction.derivable_ofParsed hsender).nonce,
    ofTransaction?_ofParsed hsender txId gasUsed status height⟩

/-- The creator of the address in the test of the derivation. -/
def someCreator : Bytes :=
  [0x6a, 0xc7, 0xea, 0x33, 0xf8, 0x83, 0x1e, 0xa9, 0xdc, 0xc5, 0x33, 0x93, 0xaa, 0xa8,
    0x8b, 0x25, 0xa7, 0x85, 0xdb, 0xf0]

/-- A creation without code leaves a contract unless it failed; an address from digits
in both cases and without a mark; two nonces with different forms of their numbers. -/
theorem resolved_from_bytes_creation :
    (∃ tx contract, Transaction.decode (.text Outcome.creation.raw) "creation" none =
        .ok tx ∧
      ofTransaction? { tx with status := .success } (some 7) = .ok (some contract) ∧
      ofTransaction? { tx with status := .failure } (some 7) = .ok none) ∧
    derive "6AC7ea33f8831ea9dcc53393aaa88b25a785DBF0" 0 =
      .ok "0xcd234a471b72ba2f1ccf0a70fcaba648a5eecd8d" ∧
    preimage someCreator 127 ≠ preimage someCreator 128 := by
  obtain ⟨hresolve, hderive, hinjective⟩ := resolved_from_bytes
  refine ⟨?_, ?_, fun hsame => ?_⟩
  · obtain ⟨tx, hdecode⟩ := Outcome.exists_decode_creation
    have hrecipient : tx.recipient = none := by
      have hcreates : ((RawEnvelope.text Outcome.creation.raw).bytes? >>=
          Envelope.parse).toOption.map (·.recipient?) = some none := by decide +kernel
      obtain ⟨envelope, henvelope, hdecoded⟩ := exists_of_bind_eq_ok hdecode
      obtain ⟨parsed, sender, hparsed, -, -, rfl⟩ :=
        Transaction.ofEnvelope_eq_ok_iff.1 hdecoded
      have hread : ((RawEnvelope.text Outcome.creation.raw).bytes? >>=
          Envelope.parse) = .ok parsed := by
        rw [henvelope]
        exact hparsed
      rw [hread] at hcreates
      have hnone : parsed.recipient? = none := Option.some.inj hcreates
      show parsed.recipient?.map Address.checksummed = none
      rw [hnone]
      rfl
    obtain ⟨_, _, _, -, -, -, -, -, hsuccess⟩ :=
      hresolve _ _ _ tx .success (some 7) hdecode
    obtain ⟨_, _, _, -, -, -, -, -, hfailure⟩ :=
      hresolve _ _ _ tx .failure (some 7) hdecode
    rw [if_pos ⟨hrecipient, rfl⟩] at hsuccess
    rw [if_neg (fun hboth => nomatch hboth.2)] at hfailure
    exact ⟨tx, _, hdecode, hsuccess, hfailure⟩
  · have hdigits : Hex.Spells "6AC7ea33f8831ea9dcc53393aaa88b25a785DBF0".toList
        someCreator := by
      unfold Hex.Spells
      decide +kernel
    have haddress : Hex.marked ((keccak256 (preimage someCreator 0)).drop 12) =
        "0xcd234a471b72ba2f1ccf0a70fcaba648a5eecd8d" := by
      rw [keccak256_eq]
      decide +kernel
    rw [← haddress]
    exact hderive someCreator [] _ 0 rfl (by decide) hdigits
  · exact absurd (hinjective _ _ _ _ rfl rfl hsame).2 (by decide)

end Contract

end EvmIndexer
