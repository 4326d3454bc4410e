import EvmIndexer.Proofs.Envelope.Spelling
import EvmIndexer.Proofs.Hash.Rows
import EvmIndexer.Transaction.Decode

/-!
# The envelopes of one transaction

What an envelope says is its type, its fields and the numbers of its signature.
Among the envelopes that decode, those that say the same as a given one are that
one and its respelling. The two are the same bytes unless the first number of the
signature is zero. So a transaction has one envelope if that number is not zero,
and otherwise two, whose rows differ in nothing but the hash.
-/

namespace EvmIndexer

open Envelope (Parsed)

/-- Whether two envelopes that were parsed say the same. -/
structure Envelope.Parsed.SaysSame (parsed other : Parsed) : Prop where
  type : other.type = parsed.type
  fields : other.fields = parsed.fields
  numbers : other.signatureNumbers? = parsed.signatureNumbers?

namespace Transaction

variable {envelope : Bytes} {txId : String} {gasUsed : Option Int}
  {tx : Transaction}

theorem ofEnvelope_eq_ok_iff :
    ofEnvelope txId gasUsed envelope = .ok tx ↔
      ∃ parsed sender, Envelope.parse envelope = .ok parsed ∧
        parsed.checkRange = .ok () ∧ parsed.sender? = some sender ∧
        tx = ofParsed txId gasUsed envelope parsed sender := by
  constructor
  · intro h
    obtain ⟨parsed, hparsed, h⟩ := exists_of_bind_eq_ok h
    obtain ⟨_, hrange, h⟩ := exists_of_bind_eq_ok h
    split at h
    · next sender hsender =>
        cases h
        exact ⟨parsed, sender, hparsed, hrange, hsender, rfl⟩
    · cases h
  · rintro ⟨parsed, sender, hparsed, hrange, hsender, rfl⟩
    rw [ofEnvelope, hparsed, Envelope.ok_bind, hrange, Envelope.ok_bind,
      hsender]

/-- The spellings of a transaction. An envelope that decodes says the same as a
given one exactly if it is that one or its respelling. The respelling is another
envelope exactly if the first number of the signature is zero, and it decodes to
the same row with another hash. -/
theorem spellings_of_decoded {parsed : Parsed}
    (hparsed : Envelope.parse envelope = .ok parsed)
    (h : decode (.bytes envelope) txId gasUsed = .ok tx) :
    (∀ other : Bytes,
      (∃ said tx', Envelope.parse other = .ok said ∧
        decode (.bytes other) txId gasUsed = .ok tx' ∧ parsed.SaysSame said) ↔
      other = envelope ∨ other = parsed.respell.bytes) ∧
    (parsed.respell.bytes = envelope ↔
      ∀ r s, parsed.signatureNumbers? ≠ some (0, r, s)) ∧
    decode (.bytes parsed.respell.bytes) txId gasUsed =
      .ok { tx with
        hash := Bytes.Hex.marked (keccak256 parsed.respell.bytes) } := by
  simp only [decode_bytes] at h ⊢
  obtain ⟨_, sender, hparsed', hrange, hsender, rfl⟩ := ofEnvelope_eq_ok_iff.1 h
  rw [hparsed] at hparsed'
  cases hparsed'
  obtain ⟨htype, hbytes, hsize, hitems⟩ := Envelope.eq_bytes_of_parse hparsed
  obtain ⟨front, first, v, r, s, hsplit, hfront, hspelled, hfirst, hnumbers⟩ :=
    Parsed.items_eq_of_sender? hitems hsender
  have hrespelled := Parsed.items_respell hsplit hfront
  have hagain : Envelope.parse parsed.respell.bytes = .ok parsed.respell := by
    have hsize' := hsize
    rw [← Parsed.length_encodeAll_respell hitems] at hsize'
    rw [← Parsed.ofItems_respell hitems]
    exact Envelope.parse_spell htype hsize'
  have hdecoded : ofEnvelope txId gasUsed parsed.respell.bytes =
      .ok { ofParsed txId gasUsed envelope parsed sender with
        hash := Bytes.Hex.marked (keccak256 parsed.respell.bytes) } := by
    refine ofEnvelope_eq_ok_iff.2 ⟨parsed.respell, sender, hagain, hrange, ?_, rfl⟩
    rw [Parsed.sender?_respell hitems, hsender]
  refine ⟨fun other => ⟨?_, ?_⟩, ?_, hdecoded⟩
  · rintro ⟨said, tx', hsaid, hdecoded', hsame⟩
    obtain ⟨_, sender', hsaid', -, hsender', -⟩ :=
      ofEnvelope_eq_ok_iff.1 hdecoded'
    rw [hsaid] at hsaid'
    cases hsaid'
    obtain ⟨-, hbytes', -, hitems'⟩ := Envelope.eq_bytes_of_parse hsaid
    obtain ⟨front', first', v', r', s', hsplit', -, hspelled', hfirst',
      hnumbers'⟩ := Parsed.items_eq_of_sender? hitems' hsender'
    have hlayout : said.layout = parsed.layout := by
      unfold Parsed.layout
      rw [hsame.type]
    rw [hsame.fields, hlayout, ← hspelled] at hspelled'
    rw [hsame.numbers, hnumbers] at hnumbers'
    cases hnumbers'
    -- only the first item of the signature is left to differ
    rw [hbytes, hbytes', Parsed.bytes, Parsed.bytes, Parsed.bytes, hsplit, hsplit',
      hrespelled, hspelled', hsame.type]
    rcases Envelope.eq_or_eq_respellZero hfirst hfirst' with rfl | rfl
    · exact Or.inl rfl
    · exact Or.inr rfl
  · rintro (rfl | rfl)
    · exact ⟨parsed, _, hparsed, h, rfl, rfl, rfl⟩
    · exact ⟨parsed.respell, _, hagain, hdecoded, rfl, rfl,
        Parsed.signatureNumbers?_respell hitems⟩
  · have hself : parsed.respell.bytes = envelope ↔
        Envelope.respellZero first = first := by
      constructor
      · intro hsame
        rw [hsame, hparsed] at hagain
        have hsame' := congrArg Parsed.items (Except.ok.inj hagain)
        rw [hrespelled, hsplit] at hsame'
        simpa using hsame'.symm
      · intro hsame
        rw [hbytes, Parsed.bytes, Parsed.bytes, hrespelled, hsame, hsplit]
        rfl
    rw [hself, Envelope.respellZero_eq_self_iff hfirst, hnumbers]
    simp

/-- A creation without code, signed with parity zero. -/
def parityZero : Parsed where
  type := 1
  fields := [(.chainId, .number 1), (.nonce, .number 0), (.gasPrice, .number 0),
    (.gasLimit, .number 0), (.recipient, .recipient none), (.value, .number 0),
    (.data, .data []), (.accessList, .unread (.list []))]
  items := [.bytes [1], .bytes [], .bytes [], .bytes [], .bytes [], .bytes [],
    .bytes [], .list [], .bytes [], .bytes [1], .bytes [1]]

/-- Its parity may be spelled as an empty byte string or as an empty list: both
envelopes decode, to rows that differ in the hash alone. -/
theorem spellings_of_decoded_parityZero :
    parityZero.bytes =
      [1, 0xcb, 1, 0x80, 0x80, 0x80, 0x80, 0x80, 0x80, 0xc0, 0x80, 1, 1] ∧
    parityZero.respell.bytes =
      [1, 0xcb, 1, 0x80, 0x80, 0x80, 0x80, 0x80, 0x80, 0xc0, 0xc0, 1, 1] ∧
    Envelope.parse parityZero.bytes = .ok parityZero ∧
    ∃ tx, decode (.bytes parityZero.bytes) "tx" none = .ok tx ∧
      decode (.bytes parityZero.respell.bytes) "tx" none =
        .ok { tx with
          hash := Bytes.Hex.marked (keccak256 parityZero.respell.bytes) } := by
  have hparsed : Envelope.parse parityZero.bytes = .ok parityZero := by
    rw [Parsed.bytes, Envelope.parse_spell (by decide) (by decide)]
    rfl
  have hdecoded : (decode (.bytes parityZero.bytes) "tx" none).toOption.isSome =
      true := by
    simp only [decode, ofEnvelope, Parsed.sender?, keccak256_eq]
    decide +kernel
  obtain ⟨tx, htx⟩ := exists_of_isSome_toOption hdecoded
  exact ⟨rfl, rfl, hparsed, tx, htx, (spellings_of_decoded hparsed htx).2.2⟩

end Transaction

end EvmIndexer
