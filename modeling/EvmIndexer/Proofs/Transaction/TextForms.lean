import EvmIndexer.Proofs.Bytes.Base64
import EvmIndexer.Proofs.Bytes.Hex
import EvmIndexer.Proofs.Envelope.Canonical
import EvmIndexer.Proofs.Hash.Rows
import EvmIndexer.Transaction.Decode

/-!
# The forms of an envelope as text

An envelope decodes alike from its bytes and from their hexadecimal text, in
whatever case and with whatever blanks around it.

Base64 text decodes alike too, unless it happens to begin with `0x` or `0X`. Such
text is taken for hexadecimal and is not tried as base64 again, so it decodes as
the bytes that its digits spell or, as nearly always, is refused as unreadable,
which bytes never are.
-/

namespace EvmIndexer

open Bytes

namespace Envelope

/-- Whether whatever is refused is refused at one of the stages after the text
has been read. -/
def PastText {α : Type} (result : Except Refusal α) : Prop :=
  ∀ refusal, result = .error refusal → refusal.stage ≠ .text

section

variable {α β : Type}

theorem pastText_ok (a : α) : PastText (.ok a : Except Refusal α) := by
  intro refusal h
  cases h

theorem pastText_error {refusal : Refusal} (h : (refusal.stage == .text) = false) :
    PastText (.error refusal : Except Refusal α) := by
  intro refusal' h'
  cases h'
  exact ne_of_beq_false h

theorem PastText.bind {x : Except Refusal α} {f : α → Except Refusal β}
    (hx : PastText x) (hf : ∀ a, PastText (f a)) : PastText (x >>= f) := by
  cases x with
  | ok a => exact hf a
  | error refusal =>
      intro refusal' h
      cases h
      exact hx refusal rfl

theorem PastText.forM {f : α → Except Refusal Unit} (hf : ∀ a, PastText (f a))
    (as : List α) : PastText (as.forM f) := by
  induction as with
  | nil => exact pastText_ok ()
  | cons a rest ih =>
      show PastText (f a >>= fun _ => rest.forM f)
      exact (hf a).bind fun _ => ih

theorem PastText.mapM {f : α → Except Refusal β} (hf : ∀ a, PastText (f a))
    (as : List α) : PastText (as.mapM f) := by
  induction as with
  | nil => exact pastText_ok []
  | cons a rest ih =>
      rw [List.mapM_cons]
      exact (hf a).bind fun b => ih.bind fun bs => pastText_ok (b :: bs)

end

theorem pastText_contentOf (field : Field) (item : Rlp.Item) :
    PastText (contentOf field item) := by
  cases item with
  | bytes content => exact pastText_ok content
  | list items => exact pastText_error rfl

theorem pastText_readField (field : Field) (item : Rlp.Item) :
    PastText (readField field item) := by
  have hcontent := pastText_contentOf field item
  cases field with
  | recipient =>
      apply hcontent.bind
      intro content
      split
      · exact pastText_ok _
      · split
        · exact pastText_ok _
        · exact pastText_error rfl
  | data | chainId | nonce | gasPrice | maxPriorityFeePerGas | maxFeePerGas
  | gasLimit | value =>
      exact hcontent.bind fun content => pastText_ok _
  | accessList | maxFeePerBlobGas | blobVersionedHashes | authorizationList =>
      exact pastText_ok _

theorem pastText_readFields (layout : List Field) (items : List Rlp.Item) :
    PastText (readFields layout items) := by
  unfold readFields
  split
  · exact pastText_error rfl
  · apply PastText.mapM
    rintro ⟨field, item⟩
    exact (pastText_readField field item).bind fun value => pastText_ok _

theorem pastText_readPayload (payload : Bytes) : PastText (readPayload payload) := by
  unfold readPayload
  split
  · exact pastText_error rfl
  · exact pastText_error rfl
  · exact pastText_ok _

theorem pastText_parse {envelope : Bytes} (h : envelope ≠ []) :
    PastText (parse envelope) := by
  unfold parse
  split
  · exact absurd rfl h
  · split
    · unfold parseTyped
      split
      · exact pastText_error rfl
      · exact (pastText_readPayload _).bind fun items =>
          (pastText_readFields _ items).bind fun fields => pastText_ok _
    · split
      · exact pastText_error rfl
      · refine (pastText_readPayload _).bind fun items =>
          (pastText_readFields _ items).bind fun fields => ?_
        refine PastText.bind ?_ fun v => pastText_ok _
        unfold recoveryNumber
        split
        · exact pastText_ok _
        · exact pastText_ok _
        · exact pastText_error rfl

theorem pastText_checkRange (parsed : Parsed) : PastText parsed.checkRange := by
  apply PastText.forM
  intro field
  split
  · split
    · exact pastText_error rfl
    · exact pastText_ok ()
  · exact pastText_ok ()

end Envelope

namespace Transaction

theorem pastText_ofEnvelope {envelope : Bytes} (h : envelope ≠ []) (txId : String)
    (gasUsed : Option Int) : Envelope.PastText (ofEnvelope txId gasUsed envelope) := by
  refine (Envelope.pastText_parse h).bind fun parsed =>
    (Envelope.pastText_checkRange parsed).bind fun _ => ?_
  split
  · exact Envelope.pastText_ok _
  · exact Envelope.pastText_error rfl

/-- Bytes are never refused as unreadable text. -/
theorem ofEnvelope_ne_unreadableText (envelope : Bytes) (txId : String)
    (gasUsed : Option Int) :
    ofEnvelope txId gasUsed envelope ≠ .error .unreadableText := by
  intro h
  by_cases hempty : envelope = []
  · subst hempty
    cases h
  · exact pastText_ofEnvelope hempty txId gasUsed _ h rfl

theorem decode_text (text : String) (txId : String) (gasUsed : Option Int) :
    decode (.text text) txId gasUsed =
      match RawEnvelope.ofText? text with
      | some envelope => ofEnvelope txId gasUsed envelope
      | none => .error .unreadableText := by
  cases h : RawEnvelope.ofText? text with
  | none =>
      show (RawEnvelope.bytes? _ >>= _) = _
      simp only [RawEnvelope.bytes?, h]
      rfl
  | some envelope =>
      show _ = ofEnvelope txId gasUsed envelope
      rw [← decode_bytes]
      simp only [decode, RawEnvelope.bytes?, h]

end Transaction

namespace RawEnvelope

variable {before after core : List Char}

theorem ofText?_surrounded (hbefore : ∀ c ∈ before, Text.isBlank c = true)
    (hcore : ∀ c ∈ core, Text.isVisible c = true)
    (hafter : ∀ c ∈ after, Text.isBlank c = true) :
    ofText? (String.ofList (before ++ core ++ after)) =
      if Hex.hasMark core then Hex.read (core.drop 2) else Base64.read core := by
  have hblank : ∀ c ∈ core, Text.isBlank c = false := by
    intro c hc
    exact Text.isBlank_of_isVisible (hcore c hc)
  have hspaced : ∀ c ∈ core.drop 2, Text.isAsciiBlank c = false := by
    intro c hc
    exact Text.isAsciiBlank_of_isVisible (hcore c (List.mem_of_mem_drop hc))
  rw [ofText?, String.toList_ofList, Text.trimBy_surrounded hbefore hblank hafter,
    Hex.readSpaced_eq_read hspaced]

end RawEnvelope

namespace Transaction

/-- The forms of an envelope. Hexadecimal text decodes as the bytes do. So does
base64 text, except that of bytes whose first two spell a mark: it is read as
hexadecimal, and where it is none, the answer is one that bytes never get. -/
theorem decode_textForms {before after digits : List Char} {x : Char}
    {envelope : Bytes} (txId : String) (gasUsed : Option Int)
    (hbefore : ∀ c ∈ before, Text.isBlank c = true)
    (hafter : ∀ c ∈ after, Text.isBlank c = true)
    (hx : x = 'x' ∨ x = 'X') (hdigits : Hex.Spells digits envelope) :
    decode (.text (String.ofList (before ++ '0' :: x :: digits ++ after)))
        txId gasUsed = decode (.bytes envelope) txId gasUsed ∧
    decode (.text (String.ofList (before ++ Base64.write envelope ++ after)))
        txId gasUsed =
      (if Base64.looksMarked envelope then
        match Hex.read ((Base64.write envelope).drop 2) with
        | some misread => decode (.bytes misread) txId gasUsed
        | none => .error .unreadableText
      else decode (.bytes envelope) txId gasUsed) ∧
    decode (.bytes envelope) txId gasUsed ≠ .error .unreadableText := by
  simp only [decode_bytes]
  refine ⟨?_, ?_, ofEnvelope_ne_unreadableText envelope txId gasUsed⟩
  · have hvisible : ∀ c ∈ '0' :: x :: digits, Text.isVisible c = true := by
      intro c hc
      simp only [List.mem_cons] at hc
      rcases hc with rfl | rfl | hc
      · rfl
      · rcases hx with rfl | rfl <;> rfl
      · exact hdigits.isVisible hc
    have hmark : Hex.hasMark ('0' :: x :: digits) = true := by
      rcases hx with rfl | rfl <;> rfl
    have hread : Hex.read (('0' :: x :: digits).drop 2) = some envelope :=
      hdigits.read_eq
    rw [decode_text, RawEnvelope.ofText?_surrounded hbefore hvisible hafter,
      if_pos hmark, hread]
  · have hvisible : ∀ c ∈ Base64.write envelope, Text.isVisible c = true :=
      fun c hc => Base64.isVisible_of_mem_write hc
    rw [decode_text, RawEnvelope.ofText?_surrounded hbefore hvisible hafter,
      Base64.hasMark_write, Base64.read_write]
    by_cases hmark : Base64.looksMarked envelope = true
    · rw [if_pos hmark, if_pos hmark]
    · rw [if_neg hmark, if_neg hmark]

/-- A legacy creation whose base64 text begins with `0x`. -/
def markedCreation : Bytes :=
  [0xd3, 0x10, 0x84, 0x3b, 0x9a, 0xca, 0x00, 0x82, 0x52, 0x08, 0x80, 0x80, 0x84,
    0x60, 0x01, 0x60, 0x02, 0x1b, 0x01, 0x01]

/-- Its bytes and its digits decode, its base64 text is refused. -/
theorem decode_textForms_markedCreation :
    (∃ tx, decode (.bytes markedCreation) "tx" none = .ok tx ∧
      decode (.text " 0XD310843b9aca00825208808084600160021b0101\n") "tx" none =
        .ok tx) ∧
    decode (.text " 0xCEO5rKAIJSCICAhGABYAIbAQE=\n") "tx" none =
      .error .unreadableText := by
  have hdigits : Hex.Spells "D310843b9aca00825208808084600160021b0101".toList
      markedCreation := by
    unfold Hex.Spells
    decide +kernel
  have hbefore : ∀ c ∈ [' '], Text.isBlank c = true := by
    intro c hc
    rw [List.mem_singleton.1 hc]
    rfl
  have hafter : ∀ c ∈ ['\n'], Text.isBlank c = true := by
    intro c hc
    rw [List.mem_singleton.1 hc]
    rfl
  obtain ⟨hhex, hbase64, -⟩ := @decode_textForms [' '] ['\n'] _ 'X' markedCreation
    "tx" none hbefore hafter (Or.inr rfl) hdigits
  have hwritten : " 0xCEO5rKAIJSCICAhGABYAIbAQE=\n" =
      String.ofList ([' '] ++ Base64.write markedCreation ++ ['\n']) := by
    decide +kernel
  have hunreadable : Hex.read ((Base64.write markedCreation).drop 2) = none := by
    decide +kernel
  have hdecoded : (decode (.bytes markedCreation) "tx" none).toOption.isSome =
      true := by
    simp only [decode, ofEnvelope, Envelope.Parsed.sender?, keccak256_eq]
    decide +kernel
  constructor
  · obtain ⟨tx, htx⟩ := exists_of_isSome_toOption hdecoded
    exact ⟨tx, htx, hhex.trans htx⟩
  · rw [hwritten, hbase64, hunreadable]
    rfl

end Transaction

end EvmIndexer
