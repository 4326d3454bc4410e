import EvmIndexer.Bytes.Base64
import EvmIndexer.Envelope.Sender
import EvmIndexer.Signature.Basic
import EvmIndexer.Transaction.Basic

/-!
# Decoding a signed envelope

The ledger records an envelope as base64 text. Hexadecimal text and bare bytes
are taken as well, and the form makes no difference: all that follows depends on
the bytes alone.

Decoding is total. Whatever cannot be decoded is refused with a cause, and the
caller stores a placeholder.
-/

namespace EvmIndexer

inductive RawEnvelope where
  | text (content : String)
  | bytes (content : Bytes)
  /-- A value that is neither, by the name of its type. -/
  | other (typeName : String)
deriving DecidableEq, Repr

namespace RawEnvelope

/-- The bytes of the text of an envelope: hexadecimal text has a mark, all other
text is base64. Blanks around it are dropped. -/
def ofText? (content : String) : Option Bytes :=
  let text := Text.trimBy Text.isBlank content.toList
  if Bytes.Hex.hasMark text then Bytes.Hex.readSpaced (text.drop 2)
  else Bytes.Base64.read text

/-- The bytes of an envelope; there has to be one. -/
def bytes? (raw : RawEnvelope) : Except Envelope.Refusal Bytes := do
  let content ← match raw with
    | .bytes content => .ok content
    | .text content =>
      match ofText? content with
      | some content => .ok content
      | none => .error .unreadableText
    | .other typeName => .error (.unsupportedValue typeName)
  if content.isEmpty then .error .empty else .ok content

end RawEnvelope

namespace Transaction

/-- The row of an envelope whose parts have all been found good. -/
def ofParsed (txId : String) (gasUsed : Option Int) (envelope : Bytes)
    (parsed : Envelope.Parsed) (sender : Bytes) : Transaction :=
  let number (field : Envelope.Field) : Option Int :=
    (parsed.number? field).map Int.ofNat
  let data := parsed.data
  let selector :=
    if 4 ≤ data.length then some (Bytes.Hex.marked (data.take 4)) else none
  let signature := selector.bind Signature.ofSelector?
  { txId := txId
    hash := Bytes.Hex.marked (keccak256 envelope)
    sender := Address.checksummed sender
    recipient := parsed.recipient?.map Address.checksummed
    nonce := (number .nonce).getD 0
    gasLimit := (number .gasLimit).getD 0
    gasPrice := (number .gasPrice).getD 0
    maxFeePerGas := number .maxFeePerGas
    maxPriorityFeePerGas := number .maxPriorityFeePerGas
    value := (number .value).getD 0
    data := some (Bytes.Hex.marked data)
    type := parsed.type
    chainId := number .chainId
    gasUsed := gasUsed
    status := .success
    functionName := signature.map Signature.name
    functionSignature := signature <|> selector }

def ofEnvelope (txId : String) (gasUsed : Option Int) (envelope : Bytes) :
    Except Envelope.Refusal Transaction := do
  let parsed ← Envelope.parse envelope
  parsed.checkRange
  match parsed.sender? with
  | some sender => .ok (ofParsed txId gasUsed envelope parsed sender)
  | none => .error .noSender

/-- Decodes an envelope in whatever form it arrives. -/
def decode (raw : RawEnvelope) (txId : String) (gasUsed : Option Int) :
    Except Envelope.Refusal Transaction := do
  let envelope ← raw.bytes?
  ofEnvelope txId gasUsed envelope

/-- Bare bytes are the envelope. -/
theorem decode_bytes (envelope : Bytes) (txId : String) (gasUsed : Option Int) :
    decode (.bytes envelope) txId gasUsed = ofEnvelope txId gasUsed envelope := by
  cases envelope <;> rfl

/-- Whether the ledger reported another hash than the envelope has. A report
that is absent or empty says nothing. -/
def contradicts (tx : Transaction) (reported : Option String) : Bool :=
  match reported with
  | some hash => hash != "" && Text.lower hash != tx.hash
  | none => false

end Transaction

end EvmIndexer
