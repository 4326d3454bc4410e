import EvmIndexer.Envelope.Layout
import EvmIndexer.Text.Quoted

/-!
# Why an envelope is refused

Each cause is a constructor, and the stage at which it arises is a function of
it. The wording stands in one place.
-/

namespace EvmIndexer.Envelope

/-- The stages of decoding, in order. -/
inductive Stage where
  | text
  | layout
  | range
  | sender
deriving DecidableEq, Repr

inductive Refusal where
  /-- The text is neither base64 nor hexadecimal. -/
  | unreadableText
  /-- The envelope is neither text nor bytes but a value of the named type. -/
  | unsupportedValue (typeName : String)
  | empty
  | unsupportedType (type : Nat)
  /-- The first byte is that of a byte string. -/
  | notAList
  /-- The items are not encoded canonically. -/
  | malformedItems
  /-- The items are one byte string. -/
  | payloadNotAList
  | itemCount (expected got : Nat)
  /-- A list stands where a field is a byte string. -/
  | notBytes (field : Field)
  | recipientSize (size : Nat)
  /-- A list stands where the recovery number of a legacy signature is. -/
  | malformedRecovery
  /-- A number does not fit its column. -/
  | outOfRange (field : Field) (value : Nat)
  /-- The sender cannot be recovered from the signature. -/
  | noSender
deriving DecidableEq, Repr

def Refusal.stage : Refusal → Stage
  | .unreadableText | .unsupportedValue _ | .empty => .text
  | .outOfRange .. => .range
  | .noSender => .sender
  | _ => .layout

def Refusal.message : Refusal → String
  | .unreadableText => "raw bytes are neither base64 nor hex"
  | .unsupportedValue typeName => "unsupported raw bytes type " ++ typeName
  | .empty => "empty transaction envelope"
  | .unsupportedType type => "unsupported transaction type " ++ toString type
  | .notAList => "legacy envelope is not an RLP list"
  | .malformedItems => "transaction payload is not canonical RLP"
  | .payloadNotAList => "transaction payload is not an RLP list"
  | .itemCount expected got =>
    "expected " ++ toString expected ++ " RLP items, got " ++ toString got
  | .notBytes field =>
    "field " ++ Text.quoted field.name ++ " must be a byte string"
  | .recipientSize size => "'to' must be 20 bytes, got " ++ toString size
  | .malformedRecovery => "recovery number is not a byte string"
  | .outOfRange field value =>
    "field " ++ Text.quoted field.name ++ " out of range: " ++ toString value
  | .noSender => "sender cannot be recovered from the signature"

end EvmIndexer.Envelope
