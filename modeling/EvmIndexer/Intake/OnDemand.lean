import EvmIndexer.Outcome.Processing

/-!
# Decoding one transaction now

Somebody asks for a transaction by its identifier. If it is in the queue it is
processed in a transaction of its own; if not, it may have been decoded already.
The queue is read first: an item leaves it only together with the row that the
second read looks for.

Whatever happens, the answer is a reply. A failure puts the tables back and
gives its message.
-/

namespace EvmIndexer

/-- The reply to somebody who asked for a transaction. -/
inductive Reply where
  | emptyId
  | notFound
  | alreadyDecoded (txId hash : String)
  /-- The transaction was stored as a placeholder. -/
  | undecodable (txId hash : String) (status : Status)
  | decoded (txId hash : String) (status : Status) (logs transfers : Nat)
      (contract : Option String)
  /-- The work failed for the given reason. -/
  | broken (reason : String)
deriving DecidableEq, Repr

namespace Reply

def success : Reply → Bool
  | .alreadyDecoded .. | .decoded .. => true
  | _ => false

def message : Reply → String
  | .emptyId => "Empty transaction id"
  | .notFound =>
    "Transaction not found in pending queue or decoded transactions"
  | .alreadyDecoded .. => "Transaction already decoded"
  | .undecodable .. => "Failed to decode transaction"
  | .decoded .. => "Transaction decoded successfully"
  | .broken reason => reason

/-- The details of a reply by their names, in order. -/
def details : Reply → Row
  | .emptyId | .notFound | .broken _ => []
  | .alreadyDecoded txId hash => [("tx_id", .text txId), ("hash", .text hash)]
  | .undecodable txId hash status =>
    [("tx_id", .text txId), ("hash", .text hash), ("status", .number status.code)]
  | .decoded txId hash status logs transfers contract =>
    [("tx_id", .text txId), ("hash", .text hash), ("status", .number status.code),
      ("logs", .number logs), ("transfers", .number transfers),
      ("contract", .ofText? contract)]

def ofOutcome (txId : String) (outcome : Outcome) : Reply :=
  let tx := outcome.transaction
  if outcome.isPlaceholder then .undecodable txId tx.hash tx.status
  else .decoded txId tx.hash tx.status outcome.logs.length
    outcome.transfers.length (outcome.contract.map (·.address))

/-- The reply about a transaction that is not in the queue, given the hash in
its row. -/
def ofHash (txId : String) : Option String → Reply
  | some hash => .alreadyDecoded txId hash
  | none => .notFound

end Reply

/-- What is done for a transaction once the queue has been read. -/
def Work.replyTo (txId : String) : Option PendingItem → Work Reply
  | none => do return Reply.ofHash txId (← decodedHash txId)
  | some item => do
    let (outcome, _) ← Outcome.process item none
    return Reply.ofOutcome txId outcome

def Work.decodeNow (txId : String) : Work Reply :=
  transaction do replyTo txId (← pendingItem txId)

/-- Decodes one transaction: the reply, and the store afterwards. -/
def decodeOnDemand (txId : String) (around : Surroundings) (store : Store) :
    Reply × Store :=
  let txId := Text.trim txId
  if txId = "" then (.emptyId, store)
  else match (Work.decodeNow txId).run around store with
    | (.ok reply, store) => (reply, store)
    | (.error failure, store) => (.broken failure.message, store)

end EvmIndexer
