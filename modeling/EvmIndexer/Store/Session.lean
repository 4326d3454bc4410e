import EvmIndexer.Store.Work

/-!
# Reading the queue and storing outcomes

The operations of a unit of work on the queue. Storing an outcome writes the
transaction first, because logs refer to it, then logs and tokens, because
transfers refer to both, and takes the item out of the queue last.

An outcome is written behind a savepoint. If one of its rows is refused, nothing
of the outcome is left and the work around it can go on; any other fault ends
the work around it too.
-/

namespace EvmIndexer.Work

/-- The items without a transaction row, at most so many. -/
def pendingItems (limit : Int) : Work (List PendingItem) :=
  if limit ≤ 0 then throw .limitNotPositive
  else query (.selectPending limit.toNat) (·.tables.undecoded limit.toNat)

def pendingItem (txId : String) : Work (Option PendingItem) :=
  query (.selectPendingItem txId) (·.tables.pendingItem? txId)

def decodedHash (txId : String) : Work (Option String) :=
  query (.selectDecodedHash txId) (·.tables.decodedHash? txId)

/-- The ledger's answer to a transaction, as it was recorded. -/
def response (txId : String) : Work (Option String) :=
  query (.selectResponse txId) (·.responses.lookup txId)

/-- Sends an insertion of rows, if there are any. -/
def insertSome {α : Type} (statement : List α → Statement) (rows : List α) :
    Work Unit :=
  if rows.isEmpty then pure () else send (statement rows)

/-- Writes the rows of an outcome and retires its item. -/
def write (outcome : Outcome) : Work Unit := do
  send (.insertTransaction [outcome.transaction])
  insertSome .insertLog outcome.logs
  insertSome .insertToken outcome.tokens
  insertSome .insertTransfer outcome.transfers
  insertSome .insertContract outcome.contract.toList
  send (.deletePending outcome.transaction.txId)

/-- The failure that a fault becomes when it strikes the rows of an outcome. -/
def saveFailure (txId : String) : Failure → Failure
  | .database fault =>
    if fault.refusesRow then .rejected (txId ++ ": " ++ fault.text)
    else .database fault
  | failure => failure

/-- Stores an outcome, or leaves nothing of it. -/
def save (outcome : Outcome) : Work Unit :=
  tryCatch (savepoint (write outcome)) fun failure =>
    throw (saveFailure outcome.transaction.txId failure)

end EvmIndexer.Work
