import EvmIndexer.Contract
import EvmIndexer.Response.Execution
import EvmIndexer.Signature.Basic
import EvmIndexer.Token.Recognition
import EvmIndexer.Transaction.Decode

/-!
# The outcome of an item

Everything that is derived from one item of the queue: its transaction, the
logs, the new tokens, the transfers and the contract. It is stored as a whole or
not at all.

An outcome is derived from the decoded transaction, the result of its execution
and the answer about its signature. The three are found elsewhere; here they are
put together.
-/

namespace EvmIndexer

structure PendingItem where
  txId : String
  raw : String
  height : Int
  gasUsed : Option Int
  knownHash : Option String
deriving DecidableEq, Repr

namespace Transaction

/-- The transaction with the gas and the status of its execution; without a
result both stay as they are. -/
def withExecution (tx : Transaction) : Option Execution → Transaction
  | none => tx
  | some execution =>
    { tx with
      gasUsed := some execution.gasUsed
      status := if execution.vmError.isSome then .failure else .success }

/-- The selector whose signature is still to be found. -/
def unresolved? (tx : Transaction) : Option String :=
  if tx.functionName.isSome then none else tx.selector?

/-- The transaction with its signature; an empty one says nothing. -/
def withSignature (tx : Transaction) (signature : String) : Transaction :=
  if signature = "" then tx
  else
    { tx with
      functionSignature := some signature
      functionName := some (Signature.name signature) }

end Transaction

structure Outcome where
  transaction : Transaction
  logs : List Log := []
  tokens : List Token := []
  transfers : List Transfer := []
  contract : Option Contract := none
deriving DecidableEq, Repr

namespace Outcome

/-- The outcome of an item that cannot be decoded. -/
def placeholder (txId : String) : Outcome :=
  { transaction := .placeholder txId }

/-- Whether the item was not decoded. -/
def isPlaceholder (outcome : Outcome) : Bool :=
  outcome.transaction.isPlaceholder

/-- What the execution of an item left in its logs; `known` holds the tokens
that were met already. -/
def recognize (item : PendingItem) (known : List String) :
    Option Execution → Recognition
  | none => {}
  | some execution =>
    Recognition.ofLogs transferTopic item.txId (some item.height) known
      execution.logs

def assemble (item : PendingItem) (tx : Transaction)
    (execution : Option Execution) (found : Recognition) :
    Except Contract.Fault Outcome := do
  let contract ← Contract.ofTransaction? tx (some item.height)
  return {
    transaction := tx
    logs := (execution.map (·.logs)).getD []
    tokens := found.tokens
    transfers := found.transfers
    contract := contract }

/-- The addresses of the tokens that an outcome adds. -/
def tokenAddresses (outcome : Outcome) : List String :=
  outcome.tokens.map (·.address)

/-- The known tokens together with those of an outcome. -/
def addKnown (known : List String) (outcome : Outcome) : List String :=
  known ++ outcome.tokenAddresses.filter fun address => !known.contains address

/-- The known tokens without those of an outcome. -/
def removeKnown (known : List String) (outcome : Outcome) : List String :=
  known.filter fun address => !outcome.tokenAddresses.contains address

end Outcome

end EvmIndexer
