import EvmIndexer.Bytes.Hex
import EvmIndexer.Log
import EvmIndexer.Response.Message
import EvmIndexer.Text.LowerCase

/-!
# What an execution left behind

The ledger's answer is recorded as hexadecimal text, sometimes between double
quotes. The first response in it counts, and only if it is that of an executed
transaction; anything else, and anything broken, has no result.

The indexes in the logs are those of the block. They serve as they are if they
tell the logs of the transaction apart and fit their column; otherwise the logs
are numbered by their places. Either way no two logs share an index.
-/

namespace EvmIndexer

structure Execution where
  logs : List Log
  gasUsed : Nat
  vmError : Option String
deriving DecidableEq, Repr

inductive RawResponse where
  | text (content : String)
  | bytes (content : Bytes)
deriving DecidableEq, Repr

def RawResponse.bytes? : RawResponse → Option Bytes
  | .bytes content => some content
  | .text content =>
    let trimmed := Text.trimBy (· == '"') (Text.trimBy Text.isBlank content.toList)
    Bytes.Hex.readSpaced (Bytes.Hex.dropMark trimmed)

namespace Execution

/-- The end of the type address of an executed transaction's response. -/
def typeName : String := "MsgEthereumTxResponse"

/-- The greatest number that fits the column of the gas. -/
def maxGas : Nat := 0x7fffffffffffffff

/-- The greatest number that fits the column of the index. -/
def maxIndex : Nat := 0x7fffffff

def logIndexes (logs : List Response.LogMessage) : List Nat :=
  let indexes := logs.map (·.index)
  if indexes.Nodup ∧ ∀ i ∈ indexes, i ≤ maxIndex then indexes
  else List.range logs.length

/-- A log as it is stored, not yet bound to a transaction. -/
def storedLog (index : Nat) (log : Response.LogMessage) : Log where
  txId := ""
  index := index
  address := Text.lower log.address
  topics := log.topics.map Text.lower
  data := Bytes.Hex.marked log.data

/-- The result in a response message, if its gas fits its column. -/
def ofMessage? (message : Response.ExecutionMessage) : Option Execution :=
  if maxGas < message.gasUsed then none
  else some {
    logs := List.zipWith storedLog (logIndexes message.logs) message.logs
    gasUsed := message.gasUsed
    vmError := if message.vmError = "" then none else some message.vmError }

/-- The result in the bytes of the ledger's answer. -/
def ofBytes? (bs : Bytes) : Option Execution := do
  let responses ← Response.readResponses bs
  let first ← responses.head?
  if typeName.toList.isSuffixOf first.typeUrl.toList then
    ofMessage? (← Response.ExecutionMessage.read first.value)
  else none

/-- The result in the ledger's answer, if there is one. -/
def decode (raw : Option RawResponse) : Option Execution := do
  ofBytes? (← (← raw).bytes?)

def bind (txId : String) (execution : Execution) : Execution :=
  { execution with
    logs := execution.logs.map fun log => { log with txId } }

end Execution

end EvmIndexer
