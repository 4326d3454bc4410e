import EvmIndexer.Protobuf.Wire

/-!
# The messages of an execution response

The ledger answers a transaction with a list of responses, each wrapped with the
address of its type. The response of an executed transaction holds its logs, its
gas and the error of the virtual machine, if there was one.

Only the fields that are stored are kept. The others are passed over, but text
among them must be text: a message with a broken text field is broken. Of a
field that occurs again the last occurrence counts, unless the field is a list,
which grows.
-/

namespace EvmIndexer.Response

open Protobuf (Record records?)

structure LogMessage where
  address : String := ""
  topics : List String := []
  data : Bytes := []
  index : Nat := 0
deriving DecidableEq, Repr

/-- Takes one record of a log message into account. -/
def LogMessage.addRecord (log : LogMessage) (record : Record) :
    Option LogMessage :=
  match record.number, record.payload with
  | 1, .bytes content => do
    let address ← content.toText?
    return { log with address }
  | 2, .bytes content => do
    let topic ← content.toText?
    return { log with topics := log.topics ++ [topic] }
  | 3, .bytes content => some { log with data := content }
  | 5, .bytes content => content.toText?.map fun _ => log
  | 7, .bytes content => content.toText?.map fun _ => log
  | 8, .varint index => some { log with index }
  | _, _ => some log

def LogMessage.read (bs : Bytes) : Option LogMessage := do
  (← records? bs).foldlM addRecord {}

structure ExecutionMessage where
  logs : List LogMessage := []
  vmError : String := ""
  gasUsed : Nat := 0
deriving DecidableEq, Repr

/-- Takes one record of an execution message into account. -/
def ExecutionMessage.addRecord (message : ExecutionMessage) (record : Record) :
    Option ExecutionMessage :=
  match record.number, record.payload with
  | 1, .bytes content => content.toText?.map fun _ => message
  | 2, .bytes content => do
    let log ← LogMessage.read content
    return { message with logs := message.logs ++ [log] }
  | 4, .bytes content => do
    let vmError ← content.toText?
    return { message with vmError }
  | 5, .varint gasUsed => some { message with gasUsed }
  | _, _ => some message

def ExecutionMessage.read (bs : Bytes) : Option ExecutionMessage := do
  (← records? bs).foldlM addRecord {}

/-- A response together with the address of its type. -/
structure Wrapped where
  typeUrl : String := ""
  value : Bytes := []
deriving DecidableEq, Repr

/-- Takes one record of a wrapped response into account. -/
def Wrapped.addRecord (wrapped : Wrapped) (record : Record) : Option Wrapped :=
  match record.number, record.payload with
  | 1, .bytes content => do
    let typeUrl ← content.toText?
    return { wrapped with typeUrl }
  | 2, .bytes content => some { wrapped with value := content }
  | _, _ => some wrapped

def Wrapped.read (bs : Bytes) : Option Wrapped := do
  (← records? bs).foldlM addRecord {}

/-- Takes one record of the ledger's answer into account: a further response. -/
def addResponse (responses : List Wrapped) (record : Record) :
    Option (List Wrapped) :=
  match record.number, record.payload with
  | 2, .bytes content => do
    let wrapped ← Wrapped.read content
    return responses ++ [wrapped]
  | _, _ => some responses

/-- Reads the responses in the ledger's answer, all of them. -/
def readResponses (bs : Bytes) : Option (List Wrapped) := do
  (← records? bs).foldlM addResponse []

end EvmIndexer.Response
