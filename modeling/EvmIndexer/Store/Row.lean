import EvmIndexer.Outcome.Basic
import EvmIndexer.Token.Metadata

/-!
# Rows as the tables hold them

A row is a list of columns by name, in the order of the table. The columns of a
table and the fields of what is derived correspond one to one, so nothing that
was derived is lost on the way into a table.
-/

namespace EvmIndexer

inductive Cell where
  | missing
  | text (content : String)
  | number (n : Int)
  /-- A number that need not fit a machine word. -/
  | quantity (n : Int)
  | texts (contents : List String)
deriving DecidableEq, Repr

abbrev Row := List (String × Cell)

namespace Cell

def ofText? (content : Option String) : Cell := (content.map .text).getD .missing

def ofNumber? (n : Option Int) : Cell := (n.map .number).getD .missing

def ofQuantity? (n : Option Int) : Cell := (n.map .quantity).getD .missing

end Cell

def Transaction.row (tx : Transaction) : Row := [
  ("tx_id", .text tx.txId),
  ("hash", .text tx.hash),
  ("from", .text tx.sender),
  ("to", .ofText? tx.recipient),
  ("nonce", .quantity tx.nonce),
  ("gas_limit", .quantity tx.gasLimit),
  ("gas_price", .quantity tx.gasPrice),
  ("max_fee_per_gas", .ofQuantity? tx.maxFeePerGas),
  ("max_priority_fee_per_gas", .ofQuantity? tx.maxPriorityFeePerGas),
  ("value", .quantity tx.value),
  ("data", .ofText? tx.data),
  ("type", .number tx.type),
  ("chain_id", .ofQuantity? tx.chainId),
  ("gas_used", .ofQuantity? tx.gasUsed),
  ("status", .number tx.status.code),
  ("function_name", .ofText? tx.functionName),
  ("function_signature", .ofText? tx.functionSignature)]

def Log.row (log : Log) : Row := [
  ("tx_id", .text log.txId),
  ("log_index", .number log.index),
  ("address", .text log.address),
  ("topics", .texts log.topics),
  ("data", .text log.data)]

def Token.row (token : Token) : Row := [
  ("address", .text token.address),
  ("type", .text token.type),
  ("name", .ofText? token.name),
  ("symbol", .ofText? token.symbol),
  ("decimals", .ofNumber? token.decimals),
  ("first_seen_tx", .ofText? token.firstSeenTx),
  ("first_seen_height", .ofNumber? token.firstSeenHeight)]

def Transfer.row (transfer : Transfer) : Row := [
  ("tx_id", .text transfer.txId),
  ("log_index", .number transfer.logIndex),
  ("token_address", .text transfer.tokenAddress),
  ("from_address", .text transfer.sender),
  ("to_address", .text transfer.recipient),
  ("value", .text transfer.value)]

def Contract.row (contract : Contract) : Row := [
  ("address", .text contract.address),
  ("creator", .text contract.creator),
  ("creation_tx", .text contract.creationTx),
  ("creation_height", .ofNumber? contract.creationHeight),
  ("bytecode_hash", .ofText? contract.codeHash)]

/-- What is known of the token at an address, as a row. -/
def Metadata.row (address : String) (known : Metadata) : Row := [
  ("address", .text address),
  ("name", .ofText? known.name),
  ("symbol", .ofText? known.symbol),
  ("decimals", .ofNumber? known.decimals)]

end EvmIndexer
