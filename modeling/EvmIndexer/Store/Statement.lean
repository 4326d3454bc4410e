import EvmIndexer.Store.Database
import EvmIndexer.Store.Row

/-!
# Statements and faults

All work on the tables is a sequence of statements. A statement is a value, so
that the journal of a unit of work can show what was sent and a plan of faults
can depend on it.

A fault is what a statement may fail with. The one question that matters about a
fault is whether it refuses the row, in which case the row would be refused
again and again, or says something about the connection or the program, in which
case the work is worth repeating.
-/

namespace EvmIndexer

inductive Statement where
  | insertTransaction (rows : List Transaction)
  | insertLog (rows : List Log)
  | insertToken (rows : List Token)
  | insertTransfer (rows : List Transfer)
  | insertContract (rows : List Contract)
  | deletePending (txId : String)
  /-- Adds tokens, and fills in what is missing of those that are there. -/
  | upsertToken (rows : List Token)
  /-- Fills in what is missing of tokens. -/
  | fillMetadata (rows : List (String × Metadata))
  | selectPending (limit : Nat)
  | selectPendingItem (txId : String)
  | selectDecodedHash (txId : String)
  | selectResponse (txId : String)
  | selectWithoutLogs (afterHeight : Int) (afterTxId : String) (limit : Nat)
  | selectMissingContracts
  | selectMissingTokens (event : String)
  | selectMissingTransfers (event : String) (limit : Nat)
  | selectMissingMetadata
deriving DecidableEq, Repr

/-- The tables after a statement. The two statements that fill in what is
missing of tokens compare columns inside the database; they are recorded and
have no effect on the tables as they are seen here. -/
def Statement.apply : Statement → Database → Database
  | .insertTransaction rows, db => db.insertTransactions rows
  | .insertLog rows, db => db.insertLogs rows
  | .insertToken rows, db => db.insertTokens rows
  | .insertTransfer rows, db => db.insertTransfers rows
  | .insertContract rows, db => db.insertContracts rows
  | .deletePending txId, db => db.retire txId
  | _, db => db

def Statement.name : Statement → String
  | .insertTransaction _ => "insert_transaction"
  | .insertLog _ => "insert_log"
  | .insertToken _ => "insert_token"
  | .insertTransfer _ => "insert_token_transfer"
  | .insertContract _ => "insert_contract"
  | .deletePending _ => "delete_pending"
  | .upsertToken _ => "upsert_token"
  | .fillMetadata _ => "fill_token_metadata"
  | .selectPending _ => "select_pending"
  | .selectPendingItem _ => "select_pending_item"
  | .selectDecodedHash _ => "select_decoded_hash"
  | .selectResponse _ => "select_execution_response"
  | .selectWithoutLogs .. => "select_txs_without_logs"
  | .selectMissingContracts => "select_missing_contracts"
  | .selectMissingTokens _ => "select_missing_tokens"
  | .selectMissingTransfers .. => "select_missing_transfers"
  | .selectMissingMetadata => "select_tokens_missing_metadata"

inductive Parameters where
  | nothing
  | row (columns : Row)
  | rows (all : List Row)
deriving DecidableEq, Repr

/-- The parameters that are sent with a statement. -/
def Statement.parameters : Statement → Parameters
  | .insertTransaction rows => .rows (rows.map Transaction.row)
  | .insertLog rows => .rows (rows.map Log.row)
  | .insertToken rows | .upsertToken rows => .rows (rows.map Token.row)
  | .insertTransfer rows => .rows (rows.map Transfer.row)
  | .insertContract rows => .rows (rows.map Contract.row)
  | .fillMetadata rows => .rows (rows.map fun (address, known) => known.row address)
  | .deletePending txId | .selectPendingItem txId | .selectDecodedHash txId
  | .selectResponse txId => .row [("tx_id", .text txId)]
  | .selectPending limit => .row [("limit", .number limit)]
  | .selectWithoutLogs height txId limit =>
    .row [("after_height", .number height), ("after_tx_id", .text txId),
      ("limit", .number limit)]
  | .selectMissingTokens event => .row [("transfer_topic", .text event)]
  | .selectMissingTransfers event limit =>
    .row [("transfer_topic", .text event), ("limit", .number limit)]
  | .selectMissingContracts | .selectMissingMetadata => .nothing

inductive Fault.Kind where
  /-- The database refused a value. -/
  | data
  /-- The database could not do its work. -/
  | operational
  /-- An error with its state code, if it has one. -/
  | coded (sqlState : Option String)
  /-- A value could not be converted on its way to the database. -/
  | badValue
  /-- A value was of the wrong type on its way to the database. -/
  | badType
  /-- The error did not come from the database. -/
  | foreign
deriving DecidableEq, Repr

structure Fault where
  kind : Fault.Kind
  /-- Whether the connection is lost. -/
  disconnected : Bool := false
  text : String
deriving DecidableEq, Repr

namespace Fault

/-- Whether a fault of this kind speaks of the data: state codes of class 22
do. -/
def Kind.isAboutData : Kind → Bool
  | .data | .badValue => true
  | .coded (some code) => "22".toList.isPrefixOf code.toList
  | .operational | .coded none | .badType | .foreign => false

/-- Whether the fault refuses the row, so that sending it again is useless. -/
def refusesRow (fault : Fault) : Bool :=
  !fault.disconnected && fault.kind.isAboutData

/-- A word for a fault that has no text. -/
def Kind.word : Kind → String
  | .data => "data error"
  | .operational => "operational error"
  | .coded _ | .badValue | .badType => "database error"
  | .foreign => "error"

def message (fault : Fault) : String :=
  if fault.text = "" then fault.kind.word else fault.text

end Fault

end EvmIndexer
