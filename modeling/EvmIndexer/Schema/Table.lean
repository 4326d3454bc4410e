/-!
# The tables

Each table is described once: its columns with their types, its key, the keys of
other tables that it refers to, and its indexes. What is sent to the database to
make the tables, and to write into them, is derived from the description.

A table refers only to tables that come before it, so the tables can be made in
their order and dropped in the opposite one.
-/

namespace EvmIndexer.Schema

inductive ColumnType where
  | text
  | bigint
  | integer
  | smallint
  | numeric
  /-- A list of texts. -/
  | texts
  /-- A point in time with its time zone. -/
  | instant
deriving DecidableEq, Repr

def ColumnType.name : ColumnType → String
  | .text => "TEXT"
  | .bigint => "BIGINT"
  | .integer => "INTEGER"
  | .smallint => "SMALLINT"
  | .numeric => "NUMERIC"
  | .texts => "ARRAY"
  | .instant => "DATETIME"

structure Column where
  name : String
  type : ColumnType
  nullable : Bool := false
  /-- What the database puts there if nothing is written. -/
  default : Option String := none
deriving DecidableEq, Repr

/-- Columns that must be found in the key of another table. -/
structure ForeignKey where
  columns : List String
  table : String
  targets : List String
  /-- Whether a row goes when the row it refers to goes. -/
  cascades : Bool := false
deriving DecidableEq, Repr

structure Index where
  name : String
  columns : List String
  unique : Bool := false
deriving DecidableEq, Repr

structure Table where
  name : String
  columns : List Column
  key : List String
  foreignKeys : List ForeignKey := []
  indexes : List Index
deriving DecidableEq, Repr

def name : String := "api"

/-- The name of a table with the schema in front of it. -/
def qualified (table : String) : String := name ++ "." ++ table

/-- The columns that a foreign key refers to, each with its table. -/
def ForeignKey.qualifiedTargets (key : ForeignKey) : List String :=
  key.targets.map fun column => qualified key.table ++ "." ++ column

/-- The name of the constraint of a table's key. -/
def Table.keyName (table : Table) : String := "pk_" ++ table.name

/-- The name of the constraint of a foreign key: its table, its first column and
the table that it refers to. -/
def Table.foreignKeyName (table : Table) (key : ForeignKey) : String :=
  "fk_" ++ table.name ++ "_" ++ key.columns.headD "" ++ "_" ++ key.table

def indexOn (table suffix column : String) : Index :=
  { name := "ix_" ++ table ++ "_" ++ suffix, columns := [column] }

def pending : Table where
  name := "evm_pending_decode"
  columns := [
    { name := "tx_id", type := .text },
    { name := "raw_bytes", type := .text },
    { name := "height", type := .bigint },
    { name := "gas_used", type := .bigint, nullable := true },
    { name := "known_hash", type := .text, nullable := true }]
  key := ["tx_id"]
  indexes := [indexOn "evm_pending_decode" "height" "height"]

def transactions : Table where
  name := "evm_transactions"
  columns := [
    { name := "tx_id", type := .text },
    { name := "hash", type := .text },
    { name := "from", type := .text },
    { name := "to", type := .text, nullable := true },
    { name := "nonce", type := .bigint },
    { name := "gas_limit", type := .bigint },
    { name := "gas_price", type := .numeric },
    { name := "max_fee_per_gas", type := .numeric, nullable := true },
    { name := "max_priority_fee_per_gas", type := .numeric, nullable := true },
    { name := "value", type := .numeric },
    { name := "data", type := .text, nullable := true },
    { name := "type", type := .smallint, default := some "0" },
    { name := "chain_id", type := .bigint, nullable := true },
    { name := "gas_used", type := .bigint, nullable := true },
    { name := "status", type := .smallint, default := some "1" },
    { name := "function_name", type := .text, nullable := true },
    { name := "function_signature", type := .text, nullable := true },
    { name := "decoded_at", type := .instant, default := some "now()" }]
  key := ["tx_id"]
  indexes := [
    indexOn "evm_transactions" "hash" "hash",
    indexOn "evm_transactions" "from" "from",
    indexOn "evm_transactions" "to" "to"]

def logs : Table where
  name := "evm_logs"
  columns := [
    { name := "tx_id", type := .text },
    { name := "log_index", type := .integer },
    { name := "address", type := .text },
    { name := "topics", type := .texts },
    { name := "data", type := .text, nullable := true }]
  key := ["tx_id", "log_index"]
  foreignKeys := [{
    columns := ["tx_id"]
    table := "evm_transactions"
    targets := ["tx_id"]
    cascades := true }]
  indexes := [indexOn "evm_logs" "address" "address"]

def tokens : Table where
  name := "evm_tokens"
  columns := [
    { name := "address", type := .text },
    { name := "type", type := .text },
    { name := "name", type := .text, nullable := true },
    { name := "symbol", type := .text, nullable := true },
    { name := "decimals", type := .integer, nullable := true },
    { name := "first_seen_tx", type := .text, nullable := true },
    { name := "first_seen_height", type := .bigint, nullable := true }]
  key := ["address"]
  indexes := [indexOn "evm_tokens" "symbol" "symbol"]

/-- Transfers, each of which goes with its log and needs its token. -/
def transfers : Table where
  name := "evm_token_transfers"
  columns := [
    { name := "tx_id", type := .text },
    { name := "log_index", type := .integer },
    { name := "token_address", type := .text },
    { name := "from_address", type := .text },
    { name := "to_address", type := .text },
    { name := "value", type := .text }]
  key := ["tx_id", "log_index"]
  foreignKeys := [
    { columns := ["tx_id", "log_index"]
      table := "evm_logs"
      targets := ["tx_id", "log_index"]
      cascades := true },
    { columns := ["token_address"]
      table := "evm_tokens"
      targets := ["address"] }]
  indexes := [
    indexOn "evm_token_transfers" "from" "from_address",
    indexOn "evm_token_transfers" "to" "to_address",
    indexOn "evm_token_transfers" "token" "token_address"]

def contracts : Table where
  name := "evm_contracts"
  columns := [
    { name := "address", type := .text },
    { name := "creator", type := .text },
    { name := "creation_tx", type := .text },
    { name := "creation_height", type := .bigint, nullable := true },
    { name := "bytecode_hash", type := .text, nullable := true }]
  key := ["address"]
  indexes := [
    indexOn "evm_contracts" "creation_tx" "creation_tx",
    indexOn "evm_contracts" "creator" "creator"]

/-- All tables, in the order in which they can be made. -/
def tables : List Table :=
  [pending, transactions, logs, tokens, transfers, contracts]

def table? (name : String) : Option Table := tables.find? (·.name == name)

end EvmIndexer.Schema
