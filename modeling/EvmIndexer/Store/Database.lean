import EvmIndexer.Outcome.Basic

/-!
# The tables

Six tables: the queue of pending items, and the rows derived from them. Rows
keep the order in which they were inserted.

Derived rows are only ever added. An insertion leaves a row alone whose key is
already there, so deriving the same rows again changes nothing, and neither does
a second worker that was faster.
-/

namespace EvmIndexer

structure Database where
  pending : List PendingItem := []
  transactions : List Transaction := []
  logs : List Log := []
  tokens : List Token := []
  transfers : List Transfer := []
  contracts : List Contract := []
deriving DecidableEq, Repr

namespace Database

/-- Adds a row, unless a row with its key is there. -/
def insertNew {α β : Type} [BEq β] (key : α → β) (rows : List α) (row : α) :
    List α :=
  if rows.any fun old => key old == key row then rows else rows ++ [row]

def logKey (log : Log) : String × Int := (log.txId, log.index)

def transferKey (transfer : Transfer) : String × Int :=
  (transfer.txId, transfer.logIndex)

/-- Adds transactions that are not there yet. -/
def insertTransactions (db : Database) (rows : List Transaction) : Database :=
  { db with transactions := rows.foldl (insertNew (·.txId)) db.transactions }

/-- Adds logs that are not there yet. -/
def insertLogs (db : Database) (rows : List Log) : Database :=
  { db with logs := rows.foldl (insertNew logKey) db.logs }

/-- Adds tokens that are not there yet. -/
def insertTokens (db : Database) (rows : List Token) : Database :=
  { db with tokens := rows.foldl (insertNew (·.address)) db.tokens }

/-- Adds transfers that are not there yet. -/
def insertTransfers (db : Database) (rows : List Transfer) : Database :=
  { db with transfers := rows.foldl (insertNew transferKey) db.transfers }

/-- Adds contracts that are not there yet. -/
def insertContracts (db : Database) (rows : List Contract) : Database :=
  { db with contracts := rows.foldl (insertNew (·.address)) db.contracts }

def retire (db : Database) (txId : String) : Database :=
  { db with pending := db.pending.filter fun item => item.txId != txId }

/-- Puts an item into the queue. An item that is still there is replaced where
it stands. -/
def enqueue (db : Database) (item : PendingItem) : Database :=
  if db.pending.any fun old => old.txId == item.txId then
    { db with pending := db.pending.map fun old =>
        if old.txId == item.txId then item else old }
  else { db with pending := db.pending ++ [item] }

def isDecoded (db : Database) (txId : String) : Bool :=
  db.transactions.any fun tx => tx.txId == txId

/-- The items that have no transaction row, at most so many. -/
def undecoded (db : Database) (limit : Nat) : List PendingItem :=
  (db.pending.filter fun item => !db.isDecoded item.txId).take limit

def pendingItem? (db : Database) (txId : String) : Option PendingItem :=
  db.pending.find? fun item => item.txId == txId

def decodedHash? (db : Database) (txId : String) : Option String :=
  (db.transactions.find? fun tx => tx.txId == txId).map (·.hash)

end Database

end EvmIndexer
