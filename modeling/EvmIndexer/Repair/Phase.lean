import EvmIndexer.Repair.Candidate
import EvmIndexer.Store.Session

/-!
# Repairing the tables

Five phases fill the gaps in the tables: logs, contracts, tokens, transfers and
what is known of tokens. Every phase can be run again, because rows that are
there are left alone.

The phase of the logs reads its candidates page by page. The place where the next
page begins is the last row of the page before, whatever became of its rows, so
a row that fails over and over is passed once and the phase ends. Each row has a
transaction of its own; if that fails the row is left out and the phase goes on.

The other phases read all their candidates and write them in chunks, one
transaction each. What a node says about tokens is welcome and not required: a
token it says nothing about is written without.
-/

namespace EvmIndexer

/-- Who knows about tokens: what is known of the token at an address, unless
asking fails. -/
abbrev MetadataSource := String → Option Metadata

structure Repair where
  /-- The size of pages and chunks. -/
  size : Nat := 100
  /-- The greatest number of transfers in one run. -/
  transferLimit : Nat := 10000
  /-- The topic of the transfer event, in lower case. -/
  event : String := transferTopic
  metadata : Option MetadataSource := none

inductive Repair.Fault where
  | sizeNotPositive
  | transferLimitNotPositive
deriving DecidableEq, Repr

/-- The message about a repair that cannot be set up. -/
def Repair.Fault.message : Repair.Fault → String
  | .sizeNotPositive => "batch_size must be positive"
  | .transferLimitNotPositive => "transfer_limit must be positive"

namespace Repair

def ofLimits? (size transferLimit : Int) (event : String)
    (metadata : Option MetadataSource) : Except Fault Repair :=
  if size ≤ 0 then .error .sizeNotPositive
  else if transferLimit ≤ 0 then .error .transferLimitNotPositive
  else .ok {
    size := size.toNat
    transferLimit := transferLimit.toNat
    event := Text.lower event
    metadata := metadata }

/-- What is known of a token; nothing if nobody is asked or asking fails. -/
def known (repair : Repair) (address : String) : Metadata :=
  (repair.metadata.bind fun source => source address).getD {}

def total (counts : List Nat) : Nat := counts.foldr (· + ·) 0

/-- The work on chunks of rows, one after the other: the sum of their counts. -/
def inChunks {α : Type} (repair : Repair) (rows : List α)
    (work : List α → Work Nat) : Work Nat := do
  let counts ← (chunks repair.size rows).mapM work
  return total counts

/-! ## Logs -/

def writeLogs (logs : List Log) (found : Recognition) : Work Unit :=
  Work.transaction do
    Work.send (.insertLog logs)
    Work.insertSome .insertToken found.tokens
    Work.insertSome .insertTransfer found.transfers

/-- Repairs a transaction without logs: the number of logs written. -/
def logRow (repair : Repair) (row : Candidate.Unlogged) : Work Nat :=
  match row.execution? with
  | none => pure 0
  | some execution =>
    let found := Recognition.ofLogs repair.event row.txId (some row.height) []
      execution.logs
    tryCatch (do
      writeLogs execution.logs found
      return execution.logs.length) fun _ => pure 0

/-- The place before the first page. -/
def firstPlace : Int × String := (-1, "")

/-- Repairs pages of transactions without logs from a place on. The first empty
page is the last one. -/
def logsFrom (repair : Repair) (place : Int × String) :
    List (List Candidate.Unlogged) → Work Nat
  | [] => do
    Work.send (.selectWithoutLogs place.1 place.2 repair.size)
    return 0
  | page :: pages => do
    Work.send (.selectWithoutLogs place.1 place.2 repair.size)
    match page.getLast? with
    | none => return 0
    | some last =>
      let counts ← page.mapM (logRow repair)
      let later ← logsFrom repair (last.height, last.txId) pages
      return total counts + later

/-- The phase of the logs: the number of logs written. -/
def logs (repair : Repair) (pages : List (List Candidate.Unlogged)) : Work Nat :=
  logsFrom repair firstPlace pages

/-! ## Contracts -/

/-- The contracts of a chunk of creations. A creation that none can be derived
of ends the phase. -/
def contractRows (chunk : List Candidate.Creation) : Work (List Contract) :=
  match chunk.mapM Candidate.Creation.contract with
  | .ok contracts => pure contracts
  | .error fault => throw (.contract fault)

/-- The phase of the contracts: the number of contracts sent. -/
def contracts (repair : Repair) (rows : List Candidate.Creation) : Work Nat := do
  Work.send .selectMissingContracts
  repair.inChunks rows fun chunk => do
    let contracts ← contractRows chunk
    Work.transaction (Work.send (.insertContract contracts))
    return contracts.length

/-! ## Tokens -/

/-- The phase of the tokens: the number of tokens sent. -/
def tokens (repair : Repair) (rows : List Candidate.Emitter) : Work Nat := do
  Work.send (.selectMissingTokens repair.event)
  repair.inChunks rows fun chunk => do
    let tokens := chunk.map fun row => row.token (repair.known row.address)
    Work.transaction (Work.send (.upsertToken tokens))
    return tokens.length

/-! ## Transfers -/

def addUnmoved (repair : Repair) (found : Recognition)
    (row : Candidate.Unmoved) : Recognition :=
  let more := Recognition.ofLogs repair.event row.txId row.height
    (found.tokens.map (·.address)) [row.log]
  ⟨found.tokens ++ more.tokens, found.transfers ++ more.transfers⟩

/-- The transfers of a chunk and the tokens that they need. -/
def recognizeChunk (repair : Repair) (chunk : List Candidate.Unmoved) :
    Recognition :=
  chunk.foldl (addUnmoved repair) {}

/-- Writes the transfers of a chunk, if there are any, after their tokens. -/
def transferChunk (repair : Repair) (chunk : List Candidate.Unmoved) :
    Work Nat := do
  let found := recognizeChunk repair chunk
  if found.transfers.isEmpty then return 0
  Work.transaction do
    Work.send (.insertToken found.tokens)
    Work.send (.insertTransfer found.transfers)
  return found.transfers.length

/-- The phase of the transfers: the number of transfers sent. -/
def transfers (repair : Repair) (rows : List Candidate.Unmoved) : Work Nat := do
  Work.send (.selectMissingTransfers repair.event repair.transferLimit)
  repair.inChunks rows (transferChunk repair)

/-! ## What is known of tokens -/

/-- What is known of the tokens at addresses, without those that nothing is
known of. -/
def knownRows (repair : Repair) (addresses : List String) :
    List (String × Metadata) :=
  (addresses.map fun address => (address, repair.known address)).filter
    (·.2.isSome)

/-- The phase of what is known of tokens: the number of tokens sent. Without
anyone to ask there is nothing to do. -/
def metadataOf (repair : Repair) (addresses : List String) : Work Nat :=
  match repair.metadata with
  | none => pure 0
  | some _ => do
    Work.send .selectMissingMetadata
    repair.inChunks addresses fun chunk => do
      let rows := repair.knownRows chunk
      if rows.isEmpty then return 0
      Work.transaction (Work.send (.fillMetadata rows))
      return rows.length

/-! ## All phases -/

structure Candidates where
  unlogged : List (List Candidate.Unlogged) := []
  creations : List Candidate.Creation := []
  emitters : List Candidate.Emitter := []
  unmoved : List Candidate.Unmoved := []
  unnamed : List String := []

inductive Phase where
  | logs
  | contracts
  | tokens
  | transfers
  | metadata
deriving DecidableEq, Repr

def Phase.name : Phase → String
  | .logs => "logs"
  | .contracts => "contracts"
  | .tokens => "tokens"
  | .transfers => "token_transfers"
  | .metadata => "token_metadata"

/-- The phases in their order. Logs are first, because the later phases look at
them; tokens are before transfers, because transfers refer to them. -/
def phases : List Phase := [.logs, .contracts, .tokens, .transfers, .metadata]

def Phase.ofName? (name : String) : Option Phase :=
  phases.find? (·.name == name)

/-- The work of a phase: a count of what it wrote or sent. -/
def phase (repair : Repair) (found : Candidates) : Phase → Work Nat
  | .logs => repair.logs found.unlogged
  | .contracts => repair.contracts found.creations
  | .tokens => repair.tokens found.emitters
  | .transfers => repair.transfers found.unmoved
  | .metadata => repair.metadataOf found.unnamed

def all (repair : Repair) (found : Candidates) : Work (List (Phase × Nat)) :=
  phases.mapM fun phase => do return (phase, ← repair.phase found phase)

end Repair

end EvmIndexer
