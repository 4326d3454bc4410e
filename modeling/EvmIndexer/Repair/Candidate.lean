import EvmIndexer.Store.Work

/-!
# Candidates for repair

What a search for gaps in the tables finds: transactions without logs, creations
without a contract, emitters without a token, and announcements without a
transfer. A candidate carries what its row is derived from.

Candidates come in pages or all at once, and rows are written in chunks. Cutting
a list into chunks loses nothing and keeps the order.
-/

namespace EvmIndexer

namespace Candidate

/-- A transaction without logs. -/
structure Unlogged where
  txId : String
  height : Int
  response : Option String
deriving DecidableEq, Repr

/-- A successful creation without a contract. -/
structure Creation where
  txId : String
  creator : String
  nonce : Int
  code : Option String
  height : Option Int
deriving DecidableEq, Repr

/-- An emitter of transfers without a token. -/
structure Emitter where
  address : String
  firstTx : Option String
  firstHeight : Option Int
deriving DecidableEq, Repr

/-- A log that announces a transfer which is not there. -/
structure Unmoved where
  txId : String
  logIndex : Int
  address : String
  topics : List String
  data : Option String
  height : Option Int
deriving DecidableEq, Repr

/-- The result of the execution, if it left logs. -/
def Unlogged.execution? (row : Unlogged) : Option Execution := do
  let execution ← Execution.decode (row.response.map .text)
  if execution.logs.isEmpty then none else some (execution.bind row.txId)

def Creation.contract (row : Creation) : Except Contract.Fault Contract :=
  Contract.ofCreation row.txId row.creator row.nonce row.code row.height

/-- The token that is missing, with what is known of it. -/
def Emitter.token (row : Emitter) (known : Metadata) : Token where
  address := row.address
  name := known.name
  symbol := known.symbol
  decimals := known.decimals
  firstSeenTx := row.firstTx
  firstSeenHeight := row.firstHeight

/-- The log; a log without data has the empty data. -/
def Unmoved.log (row : Unmoved) : Log where
  txId := row.txId
  index := row.logIndex
  address := row.address
  topics := row.topics
  data := match row.data with
    | none | some "" => "0x"
    | some data => data

end Candidate

/-- Cuts a list into chunks of a size; the last one may be smaller. A chunk has
at least one element. -/
def chunks {α : Type} (size : Nat) : List α → List (List α)
  | [] => []
  | a :: rest => (a :: rest.take (size - 1)) :: chunks size (rest.drop (size - 1))
termination_by rows => rows.length
decreasing_by simp only [List.length_drop, List.length_cons]; omega

/-- Chunks together are the list. -/
theorem flatten_chunks {α : Type} (size : Nat) (rows : List α) :
    (chunks size rows).flatten = rows := by
  fun_induction chunks size rows with
  | case1 => rfl
  | case2 a rest ih => simp [ih]

theorem mem_of_mem_chunk {α : Type} {size : Nat} {rows chunk : List α} {row : α}
    (hchunk : chunk ∈ chunks size rows) (hrow : row ∈ chunk) : row ∈ rows := by
  rw [← flatten_chunks size rows]
  exact List.mem_flatten_of_mem hchunk hrow

end EvmIndexer
