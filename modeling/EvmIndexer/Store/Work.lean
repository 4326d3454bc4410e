import EvmIndexer.Signature.Service
import EvmIndexer.Store.Statement

/-!
# Units of work

A unit of work runs against a store and ends with a value or a failure. The
store holds the tables, the responses that the ledger recorded, and the journal:
every statement and every boundary of a transaction, each with the tables as
they stood right after it.

Outside the store are the surroundings, which a unit of work cannot change:
which statements fail, and who answers questions about signatures. A plan of
faults sees the number of journal entries before the statement, so it can strike
at any position of a run.

A transaction and a savepoint are the same bracket with other names. When the
work inside fails, the tables are put back as they were, and the journal is not.
-/

namespace EvmIndexer

inductive Event where
  | begin
  | commit
  | rollback
  | savepoint
  | rollbackSavepoint
  | statement (s : Statement)
deriving DecidableEq, Repr

def Event.name : Event → String
  | .begin => "begin"
  | .commit => "commit"
  | .rollback => "rollback"
  | .savepoint => "savepoint"
  | .rollbackSavepoint => "rollback_savepoint"
  | .statement s => s.name

def Event.parameters : Event → Parameters
  | .statement s => s.parameters
  | _ => .nothing

structure Entry where
  event : Event
  tables : Database
deriving DecidableEq, Repr

structure Store where
  tables : Database := {}
  /-- The ledger's answers by transaction, as they were recorded. -/
  responses : List (String × String) := []
  journal : List Entry := []
  /-- The selectors that were asked about. -/
  asked : List String := []
deriving DecidableEq, Repr

/-- Who answers questions about signatures: the answer about a selector, given
the selectors asked about before. -/
abbrev SignatureSource := List String → String → LookupAnswer

structure Surroundings where
  /-- The fault that strikes a statement at a position of the journal. -/
  faults : Nat → Statement → Option Fault := fun _ _ => none
  signatures : Option SignatureSource := none

inductive Failure where
  | database (fault : Fault)
  /-- A row of an outcome was refused. -/
  | rejected (reason : String)
  | limitNotPositive
  /-- A contract cannot be derived. -/
  | contract (fault : Contract.Fault)
deriving DecidableEq, Repr

def Failure.message : Failure → String
  | .database fault => fault.message
  | .rejected reason => reason
  | .limitNotPositive => "limit must be positive"
  | .contract fault => fault.message?.getD "no contract can be derived"

abbrev Work := ReaderT Surroundings (EStateM Failure Store)

namespace Work

/-- Runs a unit of work: how it ended, and the store afterwards. -/
def run {α : Type} (work : Work α) (around : Surroundings) (store : Store) :
    Except Failure α × Store :=
  match work around store with
  | .ok a store => (.ok a, store)
  | .error failure store => (.error failure, store)

def record (event : Event) : Work Unit := fun _ store =>
  .ok () { store with journal := store.journal ++ [⟨event, store.tables⟩] }

/-- Sends a statement: it takes effect or strikes a fault, and is entered into
the journal either way. -/
def send (s : Statement) : Work Unit := fun around store =>
  match around.faults store.journal.length s with
  | some fault =>
    .error (.database fault)
      { store with journal := store.journal ++ [⟨.statement s, store.tables⟩] }
  | none =>
    let tables := s.apply store.tables
    .ok () { store with
      tables := tables
      journal := store.journal ++ [⟨.statement s, tables⟩] }

/-- Sends a statement that reads, and gives what it reads. -/
def query {α : Type} (s : Statement) (read : Store → α) : Work α := do
  send s
  return read (← get)

def restore (tables : Database) : Work Unit := fun _ store =>
  .ok () { store with tables }

/-- Runs work between two boundaries; if it fails, the tables are put back. -/
def bracket {α : Type} (opening : Event) (closing : Work Unit) (undone : Event)
    (work : Work α) : Work α := do
  let before := (← get).tables
  record opening
  tryCatch (do let a ← work; closing; return a) fun failure => do
    restore before
    record undone
    throw failure

def transaction {α : Type} (work : Work α) : Work α :=
  bracket .begin (record .commit) .rollback work

def savepoint {α : Type} (work : Work α) : Work α :=
  bracket .savepoint (pure ()) .rollbackSavepoint work

/-- Asks about a selector, if there is anyone to ask. -/
def askSignature (selector : String) : Work LookupAnswer := fun around store =>
  match around.signatures with
  | none => .ok .unknown store
  | some source =>
    .ok (source store.asked selector)
      { store with asked := store.asked ++ [selector] }

end Work

namespace Store

/-- Puts an item into the queue, and records the ledger's answer if there is
one. -/
def enqueue (store : Store) (item : PendingItem) (response : Option String) :
    Store :=
  let responses := match response with
    | none => store.responses
    | some text =>
      (item.txId, text) :: store.responses.filter fun r => r.1 != item.txId
  { store with tables := store.tables.enqueue item, responses }

/-- The number of times an event is in the journal. -/
def count (store : Store) (event : Event) : Nat :=
  (store.journal.filter fun entry => entry.event == event).length

/-- The number of times the queue was looked at for a batch. -/
def polls (store : Store) : Nat :=
  (store.journal.filter fun entry =>
    match entry.event with
    | .statement (.selectPending _) => true
    | _ => false).length

end Store

end EvmIndexer
