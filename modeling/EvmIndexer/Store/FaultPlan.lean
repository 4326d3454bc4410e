import EvmIndexer.Store.Statement

/-!
# Plans of faults

A plan names the transactions whose rows strike a fault when they are written.
Some fail for a reason that has nothing to do with them. Others are refused by
the database, which takes only their placeholders; what it refuses is the row and
not the transaction. Of some only the logs fail.
-/

namespace EvmIndexer

structure FaultPlan where
  /-- The transactions whose rows fail. -/
  failing : List String := []
  /-- The transactions whose rows are refused. -/
  refused : List String := []
  /-- The transactions whose logs fail. -/
  failingLogs : List String := []
deriving DecidableEq, Repr

namespace FaultPlan

def failureText (txId : String) : String :=
  "simulated write failure for " ++ txId

/-- The fault that the row of a transaction strikes. -/
def ofTransaction? (plan : FaultPlan) (tx : Transaction) : Option Fault :=
  if plan.failing.contains tx.txId then
    some ⟨.foreign, false, failureText tx.txId⟩
  else if plan.refused.contains tx.txId && tx.status != .decodeFailed then
    some ⟨.data, false, "value out of range"⟩
  else none

def ofLog? (plan : FaultPlan) (log : Log) : Option Fault :=
  if plan.failingLogs.contains log.txId then
    some ⟨.foreign, false, failureText log.txId⟩
  else none

/-- The fault that a statement strikes, wherever it is sent. -/
def faults (plan : FaultPlan) (_position : Nat) : Statement → Option Fault
  | .insertTransaction rows => rows.findSome? plan.ofTransaction?
  | .insertLog rows => rows.findSome? plan.ofLog?
  | _ => none

end FaultPlan

end EvmIndexer
