import EvmIndexer.Intake.OnDemand
import EvmIndexer.Intake.Polling
import EvmIndexer.Store.FaultPlan

/-!
# Rehearsing the intake

A rehearsal is a history of one store with everything that works on it: items
come into the queue, somebody asks for a transaction, the queue is polled by hand
or by the watch. A plan of faults says which rows fail, and may change on the
way.
-/

namespace EvmIndexer.Watch

inductive Move where
  | enqueue (item : PendingItem) (response : Option String)
  /-- The rows of a transaction fail from now on. -/
  | fail (txId : String)
  | unfail (txId : String)
  /-- The rows of a transaction are refused from now on. -/
  | refuse (txId : String)
  | unrefuse (txId : String)
  /-- Somebody asks for a transaction. -/
  | decode (txId : String)
  /-- Somebody polls. -/
  | poll
  | start
  | wait (seconds : Nat)
  | stop
deriving DecidableEq, Repr

inductive Answer where
  | nothing
  | reply (reply : Reply)
  | polled (result : Except Failure Nat)

structure Rehearsal where
  watch : Watch
  store : Store := {}
  plan : FaultPlan := {}
  signatures : Option SignatureSource := none

namespace Rehearsal

def around (r : Rehearsal) : Surroundings where
  faults := r.plan.faults
  signatures := r.signatures

/-- Makes a move: the answer, and the rehearsal afterwards. -/
def play (r : Rehearsal) : Move → Answer × Rehearsal
  | .enqueue item response =>
    (.nothing, { r with store := r.store.enqueue item response })
  | .fail txId =>
    (.nothing, { r with plan.failing := txId :: r.plan.failing })
  | .unfail txId =>
    (.nothing, { r with plan.failing := r.plan.failing.filter (· != txId) })
  | .refuse txId =>
    (.nothing, { r with plan.refused := txId :: r.plan.refused })
  | .unrefuse txId =>
    (.nothing, { r with plan.refused := r.plan.refused.filter (· != txId) })
  | .decode txId =>
    let (reply, store) := decodeOnDemand txId r.around r.store
    (.reply reply, { r with store })
  | .poll =>
    let (result, watch, store) := r.watch.pollOnce r.around r.store
    (.polled result, { r with watch, store })
  | .start =>
    let (watch, store) := r.watch.start r.around r.store
    (.nothing, { r with watch, store })
  | .wait seconds =>
    let (watch, store) := Watch.advance r.around seconds r.watch r.store
    (.nothing, { r with watch, store })
  | .stop => (.nothing, { r with watch := r.watch.stop })

end Rehearsal

end EvmIndexer.Watch
