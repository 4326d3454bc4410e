import EvmIndexer.Outcome.Processing

/-!
# Draining the queue in batches

A poll takes a batch of items off the queue and processes them one after the
other in one transaction: all of them are stored, or none. Tokens added by an
item of the batch are known to the items after it.

The drain counts how many polls in a row found nothing. A poll that fails leaves
the count alone.
-/

namespace EvmIndexer

/-- The work of one poll: the number of items processed. -/
def Work.drain (size : Int) : Work Nat :=
  transaction do
    let items ← pendingItems size
    let _ ← items.foldlM (fun known item => do
      let (_, known) ← Outcome.process item (some known)
      return known.getD []) []
    return items.length

/-- A drain: the size of its batches and its count of empty polls. -/
structure Drain where
  size : Int
  emptyPolls : Nat := 0
deriving DecidableEq, Repr

inductive Drain.Fault where
  | sizeNotPositive
  | intervalNotPositive
deriving DecidableEq, Repr

/-- The message about a drain that cannot be set up. -/
def Drain.Fault.message : Drain.Fault → String
  | .sizeNotPositive => "batch_size must be positive"
  | .intervalNotPositive => "poll_interval_s must be positive"

def Drain.after (drain : Drain) : Except Failure Nat → Drain
  | .ok 0 => { drain with emptyPolls := drain.emptyPolls + 1 }
  | .ok (_ + 1) => { drain with emptyPolls := 0 }
  | .error _ => drain

/-- Polls once: how it ended, and the drain and the store afterwards. -/
def Drain.poll (drain : Drain) (around : Surroundings) (store : Store) :
    Except Failure Nat × Drain × Store :=
  let (result, store) := (Work.drain drain.size).run around store
  (result, drain.after result, store)

end EvmIndexer
