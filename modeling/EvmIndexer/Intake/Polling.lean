import EvmIndexer.Intake.Batch

/-!
# Polling the queue

A watch drains the queue again and again. It polls as soon as it is started, and
then waits: for one interval after a poll that went well, whether it found
anything or not, and for two after one that failed, whose work is then repeated.
Stopping the watch ends the wait; a poll is never cut short.

Time is a clock of whole seconds. Intervals need not be whole, so a wait ends at
the first second that is not before its end.
-/

namespace EvmIndexer

inductive Watch.Phase where
  | waiting (due : Rat)
  | stopped
deriving DecidableEq, Repr

structure Watch where
  drain : Drain
  interval : Rat
  clock : Nat := 0
  /-- How far it is, once it has been started. -/
  phase : Option Watch.Phase := none
deriving DecidableEq, Repr

namespace Watch

/-- A watch with batches of a size and an interval in seconds. -/
def ofLimits? (size : Int) (interval : Rat) : Except Drain.Fault Watch :=
  if size ≤ 0 then .error .sizeNotPositive
  else if interval ≤ 0 then .error .intervalNotPositive
  else .ok { drain := { size }, interval }

def pause (watch : Watch) : Except Failure Nat → Rat
  | .ok _ => watch.interval
  | .error _ => 2 * watch.interval

/-- Polls, without any change to the waiting. -/
def pollOnce (watch : Watch) (around : Surroundings) (store : Store) :
    Except Failure Nat × Watch × Store :=
  let (result, drain, store) := watch.drain.poll around store
  (result, { watch with drain }, store)

def start (watch : Watch) (around : Surroundings) (store : Store) :
    Watch × Store :=
  let (result, watch, store) := watch.pollOnce around store
  ({ watch with phase := some (.waiting (watch.clock + watch.pause result)) },
    store)

def tick (watch : Watch) (around : Surroundings) (store : Store) :
    Watch × Store :=
  let watch := { watch with clock := watch.clock + 1 }
  match watch.phase with
  | some (.waiting due) =>
    if due ≤ watch.clock then watch.start around store else (watch, store)
  | _ => (watch, store)

def advance (around : Surroundings) : Nat → Watch → Store → Watch × Store
  | 0, watch, store => (watch, store)
  | seconds + 1, watch, store =>
    let (watch, store) := watch.tick around store
    advance around seconds watch store

def stop (watch : Watch) : Watch :=
  { watch with phase := watch.phase.map fun _ => .stopped }

end Watch

end EvmIndexer
