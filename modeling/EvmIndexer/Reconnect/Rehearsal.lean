import EvmIndexer.Reconnect.Supervisor

/-!
# Rehearsing a reconnection

A rehearsal is a history of a supervisor in which the runs end as a script says
and everything that can happen happens at once: a timer goes off at the first
second that is not before its time, and the run it starts takes its first step,
and ends or stays, within that second.
-/

namespace EvmIndexer.Supervisor

inductive Ending where
  | ok
  | fail
  /-- It does not end by itself. -/
  | hang
deriving DecidableEq, Repr

structure Rehearsal where
  supervisor : Supervisor
  /-- The endings of the runs to come; after the last, all end well. -/
  script : List Ending := []
  second : Nat := 0
  /-- The runs that took their first step, with the second they took it in. -/
  begun : List (Nat × Ending) := []
  /-- The seconds in which runs were cancelled. -/
  cancelled : List Nat := []
deriving DecidableEq, Repr

namespace Rehearsal

/-- The move by which a run ends, if it does. -/
def ending (run : Nat) : Ending → Option Move
  | .ok => some (.succeed run)
  | .fail => some (.fail run)
  | .hang => none

/-- Lets the timer go off and its run play, if the timer is due. -/
def turn? (r : Rehearsal) : Option Rehearsal := do
  let run := r.supervisor.runs.length
  let result := r.script.headD .ok
  let s ← r.supervisor.step? .fire
  let s ← s.step? (.begin run)
  let s ← match ending run result with
    | some move => s.step? move
    | none => some s
  return { r with
    supervisor := s
    script := r.script.tail
    begun := r.begun ++ [(r.second, result)] }

/-- Takes turns while there are any, at most so many. -/
def turns : Nat → Rehearsal → Rehearsal
  | 0, r => r
  | n + 1, r =>
    match r.turn? with
    | some r => turns n r
    | none => r

/-- Lets everything happen that can. Only a run that fails by the script is
followed by another one in the same second. -/
def settle (r : Rehearsal) : Rehearsal := turns (r.script.length + 1) r

def tick (r : Rehearsal) : Rehearsal :=
  settle { r with
    supervisor := { r.supervisor with clock := r.supervisor.clock + 1 }
    second := r.second + 1 }

def advance (seconds : Nat) (r : Rehearsal) : Rehearsal :=
  Nat.repeat tick seconds r.settle

/-- Asks for the timer: whether it was armed for it. -/
def schedule (r : Rehearsal) : Bool × Rehearsal :=
  let (armed, supervisor) := r.supervisor.schedule
  (armed, { r with supervisor })

def shutdown (r : Rehearsal) : Rehearsal :=
  let running := r.supervisor.runs.getLast? = some .running
  { r with
    supervisor := { r.supervisor with
      timer := r.supervisor.timer.close
      runs := cancelLatest r.supervisor.runs }
    cancelled := if running then r.cancelled ++ [r.second] else r.cancelled }

end Rehearsal

end EvmIndexer.Supervisor
