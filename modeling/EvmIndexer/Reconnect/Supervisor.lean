import EvmIndexer.Reconnect.Timer

/-!
# Supervising a reconnection

A supervisor lets a timer start runs of a reconnection. A run may take any time
and may fail, and a failed run asks for the timer again. Shutting down closes the
timer and cancels the latest run if it is not over.

Everything that can happen next is a move, so a history is a list of moves and
may interleave them in any way that is possible. Two things are not possible: a
timer does not go off before its time, and not while an earlier run has yet to
take its first step.
-/

namespace EvmIndexer

inductive Supervisor.Run where
  /-- It was started and has not taken its first step. -/
  | spawned
  | running
  | over
  | cancelled
deriving DecidableEq, Repr

structure Supervisor where
  timer : Timer
  clock : Rat := 0
  /-- The runs in the order in which they were started. -/
  runs : List Supervisor.Run := []
deriving DecidableEq, Repr

namespace Supervisor

inductive Move where
  /-- Time passes. -/
  | wait (seconds : Rat)
  /-- Somebody asks for the timer. -/
  | schedule
  /-- The timer goes off and starts a run. -/
  | fire
  /-- A run takes its first step. -/
  | begin (run : Nat)
  | succeed (run : Nat)
  | fail (run : Nat)
  | shutdown
deriving DecidableEq, Repr

/-- Asks for the timer: whether it was armed for it. -/
def schedule (s : Supervisor) : Bool × Supervisor :=
  let (armed, timer) := s.timer.schedule s.clock
  (armed, { s with timer })

/-- Whether a run is not over. -/
def Run.isLive : Run → Bool
  | .spawned | .running => true
  | .over | .cancelled => false

/-- Cancels the latest run if it is not over. -/
def cancelLatest (runs : List Run) : List Run :=
  match runs.getLast? with
  | some run => if run.isLive then runs.dropLast ++ [.cancelled] else runs
  | none => runs

/-- Whether somebody waits for the timer to go off. -/
def canFire (s : Supervisor) : Bool :=
  s.timer.isDue s.clock && !s.runs.contains .spawned

/-- The supervisor after a move, if the move is possible. -/
def step? (s : Supervisor) : Move → Option Supervisor
  | .wait seconds =>
    if 0 ≤ seconds then some { s with clock := s.clock + seconds } else none
  | .schedule => some s.schedule.2
  | .fire =>
    if s.canFire then
      some { s with timer := s.timer.goOff, runs := s.runs ++ [.spawned] }
    else none
  | .begin run =>
    if s.runs[run]? = some .spawned then
      some { s with runs := s.runs.set run .running }
    else none
  | .succeed run =>
    if s.runs[run]? = some .running then
      some { s with runs := s.runs.set run .over }
    else none
  | .fail run =>
    if s.runs[run]? = some .running then
      some { s with runs := s.runs.set run .over }.schedule.2
    else none
  | .shutdown =>
    some { s with timer := s.timer.close, runs := cancelLatest s.runs }

end Supervisor

end EvmIndexer
