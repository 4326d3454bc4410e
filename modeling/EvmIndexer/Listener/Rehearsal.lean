import EvmIndexer.Listener.Machine

/-!
# Rehearsing a listener

A rehearsal is a history of a listener in surroundings that follow a script: how
each call of the connector goes, and how each identifier is handled. Everything
that can happen happens at once and in the order in which it became possible;
only a call that hangs and a task that is blocked wait, until somebody lets go of
them.
-/

namespace EvmIndexer.Listener

structure Dial where
  /-- Whether it waits until somebody lets go of it. -/
  hangs : Bool := false
  /-- Whether it gives a connection. -/
  connects : Bool := true
  watchable : Bool := true
  subscribes : Bool := true
  /-- Whether the connection is closed when it cannot be subscribed. -/
  closesItself : Bool := false
  /-- Whether closing the connection succeeds. -/
  closable : Bool := true
deriving DecidableEq, Repr

inductive Treatment where
  | ends (ending : Ending)
  /-- It ends well, but not before somebody lets go of it. -/
  | blocks
deriving DecidableEq, Repr

structure Rehearsal where
  listener : Listener
  dials : List Dial := []
  treatments : List (String × Treatment) := []
  /-- Whether calls that hang were let go. -/
  unhung : Bool := false
  /-- The identifiers that were let go. -/
  released : List String := []
  /-- Whether the latest call of the shutdown returned at once. -/
  repeated : Bool := false
deriving DecidableEq, Repr

namespace Rehearsal

def dial (r : Rehearsal) (call : Nat) : Dial := r.dials.getD call {}

def dialOf (r : Rehearsal) (conn : Nat) : Dial :=
  match r.listener.connections[conn]? with
  | some connection => r.dial connection.call
  | none => {}

/-- How an identifier's handling ends, if nothing holds it up. -/
def ending? (r : Rehearsal) (txId : String) : Option Ending :=
  match (r.treatments.lookup txId).getD (.ends .decoded) with
  | .ends ending => some ending
  | .blocks => if r.released.contains txId then some .decoded else none

def attemptMove? (r : Rehearsal) (attempt : Nat) : Stage → Option Move
  | .spawned => some (.begin attempt)
  | .dialing call =>
    let dial := r.dial call
    if dial.hangs && !r.unhung then none
    else if dial.connects then some (.connected attempt dial.watchable)
    else some (.refused attempt)
  | .subscribing conn =>
    let dial := r.dialOf conn
    if dial.subscribes then some (.subscribed attempt)
    else if dial.closesItself && !r.listener.isClosed conn then some (.drop conn)
    else some (.unsubscribed attempt)
  | .discarding conn | .retiring conn =>
    some (.released attempt (r.dialOf conn).closable)
  | .over | .cancelled => none

def taskMove? (r : Rehearsal) (task : Nat) (handling : Handling) : Option Move :=
  match handling.stage with
  | .spawned => some (.handle task)
  | .running => (r.ending? handling.txId).map (.complete task)
  | .over => none

def shutdownMove? (r : Rehearsal) : Shutdown → Option Move
  | .cancelling => some .attemptEnded
  | .closing conn => some (.connectionEnded (r.dialOf conn).closable)
  | .waiting _ => some .tasksEnded
  | .notCalled | .returned | .raised => none

/-- The moves that are next, in order: those of the attempts, of the tasks, of
the shutdown and of the timer. -/
def moves (r : Rehearsal) : List Move :=
  let attempts := r.listener.attempts.mapIdx fun i a => r.attemptMove? i a.stage
  let tasks := r.listener.handlings.mapIdx fun i h => r.taskMove? i h
  (attempts ++ tasks ++ [r.shutdownMove? r.listener.shutdown, some .fire]).filterMap id

/-- Makes the first move that is next and possible. -/
def turn? (r : Rehearsal) : Option Rehearsal :=
  (r.moves.findSome? r.listener.step?).map fun listener => { r with listener }

/-- Makes moves while there are any, at most so many. -/
def turns : Nat → Rehearsal → Rehearsal
  | 0, r => r
  | n + 1, r =>
    match r.turn? with
    | some r => turns n r
    | none => r

/-- A bound on the moves that are possible without anything from outside: an
attempt makes at most six, and there are no more attempts than there are now and
calls in the script to come; a task makes two, and the shutdown three. -/
def patience (r : Rehearsal) : Nat :=
  6 * (r.listener.attempts.length + r.dials.length + 1)
    + 2 * r.listener.handlings.length + 3

def settle (r : Rehearsal) : Rehearsal := turns r.patience r

/-- Makes a move from outside, and lets everything happen that follows. -/
def play (r : Rehearsal) (move : Move) : Rehearsal :=
  match r.listener.step? move with
  | some listener => settle { r with listener }
  | none => r.settle

def advance (seconds : Nat) (r : Rehearsal) : Rehearsal :=
  Nat.repeat (play · (.wait 1)) seconds r.settle

def shutdown (r : Rehearsal) : Rehearsal :=
  play { r with repeated := r.listener.phase = .closing } .shutdown

/-- Lets go of the calls that hang, now and later. -/
def unhang (r : Rehearsal) : Rehearsal := settle { r with unhung := true }

def release (r : Rehearsal) (txId : String) : Rehearsal :=
  settle { r with released := txId :: r.released }

def startDone (r : Rehearsal) : Bool :=
  match (r.listener.attempts.filter fun a => !a.byTimer).getLast? with
  | some attempt => !attempt.stage.isLive
  | none => false

def shutdownDone (r : Rehearsal) : Bool :=
  match r.listener.shutdown with
  | .returned | .raised => true
  | .notCalled => false
  | .cancelling | .closing _ | .waiting _ => r.repeated

end Rehearsal

end EvmIndexer.Listener
