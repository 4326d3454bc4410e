import EvmIndexer.Listener.Basic

/-!
# What can happen to a listener

A move is what the listener does between two waits, together with the event that
ended the first of them: the connector answered, a subscription was made, a
connection closed, told of its end or brought a notification, a task went on, the
timer went off, time passed, or somebody called. A history is a list of moves
that are possible one after the other; every interleaving is one.

A connection is in use only once its channel is subscribed. Its end matters only
while it is in use. A failed attempt and the end of the connection in use both
arm the timer, unless the listener is shutting down.
-/

namespace EvmIndexer.Listener

inductive Move where
  /-- Time passes. -/
  | wait (seconds : Rat)
  /-- Somebody starts the listener. -/
  | start
  /-- The timer goes off and starts an attempt. -/
  | fire
  /-- An attempt that the timer started takes its first step. -/
  | begin (attempt : Nat)
  /-- The connector gives a connection, whose end can be watched or not. -/
  | connected (attempt : Nat) (watchable : Bool)
  /-- The connector gives none. -/
  | refused (attempt : Nat)
  /-- The channel is subscribed. -/
  | subscribed (attempt : Nat)
  /-- The channel cannot be subscribed. -/
  | unsubscribed (attempt : Nat)
  /-- The connection that an attempt gives up is closed, or cannot be. -/
  | released (attempt : Nat) (closed : Bool)
  /-- A connection closes without a word. -/
  | drop (conn : Nat)
  /-- A connection closes and tells of its end. -/
  | terminate (conn : Nat)
  /-- A connection brings a notification. -/
  | notify (conn : Nat) (channel payload : String)
  /-- A task takes its first step. -/
  | handle (task : Nat)
  /-- A task ends. -/
  | complete (task : Nat) (ending : Ending)
  /-- Somebody shuts the listener down. -/
  | shutdown
  /-- The attempt that the shutdown cancelled has ended. -/
  | attemptEnded
  /-- The connection that the shutdown gave up is closed, or cannot be. -/
  | connectionEnded (closed : Bool)
  /-- The tasks that the shutdown waits for are over. -/
  | tasksEnded
deriving DecidableEq, Repr

/-- The listener without its connection, about to make a new one. -/
def connectionLost (l : Listener) : Listener :=
  if l.phase = .closing then l
  else { l with
    installed := none
    phase := .disconnected
    timer := (l.timer.schedule l.clock).2 }

def addAttempt (l : Listener) (byTimer : Bool) : Listener :=
  { l with attempts := l.attempts ++ [⟨byTimer, .spawned⟩] }

/-- The first step of an attempt: the connector is called. -/
def dial (l : Listener) (attempt : Nat) : Listener :=
  if l.phase = .closing then l.setStage attempt .over
  else
    let calling := l.setStage attempt (.dialing l.calls)
    { calling with phase := .connecting, calls := l.calls + 1 }

/-- The end of an attempt that failed and has no connection to give up. -/
def endFailed (l : Listener) (attempt : Nat) : Listener :=
  (l.setStage attempt .over).connectionLost

/-- An attempt fails with a connection, which is closed first. -/
def failWith (l : Listener) (attempt conn : Nat) : Listener :=
  let l := l.notice .error
  if l.isClosed conn then l.endFailed attempt
  else l.setStage attempt (.discarding conn)

/-- The connector gave a connection to an attempt. -/
def connect (l : Listener) (attempt call : Nat) (watchable : Bool) : Listener :=
  let conn := l.connections.length
  let given : Connection := { call, watched := watchable }
  let l := { l with connections := l.connections ++ [given] }
  if watchable then l.setStage attempt (.subscribing conn)
  else l.failWith attempt conn

/-- The channel of an attempt's connection was subscribed. -/
def install (l : Listener) (attempt conn : Nat) : Listener :=
  let l := l.modifyConnection conn fun c => { c with subscribed := true }
  if l.phase = .closing then l.setStage attempt (.retiring conn)
  else
    { l.setStage attempt .over with installed := some conn, phase := .listening }

/-- Marks a connection as closed, if it is. -/
def markClosed (l : Listener) (conn : Nat) (closed : Bool) : Listener :=
  if closed then l.modifyConnection conn fun c => { c with closed := true } else l

def connectionEnd (l : Listener) (conn : Nat) : Listener :=
  let l := l.modifyConnection conn fun c => { c with closed := true, ended := true }
  let watched := (l.connections[conn]?.map (·.watched)).getD false
  if watched && l.installed == some conn then (l.notice .warning).connectionLost
  else l

def hear (l : Listener) (conn : Nat) (channel payload : String) : Listener :=
  let subscribed := (l.connections[conn]?.map (·.subscribed)).getD false
  if subscribed && l.accepts channel payload then
    { l with handlings := l.handlings ++ [⟨payload, .spawned⟩] }
  else l

def setHandling (l : Listener) (task : Nat) (stage : Handling.Stage)
    (event : Handled) : Listener :=
  { l with
    handlings := l.handlings.modify task fun h => { h with stage }
    handled := l.handled ++ [event] }

def endHandling (l : Listener) (task : Nat) (txId : String) : Ending → Listener
  | .decoded => l.setHandling task .over (.ended txId)
  | .notDecoded => (l.setHandling task .over (.ended txId)).notice .warning
  | .raised => (l.setHandling task .over (.raised txId)).notice .error

/-- The last part of a shutdown: the tasks that are at work now are waited for. -/
def awaitTasks (l : Listener) : Listener :=
  let tasks := l.inFlight
  { l with shutdown := if tasks.isEmpty then .returned else .waiting tasks }

/-- The middle part of a shutdown: the connection is given up. -/
def giveUpConnection (l : Listener) : Listener :=
  let given := l.installed
  let l := { l with installed := none }
  match given with
  | none => l.awaitTasks
  | some conn =>
    if l.isClosed conn then l.awaitTasks else { l with shutdown := .closing conn }

/-- The call of a shutdown. Only the first one does anything. -/
def callShutdown (l : Listener) : Listener :=
  if l.phase = .closing then l
  else
    let l := { l with phase := .closing, timer := l.timer.close }
    match l.timerAttempt? with
    | some attempt => { l.setStage attempt .cancelled with shutdown := .cancelling }
    | none => l.giveUpConnection

def allOver (l : Listener) (tasks : List Nat) : Bool :=
  tasks.all fun task => l.handlings[task]?.map (·.stage) == some .over

/-- The listener after a move, if the move is possible. -/
def step? (l : Listener) : Move → Option Listener
  | .wait seconds =>
    if 0 ≤ seconds then some { l with clock := l.clock + seconds } else none
  | .start => some ((l.addAttempt false).dial l.attempts.length)
  | .fire =>
    if l.timer.isDue l.clock && !l.attempts.any (·.stage == .spawned) then
      some { l.addAttempt true with timer := l.timer.goOff }
    else none
  | .begin attempt =>
    match l.stage? attempt with
    | some .spawned => some (l.dial attempt)
    | _ => none
  | .connected attempt watchable =>
    match l.stage? attempt with
    | some (.dialing call) => some (l.connect attempt call watchable)
    | _ => none
  | .refused attempt =>
    match l.stage? attempt with
    | some (.dialing _) => some ((l.notice .error).endFailed attempt)
    | _ => none
  | .subscribed attempt =>
    match l.stage? attempt with
    | some (.subscribing conn) => some (l.install attempt conn)
    | _ => none
  | .unsubscribed attempt =>
    match l.stage? attempt with
    | some (.subscribing conn) => some (l.failWith attempt conn)
    | _ => none
  | .released attempt closed =>
    match l.stage? attempt with
    | some (.discarding conn) => some ((l.markClosed conn closed).endFailed attempt)
    | some (.retiring conn) =>
      some ((l.markClosed conn closed).setStage attempt .over)
    | _ => none
  | .drop conn =>
    if conn < l.connections.length then some (l.markClosed conn true) else none
  | .terminate conn =>
    if conn < l.connections.length then some (l.connectionEnd conn) else none
  | .notify conn channel payload =>
    if conn < l.connections.length then some (l.hear conn channel payload) else none
  | .handle task =>
    match l.handlings[task]? with
    | some ⟨txId, .spawned⟩ => some (l.setHandling task .running (.begun txId))
    | _ => none
  | .complete task ending =>
    match l.handlings[task]? with
    | some ⟨txId, .running⟩ => some (l.endHandling task txId ending)
    | _ => none
  | .shutdown => some l.callShutdown
  | .attemptEnded =>
    match l.shutdown with
    | .cancelling => some l.giveUpConnection
    | _ => none
  | .connectionEnded closed =>
    match l.shutdown with
    | .closing conn =>
      let l := l.markClosed conn closed
      some (if closed then l.awaitTasks else { l with shutdown := .raised })
    | _ => none
  | .tasksEnded =>
    match l.shutdown with
    | .waiting tasks =>
      if l.allOver tasks then some { l with shutdown := .returned } else none
    | _ => none

/-- The listener after a history, if all its moves are possible. -/
def run? (l : Listener) (history : List Move) : Option Listener :=
  history.foldlM step? l

end EvmIndexer.Listener
