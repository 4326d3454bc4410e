import EvmIndexer.Reconnect.Timer

/-!
# The listener

A listener keeps one connection on which it hears the identifiers of
transactions that somebody wants decoded now. A connection is made by an attempt:
the connector is called, the end of the connection is watched, and the channel is
subscribed. An attempt is made when the listener is started, and again by a timer
whenever an attempt failed or the connection ended.

Each identifier heard is handled by a task of its own, so that a slow one holds
up nothing. Shutting the listener down ends everything in order: the timer and an
attempt made by it, the connection, and then the tasks that are still at work,
which are waited for.
-/

namespace EvmIndexer

namespace Listener

inductive Phase where
  | disconnected
  | connecting
  | listening
  | closing
deriving DecidableEq, Repr

def Phase.name : Phase → String
  | .disconnected => "disconnected"
  | .connecting => "connecting"
  | .listening => "listening"
  | .closing => "shutting_down"

/-- How far an attempt is. An attempt waits in every stage but the last two. -/
inductive Stage where
  /-- It was started by the timer and has not taken its first step. -/
  | spawned
  /-- For the answer to a call of the connector. -/
  | dialing (call : Nat)
  /-- For the subscription of the channel. -/
  | subscribing (conn : Nat)
  /-- For the end of a connection that could not be used. -/
  | discarding (conn : Nat)
  /-- For the end of a connection that is not wanted any more. -/
  | retiring (conn : Nat)
  | over
  | cancelled
deriving DecidableEq, Repr

structure Attempt where
  /-- Whether the timer started it. -/
  byTimer : Bool
  stage : Stage
deriving DecidableEq, Repr

structure Connection where
  /-- The call of the connector that gave it. -/
  call : Nat
  closed : Bool := false
  /-- Whether its end is watched. -/
  watched : Bool := false
  /-- Whether it told of its end. -/
  ended : Bool := false
  /-- Whether the channel is subscribed. -/
  subscribed : Bool := false
deriving DecidableEq, Repr

inductive Handling.Stage where
  | spawned
  | running
  | over
deriving DecidableEq, Repr

/-- The handling of an identifier that was heard. -/
structure Handling where
  txId : String
  stage : Handling.Stage
deriving DecidableEq, Repr

inductive Ending where
  | decoded
  | notDecoded
  | raised
deriving DecidableEq, Repr

/-- What happened to an identifier that was heard. -/
inductive Handled where
  | begun (txId : String)
  | ended (txId : String)
  | raised (txId : String)
deriving DecidableEq, Repr

inductive Shutdown where
  | notCalled
  /-- It waits for the attempt that it cancelled. -/
  | cancelling
  /-- It waits for the end of the connection. -/
  | closing (conn : Nat)
  /-- It waits for tasks. -/
  | waiting (tasks : List Nat)
  | returned
  /-- It ended because the connection could not be closed. -/
  | raised
deriving DecidableEq, Repr

/-- What is worth the attention of somebody who watches the listener. -/
inductive Notice where
  | warning
  | error
deriving DecidableEq, Repr

def Notice.name : Notice → String
  | .warning => "WARNING"
  | .error => "ERROR"

/-- The channel to listen on, unless another one is named. -/
def defaultChannel : String := "evm_decode_priority"

/-- The delay before a new attempt, unless another one is given. -/
def defaultDelay : Rat := 5

end Listener

structure Listener where
  channel : String := Listener.defaultChannel
  timer : Timer
  clock : Rat := 0
  phase : Listener.Phase := .disconnected
  /-- The connection in use. -/
  installed : Option Nat := none
  /-- The number of calls of the connector. -/
  calls : Nat := 0
  connections : List Listener.Connection := []
  attempts : List Listener.Attempt := []
  handlings : List Listener.Handling := []
  shutdown : Listener.Shutdown := .notCalled
  handled : List Listener.Handled := []
  notices : List Listener.Notice := []
deriving DecidableEq, Repr

namespace Listener

def Stage.isLive : Stage → Bool
  | .over | .cancelled => false
  | _ => true

/-- Whether a notification names a transaction on the listener's own channel. -/
def isHeard (own channel payload : String) : Bool :=
  channel == own && payload != ""

def accepts (l : Listener) (channel payload : String) : Bool :=
  isHeard l.channel channel payload

def setStage (l : Listener) (attempt : Nat) (stage : Stage) : Listener :=
  { l with attempts := l.attempts.modify attempt fun a => { a with stage } }

def stage? (l : Listener) (attempt : Nat) : Option Stage :=
  l.attempts[attempt]?.map (·.stage)

def modifyConnection (l : Listener) (conn : Nat)
    (change : Connection → Connection) : Listener :=
  { l with connections := l.connections.modify conn change }

def isClosed (l : Listener) (conn : Nat) : Bool :=
  (l.connections[conn]?.map (·.closed)).getD true

def notice (l : Listener) (n : Notice) : Listener :=
  { l with notices := l.notices ++ [n] }

/-- The tasks that are not over. -/
def inFlight (l : Listener) : List Nat :=
  (List.range l.handlings.length).filter fun task =>
    match l.handlings[task]? with
    | some handling => handling.stage != .over
    | none => false

/-- The latest attempt that the timer started, if it goes on. -/
def timerAttempt? (l : Listener) : Option Nat :=
  (((List.range l.attempts.length).filter fun attempt =>
      (l.attempts[attempt]?.map (·.byTimer)).getD false).getLast?).filter
    fun attempt => ((l.stage? attempt).map (·.isLive)).getD false

end Listener

end EvmIndexer
