/-!
# The timer of a reconnection

A connection that was lost is made again after a delay. The timer for it is armed
at most once at a time; asking for it again while it is armed changes nothing.
Once closed it is never armed again.

Times are rational numbers of seconds on the clock of whoever holds the timer.
-/

namespace EvmIndexer

structure Timer where
  delay : Rat
  /-- When it goes off, if it is armed. -/
  due : Option Rat := none
  /-- The number of times it was armed. -/
  attempts : Nat := 0
  closed : Bool := false
deriving DecidableEq, Repr

namespace Timer

/-- A timer with a delay. There is none with a negative delay. -/
def ofDelay? (delay : Rat) : Option Timer :=
  if delay < 0 then none else some { delay }

def delayMessage : String := "delay_s must be non-negative"

def isArmed (timer : Timer) : Bool := timer.due.isSome

def isDue (timer : Timer) (now : Rat) : Bool :=
  match timer.due with
  | some due => due ≤ now
  | none => false

/-- Asks for the timer: whether it was armed for it, and the timer afterwards. -/
def schedule (timer : Timer) (now : Rat) : Bool × Timer :=
  if timer.isArmed || timer.closed then (false, timer)
  else (true, { timer with
    due := some (now + timer.delay), attempts := timer.attempts + 1 })

def goOff (timer : Timer) : Timer := { timer with due := none }

def close (timer : Timer) : Timer := { timer with due := none, closed := true }

end Timer

end EvmIndexer
