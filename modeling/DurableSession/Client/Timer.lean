import DurableSession.Timing.Boundary

/-!
The timers of a connection: pings, the wait for a pong, and the wait before a new connection
attempt.

A timer that fires does nothing by itself. Whoever gets to know of it compares its identifier with
the one that is wanted, so a timer that was superseded in the meantime does no harm.
-/

namespace DurableSession.Client

open Timing (Boundary Key WordSource)

/-- What a timer is for. -/
inductive TimerKind where
  | reconnect
  | ping
  | pongTimeout
deriving DecidableEq, Repr

def TimerKind.name : TimerKind → String
  | reconnect => "reconnect"
  | ping => "ping"
  | pongTimeout => "pong_timeout"

/-- Names a timer; never used again. The number is unbounded: a counter of 64 bits would come round
after `2 ^ 64` timers. -/
structure TimerId where
  number : Nat
deriving DecidableEq, Repr

structure Timer where
  id : TimerId
  kind : TimerKind
  deadline : Nat
deriving DecidableEq, Repr

/-- The timers of a client: which are running, which were cancelled, and where delays come from. -/
structure Timers where
  next : Nat := 0
  words : WordSource := {}
  running : List Timer := []
  cancelled : List TimerId := []

namespace Timers

def schedule (t : Timers) (kind : TimerKind) (deadline : Nat) : Timer × Timers :=
  let timer : Timer := ⟨⟨t.next⟩, kind, deadline⟩
  (timer, { t with next := t.next + 1, running := t.running ++ [timer] })

/-- Ping after the boundary's interval. -/
def schedulePing (t : Timers) (now : Nat) (b : Boundary) : Timer × Timers :=
  t.schedule .ping (now + b.ms .pingInterval)

/-- Wait for a pong as long as the boundary says. -/
def schedulePongTimeout (t : Timers) (now : Nat) (b : Boundary) : Timer × Timers :=
  t.schedule .pongTimeout (now + b.ms .pongTimeout)

/-- Reconnect after a delay drawn from the boundary's range. -/
def scheduleReconnect (t : Timers) (now : Nat) (b : Boundary) : Timer × Timers :=
  let drawn := b.reconnectRange.sample t.words
  { t with words := drawn.2 }.schedule .reconnect (now + drawn.1.toNat)

/-- Cancel a timer; one that has fired stays fired. -/
def cancel (t : Timers) (id : TimerId) : Timers :=
  { t with
    running := t.running.filter fun r => r.id ≠ id
    cancelled := if id ∈ t.cancelled then t.cancelled else id :: t.cancelled }

def cancelAll (t : Timers) (l : List Timer) : Timers := l.foldl (fun t timer => t.cancel timer.id) t

def isCancelled (t : Timers) (id : TimerId) : Bool := id ∈ t.cancelled

/-- Earlier deadlines first, then lower identifiers. -/
def firesBefore (a b : Timer) : Bool :=
  a.deadline < b.deadline || (a.deadline = b.deadline && a.id.number ≤ b.id.number)

/-- The timers that are due, in the order in which they fire. -/
def due (t : Timers) (now : Nat) : List Timer :=
  (t.running.filter fun r => r.deadline ≤ now).mergeSort firesBefore

/-- All timers that are due fire. -/
def fire (t : Timers) (now : Nat) : List Timer × Timers :=
  (t.due now, { t with running := t.running.filter fun r => now < r.deadline })

end Timers

end DurableSession.Client
