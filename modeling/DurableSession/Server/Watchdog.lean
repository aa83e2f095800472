/-!
Two clocks of the server: the watchdog over a client's pings, and the timer of the sweeper.
-/

namespace DurableSession.Server

/-- The time by which a client has to ping again. -/
structure Watchdog where
  timeout : Nat
  lastPing : Nat
deriving DecidableEq, Repr

namespace Watchdog

/-- A watchdog that starts to count now. -/
def start (timeout now : Nat) : Watchdog := ⟨timeout, now⟩

/-- A ping came in now. -/
def touch (w : Watchdog) (now : Nat) : Watchdog := { w with lastPing := now }

def deadline (w : Watchdog) : Nat := w.lastPing + w.timeout

def expired (w : Watchdog) (now : Nat) : Bool := w.deadline ≤ now

/-- How long the client has left. -/
def left (w : Watchdog) (now : Nat) : Nat := w.deadline - now

end Watchdog

/-- When the sweeper runs next. -/
structure Sweeper where
  interval : Nat
  next : Nat
deriving DecidableEq, Repr

namespace Sweeper

/-- A sweeper runs at once, then after every interval. -/
def start (interval now : Nat) : Sweeper := ⟨interval, now⟩

def due (w : Sweeper) (now : Nat) : Bool := w.next ≤ now

/-- Having run now, however late, it runs again after an interval. -/
def ran (w : Sweeper) (now : Nat) : Sweeper := { w with next := now + w.interval }

end Sweeper

end DurableSession.Server
