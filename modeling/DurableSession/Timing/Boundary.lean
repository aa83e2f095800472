import DurableSession.Timing.Key
import DurableSession.Timing.Delay

/-!
Time boundaries: the six intervals that client and server of a connection agree on.

Main statements: `Intervals.check` accepts exactly the values that `Intervals.Sound` describes, and
names the first of its three faults otherwise. A boundary is built step by step through a `Plan`, or
from any source that answers for each key.
-/

namespace DurableSession.Timing

/-- A time that never comes in practice, and the largest one allowed. -/
def never : UInt64 := 4294967295

/-- The bound on a connection attempt when reconnecting is immediate. -/
def defaultConnectTimeout : UInt64 := 1000

/-- Six intervals in milliseconds, not yet checked. -/
structure Intervals where
  pingInterval : UInt64
  pongTimeout : UInt64
  reconnectLower : UInt64
  reconnectUpper : UInt64
  pingTimeout : UInt64
  inactivity : UInt64
deriving DecidableEq, Repr

namespace Intervals

def get (v : Intervals) : Key → UInt64
  | .pingInterval => v.pingInterval
  | .pongTimeout => v.pongTimeout
  | .reconnectLower => v.reconnectLower
  | .reconnectUpper => v.reconnectUpper
  | .pingTimeout => v.pingTimeout
  | .inactivity => v.inactivity

/-- The intervals that a function on keys gives. -/
def ofFunction (f : Key → UInt64) : Intervals where
  pingInterval := f .pingInterval
  pongTimeout := f .pongTimeout
  reconnectLower := f .reconnectLower
  reconnectUpper := f .reconnectUpper
  pingTimeout := f .pingTimeout
  inactivity := f .inactivity

/-- Pings are some time apart, no interval is above the ceiling, and the delays are in order. -/
structure Sound (v : Intervals) : Prop where
  pingInterval_ne_zero : v.pingInterval ≠ 0
  le_never : ∀ k, v.get k ≤ never
  lower_le_upper : v.reconnectLower ≤ v.reconnectUpper

end Intervals

/-- Why intervals make no boundary. -/
inductive BoundaryFault where
  | zeroPingInterval
  | aboveCeiling (key : Key) (value : UInt64)
  | invertedDelay (lower upper : UInt64)
deriving DecidableEq, Repr

def BoundaryFault.message : BoundaryFault → String
  | zeroPingInterval => "ping interval must be positive"
  | aboveCeiling key value =>
    key.name ++ " is " ++ toString value.toNat ++ ", above the " ++ toString never.toNat ++
      " ms ceiling"
  | invertedDelay lower upper =>
    "reconnect delay lower bound " ++ toString lower.toNat ++ " exceeds upper bound " ++
      toString upper.toNat

/-- Six intervals that make sense together. -/
structure Boundary where
  intervals : Intervals
  sound : intervals.Sound

namespace Intervals

/-- The first key whose interval is above the ceiling. -/
def firstAbove? (v : Intervals) : Option Key := Key.all.find? fun k => never < v.get k

theorem le_never_of_firstAbove?_eq_none {v : Intervals} (h : v.firstAbove? = none) (k : Key) :
    v.get k ≤ never := by
  have := List.find?_eq_none.1 h k (Key.mem_all k)
  simpa using this

/-- Check the intervals: the ping interval first, then the ceiling key by key, then the delays. -/
def check (v : Intervals) : Except BoundaryFault Boundary :=
  if hzero : v.pingInterval = 0 then .error .zeroPingInterval
  else
    match habove : v.firstAbove? with
    | some k => .error (.aboveCeiling k (v.get k))
    | none =>
      if horder : v.reconnectLower ≤ v.reconnectUpper then
        .ok ⟨v, hzero, le_never_of_firstAbove?_eq_none habove, horder⟩
      else .error (.invertedDelay v.reconnectLower v.reconnectUpper)

end Intervals

namespace Boundary

theorem ext_intervals {a b : Boundary} (h : a.intervals = b.intervals) : a = b := by
  cases a
  cases b
  cases h
  rfl

instance : DecidableEq Boundary := fun a b =>
  if h : a.intervals = b.intervals then isTrue (ext_intervals h)
  else isFalse fun hab => h (hab ▸ rfl)

def get (b : Boundary) (k : Key) : UInt64 := b.intervals.get k

/-- The interval of a key in milliseconds. -/
def ms (b : Boundary) (k : Key) : Nat := (b.get k).toNat

/-- Bears about half a second of lag in each direction. -/
def lenient : Boundary where
  intervals := ⟨1000, 2500, 1000, 3000, 2500, 10000⟩
  sound := ⟨by decide, by intro k; cases k <;> decide, by decide⟩

/-- No heartbeat at all: only reconnecting and the expiry of sessions remain. -/
def quiet : Boundary where
  intervals := ⟨never, never, 1000, 1000, never, 10000⟩
  sound := ⟨by decide, by intro k; cases k <;> decide, by decide⟩

instance : Inhabited Boundary := ⟨lenient⟩

/-- The delays before a new connection attempt. -/
def reconnectRange (b : Boundary) : DelayRange :=
  ⟨b.intervals.reconnectLower, b.intervals.reconnectUpper, b.sound.lower_le_upper⟩

/-- The bound on one connection attempt. -/
def connectTimeout (b : Boundary) : UInt64 :=
  if b.intervals.reconnectLower = 0 then defaultConnectTimeout else b.intervals.reconnectLower

/-- Every key with its interval, in the order of the keys. -/
def asMap (b : Boundary) : List (Key × UInt64) := Key.all.map fun k => (k, b.get k)

/-- One line that names all six intervals. -/
def describe (b : Boundary) : String :=
  let n (k : Key) := toString (b.ms k)
  "ping=" ++ n .pingInterval ++ "ms pong_timeout=" ++ n .pongTimeout ++ "ms reconnect=[" ++
    n .reconnectLower ++ "," ++ n .reconnectUpper ++ "]ms ping_timeout=" ++ n .pingTimeout ++
    "ms inactivity=" ++ n .inactivity ++ "ms"

end Boundary

/-! ### Building step by step -/

/-- The next thing a plan has to be told. -/
inductive Step where
  | pingInterval
  | pongTimeout
  | reconnect
  | pingTimeout
  | inactivity
  | build
deriving DecidableEq

/-- A boundary on the way, where `step` is next. -/
structure Plan (step : Step) where
  values : Intervals

namespace Plan

/-- Nothing told yet. -/
def start : Plan .pingInterval := ⟨⟨0, 0, 0, 0, 0, 0⟩⟩

def pingInterval (p : Plan .pingInterval) (ms : UInt64) : Plan .pongTimeout :=
  ⟨{ p.values with pingInterval := ms }⟩

/-- Never ping. -/
def pingIntervalNever (p : Plan .pingInterval) : Plan .pongTimeout := p.pingInterval never

def pongTimeout (p : Plan .pongTimeout) (ms : UInt64) : Plan .reconnect :=
  ⟨{ p.values with pongTimeout := ms }⟩

/-- Wait for a pong without end. -/
def pongTimeoutNever (p : Plan .pongTimeout) : Plan .reconnect := p.pongTimeout never

/-- Reconnect after a delay from `lower` to `upper`. -/
def reconnectDelay (p : Plan .reconnect) (lower upper : UInt64) : Plan .pingTimeout :=
  ⟨{ p.values with reconnectLower := lower, reconnectUpper := upper }⟩

/-- Reconnect without delay. -/
def reconnectImmediately (p : Plan .reconnect) : Plan .pingTimeout := p.reconnectDelay 0 0

/-- Twice a number of milliseconds, or the largest word. -/
def twice (ms : UInt64) : UInt64 := UInt64.ofNat (min (2 * ms.toNat) (Nat.pow 2 64 - 1))

/-- Reconnect after a delay from `ms` to its double. -/
def reconnectUpToDouble (p : Plan .reconnect) (ms : UInt64) : Plan .pingTimeout :=
  p.reconnectDelay ms (twice ms)

/-- Practically never reconnect. -/
def reconnectNever (p : Plan .reconnect) : Plan .pingTimeout := p.reconnectDelay (never - 1) never

def pingTimeout (p : Plan .pingTimeout) (ms : UInt64) : Plan .inactivity :=
  ⟨{ p.values with pingTimeout := ms }⟩

/-- Bear a silent channel without end. -/
def pingTimeoutNever (p : Plan .pingTimeout) : Plan .inactivity := p.pingTimeout never

def inactivity (p : Plan .inactivity) (ms : UInt64) : Plan .build :=
  ⟨{ p.values with inactivity := ms }⟩

/-- A session ends with its channel. -/
def inactivityImmediate (p : Plan .inactivity) : Plan .build := p.inactivity 0

/-- A session can be resumed practically without end. -/
def inactivityForever (p : Plan .inactivity) : Plan .build := p.inactivity never

/-- Check what was told. -/
def build (p : Plan .build) : Except BoundaryFault Boundary := p.values.check

end Plan

namespace Boundary

/-- Ask for one key after the other, then check. -/
def parse {m : Type → Type} [Monad m] (resolve : Key → m UInt64) :
    m (Except BoundaryFault Boundary) := do
  let pingInterval ← resolve .pingInterval
  let pongTimeout ← resolve .pongTimeout
  let lower ← resolve .reconnectLower
  let upper ← resolve .reconnectUpper
  let pingTimeout ← resolve .pingTimeout
  let inactivity ← resolve .inactivity
  return Plan.start.pingInterval pingInterval |>.pongTimeout pongTimeout
    |>.reconnectDelay lower upper |>.pingTimeout pingTimeout |>.inactivity inactivity |>.build

end Boundary

end DurableSession.Timing
