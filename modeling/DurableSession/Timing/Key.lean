/-!
The six numbers that govern the timing of a connection, as keys.

Each key has a name, a header that carries it in the upgrade response, and a field that carries it
in the flat document form.
-/

namespace DurableSession.Timing

/-- What a number of a time boundary is about. -/
inductive Key where
  /-- Time between two pings of the client. -/
  | pingInterval
  /-- How long the client waits for a pong. -/
  | pongTimeout
  /-- The shortest wait before a new connection attempt. -/
  | reconnectLower
  /-- The longest wait before a new connection attempt. -/
  | reconnectUpper
  /-- How long the server bears a silent channel. -/
  | pingTimeout
  /-- How long a disconnected session can be resumed. -/
  | inactivity
deriving DecidableEq, Repr

namespace Key

/-- All keys, in the order in which they are asked for and checked. -/
def all : List Key :=
  [.pingInterval, .pongTimeout, .reconnectLower, .reconnectUpper, .pingTimeout, .inactivity]

theorem mem_all (k : Key) : k ∈ all := by cases k <;> decide

def name : Key → String
  | pingInterval => "PING_INTERVAL_MS"
  | pongTimeout => "PONG_TIMEOUT_MS"
  | reconnectLower => "RECONNECT_DELAY_RANGE_MS_LOWER_BOUND"
  | reconnectUpper => "RECONNECT_DELAY_RANGE_MS_UPPER_BOUND"
  | pingTimeout => "PING_TIMEOUT_MS"
  | inactivity => "SESSION_INACTIVITY_MAXIMUM_MS"

/-- The header that carries the key's value. -/
def header : Key → String
  | pingInterval => "x-tether-ping-interval-ms"
  | pongTimeout => "x-tether-pong-timeout-ms"
  | reconnectLower => "x-tether-reconnect-delay-range-ms-lower-bound"
  | reconnectUpper => "x-tether-reconnect-delay-range-ms-upper-bound"
  | pingTimeout => "x-tether-ping-timeout-ms"
  | inactivity => "x-tether-session-inactivity-maximum-ms"

/-- The field that carries the key's value in a document. -/
def field : Key → String
  | pingInterval => "ping_interval_ms"
  | pongTimeout => "pong_timeout_ms"
  | reconnectLower => "reconnect_delay_lower_ms"
  | reconnectUpper => "reconnect_delay_upper_ms"
  | pingTimeout => "ping_timeout_ms"
  | inactivity => "session_inactivity_maximum_ms"

/-- The key of a field. -/
def ofField? (s : String) : Option Key := all.find? fun k => k.field = s

theorem ofField?_field (k : Key) : ofField? k.field = some k := by cases k <;> decide

end Key

end DurableSession.Timing
