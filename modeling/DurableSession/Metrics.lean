import DurableSession.Table

/-!
Counters and gauges about signons, sessions and channels.
-/

namespace DurableSession

/-- What is counted. -/
inductive Series where
  /-- Signons by stage and outcome. -/
  | signons (stage outcome : String)
  /-- How many signons of a stage were timed. -/
  | signonTimes (stage : String)
  /-- Attempts to resume a session by outcome. -/
  | reuses (outcome : String)
  | kickouts
  | expiredSessions
  | pingTimeouts
  | droppedFrames
  /-- Channels open now. -/
  | openChannels
  /-- Sessions by state, when last looked at. -/
  | sessions (state : String)
deriving DecidableEq, Repr

namespace Series

/-- A label's value between quotes. -/
def labelValue (s : String) : String :=
  String.ofList ('"' :: s.toList.flatMap (fun c =>
    if c = '\\' then ['\\', '\\']
    else if c = '"' then ['\\', '"']
    else if c = '\n' then ['\\', 'n']
    else [c]) ++ ['"'])

def labelled (name : String) (labels : List (String × String)) : String :=
  name ++ "\x7b" ++ ",".intercalate (labels.map fun l => l.1 ++ "=" ++ labelValue l.2) ++ "\x7d"

/-- The name under which a series is published. -/
def name : Series → String
  | signons stage outcome =>
    labelled "tether_signon_total" [("outcome", outcome), ("stage", stage)]
  | signonTimes stage => labelled "tether_signon_duration_seconds_count" [("stage", stage)]
  | reuses outcome => labelled "tether_reuse_total" [("outcome", outcome)]
  | kickouts => "tether_kickouts_total"
  | expiredSessions => "tether_expired_sessions_total"
  | pingTimeouts => "tether_ping_timeouts_total"
  | droppedFrames => "tether_dropped_frames_total"
  | openChannels => "tether_open_channels"
  | sessions state => labelled "tether_sessions" [("state", state)]

end Series

/-- The value of every series that was ever touched. -/
structure Metrics where
  values : Table Series Int := .empty

namespace Metrics

def value (m : Metrics) (s : Series) : Int := (m.values.find? s).getD 0

def set (m : Metrics) (s : Series) (n : Int) : Metrics := ⟨m.values.insert s n⟩

def add (m : Metrics) (s : Series) (n : Int) : Metrics := m.set s (m.value s + n)

def count (m : Metrics) (s : Series) : Metrics := m.add s 1

theorem value_add (m : Metrics) (s t : Series) (n : Int) :
    (m.add s n).value t = if s = t then m.value s + n else m.value t := by
  unfold add set value
  by_cases h : s = t <;> simp [h]

/-- The states whose sessions are counted in a gauge. -/
def gaugedStates : List String :=
  ["pending_primary", "pending_secondary", "active", "disconnected_reusable"]

/-- Set the gauges of sessions by state; states without a count are at nought. -/
def setSessions (m : Metrics) (counts : List (String × Nat)) : Metrics :=
  gaugedStates.foldl
    (fun m state =>
      m.set (.sessions state) (((counts.find? (·.1 = state)).map (·.2)).getD 0 : Nat))
    m

/-- The series that are not at nought, with their published names. -/
def published (m : Metrics) : List (String × Int) :=
  (m.values.entries.filter fun e => e.2 ≠ 0).map fun e => (e.1.name, e.2)

end Metrics

end DurableSession
