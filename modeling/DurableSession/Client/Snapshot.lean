import DurableSession.Client.Timer
import DurableSession.Handshake.Descriptor

/-!
Where a connection of a client stands, as a value that is never changed: every transition gives a
new snapshot or is refused.

What may be there and what must be depends on the status; `Parts.violation?` says which rule is
broken first. A snapshot is parts that break none, which is part of its type.
-/

namespace DurableSession.Client

open Handshake (Descriptor)

/-- The status of a connection. -/
inductive Status where
  | stopped
  | connecting
  | connected
  | signedIn
  | stopping
deriving DecidableEq, Repr

namespace Status

def name : Status → String
  | stopped => "STOPPED"
  | connecting => "CONNECTING"
  | connected => "CONNECTED"
  | signedIn => "SIGNED_IN"
  | stopping => "STOPPING"

def all : List Status := [.stopped, .connecting, .connected, .signedIn, .stopping]

def ofName? (s : String) : Option Status := all.find? fun t => t.name = s

end Status

structure SignalId where
  number : Nat
deriving DecidableEq, Repr

/-- What someone waits for who asked for a start or a stop. -/
inductive Signal where
  /-- Complete from the beginning. -/
  | settled
  | awaited (id : SignalId)
deriving DecidableEq, Repr

/-- A signal is complete, given those that were completed. -/
def Signal.isComplete (completed : List SignalId) : Signal → Bool
  | settled => true
  | awaited id => id ∈ completed

/-- The parts of a snapshot; `κ` names channels. -/
structure Parts (κ : Type) where
  status : Status
  channel : Option κ := none
  start : Option Signal := none
  stop : Option Signal := none
  descriptor : Option Descriptor := none
  reconnectTimer : Option Timer := none
  pingTimer : Option Timer := none
  pongTimer : Option Timer := none
  login : Option String := none
deriving DecidableEq

/-- A rule on the parts: what has to be there or must not, and the words for it. -/
structure Rule (κ : Type) where
  holds : Parts κ → Bool
  message : String

namespace Rule

variable {κ α : Type}

/-- A part has to be there. -/
def present (part : Parts κ → Option α) (words : String) : Rule κ :=
  ⟨fun p => (part p).isSome, words ++ " must be present"⟩

/-- A part must not be there. -/
def absent (part : Parts κ → Option α) (words : String) : Rule κ :=
  ⟨fun p => (part p).isNone, words ++ " must be absent"⟩

/-- The rules of a status, in the order in which they are checked. -/
def ofStatus : Status → List (Rule κ)
  | .stopped => [absent Parts.start "start signal", present Parts.stop "stop signal",
      absent Parts.channel "channel", absent Parts.login "login",
      absent Parts.reconnectTimer "reconnect timer", absent Parts.pingTimer "ping timer",
      absent Parts.pongTimer "pong timer"]
  | .connecting => [present Parts.start "start signal", absent Parts.stop "stop signal",
      absent Parts.pingTimer "ping timer", absent Parts.pongTimer "pong timer"]
  | .connected => [present Parts.start "start signal", absent Parts.stop "stop signal",
      present Parts.channel "channel", present Parts.descriptor "descriptor"]
  | .signedIn => [present Parts.start "start signal", absent Parts.stop "stop signal",
      present Parts.channel "channel", present Parts.descriptor "descriptor",
      present Parts.login "login"]
  | .stopping => [absent Parts.start "start signal", present Parts.stop "stop signal",
      present Parts.descriptor "descriptor", absent Parts.login "login"]

end Rule

namespace Parts

variable {κ : Type}

/-- The first rule of its status that the parts break. -/
def violation? (p : Parts κ) : Option (Rule κ) :=
  (Rule.ofStatus p.status).find? fun r => !r.holds p

end Parts

/-- Parts that break no rule of their status. -/
structure Snapshot (κ : Type) where
  parts : Parts κ
  sound : parts.violation?.isNone = true

/-- Why a snapshot was not made. -/
inductive SnapshotError where
  /-- The transition is not allowed from this status. -/
  | transition (attempted : String) (current : Status)
  /-- The result would break a rule of its status. -/
  | invariant (status : Status) (broken : String)
deriving DecidableEq, Repr

def SnapshotError.message : SnapshotError → String
  | transition attempted current => "cannot apply " ++ attempted ++ " while " ++ current.name
  | invariant status broken => status.name ++ " snapshot invalid: " ++ broken

namespace Snapshot

variable {κ : Type}

def ofParts (p : Parts κ) : Except SnapshotError (Snapshot κ) :=
  match h : p.violation? with
  | none => .ok ⟨p, by rw [h]; rfl⟩
  | some r => .error (.invariant p.status r.message)

/-- Nothing was started yet. -/
def initial : Snapshot κ := ⟨{ status := .stopped, stop := some .settled }, rfl⟩

def status (s : Snapshot κ) : Status := s.parts.status

def timers (s : Snapshot κ) : List Timer :=
  [s.parts.reconnectTimer, s.parts.pingTimer, s.parts.pongTimer].filterMap id

/-- Application messages may be sent: signed in where that is required, connected where it is
not. -/
def readyToSend (s : Snapshot κ) : Bool :=
  match s.parts.descriptor with
  | none => false
  | some d =>
    if d.authenticationRequired then s.status = .signedIn else s.status = .connected

/-! ### Transitions -/

/-- Make the next snapshot, if the transition is allowed from the status. -/
def step (s : Snapshot κ) (name : String) (sources : List Status) (next : Parts κ) :
    Except SnapshotError (Snapshot κ) :=
  if s.status ∈ sources then ofParts next else .error (.transition name s.status)

/-- Start; the provisional descriptor is in force until the server's own arrives. -/
def startConnecting (s : Snapshot κ) (start : Signal) (provisional : Descriptor) :
    Except SnapshotError (Snapshot κ) :=
  s.step "start_connecting" [.stopped]
    { status := .connecting, start := some start, descriptor := some provisional }

def channelEstablished (s : Snapshot κ) (channel : κ) : Except SnapshotError (Snapshot κ) :=
  s.step "channel_established" [.connecting]
    { s.parts with channel := some channel, reconnectTimer := none }

/-- The attempt failed; the next one comes with the timer. -/
def reconnectPlanned (s : Snapshot κ) (timer : Timer) : Except SnapshotError (Snapshot κ) :=
  s.step "reconnect_planned" [.connecting]
    { s.parts with channel := none, reconnectTimer := some timer }

/-- The server's descriptor is known; the first ping comes with the timer. -/
def connected (s : Snapshot κ) (descriptor : Descriptor) (ping : Timer) :
    Except SnapshotError (Snapshot κ) :=
  s.step "connected" [.connecting]
    { s.parts with
      status := .connected
      descriptor := some descriptor
      reconnectTimer := none
      pingTimer := some ping
      pongTimer := none }

/-- A pong came; the next ping comes with the timer. -/
def nextPingPlanned (s : Snapshot κ) (timer : Timer) : Except SnapshotError (Snapshot κ) :=
  s.step "next_ping_planned" [.connected, .signedIn]
    { s.parts with pingTimer := some timer, pongTimer := none }

/-- A ping went out; its pong has to come before the timer. -/
def pongTimeoutPlanned (s : Snapshot κ) (timer : Timer) : Except SnapshotError (Snapshot κ) :=
  s.step "pong_timeout_planned" [.connected, .signedIn]
    { s.parts with pingTimer := none, pongTimer := some timer }

/-- The server accepted the signon. -/
def signedIn (s : Snapshot κ) (login : String) : Except SnapshotError (Snapshot κ) :=
  s.step "signed_in" [.connected] { s.parts with status := .signedIn, login := some login }

/-- The channel is gone unasked; descriptor and login stay, so that the session can be resumed. -/
def channelLost (s : Snapshot κ) (timer : Timer) : Except SnapshotError (Snapshot κ) :=
  s.step "channel_lost" [.connecting, .connected, .signedIn]
    { s.parts with
      status := .connecting
      channel := none
      reconnectTimer := some timer
      pingTimer := none
      pongTimer := none }

/-- A stop was asked for; the channel stays until it is closed. -/
def stopping (s : Snapshot κ) (stop : Signal) : Except SnapshotError (Snapshot κ) :=
  s.step "stopping" [.connecting, .connected, .signedIn]
    { s.parts with
      status := .stopping
      start := none
      stop := some stop
      reconnectTimer := none
      pingTimer := none
      pongTimer := none
      login := none }

/-- The channel is closed after a stop. -/
def stopped (s : Snapshot κ) : Except SnapshotError (Snapshot κ) :=
  s.step "stopped" [.stopping] { s.parts with status := .stopped, channel := none }

/-- Stop without waiting for the channel; a stop signal that is there is kept. -/
def emergencyStopped (s : Snapshot κ) : Except SnapshotError (Snapshot κ) :=
  s.step "emergency_stopped" [.connected, .signedIn, .stopping]
    { status := .stopped
      stop := some (s.parts.stop.getD .settled)
      descriptor := s.parts.descriptor }

/-! ### Timers that fire -/

/-- The place of a kind's timer. -/
def timerOf (s : Snapshot κ) : TimerKind → Option Timer
  | .reconnect => s.parts.reconnectTimer
  | .ping => s.parts.pingTimer
  | .pongTimeout => s.parts.pongTimer

end Snapshot

/-- What is to be done about a timer that fired. -/
inductive TimerAction where
  | sendPing
  | channelDead
  | reconnect
  /-- The timer was superseded. -/
  | stale
deriving DecidableEq, Repr

namespace TimerAction

def name : TimerAction → String
  | sendPing => "send_ping"
  | channelDead => "channel_dead"
  | reconnect => "reconnect"
  | stale => "stale"

/-- What a timer of the kind asks for while it is wanted. -/
def ofKind : TimerKind → TimerAction
  | .ping => .sendPing
  | .pongTimeout => .channelDead
  | .reconnect => .reconnect

end TimerAction

/-- A timer fired: it counts if the snapshot holds it in the place of its kind. -/
def Snapshot.onFired {κ : Type} (s : Snapshot κ) (id : TimerId) (kind : TimerKind) : TimerAction :=
  match s.timerOf kind with
  | some t => if t.id = id then .ofKind kind else .stale
  | none => .stale

end DurableSession.Client
