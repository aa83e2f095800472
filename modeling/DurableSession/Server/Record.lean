import DurableSession.Server.Channel

/-!
Records of sessions: who owns a session, where it stands, and which channel it is bound to.
-/

namespace DurableSession.Server

open Lifecycle (SessionId Token Failure)
open Network (SocketAddress)

/-- Where a session stands. -/
inductive RecordState where
  /-- The primary authenticator has not decided. -/
  | pendingPrimary
  /-- A secondary code is awaited in answer to `token`. -/
  | pendingSecondary (token : Token)
  | active
  /-- Its channel is gone; it can be resumed for a while. -/
  | reusable
  | terminated
deriving DecidableEq

namespace RecordState

/-- The name under which a state is published. -/
def name : RecordState → String
  | pendingPrimary => "pending_primary"
  | pendingSecondary _ => "pending_secondary"
  | active => "active"
  | reusable => "disconnected_reusable"
  | terminated => "terminated"

/-- The token of the challenge that is open. -/
def token? : RecordState → Option Token
  | pendingSecondary t => some t
  | _ => none

/-- A signon is under way. -/
def isPending : RecordState → Bool
  | pendingPrimary | pendingSecondary _ => true
  | _ => false

end RecordState

/-- What the server knows about a session. -/
structure Record where
  session : SessionId
  login : String
  state : RecordState
  /-- The channel that carries the session or its signon. -/
  channel : Option ChannelId
  /-- Where that channel came from, or the last one. -/
  remote : SocketAddress
  createdAt : Nat
  lastActiveAt : Nat
deriving DecidableEq

namespace Record

/-- The record of a signon that begins now. -/
def pending (session : SessionId) (login : String) (channel : ChannelId) (remote : SocketAddress)
    (now : Nat) : Record where
  session := session
  login := login
  state := .pendingPrimary
  channel := some channel
  remote := remote
  createdAt := now
  lastActiveAt := now

/-- It is bound to no channel, or to a closed one. -/
def unattended (closed : ChannelId → Bool) (r : Record) : Bool := (r.channel.map closed).getD true

/-- A new signon may take the login over. -/
def reclaimable (closed : ChannelId → Bool) (r : Record) : Bool :=
  match r.state with
  | .reusable | .terminated => true
  | _ => r.unattended closed

/-- More than the window has passed since the session was last active. -/
def inactive (window now : Nat) (r : Record) : Bool := window < now - r.lastActiveAt

/-- More than the window has passed since the signon began. -/
def overdue (window now : Nat) (r : Record) : Bool := window < now - r.createdAt

/-- The session's channel is gone; from now on it waits to be resumed. -/
def disconnect (now : Nat) (r : Record) : Record :=
  { r with state := .reusable, channel := none, lastActiveAt := now }

end Record

/-- How a signon ends. -/
inductive Outcome where
  | accepted (session : SessionId) (login : String)
  | needsSecondary (token : Token)
  | denied (failure : Failure)
deriving DecidableEq

/-- The label of an outcome in metrics. -/
def Outcome.label : Outcome → String
  | accepted .. => "accepted"
  | needsSecondary _ => "needs_secondary"
  | denied failure => failure.code

/-- What the primary authenticator says. -/
inductive PrimaryVerdict where
  | accepted
  | needsSecondary
  | denied (failure : Failure)
deriving DecidableEq

/-- Why a session could not be resumed, or an outcome not be learnt. -/
inductive RegistryError where
  | unknownSession
  | sessionExpired
  | sessionNotReusable
  /-- Whoever should have decided went away. -/
  | abandoned
deriving DecidableEq, Repr

namespace RegistryError

def all : List RegistryError := [unknownSession, sessionExpired, sessionNotReusable, abandoned]

def message : RegistryError → String
  | unknownSession => "unknown session"
  | sessionExpired => "session expired"
  | sessionNotReusable => "session is not reusable"
  | abandoned => "outcome abandoned before resolution"

/-- The label in metrics. -/
def code : RegistryError → String
  | unknownSession => "unknown_session"
  | sessionExpired => "session_expired"
  | sessionNotReusable => "session_not_reusable"
  | abandoned => "abandoned"

/-- What the client is told. -/
def asFailure : RegistryError → Failure
  | sessionNotReusable => .sessionBusy
  | unknownSession | sessionExpired | abandoned => .unknownSession

end RegistryError

end DurableSession.Server
