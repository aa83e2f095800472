import DurableSession.Server.Registry
import DurableSession.Metrics

/-!
The state that all channels of a server share: its clock, channels, registry, routes, metrics, and
the signons under way.

A signon is a value of its own. It is spawned, then run up to its question to an authenticator, and
ends when the answer is in; each of these is one operation, and anything may happen in between.
-/

namespace DurableSession.Server

open Lifecycle (SessionId Token Failure Secret)
open Network (SocketAddress)

/-- Which authenticator a signon asks. -/
inductive Stage where
  | primary
  | secondary
deriving DecidableEq, Repr

def Stage.name : Stage → String
  | primary => "primary"
  | secondary => "secondary"

/-- What a client wants to sign on with. -/
inductive Attempt where
  | primary (login : String) (secret : Secret) (channel : ChannelId)
  | secondary (channel : ChannelId) (token : Token) (code : Secret)
deriving DecidableEq

namespace Attempt

def stage : Attempt → Stage
  | primary .. => .primary
  | secondary .. => .secondary

def channel : Attempt → ChannelId
  | primary _ _ c => c
  | secondary c _ _ => c

end Attempt

/-- How far a signon has come. -/
inductive Progress where
  /-- Not begun. -/
  | spawned
  /-- An authenticator is deciding about the login; `session` is the record it is for. -/
  | asking (session : SessionId) (login : String)
  | decided (outcome : Outcome)
deriving DecidableEq

/-- A signon under way or decided. -/
structure Signon where
  attempt : Attempt
  progress : Progress
deriving DecidableEq

/-- Names a signon. -/
structure SignonId where
  number : Nat
deriving DecidableEq, Repr

/-- What all channels of a server share. -/
structure State where
  /-- Milliseconds since the beginning. -/
  now : Nat := 0
  /-- How long a disconnected session can be resumed, in milliseconds. -/
  window : Nat
  channels : Channels := .empty
  registry : Registry := {}
  /-- The channel that application messages for a session go to. -/
  routes : Table SessionId ChannelId := .empty
  signons : Table SignonId Signon := .empty
  metrics : Metrics := {}

namespace State

def closed (s : State) : ChannelId → Bool := s.channels.isClosed

/-- Where a channel comes from. -/
def remoteOf (s : State) (c : ChannelId) : SocketAddress :=
  ((s.channels.find? c).map Channel.remote).getD ⟨.v4 0 0 0 0, 0, 0⟩

def count (s : State) (series : Series) : State := { s with metrics := s.metrics.count series }

/-! ### Channels -/

def openChannel (s : State) (c : ChannelId) (remote : SocketAddress) (capacity : Nat) : State :=
  { s with channels := s.channels.insert c { remote, capacity } }

/-- Tell a channel's connection to go. -/
def kick (s : State) (c : ChannelId) : State := { s with channels := s.channels.kick c }

/-- Stop taking frames from a channel's queue. -/
def abandon (s : State) (c : ChannelId) : State :=
  { s with channels := s.channels.modify c Channel.abandon }

/-- Queue a frame on a channel; the answer is whether there was room. -/
def offer (s : State) (c : ChannelId) (m : Outbound) : Bool × State :=
  match s.channels.find? c with
  | none => (false, s)
  | some ch =>
    let (sent, ch) := ch.offer m
    (sent, { s with channels := s.channels.insert c ch })

/-- Take the oldest frame from a channel's queue. -/
def take (s : State) (c : ChannelId) : Option (Outbound × State) :=
  match (s.channels.find? c).bind Channel.take with
  | none => none
  | some (m, ch) => some (m, { s with channels := s.channels.insert c ch })

def isKicked (s : State) (c : ChannelId) : Bool :=
  ((s.channels.find? c).map Channel.kicked).getD false

/-- Take all frames from a channel's queue. -/
def drain (s : State) (c : ChannelId) : List Outbound × State :=
  match s.channels.find? c with
  | none => ([], s)
  | some ch =>
    let (frames, ch) := ch.drain
    (frames, { s with channels := s.channels.insert c ch })

/-! ### Routes -/

/-- Send a session's messages to a channel from now on. -/
def register (s : State) (session : SessionId) (c : ChannelId) : State :=
  { s with routes := s.routes.insert session c }

/-- Forget a session's route, if it still leads to the channel. -/
def unregister (s : State) (session : SessionId) (c : ChannelId) : Bool × State :=
  if s.routes.find? session = some c then (true, { s with routes := s.routes.erase session })
  else (false, s)

/-- Queue an application message for a session. -/
def sendTo (s : State) (session : SessionId) (text : String) : Bool × State :=
  match s.routes.find? session with
  | some c => s.offer c (.application text)
  | none => (false, s)

/-! ### Signons -/

/-- Begin a signon under a name that is not used yet. -/
def spawn (s : State) (id : SignonId) (a : Attempt) : State :=
  { s with signons := s.signons.insert id ⟨a, .spawned⟩ }

/-- Note the end of a signon. -/
def decide (s : State) (id : SignonId) (a : Attempt) (outcome : Outcome) : State :=
  let s := { s with signons := s.signons.insert id ⟨a, .decided outcome⟩ }
  (s.count (.signons a.stage.name outcome.label)).count (.signonTimes a.stage.name)

/-- Put a signon's question to its authenticator. -/
def ask (s : State) (id : SignonId) (a : Attempt) (session : SessionId) (login : String) : State :=
  { s with signons := s.signons.insert id ⟨a, .asking session login⟩ }

/-- Run a spawned signon up to its question; `fresh` is the identifier of a new session. -/
def startSignon (s : State) (id : SignonId) (fresh : SessionId) : State :=
  match s.signons.find? id with
  | some ⟨.primary login secret c, .spawned⟩ =>
    let a := Attempt.primary login secret c
    match s.registry.claim s.closed s.now fresh login c (s.remoteOf c) with
    | .error failure => s.decide id a (.denied failure)
    | .ok (registry, displaced) =>
      let s := { s with registry, channels := s.channels.kickAll displaced.toList }
      s.ask id a fresh login
  | some ⟨.secondary c token code, .spawned⟩ =>
    let a := Attempt.secondary c token code
    match s.registry.openSecondary c token code with
    | (.error failure, registry) => { s with registry }.decide id a (.denied failure)
    | (.ok question, registry) => { s with registry }.ask id a question.session question.login
  | _ => s

/-- The primary authenticator answers; `fresh` is the token of a challenge, should one be due. -/
def answerPrimary (s : State) (id : SignonId) (verdict : PrimaryVerdict) (fresh : Token) : State :=
  match s.signons.find? id with
  | some ⟨.primary login secret c, .asking session _⟩ =>
    let (outcome, registry) :=
      s.registry.concludePrimary s.closed s.now session c verdict fresh
    { s with registry }.decide id (.primary login secret c) outcome
  | _ => s

/-- The secondary authenticator answers. -/
def answerSecondary (s : State) (id : SignonId) (verified : Bool) : State :=
  match s.signons.find? id with
  | some ⟨.secondary c token code, .asking session _⟩ =>
    let (outcome, registry) :=
      s.registry.concludeSecondary s.closed s.now session c token verified
    { s with registry }.decide id (.secondary c token code) outcome
  | _ => s

/-- The outcome of a signon, once it is decided. -/
def outcome? (s : State) (id : SignonId) : Option Outcome :=
  match s.signons.find? id with
  | some ⟨_, .decided outcome⟩ => some outcome
  | _ => none

/-! ### Sessions -/

/-- Resume a session on a channel without a signon; the answer is its login. -/
def reuse (s : State) (session : SessionId) (c : ChannelId) : Except RegistryError String × State :=
  let (result, registry) := s.registry.reuse s.closed s.window s.now session c (s.remoteOf c)
  let label := match result with
    | .ok _ => "accepted"
    | .error e => e.code
  (result, { s with registry }.count (.reuses label))

/-- A channel that carried a session is gone. -/
def closeSession (s : State) (c : ChannelId) (session : SessionId) (signedOff : Bool) : State :=
  { s with registry := s.registry.close s.now c session signedOff }

/-- A channel is gone while signons on it may be under way. -/
def releaseChannel (s : State) (c : ChannelId) : State :=
  { s with registry := s.registry.releaseChannel s.now c }

/-- Destroy a session and kick its channel; the answer is whether there was one. -/
def kickout (s : State) (session : SessionId) : Bool × State :=
  match s.registry.kickout session with
  | (false, _, _) => (false, s)
  | (true, registry, channel) =>
    (true, { s with registry, channels := s.channels.kickAll channel.toList }.count .kickouts)

/-- Destroy sessions one after the other; the answer is how many there were. -/
def kickoutEach (s : State) : List SessionId → Nat × State
  | [] => (0, s)
  | session :: rest =>
    let (found, s) := s.kickout session
    let (n, s) := kickoutEach s rest
    (n + (if found then 1 else 0), s)

/-- Destroy every session. -/
def kickoutAll (s : State) : Nat × State := s.kickoutEach s.registry.sessions.keys

/-- Destroy what is past its window; the answer is how many records that were. -/
def sweep (s : State) : Nat × State :=
  let (n, registry, channels) := s.registry.sweep s.closed s.window s.now
  let s := { s with registry, channels := s.channels.kickAll channels }
  (n, { s with metrics := s.metrics.add .expiredSessions n })

/-- Sweep, and set the gauges of sessions by state. -/
def sweepAndGauge (s : State) : State :=
  let (_, s) := s.sweep
  { s with metrics := s.metrics.setSessions s.registry.countByState }

end State

end DurableSession.Server
