import DurableSession.Server.State
import DurableSession.Lifecycle.Codec

/-!
Gates: each channel has one, between its socket and the application.

Until the channel carries an active session only lifecycle frames get through; after that, texts of
the application are forwarded untouched. A gate reports the end of its channel to the registry.
-/

namespace DurableSession.Server

open Lifecycle (Phase SessionId Failure)

/-- Where a gate stands. -/
inductive GateState where
  | awaitingSignon
  /-- A challenge was issued; its code is awaited. -/
  | awaitingSecondary
  /-- An authenticator is deciding. -/
  | signonPending
  | active (session : SessionId)
  | closed
deriving DecidableEq

def GateState.name : GateState → String
  | awaitingSignon => "awaiting_signon"
  | awaitingSecondary => "awaiting_secondary"
  | signonPending => "signon_pending"
  | active _ => "active"
  | closed => "closed"

/-- What becomes of an inbound text. -/
inductive Inbound where
  | forward (text : String)
  | drop
  | reply (p : Phase)
  /-- Wait for the outcome of a signon, then hand it to the gate. -/
  | await (signon : SignonId)
  | close
deriving DecidableEq

structure Gate where
  channel : ChannelId
  authenticationRequired : Bool
  state : GateState := .awaitingSignon
  /-- The client has signed off while its session was active. -/
  signoffSeen : Bool := false
deriving DecidableEq

namespace Gate

/-- The session that the channel carries. -/
def session? (g : Gate) : Option SessionId :=
  match g.state with
  | .active session => some session
  | _ => none

/-- Texts of the application may pass. -/
def admitsApplication (g : Gate) : Bool := !g.authenticationRequired || g.session?.isSome

/-- Texts of the application may be sent to the client. -/
def admitsOutbound (g : Gate) : Bool := g.admitsApplication && g.state ≠ .closed

/-- A signon or a resumption may begin. -/
def awaits (g : Gate) : Bool := g.state = .awaitingSignon || g.state = .awaitingSecondary

/-- The channel carries a session from now on. -/
def activate (g : Gate) (s : State) (session : SessionId) : Gate × State :=
  ({ g with state := .active session }, s.register session g.channel)

/-- Tell the client of a failure. -/
def refuse (failure : Failure) : Inbound := .reply (.signonFailureNotice failure)

/-- Begin a signon under the name `id`. -/
def beginSignon (g : Gate) (s : State) (id : SignonId) (a : Attempt) : Inbound × Gate × State :=
  (.await id, { g with state := .signonPending }, s.spawn id a)

/-- Act on a lifecycle frame; `id` is the name of a signon, should one begin. -/
def onPhase (g : Gate) (s : State) (id : SignonId) : Phase → Inbound × Gate × State
  | .signonAttempt login secret =>
    if g.session?.isSome then (refuse .sessionAlreadyExists, g, s)
    else if g.awaits then g.beginSignon s id (.primary login secret g.channel)
    else (.drop, g, s)
  | .secondarySignonAttempt token code =>
    if g.awaits then g.beginSignon s id (.secondary g.channel token code) else (.drop, g, s)
  | .resumeSession session =>
    if g.awaits then
      match s.reuse session g.channel with
      | (.ok _, s) =>
        let (g, s) := g.activate s session
        (.reply (.sessionValid session), g, s)
      | (.error e, s) => (refuse e.asFailure, { g with state := .awaitingSignon }, s)
    else (.drop, g, s)
  | .signoff => (.close, { g with signoffSeen := g.signoffSeen || g.session?.isSome }, s)
  | _ => (.drop, g, s)

/-- Act on an inbound text. -/
def onText (g : Gate) (s : State) (id : SignonId) (text : String) : Inbound × Gate × State :=
  match Phase.decodeText text with
  | none =>
    if g.admitsApplication then (.forward text, g, s) else (.drop, g, s.count .droppedFrames)
  | some (.error _) => (.drop, g, s)
  | some (.ok p) => g.onPhase s id p

/-- Act on the outcome of the gate's signon; the answer is what the client is told. -/
def onOutcome (g : Gate) (s : State) : Except RegistryError Outcome → Phase × Gate × State
  | .ok (.accepted session _) =>
    let (g, s) := g.activate s session
    (.sessionValid session, g, s)
  | .ok (.needsSecondary token) =>
    (.secondarySignonNeeded token, { g with state := .awaitingSecondary }, s)
  | .ok (.denied failure) => (.signonFailureNotice failure, { g with state := .awaitingSignon }, s)
  | .error e => (.signonFailureNotice e.asFailure, { g with state := .awaitingSignon }, s)

/-- The channel is gone. Signons still under way must find it closed, so it is kicked first. -/
def onClosed (g : Gate) (s : State) : Gate × State :=
  let s := s.kick g.channel
  let after := { g with state := .closed }
  match g.state with
  | .active session =>
    let (_, s) := s.unregister session g.channel
    (after, s.closeSession g.channel session g.signoffSeen)
  | .signonPending | .awaitingSecondary => (after, s.releaseChannel g.channel)
  | .awaitingSignon | .closed => (after, s)

end Gate

end DurableSession.Server
