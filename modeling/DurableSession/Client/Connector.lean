import DurableSession.Client.Snapshot
import DurableSession.Client.Credentials
import DurableSession.Lifecycle.Codec

/-!
The connector: what keeps a client connected.

Commands of the user, frames, results of connection attempts, answers of the supplier of credentials
and timers all come as events, which are handled one at a time. Handling one gives the connector's
next state and what it wants done outside, in `wishes`. Connection attempts, links and timers have
numbers that are never used again, by which late events are told from current ones.
-/

namespace DurableSession.Client

open Lifecycle (Phase SessionId Token Secret Failure)
open Handshake (Descriptor)
open Timing (Boundary Key)

/-- Names a link: one open channel to a server. As with a `TimerId`, its number is unbounded. -/
structure LinkId where
  number : Nat
deriving DecidableEq, Repr

/-- Names a connection attempt, by an unbounded number too. -/
structure DialId where
  number : Nat
deriving DecidableEq, Repr

/-- A frame for the server. -/
inductive Frame where
  | text (t : String)
  | ping
deriving DecidableEq

/-- What a connector wants done outside. -/
inductive Wish where
  /-- Try to connect, for so many milliseconds at most. -/
  | dial (attempt : DialId) (timeout : Nat)
  | cancelDial (attempt : DialId)
  | send (link : LinkId) (frame : Frame)
  /-- Send what is queued, then close. -/
  | close (link : LinkId)
  /-- Put a question to the supplier of credentials, on behalf of a link. -/
  | ask (link : LinkId) (request : Request)
  /-- Hand a message to the application. -/
  | deliver (text : String)
deriving DecidableEq

/-- What a user may ask for. -/
inductive Command where
  | start
  | stop
  | emergencyStop
  | signoff
deriving DecidableEq

/-- Why a user's wish was refused. -/
inductive ConnectorError where
  | snapshot (e : SnapshotError)
  | notReady (status : Status)
  | shutDown
deriving DecidableEq

def ConnectorError.message : ConnectorError → String
  | snapshot e => "state machine: " ++ e.message
  | notReady status => "not ready to send in state " ++ status.name
  | shutDown => "connector task has shut down"

/-- What happens to a connector, the user's commands aside. -/
inductive Event where
  /-- A connection attempt ended, with the server's descriptor if it succeeded. -/
  | dialed (attempt : DialId) (result : Option Descriptor)
  | text (link : LinkId) (text : String)
  | pong (link : LinkId)
  | linkClosed (link : LinkId)
  | credentials (link : LinkId) (supplied : Option Credentials)
  | secondaryCode (link : LinkId) (token : Token) (supplied : Option Secret)
  | timerFired (id : TimerId) (kind : TimerKind)
deriving DecidableEq

/-- The session to resume, and whose it is. -/
structure Resume where
  session : SessionId
  login : String
deriving DecidableEq

structure Connector where
  /-- The timing in force until a server's descriptor arrives. -/
  boundary : Boundary
  /-- There is someone to ask for credentials. -/
  hasSupplier : Bool
  /-- There is someone to hand messages to. -/
  hasInbox : Bool
  /-- Milliseconds since the beginning. -/
  now : Nat := 0
  snapshot : Snapshot LinkId := .initial
  /-- The session as it is published. -/
  session : Option SessionId := none
  resume : Option Resume := none
  /-- The login of the signon under way on the current link. -/
  pendingLogin : Option String := none
  dial : Option DialId := none
  nextLink : Nat := 1
  nextDial : Nat := 1
  nextSignal : Nat := 0
  completed : List SignalId := []
  timers : Timers := {}
  /-- What is wanted outside, in order. -/
  wishes : List Wish := []
  /-- The transitions that the connector made by itself and that were refused, which none should
  be. -/
  refused : List SnapshotError := []

namespace Connector

/-! ### Small steps -/

def wish (c : Connector) (w : Wish) : Connector := { c with wishes := c.wishes ++ [w] }

/-- The timing in force. -/
def policy (c : Connector) : Boundary :=
  (c.snapshot.parts.descriptor.map Descriptor.boundary).getD c.boundary

/-- The link of the snapshot. -/
def link? (c : Connector) : Option LinkId := c.snapshot.parts.channel

def complete (c : Connector) : Signal → Connector
  | .settled => c
  | .awaited id =>
    { c with completed := if id ∈ c.completed then c.completed else id :: c.completed }

/-- Complete the signal of the start under way. -/
def completeStart (c : Connector) : Connector :=
  match c.snapshot.parts.start with
  | some s => c.complete s
  | none => c

/-- A signal that nobody has seen yet. -/
def newSignal (c : Connector) : Signal × Connector :=
  (.awaited ⟨c.nextSignal⟩, { c with nextSignal := c.nextSignal + 1 })

/-- Take note of a transition that was refused. -/
def refuse (c : Connector) (e : SnapshotError) : Connector := { c with refused := c.refused ++ [e] }

/-- Take a transition that the connector makes by itself; one that is refused changes nothing
else. -/
def take (c : Connector) : Except SnapshotError (Snapshot LinkId) → Bool × Connector
  | .ok s => (true, { c with snapshot := s })
  | .error e => (false, c.refuse e)

/-- Cancel the timers that the snapshot holds. -/
def cancelTimers (c : Connector) : Connector :=
  { c with timers := c.timers.cancelAll c.snapshot.timers }

/-- Give up the connection attempt under way. -/
def cancelDial (c : Connector) : Connector :=
  match c.dial with
  | some d => { c with dial := none }.wish (.cancelDial d)
  | none => c

/-- Begin a connection attempt in place of the one under way. -/
def redial (c : Connector) : Connector :=
  let c := c.cancelDial
  let d : DialId := ⟨c.nextDial⟩
  { c with dial := some d, nextDial := c.nextDial + 1 }.wish (.dial d c.policy.connectTimeout.toNat)

def forgetSession (c : Connector) : Connector := { c with resume := none, session := none }

def sendPhase (c : Connector) (link : LinkId) (p : Phase) : Connector :=
  c.wish (.send link (.text p.encode))

def closeLink (c : Connector) : Connector :=
  match c.link? with
  | some link => c.wish (.close link)
  | none => c

/-- Ask the supplier of credentials, if there is one. -/
def ask (c : Connector) (link : LinkId) (r : Request) : Connector :=
  if c.hasSupplier then c.wish (.ask link r) else c

/-- The channel is gone: plan to reconnect. -/
def loseChannel (c : Connector) : Connector :=
  let c := { c.cancelTimers with pendingLogin := none }
  let (timer, timers) := c.timers.scheduleReconnect c.now c.policy
  ({ c with timers }.take (c.snapshot.channelLost timer)).2

/-- The channel is closed after a stop. -/
def finishStop (c : Connector) : Connector :=
  match c.snapshot.stopped with
  | .ok s =>
    let c := match s.parts.stop with
      | some signal => c.complete signal
      | none => c
    { c with snapshot := s }
  | .error e => c.refuse e

/-! ### Commands -/

/-- The result of a command: a signal to wait for, or why it was refused. -/
abbrev Reply := Except ConnectorError Signal

/-- Start connecting. -/
def onStart (c : Connector) : Reply × Connector :=
  let (start, c') := c.newSignal
  match c.snapshot.startConnecting start ⟨"", false, c.boundary⟩ with
  | .error e => (.error (.snapshot e), c)
  | .ok s => (.ok start, { c' with snapshot := s }.redial)

/-- Stop, after the channel was closed. -/
def onStop (c : Connector) : Reply × Connector :=
  let (stop, c') := c.newSignal
  match c.snapshot.stopping stop with
  | .error e => (.error (.snapshot e), c)
  | .ok s =>
    let c := { c'.cancelTimers.cancelDial with pendingLogin := none }
    let c := { c.completeStart with snapshot := s }
    match s.parts.channel with
    | some link => (.ok stop, c.wish (.close link))
    | none => (.ok stop, c.finishStop)

/-- Stop at once, without waiting for the channel. -/
def onEmergencyStop (c : Connector) : Reply × Connector :=
  match c.snapshot.emergencyStopped with
  | .error e => (.error (.snapshot e), c)
  | .ok s =>
    let c := { c.cancelTimers.cancelDial with pendingLogin := none }
    let c := c.closeLink.completeStart
    let stop := s.parts.stop.getD .settled
    (.ok stop, { c.complete stop with snapshot := s })

/-- End the session at the server, then stop. -/
def onSignoff (c : Connector) : Reply × Connector :=
  if c.snapshot.status ≠ .signedIn then
    (.error (.snapshot (.transition "signoff" c.snapshot.status)), c)
  else
    let c := match c.link? with
      | some link => c.sendPhase link .signoff
      | none => c
    c.forgetSession.onStop

def command (c : Connector) : Command → Reply × Connector
  | .start => c.onStart
  | .stop => c.onStop
  | .emergencyStop => c.onEmergencyStop
  | .signoff => c.onSignoff

/-- Send a message of the application. -/
def send (c : Connector) (text : String) : Except ConnectorError Unit × Connector :=
  match c.snapshot.readyToSend, c.link? with
  | true, some link => (.ok (), c.wish (.send link (.text text)))
  | _, _ => (.error (.notReady c.snapshot.status), c)

/-! ### Events -/

/-- The link is open and the server's descriptor known: sign on, or resume, if that is required. -/
def beginSignon (c : Connector) : Connector :=
  match c.link?, c.snapshot.parts.descriptor with
  | some link, some d =>
    if !d.authenticationRequired then c.completeStart
    else
      match c.resume with
      | some r => c.sendPhase link (.resumeSession r.session)
      | none => c.ask link .credentials
  | _, _ => c

/-- A connection attempt failed: plan the next one. -/
def onDialFailed (c : Connector) : Connector :=
  let (timer, timers) := c.timers.scheduleReconnect c.now c.policy
  ({ c with timers }.take (c.snapshot.reconnectPlanned timer)).2

/-- A connection attempt succeeded: open a link. -/
def onDialSucceeded (c : Connector) (d : Descriptor) : Connector :=
  let link : LinkId := ⟨c.nextLink⟩
  let (ping, timers) := c.timers.schedulePing c.now d.boundary
  let next := match c.snapshot.channelEstablished link with
    | .ok s => s.connected d ping
    | .error e => .error e
  match { c with nextLink := c.nextLink + 1, timers }.take next with
  | (true, c) => c.beginSignon
  | (false, c) => c.wish (.close link)

def onDialed (c : Connector) (attempt : DialId) (result : Option Descriptor) : Connector :=
  if c.dial ≠ some attempt then c
  else
    let c := { c with dial := none }
    if c.snapshot.status ≠ .connecting then c
    else
      match result with
      | none => c.onDialFailed
      | some d => c.onDialSucceeded d

def onLinkClosed (c : Connector) (link : LinkId) : Connector :=
  if c.link? ≠ some link then c
  else if c.snapshot.status = .stopping then c.finishStop
  else c.loseChannel

def onPong (c : Connector) : Connector :=
  match c.snapshot.parts.pongTimer with
  | none => c
  | some pong =>
    let c := { c with timers := c.timers.cancel pong.id }
    let (timer, timers) := c.timers.schedulePing c.now c.policy
    ({ c with timers }.take (c.snapshot.nextPingPlanned timer)).2

def onTimer (c : Connector) (id : TimerId) (kind : TimerKind) : Connector :=
  match c.snapshot.onFired id kind with
  | .sendPing =>
    match c.link? with
    | none => c
    | some link =>
      let c := c.wish (.send link .ping)
      let (timer, timers) := c.timers.schedulePongTimeout c.now c.policy
      ({ c with timers }.take (c.snapshot.pongTimeoutPlanned timer)).2
  | .channelDead => c.closeLink.loseChannel
  | .reconnect => c.redial
  | .stale => c

/-- The supplier answers with credentials, or with none. -/
def onCredentials (c : Connector) (link : LinkId) (supplied : Option Credentials) : Connector :=
  if c.link? ≠ some link ∨ c.snapshot.status ≠ .connected then c
  else
    match supplied with
    | none => c
    | some ⟨login, secret⟩ =>
      { c with pendingLogin := some login }.sendPhase link (.signonAttempt login secret)

/-- The supplier answers with a code, or with none. -/
def onSecondaryCode (c : Connector) (link : LinkId) (token : Token) (supplied : Option Secret) :
    Connector :=
  if c.link? ≠ some link ∨ c.snapshot.status ≠ .connected then c
  else
    match supplied with
    | none => c
    | some code => c.sendPhase link (.secondarySignonAttempt token code)

/-- The server accepted the signon or the resumption. -/
def onSessionValid (c : Connector) (session : SessionId) : Connector :=
  if c.snapshot.status ≠ .connected then c
  else
    let login := (c.pendingLogin.or (c.resume.map Resume.login)).or c.snapshot.parts.login
      |>.getD ""
    let c := { c with pendingLogin := none }
    match c.take (c.snapshot.signedIn login) with
    | (false, c) => c
    | (true, c) =>
      { c with session := some session, resume := some ⟨session, login⟩ }.completeStart

/-- The server refused the signon or the resumption. -/
def onFailure (c : Connector) (link : LinkId) (failure : Failure) : Connector :=
  let c := { c with pendingLogin := none }
  if failure = .unknownSession ∧ c.resume.isSome then c.forgetSession.ask link .credentials
  else if failure = .sessionBusy ∧ c.resume.isSome then c.closeLink.loseChannel
  else c.ask link (.signonFailed failure)

/-- Act on a lifecycle frame of the server. -/
def onPhase (c : Connector) (link : LinkId) : Phase → Connector
  | .sessionValid session => c.onSessionValid session
  | .signonFailureNotice failure => c.onFailure link failure
  | .secondarySignonNeeded token => c.ask link (.secondaryCode token)
  | _ => c

/-- Act on a text of the server. -/
def onText (c : Connector) (link : LinkId) (text : String) : Connector :=
  match Phase.decodeText text with
  | none => if c.snapshot.readyToSend && c.hasInbox then c.wish (.deliver text) else c
  | some (.error _) => c
  | some (.ok p) => c.onPhase link p

def handle (c : Connector) : Event → Connector
  | .dialed attempt result => c.onDialed attempt result
  | .text link text => if c.link? = some link then c.onText link text else c
  | .pong link => if c.link? = some link then c.onPong else c
  | .linkClosed link => c.onLinkClosed link
  | .credentials link supplied => c.onCredentials link supplied
  | .secondaryCode link token supplied => c.onSecondaryCode link token supplied
  | .timerFired id kind => c.onTimer id kind

/-- Everything ends: timers, the connection attempt and the link. -/
def shutDown (c : Connector) : Connector := c.cancelTimers.cancelDial.closeLink

end Connector

end DurableSession.Client
