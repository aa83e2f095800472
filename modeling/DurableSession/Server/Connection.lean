import DurableSession.Server.Gate
import DurableSession.Server.Watchdog

/-!
Connections: each carries frames between a client's socket and its gate, until one side ends it.

A connection works in turns. In each it takes up one thing that is ready: a kick, the outcome of a
signon, a frame in its queue, the end of its patience with a silent client, or a frame of the
client. Which of several ready things comes first is left open. Whatever ends the connection, the
gate reports it.
-/

namespace DurableSession.Server

open Lifecycle (SessionId Phase)
open Network (SocketAddress)

/-- What comes from a client's socket. -/
inductive Incoming where
  | text (text : String)
  | ping
  | close
  /-- Frames that mean nothing here: pongs and binary ones. -/
  | other
  /-- The socket is gone, or brought something that is no frame. -/
  | broken
deriving DecidableEq

/-- What is written to a client's socket; pongs aside. -/
inductive Written where
  | text (text : String)
  | close
deriving DecidableEq

/-- Handles a message of a client, which came on a channel that carries a session or none. -/
abbrev Application := Option SessionId → ChannelId → String → State → State

/-- Sends every message back where it came from, if there is room. -/
def Application.echo : Application := fun _ c text s => (s.offer c (.application text)).2

/-- How many frames a slow client may leave in its queue. -/
def queueCapacity : Nat := 256

/-- A connection to a client. -/
structure Connection where
  gate : Gate
  watchdog : Watchdog
  /-- The signon whose outcome is awaited. -/
  awaited : Option SignonId := none
  /-- The socket still takes frames. -/
  writable : Bool := true
  /-- What was written, oldest first. -/
  written : List Written := []
  /-- What the application was handed, oldest first, with the session that the channel carried. -/
  delivered : List (Option SessionId × String) := []
  ended : Bool := false
deriving DecidableEq

/-- What a connection takes up in a turn. -/
inductive Turn where
  /-- It was told to go. -/
  | kicked
  | outcome
  | outbound
  /-- The client has not pinged in time. -/
  | silence
  | incoming (f : Incoming)
deriving DecidableEq

namespace Connection

def channel (c : Connection) : ChannelId := c.gate.channel

/-- A new connection on a new channel. -/
def start (s : State) (channel : ChannelId) (remote : SocketAddress) (authenticationRequired : Bool)
    (pingTimeout : Nat) : Connection × State :=
  ({ gate := { channel, authenticationRequired }, watchdog := .start pingTimeout s.now },
    (s.openChannel channel remote queueCapacity).count .openChannels)

/-- Write a frame; a socket that takes none ends the connection. -/
def write (c : Connection) (f : Written) : Connection :=
  if c.writable then { c with written := c.written ++ [f] } else { c with ended := true }

/-- Write a lifecycle frame. -/
def writePhase (c : Connection) (p : Phase) : Connection := c.write (.text p.encode)

/-- Take leave of the client, as far as its socket allows. -/
def hangUp (c : Connection) : Connection := { c.write .close with ended := true }

/-- Act on the outcome of the signon. -/
def onOutcome (c : Connection) (s : State) (o : Except RegistryError Outcome) :
    Connection × State :=
  let (p, gate, s) := c.gate.onOutcome s o
  ({ c with gate, awaited := none }.writePhase p, s)

/-- Send on a frame from the queue; a message of the application only if the gate lets it out. -/
def onOutbound (c : Connection) : Outbound → Connection
  | .phase p => c.writePhase p
  | .application text => if c.gate.admitsOutbound then c.write (.text text) else c

/-- Act on a text of the client; `fresh` is the name of a signon, should one begin. -/
def onText (app : Application) (fresh : SignonId) (c : Connection) (s : State) (text : String) :
    Connection × State :=
  let (inbound, gate, s) := c.gate.onText s fresh text
  let c := { c with gate }
  match inbound with
  | .forward text =>
    ({ c with delivered := c.delivered ++ [(gate.session?, text)] },
      app gate.session? c.channel text s)
  | .drop => (c, s)
  | .reply p => (c.writePhase p, s)
  | .await id => ({ c with awaited := some id }, s)
  | .close => (c.hangUp, s)

/-- Act on what comes from the client. Only pings show that it is alive. -/
def onIncoming (app : Application) (fresh : SignonId) (c : Connection) (s : State) :
    Incoming → Connection × State
  | .text text => c.onText app fresh s text
  | .ping =>
    ({ c with watchdog := c.watchdog.touch s.now, ended := c.ended || !c.writable }, s)
  | .close | .broken => ({ c with ended := true }, s)
  | .other => (c, s)

/-- Take up one thing, if it is ready. -/
def act (app : Application) (fresh : SignonId) (c : Connection) (s : State) :
    Turn → Option (Connection × State)
  | .kicked => if s.isKicked c.channel then some (c.hangUp, s) else none
  | .outcome => (c.awaited.bind s.outcome?).map fun o => c.onOutcome s (.ok o)
  | .outbound => (s.take c.channel).map fun (m, s) => (c.onOutbound m, s)
  | .silence =>
    if c.watchdog.expired s.now then some (c.hangUp, s.count .pingTimeouts) else none
  | .incoming f => some (c.onIncoming app fresh s f)

/-- The end of a connection: its queue goes, its gate reports it, and it is no longer counted. -/
def finish (c : Connection) (s : State) : Connection × State :=
  let (gate, s) := c.gate.onClosed (s.abandon c.channel)
  ({ c with gate, awaited := none }, { s with metrics := s.metrics.add .openChannels (-1) })

/-- One turn of a connection that has not ended. -/
def turn (app : Application) (fresh : SignonId) (c : Connection) (s : State) (t : Turn) :
    Option (Connection × State) :=
  if c.ended then none
  else (c.act app fresh s t).map fun (c, s) => if c.ended then c.finish s else (c, s)

/-- The first thing that is ready without the client. -/
def ready? (c : Connection) (s : State) : Option Turn :=
  if c.ended then none
  else if s.isKicked c.channel then some .kicked
  else if (c.awaited.bind s.outcome?).isSome then some .outcome
  else if (s.take c.channel).isSome then some .outbound
  else if c.watchdog.expired s.now then some .silence
  else none

end Connection

end DurableSession.Server
