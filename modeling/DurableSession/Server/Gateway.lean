import DurableSession.Handshake.Request
import DurableSession.Handshake.Upgrade
import DurableSession.Server.Connection
import DurableSession.Server.RateLimit
import DurableSession.Server.Service

/-!
The gateway: from a new socket to a connection.

A socket is dropped without a word if its address has opened too many, if it does not bring a
request in time, or if the request is no upgrade. A request from a wrong origin is refused; any
other is answered with the server's descriptor and becomes a connection.
-/

namespace DurableSession.Server

open Handshake (Descriptor OriginPolicy Request Response)
open Network (SocketAddress)
open Timing (Key)

/-- Milliseconds that a socket may take for its request. -/
def requestTimeout : Nat := 10000

/-- A socket on which the request is awaited. -/
structure Arrival where
  remote : SocketAddress
  /-- When it came. -/
  since : Nat
deriving DecidableEq

/-- The request is overdue. -/
def Arrival.overdue (a : Arrival) (now : Nat) : Bool := a.since + requestTimeout ≤ now

/-- A gateway with the server behind it and its connections. -/
structure Gateway where
  service : Service
  descriptor : Descriptor
  policy : OriginPolicy
  limiter : RateLimiter
  application : Application := .echo
  connections : Table ChannelId Connection := .empty

namespace Gateway

/-- The state that the connections share. -/
def state (g : Gateway) : State := g.service.state

def setState (g : Gateway) (s : State) :
    Gateway := { g with service := g.service.update fun _ => s }

/-- A socket comes in; it may stay if its address has not opened too many. -/
def arrive (g : Gateway) (remote : SocketAddress) : Option Arrival × Gateway :=
  let (allowed, limiter) := g.limiter.check g.state.now remote.host
  (if allowed then some ⟨remote, g.state.now⟩ else none, { g with limiter })

/-- Open a connection on a new channel. -/
def connect (g : Gateway) (remote : SocketAddress) : ChannelId × Gateway :=
  let channel : ChannelId := ⟨g.service.minted⟩
  let (c, s) := Connection.start g.state channel remote g.descriptor.authenticationRequired
    (g.descriptor.boundary.ms .pingTimeout)
  let g := g.setState s
  (channel, { g with
    service := g.service.mint
    connections := g.connections.insert channel c })

/-- Answer a request, if it is an upgrade, and open a connection unless it is refused. -/
def answer (g : Gateway) (a : Arrival) (r : Request) :
    Option (Response × Option ChannelId) × Gateway :=
  if !r.isUpgrade then (none, g)
  else
    let response := Response.answer (g.policy.judge r.headers) g.descriptor (.upgrade .empty)
    if response.accepted then
      let (channel, g) := g.connect a.remote
      (some (response, some channel), g)
    else (some (response, none), g)

/-- A connection takes its turn; nothing happens if there is nothing to take up. -/
def turn (g : Gateway) (channel : ChannelId) (t : Turn) : Gateway :=
  match g.connections.find? channel with
  | none => g
  | some c =>
    match c.turn g.application g.service.nextSignon g.state t with
    | none => g
    | some (c, s) =>
      let g := g.setState s
      { g with service := g.service.mint, connections := g.connections.insert channel c }

/-- The first connection that has something to take up. -/
def nextReady? (g : Gateway) : Option (ChannelId × Turn) :=
  g.connections.entries.findSome? fun e => (e.2.ready? g.state).map fun t => (e.1, t)

/-- Work until nothing is ready any more, at most `fuel` turns. -/
def settle : Nat → Gateway → Gateway
  | 0, g => g
  | fuel + 1, g =>
    let g := { g with service := g.service.settle }
    match g.nextReady? with
    | some (channel, t) => settle fuel (g.turn channel t)
    | none => g

end Gateway

end DurableSession.Server
