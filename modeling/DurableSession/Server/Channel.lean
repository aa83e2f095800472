import DurableSession.Lifecycle.Phase
import DurableSession.Network.Address
import DurableSession.Table

/-!
Channels: the server's ends of the connections to its clients, each with a bounded queue of frames
to send.

A channel is closed once it was kicked or nobody takes frames from its queue any more. Being kicked
does not stop frames from being queued.
-/

namespace DurableSession.Server

open Lifecycle (Phase)
open Network (SocketAddress)

/-- Names a channel; no two channels ever have the same, as the number is unbounded. -/
structure ChannelId where
  number : Nat
deriving DecidableEq, Repr

/-- A frame to send on a channel. -/
inductive Outbound where
  | phase (p : Phase)
  | application (text : String)
deriving DecidableEq

/-- A channel as the server sees it. -/
structure Channel where
  remote : SocketAddress
  /-- How many frames the queue holds, at least one. -/
  capacity : Nat
  queue : List Outbound := []
  kicked : Bool := false
  /-- Nobody takes frames from the queue any more. -/
  abandoned : Bool := false
deriving DecidableEq

namespace Channel

/-- The connection is gone or told to go. -/
def isClosed (c : Channel) : Bool := c.kicked || c.abandoned

/-- Tell the connection to go. -/
def kick (c : Channel) : Channel := { c with kicked := true }

/-- Stop taking frames; those in the queue are lost. -/
def abandon (c : Channel) : Channel := { c with abandoned := true, queue := [] }

/-- There is room for a frame and someone to take it. -/
def hasRoom (c : Channel) : Bool := !c.abandoned && c.queue.length < max 1 c.capacity

/-- Queue a frame, if there is room. -/
def offer (c : Channel) (m : Outbound) : Bool × Channel :=
  if c.hasRoom then (true, { c with queue := c.queue ++ [m] }) else (false, c)

/-- Take the oldest frame from the queue. -/
def take (c : Channel) : Option (Outbound × Channel) :=
  match c.queue with
  | [] => none
  | m :: rest => some (m, { c with queue := rest })

/-- Take all frames from the queue. -/
def drain (c : Channel) : List Outbound × Channel := (c.queue, { c with queue := [] })

end Channel

/-- All channels there ever were. -/
abbrev Channels := Table ChannelId Channel

namespace Channels

/-- A channel that is not known counts as closed. -/
def isClosed (cs : Channels) (c : ChannelId) : Bool := ((cs.find? c).map Channel.isClosed).getD true

/-- Tell a channel's connection to go. -/
def kick (cs : Channels) (c : ChannelId) : Channels := cs.modify c Channel.kick

/-- Tell several connections to go. -/
def kickAll (cs : Channels) (l : List ChannelId) : Channels := l.foldl kick cs

end Channels

end DurableSession.Server
