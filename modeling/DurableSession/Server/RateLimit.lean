import DurableSession.Network.Address
import DurableSession.Table

/-!
A limit on new connections per address: a burst at once, then one a second.

For every address the limiter keeps the time at which its allowance will be whole again. A
connection uses up one second of it and is admitted if the debt stays within the burst.
-/

namespace DurableSession.Server

open Network (Address)

/-- Milliseconds after which an address may connect once more. -/
def refillTime : Nat := 1000

/-- Connections that may come at once, and when each address has its whole allowance back. -/
structure RateLimiter where
  burst : Nat
  whole : Table Address Nat := .empty

namespace RateLimiter

/-- The burst that is used when none is given. -/
def defaultBurst : Nat := 10

/-- A limiter with the given burst; nought stands for the default. -/
def ofBurst (burst : Nat) : RateLimiter := { burst := if burst = 0 then defaultBurst else burst }

/-- An address wants to connect. -/
def check (l : RateLimiter) (now : Nat) (a : Address) : Bool × RateLimiter :=
  let after := max now ((l.whole.find? a).getD 0) + refillTime
  if after - now ≤ l.burst * refillTime then (true, { l with whole := l.whole.insert a after })
  else (false, l)

/-- Forget all addresses. -/
def clear (l : RateLimiter) : RateLimiter := { l with whole := .empty }

end RateLimiter

end DurableSession.Server
