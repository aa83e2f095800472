import DurableSession.Client.Connector

/-!
Running a connector: its wishes go outside, what comes back is handled, and timers fire when nothing
else is left to do.
-/

namespace DurableSession.Client

/-- What the outside answers to a wish at once. -/
abbrev Outside := Wish → List Event

/-- A network on which every connection attempt fails at once. -/
def Outside.unreachable : Outside
  | .dial attempt _ => [.dialed attempt none]
  | _ => []

namespace Connector

def handleAll (c : Connector) (events : List Event) : Connector := events.foldl handle c

/-- The timer that is due first, and what runs on without it. -/
def nextDue? (c : Connector) : Option (Timer × Connector) :=
  match c.timers.due c.now with
  | [] => none
  | t :: _ =>
    let running := c.timers.running.filter fun r => r.id ≠ t.id
    some (t, { c with timers := { c.timers with running } })

/-- Work until there are no wishes and no timers due, at most `fuel` steps. -/
def settle (outside : Outside) : Nat → Connector → Connector
  | 0, c => c
  | fuel + 1, c =>
    match c.wishes with
    | w :: rest => settle outside fuel ({ c with wishes := rest }.handleAll (outside w))
    | [] =>
      match c.nextDue? with
      | some (t, c) => settle outside fuel (c.handle (.timerFired t.id t.kind))
      | none => c

def advance (c : Connector) (ms : Nat) : Connector := { c with now := c.now + ms }

end Connector

end DurableSession.Client
