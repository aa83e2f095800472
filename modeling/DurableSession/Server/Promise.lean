import DurableSession.Server.Record

/-!
Promises: a value that one side waits for and the other side supplies once, unless either goes away
first.
-/

namespace DurableSession.Server

/-- A promise of a value. -/
structure Promise (α : Type) where
  value : Option α := none
  /-- Whoever should have supplied the value went away. -/
  abandoned : Bool := false
  /-- Nobody waits any more. -/
  unheard : Bool := false

namespace Promise

variable {α : Type}

/-- Supply the value; the answer is whether anyone hears of it. -/
def resolve (p : Promise α) (a : α) : Bool × Promise α :=
  if p.unheard then (false, p) else (true, { p with value := p.value.or (some a) })

/-- Go away without supplying the value. -/
def abandon (p : Promise α) : Promise α := { p with abandoned := true }

/-- Wait no longer. -/
def forget (p : Promise α) : Promise α := { p with unheard := true }

/-- What the waiting side learns, once there is something to learn. -/
def outcome? (p : Promise α) : Option (Except RegistryError α) :=
  match p.value, p.abandoned with
  | some a, _ => some (.ok a)
  | none, true => some (.error .abandoned)
  | none, false => none

end Promise

end DurableSession.Server
