import DurableSession.Document.Mismatch

/-!
What a JSON text has told before it is read to its end.

A reader that checks members as it meets them may refuse a text before a fault further on is seen.
So reading gives a draft: a whole document, or the part in front of the fault. A fault ends the
reading, so a draft has at most one, at its very end.
-/

namespace DurableSession.Json

/-- Why a text is no JSON. -/
inductive Fault where
  /-- A character that cannot stand where it stands. -/
  | malformed
  /-- The text ends too early. -/
  | truncated
deriving DecidableEq, Repr

/-- Why a JSON text does not give what its reader wanted. -/
inductive Error where
  | fault (f : Fault)
  | mismatch (m : Mismatch)

/-- A document, or the part of one in front of a fault. -/
inductive Draft where
  | whole (d : Document)
  /-- Nothing of the value could be read. -/
  | lost (f : Fault)
  /-- A list whose next item is broken. -/
  | listIn (done : List Document) (next : Draft)
  /-- A list that breaks where a comma or its end was due. -/
  | listEnd (done : List Document) (f : Fault)
  /-- A record whose next member has the name `name` and a broken value. -/
  | recordIn (done : List (String × Document)) (name : String) (next : Draft)
  /-- A record that breaks where a name, a comma or its end was due. -/
  | recordEnd (done : List (String × Document)) (f : Fault)

namespace Draft

/-- The document, if it was read in full. -/
def complete : Draft → Except Fault Document
  | .whole d => .ok d
  | .lost f => .error f
  | .listIn _ next => next.complete
  | .listEnd _ f => .error f
  | .recordIn _ _ next => next.complete
  | .recordEnd _ f => .error f

/-- The items met, and the fault at the end if it is not inside an item. -/
def items? : Draft → Option (List Draft × Option Fault)
  | .whole (.list ds) => some (ds.map .whole, none)
  | .listIn ds next => some (ds.map .whole ++ [next], none)
  | .listEnd ds f => some (ds.map .whole, some f)
  | _ => none

/-- The members met, and the fault at the end if it is not inside a member. -/
def members? : Draft → Option (List (String × Draft) × Option Fault)
  | .whole (.record ms) => some (ms.map fun m => (m.1, .whole m.2), none)
  | .recordIn ms name next => some ((ms.map fun m => (m.1, .whole m.2)) ++ [(name, next)], none)
  | .recordEnd ms f => some (ms.map fun m => (m.1, .whole m.2), some f)
  | _ => none

/-- Read a value that is no list and no record: what opens one is told apart without its inside. -/
def plain {α : Type} (read : Document → Except Mismatch α) (d : Draft) : Except Error α :=
  let seen : Except Fault Document := match d with
    | .whole d => .ok d
    | .lost f => .error f
    | .listIn .. | .listEnd .. => .ok (.list [])
    | .recordIn .. | .recordEnd .. => .ok (.record [])
  match seen with
  | .error f => .error (.fault f)
  | .ok d =>
    match read d with
    | .ok a => .ok a
    | .error m => .error (.mismatch m)

def shape (d : Draft) : Except Error Shape := d.plain fun d => .ok d.shape

end Draft

end DurableSession.Json
