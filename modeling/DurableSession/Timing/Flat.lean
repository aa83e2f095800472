import DurableSession.Timing.Boundary
import DurableSession.Document.Json.Draft
import DurableSession.Text.Numeral

/-!
The flat document form of a time boundary: one field per key, or a list in the order of the keys.
Fields that are not given are those of the lenient boundary; fields that no key has are refused.
-/

namespace DurableSession.Timing

open Json (Draft Error)

namespace Boundary

/-- The document of a boundary: every key's field, in the order of the keys. -/
def toDocument (b : Boundary) : Document :=
  .record (Key.all.map fun k => (k.field, .nat (b.ms k)))

/-- Words for what a boundary's document has to be. -/
def wanted : String := "struct RawTimeBoundary"

/-- The text of a fault as an error of the protocol. -/
def faultText (f : BoundaryFault) : String := "invalid time boundary: " ++ f.message

/-- A number of milliseconds. -/
def readMs (d : Draft) : Except Error UInt64 := do
  let n ← d.plain (Document.asUnsigned Text.maxWord "u64")
  return UInt64.ofNat n

/-- The intervals given so far. -/
abbrev Given := Key → Option UInt64

/-- Take the value of a key. -/
def Given.set (g : Given) (k : Key) (ms : UInt64) : Given :=
  fun k' => if k' = k then some ms else g k'

/-- What was given, and the lenient boundary for the rest. -/
def Given.complete (g : Given) : Intervals :=
  .ofFunction fun k => (g k).getD (lenient.get k)

/-- Take the members of a record one by one; a name is judged before its value is read. -/
def readMembers (g : Given) : List (String × Draft) → Except Error Given
  | [] => .ok g
  | (name, d) :: rest =>
    match Key.ofField? name with
    | none => .error (.mismatch (.unknownField name (Key.all.map Key.field)))
    | some k =>
      if (g k).isSome then .error (.mismatch (.duplicateField name))
      else
        match readMs d with
        | .error e => .error e
        | .ok ms => readMembers (g.set k ms) rest

/-- Take the items of a list for the keys in their order; those beyond the keys are left over. -/
def readItems (g : Given) : List Key → List Draft → Except Error (Given × List Draft)
  | k :: keys, d :: rest =>
    match readMs d with
    | .error e => .error e
    | .ok ms => readItems (g.set k ms) keys rest
  | _, rest => .ok (g, rest)

/-- The intervals of a document; `surplus` says whether a list may be longer than the keys. -/
def readIntervals (surplus : Bool) (d : Draft) : Except Error Intervals :=
  match d.members?, d.items? with
  | some (members, fault), _ => do
    let given ← readMembers (fun _ => none) members
    match fault with
    | some f => .error (.fault f)
    | none => return given.complete
  | none, some (items, fault) => do
    let (given, left) ← readItems (fun _ => none) Key.all items
    if !left.isEmpty && !surplus then .error (.fault .malformed)
    else
      match fault with
      | some f => .error (.fault f)
      | none => return given.complete
  | none, none => do
    let met ← d.shape
    .error (.mismatch (.wrongType met wanted))

/-- Read a boundary from its document and check it. -/
def ofDraft (surplus : Bool) (d : Draft) : Except Error Boundary := do
  let v ← readIntervals surplus d
  match v.check with
  | .ok b => return b
  | .error f => .error (.mismatch (.refused (faultText f)))

/-- Read a boundary from a whole document, in which a list may be longer than the keys. -/
def ofDocument (d : Document) : Except Mismatch Boundary :=
  match ofDraft true (.whole d) with
  | .ok b => .ok b
  | .error (.mismatch m) => .error m
  | .error (.fault _) => .error (.refused "")

end Boundary

end DurableSession.Timing
