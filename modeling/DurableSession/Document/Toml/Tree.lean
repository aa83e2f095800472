import DurableSession.Document.Value

/-!
The tables of a TOML text while it is read.

A table can be named by its own header, by the header of a table inside it, or by dotted keys, and
what may still be added to it depends on that. Nothing is ever defined twice: an operation that
would do so has no result.
-/

namespace DurableSession.Toml

/-- How a table came to be. -/
inductive Origin where
  /-- By its own header. -/
  | header
  /-- By the header of a table inside it. -/
  | implied
  /-- By a dotted key. -/
  | dotted
deriving DecidableEq

/-- What stands under a key. -/
inductive Node where
  | value (d : Document)
  | table (origin : Origin) (members : List (String × Node))
  /-- A list of tables, of which only the last can still be added to. -/
  | tables (done : List Document) (last : List (String × Node))

/-- Keys with what stands under them, in the order in which they came. -/
abbrev Members := List (String × Node)

namespace Members

mutual

def nodeDocument : Node → Document
  | .value d => d
  | .table _ ms => .record (documents ms)
  | .tables done last => .list (done ++ [.record (documents last)])

def documents : Members → List (String × Document)
  | [] => []
  | (key, n) :: rest => (key, nodeDocument n) :: documents rest

end

/-- The document of a finished table. -/
def toDocument (ms : Members) : Document := .record (documents ms)

/-- What stands under a key. -/
def node? (key : String) (ms : Members) : Option Node :=
  (List.find? (fun m => m.1 = key) ms).map fun m => m.2

def setNode (key : String) (n : Node) (ms : Members) : Members :=
  List.map (fun m => if m.1 = key then (key, n) else m) ms

def without (key : String) (ms : Members) : Members := List.filter (fun m => m.1 ≠ key) ms

/--
Give a key its value. The path in front of the key leads through tables that only keys or inner
headers made, and the table that the key is put into has to be one of those that keys made.
-/
def define (key : String) (d : Document) : List String → Members → Option Members
  | [], ms =>
    match ms.node? key with
    | none => some (ms ++ [(key, .value d)])
    | some _ => none
  | step :: path, ms =>
    match ms.node? step with
    | none => (define key d path []).map fun inner => ms ++ [(step, .table .dotted inner)]
    | some (.table .dotted inner) =>
      (define key d path inner).map fun inner => ms.setNode step (.table .dotted inner)
    | some (.table .implied inner) =>
      if path.isEmpty then none
      else (define key d path inner).map fun inner => ms.setNode step (.table .implied inner)
    | some (.tables done last) =>
      if path.isEmpty then none
      else (define key d path last).map fun last => ms.setNode step (.tables done last)
    | some (.table .header _) | some (.value _) => none

/-- Change the table at a path of headers; tables on the way that are not there are implied. -/
def changeAt (change : Members → Option Members) : List String → Members → Option Members
  | [], ms => change ms
  | step :: path, ms =>
    match ms.node? step with
    | none => (changeAt change path []).map fun inner => ms ++ [(step, .table .implied inner)]
    | some (.table origin inner) =>
      (changeAt change path inner).map fun inner => ms.setNode step (.table origin inner)
    | some (.tables done last) =>
      (changeAt change path last).map fun last => ms.setNode step (.tables done last)
    | some (.value _) => none

/-- A header names a table: a new one, or one that was implied, which takes its place anew. -/
def openTable (key : String) (ms : Members) : Option Members :=
  match ms.node? key with
  | none => some (ms ++ [(key, .table .header [])])
  | some (.table .implied inner) => some (ms.without key ++ [(key, .table .header inner)])
  | some _ => none

/-- A header begins another table of a list. -/
def openItem (key : String) (ms : Members) : Option Members :=
  match ms.node? key with
  | none => some (ms ++ [(key, .tables [] [])])
  | some (.tables done last) => some (ms.setNode key (.tables (done ++ [toDocument last]) []))
  | some _ => none

end Members

end DurableSession.Toml
