/-!
Documents: the trees that the text formats of this library describe.

Members of a record keep their order and may repeat a name, as in the text; what a repetition means
is for the reader of the record to say.
-/

namespace DurableSession

/-- A number as the text gave it: a whole one, a negative whole one, or one with a fraction. -/
inductive Number where
  | natural (n : Nat)
  | negative (n : Nat)
  | real (x : Float)

inductive Document where
  | null
  | boolean (b : Bool)
  | number (n : Number)
  | string (s : String)
  | list (items : List Document)
  | record (members : List (String × Document))
deriving Inhabited

namespace Document

def nat (n : Nat) : Document := .number (.natural n)

/-- A whole number of either sign. -/
def int : Int → Document
  | .ofNat n => .number (.natural n)
  | .negSucc n => .number (.negative (n + 1))

/-- The value of the last member with that name. -/
def member? (name : String) : Document → Option Document
  | .record ms => (ms.reverse.find? (·.1 = name)).map (·.2)
  | _ => none

def string? : Document → Option String
  | .string s => some s
  | _ => none

def boolean? : Document → Option Bool
  | .boolean b => some b
  | _ => none

def natural? : Document → Option Nat
  | .number (.natural n) => some n
  | _ => none

def list? : Document → Option (List Document)
  | .list items => some items
  | _ => none

def members? : Document → Option (List (String × Document))
  | .record ms => some ms
  | _ => none

/-- Insert into members sorted by name; a name already there gets the new value. -/
def insertSorted (name : String) (v : Document) :
    List (String × Document) → List (String × Document)
  | [] => [(name, v)]
  | (n, w) :: rest =>
    if name < n then (name, v) :: (n, w) :: rest
    else if name = n then (n, v) :: rest
    else (n, w) :: insertSorted name v rest

mutual

/-- Members in order of their names, each name once with its last value. -/
def sorted : Document → Document
  | .list items => .list (sortedItems items)
  | .record ms => .record (sortedMembers [] ms)
  | d => d

def sortedItems : List Document → List Document
  | [] => []
  | d :: rest => sorted d :: sortedItems rest

def sortedMembers (acc : List (String × Document)) :
    List (String × Document) → List (String × Document)
  | [] => acc
  | (n, d) :: rest => sortedMembers (insertSorted n (sorted d) acc) rest

end

mutual

/-- Change every text in a document, names of members included. -/
def mapText (f : String → String) : Document → Document
  | .string s => .string (f s)
  | .list items => .list (mapItems f items)
  | .record ms => .record (mapMembers f ms)
  | d => d

def mapItems (f : String → String) : List Document → List Document
  | [] => []
  | d :: rest => mapText f d :: mapItems f rest

def mapMembers (f : String → String) : List (String × Document) → List (String × Document)
  | [] => []
  | (n, d) :: rest => (f n, mapText f d) :: mapMembers f rest

end

end Document

end DurableSession
