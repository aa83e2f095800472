import DurableSession.Document.Toml.Tree
import DurableSession.Document.Toml.Scalar

/-!
Reading TOML text: a document of tables, keys and values.

A record has its keys in the order in which the text brought them. A text that breaks any rule gives
nothing; where and why is not told.
-/

namespace DurableSession.Toml

mutual

def readValue (fuel depth : Nat) (cs : List Char) : Option (Document × List Char) :=
  match fuel with
  | 0 => none
  | fuel + 1 =>
    match cs with
    | '"' :: _ => (readString cs).map fun (s, rest) => (.string s, rest)
    | '\'' :: _ => (readString cs).map fun (s, rest) => (.string s, rest)
    | 't' :: 'r' :: 'u' :: 'e' :: rest => some (.boolean true, rest)
    | 'f' :: 'a' :: 'l' :: 's' :: 'e' :: rest => some (.boolean false, rest)
    | '[' :: rest => if depth = 0 then none else readItems fuel (depth - 1) [] rest
    | '\x7b' :: rest =>
      if depth = 0 then none
      else
        match skipBlanks rest with
        | '\x7d' :: rest => some (.record [], rest)
        | rest => readMembers fuel (depth - 1) [] rest
    | _ => readScalar cs

/-- Read the items of a list up to its end; `done` holds those before, last one first. -/
def readItems (fuel depth : Nat) (done : List Document) (cs : List Char) :
    Option (Document × List Char) :=
  match fuel with
  | 0 => none
  | fuel + 1 =>
    match skipGap false cs with
    | ']' :: rest => some (.list done.reverse, rest)
    | cs =>
      match readValue fuel depth cs with
      | none => none
      | some (d, rest) =>
        match skipGap false rest with
        | ',' :: rest => readItems fuel depth (d :: done) rest
        | ']' :: rest => some (.list (d :: done).reverse, rest)
        | _ => none

/-- Read the members of a record on one line; `done` holds those before. -/
def readMembers (fuel depth : Nat) (done : Members) (cs : List Char) :
    Option (Document × List Char) :=
  match fuel with
  | 0 => none
  | fuel + 1 =>
    match readKey maxDepth cs with
    | some (path, key, '=' :: rest) =>
      match readValue fuel depth (skipBlanks rest) with
      | none => none
      | some (d, rest) =>
        match done.define key d path with
        | none => none
        | some ms =>
          match skipBlanks rest with
          | ',' :: rest => readMembers fuel depth ms rest
          | '\x7d' :: rest => some (ms.toDocument, rest)
          | _ => none
    | _ => none

end

/-- Steps that suffice for a value: every two of them take a character away. -/
def enoughFuel (cs : List Char) : Nat := 2 * cs.length + 2

/-- The tables read so far, and the path of the one that keys go into. -/
structure Progress where
  root : Members := []
  path : List String := []

/-- Read a header: a table in one pair of brackets, another item of a list of tables in two. -/
def readHeader (p : Progress) (cs : List Char) : Option (Progress × List Char) :=
  let named (openHere : String → Members → Option Members) (close : List Char → Option (List Char))
      (cs : List Char) : Option (Progress × List Char) := do
    let (path, key, rest) ← readKey maxDepth cs
    let rest ← close rest
    let root ← p.root.changeAt (openHere key) path
    return (⟨root, path ++ [key]⟩, rest)
  match cs with
  | '[' :: rest =>
    named Members.openItem (fun rest => (skip? ']' rest).bind (skip? ']')) rest
  | _ => named Members.openTable (skip? ']') cs

/-- Read a key and its value. -/
def readPair (p : Progress) (cs : List Char) : Option (Progress × List Char) := do
  let (path, key, rest) ← readKey maxDepth cs
  let rest ← skip? '=' rest
  let (d, rest) ← readValue (enoughFuel rest) maxDepth (skipBlanks rest)
  let root ← p.root.changeAt (Members.define key d path) p.path
  return ({ p with root }, rest)

/-- Read one line, or the lines of one value. -/
def readStatement (p : Progress) (cs : List Char) : Option (Progress × List Char) :=
  match skipBlanks cs with
  | '[' :: rest => readHeader p rest
  | [] => some (p, [])
  | '#' :: rest => some (p, '#' :: rest)
  | c :: rest =>
    if (lineEnd? (c :: rest)).isSome then some (p, c :: rest) else readPair p (c :: rest)

/-- Read all statements; `fuel` bounds their number. -/
def readStatements (p : Progress) : Nat → List Char → Option Progress
  | 0, _ => none
  | _ + 1, [] => some p
  | fuel + 1, cs =>
    match readStatement p cs with
    | none => none
    | some (p, rest) =>
      match endOfLine? rest with
      | none => none
      | some rest => readStatements p fuel rest

def parse? (text : String) : Option Document :=
  let cs := match text.toList with
    | '\ufeff' :: rest => rest
    | cs => cs
  (readStatements {} (cs.length + 1) cs).map fun p => p.root.toDocument

end DurableSession.Toml
