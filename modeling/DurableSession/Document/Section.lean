import DurableSession.Document.Mismatch

/-!
Sections: documents with fields that have names, of which some are required.

A section is a record, whose members are read in the order in which they stand and whose unknown
members are passed over, or a list of the fields' values in the order of the fields.
-/

namespace DurableSession

/-- A field: its name, what reading its value does to the section, and whether it has to be
given. -/
structure Field (σ : Type) where
  name : String
  required : Bool := false
  read : Document → σ → Except Mismatch σ

namespace Field

variable {σ : Type}

/-- Read members one by one; `given` holds the names of the fields read before. -/
def readMembers (fields : List (Field σ)) (given : List String) (s : σ) :
    List (String × Document) → Except Mismatch (List String × σ)
  | [] => .ok (given, s)
  | (name, d) :: rest =>
    match fields.find? (·.name = name) with
    | none => readMembers fields given s rest
    | some f =>
      match f.read d s with
      | .error m => .error m
      | .ok s => readMembers fields (name :: given) s rest

/-- Read values in the order of the fields; values beyond the fields are passed over. -/
def readItems (s : σ) : List (Field σ) → List Document → Except Mismatch σ
  | f :: fields, d :: rest =>
    match f.read d s with
    | .error m => .error m
    | .ok s => readItems s fields rest
  | _, _ => .ok s

/-- Fields that nothing is given for: the first required one is missed, with its place. -/
def firstRequired? (fields : List (Field σ)) (start : Nat) : Option Nat :=
  ((fields.drop start).findIdx? (·.required)).map (· + start)

/--
Read a section. Fields that are not given are as in `s`; what stands there for required fields does
not matter. `title` says what was wanted.
-/
def readSection (title : String) (fields : List (Field σ)) (s : σ) : Document → Except Mismatch σ
  | .record ms =>
    match readMembers fields [] s ms with
    | .error m => .error m
    | .ok (given, s) =>
      match fields.find? fun f => f.required && f.name ∉ given with
      | some f => .error (.missingField f.name)
      | none => .ok s
  | .list ds =>
    match readItems s fields ds with
    | .error m => .error m
    | .ok s =>
      match firstRequired? fields ds.length with
      | some i => .error (.wrongLength i (title ++ " with " ++ elements fields.length))
      | none => .ok s
  | d => .error (.wrongType d.shape title)

end Field

end DurableSession
