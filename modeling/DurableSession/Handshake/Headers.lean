import DurableSession.Text.Utf8

/-!
Header fields of a request or response: names that ignore case, each with one or more values, which
are bytes.
-/

namespace DurableSession.Handshake

/-- The bytes of a header value. -/
abbrev HeaderValue := List UInt8

/-- A value may hold this byte. -/
def isHeaderByte (b : UInt8) : Bool := (32 ≤ b && b ≠ 127) || b = 9

/-- This byte of a value can be read as text. -/
def isTextByte (b : UInt8) : Bool := (32 ≤ b && b < 127) || b = 9

/-- The text of a value, if it is ASCII text. -/
def headerText? (v : HeaderValue) : Option String :=
  if v.all isTextByte then some (String.ofList (v.map fun b => Char.ofNat b.toNat)) else none

/-- A field name without regard to case. -/
def fieldName (s : String) : String := String.ofList (s.toList.map Char.toLower)

/-- Header fields, the values of a name in the order in which they came. -/
structure Headers where
  fields : List (String × HeaderValue) := []
deriving DecidableEq

namespace Headers

def empty : Headers := {}

/-- Add a value behind those that the name has. -/
def append (h : Headers) (name : String) (v : HeaderValue) : Headers :=
  ⟨h.fields ++ [(fieldName name, v)]⟩

/-- Forget all values of a name. -/
def remove (h : Headers) (name : String) : Headers :=
  ⟨h.fields.filter fun f => f.1 ≠ fieldName name⟩

/-- Give a name one value in place of all it has. -/
def insert (h : Headers) (name : String) (v : HeaderValue) :
    Headers := (h.remove name).append name v

def first? (h : Headers) (name : String) : Option HeaderValue :=
  (h.fields.find? fun f => f.1 = fieldName name).map Prod.snd

/-- All fields in order of their names, the values of a name in their own order. -/
def sorted (h : Headers) : List (String × HeaderValue) :=
  h.fields.mergeSort fun a b => decide (a.1 ≤ b.1)

theorem first?_insert_self (h : Headers) (name : String) (v : HeaderValue) :
    (h.insert name v).first? name = some v := by
  simp only [first?, insert, append, remove, List.find?_append, Option.map_eq_some_iff]
  refine ⟨(fieldName name, v), ?_, rfl⟩
  rw [List.find?_eq_none.2 (by simp)]
  simp

theorem first?_insert_of_ne (h : Headers) {name other : String} (v : HeaderValue)
    (hne : fieldName other ≠ fieldName name) :
    (h.insert name v).first? other = h.first? other := by
  simp only [first?, insert, append, remove, List.find?_append, List.find?_filter]
  have hlast : List.find? (fun f => decide (f.1 = fieldName other)) [(fieldName name, v)] =
      none := by
    simp [Ne.symm hne]
  rw [hlast, Option.or_none]
  congr 2
  funext f
  by_cases hf : f.1 = fieldName other
  · simp [hf, hne]
  · simp [hf]

end Headers

end DurableSession.Handshake
