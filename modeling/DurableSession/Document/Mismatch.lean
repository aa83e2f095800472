import DurableSession.Document.Value
import DurableSession.Text.Quoted
import DurableSession.Text.Decimal

/-!
Why a document is not what its reader wanted.

A mismatch names what was met and what was wanted; the wording is in `Mismatch.message`.
-/

namespace DurableSession

/-- What was met, as far as a message tells. -/
inductive Shape where
  | null
  | boolean (b : Bool)
  | whole (n : Int)
  | real (x : Float)
  | string (s : String)
  | sequence
  | map

/-- Why a document is not what its reader wanted. -/
inductive Mismatch where
  /-- A value of the wrong kind. -/
  | wrongType (met : Shape) (wanted : String)
  /-- A value of the right kind that is out of bounds. -/
  | wrongValue (met : Shape) (wanted : String)
  | wrongLength (met : Nat) (wanted : String)
  | unknownField (name : String) (known : List String)
  | duplicateField (name : String)
  | missingField (name : String)
  | unknownVariant (name : String) (known : List String)
  /-- Refused by the rules of the domain, in its own words. -/
  | refused (reason : String)

namespace Shape

def ofNumber : Number → Shape
  | .natural n => .whole n
  | .negative n => .whole (-n)
  | .real x => .real x

end Shape

def Document.shape : Document → Shape
  | .null => .null
  | .boolean b => .boolean b
  | .number n => Shape.ofNumber n
  | .string s => .string s
  | .list _ => .sequence
  | .record _ => .map

/-- Words for a shape; numbers with a fraction are written in the given layout. -/
def Shape.describe (layout : Text.Decimal.Layout) : Shape → String
  | .null => "null"
  | .boolean b => "boolean `" ++ (if b then "true" else "false") ++ "`"
  | .whole n => "integer `" ++ toString n ++ "`"
  | .real x => "floating point `" ++ Text.floatText layout x ++ "`"
  | .string s => "string " ++ Text.quoted s
  | .sequence => "sequence"
  | .map => "map"

/-- Alternatives in backticks, for the end of a message. -/
def alternatives (names : List String) : String :=
  ", ".intercalate (names.map fun n => "`" ++ n ++ "`")

/-- Words for how many items something has. -/
def elements (n : Nat) : String := toString n ++ (if n = 1 then " element" else " elements")

def Mismatch.message (layout : Text.Decimal.Layout) : Mismatch → String
  | .wrongType met wanted => "invalid type: " ++ met.describe layout ++ ", expected " ++ wanted
  | .wrongValue met wanted => "invalid value: " ++ met.describe layout ++ ", expected " ++ wanted
  | .wrongLength met wanted => "invalid length " ++ toString met ++ ", expected " ++ wanted
  | .unknownField name known =>
    "unknown field `" ++ name ++ "`, expected one of " ++ alternatives known
  | .duplicateField name => "duplicate field `" ++ name ++ "`"
  | .missingField name => "missing field `" ++ name ++ "`"
  | .unknownVariant name known =>
    "unknown variant `" ++ name ++ "`, expected one of " ++ alternatives known
  | .refused reason => reason

namespace Document

def asString : Document → Except Mismatch String
  | .string s => .ok s
  | d => .error (.wrongType d.shape "a string")

def asBoolean : Document → Except Mismatch Bool
  | .boolean b => .ok b
  | d => .error (.wrongType d.shape "a boolean")

def asList : Document → Except Mismatch (List Document)
  | .list items => .ok items
  | d => .error (.wrongType d.shape "a sequence")

/-- A whole number of at most `max`; `wanted` names its kind. -/
def asUnsigned (max : Nat) (wanted : String) : Document → Except Mismatch Nat
  | .number (.natural n) =>
    if n ≤ max then .ok n else .error (.wrongValue (.whole n) wanted)
  | .number (.negative n) => .error (.wrongValue (.whole (-n)) wanted)
  | d => .error (.wrongType d.shape wanted)

end Document

end DurableSession
