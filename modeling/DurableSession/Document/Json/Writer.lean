import DurableSession.Document.Value
import DurableSession.Text.Quoted
import DurableSession.Text.Decimal

/-!
Documents as compact JSON text: no blanks, members in their order, and only those characters escaped
that have to be.
-/

namespace DurableSession.Json

/-- The digit of a value below sixteen. -/
def hexDigit (n : Nat) : Char := Nat.digitChar n

/-- How a character is written inside a JSON string. -/
def escapeChar (c : Char) : List Char :=
  if c = '"' then ['\\', '"']
  else if c = '\\' then ['\\', '\\']
  else if c = '\n' then ['\\', 'n']
  else if c = '\r' then ['\\', 'r']
  else if c = '\t' then ['\\', 't']
  else if c = '\x08' then ['\\', 'b']
  else if c = '\x0c' then ['\\', 'f']
  else if c.toNat < 32 then
    ['\\', 'u', '0', '0', hexDigit (c.toNat / 16), hexDigit (c.toNat % 16)]
  else [c]

/-- The inside of a JSON string. -/
def escape (cs : List Char) : List Char := cs.flatMap escapeChar

def writeString (s : String) : List Char := '"' :: escape s.toList ++ ['"']

def writeNumber : Number → List Char
  | .natural n => Nat.toDigits 10 n
  | .negative n => '-' :: Nat.toDigits 10 n
  | .real x => (Text.floatText .scientific x).toList

mutual

def write : Document → List Char
  | .null => ['n', 'u', 'l', 'l']
  | .boolean true => ['t', 'r', 'u', 'e']
  | .boolean false => ['f', 'a', 'l', 's', 'e']
  | .number n => writeNumber n
  | .string s => writeString s
  | .list [] => ['[', ']']
  | .list (d :: rest) => '[' :: write d ++ writeItems rest
  | .record [] => ['\x7b', '\x7d']
  | .record ((n, d) :: rest) => '\x7b' :: writeString n ++ ':' :: write d ++ writeMembers rest

/-- The items after the first, and the closing bracket. -/
def writeItems : List Document → List Char
  | [] => [']']
  | d :: rest => ',' :: write d ++ writeItems rest

/-- The members after the first, and the closing brace. -/
def writeMembers : List (String × Document) → List Char
  | [] => ['\x7d']
  | (n, d) :: rest => ',' :: writeString n ++ ':' :: write d ++ writeMembers rest

end

def render (d : Document) : String := String.ofList (write d)

end DurableSession.Json
