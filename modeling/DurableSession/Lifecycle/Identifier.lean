import DurableSession.Text.Quoted
import DurableSession.Document.Mismatch

/-!
Identifiers that travel between client and server: session identifiers, the tokens of secondary
challenges, and secrets, which are never shown.
-/

namespace DurableSession.Lifecycle

/-- Letters and digits of ASCII, the hyphen and the underscore. -/
def isIdentifierChar (c : Char) : Bool := c.isAlphanum || c = '-' || c = '_'

/-- One to sixty-four identifier characters. -/
def isIdentifier (s : String) : Bool :=
  1 ≤ s.utf8ByteSize && s.utf8ByteSize ≤ 64 && s.toList.all isIdentifierChar

structure SessionId where
  text : String
  valid : isIdentifier text = true
deriving DecidableEq

/-- Names one secondary challenge. -/
structure Token where
  text : String
  valid : isIdentifier text = true
deriving DecidableEq

/-- A text that is no identifier. -/
def notIdentifier (s : String) : String := "invalid identifier: " ++ Text.quoted s

namespace SessionId

/-- The identifier that a text is. -/
def ofString? (s : String) : Option SessionId :=
  if h : isIdentifier s = true then some ⟨s, h⟩ else none

theorem ofString?_text (i : SessionId) : ofString? i.text = some i := by simp [ofString?, i.valid]

def describe (i : SessionId) : String := "SessionIdentifier(" ++ i.text ++ ")"

def ofDocument (d : Document) : Except Mismatch SessionId :=
  match d.asString with
  | .error m => .error m
  | .ok s =>
    match ofString? s with
    | some i => .ok i
    | none => .error (.refused (notIdentifier s))

end SessionId

namespace Token

/-- The token that a text is. -/
def ofString? (s : String) : Option Token :=
  if h : isIdentifier s = true then some ⟨s, h⟩ else none

theorem ofString?_text (t : Token) : ofString? t.text = some t := by simp [ofString?, t.valid]

def describe (t : Token) : String := "SecondaryToken(" ++ t.text ++ ")"

def ofDocument (d : Document) : Except Mismatch Token :=
  match d.asString with
  | .error m => .error m
  | .ok s =>
    match ofString? s with
    | some t => .ok t
    | none => .error (.refused (notIdentifier s))

end Token

/-- A password or code. -/
structure Secret where
  exposed : String
deriving DecidableEq

namespace Secret

/-- Nothing was supplied. -/
def isEmpty (s : Secret) : Bool := s.exposed = ""

/-- All that is ever shown of a secret. -/
def describe (_ : Secret) : String := "Secret(***)"

def ofDocument (d : Document) : Except Mismatch Secret :=
  match d.asString with
  | .error m => .error m
  | .ok s => .ok ⟨s⟩

end Secret

end DurableSession.Lifecycle
