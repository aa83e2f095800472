import DurableSession.Handshake.Headers
import DurableSession.ProtocolError
import DurableSession.Text.Numeral

/-!
The connection descriptor: what a server tells a client about itself in the headers of the upgrade
response.
-/

namespace DurableSession.Handshake

open Timing (Boundary Key)

/-- What a server tells about itself. -/
structure Descriptor where
  version : String
  authenticationRequired : Bool
  boundary : Boundary
deriving DecidableEq

namespace Descriptor

/-- The header of the server's version. -/
def versionHeader : String := "x-tether-upend-version"

/-- The header that says whether a signon is required. -/
def authenticationHeader : String := "x-tether-authentication-required"

def flagText (b : Bool) : String := if b then "true" else "false"

/-- Write the descriptor over what the headers say. The version is checked before anything is
written. -/
def writeHeaders (d : Descriptor) (h : Headers) : Except ProtocolError Headers :=
  let version := Text.utf8 d.version
  if version.all isHeaderByte then
    let h := h.insert versionHeader version
    let h := h.insert authenticationHeader (Text.utf8 (flagText d.authenticationRequired))
    .ok (Key.all.foldl
      (fun h k => h.insert k.header (Text.utf8 (toString (d.boundary.ms k)))) h)
  else .error (.unrepresentableHeader versionHeader d.version)

/-- The text of the first value of a name. -/
def readText (h : Headers) (name : String) : Except ProtocolError String :=
  match h.first? name with
  | none => .error (.missingHeader name)
  | some v =>
    match headerText? v with
    | some s => .ok s
    | none => .error (.invalidHeader name (Text.fromUtf8Lossy v))

def readFlag (h : Headers) (name : String) : Except ProtocolError Bool := do
  let s ← readText h name
  if s = "true" then return true
  else if s = "false" then return false
  else .error (.invalidHeader name s)

def readNumber (h : Headers) (k : Key) : Except ProtocolError UInt64 := do
  let s ← readText h k.header
  match Text.unsigned? Text.maxWord s.toList with
  | some n => return UInt64.ofNat n
  | none => .error (.invalidHeader k.header s)

/-- Read a descriptor: the version, the flag, then key by key. -/
def fromHeaders (h : Headers) : Except ProtocolError Descriptor := do
  let version ← readText h versionHeader
  let authenticationRequired ← readFlag h authenticationHeader
  match ← Boundary.parse (readNumber h) with
  | .ok boundary => return ⟨version, authenticationRequired, boundary⟩
  | .error fault => .error (.invalidBoundary fault)

end Descriptor

end DurableSession.Handshake
