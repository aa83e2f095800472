import DurableSession.Server.State
import DurableSession.Document.Value
import DurableSession.Text.Utf8

/-!
Administration over HTTP: looking at sessions and metrics, and kicking sessions out.
-/

namespace DurableSession.Server.Admin

open Lifecycle (SessionId)

/-- One session as an administrator sees it. -/
structure Summary where
  session : String
  login : String
  state : String
  remote : String
  bound : Bool
  /-- Milliseconds since the session was last active. -/
  idle : Nat
deriving DecidableEq

/-- A record as an administrator sees it. -/
def summary (now : Nat) (r : Record) : Summary where
  session := r.session.text
  login := r.login
  state := r.state.name
  remote := r.remote.text
  bound := r.channel.isSome
  idle := now - r.lastActiveAt

/-- All sessions, oldest first. -/
def summaries (s : State) : List Summary := s.registry.records.map (summary s.now)

/-- The document of a summary. -/
def Summary.toDocument (s : Summary) : Document := .record [
  ("session", .string s.session), ("login", .string s.login), ("state", .string s.state),
  ("remote", .string s.remote), ("bound", .boolean s.bound), ("idle_ms", .nat s.idle)]

/-- What a response carries. -/
inductive Body where
  | text (t : String)
  | sessions (l : List Summary)
  | kicked (n : Nat)
  /-- Every series with its value. -/
  | metrics (m : Metrics)

/-- A status and a body. -/
structure Response where
  status : Nat
  body : Body

/-- A response without content. -/
def Response.bare (status : Nat) : Response := ⟨status, .text ""⟩

/-- What can be asked for. -/
inductive Resource where
  | metrics
  | sessions
  | kickoutAll
  /-- One session, named by a segment of the path that is still encoded. -/
  | kickout (segment : List Char)
deriving DecidableEq

/-- The path of a target, without what follows a question mark or a number sign. -/
def pathOf (target : String) : List Char := target.toList.takeWhile fun c => c ≠ '?' && c ≠ '#'

/-- The parts of a path between its slashes. -/
def segments : List Char → List (List Char)
  | [] => [[]]
  | c :: rest =>
    if c = '/' then [] :: segments rest
    else
      match segments rest with
      | s :: more => (c :: s) :: more
      | [] => [[c]]

/-- The resource at a path. -/
def resourceAt? (path : List Char) : Option Resource :=
  match segments path with
  | [[], a] =>
    if a = "metrics".toList then some .metrics
    else if a = "sessions".toList then some .sessions
    else none
  | [[], a, b] =>
    if a = "sessions".toList ∧ b = "kickout".toList then some .kickoutAll else none
  | [[], a, id, b] =>
    if a = "sessions".toList ∧ b = "kickout".toList then some (.kickout id) else none
  | _ => none

def hexDigit? (b : UInt8) : Option UInt8 :=
  if 48 ≤ b && b ≤ 57 then some (b - 48)
  else if 65 ≤ b && b ≤ 70 then some (b - 55)
  else if 97 ≤ b && b ≤ 102 then some (b - 87)
  else none

/-- Replace a percent sign and two digits by the byte they name; other percent signs stay. -/
def percentDecode : List UInt8 → List UInt8
  | [] => []
  | [b] => [b]
  | [b, c] => [b, c]
  | b :: h :: l :: more =>
    match b, hexDigit? h, hexDigit? l with
    | 37, some high, some low => (16 * high + low) :: percentDecode more
    | _, _, _ => b :: percentDecode (h :: l :: more)

/-- Kick out the session that a segment names. -/
def kickoutSegment (s : State) (segment : List Char) : Response × State :=
  match Text.fromUtf8? (percentDecode (Text.utf8 (String.ofList segment))) with
  | none => (⟨400, .text "Invalid URL: Invalid UTF-8 in `id`"⟩, s)
  | some id =>
    match SessionId.ofString? id with
    | none => (.bare 400, s)
    | some session =>
      match s.kickout session with
      | (true, s) => (⟨200, .kicked 1⟩, s)
      | (false, s) => (.bare 404, s)

def handle (s : State) (method target : String) : Response × State :=
  match resourceAt? (pathOf target) with
  | none => (.bare 404, s)
  | some .metrics =>
    if method = "GET" then (⟨200, .metrics s.metrics⟩, s)
    else if method = "HEAD" then (.bare 200, s)
    else (.bare 405, s)
  | some .sessions =>
    if method = "GET" then (⟨200, .sessions (summaries s)⟩, s)
    else if method = "HEAD" then (.bare 200, s)
    else (.bare 405, s)
  | some .kickoutAll =>
    if method = "POST" then
      let (n, s) := s.kickoutAll
      (⟨200, .kicked n⟩, s)
    else (.bare 405, s)
  | some (.kickout segment) =>
    if method = "POST" then kickoutSegment s segment else (.bare 405, s)

end DurableSession.Server.Admin
