import DurableSession.Handshake.Headers

/-!
Requests to upgrade a connection, and which of them are well formed.
-/

namespace DurableSession.Handshake

/-- What a client sends first. -/
structure Request where
  method : String
  headers : Headers

namespace Request

/-- Equal but for the case of ASCII letters. -/
def sameWord (a b : String) : Bool := fieldName a = fieldName b

/-- The words of a header's value, between blanks and commas. -/
def words (cs : List Char) : List (List Char) :=
  cs.foldr (fun c ws =>
    if c = ' ' || c = ',' then [] :: ws
    else
      match ws with
      | w :: more => (c :: w) :: more
      | [] => [[c]]) [[]]

/-- The text of a header's first value. -/
def text? (r : Request) (name : String) : Option String := (r.headers.first? name).bind headerText?

/-- The request asks for an upgrade to WebSocket, of the one version there is, with a key. -/
def isUpgrade (r : Request) : Bool :=
  r.method = "GET" &&
    ((r.text? "connection").map fun v =>
      (words v.toList).any fun w => sameWord (String.ofList w) "upgrade").getD false &&
    ((r.text? "upgrade").map fun v => sameWord v "websocket").getD false &&
    r.text? "sec-websocket-version" = some "13" &&
    (r.headers.first? "sec-websocket-key").isSome

end Request

end DurableSession.Handshake
