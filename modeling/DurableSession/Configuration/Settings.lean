import DurableSession.Handshake.Upgrade
import DurableSession.Document.Value
import DurableSession.Network.Address
import DurableSession.Server.Authenticator

/-!
The settings of a server, with what the server makes of them: the descriptor for its clients, the
policy on origins, and the table of accounts.
-/

namespace DurableSession.Configuration

open Handshake (Descriptor OriginPolicy)
open Network (SocketAddress)
open Server (Accounts)
open Timing (Boundary)

/-- Who the server is. -/
structure ServerSettings where
  name : String
  /-- The version that clients are told. -/
  version : String := "0.1.0"
  authenticationRequired : Bool := true
  /-- Where metrics and administration are served. -/
  metricsPort : Nat := 9090
deriving DecidableEq

/-- Where and whom the server listens to. -/
structure ListenSettings where
  address : SocketAddress
  /-- Origins that may connect; any, if there are none. -/
  allowOrigins : List String := []
  requireOrigin : Bool := false
  /-- Connections that one address may open at once. -/
  connectionBurst : Nat := 10
deriving DecidableEq

/-- Who may sign on. -/
structure AccountSettings where
  login : String
  passwordHash : String
  /-- A code that is asked for besides the password. -/
  secondaryCode : Option String := none
deriving DecidableEq

/-- How often the server looks for sessions past their window. -/
structure SweeperSettings where
  /-- Milliseconds between two sweeps. -/
  interval : Nat := 1000
deriving DecidableEq

/-- The settings of a server. -/
structure Settings where
  server : ServerSettings
  listen : ListenSettings
  boundary : Boundary := .lenient
  accounts : List AccountSettings := []
  sweeper : SweeperSettings := {}
deriving DecidableEq

/-- How an account is shown: without its hash and its code. -/
def AccountSettings.describe (a : AccountSettings) : String :=
  let code := match a.secondaryCode with
    | some _ => "Some(\"<redacted>\")"
    | none => "None"
  "AccountBlock \x7b login: " ++ Text.quoted a.login ++ ", secondary_code: " ++ code ++ ", .. \x7d"

namespace ListenSettings

def originPolicy (l : ListenSettings) : OriginPolicy := ⟨l.allowOrigins, l.requireOrigin⟩

end ListenSettings

namespace Settings

/-- The sections that hold no secrets, as they are shown. -/
def summary (s : Settings) : List (String × Document) := [
  ("server", .record [("name", .string s.server.name), ("upend_version", .string s.server.version),
    ("authentication_required", .boolean s.server.authenticationRequired),
    ("metrics_port", .nat s.server.metricsPort)]),
  ("listen", .record [("address", .string s.listen.address.text),
    ("allow_origins", .list (s.listen.allowOrigins.map .string)),
    ("require_origin", .boolean s.listen.requireOrigin),
    ("connection_burst", .nat s.listen.connectionBurst)]),
  ("time_boundary", .string s.boundary.describe),
  ("sweeper_ms", .nat s.sweeper.interval)]

/-- What clients are told when they connect. -/
def descriptor (s : Settings) : Descriptor :=
  ⟨s.server.version, s.server.authenticationRequired, s.boundary⟩

/-- The accounts by login; of two with the same login, the later one counts. -/
def accountTable (s : Settings) : Accounts :=
  s.accounts.foldl (fun t a => t.register a.login a.passwordHash a.secondaryCode) .empty

end Settings

end DurableSession.Configuration
