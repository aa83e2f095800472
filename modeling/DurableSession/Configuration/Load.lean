import DurableSession.Configuration.Settings
import DurableSession.Document.Section
import DurableSession.Document.Toml.Reader
import DurableSession.Text.Utf8
import DurableSession.Timing.Flat

/-!
Loading settings from the content of a TOML file.

The sections `server` and `listen` have to be there, with a name and an address; all else has
defaults. Members that no section knows are passed over, except in a time boundary.
-/

namespace DurableSession.Configuration

open Network (SocketAddress)
open Timing (Boundary)

/-- Why settings were not loaded. -/
inductive LoadError where
  /-- There is no file, or it is not UTF-8. -/
  | unreadable
  /-- The text is no TOML. -/
  | malformed
  | mismatch (m : Mismatch)

def LoadError.message : LoadError → String
  | unreadable => "failed to read config file"
  | malformed => "failed to parse config"
  | mismatch m => "failed to parse config: " ++ m.message .plain

/-- The address that a document names. -/
def readAddress (d : Document) : Except Mismatch SocketAddress :=
  match d with
  | .string s =>
    match SocketAddress.parse? s with
    | some a => .ok a
    | none => .error (.refused "invalid socket address syntax")
  | d => .error (.wrongType d.shape "socket address")

def readEach {α : Type} (read : Document → Except Mismatch α) : List Document →
    Except Mismatch (List α)
  | [] => .ok []
  | d :: rest =>
    match read d with
    | .error m => .error m
    | .ok a => (readEach read rest).map (a :: ·)

/-- A list of values of one kind. -/
def readList {α : Type} (read : Document → Except Mismatch α) (d : Document) :
    Except Mismatch (List α) :=
  match d.asList with
  | .error m => .error m
  | .ok ds => readEach read ds

def ServerSettings.fields : List (Field ServerSettings) := [
  { name := "name", required := true
    read := fun d s => d.asString.map fun name => { s with name } },
  { name := "upend_version"
    read := fun d s => d.asString.map fun version => { s with version } },
  { name := "authentication_required"
    read := fun d s =>
      d.asBoolean.map fun required => { s with authenticationRequired := required } },
  { name := "metrics_port"
    read := fun d s => (d.asUnsigned (Nat.pow 2 16 - 1) "u16").map fun port =>
      { s with metricsPort := port } }]

def ServerSettings.ofDocument : Document → Except Mismatch ServerSettings :=
  Field.readSection "struct ServerConfig" fields { name := "" }

def ListenSettings.fields : List (Field ListenSettings) := [
  { name := "address", required := true
    read := fun d s => (readAddress d).map fun address => { s with address } },
  { name := "allow_origins"
    read := fun d s => (readList Document.asString d).map fun l => { s with allowOrigins := l } },
  { name := "require_origin"
    read := fun d s => d.asBoolean.map fun required => { s with requireOrigin := required } },
  { name := "connection_burst"
    read := fun d s =>
      (d.asUnsigned (Nat.pow 2 32 - 1) "u32").map fun burst =>
        { s with connectionBurst := burst } }]

def ListenSettings.ofDocument : Document → Except Mismatch ListenSettings :=
  Field.readSection "struct ListenConfig" fields { address := ⟨.v4 0 0 0 0, 0, 0⟩ }

def AccountSettings.fields : List (Field AccountSettings) := [
  { name := "login", required := true
    read := fun d s => d.asString.map fun login => { s with login } },
  { name := "password_hash", required := true
    read := fun d s => d.asString.map fun hash => { s with passwordHash := hash } },
  { name := "secondary_code"
    read := fun d s => d.asString.map fun code => { s with secondaryCode := some code } }]

def AccountSettings.ofDocument : Document → Except Mismatch AccountSettings :=
  Field.readSection "struct AccountBlock" fields { login := "", passwordHash := "" }

def SweeperSettings.fields : List (Field SweeperSettings) := [
  { name := "interval_ms"
    read := fun d s => (d.asUnsigned Text.maxWord "u64").map fun interval => { s with interval } }]

def SweeperSettings.ofDocument : Document → Except Mismatch SweeperSettings :=
  Field.readSection "struct SweeperConfig" fields {}

namespace Settings

/-- The sections of a file. -/
def fields : List (Field Settings) := [
  { name := "server", required := true
    read := fun d s => (ServerSettings.ofDocument d).map fun server => { s with server } },
  { name := "listen", required := true
    read := fun d s => (ListenSettings.ofDocument d).map fun listen => { s with listen } },
  { name := "time_boundary"
    read := fun d s => (Boundary.ofDocument d).map fun boundary => { s with boundary } },
  { name := "account"
    read := fun d s =>
      (readList AccountSettings.ofDocument d).map fun accounts => { s with accounts } },
  { name := "sweeper"
    read := fun d s => (SweeperSettings.ofDocument d).map fun sweeper => { s with sweeper } }]

def ofDocument : Document → Except Mismatch Settings :=
  Field.readSection "struct Config" fields
    { server := { name := "" }, listen := { address := ⟨.v4 0 0 0 0, 0, 0⟩ } }

/-- The settings in the text of a file. -/
def ofText (text : String) : Except LoadError Settings :=
  match Toml.parse? text with
  | none => .error .malformed
  | some d =>
    match ofDocument d with
    | .ok s => .ok s
    | .error m => .error (.mismatch m)

/-- The settings in the content of a file, if there is one. -/
def load (content : Option (List UInt8)) : Except LoadError Settings :=
  match content.bind Text.fromUtf8? with
  | none => .error .unreadable
  | some text => ofText text

end Settings

end DurableSession.Configuration
