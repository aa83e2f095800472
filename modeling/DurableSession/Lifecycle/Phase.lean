import DurableSession.Lifecycle.Identifier
import DurableSession.Lifecycle.Failure
import DurableSession.Document.Json.Writer

/-!
Phases: the frames by which a client signs on, resumes a session or signs off, and by which the
server answers.
-/

namespace DurableSession.Lifecycle

/-- A lifecycle frame. -/
inductive Phase where
  | signonAttempt (login : String) (secret : Secret)
  | secondarySignonNeeded (token : Token)
  | secondarySignonAttempt (token : Token) (code : Secret)
  | resumeSession (session : SessionId)
  | sessionValid (session : SessionId)
  | signonFailureNotice (failure : Failure)
  | signoff
deriving DecidableEq

/-- Who sends a phase. -/
inductive Direction where
  /-- From the client. -/
  | upward
  /-- From the server. -/
  | downward
deriving DecidableEq

def Direction.describe : Direction → String
  | upward => "Upward"
  | downward => "Downward"

/-- The kinds of phases, without what they carry. -/
inductive PhaseKind where
  | signonAttempt
  | secondarySignonNeeded
  | secondarySignonAttempt
  | resumeSession
  | sessionValid
  | signonFailureNotice
  | signoff
deriving DecidableEq

namespace PhaseKind

def all : List PhaseKind :=
  [.signonAttempt, .secondarySignonNeeded, .secondarySignonAttempt, .resumeSession, .sessionValid,
    .signonFailureNotice, .signoff]

/-- The name on the wire. -/
def wire : PhaseKind → String
  | signonAttempt => "signon_attempt"
  | secondarySignonNeeded => "secondary_signon_needed"
  | secondarySignonAttempt => "secondary_signon_attempt"
  | resumeSession => "resume_session"
  | sessionValid => "session_valid"
  | signonFailureNotice => "signon_failure_notice"
  | signoff => "signoff"

/-- How the kind is called in messages. -/
def title : PhaseKind → String
  | signonAttempt => "SignonAttempt"
  | secondarySignonNeeded => "SecondarySignonNeeded"
  | secondarySignonAttempt => "SecondarySignonAttempt"
  | resumeSession => "ResumeSession"
  | sessionValid => "SessionValid"
  | signonFailureNotice => "SignonFailureNotice"
  | signoff => "Signoff"

/-- The names of what a phase of the kind carries, in order. -/
def fields : PhaseKind → List String
  | signonAttempt => ["login", "secret"]
  | secondarySignonNeeded => ["token"]
  | secondarySignonAttempt => ["token", "code"]
  | resumeSession => ["session"]
  | sessionValid => ["session"]
  | signonFailureNotice => ["failure"]
  | signoff => []

def direction : PhaseKind → Direction
  | signonAttempt | secondarySignonAttempt | resumeSession | signoff => .upward
  | secondarySignonNeeded | sessionValid | signonFailureNotice => .downward

/-- The kind with a name on the wire. -/
def ofWire? (s : String) : Option PhaseKind := all.find? fun k => k.wire = s

theorem ofWire?_wire (k : PhaseKind) : ofWire? k.wire = some k := by cases k <;> decide

/-- The kind with a name on the wire, or the names there are. -/
def ofName (s : String) : Except Mismatch PhaseKind :=
  match ofWire? s with
  | some k => .ok k
  | none => .error (.unknownVariant s (all.map wire))

/-- The kind that a document names. -/
def ofDocument : Document → Except Mismatch PhaseKind
  | .string s => ofName s
  | d => .error (.wrongType d.shape "variant identifier")

end PhaseKind

namespace Phase

def kind : Phase → PhaseKind
  | signonAttempt .. => .signonAttempt
  | secondarySignonNeeded .. => .secondarySignonNeeded
  | secondarySignonAttempt .. => .secondarySignonAttempt
  | resumeSession .. => .resumeSession
  | sessionValid .. => .sessionValid
  | signonFailureNotice .. => .signonFailureNotice
  | signoff => .signoff

/-- What the phase carries, in the order of its kind's fields. -/
def contents : Phase → List Document
  | signonAttempt login secret => [.string login, .string secret.exposed]
  | secondarySignonNeeded token => [.string token.text]
  | secondarySignonAttempt token code => [.string token.text, .string code.exposed]
  | resumeSession session => [.string session.text]
  | sessionValid session => [.string session.text]
  | signonFailureNotice failure => [.string failure.wire]
  | signoff => []

/-- A record of the kind's name and what the phase carries. -/
def toDocument (p : Phase) : Document :=
  .record (("phase", .string p.kind.wire) :: p.kind.fields.zip p.contents)

/-- How a phase is shown, with its secrets left out. -/
def describe : Phase → String
  | signonAttempt login secret =>
    "SignonAttempt \x7b login: " ++ Text.quoted login ++ ", secret: " ++ secret.describe ++ " \x7d"
  | secondarySignonNeeded token =>
    "SecondarySignonNeeded \x7b token: " ++ token.describe ++ " \x7d"
  | secondarySignonAttempt token code =>
    "SecondarySignonAttempt \x7b token: " ++ token.describe ++ ", code: " ++ code.describe ++
      " \x7d"
  | resumeSession session => "ResumeSession \x7b session: " ++ session.describe ++ " \x7d"
  | sessionValid session => "SessionValid \x7b session: " ++ session.describe ++ " \x7d"
  | signonFailureNotice failure =>
    "SignonFailureNotice \x7b failure: " ++ failure.describe ++ " \x7d"
  | signoff => "Signoff"

end Phase

end DurableSession.Lifecycle
