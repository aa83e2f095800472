import DurableSession.Document.Json.Reader

/-!
Why a signon or the resumption of a session was refused, with the words in which that is said on the
wire, in metrics and in messages.
-/

namespace DurableSession.Lifecycle

/-- Why a signon or a resumption was refused. -/
inductive Failure where
  | unknownLogin
  | invalidCredential
  | sessionAlreadyExists
  | missingSecondaryCode
  | incorrectSecondaryCode
  /-- The session to resume is unknown or expired. -/
  | unknownSession
  /-- The session to resume is still bound to a channel that seems alive. -/
  | sessionBusy
deriving DecidableEq, Repr

namespace Failure

def all : List Failure :=
  [.unknownLogin, .invalidCredential, .sessionAlreadyExists, .missingSecondaryCode,
    .incorrectSecondaryCode, .unknownSession, .sessionBusy]

/-- The name on the wire. -/
def wire : Failure → String
  | unknownLogin => "UNKNOWN_LOGIN"
  | invalidCredential => "INVALID_CREDENTIAL"
  | sessionAlreadyExists => "SESSION_ALREADY_EXISTS"
  | missingSecondaryCode => "MISSING_SECONDARY_CODE"
  | incorrectSecondaryCode => "INCORRECT_SECONDARY_CODE"
  | unknownSession => "UNKNOWN_SESSION"
  | sessionBusy => "SESSION_BUSY"

/-- The label in metrics. -/
def code : Failure → String
  | unknownLogin => "unknown_login"
  | invalidCredential => "invalid_credential"
  | sessionAlreadyExists => "session_already_exists"
  | missingSecondaryCode => "missing_secondary_code"
  | incorrectSecondaryCode => "incorrect_secondary_code"
  | unknownSession => "unknown_session"
  | sessionBusy => "session_busy"

def message : Failure → String
  | unknownLogin => "unknown login"
  | invalidCredential => "invalid credential"
  | sessionAlreadyExists => "session already exists"
  | missingSecondaryCode => "missing secondary code"
  | incorrectSecondaryCode => "incorrect secondary code"
  | unknownSession => "unknown session"
  | sessionBusy => "session busy"

def describe : Failure → String
  | unknownLogin => "UnknownLogin"
  | invalidCredential => "InvalidCredential"
  | sessionAlreadyExists => "SessionAlreadyExists"
  | missingSecondaryCode => "MissingSecondaryCode"
  | incorrectSecondaryCode => "IncorrectSecondaryCode"
  | unknownSession => "UnknownSession"
  | sessionBusy => "SessionBusy"

/-- The failure with a name on the wire. -/
def ofWire? (s : String) : Option Failure := all.find? fun f => f.wire = s

theorem ofWire?_wire (f : Failure) : ofWire? f.wire = some f := by cases f <;> decide

/-- The failure with a name on the wire, or the names there are. -/
def ofName (s : String) : Except Mismatch Failure :=
  match ofWire? s with
  | some f => .ok f
  | none => .error (.unknownVariant s (all.map wire))

/-- What stands beside a failure's name in a record has to be nothing. -/
def asNothing : Document → Except Mismatch Unit
  | .null => .ok ()
  | d => .error (.wrongType d.shape "unit")

/-- Inside another document: a name, or a record of the name with nothing beside it. -/
def ofDocument : Document → Except Mismatch Failure
  | .string s => ofName s
  | .record [(name, d)] =>
    match ofName name with
    | .error m => .error m
    | .ok f =>
      match d with
      | .record [] => .ok f
      | d =>
        match asNothing d with
        | .ok () => .ok f
        | .error m => .error m
  | .record _ => .error (.wrongValue .map "map with a single key")
  | d => .error (.wrongType d.shape "string or map")

open Json in
/-- The record form at the front of a text, read behind its opening brace. -/
def readRecord (rest : List Char) : Except Json.Error (Failure × List Char) :=
  let named (d : Draft) : Except Json.Error Failure :=
    d.plain fun
      | .string s => ofName s
      | d => .error (.wrongType d.shape "variant identifier")
  match readValue (enoughFuel rest) (maxDepth - 1) rest with
  | .broken d => do
    let _ ← named d
    .error (.fault .truncated)
  | .done d rest => do
    let f ← named (.whole d)
    match skipBlanks rest with
    | [] => .error (.fault .truncated)
    | ':' :: rest =>
      match readValue (enoughFuel rest) (maxDepth - 1) rest with
      | .broken d => do
        let _ ← d.plain asNothing
        .error (.fault .truncated)
      | .done d rest => do
        let _ ← (Draft.whole d).plain asNothing
        match skipBlanks rest with
        | [] => .error (.fault .truncated)
        | '\x7d' :: rest => return (f, rest)
        | _ => .error (.fault .malformed)
    | _ => .error (.fault .malformed)

open Json in
/-- A text that is a failure: its name as a string, or a record of the name and null. -/
def ofText (text : String) : Except Json.Error Failure := do
  let (f, rest) ← match skipBlanks text.toList with
    | [] => .error (.fault .truncated)
    | '"' :: rest =>
      match readString [] .text rest with
      | .error f => .error (.fault f)
      | .ok (s, rest) =>
        match ofName s with
        | .ok f => .ok (f, rest)
        | .error m => .error (.mismatch m)
    | '\x7b' :: rest => readRecord rest
    | _ => .error (.fault .malformed)
  if (skipBlanks rest).isEmpty then return f else .error (.fault .malformed)

end Failure

end DurableSession.Lifecycle
