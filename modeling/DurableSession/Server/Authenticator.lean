import DurableSession.Server.State
import DurableSession.Password.Phc

/-!
Authenticators: whoever decides about logins and secrets, and about codes in answer to a challenge.
A table of accounts is one.
-/

namespace DurableSession.Server

open Lifecycle (Token Secret)

/-- Decides about signons. -/
structure Authenticator where
  authenticate : String → Secret → PrimaryVerdict
  verify : String → Token → Secret → Bool

/-- A login's password hash, and the code it has to give besides. -/
structure Account where
  hash : String
  code : Option String := none
deriving DecidableEq

/-- Accounts by login. -/
abbrev Accounts := Table String Account

namespace Accounts

/-- Give a login an account, in place of the one it has. -/
def register (t : Accounts) (login hash : String) (code : Option String) : Accounts :=
  t.insert login ⟨hash, code⟩

/-- Check a secret against the login's hash. -/
def authenticate (t : Accounts) (login : String) (secret : Secret) : PrimaryVerdict :=
  match t.find? login with
  | none => .denied .unknownLogin
  | some account =>
    match Password.check account.hash secret.exposed with
    | .matching => if account.code.isSome then .needsSecondary else .accepted
    | .differing | .malformed => .denied .invalidCredential

/-- Check a code against the login's. -/
def verify (t : Accounts) (login : String) (code : Secret) : Bool :=
  match t.find? login with
  | some ⟨_, some expected⟩ => expected = code.exposed
  | _ => false

/-- The authenticator that looks logins up in a table. -/
def authenticator (t : Accounts) : Authenticator :=
  ⟨t.authenticate, fun login _ code => t.verify login code⟩

end Accounts

/-- Codes by login. -/
abbrev FixedCodes := Table String String

/-- A login's code is always the same. -/
def FixedCodes.verify (t : FixedCodes) (login : String) (code : Secret) : Bool :=
  t.find? login = some code.exposed

/-- Someone who may sign on, with a secret in plain and the verdict on whoever gives it. -/
structure Member where
  login : String
  secret : String
  verdict : PrimaryVerdict
deriving DecidableEq

/-- The verdict on a secret, from a list of members. -/
def verdictOf (members : List Member) (login : String) (secret : Secret) : PrimaryVerdict :=
  match members.find? fun m => m.login = login with
  | none => .denied .unknownLogin
  | some m => if m.secret = secret.exposed then m.verdict else .denied .invalidCredential

/-- The authenticator that looks logins up in a list of members, and their codes in a table. -/
def Authenticator.ofMembers (members : List Member) (codes : FixedCodes) : Authenticator :=
  ⟨verdictOf members, fun login _ code => codes.verify login code⟩

end DurableSession.Server
