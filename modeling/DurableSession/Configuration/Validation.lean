import DurableSession.Configuration.Settings

/-!
Problems of settings that can be loaded but not worked with. All of them are found at once, so that
they can be mended at once.
-/

namespace DurableSession.Configuration

/-- Why settings cannot be worked with. -/
inductive Problem where
  | missingServerName
  /-- The version could not be told to clients. -/
  | invalidVersion (version : String)
  /-- Authentication is required, and nobody could sign on. -/
  | noAccounts
  | emptyLogin
  | duplicateAccount (login : String)
  | invalidPasswordHash (login : String)
  | emptySecondaryCode (login : String)
  | zeroConnectionBurst
  | zeroSweepInterval
deriving DecidableEq, Repr

def Problem.name : Problem → String
  | missingServerName => "MissingServerName"
  | invalidVersion _ => "InvalidUpendVersion"
  | noAccounts => "NoAccounts"
  | emptyLogin => "EmptyLogin"
  | duplicateAccount _ => "DuplicateAccount"
  | invalidPasswordHash _ => "InvalidPasswordHash"
  | emptySecondaryCode _ => "EmptySecondaryCode"
  | zeroConnectionBurst => "ZeroConnectionBurst"
  | zeroSweepInterval => "ZeroSweepInterval"

def Problem.message : Problem → String
  | missingServerName => "server.name is required"
  | invalidVersion version =>
    "server.upend_version must be a non-empty visible ASCII string, got '" ++ version ++ "'"
  | noAccounts => "server.authentication_required is set but no [[account]] is defined"
  | emptyLogin => "account login must not be empty"
  | duplicateAccount login => "account '" ++ login ++ "' is defined more than once"
  | invalidPasswordHash login =>
    "account '" ++ login ++ "' has a password_hash that is not a PHC string"
  | emptySecondaryCode login => "account '" ++ login ++ "' has an empty secondary_code"
  | zeroConnectionBurst => "listen.connection_burst must be at least 1"
  | zeroSweepInterval => "sweeper.interval_ms must be at least 1"

/-- A version is not empty and of visible ASCII characters or spaces. -/
def isVersion (s : String) : Bool :=
  s ≠ "" && s.toList.all fun c => 32 ≤ c.toNat && c.toNat ≤ 126

/-- A problem, if there is one. -/
def found (there : Bool) (p : Problem) : List Problem := if there then [p] else []

theorem mem_found {there : Bool} {p q : Problem} : q ∈ found there p ↔ there = true ∧ q = p := by
  cases there <;> simp [found]

theorem found_eq_nil {there : Bool} {p : Problem} : found there p = [] ↔ there = false := by
  cases there <;> simp [found]

/-- The problems of accounts; `seen` holds the logins before them. One without login is looked at no
further. -/
def accountProblems (seen : List String) : List AccountSettings → List Problem
  | [] => []
  | a :: rest =>
    if a.login = "" then .emptyLogin :: accountProblems seen rest
    else
      found (a.login ∈ seen) (.duplicateAccount a.login) ++
        found (!Password.Phc.isPhc a.passwordHash) (.invalidPasswordHash a.login) ++
        found (a.secondaryCode = some "") (.emptySecondaryCode a.login) ++
        accountProblems (a.login :: seen) rest

namespace Settings

/-- All problems, in the order in which they are reported. -/
def problems (s : Settings) : List Problem :=
  found (s.server.name = "") .missingServerName ++
    found (!isVersion s.server.version) (.invalidVersion s.server.version) ++
    found (s.server.authenticationRequired && s.accounts.isEmpty) .noAccounts ++
    accountProblems [] s.accounts ++
    found (s.listen.connectionBurst = 0) .zeroConnectionBurst ++
    found (s.sweeper.interval = 0) .zeroSweepInterval

/-- The settings can be worked with. -/
def isValid (s : Settings) : Bool := s.problems.isEmpty

end Settings

end DurableSession.Configuration
