import DurableSession.Lifecycle.Identifier
import DurableSession.Lifecycle.Failure

/-!
Credentials for a signon, and whoever supplies them.
-/

namespace DurableSession.Client

open Lifecycle (Secret Token Failure)

/-- What a client signs on with. -/
structure Credentials where
  login : String
  secret : Secret
deriving DecidableEq

def Credentials.describe (c : Credentials) : String :=
  "Credentials \x7b login: " ++ Text.quoted c.login ++ ", .. \x7d"

/-- The same credentials every time, perhaps with a code; there is no second attempt. -/
structure FixedCredentials where
  credentials : Credentials
  code : Option Secret := none

/-- What a supplier of credentials is asked for. -/
inductive Request where
  | credentials
  | secondaryCode (token : Token)
  /-- Credentials for another attempt, after this failure. -/
  | signonFailed (failure : Failure)
deriving DecidableEq

/-- What it answers. -/
inductive Supply where
  | credentials (c : Option Credentials)
  | code (c : Option Secret)
deriving DecidableEq

def FixedCredentials.supply (f : FixedCredentials) : Request → Supply
  | .credentials => .credentials (some f.credentials)
  | .secondaryCode _ => .code f.code
  | .signonFailed _ => .credentials none

end DurableSession.Client
