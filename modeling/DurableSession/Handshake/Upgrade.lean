import DurableSession.Handshake.Descriptor

/-!
Judging an upgrade request by its origin, and the response to it.
-/

namespace DurableSession.Handshake

/-- Which origins may connect. -/
structure OriginPolicy where
  /-- Origins that may connect; any may if there are none. -/
  allowed : List String := []
  /-- A request has to name its origin. -/
  required : Bool := false

/-- What becomes of an upgrade request. -/
inductive Verdict where
  | accept (origin : Option String)
  | reject (status : Nat) (reason : String)
deriving DecidableEq

def Verdict.describe : Verdict → String
  | accept none => "Accept"
  | accept (some origin) => "Accept (origin: " ++ origin ++ ")"
  | reject status reason => "Reject " ++ toString status ++ " - " ++ reason

/-- The origin that a request names: the first value, if it is text. -/
def originOf (h : Headers) : Option String := (h.first? "origin").bind headerText?

namespace OriginPolicy

/-- The policy admits an origin. -/
def admits (p : OriginPolicy) (origin : String) : Bool :=
  p.allowed.isEmpty || p.allowed.any fun a => a = "*" || a = origin

/-- Judge a request by its headers. -/
def judge (p : OriginPolicy) (h : Headers) : Verdict :=
  match originOf h with
  | none =>
    if p.required then .reject 403 "Origin header required" else .accept none
  | some origin =>
    if p.admits origin then .accept (some origin)
    else .reject 403 ("Origin '" ++ origin ++ "' not allowed")

end OriginPolicy

/-- A response to an upgrade request; a refusal has a body. -/
structure Response where
  status : Nat
  headers : Headers
  body : Option String := none
deriving DecidableEq

namespace Response

/-- Switching protocols, with the given headers. -/
def upgrade (h : Headers) : Response := ⟨101, h, none⟩

/-- A refusal; a status that no response can have becomes 403. -/
def refusal (status : Nat) (reason : String) : Response :=
  ⟨if 100 ≤ status ∧ status ≤ 999 then status else 403, .empty, some reason⟩

/-- Answer a request: an accepted one gets the descriptor in the headers of `base`. -/
def answer (v : Verdict) (d : Descriptor) (base : Response) : Response :=
  match v with
  | .reject status reason => refusal status reason
  | .accept _ =>
    match d.writeHeaders base.headers with
    | .ok h => { base with headers := h }
    | .error _ => refusal 500 "connection descriptor unavailable"

/-- The response accepts the upgrade. -/
def accepted (r : Response) : Bool := r.body.isNone

end Response

end DurableSession.Handshake
