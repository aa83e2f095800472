import DurableSession.Server.Authenticator
import DurableSession.Server.Gate
import DurableSession.Server.Watchdog

/-!
A server at work: its shared state, whoever authenticates, and the sweeper.

Signons run as far as they can in the order in which they were spawned. Questions to an
authenticator may be held back; each release lets one of them through, the oldest first.
-/

namespace DurableSession.Server

open Lifecycle (SessionId Token Secret)

/-- The identifier of the `n`th session. -/
def numberedSession (n : Nat) : SessionId :=
  (SessionId.ofString? ("session-" ++ toString n ++ "-minted")).getD ⟨"session-minted", by decide⟩

/-- The token of the `n`th challenge. -/
def numberedToken (n : Nat) : Token :=
  (Token.ofString? ("token-" ++ toString n ++ "-minted")).getD ⟨"token-minted", by decide⟩

/-- A question to an authenticator, by stage and login. -/
abbrev Question := Stage × String

/-- Questions that are held back, and how many of each may pass. -/
structure Holds where
  held : List Question := []
  permits : Table Question Nat := .empty

namespace Holds

/-- Let one more question pass; the answer is whether such questions are held back at all. -/
def release (h : Holds) (q : Question) : Bool × Holds :=
  if q ∈ h.held then
    (true, { h with permits := h.permits.insert q ((h.permits.find? q).getD 0 + 1) })
  else (false, h)

/-- A question wants to pass. -/
def pass (h : Holds) (q : Question) : Bool × Holds :=
  if q ∈ h.held then
    match h.permits.find? q with
    | some (n + 1) => (true, { h with permits := h.permits.insert q n })
    | _ => (false, h)
  else (true, h)

end Holds

/-- A server at work. -/
structure Service where
  state : State
  authenticator : Authenticator
  holds : Holds := {}
  sweeper : Option Sweeper := none
  /-- How many names of signons, sessions and tokens were given out. -/
  minted : Nat := 0

namespace Service

/-- A service without channels and sessions. -/
def start (window : Nat) (a : Authenticator) (held : List Question) : Service :=
  { state := { window }, authenticator := a, holds := { held } }

def update (v : Service) (f : State → State) : Service := { v with state := f v.state }

/-- A name for the next signon. -/
def nextSignon (v : Service) : SignonId := ⟨v.minted⟩

/-- Count a name as given out. -/
def mint (v : Service) : Service := { v with minted := v.minted + 1 }

/-- Answer a signon's question, if it may pass. -/
def answer (v : Service) (id : SignonId) : Service :=
  match v.state.signons.find? id with
  | some ⟨.primary login secret _, .asking _ _⟩ =>
    match v.holds.pass (.primary, login) with
    | (false, _) => v
    | (true, holds) =>
      let verdict := v.authenticator.authenticate login secret
      { v with holds, state := v.state.answerPrimary id verdict (numberedToken v.minted) }.mint
  | some ⟨.secondary _ token code, .asking _ login⟩ =>
    match v.holds.pass (.secondary, login) with
    | (false, _) => v
    | (true, holds) =>
      let verified := v.authenticator.verify login token code
      { v with holds, state := v.state.answerSecondary id verified }
  | _ => v

/-- Run a signon as far as it can go. -/
def run (v : Service) (id : SignonId) : Service :=
  let v := match v.state.signons.find? id with
    | some ⟨_, .spawned⟩ =>
      { v with state := v.state.startSignon id (numberedSession v.minted) }.mint
    | _ => v
  v.answer id

/-- Run the sweeper, if it is due. -/
def runSweeper (v : Service) : Service :=
  match v.sweeper with
  | some w =>
    if w.due v.state.now then
      { v with sweeper := some (w.ran v.state.now), state := v.state.sweepAndGauge }
    else v
  | none => v

/-- Run everything that can run. -/
def settle (v : Service) : Service := (v.state.signons.keys.foldl run v).runSweeper

/-- Spawn a signon; the answer is its name. -/
def spawn (v : Service) (a : Attempt) : SignonId × Service :=
  (v.nextSignon, (v.update (·.spawn v.nextSignon a)).mint)

def advance (v : Service) (ms : Nat) : Service := v.update fun s => { s with now := s.now + ms }

def startSweeper (v : Service) (interval : Nat) : Service :=
  { v with sweeper := some (.start interval v.state.now) }

def stopSweeper (v : Service) : Service := { v with sweeper := none }

/-- Let one question of a login pass; the answer is whether such questions are held back at all. -/
def release (v : Service) (stage : Stage) (login : String) : Bool × Service :=
  let (held, holds) := v.holds.release (stage, login)
  (held, { v with holds })

end Service

end DurableSession.Server
