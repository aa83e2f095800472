import DurableSession.Server.Record

/-!
The registry of sessions: one table of records, one of the sessions that own a login, and one of the
challenges that are open.

A signon goes through the registry in two steps, with the authenticator's answer between them:
`claim` and `concludePrimary`, or `openSecondary` and `concludeSecondary`. Anything may happen to
the record between the two, so the second step looks at it afresh. Operations answer with the
channels to be kicked; whether a channel is closed is asked through `closed`.
-/

namespace DurableSession.Server

open Lifecycle (SessionId Token Failure Secret)
open Network (SocketAddress)

/-- Records by session, owners by login, and open challenges by token. -/
structure Registry where
  sessions : Table SessionId Record := .empty
  logins : Table String SessionId := .empty
  challenges : Table Token SessionId := .empty

namespace Registry

/-! ### Looking -/

def record? (r : Registry) (s : SessionId) : Option Record := r.sessions.find? s

def stateOf (r : Registry) (s : SessionId) : Option RecordState := (r.record? s).map Record.state

/-- The session that owns a login. -/
def ownerOf (r : Registry) (login : String) : Option SessionId := r.logins.find? login

def size (r : Registry) : Nat := r.sessions.size

/-- All records, oldest first. -/
def records (r : Registry) : List Record := r.sessions.values

/-- The names of states that occur, with the number of records in each. -/
def countByState (r : Registry) : List (String × Nat) :=
  (r.records.foldl (fun t rec => t.insert rec.state.name ((t.find? rec.state.name).getD 0 + 1))
    (Table.empty : Table String Nat)).entries

/-! ### Destroying records -/

def setRecord (r : Registry) (s : SessionId) (rec : Record) : Registry :=
  { r with sessions := r.sessions.insert s rec }

/-- Forget that a session owns a login, if it does. -/
def releaseLogin (r : Registry) (login : String) (s : SessionId) : Registry :=
  if r.logins.find? login = some s then { r with logins := r.logins.erase login } else r

/-- Forget the challenge that a state names. -/
def forgetChallenge (r : Registry) (state : RecordState) : Registry :=
  match state.token? with
  | some t => { r with challenges := r.challenges.erase t }
  | none => r

/--
Take a record out of all tables; the answer is the channel it was bound to. The challenge is the one
that the record's state names at that moment.
-/
def drop (r : Registry) (s : SessionId) : Registry × Option ChannelId :=
  match r.record? s with
  | none => (r, none)
  | some rec =>
    let r := { r with sessions := r.sessions.erase s }
    ((r.releaseLogin rec.login s).forgetChallenge rec.state, rec.channel)

def markTerminated (r : Registry) (s : SessionId) : Registry :=
  { r with sessions := r.sessions.modify s fun rec => { rec with state := .terminated } }

/-- Mark a record as terminated and take it out. -/
def terminate (r : Registry) (s : SessionId) : Registry × Option ChannelId :=
  (r.markTerminated s).drop s

/-! ### Signing on -/

/--
Reserve a login for a new record. A login whose owner can be reclaimed is taken over, and the
owner's record destroyed; its channel is to be kicked.
-/
def claim (closed : ChannelId → Bool) (now : Nat) (r : Registry) (session : SessionId)
    (login : String) (channel : ChannelId) (remote : SocketAddress) :
    Except Failure (Registry × Option ChannelId) :=
  let fresh := Record.pending session login channel remote now
  let claimed : Registry :=
    { r with
      sessions := r.sessions.insert session fresh
      logins := r.logins.insert login session }
  match r.ownerOf login with
  | none => .ok (claimed, none)
  | some old =>
    if ((r.record? old).map (Record.reclaimable closed)).getD true then .ok (claimed.drop old)
    else .error .sessionAlreadyExists

/-- The state a record has to be in when its signon is granted: pending, on the same challenge. -/
def grantable (token : Option Token) (state : RecordState) : Bool :=
  match state, token with
  | .pendingPrimary, none => true
  | .pendingSecondary t, some t' => t = t'
  | _, _ => false

/--
Make a record active, if it still waits for this signon and the channel is still open; otherwise the
record is destroyed.
-/
def activate (closed : ChannelId → Bool) (now : Nat) (r : Registry) (session : SessionId)
    (channel : ChannelId) (token : Option Token) : Outcome × Registry :=
  match r.record? session with
  | none => (.denied .unknownSession, r)
  | some rec =>
    if grantable token rec.state && !closed channel then
      (.accepted session rec.login,
        r.setRecord session { rec with state := .active, lastActiveAt := now })
    else (.denied .unknownSession, (r.drop session).1)

/-- Act on the primary authenticator's verdict; `fresh` is the token of a challenge, should one be
due. -/
def concludePrimary (closed : ChannelId → Bool) (now : Nat) (r : Registry) (session : SessionId)
    (channel : ChannelId) (verdict : PrimaryVerdict) (fresh : Token) : Outcome × Registry :=
  match verdict with
  | .accepted => r.activate closed now session channel none
  | .needsSecondary =>
    match r.record? session with
    | none => (.denied .unknownSession, r)
    | some rec =>
      if rec.state = .pendingPrimary then
        let r := r.setRecord session { rec with state := .pendingSecondary fresh }
        (.needsSecondary fresh, { r with challenges := r.challenges.insert fresh session })
      else (.denied .unknownSession, r)
  | .denied failure => (.denied failure, (r.drop session).1)

/-- What the secondary authenticator is asked about. -/
structure SecondaryQuestion where
  session : SessionId
  login : String
deriving DecidableEq

/--
Take up the answer to a challenge. A token counts once: whatever comes of it, its challenge is gone.
The answer has to come from the channel that was challenged and must not be empty.
-/
def openSecondary (r : Registry) (channel : ChannelId) (token : Token) (code : Secret) :
    Except Failure SecondaryQuestion × Registry :=
  match r.challenges.find? token with
  | none => (.error .incorrectSecondaryCode, r)
  | some session =>
    let r := { r with challenges := r.challenges.erase token }
    match r.record? session with
    | none => (.error .incorrectSecondaryCode, r)
    | some rec =>
      if rec.state ≠ .pendingSecondary token ∨ rec.channel ≠ some channel then
        (.error .incorrectSecondaryCode, (r.drop session).1)
      else if code.isEmpty then (.error .missingSecondaryCode, (r.drop session).1)
      else (.ok ⟨session, rec.login⟩, r)

/-- Act on the secondary authenticator's answer. -/
def concludeSecondary (closed : ChannelId → Bool) (now : Nat) (r : Registry) (session : SessionId)
    (channel : ChannelId) (token : Token) (verified : Bool) : Outcome × Registry :=
  if verified then r.activate closed now session channel (some token)
  else (.denied .incorrectSecondaryCode, (r.drop session).1)

/-! ### Resuming and closing -/

/--
Bind a session to another channel without a signon: within the window after it was disconnected, or
when the channel it is bound to is closed already. The answer is its login.
-/
def reuse (closed : ChannelId → Bool) (window now : Nat) (r : Registry) (session : SessionId)
    (channel : ChannelId) (remote : SocketAddress) : Except RegistryError String × Registry :=
  match r.record? session with
  | none => (.error .unknownSession, r)
  | some rec =>
    let bound := r.setRecord session
      { rec with state := .active, channel := some channel, remote := remote, lastActiveAt := now }
    match rec.state with
    | .reusable =>
      if rec.inactive window now then (.error .sessionExpired, (r.terminate session).1)
      else (.ok rec.login, bound)
    | .active =>
      if rec.unattended closed then (.ok rec.login, bound) else (.error .sessionNotReusable, r)
    | .terminated => (.error .unknownSession, r)
    | _ => (.error .sessionNotReusable, r)

/--
A channel that carried a session is gone; nothing happens unless the session is still bound to it. A
session that was signed off, or was not active yet, ends.
-/
def close (now : Nat) (r : Registry) (channel : ChannelId) (session : SessionId)
    (signedOff : Bool) : Registry :=
  match r.record? session with
  | none => r
  | some rec =>
    if rec.channel ≠ some channel then r
    else if signedOff ∨ rec.state ≠ .active then (r.terminate session).1
    else r.setRecord session (rec.disconnect now)

/-- A channel is gone while signons on it may be under way: close every record bound to it. -/
def releaseChannel (now : Nat) (r : Registry) (channel : ChannelId) : Registry :=
  r.sessions.keys.foldl (fun r s => r.close now channel s false) r

/-- Destroy a session; the answer is whether there was one, and the channel to be kicked. -/
def kickout (r : Registry) (session : SessionId) : Bool × Registry × Option ChannelId :=
  match r.record? session with
  | none => (false, r, none)
  | some _ => (true, r.terminate session)

/-! ### Sweeping -/

/-- A record that a sweep destroys. -/
def isStale (window now : Nat) (rec : Record) : Bool :=
  match rec.state with
  | .reusable => rec.inactive window now
  | .pendingPrimary | .pendingSecondary _ => rec.overdue window now
  | .terminated => true
  | .active => false

/-- What a sweep does to a record that stays: an active one without open channel starts to wait. -/
def refreshed (closed : ChannelId → Bool) (now : Nat) (rec : Record) : Record :=
  if rec.state = .active ∧ rec.unattended closed then rec.disconnect now else rec

/-- Mark a record that is stale and refresh one that is not. -/
def sweepRecord (closed : ChannelId → Bool) (window now : Nat) (rec : Record) : Record :=
  if isStale window now rec then { rec with state := .terminated } else refreshed closed now rec

/-- Drop records one after the other; the answer holds their channels. -/
def dropAll (r : Registry) : List SessionId → Registry × List ChannelId
  | [] => (r, [])
  | s :: rest =>
    let (r, channel) := r.drop s
    let (r, channels) := dropAll r rest
    (r, channel.toList ++ channels)

/-- The sessions that a sweep destroys. -/
def staleSessions (window now : Nat) (r : Registry) : List SessionId :=
  (r.records.filter (isStale window now)).map Record.session

/--
Destroy what is past its window, disconnected or stuck in a signon. All records are looked at before
the first is destroyed. The answer holds the number destroyed and the channels to be kicked.
-/
def sweep (closed : ChannelId → Bool) (window now : Nat) (r : Registry) :
    Nat × Registry × List ChannelId :=
  let stale := r.staleSessions window now
  let marked := r.sessions.keys.foldl
    (fun t s => t.modify s (sweepRecord closed window now)) r.sessions
  let (swept, channels) := { r with sessions := marked }.dropAll stale
  (stale.length, swept, channels)

end Registry

end DurableSession.Server
