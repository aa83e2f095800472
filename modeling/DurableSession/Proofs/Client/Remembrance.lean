import DurableSession.Proofs.Client.Conduct
import DurableSession.Proofs.Client.Numbers

/-!
The session that a connector remembers.

A connector takes a session for its own when its server accepts a signon, and lets go of it when the
user signs off. While it is signed in there is one other frame that makes it forget: the server
calls the session unknown, which is acted on whatever the status is. So a connector that is signed
in remembers its session exactly as long as no such frame has come on its link. Main statements:
`recalls_step`, and `remembrance_after` by induction over the moments.
-/

namespace DurableSession.Client

open Lifecycle (Phase SessionId Failure)
open Handshake (Descriptor)

/-- On this link, the server calls the session unknown. -/
def Moment.disowns (here : LinkId) : Moment → Bool
  | event (.text link text) =>
    link = here && match Phase.decodeText text with
      | some (.ok (.signonFailureNotice .unknownSession)) => true
      | _ => false
  | _ => false

theorem Moment.disowns_iff {here : LinkId} {m : Moment} : m.disowns here = true ↔
    ∃ text, m = .event (.text here text) ∧
      Phase.decodeText text = some (.ok (.signonFailureNotice .unknownSession)) := by
  constructor
  · intro h
    unfold disowns at h
    split at h
    · next link text =>
      simp only [Bool.and_eq_true, decide_eq_true_eq] at h
      obtain ⟨rfl, h⟩ := h
      refine ⟨text, rfl, ?_⟩
      split at h
      · next he => exact he
      · cases h
    · cases h
  · rintro ⟨text, rfl, htext⟩
    simp [disowns, htext]

namespace Connector

variable {c c' : Connector} {m : Moment}

/-! ### What is remembered -/

/-- The session that is published, and the one that would be resumed. -/
def memory (c : Connector) : Option SessionId × Option Resume := (c.session, c.resume)

theorem Alike.memory_eq (h : Alike c c') : c'.memory = c.memory := Prod.ext h.session h.resume

theorem memory_take (r : Except SnapshotError (Snapshot LinkId)) :
    (c.take r).2.memory = c.memory := by
  cases r <;> rfl

theorem memory_loseChannel : c.loseChannel.memory = c.memory := by
  obtain ⟨timer, timers, -, heq⟩ := loseChannel_eq c
  rw [heq, memory_take]
  rfl

theorem memory_finishStop : c.finishStop.memory = c.memory := by
  unfold finishStop
  split
  · dsimp only
    split
    · exact (steady_complete _).memory_eq
    · rfl
  · rfl

theorem memory_start : c.onStart.2.memory = c.memory := by
  unfold onStart newSignal
  dsimp only
  split
  · rfl
  · exact steady_redial.memory_eq

theorem memory_stop : c.onStop.2.memory = c.memory := by
  rcases onStop_eq c with ⟨e, heq⟩ | ⟨s, completed, more, -, -, -, heq⟩
  · rw [heq]
  · rw [heq]
    dsimp only
    split
    · rfl
    · exact memory_finishStop

theorem memory_emergencyStop : c.onEmergencyStop.2.memory = c.memory := by
  unfold onEmergencyStop
  split
  · rfl
  · have hbefore : Steady c c.cancelTimers.cancelDial := steady_cancelTimers.trans steady_cancelDial
    dsimp only
    generalize c.cancelTimers.cancelDial = c₁ at hbefore ⊢
    have hrest (signal : Signal) : Steady { c₁ with pendingLogin := none }
        (({ c₁ with pendingLogin := none } : Connector).closeLink.completeStart.complete signal) :=
      (steady_closeLink.trans steady_completeStart).trans (steady_complete _)
    exact (hrest _).memory_eq.trans hbefore.memory_eq

theorem memory_beginSignon : c.beginSignon.memory = c.memory := by
  unfold beginSignon
  split
  · split
    · exact steady_completeStart.memory_eq
    · split
      · rfl
      · exact alike_ask.memory_eq
  · rfl

theorem memory_dialed (d : DialId) (result : Option Descriptor) :
    (c.handle (.dialed d result)).memory = c.memory := by
  by_cases hd : c.dial = some d
  · by_cases hs : c.snapshot.status = .connecting
    · cases result with
      | none =>
        have heq : c.handle (.dialed d none) =
            ({ c with dial := none } : Connector).onDialFailed := by
          simp [handle, onDialed, hd, hs]
        rw [heq]
        exact memory_take _
      | some server =>
        obtain ⟨s, timers, -, -, -, heq⟩ := exists_beginSignon hd hs server
        rw [heq, memory_beginSignon]
        rfl
    · have heq : c.handle (.dialed d result) = { c with dial := none } := by
        simp [handle, onDialed, hd, hs]
      rw [heq]
      rfl
  · have heq : c.handle (.dialed d result) = c := if_pos hd
    rw [heq]

theorem memory_linkClosed (link : LinkId) : (c.onLinkClosed link).memory = c.memory := by
  unfold onLinkClosed
  split
  · rfl
  · split
    · exact memory_finishStop
    · exact memory_loseChannel

theorem memory_timer (id : TimerId) (kind : TimerKind) : (c.onTimer id kind).memory = c.memory := by
  unfold onTimer
  split
  · split
    · rfl
    · exact memory_take _
  · exact memory_loseChannel.trans steady_closeLink.memory_eq
  · exact steady_redial.memory_eq
  · rfl

theorem memory_step (hsignoff : m ≠ .command .signoff)
    (htext : ∀ link text, m ≠ .event (.text link text)) :
    (c.step m).memory = c.memory := by
  cases m with
  | command k =>
    cases k with
    | start => exact memory_start
    | stop => exact memory_stop
    | emergencyStop => exact memory_emergencyStop
    | signoff => exact absurd rfl hsignoff
  | send text =>
    change (c.send text).2.memory = c.memory
    unfold send
    split <;> rfl
  | advance ms => rfl
  | event e =>
    change (c.handle e).memory = c.memory
    cases e with
    | dialed d result => exact memory_dialed d result
    | text link text => exact absurd rfl (htext link text)
    | pong link =>
      unfold handle
      dsimp only
      split
      · exact steady_pong.memory_eq
      · rfl
    | linkClosed link => exact memory_linkClosed link
    | credentials link supplied =>
      unfold handle onCredentials
      dsimp only
      split
      · rfl
      · cases supplied <;> rfl
    | secondaryCode link token supplied =>
      unfold handle onSecondaryCode
      dsimp only
      split
      · rfl
      · cases supplied <;> rfl
    | timerFired id kind => exact memory_timer id kind

/-! ### What a moment does to it -/

theorem Turn.still_signedIn {o : Option (Command × Signal)} (ht : Turn c m o c')
    (htext : ∀ link text, m ≠ .event (.text link text)) (hs : c'.snapshot.status = .signedIn) :
    c.snapshot.status = .signedIn ∧ c'.link? = c.link? ∧ c'.snapshot.parts.login =
      c.snapshot.parts.login := by
  cases ht with
  | idle aside =>
    cases aside
    exact ⟨hs, rfl, rfl⟩
  | redialed | misled => exact ⟨hs, rfl, rfl⟩
  | pinged _ _ parts | ponged _ _ parts =>
    have hs : c.snapshot.status = .signedIn := by simpa [Snapshot.status, parts] using hs
    exact ⟨hs, congrArg (fun p => p.channel) parts, congrArg (fun p => p.login) parts⟩
  | signedIn => exact absurd rfl (htext _ _)
  | failed _ status parts =>
    have hstatus : c.snapshot.parts.status = .connecting := status
    simp [Snapshot.status, parts, hstatus] at hs
  | started _ parts | stopping _ _ _ parts | halted _ _ parts | abandoned _ _ parts =>
    simp [Snapshot.status, parts] at hs
  | stopped _ _ parts | opened _ _ parts | lost _ parts => simp [Snapshot.status, parts] at hs

/-- **What a moment does to the session** that the connector remembers. -/
inductive Recalls (c : Connector) (m : Moment) (c' : Connector) : Prop where
  /-- It is kept: if the connector is signed in, then it was so before, and no frame on its link
  called the session unknown while there was one. -/
  | kept (memory : c'.memory = c.memory)
      (owned : ∀ link, c.link? = some link → m.disowns link = true → c.resume = none)
      (signedIn : c'.snapshot.status = .signedIn →
        c.snapshot.status = .signedIn ∧ c'.link? = c.link? ∧ c'.snapshot.parts.login =
        c.snapshot.parts.login)
  /-- The server accepts a signon, or a resumption. -/
  | accepted {link : LinkId} {text : String} {x : SessionId} {login : String}
      (moment : m = .event (.text link text))
      (valid : Phase.decodeText text = some (.ok (.sessionValid x)))
      (waiting : c.snapshot.status = .connected)
      (before : c.link? = some link) (after : c'.link? = some link)
      (named : c'.snapshot.parts.login = some login)
      (memory : c'.memory = (some x, some ⟨x, login⟩))
  /-- The server calls the session unknown. -/
  | disowned {link : LinkId} (before : c.link? = some link) (disowns : m.disowns link = true)
      (status : c'.snapshot.status = c.snapshot.status) (after : c'.link? = c.link?)
      (named : c'.snapshot.parts.login = c.snapshot.parts.login) (memory : c'.memory = (none, none))
  /-- The user signs off. -/
  | signedOff (moment : m = .command .signoff) (before : c.snapshot.status = .signedIn)
      (status : c'.snapshot.status = .stopping)

section Steps

variable {link : LinkId} {text : String}

theorem recalls_other (h : c.Tidy) (hsignoff : m ≠ .command .signoff)
    (htext : ∀ link text, m ≠ .event (.text link text)) :
    Recalls c m (c.step m) := by
  refine .kept (memory_step hsignoff htext) (fun link _ hm => ?_) fun hs =>
    (turn h m).still_signedIn htext hs
  obtain ⟨text, rfl, -⟩ := Moment.disowns_iff.1 hm
  exact absurd rfl (htext link text)

theorem recalls_alike (h : Alike c c')
    (hunknown : Phase.decodeText text = some (.ok (.signonFailureNotice .unknownSession)) →
      c.resume = none) :
    Recalls c (.event (.text link text)) c' := by
  refine .kept h.memory_eq (fun k _ hm => ?_) fun hs => ⟨h.status.symm.trans hs, h.link, h.login⟩
  obtain ⟨text', he, htext⟩ := Moment.disowns_iff.1 hm
  obtain ⟨-, rfl⟩ : link = k ∧ text = text' := by simpa using he
  exact hunknown htext

theorem recalls_sessionValid {x : SessionId} (hl : c.link? = some link)
    (htext : Phase.decodeText text = some (.ok (.sessionValid x))) :
    Recalls c (.event (.text link text)) (c.onSessionValid x) := by
  by_cases hs : c.snapshot.status = .connected
  · obtain ⟨s, completed, hparts, -, heq⟩ := onSessionValid_eq hs x
    rw [heq]
    exact .accepted rfl htext hs hl ((congrArg (fun p => p.channel) hparts).trans hl)
      (congrArg Parts.login hparts) rfl
  · have heq : c.onSessionValid x = c := if_pos hs
    rw [heq]
    exact recalls_alike (Steady.refl c).toAlike (by simp [htext])

theorem recalls_failure {failure : Failure} (hl : c.link? = some link)
    (htext : Phase.decodeText text = some (.ok (.signonFailureNotice failure))) :
    Recalls c (.event (.text link text)) (c.onFailure link failure) := by
  unfold onFailure
  dsimp only
  split
  · next hunknown =>
    obtain ⟨rfl, -⟩ := hunknown
    have hsame : Alike _ (ask ({ c with pendingLogin := none } : Connector).forgetSession link
      .credentials) := alike_ask
    exact .disowned hl (Moment.disowns_iff.2 ⟨text, rfl, htext⟩) hsame.status hsame.link hsame.login
      hsame.memory_eq
  · next hknown =>
    have howned (k : LinkId) (hm : Moment.disowns k (.event (.text link text)) = true) : c.resume =
        none := by
      obtain ⟨text', he, htext'⟩ := Moment.disowns_iff.1 hm
      obtain ⟨-, rfl⟩ : link = k ∧ text = text' := by simpa using he
      obtain rfl : failure = .unknownSession := by simpa using htext.symm.trans htext'
      simpa using hknown
    split
    · have hmemory := memory_loseChannel.trans
        (steady_closeLink (c := { c with pendingLogin := none })).memory_eq
      refine .kept hmemory (fun k _ => howned k) fun hs => ?_
      exact absurd (.inr hs) withdrawn_loseChannel.away
    · have hsame : Alike _ (ask { c with pendingLogin := none } link (.signonFailed failure)) :=
        alike_ask
      exact .kept hsame.memory_eq (fun k _ => howned k) fun hs => ⟨hsame.status.symm.trans hs,
        hsame.link, hsame.login⟩

theorem recalls_text (link : LinkId) (text : String) :
    Recalls c (.event (.text link text)) (c.handle (.text link text)) := by
  by_cases hl : c.link? = some link
  · unfold handle onText
    dsimp only
    rw [if_pos hl]
    cases htext : Phase.decodeText text with
    | none =>
      dsimp only
      split
      · exact recalls_alike (steady_wish (Wish.silent_deliver text)).toAlike (by simp [htext])
      · exact recalls_alike (Steady.refl c).toAlike (by simp [htext])
    | some decoded =>
      cases decoded with
      | error e => exact recalls_alike (Steady.refl c).toAlike (by simp [htext])
      | ok p =>
        dsimp only
        unfold onPhase
        split
        · exact recalls_sessionValid hl htext
        · exact recalls_failure hl htext
        · exact recalls_alike alike_ask (by simp [htext])
        · next hfailure _ =>
          refine recalls_alike (Steady.refl c).toAlike fun he => ?_
          rw [htext] at he
          exact absurd (by simpa using he) (hfailure .unknownSession)
  · rw [text_of_other hl]
    refine .kept rfl (fun k hk hm => ?_) fun hs => ⟨hs, rfl, rfl⟩
    obtain ⟨text', he, -⟩ := Moment.disowns_iff.1 hm
    obtain ⟨rfl, -⟩ : link = k ∧ text = text' := by simpa using he
    exact absurd hk hl

theorem status_onStop (hs : c.snapshot.Attached) : c.onStop.2.snapshot.status = .stopping := by
  obtain ⟨s, hstopping⟩ := stopping_of_attached hs (.awaited ⟨c.nextSignal⟩)
  obtain ⟨link, hlink⟩ := Option.ne_none_iff_exists'.1 (Snapshot.attached_parts hs).2.2.1
  have hparts := (Snapshot.step_eq_ok hstopping).2
  have hchannel : s.parts.channel = some link := (congrArg (fun p => p.channel) hparts).trans hlink
  unfold onStop newSignal
  dsimp only
  rw [hstopping]
  dsimp only
  rw [hchannel]
  exact congrArg Parts.status hparts

theorem recalls_signoff : Recalls c (.command .signoff) c.onSignoff.2 := by
  unfold onSignoff
  split
  · exact .kept rfl (by simp [Moment.disowns]) fun hs => ⟨hs, rfl, rfl⟩
  · next hs =>
    have hs : c.snapshot.status = .signedIn := by simpa using hs
    refine .signedOff rfl hs ?_
    dsimp only
    split
    · exact status_onStop (c := (c.sendPhase _ .signoff).forgetSession) (.inr hs)
    · exact status_onStop (c := c.forgetSession) (.inr hs)

/-- **Every moment** does one of these to the session that the connector remembers. -/
theorem recalls_step (h : c.Tidy) (m : Moment) : Recalls c m (c.step m) := by
  by_cases hsignoff : m = .command .signoff
  · rw [hsignoff]
    exact recalls_signoff
  · by_cases htext : ∃ link text, m = .event (.text link text)
    · obtain ⟨link, text, rfl⟩ := htext
      exact recalls_text link text
    · exact recalls_other h hsignoff fun link text he => htext ⟨link, text, he⟩

end Steps

/-! ### Runs -/

section Runs

variable {u : Setup} {past later : List Moment} {link : LinkId} {x : SessionId} {login : String}

/-- The frame that names the session `x` has signed the connector in on the link, and the moments
`later` came after it. -/
def Entered (u : Setup) (past : List Moment) (link : LinkId) (x : SessionId) (later : List Moment) :
    Prop :=
  ∃ before text, past = before ++ .event (.text link text) :: later ∧
    Phase.decodeText text = some (.ok (.sessionValid x)) ∧ (u.after before).snapshot.status =
      .connected ∧
    (u.after before).link? = some link

theorem Entered.snoc (h : Entered u past link x later) (m : Moment) :
    Entered u (past ++ [m]) link x (later ++ [m]) := by
  obtain ⟨before, text, rfl, h⟩ := h
  exact ⟨before, text, by simp, h⟩

/-- **The session that a connector is signed in with**: named by the frame that signed the connector
in on the link that it still has, and remembered until the server calls it unknown on that link. -/
structure Bound (u : Setup) (past : List Moment) (link : LinkId) (x : SessionId) (login : String)
    (later : List Moment) : Prop where
  entered : Entered u past link x later
  linked : (u.after past).link? = some link
  named : (u.after past).snapshot.parts.login = some login
  memory : (u.after past).memory =
    if later.any (·.disowns link) then (none, none) else (some x, some ⟨x, login⟩)

theorem Bound.kept (h : Bound u past link x login later) (m : Moment)
    (hlink : (u.after (past ++ [m])).link? = some link)
    (hlogin : (u.after (past ++ [m])).snapshot.parts.login = some login)
    (hmemory : (u.after (past ++ [m])).memory = (u.after past).memory)
    (howned : m.disowns link = true → (u.after past).resume = none) :
    Bound u (past ++ [m]) link x login (later ++ [m]) := by
  refine ⟨h.entered.snoc m, hlink, hlogin, ?_⟩
  rw [hmemory, h.memory, List.any_append]
  cases hm : m.disowns link with
  | false => simp [hm]
  | true =>
    have hnone : (u.after past).memory.2 = none := howned hm
    rw [h.memory] at hnone
    cases hlater : later.any (·.disowns link) <;> simp [hlater] at hnone ⊢

/-- A connector that is signed in has a session, by induction over the moments. -/
theorem exists_bound (hs : (u.after past).snapshot.status = .signedIn) :
    ∃ link x login later, Bound u past link x login later := by
  induction past using List.reverseRecOn with
  | nil => simp [Setup.after, Setup.connector, Snapshot.initial, Snapshot.status] at hs
  | append_singleton past m ih =>
    have hstep := recalls_step (tidy_after u past) m
    rw [← Setup.after_snoc] at hstep
    cases hstep with
    | kept memory owned signedIn =>
      obtain ⟨hbefore, hlink, hlogin⟩ := signedIn hs
      obtain ⟨link, x, login, later, h⟩ := ih hbefore
      exact ⟨link, x, login, later ++ [m],
        h.kept m (hlink.trans h.linked) (hlogin.trans h.named) memory (owned link h.linked)⟩
    | @accepted link text x login moment valid waiting before after named memory =>
      exact ⟨link, x, login, [], ⟨past, text, by rw [moment], valid, waiting, before⟩, after,
        named, memory⟩
    | @disowned here before disowns status after named memory =>
      obtain ⟨link, x, login, later, h⟩ := ih (status.symm.trans hs)
      obtain rfl : link = here := Option.some.inj (h.linked.symm.trans before)
      refine ⟨link, x, login, later ++ [m], h.entered.snoc m, after.trans h.linked,
        named.trans h.named, ?_⟩
      rw [memory, List.any_append]
      simp [disowns]
    | signedOff moment before status => simp [status] at hs

/-! ### After the channel -/

theorem nextLink_le (u : Setup) (past later : List Moment) :
    (u.after past).nextLink ≤ (u.after (past ++ later)).nextLink := by
  induction later using List.reverseRecOn with
  | nil => simp
  | append_singleton later m ih =>
    have hlinks := (turn_after u (past ++ later) m).links
    rw [← List.append_assoc]
    rcases hlinks with ⟨hnext, -⟩ | ⟨hnext, -⟩ <;> omega

theorem Recalls.memory_of_unlinked (h : Recalls c m c') (hl : c.link? = none) :
    c'.memory = c.memory := by
  cases h with
  | kept memory => exact memory
  | accepted moment valid waiting before => simp [hl] at before
  | disowned before => simp [hl] at before
  | signedOff moment before =>
    exact absurd hl (Snapshot.attached_parts (s := c.snapshot) (.inr before)).2.2.1

/-- As long as no link is opened, a connector without one remembers what it remembered. -/
theorem memory_until_opened (hl : (u.after past).link? = none)
    (hnext : (u.after (past ++ later)).nextLink = (u.after past).nextLink) :
    (u.after (past ++ later)).link? = none ∧ (u.after (past ++ later)).memory =
      (u.after past).memory := by
  induction later using List.reverseRecOn with
  | nil => simpa using hl
  | append_singleton later m ih =>
    rw [← List.append_assoc] at hnext ⊢
    have hbefore := nextLink_le u past later
    have hafter := nextLink_le u (past ++ later) [m]
    obtain ⟨hlink, hmemory⟩ := ih (by omega)
    have hstep := recalls_step (tidy_after u (past ++ later)) m
    rw [← Setup.after_snoc] at hstep
    refine ⟨?_, (hstep.memory_of_unlinked hlink).trans hmemory⟩
    rcases (turn_after u (past ++ later) m).links with ⟨-, h | h⟩ | ⟨h, -⟩
    · exact h
    · exact h.trans hlink
    · omega

/-- When a connector that is signed in loses its channel, it plans to reconnect. -/
theorem Turn.lost_signedIn {o : Option (Command × Signal)} (ht : Turn c m o c')
    (hs : c.snapshot.status = .signedIn) (hs' : c'.snapshot.status = .connecting) :
    c'.snapshot.parts.reconnectTimer ≠ none := by
  cases ht with
  | lost _ parts => simp [parts]
  | idle aside =>
    cases aside
    simp [hs] at hs'
  | started status | stopped status | redialed status | misled status | signedIn status =>
    simp [hs] at status
  | halted _ status | failed _ status | opened _ status => simp [hs] at status
  | stopping _ _ _ parts | abandoned _ _ parts => simp [Snapshot.status, parts] at hs'
  | pinged _ _ parts | ponged _ _ parts =>
    have hs : c.snapshot.parts.status = .signedIn := hs
    simp [Snapshot.status, parts, hs] at hs'

end Runs

/-- **The next link** of a connector that has to sign on: the session that it remembers is resumed,
and none if it remembers none. -/
structure Resumes (c : Connector) (resume : Option Resume) (attempt : DialId)
    (server : Descriptor) : Prop where
  link : (c.handle (.dialed attempt (some server))).link? = some ⟨c.nextLink⟩
  frames : (c.handle (.dialed attempt (some server))).frames ⟨c.nextLink⟩ =
    c.frames ⟨c.nextLink⟩ ++ (resume.map fun r => (Phase.resumeSession r.session).encode).toList

theorem resumes_of_dialed (h : c.Tidy) {attempt : DialId} (hd : c.dial = some attempt)
    {server : Descriptor} (hserver : server.authenticationRequired = true) :
    Resumes c c.resume attempt server := by
  have hs := h.dial (by simp [hd])
  have htaken := takesUp_of_dialed hd hs server
  refine ⟨htaken.link, ?_⟩
  obtain ⟨s, timers, -, hlink, hknown, heq⟩ := exists_beginSignon hd hs server
  rw [heq]
  unfold beginSignon
  rw [show ({ c with snapshot := s, dial := none, nextLink := c.nextLink + 1, timers } :
    Connector).link? = some ⟨c.nextLink⟩ from hlink]
  dsimp only
  rw [hknown]
  dsimp only
  rw [hserver, Bool.not_true, if_neg (by decide)]
  cases hr : c.resume with
  | some r => exact frames_encode
  | none => exact (alike_ask.frames _).trans (List.append_nil _).symm

/-- **What is remembered after any moments**: a connector that is signed in is bound to its session,
and if it loses its channel, it plans to reconnect and resumes on the next link what it remembered,
whatever happens until then. -/
structure Remembrance (u : Setup) (past : List Moment) : Prop where
  signedIn : (u.after past).snapshot.status = .signedIn →
    ∃ link x login later, Bound u past link x login later
  planned : ∀ m, (u.after past).snapshot.status = .signedIn →
    (u.after (past ++ [m])).snapshot.status = .connecting →
    (u.after (past ++ [m])).snapshot.parts.reconnectTimer ≠ none
  resumed : ∀ m later, (u.after past).snapshot.status = .signedIn →
    (u.after (past ++ [m])).snapshot.status = .connecting →
    (u.after (past ++ m :: later)).nextLink = (u.after past).nextLink →
    (u.after (past ++ m :: later)).memory = (u.after past).memory ∧
    ∀ attempt server, (u.after (past ++ m :: later)).dial = some attempt →
      server.authenticationRequired = true →
      Resumes (u.after (past ++ m :: later)) (u.after past).resume attempt server

theorem remembrance_after (u : Setup) (past : List Moment) : Remembrance u past := by
  refine ⟨exists_bound, fun m hs hs' => (turn_after u past m).lost_signedIn hs hs',
    fun m later hs hs' hnext => ?_⟩
  have hlink : (u.after (past ++ [m])).link? = none := (tidy_after u (past ++ [m])).channel hs'
  have hlost : (u.after (past ++ [m])).memory = (u.after past).memory := by
    have hstep := recalls_step (tidy_after u past) m
    rw [← Setup.after_snoc] at hstep
    cases hstep with
    | kept memory => exact memory
    | accepted moment valid waiting => simp [hs] at waiting
    | disowned before disowns status => simp [hs, hs'] at status
    | signedOff moment before status => simp [hs'] at status
  rw [List.append_cons] at hnext ⊢
  have hsame : (u.after (past ++ [m] ++ later)).nextLink = (u.after (past ++ [m])).nextLink := by
    have hfirst := nextLink_le u past [m]
    have hlater := nextLink_le u (past ++ [m]) later
    omega
  have hmemory := (memory_until_opened hlink hsame).2.trans hlost
  refine ⟨hmemory, fun attempt server hd hserver => ?_⟩
  have hresume : (u.after (past ++ [m] ++ later)).resume = (u.after past).resume :=
    congrArg Prod.snd hmemory
  rw [← hresume]
  exact resumes_of_dialed (tidy_after u _) hd hserver

set_option maxRecDepth 20000 in
/-- The channel is given up in silence, and the session is resumed on the next one. -/
example :
    (Sample.setup.after
      (Sample.silence ++ [.event (.dialed ⟨2⟩ (some Sample.server))])).frames ⟨2⟩ =
      [(Phase.resumeSession Sample.session).encode] := by
  decide +kernel

set_option maxRecDepth 20000 in
/-- The server calls the session unknown when the connector has long signed in: it stays signed in
without a session, and when the channel is gone it does not resume, but asks for credentials. -/
theorem forgotten_while_signedIn :
    let disowned := Sample.signon ++
    [.event (.text ⟨1⟩ (Phase.encode (.signonFailureNotice .unknownSession)))]
    let again := disowned ++ [.event (.linkClosed ⟨1⟩), .advance 5000,
      .event (.timerFired ⟨1⟩ .reconnect), .event (.dialed ⟨2⟩ (some Sample.server))]
    Run Sample.setup again ∧ (Sample.setup.after disowned).snapshot.status = .signedIn ∧
      (Sample.setup.after disowned).memory = (none, none) ∧ (Sample.setup.after again).link? =
        some ⟨2⟩ ∧
      (Sample.setup.after again).frames ⟨2⟩ = [] ∧ (Sample.setup.after again).questions ⟨2⟩ =
        [.credentials] := by
  decide +kernel

end Connector

end DurableSession.Client
