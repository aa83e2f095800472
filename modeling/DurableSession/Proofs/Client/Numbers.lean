import Mathlib.Data.List.Intervals
import DurableSession.Proofs.Client.Orphans

/-!
The numbers that a connector gives out.

Timers, links and connection attempts are numbered one after the other, whatever happens in between,
and a question to the supplier of credentials is put on behalf of a link that has its number
already. What a moment does to the wishes is worked out once for each small step, in `Speaks`; what
it does to timers and links is read off its turn. Main statement: `numbered_after`.
-/

namespace DurableSession.Client

open Lifecycle (Phase SessionId Token Failure Secret)
open Handshake (Descriptor)

namespace Wish

def attempt? : Wish → Option DialId
  | dial attempt _ => some attempt
  | _ => none

def asker? : Wish → Option LinkId
  | ask link _ => some link
  | _ => none

end Wish

namespace Connector

def attempts (c : Connector) : List DialId := c.wishes.filterMap Wish.attempt?

def askers (c : Connector) : List LinkId := c.wishes.filterMap Wish.asker?

/-! ### Wishes -/

/-- Attempts are begun under the next numbers, and questions are put on behalf of links below
`n`. -/
structure Speaks (n : Nat) (c c' : Connector) : Prop where
  nextDial : c.nextDial ≤ c'.nextDial
  attempts : c'.attempts = c.attempts ++ (List.Ico c.nextDial c'.nextDial).map DialId.mk
  askers : ∀ link ∈ c'.askers, link ∈ c.askers ∨ link.number < n

section Wishes

variable {c c₁ c₂ : Connector} {n n' : Nat} {link : LinkId} {w : Wish}

theorem speaks_books {now : Nat} {snapshot : Snapshot LinkId} {session : Option SessionId}
    {resume : Option Resume} {pendingLogin : Option String} {dial : Option DialId}
    {nextLink nextSignal : Nat} {completed : List SignalId}
    {timers : Timers} {refused : List SnapshotError} :
    Speaks n c { c with
      now, snapshot, session, resume, pendingLogin, dial, nextLink, nextSignal, completed, timers,
        refused } := by
  refine ⟨le_rfl, ?_, fun link hlink => .inl hlink⟩
  rw [List.Ico.self_empty, List.map_nil, List.append_nil]
  rfl

theorem Speaks.refl (c : Connector) : Speaks n c c := speaks_books

theorem Speaks.trans (h : Speaks n c c₁) (h' : Speaks n c₁ c₂) : Speaks n c c₂ := by
  refine ⟨h.nextDial.trans h'.nextDial, ?_, fun link hlink => ?_⟩
  · rw [h'.attempts, h.attempts, List.append_assoc, ← List.map_append,
      List.Ico.append_consecutive h.nextDial h'.nextDial]
  · rcases h'.askers link hlink with hlink | hlt
    · exact h.askers link hlink
    · exact .inr hlt

theorem Speaks.mono (h : Speaks n c c₁) (hn : n ≤ n') : Speaks n' c c₁ :=
  ⟨h.nextDial, h.attempts, fun link hlink => (h.askers link hlink).imp_right hn.trans_lt'⟩

theorem speaks_wish (hw : w.attempt? = none) (ha : ∀ link, w.asker? = some link → link.number < n) :
    Speaks n c (c.wish w) := by
  refine ⟨le_rfl, ?_, fun link hlink => ?_⟩
  · simp [wish, attempts, hw]
  · simp only [wish, askers, List.filterMap_append, List.mem_append] at hlink
    refine hlink.imp_right fun hlink => ha link ?_
    simpa using hlink

theorem speaks_cancelDial : Speaks n c c.cancelDial := by
  unfold cancelDial
  split
  · exact speaks_books.trans (speaks_wish rfl (by simp [Wish.asker?]))
  · exact .refl c

theorem speaks_redial : Speaks n c c.redial := by
  refine speaks_cancelDial.trans ⟨Nat.le_succ _, ?_, fun link hlink => .inl ?_⟩
  · simp [redial, wish, attempts, Wish.attempt?, List.Ico.succ_singleton]
  · simpa [redial, wish, askers, Wish.asker?] using hlink

theorem speaks_closeLink : Speaks n c c.closeLink := by
  unfold closeLink
  split
  · exact speaks_wish rfl (by simp [Wish.asker?])
  · exact .refl c

theorem speaks_complete (s : Signal) : Speaks n c (c.complete s) := by
  cases s with
  | settled => exact .refl c
  | awaited id => exact speaks_books

theorem speaks_completeStart : Speaks n c c.completeStart := by
  unfold completeStart
  split
  · exact speaks_complete _
  · exact .refl c

theorem speaks_take (r : Except SnapshotError (Snapshot LinkId)) : Speaks n c (c.take r).2 := by
  cases r with
  | ok s => exact speaks_books
  | error e => exact speaks_books

theorem speaks_sendPhase (p : Phase) :
    Speaks n c (c.sendPhase link p) := speaks_wish rfl (by simp [Wish.asker?])

theorem speaks_ask (hl : link.number < n) (r : Request) : Speaks n c (c.ask link r) := by
  unfold ask
  split
  · exact speaks_wish rfl (by simp [Wish.asker?, hl])
  · exact .refl c

theorem speaks_loseChannel : Speaks n c c.loseChannel := by
  obtain ⟨timer, timers, -, heq⟩ := loseChannel_eq c
  rw [heq]
  exact speaks_books.trans (speaks_take _)

theorem speaks_finishStop : Speaks n c c.finishStop := by
  unfold finishStop
  split
  · dsimp only
    split
    · exact (speaks_complete _).trans speaks_books
    · exact speaks_books
  · exact speaks_books

end Wishes

/-! ### Commands and events -/

section Moments

variable {c : Connector} {n : Nat} {link : LinkId}

theorem speaks_start : Speaks n c c.onStart.2 := by
  unfold onStart newSignal
  dsimp only
  split
  · exact .refl c
  · exact speaks_books.trans speaks_redial

theorem speaks_stop : Speaks n c c.onStop.2 := by
  unfold onStop newSignal
  dsimp only
  split
  · exact .refl c
  · next s hs =>
    have hbefore : Speaks n c
        ({ c with nextSignal := c.nextSignal + 1 } : Connector).cancelTimers.cancelDial :=
      speaks_books.trans speaks_cancelDial
    generalize ({ c with nextSignal := c.nextSignal + 1 } : Connector).cancelTimers.cancelDial =
      c₁ at hbefore ⊢
    have hend :
        Speaks n c
          { ({ c₁ with pendingLogin := none } : Connector).completeStart with snapshot := s } :=
      hbefore.trans (speaks_books.trans (speaks_completeStart.trans speaks_books))
    split
    · exact hend.trans (speaks_wish rfl (by simp [Wish.asker?]))
    · exact hend.trans speaks_finishStop

theorem speaks_emergencyStop : Speaks n c c.onEmergencyStop.2 := by
  unfold onEmergencyStop
  split
  · exact .refl c
  · dsimp only
    generalize hc₁ : c.cancelTimers.cancelDial = c₁
    have hbefore : Speaks n c c₁ := hc₁ ▸ speaks_books.trans speaks_cancelDial
    exact hbefore.trans (speaks_books.trans (speaks_closeLink.trans
      (speaks_completeStart.trans ((speaks_complete _).trans speaks_books))))

theorem speaks_signoff : Speaks n c c.onSignoff.2 := by
  unfold onSignoff
  split
  · exact .refl c
  · dsimp only
    split
    · exact (speaks_sendPhase _).trans (speaks_books.trans speaks_stop)
    · exact speaks_books.trans speaks_stop

theorem speaks_command (k : Command) : Speaks n c (c.command k).2 := by
  cases k with
  | start => exact speaks_start
  | stop => exact speaks_stop
  | emergencyStop => exact speaks_emergencyStop
  | signoff => exact speaks_signoff

theorem speaks_send (text : String) : Speaks n c (c.send text).2 := by
  unfold send
  split
  · exact speaks_wish rfl (by simp [Wish.asker?])
  · exact .refl c

theorem speaks_beginSignon (hl : ∀ link, c.link? = some link → link.number < n) :
    Speaks n c c.beginSignon := by
  unfold beginSignon
  split
  · next link d hlink hd =>
    split
    · exact speaks_completeStart
    · split
      · exact speaks_sendPhase _
      · exact speaks_ask (hl link hlink) _
  · exact .refl c

theorem nextLink_beginSignon : c.beginSignon.nextLink = c.nextLink := by
  unfold beginSignon
  split
  · next link d _ _ =>
    split
    · obtain ⟨completed, hstart, -⟩ := completeStart_eq c
      rw [hstart]
    · split
      · rfl
      · obtain ⟨more, hask, -⟩ := ask_eq c link .credentials
        rw [hask]
  · rfl

/-- A question about a new link is put on behalf of the link that was just opened. -/
theorem speaks_dialSucceeded (d : Descriptor) :
    Speaks (c.onDialSucceeded d).nextLink c (c.onDialSucceeded d) := by
  unfold onDialSucceeded
  dsimp only
  generalize c.timers.schedulePing c.now d.boundary = drawn
  cases hs₁ : c.snapshot.channelEstablished ⟨c.nextLink⟩ with
  | error e =>
    exact speaks_books.trans (speaks_wish (w := .close ⟨c.nextLink⟩) rfl (by simp [Wish.asker?]))
  | ok s₁ =>
    dsimp only
    cases hs : s₁.connected d drawn.1 with
    | error e =>
      exact speaks_books.trans (speaks_wish (w := .close ⟨c.nextLink⟩) rfl (by simp [Wish.asker?]))
    | ok s =>
      have hchannel : s.parts.channel = some ⟨c.nextLink⟩ := by
        rw [(Snapshot.step_eq_ok hs).2]
        exact congrArg Parts.channel (Snapshot.step_eq_ok hs₁).2
      dsimp only [take]
      refine speaks_books.trans (speaks_beginSignon ?_)
      intro link hlink
      obtain rfl := Option.some.inj (hchannel.symm.trans hlink)
      rw [nextLink_beginSignon]
      exact Nat.lt_succ_self _

theorem speaks_dialed (attempt : DialId) (result : Option Descriptor) :
    Speaks (c.onDialed attempt result).nextLink c (c.onDialed attempt result) := by
  unfold onDialed
  split
  · exact .refl c
  · dsimp only
    split
    · exact speaks_books
    · cases result with
      | none =>
        obtain ⟨timer, timers, -, heq⟩ := onDialFailed_eq { c with dial := none }
        dsimp only
        rw [heq]
        exact speaks_books.trans (speaks_take _)
      | some d => exact .trans speaks_books (speaks_dialSucceeded (c := { c with dial := none }) d)

theorem speaks_linkClosed : Speaks n c (c.onLinkClosed link) := by
  unfold onLinkClosed
  split
  · exact .refl c
  · split
    · exact speaks_finishStop
    · exact speaks_loseChannel

theorem speaks_pong : Speaks n c c.onPong := by
  rcases Option.eq_none_or_eq_some c.snapshot.parts.pongTimer with ht | ⟨t, ht⟩
  · unfold onPong
    rw [ht]
    exact .refl c
  · obtain ⟨timer, timers, -, heq⟩ := onPong_eq ht
    rw [heq]
    exact speaks_books.trans (speaks_take _)

theorem speaks_timer (id : TimerId) (kind : TimerKind) : Speaks n c (c.onTimer id kind) := by
  unfold onTimer
  split
  · split
    · exact .refl c
    · exact (speaks_wish rfl (by simp [Wish.asker?])).trans (speaks_books.trans (speaks_take _))
  · exact speaks_closeLink.trans speaks_loseChannel
  · exact speaks_redial
  · exact .refl c

theorem speaks_credentials (supplied : Option Credentials) :
    Speaks n c (c.onCredentials link supplied) := by
  unfold onCredentials
  split
  · exact .refl c
  · cases supplied with
    | none => exact .refl c
    | some credentials => exact speaks_books.trans (speaks_sendPhase _)

theorem speaks_secondaryCode (token : Token) (supplied : Option Secret) :
    Speaks n c (c.onSecondaryCode link token supplied) := by
  unfold onSecondaryCode
  split
  · exact .refl c
  · cases supplied with
    | none => exact .refl c
    | some code => exact speaks_sendPhase _

theorem speaks_sessionValid (x : SessionId) : Speaks n c (c.onSessionValid x) := by
  unfold onSessionValid
  split
  · exact .refl c
  · dsimp only
    generalize c.snapshot.signedIn _ = r
    cases r with
    | error e => exact speaks_books
    | ok s => exact speaks_books.trans speaks_completeStart

theorem speaks_failure (hl : link.number < n) (f : Failure) : Speaks n c (c.onFailure link f) := by
  unfold onFailure
  dsimp only
  split
  · exact speaks_books.trans (speaks_ask hl _)
  · split
    · exact speaks_books.trans (speaks_closeLink.trans speaks_loseChannel)
    · exact speaks_books.trans (speaks_ask hl _)

theorem speaks_text (hl : link.number < n) (text : String) : Speaks n c (c.onText link text) := by
  unfold onText
  split
  · split
    · exact speaks_wish rfl (by simp [Wish.asker?])
    · exact .refl c
  · exact .refl c
  · unfold onPhase
    split
    · exact speaks_sessionValid _
    · exact speaks_failure hl _
    · exact speaks_ask hl _
    · exact .refl c

theorem speaks_event (e : Event)
    (hl : ∀ link, c.link? = some link → link.number < (c.handle e).nextLink) :
    Speaks (c.handle e).nextLink c (c.handle e) := by
  generalize hn : (c.handle e).nextLink = n at hl ⊢
  unfold handle at hn ⊢
  cases e with
  | dialed attempt result => exact hn ▸ speaks_dialed attempt result
  | text link text =>
    dsimp only
    split
    · next hlink => exact speaks_text (hl link hlink) text
    · exact .refl c
  | pong link =>
    dsimp only
    split
    · exact speaks_pong
    · exact .refl c
  | linkClosed link => exact speaks_linkClosed
  | credentials link supplied => exact speaks_credentials supplied
  | secondaryCode link token supplied => exact speaks_secondaryCode token supplied
  | timerFired id kind => exact speaks_timer id kind

/-- **Any moment**: the questions that it asks are put on behalf of links that are there after
it. -/
theorem speaks_step (m : Moment)
    (hl : ∀ link, c.link? = some link → link.number < (c.step m).nextLink) :
    Speaks (c.step m).nextLink c (c.step m) := by
  cases m with
  | command k => exact speaks_command k
  | event e => exact speaks_event e hl
  | send text => exact speaks_send text
  | advance ms => exact speaks_books

end Moments

/-! ### One that is current -/

/-- The one that is current is let go of, kept, or succeeded by the one with the next number. -/
def Succeeds {α : Type} (mk : Nat → α) (now now' : Option α) (next next' : Nat) : Prop :=
  next' = next ∧ (now' = none ∨ now' = now) ∨ next' = next + 1 ∧ now' = some (mk next)

section Current

variable {α : Type} {mk : Nat → α} {number : α → Nat} {now now' : Option α} {next next' : Nat}
  {a : α}

theorem Succeeds.below (h : Succeeds mk now now' next next') (hmk : ∀ n, number (mk n) = n)
    (hnow : ∀ a, now = some a → number a < next) : ∀ a, now' = some a → number a < next' := by
  intro a ha
  rcases h with ⟨hnext, hleft | hkept⟩ | ⟨hnext, htaken⟩
  · simp [hleft] at ha
  · exact hnext ▸ hnow a (hkept ▸ ha)
  · obtain rfl := Option.some.inj (htaken.symm.trans ha)
    rw [hmk, hnext]
    exact Nat.lt_succ_self next

/-- One that is not current any more does not become so again. -/
theorem Succeeds.excludes (h : Succeeds mk now now' next next') (hmk : ∀ n, number (mk n) = n)
    (hk : number a < next) (hne : now ≠ some a) : number a < next' ∧ now' ≠ some a := by
  rcases h with ⟨hnext, hleft | hkept⟩ | ⟨hnext, htaken⟩
  · exact ⟨hnext ▸ hk, by simp [hleft]⟩
  · exact ⟨hnext ▸ hk, hkept ▸ hne⟩
  · refine ⟨by omega, ?_⟩
    intro ha
    obtain rfl := Option.some.inj (htaken.symm.trans ha)
    rw [hmk] at hk
    exact Nat.lt_irrefl next hk

end Current

/-! ### Timers and links -/

section Turns

variable {c c' : Connector} {m : Moment} {o : Option (Command × Signal)}

def schedules (c : Connector) (m : Moment) : List TimerId :=
  ((c.step m).timers.running.filter (· ∉ c.timers.running)).map Timer.id

def opens (c : Connector) (m : Moment) :
    List LinkId := (c.step m).link?.toList.filter (c.link? ≠ some ·)

/-- What a connector refers to has a number that was given out. -/
structure Below (c : Connector) : Prop where
  running : ∀ t ∈ c.timers.running, t.id.number < c.timers.next
  held : ∀ t ∈ c.snapshot.timers, t.id.number < c.timers.next
  dial : ∀ d, c.dial = some d → d.number < c.nextDial
  link : ∀ link, c.link? = some link → link.number < c.nextLink

/-- **What a turn does to links**: it lets go of the one that is there, leaves it alone, or opens
one. -/
theorem Turn.links (ht : Turn c m o c') :
    Succeeds LinkId.mk c.link? c'.link? c.nextLink c'.nextLink := by
  cases ht with
  | idle aside =>
    cases aside
    exact .inl ⟨rfl, .inr rfl⟩
  | redialed | misled => exact .inl ⟨rfl, .inr rfl⟩
  | started _ parts | halted _ _ parts | abandoned _ _ parts | stopped _ _ parts | failed _ _ parts
  | lost _ parts =>
    exact .inl ⟨rfl, .inl (congrArg Parts.channel parts)⟩
  | stopping _ _ _ parts | pinged _ _ parts | ponged _ _ parts | signedIn _ parts =>
    exact .inl ⟨rfl, .inr (congrArg (fun p => p.channel) parts)⟩
  | opened _ _ parts => exact .inr ⟨rfl, congrArg Parts.channel parts⟩

/-- **What a turn does to attempts**: it gives up the one under way, leaves it alone, or begins
one. -/
theorem Turn.succeeds (ht : Turn c m o c') :
    Succeeds DialId.mk c.dial c'.dial c.nextDial c'.nextDial :=
  ht.dials.2.2

/-- **Timers that a turn schedules** have the next numbers. -/
theorem Turn.news (ht : Turn c m o c') (h : c.Below) :
    (c'.timers.running.filter (· ∉ c.timers.running)).map Timer.id =
      (List.Ico c.timers.next c'.timers.next).map TimerId.mk := by
  have hkept (l : List Timer) : (c.timers.cancelAll l).running.filter (· ∉ c.timers.running) =
      [] := by
    rw [List.filter_eq_nil_iff]
    intro t hr
    simp [(Timers.mem_running_cancelAll.1 hr).1]
  obtain ⟨l, -, ⟨hl, -⟩ | ⟨k, timer, hs, -⟩⟩ := ht.rearms
  · rw [hl, hkept, Timers.next_cancelAll, List.Ico.self_empty]
    rfl
  · have hnew : timer ∉ c.timers.running := by
      intro hr
      have hlt := h.running timer hr
      simp [hs.id] at hlt
    rw [hs.running, hs.next, Timers.next_cancelAll, List.Ico.succ_singleton, List.filter_append,
      hkept]
    simp [hnew, hs.id]

theorem Below.turn (h : c.Below) (ht : Turn c m o c') : c'.Below := by
  have hmem {t : Timer} (hr : t ∈ c'.snapshot.timers) : ∃ kind, c'.snapshot.timerOf kind = some t :=
    Snapshot.exists_timerOf.2 hr
  have hheld {kind : TimerKind} {t : Timer} (hr : c.snapshot.timerOf kind = some t) : t.id.number <
      c.timers.next := h.held t (Snapshot.exists_timerOf.1 ⟨kind, hr⟩)
  have hdials : ∀ d, c'.dial = some d → d.number < c'.nextDial :=
    ht.succeeds.below (fun _ => rfl) h.dial
  have hlinks : ∀ link, c'.link? = some link → link.number < c'.nextLink :=
    ht.links.below (fun _ => rfl) h.link
  obtain ⟨l, -, ⟨hl, hsame⟩ | ⟨k, timer, hs, hnew⟩⟩ := ht.rearms
  · have hnext : c'.timers.next = c.timers.next := by rw [hl, Timers.next_cancelAll]
    refine ⟨fun t hr => ?_, fun t hr => ?_, hdials, hlinks⟩
    · rw [hnext]
      rw [hl] at hr
      exact h.running t (Timers.mem_running_cancelAll.1 hr).1
    · obtain ⟨kind, hr⟩ := hmem hr
      rw [hnext]
      exact hheld (hsame kind t hr)
  · have hnext : c'.timers.next = c.timers.next + 1 := by rw [hs.next, Timers.next_cancelAll]
    have htimer : timer.id.number < c.timers.next + 1 := by simp [hs.id]
    refine ⟨fun t hr => ?_, fun t hr => ?_, hdials, hlinks⟩
    · rw [hnext]
      rcases hs.mem_running.1 hr with hr | rfl
      · exact Nat.lt_succ_of_lt (h.running t (Timers.mem_running_cancelAll.1 hr).1)
      · exact htimer
    · obtain ⟨kind, hr⟩ := hmem hr
      rw [hnext]
      rcases hnew kind t hr with ⟨-, rfl⟩ | hr
      · exact htimer
      · exact Nat.lt_succ_of_lt (hheld hr)

theorem Turn.opening (ht : Turn c m o c') (h : c.Below) :
    c.nextLink ≤ c'.nextLink ∧ c'.link?.toList.filter (c.link? ≠ some ·) =
      (List.Ico c.nextLink c'.nextLink).map LinkId.mk := by
  rcases ht.links with ⟨hnext, hlink | hlink⟩ | ⟨hnext, hlink⟩
  · simp [hnext, hlink]
  · rw [hnext, hlink, List.Ico.self_empty]
    refine ⟨le_rfl, List.filter_eq_nil_iff.2 fun link hl => ?_⟩
    simpa using hl
  · have hnew : c.link? ≠ some ⟨c.nextLink⟩ := by
      intro hl
      have hlt := h.link _ hl
      simp at hlt
    rw [hnext, hlink, List.Ico.succ_singleton]
    simp [hnew]

end Turns

/-! ### Any moments -/

section Runs

variable {u : Setup} {past : List Moment} {m : Moment}

def scheduled (c : Connector) : List Moment → List TimerId
  | [] => []
  | m :: later => c.schedules m ++ (c.step m).scheduled later

def opened (c : Connector) : List Moment → List LinkId
  | [] => []
  | m :: later => c.opens m ++ (c.step m).opened later

theorem scheduled_snoc {c : Connector} :
    c.scheduled (past ++ [m]) = c.scheduled past ++ (past.foldl step c).schedules m := by
  induction past generalizing c with
  | nil => exact List.append_nil _
  | cons m' past ih => rw [List.cons_append, scheduled, ih, scheduled, List.append_assoc]; rfl

theorem opened_snoc {c : Connector} :
    c.opened (past ++ [m]) = c.opened past ++ (past.foldl step c).opens m := by
  induction past generalizing c with
  | nil => exact List.append_nil _
  | cons m' past ih => rw [List.cons_append, opened, ih, opened, List.append_assoc]; rfl

/-- **Numbered one after the other**: the timers that were scheduled, the connection attempts that
were begun, and the links that were opened. A question is put on behalf of a link that has its
number by then. -/
structure Numbered (u : Setup) (past : List Moment) : Prop where
  timers : u.connector.scheduled past = (List.Ico 0 (u.after past).timers.next).map TimerId.mk
  dials : (u.after past).attempts = (List.Ico 1 (u.after past).nextDial).map DialId.mk
  links : u.connector.opened past = (List.Ico 1 (u.after past).nextLink).map LinkId.mk
  askers : ∀ link ∈ (u.after past).askers, link.number < (u.after past).nextLink
  begun : 1 ≤ (u.after past).nextDial ∧ 1 ≤ (u.after past).nextLink

theorem below_after (u : Setup) (past : List Moment) : (u.after past).Below := by
  induction past using List.reverseRecOn with
  | nil =>
    constructor <;> simp [Setup.after, Setup.connector, Snapshot.initial, Snapshot.timers, link?]
  | append_singleton past m ih => exact ih.turn (turn_after u past m)

theorem map_ico_append {α : Type} {f : Nat → α} {a b c : Nat} (h : a ≤ b) (h' : b ≤ c) :
    (List.Ico a b).map f ++ (List.Ico b c).map f = (List.Ico a c).map f := by
  rw [← List.map_append, List.Ico.append_consecutive h h']

theorem numbered_after (u : Setup) (past : List Moment) : Numbered u past := by
  induction past using List.reverseRecOn with
  | nil =>
    constructor <;> simp [Setup.after, Setup.connector, scheduled, opened, attempts, askers]
  | append_singleton past m ih =>
    have ht := turn_after u past m
    have hbelow := below_after u past
    have htimers := ht.news hbelow
    obtain ⟨hnext, hlinks⟩ := ht.opening hbelow
    have hspeaks := speaks_step m fun link hl => (hbelow.link link hl).trans_le
      (Setup.after_snoc ▸ hnext)
    rw [← Setup.after_snoc] at hspeaks
    obtain ⟨hdial, hlink⟩ := ih.begun
    refine ⟨?_, ?_, ?_, fun link hl => ?_, hdial.trans hspeaks.nextDial, hlink.trans hnext⟩
    · rw [← map_ico_append (Nat.zero_le _) ht.renews.1, ← ih.timers, ← htimers, scheduled_snoc,
        schedules, ← Setup.after, ← Setup.after_snoc]
    · rw [hspeaks.attempts, ih.dials, map_ico_append hdial hspeaks.nextDial]
    · rw [← map_ico_append hlink hnext, ← ih.links, ← hlinks, opened_snoc, opens, ← Setup.after,
        ← Setup.after_snoc]
    · rcases hspeaks.askers link hl with hl | hlt
      · exact (ih.askers link hl).trans_le hnext
      · exact hlt

end Runs

end Connector

end DurableSession.Client
