import Mathlib.Data.List.Induction
import DurableSession.Proofs.Client.Course

/-!
Every moment of a connector is a turn.

What a handler does is worked out once, for connectors in which nothing is out of place; a turn
leaves nothing out of place. Main statements: `Connector.turn` and `turn_after`, on which every
invariant of connectors rests.
-/

namespace DurableSession.Client

open Lifecycle (Phase SessionId Failure Token Secret)
open Handshake (Descriptor)

namespace Connector

/-! ### Commands -/

/-- What a connector keeps in order, whatever its past: it dials and waits to dial only while it
connects, it has a channel while it stops, and none while it connects. -/
structure Tidy (c : Connector) : Prop where
  dial : c.dial ≠ none → c.snapshot.status = .connecting
  reconnect : c.snapshot.parts.reconnectTimer ≠ none → c.snapshot.status = .connecting
  channel : c.snapshot.status = .connecting → c.snapshot.parts.channel = none
  stopping : c.snapshot.status = .stopping →
    c.snapshot.parts.channel ≠ none ∧ c.snapshot.parts.pingTimer = none ∧
      c.snapshot.parts.pongTimer = none

section Turns

variable {c c' : Connector} {k : Command}

theorem Tidy.dial_eq_none (h : c.Tidy) (hs : c.snapshot.status ≠ .connecting) : c.dial = none := by
  cases hd : c.dial with
  | none => rfl
  | some d => exact absurd (h.dial (by simp [hd])) hs

theorem Tidy.reconnect_eq_none (h : c.Tidy) (hs : c.snapshot.status ≠ .connecting) :
    c.snapshot.parts.reconnectTimer = none := by
  cases ht : c.snapshot.parts.reconnectTimer with
  | none => rfl
  | some t => exact absurd (h.reconnect (by simp [ht])) hs

theorem Tidy.timers_of_stopping (h : c.Tidy) (hs : c.snapshot.status = .stopping) :
    c.snapshot.timers = [] := by
  obtain ⟨-, hping, hpong⟩ := h.stopping hs
  simp [Snapshot.timers, h.reconnect_eq_none (by simp [hs]), hping, hpong]

theorem cancelDial_of_none (h : c.dial = none) : c.cancelDial = c := by
  unfold cancelDial
  rw [h]

theorem Aside.refl (c : Connector) : Aside c c := by
  have h := Aside.mk c.now c.session c.resume c.pendingLogin (c := c) [] (by simp)
  rwa [List.append_nil] at h

theorem Turn.aside {m : Moment} (ha : Aside c c') (hattempt : m.attempt? = none)
    (hfiring : m.firing? = none) (htimely : c.untimely m = false) : Turn c m none c' :=
  .idle ha (by simp [hattempt]) (by simp [hfiring]) htimely

theorem Turn.refused (k : Command) : Turn c (.command k) none c :=
  .aside (.refl c) rfl rfl rfl

theorem turn_start (h : c.Tidy) :
    Turn c (.command .start) (c.onStart.1.toOption.map fun s => (.start, s)) c.onStart.2 := by
  unfold onStart newSignal
  dsimp only
  split
  · exact .refused .start
  · next s hs =>
    obtain ⟨hallowed, hparts⟩ := Snapshot.step_eq_ok hs
    have hstatus : c.snapshot.status = .stopped := by simpa using hallowed
    have hdial := h.dial_eq_none (by simp [hstatus])
    unfold redial
    rw [cancelDial_of_none (by exact hdial)]
    exact .started hstatus hparts

theorem finishStop_eq (hs : c.snapshot.status = .stopping) (ht : c.snapshot.timers = []) :
    ∃ s stop completed, c.finishStop = { c with snapshot := s, completed } ∧
      c.snapshot.parts.stop = some stop ∧
      s.parts = { c.snapshot.parts with status := .stopped, channel := none } ∧
        Marks c.completed [stop] completed := by
  obtain ⟨-, hstop, -⟩ := (Parts.obeys_stopping hs).1 c.snapshot.obeys
  obtain ⟨stop, hstop⟩ := Option.ne_none_iff_exists'.1 hstop
  obtain ⟨s, hstopped, hparts⟩ := Snapshot.stopped_of_stopping hs ht
  obtain ⟨completed, hcomplete, hmarks⟩ := complete_eq c stop
  have hstop' : s.parts.stop = some stop := by rw [hparts, hstop]
  refine ⟨s, stop, completed, ?_, hstop, hparts, hmarks⟩
  unfold finishStop
  rw [hstopped]
  dsimp only
  rw [hstop']
  dsimp only
  rw [hcomplete]

theorem onStop_eq (c : Connector) : (∃ e, c.onStop = (.error e, c)) ∨
    ∃ s completed more, c.snapshot.stopping (.awaited ⟨c.nextSignal⟩) = .ok s ∧
      Marks c.completed c.snapshot.parts.start.toList completed ∧
      (∀ d, .cancelDial d ∈ more → c.dial = some d) ∧
      c.onStop =
        let c' : Connector := { c with
          snapshot := s
          pendingLogin := none
          dial := none
          nextSignal := c.nextSignal + 1
          completed
          timers := c.timers.cancelAll c.snapshot.timers
          wishes := c.wishes ++ more }
        match s.parts.channel with
        | some link => (.ok (.awaited ⟨c.nextSignal⟩), c'.wish (.close link))
        | none => (.ok (.awaited ⟨c.nextSignal⟩), c'.finishStop) := by
  unfold onStop newSignal
  dsimp only
  cases hs : c.snapshot.stopping (.awaited ⟨c.nextSignal⟩) with
  | error e => exact .inl ⟨_, rfl⟩
  | ok s =>
    right
    obtain ⟨more, hdial, hspared⟩ :=
      cancelDial_eq ({ c with nextSignal := c.nextSignal + 1 } : Connector).cancelTimers
    obtain ⟨completed, hcomplete, hmarks⟩ := completeStart_eq
      { ({ c with nextSignal := c.nextSignal + 1 } : Connector).cancelTimers.cancelDial with
        pendingLogin := none }
    rw [hdial] at hcomplete hmarks
    refine ⟨s, completed, more, rfl, hmarks, hspared, ?_⟩
    dsimp only
    rw [hdial, hcomplete]
    rfl

theorem turn_stop (h : c.Tidy) (hk : k = .stop ∨ k = .signoff) (session : Option SessionId)
    (resume : Option Resume) (more : List Wish) (spared : ∀ d, Wish.cancelDial d ∉ more)
    (hsame : c.snapshot.status = .connecting → session = c.session ∧ resume = c.resume) :
    Turn c (.command k)
      (({ c with session, resume, wishes := c.wishes ++ more } :
        Connector).onStop.1.toOption.map fun s => (k, s))
      ({ c with session, resume, wishes := c.wishes ++ more } : Connector).onStop.2 := by
  rcases onStop_eq { c with session, resume, wishes := c.wishes ++ more } with
    ⟨e, heq⟩ | ⟨s, completed, asked, hs, hmarks, hasked, heq⟩
  · rw [heq]
    exact .aside (.mk c.now session resume c.pendingLogin more spared) rfl rfl rfl
  · rw [heq]
    obtain ⟨hallowed, hparts⟩ := Snapshot.step_eq_ok hs
    have hstatus : c.snapshot.status = .connecting ∨ c.snapshot.Attached := by
      simpa [Snapshot.Attached] using hallowed
    rcases hstatus with hstatus | hstatus
    · obtain ⟨rfl, rfl⟩ := hsame hstatus
      have hchannel : s.parts.channel = none := by
        rw [hparts]
        exact h.channel hstatus
      obtain ⟨s', stop, completed', hfinish, hstop, hparts', hmarks'⟩ := finishStop_eq
        (c := { c with
          snapshot := s
          pendingLogin := none
          dial := none
          nextSignal := c.nextSignal + 1
          completed
          timers := c.timers.cancelAll c.snapshot.timers
          wishes := c.wishes ++ more ++ asked }) (congrArg Parts.status hparts)
            (by simp [Snapshot.timers, hparts])
      rw [hparts] at hstop hparts'
      obtain rfl := Option.some.inj hstop
      simp only [hchannel]
      rw [hfinish, List.append_assoc]
      refine .halted hk hstatus hparts' (hmarks.append hmarks') ?_
      intro d hd
      exact hasked d ((List.mem_append.1 hd).resolve_left (spared d))
    · obtain ⟨link, hlink⟩ := Option.ne_none_iff_exists'.1 (Snapshot.attached_parts hstatus).2.2.1
      have hchannel : s.parts.channel = some link := by
        rw [hparts]
        exact hlink
      have hdial := h.dial_eq_none hstatus.ne_connecting
      simp only [hchannel, wish]
      rw [List.append_assoc, List.append_assoc, ← hdial]
      refine .stopping hk hstatus hlink hparts hmarks (by simp) ?_
      intro d hd
      rcases List.mem_append.1 hd with hd | hd
      · exact spared d hd
      rcases List.mem_append.1 hd with hd | hd
      · exact absurd (hasked d hd) (by simp [hdial])
      · simp at hd

theorem turn_emergencyStop (h : c.Tidy) : Turn c (.command .emergencyStop)
    (c.onEmergencyStop.1.toOption.map fun s => (.emergencyStop, s)) c.onEmergencyStop.2 := by
  unfold onEmergencyStop
  cases hs : c.snapshot.emergencyStopped with
  | error e => exact .refused .emergencyStop
  | ok s =>
    obtain ⟨hallowed, hparts⟩ := Snapshot.step_eq_ok hs
    have hstatus : c.snapshot.Attached ∨ c.snapshot.status = .stopping := by
      simpa [Snapshot.Attached, or_assoc] using hallowed
    have hdial := h.dial_eq_none (by rcases hstatus with (h | h) | h <;> simp [h])
    have hstop : s.parts.stop.getD .settled = c.snapshot.parts.stop.getD .settled := by
      simp [hparts]
    obtain ⟨more, hclose, hspared⟩ := closeLink_eq { c.cancelTimers with pendingLogin := none }
    obtain ⟨completed, hstart, hmarks⟩ := completeStart_eq
      ({ c.cancelTimers with pendingLogin := none } : Connector).closeLink
    rw [hclose] at hstart hmarks
    obtain ⟨completed', hcomplete, hmarks'⟩ := complete_eq
      ({ c.cancelTimers with pendingLogin := none } : Connector).closeLink.completeStart
      (c.snapshot.parts.stop.getD .settled)
    rw [hclose, hstart] at hcomplete hmarks'
    dsimp only
    rw [cancelDial_of_none (by exact hdial), hstop, hclose, hstart, hcomplete]
    exact .abandoned hstatus rfl hparts (hmarks.append hmarks') hspared

theorem turn_signoff (h : c.Tidy) :
    Turn c (.command .signoff) (c.onSignoff.1.toOption.map fun s => (.signoff, s))
      c.onSignoff.2 := by
  unfold onSignoff
  split
  · exact .refused .signoff
  · next hstatus =>
    have hstatus : c.snapshot.status = .signedIn := by simpa using hstatus
    have hsame : c.snapshot.status = .connecting → none = c.session ∧ none = c.resume := by
      simp [hstatus]
    cases hlink : c.link? with
    | some link =>
      exact turn_stop h (.inr rfl) none none [.send link (.text Phase.signoff.encode)]
        (by simp) hsame
    | none =>
      have hturn := turn_stop h (.inr rfl) none none [] (by simp) hsame
      rw [List.append_nil] at hturn
      exact hturn

/-- **A command.** -/
theorem turn_command (h : c.Tidy) (k : Command) :
    Turn c (.command k) (c.returned? (.command k)) (c.step (.command k)) := by
  cases k with
  | start => exact turn_start h
  | stop =>
    have hturn := turn_stop h (.inl rfl) c.session c.resume [] (by simp) (by simp)
    rw [List.append_nil] at hturn
    exact hturn
  | emergencyStop => exact turn_emergencyStop h
  | signoff => exact turn_signoff h

end Turns

/-! ### Events -/

section Events

variable {c : Connector} {link : LinkId} {t : Timer} {m : Moment}

/-- A connector has a link while the server is there, and while it stops. -/
theorem Tidy.attached_of_link (h : c.Tidy) (hl : c.link? = some link)
    (hs : c.snapshot.status ≠ .stopping) :
    c.snapshot.Attached := by
  have hchannel : c.snapshot.parts.channel ≠ none := by
    simp [show c.snapshot.parts.channel = some link from hl]
  cases hstatus : c.snapshot.status with
  | stopped => exact absurd ((Parts.obeys_stopped hstatus).1 c.snapshot.obeys).2.2.1 hchannel
  | connecting => exact absurd (h.channel hstatus) hchannel
  | connected => exact .inl hstatus
  | signedIn => exact .inr hstatus
  | stopping => exact absurd hstatus hs

theorem Tidy.attached_of_heartbeat (h : c.Tidy)
    (ht : c.snapshot.parts.pingTimer ≠ none ∨ c.snapshot.parts.pongTimer ≠ none) :
    c.snapshot.Attached := by
  have hnot (hping : c.snapshot.parts.pingTimer = none)
    (hpong : c.snapshot.parts.pongTimer = none) :
      c.snapshot.Attached := by simp [hping, hpong] at ht
  cases hstatus : c.snapshot.status with
  | stopped =>
    obtain ⟨-, -, -, -, -, hping, hpong⟩ := (Parts.obeys_stopped hstatus).1 c.snapshot.obeys
    exact hnot hping hpong
  | connecting =>
    obtain ⟨-, -, hping, hpong⟩ := (Parts.obeys_connecting hstatus).1 c.snapshot.obeys
    exact hnot hping hpong
  | connected => exact .inl hstatus
  | signedIn => exact .inr hstatus
  | stopping =>
    obtain ⟨-, hping, hpong⟩ := h.stopping hstatus
    exact hnot hping hpong

theorem loseChannel_eq (c : Connector) : ∃ timer timers,
    ((c.timers.cancelAll c.snapshot.timers).Schedules .reconnect timer timers ∧ c.Delays timer) ∧
      c.loseChannel = (take { c with pendingLogin := none, timers }
        (c.snapshot.channelLost timer)).2 := by
  refine ⟨_, _, ⟨Timers.schedules_reconnect _ c.now c.policy, ?_⟩, rfl⟩
  unfold Delays
  rw [← Timers.words_cancelAll (l := c.snapshot.timers)]
  rfl

theorem turn_lost (hs : c.snapshot.Attached) (more : List Wish)
    (spared : ∀ d, Wish.cancelDial d ∉ more) :
    Turn c m none ({ c with wishes := c.wishes ++ more } : Connector).loseChannel := by
  obtain ⟨timer, timers, hscheduled, heq⟩ := loseChannel_eq { c with wishes := c.wishes ++ more }
  obtain ⟨s, hlost, hparts⟩ := Snapshot.channelLost_of_attached hs timer
  rw [heq]
  dsimp only
  rw [hlost]
  exact .lost hs hparts hscheduled.1 spared hscheduled.2

theorem turn_misled (hs : c.snapshot.status = .stopping) (hm : c.untimely m = true)
    (more : List Wish) (spared : ∀ d, Wish.cancelDial d ∉ more) :
    Turn c m none ({ c with wishes := c.wishes ++ more } : Connector).loseChannel := by
  obtain ⟨timer, timers, hscheduled, heq⟩ := loseChannel_eq { c with wishes := c.wishes ++ more }
  rw [heq]
  dsimp only
  rw [Snapshot.channelLost_of_stopping hs]
  exact .misled hs hm hscheduled.1 spared hscheduled.2

theorem turn_closedLink (h : c.Tidy) (hl : c.link? = some link) :
    Turn c (.event (.linkClosed link)) none (c.onLinkClosed link) := by
  unfold onLinkClosed
  rw [if_neg (by simp [hl])]
  split
  · next hs =>
    obtain ⟨s, stop, completed, hfinish, hstop, hparts, hmarks⟩ :=
      finishStop_eq hs (h.timers_of_stopping hs)
    rw [hfinish]
    exact .stopped hs hstop hparts hmarks
  · next hs =>
    have hturn := turn_lost (m := .event (.linkClosed link)) (h.attached_of_link hl hs) [] (by simp)
    rwa [List.append_nil] at hturn

/-- What the connector does when a link is open: no session is needed, or it asks for one. -/
theorem beginSignon_eq {server : Descriptor} (hl : c.link? = some link)
    (hd : c.snapshot.parts.descriptor = some server) :
    ∃ completed more, c.beginSignon = { c with completed, wishes := c.wishes ++ more } ∧
      Marks c.completed (if server.authenticationRequired then []
        else c.snapshot.parts.start.toList) completed ∧
      ∀ d, Wish.cancelDial d ∉ more := by
  cases hneeded : server.authenticationRequired with
  | false =>
    have heq : c.beginSignon = c.completeStart := by simp [beginSignon, hl, hd, hneeded]
    obtain ⟨completed, hstart, hmarks⟩ := completeStart_eq c
    refine ⟨completed, [], ?_, hmarks, by simp⟩
    rw [heq, hstart, List.append_nil]
  | true =>
    have hnone : Marks c.completed [] c.completed := by simp [Marks]
    rcases Option.eq_none_or_eq_some c.resume with hr | ⟨r, hr⟩
    · have heq : c.beginSignon = c.ask link .credentials := by
        simp [beginSignon, hl, hd, hneeded, hr]
      obtain ⟨more, hask, hspared⟩ := ask_eq c link .credentials
      exact ⟨c.completed, more, heq.trans hask, hnone, hspared⟩
    · have heq : c.beginSignon = c.sendPhase link (.resumeSession r.session) := by
        simp [beginSignon, hl, hd, hneeded, hr]
      exact ⟨c.completed, [.send link (.text (Phase.resumeSession r.session).encode)],
        heq, hnone, by simp⟩

theorem onDialFailed_eq (c : Connector) : ∃ timer timers,
    (c.timers.Schedules .reconnect timer timers ∧ c.Delays timer) ∧
      c.onDialFailed = (take { c with timers } (c.snapshot.reconnectPlanned timer)).2 :=
  ⟨_, _, ⟨Timers.schedules_reconnect _ _ _, rfl⟩, rfl⟩

theorem turn_dialed (h : c.Tidy) (d : DialId) (result : Option Descriptor) :
    Turn c (.event (.dialed d result)) none (c.onDialed d result) := by
  unfold onDialed
  split
  · next hd =>
    refine .idle (.refl c) ?_ (by simp [Moment.firing?]) rfl
    rintro d' ⟨⟩
    exact hd
  · next hd =>
    have hd : c.dial = some d := by simpa using hd
    have hs := h.dial (by simp [hd])
    dsimp only
    rw [if_neg (by simp [hs])]
    cases result with
    | none =>
      obtain ⟨timer, timers, hscheduled, heq⟩ := onDialFailed_eq { c with dial := none }
      obtain ⟨s, hplanned, hparts⟩ := Snapshot.reconnectPlanned_of_connecting hs timer
      dsimp only
      rw [heq, hplanned]
      exact .failed hd hs hparts hscheduled.1 hscheduled.2
    | some server =>
      have hscheduled := Timers.schedules_ping c.timers c.now server.boundary
      generalize hdrawn : c.timers.schedulePing c.now server.boundary = drawn at hscheduled
      obtain ⟨s₁, s, hestablished, hconnected, hparts⟩ :=
        Snapshot.connected_of_connecting hs (⟨c.nextLink⟩ : LinkId) server drawn.1
      have hl : s.parts.channel = some ⟨c.nextLink⟩ := by rw [hparts]
      have hserver : s.parts.descriptor = some server := by rw [hparts]
      obtain ⟨completed, more, hbegin, hmarks, hspared⟩ := beginSignon_eq
        (c := { c with snapshot := s, dial := none, nextLink := c.nextLink + 1, timers := drawn.2 })
        hl hserver
      unfold onDialSucceeded
      dsimp only
      rw [hdrawn, hestablished]
      dsimp only
      rw [hconnected]
      dsimp only [take]
      rw [hbegin]
      refine .opened hd hs hparts hscheduled ?_ hspared
      simpa only [hparts] using hmarks

theorem onPong_eq (ht : c.snapshot.parts.pongTimer = some t) : ∃ timer timers,
    (c.timers.cancel t.id).Schedules .ping timer timers ∧
      c.onPong = (take { c with timers } (c.snapshot.nextPingPlanned timer)).2 := by
  unfold onPong
  rw [ht]
  exact ⟨_, _, Timers.schedules_ping _ _ _, rfl⟩

theorem turn_pong (h : c.Tidy) (link : LinkId) : Turn c (.event (.pong link)) none c.onPong := by
  rcases Option.eq_none_or_eq_some c.snapshot.parts.pongTimer with ht | ⟨t, ht⟩
  · have heq : c.onPong = c := by
      unfold onPong
      rw [ht]
    rw [heq]
    exact .aside (.refl c) rfl rfl rfl
  · have hs := h.attached_of_heartbeat (.inr (by simp [ht]))
    obtain ⟨timer, timers, hscheduled, heq⟩ := onPong_eq ht
    obtain ⟨s, hplanned, hparts⟩ := Snapshot.nextPingPlanned_of_attached hs timer
    rw [heq, hplanned]
    exact .ponged hs ht hparts hscheduled

/-- A timer that the snapshot does not hold does nothing. -/
theorem turn_stale {id : TimerId} {kind : TimerKind}
    (hstale : c.snapshot.onFired id kind = .stale) :
    Turn c (.event (.timerFired id kind)) none c := by
  refine .idle (.refl c) (by simp [Moment.attempt?]) ?_ rfl
  rintro id' kind' t ⟨⟩ ht rfl
  simp only [Snapshot.onFired, ht, if_true] at hstale
  cases kind <;> simp [TimerAction.ofKind] at hstale

theorem onPing_eq (hl : c.link? = some link) {id : TimerId}
    (ht : c.snapshot.onFired id .ping = .sendPing) :
    ∃ timer timers, c.timers.Schedules .pongTimeout timer timers ∧
      c.onTimer id .ping = (take { c with timers, wishes := c.wishes ++ [.send link .ping] }
        (c.snapshot.pongTimeoutPlanned timer)).2 := by
  unfold onTimer
  rw [ht, hl]
  exact ⟨_, _, Timers.schedules_pongTimeout _ _ _, rfl⟩

theorem redial_eq (c : Connector) : ∃ more timeout, (∀ d, .cancelDial d ∈ more → c.dial = some d) ∧
    c.redial = { c with
      dial := some ⟨c.nextDial⟩
      nextDial := c.nextDial + 1
      wishes := c.wishes ++ more ++ [.dial ⟨c.nextDial⟩ timeout] } := by
  obtain ⟨more, hdial, hspared⟩ := cancelDial_eq c
  unfold redial
  rw [hdial]
  exact ⟨more, _, hspared, rfl⟩

theorem turn_timer (h : c.Tidy) (id : TimerId) (kind : TimerKind) :
    Turn c (.event (.timerFired id kind)) none (c.onTimer id kind) := by
  have hheld : c.snapshot.onFired id kind = .stale ∨
      ∃ t, c.snapshot.timerOf kind = some t ∧ t.id = id ∧ c.snapshot.onFired id kind =
        .ofKind kind := by
    unfold Snapshot.onFired
    split
    · next t ht =>
      split
      · next hid => exact .inr ⟨t, ht, hid, rfl⟩
      · exact .inl rfl
    · exact .inl rfl
  rcases hheld with hstale | ⟨t, ht, rfl, hfired⟩
  · have heq : c.onTimer id kind = c := by
      unfold onTimer
      rw [hstale]
    rw [heq]
    exact turn_stale hstale
  · cases kind with
    | reconnect =>
      have heq : c.onTimer t.id .reconnect = c.redial := by
        unfold onTimer
        rw [hfired]
        rfl
      have ht : c.snapshot.parts.reconnectTimer = some t := ht
      have hs := h.reconnect (by simp [ht])
      obtain ⟨more, timeout, hspared, hredial⟩ := redial_eq c
      rw [heq, hredial]
      exact .redialed hs ht hspared
    | ping =>
      have ht : c.snapshot.parts.pingTimer = some t := ht
      have hs := h.attached_of_heartbeat (.inl (by simp [ht]))
      obtain ⟨link, hl⟩ := Option.ne_none_iff_exists'.1 (Snapshot.attached_parts hs).2.2.1
      obtain ⟨timer, timers, hscheduled, heq⟩ := onPing_eq hl hfired
      obtain ⟨s, hplanned, hparts⟩ := Snapshot.pongTimeoutPlanned_of_attached hs timer
      rw [heq, hplanned]
      exact .pinged hs ht hparts hscheduled (by simp)
    | pongTimeout =>
      have heq : c.onTimer t.id .pongTimeout = c.closeLink.loseChannel := by
        unfold onTimer
        rw [hfired]
        rfl
      have ht : c.snapshot.parts.pongTimer = some t := ht
      have hs := h.attached_of_heartbeat (.inr (by simp [ht]))
      obtain ⟨more, hclose, hspared⟩ := closeLink_eq c
      rw [heq, hclose]
      exact turn_lost hs more hspared

/-- Only a server that says that a resumed session is busy is untimely. -/
theorem untimely_eq_false {text : String} (h : c.resume.isSome = true →
      Phase.decodeText text ≠ some (.ok (.signonFailureNotice .sessionBusy))) :
    c.untimely (.event (.text link text)) = false := by
  cases hr : c.resume.isSome with
  | false => simp [untimely, hr]
  | true =>
    have hne := h hr
    dsimp only [untimely]
    split
    · next heq => exact absurd heq hne
    · simp

theorem aside_ask {c₀ : Connector} (r : Request) (hc : ∃ session resume pendingLogin,
    c₀ = { c with session, resume, pendingLogin }) : Aside c (c₀.ask link r) := by
  obtain ⟨session, resume, pendingLogin, rfl⟩ := hc
  obtain ⟨more, hask, hspared⟩ := ask_eq { c with session, resume, pendingLogin } link r
  rw [hask]
  exact .mk c.now session resume pendingLogin more hspared

theorem aside_wish {w : Wish} {pendingLogin : Option String} (hw : ∀ d, w ≠ .cancelDial d) :
    Aside c (wish { c with pendingLogin } w) :=
  .mk c.now c.session c.resume pendingLogin [w] fun d hd => hw d (List.mem_singleton.1 hd).symm

/-- Whom a connector signs in as, should the server accept it now. -/
def nextLogin (c : Connector) : String :=
  ((c.pendingLogin.or (c.resume.map Resume.login)).or c.snapshot.parts.login).getD ""

theorem onSessionValid_eq (hs : c.snapshot.status = .connected) (x : SessionId) : ∃ s completed,
    s.parts = { c.snapshot.parts with status := .signedIn, login := some c.nextLogin } ∧
      Marks c.completed c.snapshot.parts.start.toList completed ∧
      c.onSessionValid x = { c with
        snapshot := s
        session := some x
        resume := some ⟨x, c.nextLogin⟩
        pendingLogin := none
        completed } := by
  obtain ⟨s, hsigned, hparts⟩ := Snapshot.signedIn_of_connected hs c.nextLogin
  obtain ⟨completed, hstart, hmarks⟩ := completeStart_eq
    { c with
      pendingLogin := none
      snapshot := s
      session := some x
      resume := some ⟨x, c.nextLogin⟩ }
  refine ⟨s, completed, hparts, by simpa only [hparts] using hmarks, ?_⟩
  unfold nextLogin at hsigned hstart ⊢
  unfold onSessionValid
  rw [if_neg (not_not.2 hs)]
  dsimp only
  rw [hsigned]
  exact hstart

theorem turn_sessionValid {text : String} {x : SessionId}
    (htext : Phase.decodeText text = some (.ok (.sessionValid x))) :
    Turn c (.event (.text link text)) none (c.onSessionValid x) := by
  by_cases hs : c.snapshot.status = .connected
  · obtain ⟨s, completed, hparts, hmarks, heq⟩ := onSessionValid_eq hs x
    rw [heq]
    exact .signedIn hs hparts hmarks
  · have heq : c.onSessionValid x = c := if_pos hs
    rw [heq]
    exact .aside (.refl c) rfl rfl (untimely_eq_false (by simp [htext]))

theorem turn_failure (h : c.Tidy) {text : String} {failure : Failure} (hl : c.link? = some link)
    (htext : Phase.decodeText text = some (.ok (.signonFailureNotice failure))) :
    Turn c (.event (.text link text)) none (c.onFailure link failure) := by
  unfold onFailure
  dsimp only
  split
  · next hunknown =>
    obtain ⟨rfl, -⟩ := hunknown
    exact .aside (aside_ask .credentials ⟨none, none, none, rfl⟩) rfl rfl
      (untimely_eq_false (by simp [htext]))
  · split
    · next hbusy =>
      obtain ⟨rfl, hresume⟩ := hbusy
      obtain ⟨more, hclose, hspared⟩ := closeLink_eq { c with pendingLogin := none }
      -- the channel is lost, and its login is forgotten twice
      have heq : loseChannel (closeLink { c with pendingLogin := none }) =
          ({ c with wishes := c.wishes ++ more } : Connector).loseChannel := by
        rw [hclose]
        rfl
      rw [heq]
      by_cases hs : c.snapshot.status = .stopping
      · exact turn_misled hs (by simp [untimely, hs, hl, hresume, htext]) more hspared
      · exact turn_lost (h.attached_of_link hl hs) more hspared
    · next hbusy =>
      refine .aside (aside_ask (.signonFailed failure) ⟨c.session, c.resume, none, rfl⟩) rfl rfl ?_
      apply untimely_eq_false
      intro hresume he
      rw [htext] at he
      obtain rfl : failure = .sessionBusy := by simpa using he
      exact hbusy ⟨rfl, hresume⟩

theorem turn_text (h : c.Tidy) (text : String) (hl : c.link? = some link) :
    Turn c (.event (.text link text)) none (c.onText link text) := by
  unfold onText
  cases htext : Phase.decodeText text with
  | none =>
    have htimely : c.untimely (.event (.text link text)) = false :=
      untimely_eq_false (by simp [htext])
    dsimp only
    split
    · exact .aside (aside_wish (by simp)) rfl rfl htimely
    · exact .aside (.refl c) rfl rfl htimely
  | some decoded =>
    cases decoded with
    | error e => exact .aside (.refl c) rfl rfl (untimely_eq_false (by simp [htext]))
    | ok p =>
      dsimp only
      unfold onPhase
      split
      · exact turn_sessionValid htext
      · exact turn_failure h hl htext
      · exact .aside (aside_ask _ ⟨c.session, c.resume, c.pendingLogin, rfl⟩) rfl rfl
          (untimely_eq_false (by simp [htext]))
      · next hsession hfailure hsecondary =>
        refine .aside (.refl c) rfl rfl (untimely_eq_false ?_)
        intro _ he
        rw [htext] at he
        exact hfailure .sessionBusy (by simpa using he)

theorem turn_credentials (link : LinkId) (supplied : Option Credentials) :
    Turn c (.event (.credentials link supplied)) none (c.onCredentials link supplied) := by
  unfold onCredentials
  split
  · exact .aside (.refl c) rfl rfl rfl
  · cases supplied with
    | none => exact .aside (.refl c) rfl rfl rfl
    | some credentials => exact .aside (aside_wish (by simp)) rfl rfl rfl

theorem turn_secondaryCode (link : LinkId) (token : Token) (supplied : Option Secret) :
    Turn c (.event (.secondaryCode link token supplied)) none
      (c.onSecondaryCode link token supplied) := by
  unfold onSecondaryCode
  split
  · exact .aside (.refl c) rfl rfl rfl
  · cases supplied with
    | none => exact .aside (.refl c) rfl rfl rfl
    | some code => exact .aside (aside_wish (by simp)) rfl rfl rfl

/-- **An event.** -/
theorem turn_event (h : c.Tidy) (e : Event) : Turn c (.event e) none (c.handle e) := by
  unfold handle
  cases e with
  | dialed d result => exact turn_dialed h d result
  | text link text =>
    dsimp only
    split
    · next hl => exact turn_text h text hl
    · next hl => exact .aside (.refl c) rfl rfl (by simp [untimely, hl])
  | pong link =>
    dsimp only
    split
    · exact turn_pong h link
    · exact .aside (.refl c) rfl rfl rfl
  | linkClosed link =>
    by_cases hl : c.link? = some link
    · exact turn_closedLink h hl
    · have heq : c.onLinkClosed link = c := by
        unfold onLinkClosed
        rw [if_pos hl]
      dsimp only
      rw [heq]
      exact .aside (.refl c) rfl rfl rfl
  | credentials link supplied => exact turn_credentials link supplied
  | secondaryCode link token supplied => exact turn_secondaryCode link token supplied
  | timerFired id kind => exact turn_timer h id kind

/-- **What any moment does.** -/
theorem turn (h : c.Tidy) (m : Moment) : Turn c m (c.returned? m) (c.step m) := by
  cases m with
  | command k => exact turn_command h k
  | event e => exact turn_event h e
  | send text =>
    refine .aside ?_ rfl rfl rfl
    show Aside c (c.send text).2
    unfold send
    split
    · exact aside_wish (by simp)
    · exact .refl c
  | advance ms =>
    refine .aside ?_ rfl rfl rfl
    have h := Aside.mk (c := c) (c.now + ms) c.session c.resume c.pendingLogin [] (by simp)
    rwa [List.append_nil] at h

end Events

/-! ### Runs -/

section Runs

variable {c c' : Connector} {m : Moment} {o : Option (Command × Signal)} {u : Setup}
  {past : List Moment}

/-- A turn leaves nothing out of place. -/
theorem Tidy.turn (h : c.Tidy) (ht : Turn c m o c') : c'.Tidy := by
  cases ht with
  | idle aside =>
    cases aside
    exact ⟨h.dial, h.reconnect, h.channel, h.stopping⟩
  | started status parts => constructor <;> simp [Snapshot.status, parts]
  | stopping command status channel parts =>
    have hdial := h.dial_eq_none status.ne_connecting
    constructor <;> simp [Snapshot.status, parts, hdial, channel]
  | halted command status parts => constructor <;> simp [Snapshot.status, parts]
  | abandoned status signal parts =>
    have hdial := h.dial_eq_none (by rcases status with (h | h) | h <;> simp [h])
    constructor <;> simp [Snapshot.status, parts, hdial]
  | stopped status signal parts =>
    have hdial := h.dial_eq_none (by simp [status])
    have hreconnect := h.reconnect_eq_none (by simp [status])
    constructor <;> simp [Snapshot.status, parts, hdial, hreconnect]
  | failed dial status parts =>
    have hstatus : c.snapshot.parts.status = .connecting := status
    constructor <;> simp [Snapshot.status, parts, hstatus]
  | opened dial status parts => constructor <;> simp [Snapshot.status, parts]
  | redialed status held => exact ⟨fun _ => status, h.reconnect, h.channel, h.stopping⟩
  | lost status parts => constructor <;> simp [Snapshot.status, parts]
  | misled status => exact ⟨h.dial, h.reconnect, h.channel, h.stopping⟩
  | pinged status held parts | ponged status held parts =>
    have hne := status.ne_connecting
    have hne' := status.ne_stopping
    have hdial := h.dial_eq_none hne
    have hreconnect := h.reconnect_eq_none hne
    unfold Snapshot.status at hne hne'
    constructor <;> simp [Snapshot.status, parts, hdial, hreconnect, hne, hne']
  | signedIn status parts =>
    have hdial := h.dial_eq_none (by simp [status])
    have hreconnect := h.reconnect_eq_none (by simp [status])
    constructor <;> simp [Snapshot.status, parts, hdial, hreconnect]

theorem tidy_connector (u : Setup) : u.connector.Tidy := by
  constructor <;> simp [Setup.connector, Snapshot.initial, Snapshot.status]

theorem tidy_after (u : Setup) (past : List Moment) : (u.after past).Tidy := by
  induction past using List.reverseRecOn with
  | nil => exact tidy_connector u
  | append_singleton past m ih =>
    rw [Setup.after_snoc]
    exact ih.turn (turn ih m)

/-- **Every moment of a run** is a turn. -/
theorem turn_after (u : Setup) (past : List Moment) (m : Moment) :
    Turn (u.after past) m ((u.after past).returned? m) (u.after (past ++ [m])) := by
  rw [Setup.after_snoc]
  exact Connector.turn (tidy_after u past) m

end Runs

end Connector

end DurableSession.Client
