import DurableSession.Proofs.Client.Turns

/-!
A command is carried out in full, or nothing of it is.

A command makes its new snapshot before it does anything that cannot be taken back, and a signoff,
which sends its frame first, asks for a stop that is never refused then. Main statements: one lemma
for each command that is granted, and `whole_after`.
-/

namespace DurableSession.Client

open Lifecycle (Phase)

/-! ### When a command is granted -/

namespace Command

def sources : Command → List Status
  | start => [.stopped]
  | stop => [.connecting, .connected, .signedIn]
  | emergencyStop => [.connected, .signedIn, .stopping]
  | signoff => [.signedIn]

def attempted : Command → String
  | start => "start_connecting"
  | stop => "stopping"
  | emergencyStop => "emergency_stopped"
  | signoff => "signoff"

/-- The statuses that a command leads to: a stop is over at once if there is no channel to be
closed. -/
def targets : Command → List Status
  | start => [.connecting]
  | stop => [.stopping, .stopped]
  | emergencyStop => [.stopped]
  | signoff => [.stopping]

end Command

namespace Connector

variable {c c' : Connector} {k : Command} {m : Moment} {o : Option (Command × Signal)} {u : Setup}
  {past : List Moment}

/-- **A refused command** leaves the connector as it was, and says what was attempted in which
status. -/
theorem command_of_refused (h : c.snapshot.status ∉ k.sources) :
    c.command k = (.error (.snapshot (.transition k.attempted c.snapshot.status)), c) := by
  cases k with
  | start =>
    have hrefused : c.snapshot.startConnecting (.awaited ⟨c.nextSignal⟩) ⟨"", false, c.boundary⟩ =
        .error (.transition "start_connecting" c.snapshot.status) := Snapshot.step_of_not_mem h
    simp only [command, onStart, newSignal, hrefused, Command.attempted]
  | stop =>
    have hrefused : c.snapshot.stopping (.awaited ⟨c.nextSignal⟩) =
        .error (.transition "stopping" c.snapshot.status) := Snapshot.step_of_not_mem h
    simp only [command, onStop, newSignal, hrefused, Command.attempted]
  | emergencyStop =>
    have hrefused : c.snapshot.emergencyStopped =
        .error (.transition "emergency_stopped" c.snapshot.status) := Snapshot.step_of_not_mem h
    simp only [command, onEmergencyStop, hrefused, Command.attempted]
  | signoff =>
    have hstatus : c.snapshot.status ≠ .signedIn := by simpa [Command.sources] using h
    exact if_pos hstatus

theorem onStart_of_stopped (h : c.snapshot.status = .stopped) : ∃ s, c.onStart.1 = .ok s := by
  obtain ⟨s, hs, -⟩ : ∃ s, c.snapshot.startConnecting (.awaited ⟨c.nextSignal⟩) ⟨"", false,
    c.boundary⟩ = .ok s ∧
      s.parts = _ :=
    Snapshot.step_of_obeys (by simp [h]) ((Parts.obeys_connecting rfl).2 ⟨by simp, rfl, rfl, rfl⟩)
  exact ⟨.awaited ⟨c.nextSignal⟩, by simp only [onStart, newSignal, hs]⟩

theorem onStop_of_stopping {s : Snapshot LinkId}
    (h : c.snapshot.stopping (.awaited ⟨c.nextSignal⟩) = .ok s) :
    c.onStop.1 = .ok (.awaited ⟨c.nextSignal⟩) := by
  simp only [onStop, newSignal, h]
  split <;> rfl

theorem onEmergencyStop_of_allowed (h : c.snapshot.status ∈ Command.emergencyStop.sources) :
    ∃ s, c.onEmergencyStop.1 = .ok s := by
  obtain ⟨s, hs, -⟩ : ∃ s, c.snapshot.emergencyStopped = .ok s ∧ s.parts = _ :=
    Snapshot.step_of_obeys h ((Parts.obeys_stopped rfl).2 ⟨rfl, by simp, rfl, rfl, rfl, rfl, rfl⟩)
  simp only [onEmergencyStop, hs]
  exact ⟨_, rfl⟩

/-- What a stop sends when there is a channel: nothing but the wish that it be closed. -/
theorem onStop_of_attached (h : c.Tidy) (hs : c.snapshot.Attached) : ∃ s link completed,
    c.snapshot.stopping (.awaited ⟨c.nextSignal⟩) = .ok s ∧ c.link? = some link ∧
      c.onStop = (.ok (.awaited ⟨c.nextSignal⟩), { c with
        snapshot := s
        pendingLogin := none
        nextSignal := c.nextSignal + 1
        completed
        timers := c.timers.cancelAll c.snapshot.timers
        wishes := c.wishes ++ [.close link] }) := by
  obtain ⟨-, -, hchannel, hdescriptor⟩ := Snapshot.attached_parts hs
  obtain ⟨link, hlink⟩ := Option.ne_none_iff_exists'.1 hchannel
  obtain ⟨s, hstop⟩ := Snapshot.stopping_of_descriptor (.inr hs) hdescriptor
    (.awaited ⟨c.nextSignal⟩)
  have hkept : s.parts.channel = some link := by rw [(Snapshot.step_eq_ok hstop).2, hlink]
  have hdial := h.dial_eq_none hs.ne_connecting
  obtain ⟨completed, hstart, -⟩ := completeStart_eq
    { ({ c with nextSignal := c.nextSignal + 1 } : Connector).cancelTimers with
      pendingLogin := none }
  refine ⟨s, link, completed, hstop, hlink, ?_⟩
  simp only [onStop, newSignal, hstop, hkept]
  rw [cancelDial_of_none (by exact hdial), hstart]
  rfl

/-- **A signoff that passes its own check** is carried out to the end: the frame is sent before the
link is closed, the session is forgotten, and the connector stops. -/
theorem onSignoff_of_signedIn (h : c.Tidy) (hs : c.snapshot.status = .signedIn) :
    ∃ link, c.link? = some link ∧
      c.onSignoff.1 = .ok (.awaited ⟨c.nextSignal⟩) ∧
        c.onSignoff.2.wishes = c.wishes ++ [.send link (.text Phase.signoff.encode), .close link] ∧
        c.onSignoff.2.session = none ∧ c.onSignoff.2.resume = none ∧ c.onSignoff.2.snapshot.status =
          .stopping := by
  obtain ⟨link, hlink⟩ := Option.ne_none_iff_exists'.1 (Snapshot.attached_parts (.inr hs)).2.2.1
  have hsignoff : c.onSignoff = ((c.sendPhase link .signoff).forgetSession).onStop := by
    have hlink : c.link? = some link := hlink
    simp only [onSignoff, hs, ne_eq, not_true_eq_false, if_false, hlink]
  have htidy : (c.sendPhase link .signoff).forgetSession.Tidy :=
    ⟨h.dial, h.reconnect, h.channel, h.stopping⟩
  obtain ⟨s, link', completed, hstop, hlink', heq⟩ := onStop_of_attached htidy (.inr hs)
  obtain rfl : link = link' := Option.some.inj (hlink.symm.trans hlink')
  rw [hsignoff, heq]
  exact ⟨link, hlink, rfl, List.append_assoc .., rfl, rfl,
    congrArg Parts.status (Snapshot.step_eq_ok hstop).2⟩

/-! ### Connectors that were reached -/

theorem Turn.descriptor (ht : Turn c m o c')
    (h : c.snapshot.status = .connecting → c.snapshot.parts.descriptor ≠ none) :
    c'.snapshot.status = .connecting → c'.snapshot.parts.descriptor ≠ none := by
  cases ht with
  | idle aside =>
    cases aside
    exact h
  | started status parts => simp [parts]
  | stopping _ _ _ parts | halted _ _ parts | abandoned _ _ parts | stopped _ _ parts
  | opened _ _ parts
  | signedIn _ parts => simp [Snapshot.status, parts]
  | failed dial status parts =>
    intro _
    rw [parts]
    exact h status
  | redialed | misled => exact h
  | lost status parts | pinged status _ parts | ponged status _ parts =>
    intro _
    rw [parts]
    exact (Snapshot.attached_parts status).2.2.2

theorem descriptor_after (u : Setup) (past : List Moment) :
    (u.after past).snapshot.status = .connecting →
      (u.after past).snapshot.parts.descriptor ≠ none := by
  induction past using List.reverseRecOn with
  | nil => simp [Setup.after, Setup.connector, Snapshot.initial, Snapshot.status]
  | append_singleton past m ih => exact (turn_after u past m).descriptor ih

/-- **A command is granted** in each of its statuses. -/
theorem exists_granted (hc : c.Tidy)
    (hd : c.snapshot.status = .connecting → c.snapshot.parts.descriptor ≠ none)
    (h : c.snapshot.status ∈ k.sources) : ∃ s, (c.command k).1 = .ok s := by
  cases k with
  | start => exact onStart_of_stopped (by simpa [Command.sources] using h)
  | stop =>
    have hstatus : c.snapshot.status = .connecting ∨ c.snapshot.Attached := by
      simpa [Command.sources, Snapshot.Attached] using h
    have hdescriptor : c.snapshot.parts.descriptor ≠ none := by
      rcases hstatus with hs | hs
      · exact hd hs
      · exact (Snapshot.attached_parts hs).2.2.2
    obtain ⟨s, hs⟩ := Snapshot.stopping_of_descriptor hstatus hdescriptor (.awaited ⟨c.nextSignal⟩)
    exact ⟨_, onStop_of_stopping hs⟩
  | emergencyStop => exact onEmergencyStop_of_allowed h
  | signoff =>
    obtain ⟨link, -, hgranted, -⟩ := onSignoff_of_signedIn hc (by simpa [Command.sources] using h)
    exact ⟨_, hgranted⟩

/-- A granted command leads to one of its statuses, and its handle is the one that the connector
holds then. -/
theorem Turn.granted {s : Signal} (ht : Turn c (.command k) (some (k, s)) c')
    (hk : c.snapshot.status ∈ k.sources) :
    c'.snapshot.status ∈ k.targets ∧
      (c'.snapshot.parts.start = some s ∨ c'.snapshot.parts.stop = some s) := by
  cases ht with
  | started status parts => simp [Snapshot.status, parts, Command.targets]
  | stopping command status channel parts =>
    rcases command with rfl | rfl <;> simp [Snapshot.status, parts, Command.targets]
  | halted command status parts =>
    rcases command with rfl | rfl
    · simp [Snapshot.status, parts, Command.targets]
    · simp [status, Command.sources] at hk
  | abandoned status signal parts => simp [Snapshot.status, parts, Command.targets]

/-- **All or nothing.** A command that is refused changes no part of the connector: neither the
snapshot, the attempt under way, the session nor the pending login, no timer, no signal, and nothing
that is wanted outside. It is refused exactly outside its statuses, and says so. One that is granted
leads where it should, and a signoff that sends its frame forgets the session, closes the link and
stops. -/
structure Whole (c : Connector) (k : Command) : Prop where
  untouched : ∀ e, (c.command k).1 = .error e → (c.command k).2 = c
  refused_iff : (∃ e, (c.command k).1 = .error e) ↔ c.snapshot.status ∉ k.sources
  reason : ∀ e, (c.command k).1 = .error e →
    e = .snapshot (.transition k.attempted c.snapshot.status)
  granted : ∀ s, (c.command k).1 = .ok s → (c.command k).2.snapshot.status ∈ k.targets ∧
    ((c.command k).2.snapshot.parts.start = some s ∨ (c.command k).2.snapshot.parts.stop = some s)
  signoff : k = .signoff → c.snapshot.status = .signedIn → ∃ link s, c.link? = some link ∧
    (c.command k).1 = .ok s ∧
    (c.command k).2.wishes = c.wishes ++ [.send link (.text Phase.signoff.encode), .close link] ∧
    (c.command k).2.session = none ∧ (c.command k).2.resume = none

theorem whole_after (u : Setup) (past : List Moment) (k : Command) : Whole (u.after past) k := by
  have hc := tidy_after u past
  have hd := descriptor_after u past
  have hturn := turn_command hc k
  generalize u.after past = c at hc hd hturn
  by_cases hk : c.snapshot.status ∈ k.sources
  · obtain ⟨s, hs⟩ := exists_granted hc hd hk
    have hreturned : c.returned? (.command k) = some (k, s) := by
      simp [returned?, hs, Except.toOption]
    rw [hreturned] at hturn
    refine ⟨?_, ?_, ?_, ?_, ?_⟩
    · simp [hs]
    · simp [hs, hk]
    · simp [hs]
    · intro s' hs'
      obtain rfl : s = s' := Except.ok.inj (hs.symm.trans hs')
      exact hturn.granted hk
    · rintro rfl hstatus
      obtain ⟨link, hlink, hgranted, hwishes, hsession, hresume, -⟩ :=
        onSignoff_of_signedIn hc hstatus
      exact ⟨link, _, hlink, hgranted, hwishes, hsession, hresume⟩
  · have hrefused := command_of_refused hk
    refine ⟨?_, ?_, ?_, ?_, ?_⟩
    · simp [hrefused]
    · simp [hrefused, hk]
    · simp [hrefused]
    · simp [hrefused]
    · rintro rfl hstatus
      exact absurd (by simpa [Command.sources] using hstatus) hk

/-- A connector that was never started refuses all that would end it. -/
example :
    ((Sample.setup.after []).command .stop).1 =
      .error (.snapshot (.transition "stopping" .stopped)) ∧
      ((Sample.setup.after []).command .emergencyStop).1 =
        .error (.snapshot (.transition "emergency_stopped" .stopped)) ∧
      ((Sample.setup.after []).command .signoff).1 =
        .error (.snapshot (.transition "signoff" .stopped)) :=
  ⟨rfl, rfl, rfl⟩

end Connector

end DurableSession.Client
