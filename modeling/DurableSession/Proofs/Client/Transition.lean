import DurableSession.Client.Connector

/-!
What the transitions of a snapshot and the operations on timers do.

A snapshot obeys the rules of its status, so that a transition from an allowed status is refused
only if its own result breaks a rule. Main statements: `Snapshot.step_eq_ok`, and one lemma for each
transition that a connector makes by itself, which says when it is not refused.
-/

namespace DurableSession.Client

open Handshake (Descriptor)
open Timing (Boundary)

/-! ### Rules -/

namespace Parts

variable {κ : Type} {p : Parts κ}

/-- The parts break no rule of their status. -/
def Obeys (p : Parts κ) : Prop := ∀ r ∈ Rule.ofStatus p.status, r.holds p = true

theorem obeys_iff : p.Obeys ↔ p.violation? = none := by
  simp [Obeys, violation?]

theorem obeys_stopped (h : p.status = .stopped) : p.Obeys ↔
    p.start = none ∧ p.stop ≠ none ∧ p.channel = none ∧ p.login = none ∧
      p.reconnectTimer = none ∧ p.pingTimer = none ∧ p.pongTimer = none := by
  simp [Obeys, h, Rule.ofStatus, Rule.present, Rule.absent, Option.isSome_iff_ne_none]

theorem obeys_connecting (h : p.status = .connecting) : p.Obeys ↔
    p.start ≠ none ∧ p.stop = none ∧ p.pingTimer = none ∧ p.pongTimer = none := by
  simp [Obeys, h, Rule.ofStatus, Rule.present, Rule.absent, Option.isSome_iff_ne_none]

theorem obeys_connected (h : p.status = .connected) : p.Obeys ↔
    p.start ≠ none ∧ p.stop = none ∧ p.channel ≠ none ∧ p.descriptor ≠ none := by
  simp [Obeys, h, Rule.ofStatus, Rule.present, Rule.absent, Option.isSome_iff_ne_none]

theorem obeys_signedIn (h : p.status = .signedIn) : p.Obeys ↔
    p.start ≠ none ∧ p.stop = none ∧ p.channel ≠ none ∧ p.descriptor ≠ none ∧ p.login ≠ none := by
  simp [Obeys, h, Rule.ofStatus, Rule.present, Rule.absent, Option.isSome_iff_ne_none]

theorem obeys_stopping (h : p.status = .stopping) : p.Obeys ↔
    p.start = none ∧ p.stop ≠ none ∧ p.descriptor ≠ none ∧ p.login = none := by
  simp [Obeys, h, Rule.ofStatus, Rule.present, Rule.absent, Option.isSome_iff_ne_none]

end Parts

/-! ### Transitions -/

namespace Snapshot

variable {κ : Type} {s s' : Snapshot κ} {p : Parts κ} {name : String} {sources : List Status}

theorem obeys (s : Snapshot κ) : s.parts.Obeys :=
  Parts.obeys_iff.2 (Option.isNone_iff_eq_none.1 s.sound)

theorem ofParts_of_obeys (h : p.Obeys) : ∃ s, ofParts p = .ok s ∧ s.parts = p := by
  have hnone := Parts.obeys_iff.1 h
  unfold ofParts
  split
  · exact ⟨_, rfl, rfl⟩
  · next r hr => simp [hnone] at hr

theorem parts_of_ofParts (h : ofParts p = .ok s) : s.parts = p := by
  unfold ofParts at h
  split at h
  · obtain rfl := Except.ok.inj h
    rfl
  · simp at h

/-- A transition that is not refused is allowed from the status, and has the parts that it makes. -/
theorem step_eq_ok (h : s.step name sources p = .ok s') : s.status ∈ sources ∧ s'.parts = p := by
  unfold step at h
  split at h
  · next hs => exact ⟨hs, parts_of_ofParts h⟩
  · simp at h

theorem step_of_not_mem (h : s.status ∉ sources) :
    s.step name sources p = .error (.transition name s.status) :=
  if_neg h

theorem step_of_obeys (hs : s.status ∈ sources) (h : p.Obeys) :
    ∃ s', s.step name sources p = .ok s' ∧ s'.parts = p := by
  unfold step
  rw [if_pos hs]
  exact ofParts_of_obeys h

/-- The server is there: the status is `connected` or `signedIn`. -/
def Attached (s : Snapshot κ) : Prop := s.status = .connected ∨ s.status = .signedIn

theorem attached_parts (h : s.Attached) : s.parts.start ≠ none ∧ s.parts.stop = none ∧
    s.parts.channel ≠ none ∧ s.parts.descriptor ≠ none := by
  rcases h with h | h
  · exact (Parts.obeys_connected h).1 s.obeys
  · obtain ⟨hstart, hstop, hchannel, hdescriptor, -⟩ := (Parts.obeys_signedIn h).1 s.obeys
    exact ⟨hstart, hstop, hchannel, hdescriptor⟩

theorem Attached.ne_connecting (h : s.Attached) : s.status ≠ .connecting := by
  rcases h with h | h <;> simp [h]

theorem Attached.ne_stopping (h : s.Attached) : s.status ≠ .stopping := by
  rcases h with h | h <;> simp [h]

theorem Attached.ne_stopped (h : s.Attached) : s.status ≠ .stopped := by
  rcases h with h | h <;> simp [h]

theorem obeys_of_attached (h : s.Attached) (ping pong : Option Timer) :
    Parts.Obeys { s.parts with pingTimer := ping, pongTimer := pong } := by
  rcases h with h | h
  · exact (Parts.obeys_connected (by exact h)).2 ((Parts.obeys_connected h).1 s.obeys)
  · exact (Parts.obeys_signedIn (by exact h)).2 ((Parts.obeys_signedIn h).1 s.obeys)

theorem reconnectPlanned_of_connecting (h : s.status = .connecting) (timer : Timer) :
    ∃ s', s.reconnectPlanned timer = .ok s' ∧
      s'.parts = { s.parts with channel := none, reconnectTimer := some timer } :=
  step_of_obeys (by simp [h]) ((Parts.obeys_connecting (by exact h)).2
    ((Parts.obeys_connecting h).1 s.obeys))

theorem connected_of_connecting (h : s.status = .connecting) (channel : κ) (descriptor : Descriptor)
    (ping : Timer) :
    ∃ s₁ s', s.channelEstablished channel = .ok s₁ ∧ s₁.connected descriptor ping = .ok s' ∧
      s'.parts = { s.parts with
        status := .connected
        channel := some channel
        descriptor := some descriptor
        reconnectTimer := none
        pingTimer := some ping
        pongTimer := none } := by
  have hobeys := (Parts.obeys_connecting h).1 s.obeys
  obtain ⟨s₁, hs₁, hparts₁⟩ : ∃ s₁, s.channelEstablished channel = .ok s₁ ∧
      s₁.parts = { s.parts with channel := some channel, reconnectTimer := none } :=
    step_of_obeys (by simp [h]) ((Parts.obeys_connecting (by exact h)).2 hobeys)
  have hstatus : s₁.status = .connecting := (congrArg Parts.status hparts₁).trans h
  obtain ⟨s', hs', hparts'⟩ : ∃ s', s₁.connected descriptor ping = .ok s' ∧
    s'.parts = { s₁.parts with
        status := .connected
        descriptor := some descriptor
        reconnectTimer := none
        pingTimer := some ping
        pongTimer := none } := by
    refine step_of_obeys (by simp [hstatus]) ((Parts.obeys_connected rfl).2 ?_)
    simp [hparts₁, hobeys.1, hobeys.2.1]
  exact ⟨s₁, s', hs₁, hs', by rw [hparts', hparts₁]⟩

theorem nextPingPlanned_of_attached (h : s.Attached) (timer : Timer) :
    ∃ s', s.nextPingPlanned timer = .ok s' ∧
      s'.parts = { s.parts with pingTimer := some timer, pongTimer := none } :=
  step_of_obeys (by simpa [Attached] using h) (obeys_of_attached h _ _)

theorem pongTimeoutPlanned_of_attached (h : s.Attached) (timer : Timer) :
    ∃ s', s.pongTimeoutPlanned timer = .ok s' ∧
      s'.parts = { s.parts with pingTimer := none, pongTimer := some timer } :=
  step_of_obeys (by simpa [Attached] using h) (obeys_of_attached h _ _)

theorem signedIn_of_connected (h : s.status = .connected) (login : String) :
    ∃ s', s.signedIn login = .ok s' ∧ s'.parts =
      { s.parts with status := .signedIn, login := some login } := by
  obtain ⟨hstart, hstop, hchannel, hdescriptor⟩ := (Parts.obeys_connected h).1 s.obeys
  exact step_of_obeys (by simp [h])
    ((Parts.obeys_signedIn rfl).2 ⟨hstart, hstop, hchannel, hdescriptor, by simp⟩)

theorem channelLost_of_attached (h : s.Attached) (timer : Timer) :
    ∃ s', s.channelLost timer = .ok s' ∧ s'.parts = { s.parts with
      status := .connecting
      channel := none
      reconnectTimer := some timer
      pingTimer := none
      pongTimer := none } := by
  obtain ⟨hstart, hstop, -⟩ := attached_parts h
  refine step_of_obeys ?_ ((Parts.obeys_connecting rfl).2 ⟨hstart, hstop, rfl, rfl⟩)
  rcases h with h | h <;> simp [h]

/-- A stop asked for while the connector is up needs nothing but a descriptor. -/
theorem stopping_of_descriptor (h : s.status = .connecting ∨ s.Attached)
    (hd : s.parts.descriptor ≠ none) (stop : Signal) : ∃ s', s.stopping stop = .ok s' := by
  have hsource : s.status ∈ [Status.connecting, .connected, .signedIn] := by
    rcases h with h | h | h <;> simp [h]
  have hobeys : Parts.Obeys { s.parts with
      status := .stopping
      start := none
      stop := some stop
      reconnectTimer := none
      pingTimer := none
      pongTimer := none
      login := none } := (Parts.obeys_stopping rfl).2 ⟨rfl, Option.some_ne_none stop, hd, rfl⟩
  obtain ⟨s', hs', -⟩ := step_of_obeys hsource hobeys
  exact ⟨s', hs'⟩

theorem channelLost_of_stopping (h : s.status = .stopping) (timer : Timer) :
    s.channelLost timer = .error (.transition "channel_lost" .stopping) := by
  simp [channelLost, step, h]

theorem stopped_of_stopping (h : s.status = .stopping) (ht : s.timers = []) :
    ∃ s', s.stopped = .ok s' ∧ s'.parts = { s.parts with status := .stopped, channel := none } := by
  obtain ⟨hstart, hstop, -, hlogin⟩ := (Parts.obeys_stopping h).1 s.obeys
  refine step_of_obeys (by simp [h]) ((Parts.obeys_stopped rfl).2 ⟨hstart, hstop, rfl, hlogin, ?_⟩)
  simpa [timers] using ht

theorem timers_of_stopped (h : s.status = .stopped) : s.timers = [] := by
  obtain ⟨-, -, -, -, hreconnect, hping, hpong⟩ := (Parts.obeys_stopped h).1 s.obeys
  simp [timers, hreconnect, hping, hpong]

theorem mem_timers {t : Timer} : t ∈ s.timers ↔
    s.parts.reconnectTimer = some t ∨ s.parts.pingTimer = some t ∨ s.parts.pongTimer = some t := by
  simp [timers, eq_comm]

theorem exists_timerOf {t : Timer} : (∃ kind, s.timerOf kind = some t) ↔ t ∈ s.timers := by
  rw [mem_timers]
  constructor
  · rintro ⟨kind, ht⟩
    cases kind with
    | reconnect => exact .inl ht
    | ping => exact .inr (.inl ht)
    | pongTimeout => exact .inr (.inr ht)
  · rintro (ht | ht | ht)
    · exact ⟨.reconnect, ht⟩
    · exact ⟨.ping, ht⟩
    · exact ⟨.pongTimeout, ht⟩

end Snapshot

/-! ### Timers -/

namespace Timers

variable {t t' : Timers} {timer r : Timer} {kind : TimerKind} {id : TimerId} {l : List Timer}

/-- A timer of the kind is scheduled: it has a new identifier, and is running with those that were
running before. -/
structure Schedules (t : Timers) (kind : TimerKind) (timer : Timer) (t' : Timers) : Prop where
  id : timer.id = ⟨t.next⟩
  kind : timer.kind = kind
  next : t'.next = t.next + 1
  running : t'.running = t.running ++ [timer]
  cancelled : t'.cancelled = t.cancelled

theorem Schedules.mem_running (h : t.Schedules kind timer t') :
    r ∈ t'.running ↔ r ∈ t.running ∨ r = timer := by
  rw [h.running, List.mem_append, List.mem_singleton]

theorem schedules_ping (t : Timers) (now : Nat) (b : Boundary) :
    t.Schedules .ping (t.schedulePing now b).1 (t.schedulePing now b).2 :=
  ⟨rfl, rfl, rfl, rfl, rfl⟩

theorem schedules_pongTimeout (t : Timers) (now : Nat) (b : Boundary) :
    t.Schedules .pongTimeout (t.schedulePongTimeout now b).1 (t.schedulePongTimeout now b).2 :=
  ⟨rfl, rfl, rfl, rfl, rfl⟩

theorem schedules_reconnect (t : Timers) (now : Nat) (b : Boundary) :
    t.Schedules .reconnect (t.scheduleReconnect now b).1 (t.scheduleReconnect now b).2 :=
  ⟨rfl, rfl, rfl, rfl, rfl⟩

theorem mem_running_cancel : r ∈ (t.cancel id).running ↔ r ∈ t.running ∧ r.id ≠ id := by
  simp [cancel]

theorem mem_cancelled_cancel {id' : TimerId} :
    id' ∈ (t.cancel id).cancelled ↔ id' = id ∨ id' ∈ t.cancelled := by
  unfold cancel
  dsimp only
  split
  · next h =>
    constructor
    · exact .inr
    · rintro (rfl | h')
      · exact h
      · exact h'
  · exact List.mem_cons

@[simp] theorem next_cancelAll : (t.cancelAll l).next = t.next := by
  unfold cancelAll
  induction l generalizing t with
  | nil => rfl
  | cons timer l ih => exact ih

@[simp] theorem words_cancelAll : (t.cancelAll l).words = t.words := by
  unfold cancelAll
  induction l generalizing t with
  | nil => rfl
  | cons timer l ih => exact ih

theorem mem_running_cancelAll :
    r ∈ (t.cancelAll l).running ↔ r ∈ t.running ∧ ∀ timer ∈ l, r.id ≠ timer.id := by
  unfold cancelAll
  induction l generalizing t with
  | nil => simp
  | cons timer l ih => rw [List.foldl_cons, ih, mem_running_cancel, List.forall_mem_cons, and_assoc]

theorem mem_cancelled_cancelAll :
    id ∈ (t.cancelAll l).cancelled ↔ (∃ timer ∈ l, id = timer.id) ∨ id ∈ t.cancelled := by
  unfold cancelAll
  induction l generalizing t with
  | nil => simp
  | cons timer l ih =>
    rw [List.foldl_cons, ih, mem_cancelled_cancel]
    simp only [List.mem_cons, exists_eq_or_imp]
    exact or_left_comm.trans or_assoc.symm

end Timers

end DurableSession.Client
