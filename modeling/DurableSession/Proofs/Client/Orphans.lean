import DurableSession.Proofs.Client.Wakeups

/-!
The transitions that a connector makes by itself, and the timers that it forgets.

None of its own transitions is refused, and it holds every timer that is still to fire, but for one
slip: a server that calls the session busy when the connector has already been stopped makes it plan
to reconnect, a transition that a connector that stops refuses, after the timer was scheduled. Main
statements: `accounted_of_run`, and `orphan_while_stopping`, where it happens.
-/

namespace DurableSession.Client.Connector

variable {c c' : Connector} {m : Moment} {o : Option (Command × Signal)} {past : List Moment}
  {u : Setup}

/-- The timer is still to fire: it was scheduled and not cancelled, and has not fired. -/
def Outstanding (past : List Moment) (c : Connector) (t : Timer) : Prop :=
  t ∈ c.timers.running ∧ ∀ m ∈ past, m.firing? ≠ some (t.id, t.kind)

instance (past : List Moment) (c : Connector) (t : Timer) : Decidable (Outstanding past c t) :=
  inferInstanceAs (Decidable (_ ∧ _))

/-- The timers that a connector schedules when the server calls the session busy, and it has already
been stopped. -/
def strays (c : Connector) : List Moment → List TimerId
  | [] => []
  | m :: later => (if c.untimely m then [⟨c.timers.next⟩] else []) ++ (c.step m).strays later

theorem strays_append {later : List Moment} :
    c.strays (past ++ later) = c.strays past ++ (past.foldl step c).strays later := by
  induction past generalizing c with
  | nil => rfl
  | cons m past ih => simp [strays, ih]

theorem strays_snoc : u.connector.strays (past ++ [m]) =
    u.connector.strays past ++ if (u.after past).untimely m then [⟨(u.after past).timers.next⟩]
      else [] := by
  rw [strays_append, strays, strays, List.append_nil]
  rfl

/-- **Accounted for**: one transition was refused for each stray timer, and no other, and of the
timers that are still to fire the snapshot holds all but the strays. -/
structure Accounted (u : Setup) (past : List Moment) : Prop where
  refused : (u.after past).refused = (u.connector.strays past).map fun _ => .transition
    "channel_lost" .stopping
  held : ∀ t, Outstanding past (u.after past) t →
    (t ∈ (u.after past).snapshot.timers ↔ t.id ∉ u.connector.strays past)
  orderly : u.connector.strays past = [] →
    (u.after past).refused = [] ∧ ∀ t, Outstanding past (u.after past) t →
      t ∈ (u.after past).snapshot.timers

/-! ### Untimely moments -/

theorem untimely_of_status (hs : c.snapshot.status ≠ .stopping) (m : Moment) :
    c.untimely m = false := by
  unfold untimely
  split
  · simp [hs]
  · rfl

/-- At an untimely moment a timer is scheduled, and the snapshot stays as it is. -/
theorem Turn.timely_or (ht : Turn c m o c') : c.untimely m = false ∨
    c.untimely m = true ∧ c'.snapshot = c.snapshot ∧ c'.timers.next = c.timers.next + 1 := by
  cases ht with
  | idle _ _ _ timely => exact .inl timely
  | misled _ untimely scheduled =>
    exact .inr ⟨untimely, rfl, by rw [scheduled.next, Timers.next_cancelAll]⟩
  | lost status => exact .inl (untimely_of_status status.ne_stopping _)
  | signedIn status => exact .inl (untimely_of_status (by simp [status]) _)
  | _ => exact .inl rfl

/-- **What is refused**: nothing, or the loss of a channel at an untimely moment. -/
theorem Turn.refuses (ht : Turn c m o c') : c'.refused =
    c.refused ++ if c.untimely m then [.transition "channel_lost" .stopping] else [] := by
  have hnone (h : c.untimely m = false) :
      c.refused = c.refused ++ if c.untimely m then [.transition "channel_lost" .stopping]
        else [] := by simp [h]
  cases ht with
  | idle aside _ _ timely =>
    cases aside
    exact hnone timely
  | misled _ untimely => simp [untimely]
  | lost status => exact hnone (untimely_of_status status.ne_stopping _)
  | signedIn status => exact hnone (untimely_of_status (by simp [status]) _)
  | _ => exact hnone rfl

/-! ### Timers that are still to fire -/

section Turns

variable {t : Timer}

theorem Outstanding.of_snoc (h : Outstanding (past ++ [m]) c t) : Outstanding past c t :=
  ⟨h.1, fun m' hm' => h.2 m' (List.mem_append_left _ hm')⟩

theorem not_outstanding_of_dial (hw : Waits past c) (hn : Scheduled past c)
    (hs : c.snapshot.status = .connecting) (hd : c.dial ≠ none) (ht : t ∈ c.snapshot.timers) :
    ¬ Outstanding past c t := by
  rintro ⟨hrunning, hfired⟩
  obtain ⟨-, -, hping, hpong⟩ := (Parts.obeys_connecting hs).1 c.snapshot.obeys
  have hheld : c.snapshot.parts.reconnectTimer = some t := by
    simpa [Snapshot.mem_timers, hping, hpong] using ht
  have hkind := (hn.held .reconnect t hheld).1
  have hticking : Ticking past c .reconnect := by
    refine ⟨t, hheld, hkind, hrunning, hn.timers.apart t hrunning, ?_⟩
    intro m hm
    rw [← hkind]
    exact hfired m hm
  rcases hw.connecting hs with ⟨-, hnot⟩ | ⟨hnone, -⟩
  · exact hnot hticking
  · exact hd hnone

theorem Turn.holds (ht : Turn c m o c') (hc : c.Tidy) (hw : Waits past c) (hn : Scheduled past c)
    (hheld : t ∈ c.snapshot.timers) (hout : Outstanding (past ++ [m]) c' t)
    (hbefore : Outstanding past c t) :
    t ∈ c'.snapshot.timers := by
  have hfires : m.firing? ≠ some (t.id, t.kind) :=
    hout.2 m (List.mem_append_right _ List.mem_cons_self)
  have hcancelled {l : List Timer} (hl : t ∈ l) (hr : t ∈ (c.timers.cancelAll l).running) :
      t ∈ c'.snapshot.timers := by
    obtain ⟨-, hne⟩ := Timers.mem_running_cancelAll.1 hr
    exact absurd rfl (hne t hl)
  cases ht with
  | idle aside =>
    cases aside
    exact hheld
  | redialed => exact hheld
  | misled status =>
    rw [hc.timers_of_stopping status] at hheld
    simp at hheld
  | started status =>
    rw [Snapshot.timers_of_stopped status] at hheld
    simp at hheld
  | stopping | halted | abandoned => exact hcancelled hheld hout.1
  | stopped status signal parts | signedIn status parts =>
    simpa [Snapshot.timers, parts] using hheld
  | failed dial status | opened dial status =>
    exact absurd hbefore (not_outstanding_of_dial hw hn status (by simp [dial]) hheld)
  | lost status parts scheduled =>
    rcases scheduled.mem_running.1 hout.1 with hrunning | rfl
    · exact hcancelled hheld hrunning
    · simp [Snapshot.timers, parts]
  | @pinged t₀ s timer timers more status held parts =>
    have hreconnect := hc.reconnect_eq_none status.ne_connecting
    have hpong : c.snapshot.parts.pongTimer = none := by
      rcases hw.attached status with ⟨-, hpong⟩ | ⟨-, hping⟩
      · exact hpong
      · simp [hping] at held
    have hping : t₀ = t := by simpa [Snapshot.mem_timers, hreconnect, hpong, held] using hheld
    subst hping
    exact absurd (by simp [Moment.firing?, (hn.held .ping t₀ held).1]) hfires
  | @ponged t₀ s timer timers link status held parts scheduled =>
    have hreconnect := hc.reconnect_eq_none status.ne_connecting
    have hping : c.snapshot.parts.pingTimer = none := by
      rcases hw.attached status with ⟨-, hpong⟩ | ⟨-, hping⟩
      · simp [hpong] at held
      · exact hping
    have hpong : t₀ = t := by simpa [Snapshot.mem_timers, hreconnect, hping, held] using hheld
    subst hpong
    rcases scheduled.mem_running.1 hout.1 with hrunning | rfl
    · exact absurd rfl (Timers.mem_running_cancel.1 hrunning).2
    · simp [Snapshot.timers, parts]

/-- A timer that was just scheduled is held, unless the moment is untimely. -/
theorem Turn.schedules (ht : Turn c m o c') (hr : t ∈ c'.timers.running) : t ∈ c.timers.running ∨
    t ∈ c'.snapshot.timers ∨ c.untimely m = true ∧ t.id = ⟨c.timers.next⟩ := by
  have hkept {l : List Timer} (hr : t ∈ (c.timers.cancelAll l).running) : t ∈ c.timers.running :=
    (Timers.mem_running_cancelAll.1 hr).1
  cases ht with
  | idle aside =>
    cases aside
    exact .inl hr
  | started | stopped | redialed | signedIn => exact .inl hr
  | stopping | halted | abandoned => exact .inl (hkept hr)
  | failed _ _ parts scheduled | opened _ _ parts scheduled | pinged _ _ parts scheduled =>
    rcases scheduled.mem_running.1 hr with hr | rfl
    · exact .inl hr
    · exact .inr (.inl (by simp [Snapshot.timers, parts]))
  | lost _ parts scheduled =>
    rcases scheduled.mem_running.1 hr with hr | rfl
    · exact .inl (hkept hr)
    · exact .inr (.inl (by simp [Snapshot.timers, parts]))
  | misled _ untimely scheduled =>
    rcases scheduled.mem_running.1 hr with hr | rfl
    · exact .inl (hkept hr)
    · exact .inr (.inr ⟨untimely, by simp [scheduled.id]⟩)
  | ponged _ _ parts scheduled =>
    rcases scheduled.mem_running.1 hr with hr | rfl
    · exact .inl (Timers.mem_running_cancel.1 hr).1
    · exact .inr (.inl (by simp [Snapshot.timers, parts]))

theorem Turn.renews (ht : Turn c m o c') : c.timers.next ≤ c'.timers.next ∧
    ∀ t ∈ c'.snapshot.timers, t ∈ c.snapshot.timers ∨ t.id = ⟨c.timers.next⟩ := by
  obtain ⟨l, -, ⟨hl, hheld⟩ | ⟨k, timer, hs, hheld⟩⟩ := ht.rearms
  · refine ⟨by simp [hl], ?_⟩
    intro t ht
    obtain ⟨kind, ht⟩ := Snapshot.exists_timerOf.2 ht
    exact .inl (Snapshot.exists_timerOf.1 ⟨kind, hheld kind t ht⟩)
  · refine ⟨by simp [hs.next], ?_⟩
    intro t ht
    obtain ⟨kind, ht⟩ := Snapshot.exists_timerOf.2 ht
    rcases hheld kind t ht with ⟨-, rfl⟩ | ht
    · exact .inr (by simp [hs.id])
    · exact .inl (Snapshot.exists_timerOf.1 ⟨kind, ht⟩)

end Turns

/-! ### Runs -/

/-- The strays are timers that were scheduled and that the snapshot does not hold, and it holds the
others that are still to fire. -/
structure Strayed (past : List Moment) (c : Connector) (strays : List TimerId) : Prop where
  scheduled : ∀ id ∈ strays, id.number < c.timers.next
  unheld : ∀ t ∈ c.snapshot.timers, t.id ∉ strays
  held : ∀ t, Outstanding past c t → t.id ∉ strays → t ∈ c.snapshot.timers

theorem Strayed.turn {strays : List TimerId} (h : Strayed past c strays) (hc : c.Tidy)
    (ha : Alert past c) (ht : Turn c m o c') :
    Strayed (past ++ [m]) c' (strays ++ if c.untimely m then [⟨c.timers.next⟩] else []) := by
  obtain ⟨hnext, hnew⟩ := ht.renews
  have hbefore : ∀ t ∈ c'.snapshot.timers, t.id ∉ strays := by
    intro t ht hid
    rcases hnew t ht with ht | he
    · exact h.unheld t ht hid
    · have hlt : c.timers.next < c.timers.next := h.scheduled _ (he ▸ hid)
      omega
  refine ⟨?_, ?_, ?_⟩
  · intro id hid
    rcases List.mem_append.1 hid with hid | hid
    · have hlt := h.scheduled id hid
      omega
    · rcases ht.timely_or with hm | ⟨hm, -, hscheduled⟩
      · simp [hm] at hid
      · obtain rfl : id = ⟨c.timers.next⟩ := by simpa [hm] using hid
        simp [hscheduled]
  · intro t hheld
    rcases ht.timely_or with hm | ⟨hm, hsame, -⟩
    · simpa [hm] using hbefore t hheld
    · have hlt := ha.scheduled.held_lt (hsame ▸ hheld)
      have hne : t.id ≠ ⟨c.timers.next⟩ := by
        intro he
        simp [he] at hlt
      simpa [hm] using ⟨hbefore t hheld, hne⟩
  · intro t hout hid
    rw [List.mem_append, not_or] at hid
    rcases ht.schedules hout.1 with hr | hheld | ⟨hm, he⟩
    · have hbefore : Outstanding past c t := ⟨hr, hout.of_snoc.2⟩
      exact ht.holds hc ha.waits ha.scheduled (h.held t hbefore hid.1) hout hbefore
    · exact hheld
    · exact absurd (by simp [hm, he]) hid.2

theorem strayed_of_run (hr : Run u past) :
    Strayed past (u.after past) (u.connector.strays past) := by
  induction past using List.reverseRecOn with
  | nil =>
    exact ⟨by simp [strays], by simp [strays], by simp [Outstanding, Setup.after, Setup.connector]⟩
  | append_singleton past m ih =>
    have hpast := (run_snoc.1 hr).1
    rw [strays_snoc]
    exact (ih hpast).turn (tidy_after u past) (alert_of_run hpast) (turn_after u past m)

theorem refused_after (u : Setup) (past : List Moment) : (u.after past).refused =
    (u.connector.strays past).map fun _ => .transition "channel_lost" .stopping := by
  induction past using List.reverseRecOn with
  | nil => rfl
  | append_singleton past m ih =>
    rw [(turn_after u past m).refuses, ih, strays_snoc, List.map_append]
    split <;> rfl

/-- **Every run** accounts for the transitions that were refused, and for the timers that are still
to fire. -/
theorem accounted_of_run (hr : Run u past) : Accounted u past := by
  have hs := strayed_of_run hr
  have hrefused := refused_after u past
  refine ⟨hrefused, ?_, ?_⟩
  · intro t hout
    exact ⟨hs.unheld t, hs.held t hout⟩
  · intro hnone
    rw [hnone] at hs hrefused
    exact ⟨hrefused, fun t hout => hs.held t hout List.not_mem_nil⟩

set_option maxRecDepth 20000 in
/-- A server that falls silent leaves nothing to account for. -/
theorem accounted_after_silence :
    Run Sample.setup Sample.silence ∧ Accounted Sample.setup Sample.silence ∧
      Sample.setup.connector.strays Sample.silence = [] := by
  have hr : Run Sample.setup Sample.silence := by decide +kernel
  exact ⟨hr, accounted_of_run hr, by decide +kernel⟩

set_option maxRecDepth 20000 in
/-- When the session is called busy too late, a transition is refused, and a timer is still to fire
that the snapshot does not hold. -/
theorem orphan_while_stopping : Run Sample.setup Sample.lateRefusal ∧
    (Sample.setup.after Sample.lateRefusal).refused = [.transition "channel_lost" .stopping] ∧
      Outstanding Sample.lateRefusal (Sample.setup.after Sample.lateRefusal) Sample.stray ∧
        Sample.stray ∉ (Sample.setup.after Sample.lateRefusal).snapshot.timers := by
  decide +kernel

end DurableSession.Client.Connector
