import DurableSession.Proofs.Client.Turns

/-!
A connector never gets stuck.

While it connects, exactly one thing is under way that will wake it up: a connection attempt, or the
timer for the next one. While the server is there, a ping is to be sent or a pong is waited for.
Names of attempts and timers are new when they are given out, so that what is under way is told from
what was reported before. Main statements: `Awake.turn` and `awake_of_run`.
-/

namespace DurableSession.Client

/-! ### Numbers of timers -/

namespace Timers

variable {t t' : Timers} {timer : Timer} {kind : TimerKind} {id : TimerId} {l : List Timer}

/-- Identifiers of timers were given out before `next`, and no timer that was cancelled is
running. -/
structure Numbered (t : Timers) : Prop where
  running : ∀ r ∈ t.running, r.id.number < t.next
  cancelled : ∀ id ∈ t.cancelled, id.number < t.next
  apart : ∀ r ∈ t.running, r.id ∉ t.cancelled

theorem Numbered.cancelAll (h : t.Numbered) (hl : ∀ timer ∈ l, timer.id.number < t.next) :
    (t.cancelAll l).Numbered := by
  refine ⟨?_, ?_, ?_⟩
  · intro r hr
    rw [next_cancelAll]
    exact h.running r (mem_running_cancelAll.1 hr).1
  · intro id hid
    rw [next_cancelAll]
    rcases mem_cancelled_cancelAll.1 hid with ⟨timer, htimer, rfl⟩ | hid
    · exact hl timer htimer
    · exact h.cancelled id hid
  · intro r hr hid
    obtain ⟨hr, hne⟩ := mem_running_cancelAll.1 hr
    rcases mem_cancelled_cancelAll.1 hid with ⟨timer, htimer, he⟩ | hid
    · exact hne timer htimer he
    · exact h.apart r hr hid

theorem Numbered.schedules (h : t.Numbered) (hs : t.Schedules kind timer t') : t'.Numbered := by
  have hnew : timer.id ∉ t.cancelled := by
    intro hid
    have hlt := h.cancelled _ hid
    simp [hs.id] at hlt
  refine ⟨?_, ?_, ?_⟩
  · intro r hr
    rw [hs.next]
    rcases hs.mem_running.1 hr with hr | rfl
    · have hlt := h.running r hr
      omega
    · simp [hs.id]
  · intro id hid
    rw [hs.next]
    rw [hs.cancelled] at hid
    have hlt := h.cancelled id hid
    omega
  · intro r hr
    rw [hs.cancelled]
    rcases hs.mem_running.1 hr with hr | rfl
    · exact h.apart r hr
    · exact hnew

end Timers

namespace Connector

variable {c c' : Connector} {m : Moment} {o : Option (Command × Signal)} {past : List Moment}
  {kind : TimerKind} {timer : Timer} {u : Setup}

/-- **What a turn does to timers**: it cancels some that the snapshot holds, and may schedule
one. -/
theorem Turn.rearms (ht : Turn c m o c') : ∃ l, (∀ t ∈ l, t ∈ c.snapshot.timers) ∧
    ((c'.timers = c.timers.cancelAll l ∧
        ∀ kind t, c'.snapshot.timerOf kind = some t → c.snapshot.timerOf kind = some t) ∨
      ∃ k timer, (c.timers.cancelAll l).Schedules k timer c'.timers ∧
        ∀ kind t, c'.snapshot.timerOf kind = some t → kind = k ∧ t = timer ∨
          c.snapshot.timerOf kind = some t) := by
  cases ht with
  | idle aside =>
    cases aside
    exact ⟨[], by simp, .inl ⟨rfl, fun kind t ht => ht⟩⟩
  | redialed => exact ⟨[], by simp, .inl ⟨rfl, fun kind t ht => ht⟩⟩
  | started status parts =>
    refine ⟨[], by simp, .inl ⟨rfl, ?_⟩⟩
    intro kind t ht
    cases kind <;> simp [Snapshot.timerOf, parts] at ht
  | stopping _ _ _ parts | halted _ _ parts | abandoned _ _ parts =>
    refine ⟨c.snapshot.timers, fun t ht => ht, .inl ⟨rfl, ?_⟩⟩
    intro kind t ht
    cases kind <;> simp [Snapshot.timerOf, parts] at ht
  | stopped status signal parts | signedIn status parts =>
    refine ⟨[], by simp, .inl ⟨rfl, ?_⟩⟩
    intro kind t ht
    cases kind <;> simpa [Snapshot.timerOf, parts] using ht
  | failed dial status parts scheduled =>
    refine ⟨[], by simp, .inr ⟨_, _, scheduled, ?_⟩⟩
    intro kind t ht
    cases kind with
    | reconnect => exact .inl ⟨rfl, by simpa [Snapshot.timerOf, parts, eq_comm] using ht⟩
    | ping | pongTimeout => exact .inr (by simpa [Snapshot.timerOf, parts] using ht)
  | opened dial status parts scheduled =>
    refine ⟨[], by simp, .inr ⟨_, _, scheduled, ?_⟩⟩
    intro kind t ht
    cases kind with
    | ping => exact .inl ⟨rfl, by simpa [Snapshot.timerOf, parts, eq_comm] using ht⟩
    | reconnect | pongTimeout => simp [Snapshot.timerOf, parts] at ht
  | lost status parts scheduled =>
    refine ⟨c.snapshot.timers, fun t ht => ht, .inr ⟨_, _, scheduled, ?_⟩⟩
    intro kind t ht
    cases kind with
    | reconnect => exact .inl ⟨rfl, by simpa [Snapshot.timerOf, parts, eq_comm] using ht⟩
    | ping | pongTimeout => simp [Snapshot.timerOf, parts] at ht
  | misled status untimely scheduled =>
    exact ⟨c.snapshot.timers, fun t ht => ht, .inr ⟨_, _, scheduled, fun kind t ht => .inr ht⟩⟩
  | pinged status held parts scheduled =>
    refine ⟨[], by simp, .inr ⟨_, _, scheduled, ?_⟩⟩
    intro kind t ht
    cases kind with
    | pongTimeout => exact .inl ⟨rfl, by simpa [Snapshot.timerOf, parts, eq_comm] using ht⟩
    | ping => simp [Snapshot.timerOf, parts] at ht
    | reconnect => exact .inr (by simpa [Snapshot.timerOf, parts] using ht)
  | @ponged t s timer timers link status held parts scheduled =>
    refine ⟨[t], by simp [Snapshot.mem_timers, held], .inr ⟨_, _, scheduled, ?_⟩⟩
    intro kind t ht
    cases kind with
    | ping => exact .inl ⟨rfl, by simpa [Snapshot.timerOf, parts, eq_comm] using ht⟩
    | pongTimeout => simp [Snapshot.timerOf, parts] at ht
    | reconnect => exact .inr (by simpa [Snapshot.timerOf, parts] using ht)

/-- **What a turn does to connection attempts**: it leaves the one under way alone, gives it up, or
begins one. -/
theorem Turn.dials (ht : Turn c m o c') : (∀ w ∈ c.wishes, w ∈ c'.wishes) ∧
    (∀ d, .cancelDial d ∈ c'.wishes → .cancelDial d ∈ c.wishes ∨ c.dial = some d) ∧
      (c'.nextDial = c.nextDial ∧ (c'.dial = none ∨ c'.dial = c.dial) ∨
        c'.nextDial = c.nextDial + 1 ∧ c'.dial = some ⟨c.nextDial⟩) := by
  have hmore (more : List Wish) (hspared : ∀ d, .cancelDial d ∈ more → c.dial = some d) :
      (∀ w ∈ c.wishes, w ∈ c.wishes ++ more) ∧
        ∀ d, .cancelDial d ∈ c.wishes ++ more → .cancelDial d ∈ c.wishes ∨ c.dial = some d :=
    ⟨fun w hw => List.mem_append_left _ hw, fun d hd => (List.mem_append.1 hd).imp_right
      (hspared d)⟩
  have hkept : (∀ w ∈ c.wishes, w ∈ c.wishes) ∧
      ∀ d, .cancelDial d ∈ c.wishes → .cancelDial d ∈ c.wishes ∨ c.dial = some d :=
    ⟨fun w hw => hw, fun d hd => .inl hd⟩
  cases ht with
  | idle aside =>
    obtain ⟨_, _, _, _, more, hspared⟩ := aside
    obtain ⟨hwishes, hcancel⟩ := hmore _ fun d hd => absurd hd (hspared d)
    exact ⟨hwishes, hcancel, .inl ⟨rfl, .inr rfl⟩⟩
  | started =>
    obtain ⟨hwishes, hcancel⟩ := hmore [.dial ⟨c.nextDial⟩ _] (by simp)
    exact ⟨hwishes, hcancel, .inr ⟨rfl, rfl⟩⟩
  | stopping _ _ _ _ _ _ spared | abandoned _ _ _ _ spared | lost _ _ _ spared | misled _ _ _ spared
    | pinged _ _ _ _ spared =>
    obtain ⟨hwishes, hcancel⟩ := hmore _ fun d hd => absurd hd (spared d)
    exact ⟨hwishes, hcancel, .inl ⟨rfl, .inr rfl⟩⟩
  | halted _ _ _ _ spared =>
    obtain ⟨hwishes, hcancel⟩ := hmore _ spared
    exact ⟨hwishes, hcancel, .inl ⟨rfl, .inl rfl⟩⟩
  | stopped | ponged | signedIn => exact ⟨hkept.1, hkept.2, .inl ⟨rfl, .inr rfl⟩⟩
  | failed => exact ⟨hkept.1, hkept.2, .inl ⟨rfl, .inl rfl⟩⟩
  | opened _ _ _ _ _ spared =>
    obtain ⟨hwishes, hcancel⟩ := hmore _ fun d hd => absurd hd (spared d)
    exact ⟨hwishes, hcancel, .inl ⟨rfl, .inl rfl⟩⟩
  | @redialed t more timeout status held spared =>
    obtain ⟨hwishes, hcancel⟩ := hmore (more ++ [.dial ⟨c.nextDial⟩ timeout])
      fun d hd => spared d (by simpa using hd)
    rw [← List.append_assoc] at hwishes hcancel
    exact ⟨hwishes, hcancel, .inr ⟨rfl, rfl⟩⟩

/-! ### Numbers of a connector -/

/-- Every timer that the snapshot holds or that fired was scheduled, and is held in the place of its
kind. -/
structure Scheduled (past : List Moment) (c : Connector) : Prop where
  timers : c.timers.Numbered
  held : ∀ kind t, c.snapshot.timerOf kind = some t → t.kind = kind ∧ t.id.number < c.timers.next
  fired : ∀ m ∈ past, ∀ f ∈ m.firing?, f.1.number < c.timers.next

/-- Every connection attempt that is under way, was given up or has reported its end was begun. -/
structure Dialed (past : List Moment) (c : Connector) : Prop where
  dial : ∀ d, c.dial = some d → d.number < c.nextDial
  reported : ∀ m ∈ past, ∀ d ∈ m.attempt?, d.number < c.nextDial
  cancelled : ∀ d, .cancelDial d ∈ c.wishes → d.number < c.nextDial

theorem Scheduled.fired_snoc (h : Scheduled past c) (ha : c.Admissible past m) :
    ∀ m' ∈ past ++ [m], ∀ f ∈ m'.firing?, f.1.number < c.timers.next := by
  rw [List.forall_mem_append, List.forall_mem_singleton]
  refine ⟨h.fired, ?_⟩
  intro f hf
  exact (ha.2 f hf).1

theorem Dialed.reported_snoc (h : Dialed past c) (ha : c.Admissible past m) :
    ∀ m' ∈ past ++ [m], ∀ d ∈ m'.attempt?, d.number < c.nextDial := by
  rw [List.forall_mem_append, List.forall_mem_singleton]
  refine ⟨h.reported, ?_⟩
  intro d hd
  exact (ha.1 d hd).1

theorem Scheduled.held_lt (h : Scheduled past c) {t : Timer} (ht : t ∈ c.snapshot.timers) :
    t.id.number < c.timers.next := by
  obtain ⟨kind, ht⟩ := Snapshot.exists_timerOf.2 ht
  exact (h.held kind t ht).2

theorem Scheduled.turn (h : Scheduled past c) (ha : c.Admissible past m) (ht : Turn c m o c') :
    Scheduled (past ++ [m]) c' := by
  obtain ⟨l, hl, htimers⟩ := ht.rearms
  have hnumbered := h.timers.cancelAll fun t ht => h.held_lt (hl t ht)
  have hfired := h.fired_snoc ha
  rcases htimers with ⟨htimers, hheld⟩ | ⟨k, timer, hs, hheld⟩
  · have hnext : c'.timers.next = c.timers.next := by rw [htimers, Timers.next_cancelAll]
    refine ⟨htimers ▸ hnumbered, ?_, ?_⟩
    · intro kind t ht
      rw [hnext]
      exact h.held kind t (hheld kind t ht)
    · rwa [hnext]
  · have hnext : c'.timers.next = c.timers.next + 1 := by rw [hs.next, Timers.next_cancelAll]
    refine ⟨hnumbered.schedules hs, ?_, ?_⟩
    · intro kind t ht
      rw [hnext]
      rcases hheld kind t ht with ⟨rfl, rfl⟩ | ht
      · exact ⟨hs.kind, by simp [hs.id]⟩
      · obtain ⟨hkind, hlt⟩ := h.held kind t ht
        exact ⟨hkind, by omega⟩
    · intro m' hm f hf
      have hlt := hfired m' hm f hf
      omega

theorem Dialed.turn (h : Dialed past c) (ha : c.Admissible past m) (ht : Turn c m o c') :
    Dialed (past ++ [m]) c' := by
  obtain ⟨-, hcancel, hdials⟩ := ht.dials
  have hreported := h.reported_snoc ha
  have hcancelled : ∀ d, .cancelDial d ∈ c'.wishes → d.number < c.nextDial := by
    intro d hd
    rcases hcancel d hd with hd | hd
    · exact h.cancelled d hd
    · exact h.dial d hd
  rcases hdials with ⟨hnext, hdial⟩ | ⟨hnext, hdial⟩
  · rw [← hnext] at hreported hcancelled
    refine ⟨?_, hreported, hcancelled⟩
    intro d hd
    rcases hdial with hdial | hdial
    · simp [hdial] at hd
    · rw [hnext]
      exact h.dial d (hdial ▸ hd)
  · refine ⟨?_, ?_, ?_⟩
    · intro d hd
      obtain rfl := Option.some.inj (hdial.symm.trans hd)
      simp [hnext]
    · intro m' hm d hd
      have hlt := hreported m' hm d hd
      omega
    · intro d hd
      have hlt := hcancelled d hd
      omega

/-! ### What wakes a connector up -/

/-- A connection attempt is under way: it was begun and not given up, and has not reported its
end. -/
def Dialing (past : List Moment) (c : Connector) : Prop :=
  ∃ d, c.dial = some d ∧ (∃ timeout, .dial d timeout ∈ c.wishes) ∧ .cancelDial d ∉ c.wishes ∧
    ∀ m ∈ past, m.attempt? ≠ some d

/-- The snapshot's timer of the kind is running: it was not cancelled, and has not fired. -/
def Ticking (past : List Moment) (c : Connector) (kind : TimerKind) : Prop :=
  ∃ t, c.snapshot.timerOf kind = some t ∧ t.kind = kind ∧ t ∈ c.timers.running ∧
    t.id ∉ c.timers.cancelled ∧ ∀ m ∈ past, m.firing? ≠ some (t.id, kind)

/-- **Never stuck**: exactly one attempt or timer will wake a connector up that connects, and
exactly one of the timers of the heartbeat one that has a server. A connector that stops has told
its channel to close, and one that has stopped waits for nothing. -/
structure Awake (past : List Moment) (c : Connector) : Prop where
  stopped : c.snapshot.status = .stopped → c.dial = none ∧ c.snapshot.timers = []
  connecting : c.snapshot.status = .connecting → c.link? = none ∧
    (Dialing past c ∧ ¬ Ticking past c .reconnect ∨ c.dial = none ∧ Ticking past c .reconnect)
  attached : c.snapshot.status = .connected ∨ c.snapshot.status = .signedIn →
    (∃ link, c.link? = some link) ∧ c.dial = none ∧
      (Ticking past c .ping ∧ c.snapshot.parts.pongTimer = none ∨
        Ticking past c .pongTimeout ∧ c.snapshot.parts.pingTimer = none)
  stopping : c.snapshot.status = .stopping →
    c.dial = none ∧ c.snapshot.timers = [] ∧ ∃ link, c.link? = some link ∧ .close link ∈ c.wishes

/-- A connector that connects or has a server has something to wait for. -/
structure Waits (past : List Moment) (c : Connector) : Prop where
  connecting : c.snapshot.status = .connecting →
    Dialing past c ∧ ¬ Ticking past c .reconnect ∨ c.dial = none ∧ Ticking past c .reconnect
  attached : c.snapshot.Attached → Ticking past c .ping ∧ c.snapshot.parts.pongTimer = none ∨
    Ticking past c .pongTimeout ∧ c.snapshot.parts.pingTimer = none
  stopping : c.snapshot.status = .stopping → ∃ link, c.link? = some link ∧ .close link ∈ c.wishes

section Ticking

theorem Ticking.snoc (h : Ticking past c kind)
    (hm : ∀ t, c.snapshot.timerOf kind = some t → m.firing? ≠ some (t.id, kind))
    (ht : c'.timers = c.timers) (hs : c'.snapshot.timerOf kind = c.snapshot.timerOf kind) :
    Ticking (past ++ [m]) c' kind := by
  obtain ⟨t, hheld, hkind, hrunning, hcancelled, hfired⟩ := h
  refine ⟨t, hs.trans hheld, hkind, ht ▸ hrunning, ht ▸ hcancelled, ?_⟩
  rw [List.forall_mem_append, List.forall_mem_singleton]
  exact ⟨hfired, hm t hheld⟩

theorem Ticking.of_snoc (h : Ticking (past ++ [m]) c' kind) (ht : c'.timers = c.timers)
    (hs : c'.snapshot.timerOf kind = c.snapshot.timerOf kind) : Ticking past c kind := by
  obtain ⟨t, hheld, hkind, hrunning, hcancelled, hfired⟩ := h
  exact ⟨t, hs.symm.trans hheld, hkind, ht ▸ hrunning, ht ▸ hcancelled,
    fun m' hm' => hfired m' (List.mem_append_left _ hm')⟩

theorem ticking_of_schedules {t : Timers} (hs : t.Schedules kind timer c'.timers)
    (hheld : c'.snapshot.timerOf kind = some timer) (hn : t.Numbered)
    (hf : ∀ m ∈ past, ∀ f ∈ m.firing?, f.1.number < t.next) : Ticking past c' kind := by
  refine ⟨timer, hheld, hs.kind, hs.mem_running.2 (.inr rfl), ?_, ?_⟩
  · rw [hs.cancelled, hs.id]
    intro hc
    have hlt : t.next < t.next := hn.cancelled _ hc
    omega
  · intro m hm hfire
    have hlt := hf m hm _ hfire
    simp [hs.id] at hlt

theorem dialing_of_begun (h : Dialed past c) (ha : c.Admissible past m)
    (hc : ∀ d, .cancelDial d ∈ c'.wishes → .cancelDial d ∈ c.wishes ∨ c.dial = some d)
    (hd : c'.dial = some ⟨c.nextDial⟩) {timeout : Nat}
    (hw : .dial ⟨c.nextDial⟩ timeout ∈ c'.wishes) :
    Dialing (past ++ [m]) c' := by
  refine ⟨⟨c.nextDial⟩, hd, ⟨timeout, hw⟩, ?_, ?_⟩
  · intro hcancel
    rcases hc _ hcancel with hcancel | hdial
    · have hlt : c.nextDial < c.nextDial := h.cancelled _ hcancel
      omega
    · have hlt : c.nextDial < c.nextDial := h.dial _ hdial
      omega
  · intro m' hm hattempt
    have hlt : c.nextDial < c.nextDial := h.reported_snoc ha m' hm _ hattempt
    omega

theorem not_ticking (h : c.snapshot.timerOf kind = none) : ¬ Ticking past c kind := by
  rintro ⟨t, ht, -⟩
  simp [h] at ht

end Ticking

theorem Waits.of_stopped (hs : c.snapshot.status = .stopped) : Waits past c :=
  ⟨by simp [hs], by simp [Snapshot.Attached, hs], by simp [hs]⟩

theorem Waits.of_connecting (hs : c.snapshot.status = .connecting)
    (h : Dialing past c ∧ ¬ Ticking past c .reconnect ∨ c.dial = none ∧ Ticking past c .reconnect) :
    Waits past c :=
  ⟨fun _ => h, by simp [Snapshot.Attached, hs], by simp [hs]⟩

theorem Waits.of_attached (hs : c.snapshot.Attached)
    (h : Ticking past c .ping ∧ c.snapshot.parts.pongTimer = none ∨ Ticking past c .pongTimeout ∧
      c.snapshot.parts.pingTimer = none) : Waits past c := by
  refine ⟨?_, fun _ => h, ?_⟩
  · intro hs'
    exact absurd hs' hs.ne_connecting
  · intro hs'
    exact absurd hs' hs.ne_stopping

theorem Waits.of_stopping (hs : c.snapshot.status = .stopping)
    (h : ∃ link, c.link? = some link ∧ .close link ∈ c.wishes) : Waits past c :=
  ⟨by simp [hs], by simp [Snapshot.Attached, hs], fun _ => h⟩

theorem Waits.aside (h : Waits past c) (ha : Aside c c')
    (hattempt : ∀ d, m.attempt? = some d → c.dial ≠ some d)
    (hfiring : ∀ id kind t, m.firing? = some (id, kind) →
      c.snapshot.timerOf kind = some t → t.id ≠ id) :
    Waits (past ++ [m]) c' := by
  obtain ⟨now, session, resume, pendingLogin, more, hspared⟩ := ha
  have hkept (kind : TimerKind) (hk : Ticking past c kind) : Ticking (past ++ [m])
      { c with now, session, resume, pendingLogin, wishes := c.wishes ++ more } kind :=
    hk.snoc (fun t ht hm => hfiring t.id kind t hm ht rfl) rfl rfl
  refine ⟨?_, ?_, ?_⟩
  · intro hs
    rcases h.connecting hs with ⟨⟨d, hd, ⟨timeout, hw⟩, hcancel, hreported⟩, hnot⟩ | ⟨hnone, ht⟩
    · refine .inl ⟨⟨d, hd, ⟨timeout, List.mem_append_left _ hw⟩, ?_, ?_⟩, ?_⟩
      · simp [hcancel, hspared]
      · rw [List.forall_mem_append, List.forall_mem_singleton]
        exact ⟨hreported, fun hm => hattempt d hm hd⟩
      · intro ht
        exact hnot (ht.of_snoc rfl rfl)
    · exact .inr ⟨hnone, hkept .reconnect ht⟩
  · intro hs
    rcases h.attached hs with ⟨ht, hnone⟩ | ⟨ht, hnone⟩
    · exact .inl ⟨hkept .ping ht, hnone⟩
    · exact .inr ⟨hkept .pongTimeout ht, hnone⟩
  · intro hs
    obtain ⟨link, hlink, hw⟩ := h.stopping hs
    exact ⟨link, hlink, List.mem_append_left _ hw⟩

/-- **One moment** leaves the connector waiting for what will wake it up. -/
theorem Waits.turn (h : Waits past c) (hc : c.Tidy) (hn : Scheduled past c) (hd : Dialed past c)
    (ha : c.Admissible past m) (ht : Turn c m o c') : Waits (past ++ [m]) c' := by
  have hcancel := ht.dials.2.1
  have hfired := hn.fired_snoc ha
  have hcleared := hn.timers.cancelAll fun t ht => hn.held_lt ht
  cases ht with
  | idle aside attempt firing => exact h.aside aside attempt firing
  | started status parts =>
    refine .of_connecting (by simp [Snapshot.status, parts]) (.inl ⟨?_, not_ticking ?_⟩)
    · exact dialing_of_begun hd ha hcancel rfl (List.mem_append_right _ List.mem_cons_self)
    · simp [Snapshot.timerOf, parts]
  | @stopping k s link _ _ _ _ command status channel parts marks told =>
    refine .of_stopping (by simp [Snapshot.status, parts]) ⟨link, ?_, List.mem_append_right _ told⟩
    simp [link?, parts, channel]
  | halted _ _ parts | abandoned _ _ parts | stopped _ _ parts =>
    exact .of_stopped (by simp [Snapshot.status, parts])
  | failed dial status parts scheduled =>
    refine .of_connecting ?_ (.inr ⟨rfl, ticking_of_schedules scheduled ?_ hn.timers hfired⟩)
    · simpa [Snapshot.status, parts] using status
    · simp [Snapshot.timerOf, parts]
  | opened dial status parts scheduled =>
    refine .of_attached (.inl (by simp [Snapshot.status, parts]))
      (.inl ⟨ticking_of_schedules scheduled ?_ hn.timers hfired, by simp [parts]⟩)
    simp [Snapshot.timerOf, parts]
  | @redialed t more timeout status held spared =>
    refine .of_connecting status (.inl ⟨?_, ?_⟩)
    · exact dialing_of_begun hd ha hcancel rfl (List.mem_append_right _ List.mem_cons_self)
    -- the timer that it held is the one that has just fired
    · rintro ⟨t', ht', -, -, -, hfired'⟩
      obtain rfl : t = t' := Option.some.inj (held.symm.trans ht')
      exact hfired' _ (List.mem_append_right _ List.mem_cons_self) rfl
  | lost status parts scheduled =>
    have hdial := hc.dial_eq_none status.ne_connecting
    refine .of_connecting (by simp [Snapshot.status, parts]) (.inr ⟨hdial, ?_⟩)
    refine ticking_of_schedules scheduled (by simp [Snapshot.timerOf, parts]) hcleared ?_
    rwa [Timers.next_cancelAll]
  | misled status =>
    obtain ⟨link, hlink, hw⟩ := h.stopping status
    exact .of_stopping status ⟨link, hlink, List.mem_append_left _ hw⟩
  | pinged status held parts scheduled =>
    refine .of_attached ?_ (.inr ⟨ticking_of_schedules scheduled ?_ hn.timers
      hfired, by simp [parts]⟩)
    · simpa [Snapshot.Attached, Snapshot.status, parts] using status
    · simp [Snapshot.timerOf, parts]
  | @ponged t s timer timers link status held parts scheduled =>
    refine .of_attached ?_ (.inl ⟨ticking_of_schedules scheduled ?_ ?_ hfired, by simp [parts]⟩)
    · simpa [Snapshot.Attached, Snapshot.status, parts] using status
    · simp [Snapshot.timerOf, parts]
    · exact hn.timers.cancelAll (l := [t]) (by simpa using (hn.held .pongTimeout t held).2)
  | signedIn status parts =>
    refine .of_attached (.inr (by simp [Snapshot.status, parts])) ?_
    rcases h.attached (.inl status) with ⟨ht, hnone⟩ | ⟨ht, hnone⟩
    · refine .inl ⟨ht.snoc (by simp [Moment.firing?]) rfl ?_, by simpa [parts] using hnone⟩
      simp [Snapshot.timerOf, parts]
    · refine .inr ⟨ht.snoc (by simp [Moment.firing?]) rfl ?_, by simpa [parts] using hnone⟩
      simp [Snapshot.timerOf, parts]

/-- What holds of a run: the connector waits for what will wake it up, and all names in use were
given out. -/
structure Alert (past : List Moment) (c : Connector) : Prop where
  waits : Waits past c
  scheduled : Scheduled past c
  dialed : Dialed past c

theorem alert_of_run (hr : Run u past) : Alert past (u.after past) := by
  induction past using List.reverseRecOn with
  | nil =>
    have hheld : ∀ kind t, (u.after []).snapshot.timerOf kind ≠ some t := by
      intro kind t
      cases kind <;> simp [Setup.after, Setup.connector, Snapshot.timerOf, Snapshot.initial]
    refine ⟨.of_stopped rfl, ⟨⟨?_, ?_, ?_⟩, fun kind t ht => absurd ht (hheld kind t), ?_⟩,
      ⟨?_, ?_, ?_⟩⟩ <;> simp [Setup.after, Setup.connector]
  | append_singleton past m ih =>
    obtain ⟨hpast, ha⟩ := run_snoc.1 hr
    obtain ⟨hw, hn, hd⟩ := ih hpast
    have ht := turn_after u past m
    exact ⟨hw.turn (tidy_after u past) hn hd ha ht, hn.turn ha ht, hd.turn ha ht⟩

/-- **Every run** leaves a connector awake. -/
theorem awake_of_run (hr : Run u past) : Awake past (u.after past) := by
  have hw := (alert_of_run hr).waits
  have hc := tidy_after u past
  refine ⟨?_, ?_, ?_, ?_⟩
  · intro hs
    exact ⟨hc.dial_eq_none (by simp [hs]), Snapshot.timers_of_stopped hs⟩
  · intro hs
    exact ⟨hc.channel hs, hw.connecting hs⟩
  · intro hs
    obtain ⟨-, -, hchannel, -⟩ := Snapshot.attached_parts hs
    exact ⟨Option.ne_none_iff_exists'.1 hchannel,
      hc.dial_eq_none (Snapshot.Attached.ne_connecting hs), hw.attached hs⟩
  · intro hs
    exact ⟨hc.dial_eq_none (by simp [hs]), hc.timers_of_stopping hs, hw.stopping hs⟩

set_option maxRecDepth 20000 in
/-- After the server has fallen silent, the next connection attempt is under way. -/
theorem awake_after_silence : Run Sample.setup Sample.silence ∧
    Awake Sample.silence (Sample.setup.after Sample.silence) ∧
      (Sample.setup.after Sample.silence).snapshot.status = .connecting ∧
        (Sample.setup.after Sample.silence).dial = some ⟨2⟩ := by
  have hr : Run Sample.setup Sample.silence := by decide +kernel
  exact ⟨hr, awake_of_run hr, by decide +kernel, by decide +kernel⟩

end Connector

end DurableSession.Client
