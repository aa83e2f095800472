import Mathlib.Data.List.Induction
import DurableSession.Proofs.Server.Deeds
import DurableSession.Proofs.Server.Resumption

/-!
A session whose connection is lost can be resumed for exactly the window.

A gate that carries a session knows that its signon is over, so that the session waits when the gate
reports the end of its channel. It waits as it is until a sweep finds its window over, and an
attempt to resume it draws the same line. Main statements: `record?_of_farewell`, `Lingers.follow`
and `resumable_for_window`.
-/

namespace DurableSession.Server

open Lifecycle (SessionId)

/-! ### Sessions that have been signed on -/

/-- The signon of the session is over: while there is a record, it is not pending. -/
structure Established (window : Nat) (ops : List Operation) (x : SessionId) : Prop where
  minted : Minted ops x
  settled : ∀ rec, (stateAfter window ops).registry.record? x = some rec →
    rec.state.isPending = false

section Established

variable {window : Nat} {ops later : List Operation} {op : Operation} {x : SessionId}
  {c : ChannelId}

theorem Established.snoc (hr : Run window (ops ++ [op])) (h : Established window ops x) :
    Established window (ops ++ [op]) x where
  minted := minted_snoc.2 (.inl h.minted)
  settled rec hx := by
    obtain ⟨hops, ha⟩ := Run.snoc_iff.1 hr
    rw [stateAfter_snoc] at hx
    have hfate := (coherent_of_run hops).fate ha.2.1 x
    rw [hx] at hfate
    generalize ho : (stateAfter window ops).registry.record? x = o at hfate
    cases hfate with
    | kept => exact h.settled rec ho
    | minted => exact absurd h.minted (ha.2.1 x rfl)
    | challenged signon state =>
      have hsettled := h.settled _ ho
      simp [state, RecordState.isPending] at hsettled
    | accepted signon state attended => rfl
    | verified signon state attended => rfl
    | resumed free => rfl
    | disconnected state why => rfl

theorem Established.append (hr : Run window (ops ++ later)) (h : Established window ops x) :
    Established window (ops ++ later) x := by
  induction later using List.reverseRecOn with
  | nil => simpa using h
  | append_singleton later op ih =>
    rw [← List.append_assoc] at hr ⊢
    exact (ih hr.of_append).snoc hr

theorem established_of_holds (hr : Run window ops) (hx : (stateAfter window ops).Holds c x) :
    Established window ops x := by
  obtain ⟨rec, hrec, hactive, -⟩ := hx
  refine ⟨(coherent_of_run hr).known x rec hrec, fun rec' hrec' => ?_⟩
  obtain rfl := Option.some.inj (hrec.symm.trans hrec')
  simp [hactive, RecordState.isPending]

theorem established_of_granted (hr : Run window ops) {id : SignonId} {a : Attempt} {login : String}
    (hid : (stateAfter window ops).signons.find? id = some ⟨a, .decided (.accepted x login)⟩) :
    Established window ops x := by
  induction hr with
  | nil => simp at hid
  | @snoc ops op hops ha ih =>
    have hcoherent := coherent_of_run hops
    have hrun := hops.snoc ha
    cases ho : (stateAfter window ops).outcome? id with
    | none =>
      rw [stateAfter_snoc] at hid
      have hholds := State.holds_of_granted hcoherent ha.2.1 ho hid
      rw [← stateAfter_snoc] at hholds
      exact established_of_holds hrun hholds
    | some o =>
      obtain ⟨a', hid'⟩ := State.decided_of_outcome? ho
      obtain ⟨p, hp, hkept⟩ := State.progress_perform hcoherent ha.1 ha.2.1 hid'
      rw [← stateAfter_snoc, hid] at hp
      obtain ⟨rfl, rfl⟩ := Signon.mk.inj (Option.some.inj hp)
      obtain he := hkept.resolve_right (by simp [ho])
      rw [← he] at hid'
      exact (ih hid').snoc hrun

end Established

section Gates

variable {window : Nat} {events : List Event} {e : Event} {c : ChannelId} {x : SessionId} {p : Post}

theorem Established.event (hr : Gatehouse.Run window (events ++ [e]))
    (h : Established window (Gatehouse.performed window events) x) :
    Established window (Gatehouse.performed window (events ++ [e])) x := by
  have hrun := (Gatehouse.run_performed hr).1
  rw [Gatehouse.performed_snoc] at hrun ⊢
  exact h.append hrun

theorem established_of_active (hr : Gatehouse.Run window events)
    (hp : (Gatehouse.after window events).posts.find? c = some p)
    (hactive : p.gate.state = .active x) :
    Established window (Gatehouse.performed window events) x := by
  induction events using List.reverseRecOn generalizing p with
  | nil => simp [Gatehouse.after] at hp
  | append_singleton events e ih =>
    obtain ⟨hevents, ha⟩ := Gatehouse.run_snoc.1 hr
    obtain ⟨hrun, hstate⟩ := Gatehouse.run_performed hevents
    obtain ⟨minted, hsound⟩ := sound_of_run hevents
    have hshift := Gatehouse.shift (e := e) (c := c) fun c p hp => (hsound.posts c p hp).place
    rw [Gatehouse.after_snoc] at hp
    rw [hp] at hshift
    generalize hb : (Gatehouse.after window events).posts.find? c = before at hshift
    generalize hd : (Gatehouse.after window events).deeds e = ops at hshift
    cases hshift with
    | kept => exact (ih hevents hb hactive).event hr
    | arrived => simp at hactive
    | unasked => exact (ih hevents hb hactive).event hr
    | began => simp at hactive
    | @resumed fresh text p x' login demand accepted =>
      obtain rfl := GateState.active.inj hactive
      obtain ⟨hrun', hstate'⟩ := Gatehouse.run_performed hr
      refine established_of_holds (c := c) hrun' ?_
      rw [Gatehouse.performed_snoc, stateAfter_append, hd, ← hstate]
      exact State.holds_of_reuse accepted
    | refused => simp at hactive
    | @told ops p id o awaited decided unbound =>
      cases o with
      | accepted y login =>
        obtain rfl := GateState.active.inj hactive
        rw [hstate] at decided
        obtain ⟨a, hid⟩ := State.decided_of_outcome? decided
        exact (established_of_granted hrun hid).event hr
      | needsSecondary t => simp [Gate.onOutcome] at hactive
      | denied failure => simp [Gate.onOutcome] at hactive
    | abandoned => simp at hactive

end Gates

/-! ### From the end of the channel on -/

/-- A session whose gate reports the end of its channel, without a signoff, waits to be resumed from
then on. -/
theorem record?_of_farewell {s : State} {g : Gate} {x : SessionId} {rec : Record}
    (hactive : g.state = .active x) (hoff : g.signoffSeen = false)
    (hx : s.registry.record? x = some rec) (hstate : rec.state = .active)
    (hbound : rec.channel = some g.channel) :
    (s.performAll g.farewell).registry.record? x = some (rec.disconnect s.now) := by
  rw [Gate.registry_farewell, hactive, hoff]
  dsimp only
  rw [Registry.record?_close, if_pos rfl, hx, Option.bind_some]
  unfold Registry.closeRecord
  rw [if_neg (by simp [hbound]), if_neg (by simp [hstate])]

/-- An operation is about other sessions and logins. -/
def Operation.Spares (x : SessionId) (login : String) (s : State) : Operation → Prop
  | .reuse y _ => y ≠ x
  | .start id _ =>
    ∀ sg ∈ s.signons.find? id, sg.progress = .spawned → sg.attempt.login? ≠ some login
  | .kickout y => y ≠ x
  | .kickoutAll => False
  | _ => True

theorem Operation.Spares.aside {x : SessionId} {rec : Record} {s : State} {op : Operation}
    (h : op.Spares x rec.login s) : op.Aside x rec s ∧ ∀ c, op ≠ .reuse x c := by
  cases op with
  | reuse y c =>
    have hne : y ≠ x := h
    exact ⟨fun he => absurd he hne, fun d he => hne (Operation.reuse.inj he).1⟩
  | _ => exact ⟨h, by simp⟩

/-- A session waits to be resumed, or its window is over and it is gone. -/
inductive Lingers (minted : SessionId → Prop) (s : State) (x : SessionId) (rec : Record) :
    Prop where
  | waiting (h : s.registry.record? x = some rec)
  | expired (given : minted x) (h : s.registry.record? x = none)
      (late : rec.inactive s.window s.now = true)

section Lingers

variable {history : List Operation} {s : State} {op : Operation} {later : List Operation}
  {x : SessionId} {rec : Record}

theorem inactive_perform (hlate : rec.inactive s.window s.now = true) :
    rec.inactive (s.perform op).window (s.perform op).now = true := by
  obtain ⟨hwindow, hnow⟩ : (s.perform op).window = s.window ∧ s.now ≤ (s.perform op).now :=
    State.clock_perform
  simp only [Record.inactive, decide_eq_true_eq, hwindow] at hlate ⊢
  omega

theorem Lingers.step (h : Coherent (Minted history) s) (ha : op.Admissible history s)
    (hstate : rec.state = .reusable) (hop : op.Spares x rec.login s)
    (hl : Lingers (Minted history) s x rec) :
    Lingers (Minted (history ++ [op])) (s.perform op) x rec := by
  cases hl with
  | waiting hx =>
    rcases State.record?_of_waiting h ha hx hstate hop.aside.1 hop.aside.2 with hx' | ⟨hx', hlate⟩
    · exact .waiting hx'
    · exact .expired (minted_snoc.2 (.inl (h.known x rec hx))) hx' (inactive_perform hlate)
  | expired given hx hlate =>
    exact .expired (minted_snoc.2 (.inl given)) (State.gone_perform h ha.2.1 given hx)
      (inactive_perform hlate)

/-- **Many operations**, all of them about something else. -/
theorem Lingers.follow (h : Coherent (Minted history) s) (hf : Follow history s later)
    (hstate : rec.state = .reusable) (hops : Throughout (Operation.Spares x rec.login) s later)
    (hl : Lingers (Minted history) s x rec) :
    ∃ minted, Lingers minted (s.performAll later) x rec := by
  induction later generalizing s history with
  | nil => exact ⟨_, hl⟩
  | cons op later ih => exact ih (h.step hf.1) hf.2 hops.2 (hl.step h hf.1 hstate hops.1)

/-- An attempt to resume a session after its window destroys it, if no sweep has done so. -/
theorem reuse_of_late {c : ChannelId} (hx : s.registry.record? x = some rec)
    (hstate : rec.state = .reusable) (hlate : rec.inactive s.window s.now = true) :
    (s.reuse x c).1 = .error .sessionExpired ∧ (s.reuse x c).2.registry.record? x = none := by
  have hreuse : s.registry.reuse s.closed s.window s.now x c (s.remoteOf c) =
      (.error .sessionExpired, (s.registry.terminate x).1) := by
    unfold Registry.reuse
    simp [hx, hstate, hlate]
  unfold State.reuse
  rw [hreuse]
  exact ⟨rfl, Registry.record?_terminate.trans (if_pos rfl)⟩

theorem reuse_of_gone {c : ChannelId} (hx : s.registry.record? x = none) :
    (s.reuse x c).1 = .error .unknownSession ∧ (s.reuse x c).2.registry.record? x = none := by
  have hreuse : s.registry.reuse s.closed s.window s.now x c (s.remoteOf c) =
      (.error .unknownSession, s.registry) := by
    unfold Registry.reuse
    rw [hx]
  unfold State.reuse
  rw [hreuse]
  exact ⟨rfl, hx⟩

/-- The window decides whether a session is resumed, whoever has noticed that it is over. -/
theorem Lingers.reuse {minted : SessionId → Prop} (hl : Lingers minted s x rec)
    (hstate : rec.state = .reusable) (c : ChannelId) :
    (s.now - rec.lastActiveAt ≤ s.window →
      (s.reuse x c).1 = .ok rec.login ∧ (s.reuse x c).2.Holds c x) ∧
    (s.window < s.now - rec.lastActiveAt →
      ∃ e, (s.reuse x c).1 = .error e ∧ e.asFailure = .unknownSession ∧
        (s.reuse x c).2.registry.record? x = none) := by
  cases hl with
  | waiting hx =>
    refine ⟨fun hintime => ?_, fun hlate => ?_⟩
    · have hok : (s.reuse x c).1 = .ok rec.login :=
        State.reuse_of_waiting hx hstate (by simpa [Record.inactive] using hintime)
      exact ⟨hok, State.holds_of_reuse hok⟩
    · obtain ⟨herror, hgone⟩ :=
        reuse_of_late (c := c) hx hstate (by simpa [Record.inactive] using hlate)
      exact ⟨_, herror, rfl, hgone⟩
  | expired given hx hlate =>
    have hover : s.window < s.now - rec.lastActiveAt := by simpa [Record.inactive] using hlate
    obtain ⟨herror, hgone⟩ := reuse_of_gone (c := c) hx
    exact ⟨fun hintime => by omega, fun _ => ⟨_, herror, rfl, hgone⟩⟩

end Lingers

/-! ### Lost connections -/

/-- A gate carries a session on the channel that the session is bound to, and has not seen a
signoff. -/
structure Gatehouse.Serves (h : Gatehouse) (c : ChannelId) (x : SessionId) (rec : Record) :
    Prop where
  gate : ∃ p, h.posts.find? c = some p ∧ p.gate.state = .active x ∧ p.gate.signoffSeen = false
  record : h.state.registry.record? x = some rec
  bound : rec.channel = some c

theorem Gatehouse.Serves.depart {window : Nat} {events : List Event} {c : ChannelId} {x : SessionId}
    {rec : Record} (hr : Gatehouse.Run window events)
    (hs : (Gatehouse.after window events).Serves c x rec) :
    (Gatehouse.after window (events ++ [.depart c])).state.registry.record? x =
      some (rec.disconnect (Gatehouse.after window events).state.now) := by
  obtain ⟨⟨p, hp, hactive, hoff⟩, hrec, hbound⟩ := hs
  obtain ⟨hrun, hstate⟩ := Gatehouse.run_performed hr
  obtain ⟨minted, hsound⟩ := sound_of_run hr
  obtain rfl := (hsound.posts c p hp).place
  have hsettled : rec.state.isPending = false := by
    refine (established_of_active hr hp hactive).settled rec ?_
    rw [← hstate]
    exact hrec
  -- a record with a channel that is not pending is active
  have hrecstate : rec.state = .active := by
    have hfits := hsound.coherent.settled x rec hrec
    unfold Record.Settled at hfits
    cases hst : rec.state with
    | active => rfl
    | reusable => simp [hst, hbound] at hfits
    | terminated => simp [hst] at hfits
    | _ => simp [hst, RecordState.isPending] at hsettled
  rw [Gatehouse.after_snoc, Gatehouse.step, hp]
  dsimp only
  rw [Gate.onClosed_snd]
  exact record?_of_farewell hactive hoff hrec hrecstate hbound

section Departure

variable {window : Nat} {events later : List Event} {x : SessionId} {rec : Record}

theorem Gatehouse.window_after (hr : Gatehouse.Run window events) :
    (Gatehouse.after window events).state.window = window := by
  rw [(Gatehouse.run_performed hr).2]
  exact State.clock_performAll.1

/-- A session that waits lingers while everything that happens is about something else. -/
theorem lingers_of_events (hr : Gatehouse.Run window (events ++ later))
    (hx : (Gatehouse.after window events).state.registry.record? x = some rec)
    (hstate : rec.state = .reusable)
    (hlater : Throughout (Operation.Spares x rec.login) (Gatehouse.after window events).state
      ((Gatehouse.after window events).operations later)) :
    ∃ minted, Lingers minted (Gatehouse.after window (events ++ later)).state x rec := by
  obtain ⟨hrun, hafter⟩ := Gatehouse.run_performed hr
  obtain ⟨hbefore, hnow⟩ := Gatehouse.run_performed (Gatehouse.run_of_append hr)
  rw [Gatehouse.performed_append] at hrun hafter
  rw [stateAfter_append] at hafter
  have hfollow := (Run.append_iff.1 hrun).2
  have hcoherent := coherent_of_run hbefore
  rw [← hnow] at hafter hfollow hcoherent
  rw [hafter]
  exact Lingers.follow hcoherent hfollow hstate hlater (.waiting hx)

/-- **A lost session can be resumed for exactly the window.** When the gate that carries it reports
the end of its channel at `t₀`, and whatever happens afterwards is about other sessions and logins,
whoever wants to resume it gets it up to the end of its window, and is told later that there is no
such session. -/
theorem resumable_for_window {c : ChannelId}
    (h : Gatehouse.Run window (events ++ .depart c :: later))
    (hs : (Gatehouse.after window events).Serves c x rec)
    (hlater : Throughout (Operation.Spares x rec.login)
      (Gatehouse.after window (events ++ [.depart c])).state
      ((Gatehouse.after window (events ++ [.depart c])).operations later)) (d : ChannelId) :
    let t₀ := (Gatehouse.after window events).state.now
    let s := (Gatehouse.after window (events ++ .depart c :: later)).state
    (s.now - t₀ ≤ window → (s.reuse x d).1 = .ok rec.login ∧ (s.reuse x d).2.Holds d x) ∧
    (window < s.now - t₀ →
      ∃ e, (s.reuse x d).1 = .error e ∧ e.asFailure = .unknownSession ∧
        (s.reuse x d).2.registry.record? x = none) := by
  intro t₀ s
  have hrun : Gatehouse.Run window ((events ++ [.depart c]) ++ later) := by simpa using h
  have hafter : s = (Gatehouse.after window ((events ++ [.depart c]) ++ later)).state := by simp [s]
  have hdeparted := Gatehouse.run_of_append hrun
  have hwaits := hs.depart (Gatehouse.run_of_append hdeparted)
  obtain ⟨minted, hlingers⟩ := lingers_of_events hrun hwaits rfl hlater
  have hwindow : s.window = window := Gatehouse.window_after h
  rw [← hafter] at hlingers
  have hreuse := hlingers.reuse rfl d
  rwa [hwindow] at hreuse

end Departure

/-- The server sweeps before and after some time has passed. -/
def Sample.pause (ms : Nat) :
    List Event := [.elsewhere .sweep, .elsewhere (.advance ms), .elsewhere .sweep]

/-- Carol's record while her gate serves her. -/
def Sample.served : Record := ⟨session, "carol", .active, some client, address, 0, 0⟩

set_option maxRecDepth 20000 in
/-- Carol's connection is lost. Her session is hers up to the last moment of the window, and not any
longer. -/
theorem carol_resumable :
    (Gatehouse.after 10 Sample.meeting).Serves Sample.client Sample.session Sample.served ∧
      ((Gatehouse.after 10 (Sample.meeting ++ .depart Sample.client :: Sample.pause 10)).state.reuse
        Sample.session Sample.otherClient).1 = .ok "carol" ∧
      ∃ e,
        ((Gatehouse.after 10
          (Sample.meeting ++ .depart Sample.client :: Sample.pause 11)).state.reuse
        Sample.session Sample.otherClient).1 = .error e ∧ e.asFailure = .unknownSession := by
  have hs : (Gatehouse.after 10 Sample.meeting).Serves Sample.client Sample.session Sample.served :=
    ⟨⟨⟨⟨Sample.client, true, .active Sample.session, false⟩, none⟩, by decide +kernel, rfl, rfl⟩,
      by decide +kernel, rfl⟩
  have hrun : Gatehouse.Run 10 (Sample.meeting ++ .depart Sample.client :: Sample.pause 10) := by
    decide +kernel
  have hrun' : Gatehouse.Run 10 (Sample.meeting ++ .depart Sample.client :: Sample.pause 11) := by
    decide +kernel
  have hintime := resumable_for_window hrun hs ⟨trivial, trivial, trivial, trivial⟩
    Sample.otherClient
  have hlate := resumable_for_window hrun' hs ⟨trivial, trivial, trivial, trivial⟩
    Sample.otherClient
  obtain ⟨e, herror, hfailure, -⟩ := hlate.2 (by decide +kernel)
  exact ⟨hs, (hintime.1 (by decide +kernel)).1, e, herror, hfailure⟩

end DurableSession.Server
