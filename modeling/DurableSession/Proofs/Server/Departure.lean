import DurableSession.Proofs.Server.Conduct

/-!
A connection that has ended leaves nothing bound to its channel.

The gate releases what it knows of, and a signon that is still under way finds the channel closed.
Main statements: `unbound_of_farewell`, `Deserted.snoc` and `nothing_left`. A second factor that is
wanted too late is not refused, and the session waits for it on a channel that is gone:
`left_behind`.
-/

namespace DurableSession.Server

open Lifecycle (SessionId Token Phase)

/-! ### When the gate reports the end of its channel -/

section Farewell

variable {minted : SessionId → Prop} {s : State} {c : ChannelId} {x : SessionId} {rec : Record}

theorem Registry.unbound_of_closeRecord {now : Nat} {signedOff : Bool} {rec' : Record}
    (h : Registry.closeRecord now c signedOff rec = some rec') : rec'.channel ≠ some c := by
  unfold Registry.closeRecord at h
  split at h
  · next hne =>
    obtain rfl := Option.some.inj h
    exact hne
  · split at h
    · simp at h
    · obtain rfl := Option.some.inj h
      simp [Record.disconnect]

/-- **The end of a channel** that its gate reports, when the gate knows where the channel stands. -/
theorem unbound_of_farewell {g : Gate} {stand : Stand} (ht : Tenancy s g.channel stand)
    (hg : g.state = stand.gateState)
    (hx : (s.performAll g.farewell).registry.record? x = some rec) :
    rec.channel ≠ some g.channel := by
  have hrelease (hx : (s.registry.releaseChannel s.now g.channel).record? x = some rec) :
      rec.channel ≠ some g.channel := by
    rw [Registry.record?_releaseChannel, Option.bind_eq_some_iff] at hx
    obtain ⟨old, -, hclose⟩ := hx
    exact Registry.unbound_of_closeRecord hclose
  rw [Gate.registry_farewell, hg] at hx
  cases stand with
  | idle => exact fun hc => ht.bound x rec hx hc
  | carrying y =>
    have hx : (s.registry.close s.now g.channel y g.signoffSeen).record? x = some rec := hx
    rw [Registry.record?_close] at hx
    split at hx
    · obtain ⟨old, -, hclose⟩ := Option.bind_eq_some_iff.1 hx
      exact Registry.unbound_of_closeRecord hclose
    · next hne => exact fun hc => hne (ht.bound x rec hx hc)
  | challenged t => exact hrelease hx
  | trying id => exact hrelease hx

end Farewell

/-! ### After the end of a channel -/

/-- A channel is gone: it is closed, and the records that are bound to it are those that a signon
asks about. -/
structure Deserted (s : State) (c : ChannelId) : Prop where
  known : s.Known c
  closed : s.closed c = true
  bound : ∀ x rec, s.registry.record? x = some rec → rec.channel = some c → ∃ id, s.Asks id x

/-- An operation does not challenge a session that is bound to the channel. -/
def Operation.Unchallenging (c : ChannelId) (s : State) : Operation → Prop
  | .answerPrimary id .needsSecondary _ =>
    ∀ sg ∈ s.signons.find? id, sg.attempt.channel = c →
      ∀ rec ∈ s.registry.records, rec.channel ≠ some c
  | _ => True

instance (c : ChannelId) (s : State) : (op : Operation) → Decidable (op.Unchallenging c s)
  | .answerPrimary id .needsSecondary _ => inferInstanceAs (Decidable (∀ sg ∈ s.signons.find? id,
      sg.attempt.channel = c → ∀ rec ∈ s.registry.records, rec.channel ≠ some c))
  | .answerPrimary _ .accepted _ | .answerPrimary _ (.denied _) _ | .openChannel _ _ _ | .kick _
  | .abandon _
  | .advance _ | .spawn _ _ | .start _ _ | .answerSecondary _ _ | .reuse _ _ | .close _ _ _
  | .release _
  | .kickout _ | .kickoutAll | .sweep | .register _ _ | .unregister _ _ | .count _ => isTrue trivial

section Deserted

variable {window : Nat} {ops later : List Operation} {op : Operation} {c : ChannelId}
  {x : SessionId} {rec : Record}

/-- On a channel that is closed an answer ends the session that it is about, unless it wants a
second factor. -/
theorem Conclusion.refused_of_closed {s : State} {due : Option Token} {o : Outcome}
    {r : Option Record} (h : Conclusion s x rec c due o r) (hclosed : s.closed c = true)
    (hdue : due = none) : r = none := by
  cases h with
  | granted attended => simp [hclosed] at attended
  | challenged wanted => simp [hdue] at wanted
  | refused failure => rfl

theorem Deserted.channel_of_asking {minted : SessionId → Prop} {s : State} {id : SignonId}
    {a : Attempt} {login : String} (h : Coherent minted s)
    (hid : s.signons.find? id = some ⟨a, .asking x login⟩) (hx : s.registry.record? x = some rec)
    (hc : rec.channel = some c) : a.channel = c :=
  Option.some.inj ((h.asking id a x login rec hid hx).2.1.symm.trans hc)

theorem Deserted.unattended {minted : SessionId → Prop} {s : State} (hd : Deserted s c)
    (h : Coherent minted s) {id : SignonId} {a : Attempt} {login : String}
    (hid : s.signons.find? id = some ⟨a, .asking x login⟩) (hx : s.registry.record? x = some rec)
    (hc : rec.channel = some c) : s.closed a.channel = true := by
  rw [Deserted.channel_of_asking h hid hx hc]
  exact hd.closed

/-- No second factor is wanted for a session that is bound to the channel. -/
theorem due?_of_unchallenging {s : State} {id : SignonId} {verdict : PrimaryVerdict} {fresh : Token}
    {sg : Signon} (hcalm : (Operation.answerPrimary id verdict fresh).Unchallenging c s)
    (hid : s.signons.find? id = some sg) (hchannel : sg.attempt.channel = c)
    (hx : s.registry.record? x = some rec) (hc : rec.channel = some c) :
    verdict.due? fresh = none := by
  cases verdict with
  | needsSecondary => exact absurd hc (hcalm sg hid hchannel rec (Table.mem_values.2 ⟨x, hx⟩))
  | _ => rfl

/-- The signon that asks about a session goes on to ask, if the session stays bound to the
channel. -/
theorem Deserted.asks_snoc (hr : Run window (ops ++ [op]))
    (hcalm : op.Unchallenging c (stateAfter window ops)) (hd : Deserted (stateAfter window ops) c)
    {id : SignonId} (hasks : (stateAfter window ops).Asks id x)
    (hx : (stateAfter window ops).registry.record? x = some rec) (hc : rec.channel = some c)
    (hx' : (stateAfter window (ops ++ [op])).registry.record? x = some rec) :
    (stateAfter window (ops ++ [op])).Asks id x := by
  obtain ⟨hops, ha⟩ := Run.snoc_iff.1 hr
  have h := coherent_of_run hops
  obtain ⟨a, login, hid⟩ := hasks
  have hchannel := Deserted.channel_of_asking h hid hx hc
  rw [stateAfter_snoc] at hx' ⊢
  rcases State.concluded_of_asking h ha.1 ha.2.1 hid hx with hkept |
    ⟨o, due, hanswers, -, hconclusion⟩
  · exact ⟨a, login, hkept⟩
  · have hdue : due = none := by
      cases hanswers with
      | primary => exact due?_of_unchallenging hcalm hid hchannel hx hc
      | secondary => rfl
    rw [hx'] at hconclusion
    have hgone := hconclusion.refused_of_closed (hd.unattended h hid hx hc) hdue
    simp at hgone

theorem Deserted.snoc (hr : Run window (ops ++ [op])) (hop : op.binds? ≠ some c)
    (hcalm : op.Unchallenging c (stateAfter window ops)) (hd : Deserted (stateAfter window ops) c) :
    Deserted (stateAfter window (ops ++ [op])) c := by
  obtain ⟨hops, ha⟩ := Run.snoc_iff.1 hr
  have h := coherent_of_run hops
  refine ⟨?_, ?_, fun x rec hx hc => ?_⟩
  · rw [stateAfter_snoc]
    exact State.known_perform hd.known
  · rw [stateAfter_snoc]
    exact State.closed_perform ha.1 hd.known hd.closed
  · have hfate := h.fate ha.2.1 x
    rw [← stateAfter_snoc, hx] at hfate
    generalize ho : (stateAfter window ops).registry.record? x = o at hfate
    cases hfate with
    | kept =>
      obtain ⟨id, hasks⟩ := hd.bound x rec ho hc
      exact ⟨id, hd.asks_snoc hr hcalm hasks ho hc hx⟩
    | minted signon =>
      rw [stateAfter_snoc] at hx ⊢
      exact ⟨_, _, _, State.asks_of_minted signon ho hx⟩
    | challenged signon state =>
      have hchannel := Deserted.channel_of_asking h signon ho hc
      have hdue := due?_of_unchallenging hcalm signon hchannel ho hc
      simp [PrimaryVerdict.due?] at hdue
    | accepted signon state attended =>
      have hclosed := hd.unattended h signon ho hc
      simp [Attempt.channel, attended] at hclosed
    | verified signon state attended =>
      have hclosed := hd.unattended h signon ho hc
      simp [Attempt.channel, attended] at hclosed
    | resumed free => exact absurd hc hop
    | disconnected state why => simp [Record.disconnect] at hc

theorem Deserted.append (hr : Run window (ops ++ later)) (hlater : ∀ op ∈ later, op.binds? ≠ some c)
    (hcalm : Throughout (Operation.Unchallenging c) (stateAfter window ops) later)
    (hd : Deserted (stateAfter window ops) c) : Deserted (stateAfter window (ops ++ later)) c := by
  induction later generalizing ops with
  | nil => simpa using hd
  | cons op later ih =>
    have hcalm' := hcalm.2
    rw [← stateAfter_snoc] at hcalm'
    rw [List.append_cons] at hr ⊢
    exact ih hr (fun op' hop' => hlater op' (List.mem_cons_of_mem _ hop')) hcalm'
      (hd.snoc hr.of_append (hlater op List.mem_cons_self) hcalm.1)

theorem Operation.unchallenging_of_nameless {s : State} (h : op.issues? = none) :
    op.Unchallenging c s := by
  cases op with
  | answerPrimary id verdict fresh => simp [Operation.issues?] at h
  | _ => trivial

end Deserted

/-! ### Gates that have gone -/

/-- **No challenge comes late**: a second factor is not wanted for a session that is bound to the
channel. -/
def Gatehouse.Timely (c : ChannelId) (h : Gatehouse) : Event → Prop
  | .elsewhere op => op.Unchallenging c h.state
  | _ => True

instance (c : ChannelId) (h : Gatehouse) : (e : Event) → Decidable (h.Timely c e)
  | .elsewhere op => inferInstanceAs (Decidable (op.Unchallenging c h.state))
  | .arrive _ _ _ _ | .text _ _ _ | .outcome _ | .abandoned _ | .depart _ => isTrue trivial

section Gates

variable {window : Nat} {events later : List Event} {e : Event} {c : ChannelId}

/-- The channel of a gate that reports its end is deserted from then on. -/
theorem deserted_of_depart {stand : Stand} {p : Post} (hr : Gatehouse.Run window events)
    (hs : (Gatehouse.after window events).Standing c stand)
    (hp : (Gatehouse.after window events).posts.find? c = some p) :
    Deserted (Gatehouse.after window (events ++ [.depart c])).state c := by
  obtain ⟨minted, hsound⟩ := sound_of_run hr
  have hpost := hsound.posts c p hp
  obtain rfl := hpost.place
  have hstate : (Gatehouse.after window (events ++ [.depart p.gate.channel])).state =
      (Gatehouse.after window events).state.performAll p.gate.farewell := by
    rw [Gatehouse.after_snoc, Gatehouse.step, hp]
    exact Gate.onClosed_snd
  rw [hstate]
  refine ⟨?_, ?_, fun x rec hx hc => absurd hc (unbound_of_farewell hs.tenancy (hs.post p hp).1 hx)⟩
  · unfold State.Known
    rw [Gate.channels_farewell, Channels.kick, Channels.isSome_modify]
    exact hpost.known
  · unfold State.closed
    rw [Gate.channels_farewell, Channels.isClosed_kick]
    simp

theorem Deserted.event (hr : Gatehouse.Run window (events ++ [e]))
    (hgone : (Gatehouse.after window events).posts.find? c = none)
    (ho : (Gatehouse.after window events).Orderly c e)
    (ht : (Gatehouse.after window events).Timely c e)
    (hd : Deserted (Gatehouse.after window events).state c) :
    Deserted (Gatehouse.after window (events ++ [e])).state c ∧
      (Gatehouse.after window (events ++ [e])).posts.find? c = none := by
  obtain ⟨hevents, ha⟩ := Gatehouse.run_snoc.1 hr
  obtain ⟨minted, hsound⟩ := sound_of_run hevents
  obtain ⟨hrun, hstate⟩ := Gatehouse.run_performed hr
  have hbefore := (Gatehouse.run_performed hevents).2
  -- gates do not answer for authenticators
  have hcalm : Throughout (Operation.Unchallenging c) (Gatehouse.after window events).state
      ((Gatehouse.after window events).deeds e) := by
    cases hc : e.channel? with
    | none =>
      cases e with
      | elsewhere op => exact ⟨ht, trivial⟩
      | _ => simp [Event.channel?] at hc
    | some d =>
      have hnames := (Gatehouse.deeds_nameless hsound ha hc).names_none
      exact throughout_of_forall fun op hop s => Operation.unchallenging_of_nameless
        (hnames op hop).2
  have hshift := Gatehouse.shift (e := e) (c := c) fun d p hp => (hsound.posts d p hp).place
  rw [Gatehouse.performed_snoc] at hrun hstate
  rw [← Gatehouse.after_snoc, hgone] at hshift
  rw [hbefore] at hcalm hd
  rw [hstate]
  generalize (Gatehouse.after window events).deeds e = ops at hshift hrun hcalm ⊢
  generalize (Gatehouse.after window (events ++ [e])).posts.find? c = after at hshift ⊢
  cases hshift with
  | kept o unbound =>
    refine ⟨hd.append hrun (unbound fun op he => ?_) hcalm, rfl⟩
    subst he
    exact ho
  | arrived =>
    have hknown := hd.known
    rw [← hbefore] at hknown
    exact absurd hknown ha

theorem Deserted.follow (hr : Gatehouse.Run window (events ++ later))
    (hgone : (Gatehouse.after window events).posts.find? c = none)
    (ho : Gatehouse.Always (Gatehouse.Orderly c) (Gatehouse.after window events) later)
    (ht : Gatehouse.Always (Gatehouse.Timely c) (Gatehouse.after window events) later)
    (hd : Deserted (Gatehouse.after window events).state c) :
    Deserted (Gatehouse.after window (events ++ later)).state c := by
  induction later generalizing events with
  | nil => simpa using hd
  | cons e later ih =>
    rw [List.append_cons] at hr ⊢
    obtain ⟨hd', hgone'⟩ := hd.event (Gatehouse.run_of_append hr) hgone ho.1 ht.1
    have ho' := ho.2
    have ht' := ht.2
    rw [← Gatehouse.after_snoc] at ho' ht'
    exact ih hr hgone' ho' ht' hd'

/-- **A closed channel leaves nothing behind.** When the gate of a channel has reported its end and
all signons on the channel have ended, nothing is bound to it, as long as its client gave the code
that it was asked for before it wanted anything else, and no code was wanted of it after the end. -/
theorem nothing_left (h : Gatehouse.Run window (events ++ .depart c :: later))
    (hgate : (Gatehouse.after window events).posts.find? c ≠ none)
    (ho : Gatehouse.Always (Gatehouse.Orderly c) { state := { window } }
      (events ++ .depart c :: later))
    (ht : Gatehouse.Always (Gatehouse.Timely c)
      (Gatehouse.after window (events ++ [.depart c])) later)
    (hended : ∀ id sg, (Gatehouse.after window (events ++ .depart c :: later)).state.signons.find?
      id = some sg → sg.attempt.channel = c → sg.isDecided = true) :
    ∀ x rec, (Gatehouse.after window (events ++ .depart c :: later)).state.registry.record? x =
      some rec →
      rec.channel ≠ some c := by
  rw [List.append_cons] at h ho hended ⊢
  obtain ⟨ho, holater⟩ := Gatehouse.always_append.1 ho
  have hdeparted := Gatehouse.run_of_append h
  have hevents := Gatehouse.run_of_append hdeparted
  obtain ⟨stand, hs⟩ := standing_of_run hevents (Gatehouse.always_append.1 ho).1
  obtain ⟨p, hp⟩ := Option.ne_none_iff_exists'.1 hgate
  have hdeserted := deserted_of_depart hevents hs hp
  have hgone : (Gatehouse.after window (events ++ [.depart c])).posts.find? c = none := by
    rw [Gatehouse.after_snoc, Gatehouse.step, hp]
    exact (Table.find?_erase ..).trans (if_pos rfl)
  have hd := hdeserted.follow h hgone holater ht
  intro x rec hx hc
  obtain ⟨id, a, login, hid⟩ := hd.bound x rec hx hc
  obtain ⟨minted, hsound⟩ := sound_of_run h
  have hchannel := Deserted.channel_of_asking hsound.coherent hid hx hc
  have hdecided := hended id _ hid hchannel
  simp [Signon.isDecided] at hdecided

end Gates

/-- Carol has signed on too late: her connection is gone before her secret is looked at. -/
def Sample.late (verdict : PrimaryVerdict) : List Event :=
  [.elsewhere (.start ⟨0⟩ session), .elsewhere (.answerPrimary ⟨0⟩ verdict token)]

set_option maxRecDepth 20000 in
/-- Her secret is right, and nothing is left. -/
theorem nothing_left_of_late :
    (Gatehouse.after 10 (Sample.knock ++ .depart Sample.client :: Sample.late
      .accepted)).state.outcome? ⟨0⟩ =
        some (.denied .unknownSession) ∧
      ∀ x rec, (Gatehouse.after 10 (Sample.knock ++ .depart Sample.client ::
          Sample.late .accepted)).state.registry.record? x = some rec →
        rec.channel ≠ some Sample.client := by
  have h : Gatehouse.Run 10 (Sample.knock ++ .depart Sample.client :: Sample.late .accepted) := by
    decide +kernel
  have hended : ∀ sg ∈ (Gatehouse.after 10 (Sample.knock ++ .depart Sample.client ::
      Sample.late .accepted)).state.signons.values, sg.isDecided = true := by
    decide +kernel
  refine ⟨by decide +kernel, nothing_left h (by decide +kernel) (by decide +kernel) (by
    decide +kernel) ?_⟩
  exact fun id sg hid _ => hended sg (Table.mem_values.2 ⟨id, hid⟩)

/-- She is challenged in time, and fails to resume another session before her connection goes. -/
def Sample.distracted : List Event :=
  challenge ++ [.text client ⟨1⟩ (Phase.encode (.resumeSession otherSession)), .depart client]

/-- Carol's gate has gone and her signon has ended, and still her session waits for a code on her
channel. -/
def Sample.Stranded (h : Gatehouse) : Prop :=
  h.posts.find? client = none ∧ (∀ sg ∈ h.state.signons.values, sg.isDecided = true) ∧
    h.state.registry.record? session = some awaiting

instance (h : Gatehouse) : Decidable (Sample.Stranded h) :=
  inferInstanceAs (Decidable (_ ∧ _ ∧ _))

set_option maxRecDepth 20000 in
/-- A second factor that is wanted too late leaves a session behind, and so does a challenge that
was forgotten over something else. -/
theorem left_behind :
    (Gatehouse.Run 10 (Sample.knock ++ .depart Sample.client :: Sample.late .needsSecondary) ∧
      Sample.Stranded
        (Gatehouse.after 10
          (Sample.knock ++ .depart Sample.client :: Sample.late .needsSecondary))) ∧
    (Gatehouse.Run 10 Sample.distracted ∧ Sample.Stranded (Gatehouse.after 10 Sample.distracted)) ∧
    Sample.awaiting.channel = some Sample.client := by
  decide +kernel

end DurableSession.Server
