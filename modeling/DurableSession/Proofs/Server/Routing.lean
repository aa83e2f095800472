import Mathlib.Data.List.Induction
import DurableSession.Proofs.Server.Moves

/-!
Routes follow the gates that carry sessions.

A gate may learn long after the registry bound a session to its channel that it is to carry it. A
client that wants to resume a session can know of it only from an answer that a gate gave, so that
until then no other gate gets the session. Main statements: `Directed.event` and `routes_follow`.
-/

namespace DurableSession.Server

open Lifecycle (SessionId Phase)

namespace Gatehouse

/-! ### What gates wait for -/

section Awaiting

variable {window : Nat} {h : Gatehouse} {c d : ChannelId} {p : Post} {e : Event}
  {events : List Event} {id : SignonId}

theorem attentive_of_run (hr : Run window events) : (after window events).Attentive := by
  induction events using List.reverseRecOn with
  | nil => simp [Attentive, after]
  | append_singleton events e ih =>
    have hw := ih (run_of_append hr)
    obtain ⟨minted, hs⟩ := sound_of_run (run_of_append hr)
    rw [after_snoc]
    intro c p hp hne
    have hshift := shift (e := e) (c := c) fun c p hp => (hs.posts c p hp).place
    rw [hp] at hshift
    generalize ho : some p = o at hshift
    generalize hb : (after window events).posts.find? c = before at hshift
    generalize (after window events).deeds e = ops at hshift
    cases hshift with
    | kept => exact hw c p (hb.trans ho.symm) hne
    | arrived | told | abandoned =>
      obtain rfl := Option.some.inj ho
      simp at hne
    | @unasked fresh text ops q signoffSeen demand unbound =>
      obtain rfl := Option.some.inj ho
      exact hw c q hb hne
    | began =>
      obtain rfl := Option.some.inj ho
      rfl
    -- a gate that waits does not read what its client asks
    | @resumed fresh text q x login demand | @refused fresh text q x error demand =>
      obtain rfl := Option.some.inj ho
      have hdemand : q.gate.demand text ≠ .nothing := by simp [demand]
      have hawaits := Gate.awaits_of_demand hdemand
      simp [Gate.awaits, hw c q hb hne] at hawaits
    | departed => simp at ho

theorem awaited_step (hs : ∃ minted, Sound minted h) (hid : (h.step e).awaited? c = some id) :
    h.awaited? c = some id ∨ ∀ x, ¬ (h.step e).state.Grants id x := by
  obtain ⟨minted, hs⟩ := hs
  have hplace : ∀ c p, h.posts.find? c = some p → p.gate.channel = c := by
    intro c p hp
    exact (hs.posts c p hp).place
  have hstate := state_step (e := e) hplace
  obtain ⟨p, hp, hid⟩ := Option.bind_eq_some_iff.1 hid
  have hshift := shift (e := e) (c := c) hplace
  rw [hp] at hshift
  generalize ho : some p = o at hshift
  generalize hb : h.posts.find? c = before at hshift
  generalize h.deeds e = ops at hshift hstate
  have hbefore {q : Post} (hq : h.posts.find? c = some q) (hawaited : q.awaited = some id) :
      h.awaited? c = some id := (awaited?_of_find? hq).trans hawaited
  cases hshift with
  | kept => exact .inl (hbefore (hb.trans ho.symm) hid)
  | arrived | told | abandoned =>
    obtain rfl := Option.some.inj ho
    simp at hid
  | unasked | resumed | refused =>
    obtain rfl := Option.some.inj ho
    exact .inl (hbefore hb hid)
  | began =>
    obtain rfl := Option.some.inj ho
    obtain rfl := Option.some.inj hid
    right
    rintro x ⟨a, login, hgranted⟩
    simp [hstate, State.perform, State.spawn, Table.find?_insert] at hgranted
  | departed => simp at ho

theorem awaited_unique (hs : ∃ minted, Sound minted h) (hc : h.awaited? c = some id)
    (hd : h.awaited? d = some id) :
    c = d := by
  obtain ⟨minted, hs⟩ := hs
  obtain ⟨p, hp, hid⟩ := Option.bind_eq_some_iff.1 hc
  obtain ⟨q, hq, hid'⟩ := Option.bind_eq_some_iff.1 hd
  obtain ⟨sg, hsg, hchannel, -⟩ := (hs.posts c p hp).awaited id hid
  obtain ⟨sg', hsg', hchannel', -⟩ := (hs.posts d q hq).awaited id hid'
  obtain rfl := Option.some.inj (hsg.symm.trans hsg')
  exact hchannel.symm.trans hchannel'

end Awaiting

/-! ### What lasts -/

section Lasting

variable {window : Nat} {events : List Event} {e : Event} {c : ChannelId} {x : SessionId}
  {id id' : SignonId}

/-- What every operation of a run keeps, an event keeps. -/
theorem lasting {P : State → Prop}
    (hP : ∀ ops op, Server.Run window ops → op.Admissible ops (stateAfter window ops) →
      P (stateAfter window ops) → P ((stateAfter window ops).perform op))
    (hr : Run window (events ++ [e])) (h : P (after window events).state) :
    P ((after window events).step e).state := by
  obtain ⟨hrun, hstate⟩ := run_performed hr
  rw [performed_snoc] at hrun hstate
  rw [(run_performed (run_of_append hr)).2] at h
  rw [← after_snoc, hstate]
  generalize (after window events).deeds e = later at hrun ⊢
  generalize performed window events = ops at hrun h ⊢
  induction later generalizing ops with
  | nil => rwa [List.append_nil]
  | cons op later ih =>
    rw [List.append_cons] at hrun ⊢
    obtain ⟨hops, ha⟩ := Run.snoc_iff.1 hrun.of_append
    refine ih _ hrun ?_
    rw [stateAfter_snoc]
    exact hP ops op hops ha h

theorem grants_step (hr : Run window (events ++ [e]))
    (hx : (after window events).state.Grants id x) :
    ((after window events).step e).state.Grants id x := by
  refine lasting (P := fun s => s.Grants id x) ?_ hr hx
  intro ops op hops ha
  exact State.grants_perform (coherent_of_run hops) ha.1 ha.2.1

theorem open_of_step (hr : Run window (events ++ [e])) (hk : (after window events).state.Known c)
    (hopen : ((after window events).step e).state.closed c = false) :
    (after window events).state.closed c = false := by
  cases hc : (after window events).state.closed c with
  | false => rfl
  | true =>
    have hclosed : ((after window events).step e).state.Known c ∧
        ((after window events).step e).state.closed c = true := by
      refine lasting (P := fun s => s.Known c ∧ s.closed c = true) ?_ hr ⟨hk, hc⟩
      rintro ops op - ha ⟨hknown, hclosed⟩
      exact ⟨State.known_perform hknown, State.closed_perform ha.1 hknown hclosed⟩
    simp [hopen] at hclosed

theorem granted_once (hr : Run window events) (hx : (after window events).state.Grants id x)
    (hx' : (after window events).state.Grants id' x) : id = id' := by
  obtain ⟨hrun, hstate⟩ := run_performed hr
  rw [hstate] at hx hx'
  exact grants_unique hrun hx hx'

end Lasting

/-! ### Routes and the gates that carry sessions -/

/-- **Routes lead to gates** that carry the session, and to each that does so on an open channel,
when clients were told `told`. A session that clients were told of was granted, and no signon that a
gate still waits for was granted it. -/
structure Directed (told : List Phase) (h : Gatehouse) : Prop where
  carried : ∀ x c, h.state.routes.find? x = some c → h.carried? c = some x
  routed : ∀ c x, h.carried? c = some x → h.state.closed c = false → h.state.routes.find? x = some c
  announced : ∀ c x, h.carried? c = some x → Phase.sessionValid x ∈ told
  granted : ∀ x, Phase.sessionValid x ∈ told → ∃ id, h.state.Grants id x
  secret : ∀ c id x, h.awaited? c = some id → h.state.Grants id x → Phase.sessionValid x ∉ told

section Directed

variable {window : Nat} {told : List Phase} {events later : List Event} {e : Event}
  {h h' : Gatehouse} {c d : ChannelId} {x : SessionId}

theorem mem_tell {p : Phase} : p ∈ tell told h e ↔ p ∈ told ∨ h.answer? e = some p := by
  simp [tell]

theorem holds_of_carried {minted : SessionId → Prop} (hs : Sound minted h)
    (hx : h.carried? c = some x) (hopen : h.state.closed c = false) : h.state.Holds c x := by
  obtain ⟨p, hp, hactive⟩ := carried?_eq_some.1 hx
  exact hs.holds ⟨p, hp, hactive, hopen⟩

theorem move_of_run (hr : Run window (events ++ [e])) (he : e.Discreet told) :
    Move (after window events) ((after window events).step e) e
      ((after window events).answer? e) := by
  obtain ⟨hbefore, ha⟩ := run_snoc.1 hr
  obtain ⟨minted, hs⟩ := sound_of_run hbefore
  exact move_step hs (attentive_of_run hbefore) ha he.2

/-- No gate carries a session on an open channel when another one begins to. -/
theorem Directed.alone {minted : SessionId → Prop} (hd : Directed told h) (hs : Sound minted h')
    (hdue : Due h h' e c x) (hx : h.carried? d = some x) (hx' : h'.carried? d = some x)
    (hopen : h'.state.closed d = false) : d = c := by
  cases hdue with
  | resumed named holds =>
    obtain ⟨rec, hrec, -, hbound⟩ := holds
    obtain ⟨rec', hrec', -, hbound'⟩ := holds_of_carried hs hx' hopen
    obtain rfl := Option.some.inj (hrec.symm.trans hrec')
    exact Option.some.inj (hbound'.symm.trans hbound)
  | granted awaited grants => exact absurd (hd.announced d x hx) (hd.secret c _ x awaited grants)

theorem Directed.granted_step (hd : Directed told (after window events))
    (hr : Run window (events ++ [e])) (he : e.Discreet told)
    (hx : Phase.sessionValid x ∈ tell told (after window events) e) :
    ∃ id, ((after window events).step e).state.Grants id x := by
  have hkept (hx : ∃ id, (after window events).state.Grants id x) :
      ∃ id, ((after window events).step e).state.Grants id x := by
    obtain ⟨id, hid⟩ := hx
    exact ⟨id, grants_step hr hid⟩
  rcases mem_tell.1 hx with hx | hx
  · exact hkept (hd.granted x hx)
  · have hm := move_of_run hr he
    rw [hx] at hm
    obtain ⟨c, hdue, -⟩ := hm.due
    cases hdue with
    | resumed named holds => exact hkept (hd.granted x (he.1 x named))
    | granted awaited grants => exact hkept ⟨_, grants⟩

/-- Clients are not told of a session that a gate has still to enter. -/
theorem Directed.secret_step (hd : Directed told (after window events))
    (hr : Run window (events ++ [e])) (he : e.Discreet told) {id : SignonId}
    (hid : ((after window events).step e).awaited? c = some id)
    (hx : ((after window events).step e).state.Grants id x) :
    Phase.sessionValid x ∉ tell told (after window events) e := by
  have hs := sound_of_run (run_of_append hr)
  have hid' : (after window events).awaited? c = some id :=
    (awaited_step hs hid).resolve_right fun hnone => hnone x hx
  -- it is granted once, so that the signon that the gate waits for got it before if another did
  have hsame {id' : SignonId} (hx' : (after window events).state.Grants id' x) : id' = id := by
    have hkept := grants_step hr hx'
    rw [← after_snoc] at hx hkept
    exact granted_once hr hkept hx
  have htold : Phase.sessionValid x ∉ told := by
    intro hx'
    obtain ⟨id', hid''⟩ := hd.granted x hx'
    obtain rfl := hsame hid''
    exact hd.secret c _ x hid' hid'' hx'
  intro hx'
  rcases mem_tell.1 hx' with hx' | hx'
  · exact htold hx'
  · have hm := move_of_run hr he
    rw [hx'] at hm
    obtain ⟨d, hdue, hidle⟩ := hm.due
    cases hdue with
    | resumed named holds => exact htold (he.1 x named)
    | granted awaited grants =>
      obtain rfl := hsame grants
      obtain rfl := awaited_unique hs awaited hid'
      simp [hidle] at hid

theorem Move.announced {answer : Option Phase} (hm : Move h h' e answer)
    (hx : h'.carried? c = some x) :
    h.carried? c = some x ∨ answer = some (.sessionValid x) := by
  cases hm with
  | quiet routes carried silent => exact .inl ((carried c).symm.trans hx)
  | @begun d y due free idle routes carried =>
    rw [carried] at hx
    split at hx
    · obtain rfl := Option.some.inj hx
      exact .inr rfl
    · exact .inl hx
  | @departed d routes carried =>
    rw [carried] at hx
    split at hx
    · simp at hx
    · exact .inl hx

theorem Directed.carried_move {answer : Option Phase} (hd : Directed told h)
    (hm : Move h h' e answer) (hx : h'.state.routes.find? x = some c) : h'.carried? c = some x := by
  cases hm with
  | quiet routes carried silent =>
    rw [routes] at hx
    rw [carried]
    exact hd.carried x c hx
  | @begun d y due free idle routes carried =>
    rw [routes, Table.find?_insert] at hx
    rw [carried]
    split at hx
    · next hy =>
      obtain rfl := Option.some.inj hx
      rw [if_pos rfl, hy]
    -- the gate carried nothing, so that no other route led to it
    · have hc := hd.carried x c hx
      have hne : d ≠ c := by
        rintro rfl
        simp [free] at hc
      rwa [if_neg hne]
  | @departed d routes carried =>
    rw [routes] at hx
    split at hx
    · simp at hx
    · next hkept =>
      have hc := hd.carried x c hx
      have hne : d ≠ c := by
        rintro rfl
        exact hkept ⟨hc, hx⟩
      rwa [carried, if_neg hne]

theorem Directed.routed_move {minted : SessionId → Prop} {answer : Option Phase}
    (hd : Directed told h) (hs : Sound minted h') (hm : Move h h' e answer)
    (hopened : h.carried? c = some x → h.state.routes.find? x = some c)
    (hx : h'.carried? c = some x) (hopen : h'.state.closed c = false) :
    h'.state.routes.find? x = some c := by
  cases hm with
  | quiet routes carried silent =>
    rw [routes]
    exact hopened ((carried c).symm.trans hx)
  | @begun d y due free idle routes carried =>
    have hx' := hx
    rw [carried] at hx
    rw [routes, Table.find?_insert]
    split at hx
    · next hc =>
      obtain rfl := Option.some.inj hx
      rw [if_pos rfl, hc]
    · next hc =>
      have hne : y ≠ x := by
        rintro rfl
        exact hc (hd.alone hs due hx hx' hopen).symm
      rw [if_neg hne]
      exact hopened hx
  | @departed d routes carried =>
    rw [carried] at hx
    split at hx
    · simp at hx
    · next hne =>
      have hroute := hopened hx
      rw [routes, if_neg, hroute]
      rintro ⟨-, hd'⟩
      exact hne (Option.some.inj (hd'.symm.trans hroute))

/-- **One event** leaves routes with the gates that carry sessions. -/
theorem Directed.event (hd : Directed told (after window events)) (hr : Run window (events ++ [e]))
    (he : e.Discreet told) :
    Directed (tell told (after window events) e) ((after window events).step e) := by
  obtain ⟨minted, hs⟩ := sound_of_run (run_of_append hr)
  obtain ⟨minted', hs'⟩ := sound_of_run hr
  rw [after_snoc] at hs'
  have hm := move_of_run hr he
  refine ⟨?_, ?_, ?_, ?_, ?_⟩
  · intro x c hx
    exact hd.carried_move hm hx
  · intro c x hx hopen
    refine hd.routed_move hs' hm ?_ hx hopen
    intro hx
    obtain ⟨p, hp, -⟩ := carried?_eq_some.1 hx
    exact hd.routed c x hx (open_of_step hr (hs.posts c p hp).known hopen)
  · intro c x hx
    exact mem_tell.2 ((hm.announced hx).imp_left (hd.announced c x))
  · intro x hx
    exact hd.granted_step hr he hx
  · intro c id x hid hx
    exact hd.secret_step hr he hid hx

theorem Directed.follow (hd : Directed told (after window events))
    (hr : Run window (events ++ later)) (he : Discretion told (after window events) later) :
    ∃ told', Directed told' (after window (events ++ later)) := by
  induction later generalizing events told with
  | nil =>
    rw [List.append_nil]
    exact ⟨told, hd⟩
  | cons e later ih =>
    rw [List.append_cons] at hr ⊢
    obtain ⟨hnow, hlater⟩ := he
    have hd' := hd.event (run_of_append hr) hnow
    rw [← after_snoc] at hd' hlater
    exact ih hd' hr hlater

theorem directed_nil : Directed [] (after window []) := by
  constructor <;> simp [after, carried?, awaited?]

theorem directed_of_run (hr : Run window events)
    (he : Discretion [] { state := { window } } events) :
    ∃ told, Directed told (after window events) :=
  Directed.follow (directed_nil : Directed [] (after window [])) hr he

end Directed

/-- **Routing follows ownership**: a route leads to a gate that carries the session, and each gate
that carries a session on an open channel is where its route leads. No route leads to a channel
whose gate has gone, a gate that goes leaves the routes that lead elsewhere as they are, and without
gates there are no routes. -/
structure RoutesFollow (h : Gatehouse) : Prop where
  carried : ∀ x c, h.state.routes.find? x = some c → ∃ p, h.posts.find? c = some p ∧
    p.gate.state = .active x
  routed : ∀ c x, h.Carries c x → h.state.routes.find? x = some c
  departed : ∀ x c, h.posts.find? c = none → h.state.routes.find? x ≠ some c
  spared : ∀ x c d, c ≠ d → h.state.routes.find? x = some d →
    (h.step (.depart c)).state.routes.find? x = some d
  empty : (∀ c, h.posts.find? c = none) → h.state.routes.size = 0

/-- **Every run** of gates over one registry, whose clients resume only sessions that clients were
told of, leaves routes with the gates that carry sessions. -/
theorem routes_follow {window : Nat} {events : List Event} (hr : Run window events)
    (he : Discretion [] { state := { window } } events) : (after window events).RoutesFollow := by
  obtain ⟨told, hd⟩ := directed_of_run hr he
  obtain ⟨minted, hs⟩ := sound_of_run hr
  have hcarried (x : SessionId) (c : ChannelId)
      (hx : (after window events).state.routes.find? x = some c) :
      ∃ p, (after window events).posts.find? c = some p ∧ p.gate.state = .active x :=
    carried?_eq_some.1 (hd.carried x c hx)
  have hdeparted (x : SessionId) (c : ChannelId) (hc : (after window events).posts.find? c = none) :
      (after window events).state.routes.find? x ≠ some c := by
    intro hx
    obtain ⟨p, hp, -⟩ := hcarried x c hx
    simp [hc] at hp
  refine ⟨hcarried, ?_, hdeparted, ?_, ?_⟩
  · rintro c x ⟨p, hp, hactive, hopen⟩
    exact hd.routed c x (carried?_eq_some.2 ⟨p, hp, hactive⟩) hopen
  · intro x c d hne hx
    cases hp : (after window events).posts.find? c with
    | none => simpa [step, hp] using hx
    | some p =>
      have hplace := (hs.posts c p hp).place
      simp only [step, hp, Gate.onClosed_snd]
      rw [Gate.route_farewell, if_neg, hx]
      rintro ⟨-, hc⟩
      exact hne (hplace.symm.trans (Option.some.inj (hc.symm.trans hx)))
  · intro hempty
    apply Table.size_eq_zero
    intro x
    cases hx : (after window events).state.routes.find? x with
    | none => rfl
    | some c => exact absurd hx (hdeparted x c (hempty c))

end Gatehouse

/-- Carol signs on, loses her channel and resumes her session on another one, before her first gate
reports the end of its channel. -/
def Sample.reunion : List Event :=
  [.arrive client address 8 true, .arrive otherClient address 8 true,
    .text client ⟨0⟩ (Phase.encode (.signonAttempt "carol" ⟨"secret"⟩)),
    .elsewhere (.start ⟨0⟩ session),
    .elsewhere (.answerPrimary ⟨0⟩ .accepted token), .outcome client, .elsewhere (.kick client),
    .text otherClient ⟨1⟩ (Phase.encode (.resumeSession session)), .depart client]

set_option maxRecDepth 20000 in
/-- The route of her session leads to her second channel. -/
theorem routes_follow_reunion :
    (Gatehouse.after 10 Sample.reunion).RoutesFollow ∧
      (Gatehouse.after 10 Sample.reunion).state.routes.find? Sample.session =
        some Sample.otherClient := by
  have hr : Gatehouse.Run 10 Sample.reunion := by decide +kernel
  have he : Gatehouse.Discretion [] { state := { window := 10 } } Sample.reunion := by
    decide +kernel
  have hfollow := Gatehouse.routes_follow hr he
  refine ⟨hfollow, hfollow.routed Sample.otherClient Sample.session ?_⟩
  exact ⟨⟨⟨Sample.otherClient, true, .active Sample.session, false⟩, none⟩, by decide +kernel⟩

end DurableSession.Server
