import DurableSession.Proofs.Server.Gatehouse

/-!
What texts ask of gates, and what gates perform on the state that they share.

Main statements: `onText_of_attempt`, `onText_of_resumed`, `onText_of_refused` and
`onText_of_nothing` say what a gate does for each demand, and `state_onText` that it acts on the
state by its operations.
-/

namespace DurableSession.Server

open Lifecycle (SessionId Token Phase)
open Network (SocketAddress)

/-! ### Operations -/

/-- The channel to which an operation may bind a session, at once or when a signon is granted. -/
def Operation.binds? : Operation → Option ChannelId
  | spawn _ a => some a.channel
  | reuse _ c => some c
  | _ => none

/-- An operation that gives out no names. -/
def Operation.Nameless (s : State) (op : Operation) : Prop :=
  op.Applicable s ∧ op.mints? = none ∧ op.issues? = none

/-! ### What a text asks of a gate -/

/-- What a gate is asked to begin. -/
inductive Demand where
  | nothing
  | attempt (a : Attempt)
  | resumption (session : SessionId)
deriving DecidableEq

namespace Gate

/-- What a lifecycle frame asks of a gate. One that does not await anything begins nothing. -/
def demandOf (g : Gate) (p : Phase) : Demand :=
  if g.awaits then
    match p with
    | .signonAttempt login secret => .attempt (.primary login secret g.channel)
    | .secondarySignonAttempt token code => .attempt (.secondary g.channel token code)
    | .resumeSession x => .resumption x
    | _ => .nothing
  else .nothing

def demand (g : Gate) (text : String) : Demand :=
  match Phase.decodeText text with
  | some (.ok p) => g.demandOf p
  | _ => .nothing

/-- The operations that a gate performs when a text comes in; `id` is the name of a signon, should
one begin. -/
def deeds (g : Gate) (s : State) (id : SignonId) (text : String) : List Operation :=
  match g.demand text with
  | .attempt a => [.spawn id a]
  | .resumption x =>
    match (s.reuse x g.channel).1 with
    | .ok _ => [.reuse x g.channel, .register x g.channel]
    | .error _ => [.reuse x g.channel]
  | .nothing =>
    if (Phase.decodeText text).isNone && !g.admitsApplication then [.count .droppedFrames] else []

variable {g : Gate} {s : State} {id : SignonId} {text : String} {p : Phase} {a : Attempt}
  {x : SessionId}

theorem session?_of_awaits (h : g.awaits = true) : g.session? = none := by
  unfold awaits at h
  unfold session?
  cases hs : g.state <;> simp [hs] at h ⊢

theorem demandOf_of_attempt (h : g.demandOf p = .attempt a) :
    g.awaits = true ∧ a.channel = g.channel := by
  unfold demandOf at h
  split at h
  · next hawaits =>
    refine ⟨hawaits, ?_⟩
    split at h
    · obtain rfl := Demand.attempt.inj h
      rfl
    · obtain rfl := Demand.attempt.inj h
      rfl
    · simp at h
    · simp at h
  · simp at h

theorem onPhase_of_attempt (h : g.demandOf p = .attempt a) :
    g.onPhase s id p = g.beginSignon s id a := by
  have hawaits : g.awaits = true := (demandOf_of_attempt h).1
  unfold demandOf at h
  rw [if_pos hawaits] at h
  split at h
  · obtain rfl := Demand.attempt.inj h
    simp [onPhase, session?_of_awaits hawaits, hawaits]
  · obtain rfl := Demand.attempt.inj h
    simp [onPhase, hawaits]
  · simp at h
  · simp at h

theorem demandOf_of_resumption (h : g.demandOf p = .resumption x) : p = .resumeSession x := by
  unfold demandOf at h
  split at h
  · split at h
    · simp at h
    · simp at h
    · rw [Demand.resumption.inj h]
    · simp at h
  · simp at h

theorem onPhase_of_nothing (s : State) (id : SignonId) (h : g.demandOf p = .nothing) :
    ∃ inbound signoffSeen, inbound.awaited? = none ∧
      g.onPhase s id p = (inbound, { g with signoffSeen }, s) := by
  unfold demandOf at h
  unfold onPhase
  cases p with
  | signonAttempt login secret =>
    have hawaits : g.awaits = false := by simpa using h
    dsimp only
    split
    · exact ⟨_, g.signoffSeen, rfl, rfl⟩
    · rw [if_neg (by simp [hawaits])]
      exact ⟨_, g.signoffSeen, rfl, rfl⟩
  | secondarySignonAttempt token code =>
    have hawaits : g.awaits = false := by simpa using h
    dsimp only
    rw [if_neg (by simp [hawaits])]
    exact ⟨_, g.signoffSeen, rfl, rfl⟩
  | resumeSession x =>
    have hawaits : g.awaits = false := by simpa using h
    dsimp only
    rw [if_neg (by simp [hawaits])]
    exact ⟨_, g.signoffSeen, rfl, rfl⟩
  | signoff => exact ⟨_, _, rfl, rfl⟩
  | _ => exact ⟨_, g.signoffSeen, rfl, rfl⟩

/-- Only a gate that awaits something can be asked for anything. -/
theorem awaits_of_demand (h : g.demand text ≠ .nothing) : g.awaits = true := by
  unfold demand at h
  split at h
  · next p _ =>
    unfold demandOf at h
    split at h
    · next hawaits => exact hawaits
    · exact absurd rfl h
  · exact absurd rfl h

/-- The signons of a gate are signons on its channel. -/
theorem channel_of_demand (h : g.demand text = .attempt a) : a.channel = g.channel := by
  unfold demand at h
  split at h
  · exact (demandOf_of_attempt h).2
  · simp at h

theorem onText_of_attempt (h : g.demand text = .attempt a) :
    g.onText s id text = g.beginSignon s id a := by
  unfold demand at h
  split at h
  · next p hp =>
    unfold onText
    rw [hp]
    exact onPhase_of_attempt h
  · simp at h

theorem onText_of_resumption (h : g.demand text = .resumption x) :
    g.onText s id text =
      match s.reuse x g.channel with
      | (.ok _, s') => (.reply (.sessionValid x), g.activate s' x)
      | (.error e, s') => (refuse e.asFailure, { g with state := .awaitingSignon }, s') := by
  have hasked : g.demand text ≠ .nothing := by simp [h]
  have hawaits := awaits_of_demand hasked
  unfold demand at h
  split at h
  · next p hp =>
    obtain rfl := demandOf_of_resumption h
    unfold onText
    rw [hp]
    unfold onPhase
    dsimp only
    exact if_pos hawaits
  · simp at h

theorem onText_of_resumed {login : String} (h : g.demand text = .resumption x)
    (hr : (s.reuse x g.channel).1 = .ok login) :
    g.onText s id text = (.reply (.sessionValid x), { g with state := .active x },
      s.performAll [.reuse x g.channel, .register x g.channel]) := by
  rw [onText_of_resumption h]
  simp only [State.performAll_cons, State.performAll_nil, State.perform]
  split
  · next hq =>
    rw [hq]
    rfl
  · next hq => simp [hq] at hr

theorem onText_of_refused {e : RegistryError} (h : g.demand text = .resumption x)
    (hr : (s.reuse x g.channel).1 = .error e) :
    g.onText s id text = (refuse e.asFailure, { g with state := .awaitingSignon },
      s.performAll [.reuse x g.channel]) := by
  rw [onText_of_resumption h]
  simp only [State.performAll_cons, State.performAll_nil, State.perform]
  split
  · next hq => simp [hq] at hr
  · next e' s' hq =>
    obtain rfl : e' = e := by simpa [hq] using hr
    rw [hq]

theorem onText_of_nothing (s : State) (id : SignonId) (h : g.demand text = .nothing) :
    ∃ inbound signoffSeen, inbound.awaited? = none ∧ g.onText s id text =
      (inbound, { g with signoffSeen }, s.performAll (g.deeds s id text)) := by
  have hdeeds : g.deeds s id text =
      if (Phase.decodeText text).isNone && !g.admitsApplication then [.count .droppedFrames]
      else [] := by
    unfold deeds
    rw [h]
  rw [hdeeds]
  unfold demand at h
  unfold onText
  cases hp : Phase.decodeText text with
  | none =>
    cases hg : g.admitsApplication with
    | true => exact ⟨.forward text, g.signoffSeen, rfl, by simp⟩
    | false => exact ⟨.drop, g.signoffSeen, rfl, by simp [State.perform]⟩
  | some result =>
    cases result with
    | error e => exact ⟨.drop, g.signoffSeen, rfl, by simp⟩
    | ok p =>
      simp only [hp] at h
      obtain ⟨inbound, signoffSeen, hidle, hphase⟩ := onPhase_of_nothing s id h
      exact ⟨inbound, signoffSeen, hidle, by simpa using hphase⟩

theorem deeds_of_nothing (h : g.demand text = .nothing) :
    ∀ op ∈ g.deeds s id text, op = .count .droppedFrames := by
  unfold deeds
  rw [h]
  dsimp only
  split <;> simp

theorem deeds_of_attempt (h : g.demand text = .attempt a) : g.deeds s id text = [.spawn id a] := by
  unfold deeds
  rw [h]

theorem deeds_of_resumed {login : String} (h : g.demand text = .resumption x)
    (hr : (s.reuse x g.channel).1 = .ok login) :
    g.deeds s id text = [.reuse x g.channel, .register x g.channel] := by
  unfold deeds
  simp only [h, hr]

theorem deeds_of_refused {e : RegistryError} (h : g.demand text = .resumption x)
    (hr : (s.reuse x g.channel).1 = .error e) : g.deeds s id text = [.reuse x g.channel] := by
  unfold deeds
  simp only [h, hr]

theorem state_onText : (g.onText s id text).2.2 = s.performAll (g.deeds s id text) := by
  cases hq : g.demand text with
  | nothing =>
    obtain ⟨inbound, signoffSeen, -, h⟩ := onText_of_nothing s id hq
    rw [h]
  | attempt a =>
    rw [onText_of_attempt hq, deeds_of_attempt hq]
    rfl
  | resumption x =>
    cases hr : (s.reuse x g.channel).1 with
    | ok login => rw [onText_of_resumed hq hr, deeds_of_resumed hq hr]
    | error e => rw [onText_of_refused hq hr, deeds_of_refused hq hr]

end Gate

/-! ### What gates perform -/

namespace Gate

variable {g : Gate} {s : State} {id : SignonId} {text : String}

theorem deeds_nameless (hk : s.Known g.channel) (hf : s.signons.find? id = none) :
    Throughout Operation.Nameless s (g.deeds s id text) := by
  cases hq : g.demand text with
  | nothing =>
    unfold deeds
    rw [hq]
    dsimp only
    split
    · exact ⟨⟨trivial, rfl, rfl⟩, trivial⟩
    · trivial
  | attempt a =>
    have hc : a.channel = g.channel := channel_of_demand hq
    rw [deeds_of_attempt hq]
    exact ⟨⟨⟨hf, hc ▸ hk⟩, rfl, rfl⟩, trivial⟩
  | resumption x =>
    have hreuse : (Operation.reuse x g.channel).Nameless s := ⟨hk, rfl, rfl⟩
    cases hr : (s.reuse x g.channel).1 with
    | ok login =>
      rw [deeds_of_resumed hq hr]
      exact ⟨hreuse, ⟨trivial, rfl, rfl⟩, trivial⟩
    | error e =>
      rw [deeds_of_refused hq hr]
      exact ⟨hreuse, trivial⟩

theorem channel_of_binds {op : Operation} {c : ChannelId} (hop : op ∈ g.deeds s id text)
    (hc : op.binds? = some c) : g.channel = c := by
  cases hq : g.demand text with
  | nothing =>
    rw [deeds_of_nothing hq op hop] at hc
    simp [Operation.binds?] at hc
  | attempt a =>
    rw [deeds_of_attempt hq, List.mem_singleton] at hop
    subst hop
    rw [← channel_of_demand hq]
    exact Option.some.inj hc
  | resumption x =>
    cases hr : (s.reuse x g.channel).1 with
    | ok login =>
      rw [deeds_of_resumed hq hr] at hop
      rcases List.mem_cons.1 hop with rfl | hop
      · exact Option.some.inj hc
      · rw [List.mem_singleton.1 hop] at hc
        simp [Operation.binds?] at hc
    | error e =>
      rw [deeds_of_refused hq hr, List.mem_singleton] at hop
      subst hop
      exact Option.some.inj hc

theorem farewell_nameless : Throughout Operation.Nameless s g.farewell := by
  unfold farewell
  refine ⟨⟨trivial, rfl, rfl⟩, ?_⟩
  split
  · exact ⟨⟨trivial, rfl, rfl⟩, ⟨trivial, rfl, rfl⟩, trivial⟩
  · exact ⟨⟨trivial, rfl, rfl⟩, trivial⟩
  · exact ⟨⟨trivial, rfl, rfl⟩, trivial⟩
  · trivial
  · trivial

/-- How a gate that reports the end of its channel ends what is bound to it. -/
theorem registry_farewell : (s.performAll g.farewell).registry =
    match g.state with
    | .active x => s.registry.close s.now g.channel x g.signoffSeen
    | .signonPending | .awaitingSecondary => s.registry.releaseChannel s.now g.channel
    | .awaitingSignon | .closed => s.registry := by
  unfold farewell
  cases g.state with
  | active x =>
    obtain ⟨routes, hr⟩ := (s.perform (.kick g.channel)).perform_unregister x g.channel
    simp only [State.performAll_cons, State.performAll_nil, hr]
    rfl
  | _ => rfl

theorem channels_farewell : (s.performAll g.farewell).channels = s.channels.kick g.channel := by
  unfold farewell
  cases g.state with
  | active x =>
    obtain ⟨routes, hr⟩ := (s.perform (.kick g.channel)).perform_unregister x g.channel
    simp only [State.performAll_cons, State.performAll_nil, hr]
    rfl
  | _ => rfl

theorem farewell_binds : ∀ op ∈ g.farewell, op.binds? = none := by
  unfold farewell
  cases g.state <;> simp [Operation.binds?]

end Gate

end DurableSession.Server
