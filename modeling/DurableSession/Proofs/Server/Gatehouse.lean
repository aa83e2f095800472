import DurableSession.Proofs.Server.Run
import DurableSession.Server.Connection

/-!
Gates over one state, and the connections that drive them.

A gatehouse is what all gates of a server do, event by event, next to everything else that may
happen to the state. Main statements: `handles_onText` says everything a gate can do with a text,
and `post_of_turn` that a connection drives its gate as the events of a gatehouse do.
-/

namespace DurableSession.Server

open Lifecycle (SessionId Token Phase)
open Network (SocketAddress)

/-! ### What a gate does -/

def Inbound.awaited? : Inbound → Option SignonId
  | await id => some id
  | _ => none

namespace Gate

/-- What a gate makes of a text: its answer, and the gate and the state afterwards. -/
inductive Handles (g : Gate) (s : State) (id : SignonId) : Inbound × Gate × State → Prop where
  | passed {inbound : Inbound} (idle : inbound.awaited? = none) : Handles g s id (inbound, g, s)
  | dropped : Handles g s id (.drop, g, s.count .droppedFrames)
  | began {a : Attempt} (channel : a.channel = g.channel) :
      Handles g s id (.await id, { g with state := .signonPending }, s.spawn id a)
  | resumed {x : SessionId} {login : String} {p : Phase}
      (accepted : (s.reuse x g.channel).1 = .ok login) :
      Handles g s id (.reply p, { g with state := .active x },
        (s.reuse x g.channel).2.register x g.channel)
  | refused {x : SessionId} {p : Phase} :
      Handles g s id (.reply p, { g with state := .awaitingSignon }, (s.reuse x g.channel).2)
  | leaving {signoffSeen : Bool} : Handles g s id (.close, { g with signoffSeen }, s)

variable {g : Gate} {s : State} {id : SignonId}

theorem handles_onPhase (p : Phase) : g.Handles s id (g.onPhase s id p) := by
  unfold onPhase
  split
  · split
    · exact .passed rfl
    · split
      · exact .began rfl
      · exact .passed rfl
  · split
    · exact .began rfl
    · exact .passed rfl
  · next x =>
    split
    · split
      · next login s' hr =>
        have h : Handles g s id (.reply (.sessionValid x), { g with state := .active x },
            (s.reuse x g.channel).2.register x g.channel) := .resumed (congrArg Prod.fst hr)
        rw [hr] at h
        exact h
      · next e s' hr =>
        have h : Handles g s id (refuse e.asFailure, { g with state := .awaitingSignon },
            (s.reuse x g.channel).2) := .refused
        rw [hr] at h
        exact h
    · exact .passed rfl
  · exact .leaving
  · exact .passed rfl

theorem handles_onText (text : String) : g.Handles s id (g.onText s id text) := by
  unfold onText
  split
  · split
    · exact .passed rfl
    · exact .dropped
  · exact .passed rfl
  · exact handles_onPhase _

/-- The operations with which a gate reports the end of its channel. -/
def farewell (g : Gate) : List Operation :=
  .kick g.channel :: match g.state with
    | .active x => [.unregister x g.channel, .close g.channel x g.signoffSeen]
    | .signonPending | .awaitingSecondary => [.release g.channel]
    | .awaitingSignon | .closed => []

theorem onClosed_snd : (g.onClosed s).2 = s.performAll g.farewell := by
  unfold onClosed farewell
  cases g.state <;> rfl

end Gate

/-! ### Gates over one state -/

/-- A gate, and the signon whose outcome it waits for. -/
structure Post where
  gate : Gate
  awaited : Option SignonId := none
deriving DecidableEq

/-- Gates over one state, each at the channel that it owns. -/
structure Gatehouse where
  state : State
  posts : Table ChannelId Post := .empty

/-- What may happen at a gatehouse. -/
inductive Event where
  | arrive (c : ChannelId) (remote : SocketAddress) (capacity : Nat) (authenticationRequired : Bool)
  /-- A text comes in; `fresh` is the name of a signon, should one begin. -/
  | text (c : ChannelId) (fresh : SignonId) (text : String)
  /-- The gate is told the outcome of its signon, if there is one. -/
  | outcome (c : ChannelId)
  /-- The gate is told that its signon will have no outcome. -/
  | abandoned (c : ChannelId)
  /-- The connection has ended; the gate reports it. -/
  | depart (c : ChannelId)
  | elsewhere (op : Operation)
deriving DecidableEq

namespace Gatehouse

def step (h : Gatehouse) : Event → Gatehouse
  | .arrive c remote capacity authenticationRequired =>
    { state := h.state.openChannel c remote capacity
      posts := h.posts.insert c { gate := { channel := c, authenticationRequired } } }
  | .text c fresh text =>
    match h.posts.find? c with
    | none => h
    | some p =>
      let (inbound, gate, state) := p.gate.onText h.state fresh text
      { state, posts := h.posts.insert c ⟨gate, inbound.awaited?.or p.awaited⟩ }
  | .outcome c =>
    match h.posts.find? c with
    | none => h
    | some p =>
      match p.awaited.bind h.state.outcome? with
      | none => h
      | some o =>
        let (_, gate, state) := p.gate.onOutcome h.state (.ok o)
        { state, posts := h.posts.insert c { gate } }
  | .abandoned c =>
    match h.posts.find? c with
    | none => h
    | some p =>
      if p.awaited.isSome then
        let (_, gate, state) := p.gate.onOutcome h.state (.error .abandoned)
        { state, posts := h.posts.insert c { gate } }
      else h
  | .depart c =>
    match h.posts.find? c with
    | none => h
    | some p => { state := (p.gate.onClosed h.state).2, posts := h.posts.erase c }
  | .elsewhere op => { h with state := h.state.perform op }

def after (window : Nat) (events : List Event) :
    Gatehouse := events.foldl step { state := { window } }

/-- Names are new, and nobody but a gate reports the end of its channel. -/
def Admissible (history : List Operation) (h : Gatehouse) : Event → Prop
  | .arrive c _ _ _ => ¬ h.state.Known c
  | .text _ fresh _ => h.state.signons.find? fresh = none
  | .elsewhere op => op.Admissible history h.state ∧ ∀ c ∈ op.reports?, h.posts.find? c = none
  | .outcome _ | .abandoned _ | .depart _ => True

instance decidableAdmissible (history : List Operation) (h : Gatehouse) :
    (e : Event) → Decidable (h.Admissible history e)
  | .arrive c _ _ _ => inferInstanceAs (Decidable (¬ h.state.Known c))
  | .text _ fresh _ => inferInstanceAs (Decidable (h.state.signons.find? fresh = none))
  | .elsewhere op => inferInstanceAs (Decidable (op.Admissible history h.state ∧ _))
  | .outcome _ | .abandoned _ | .depart _ => isTrue trivial

/-- What was performed, not counting what gates do. -/
def extend (history : List Operation) : Event → List Operation
  | .elsewhere op => history ++ [op]
  | _ => history

/-- Events may follow a history that has led to `h`, one after the other. -/
def Follow (history : List Operation) (h : Gatehouse) : List Event → Prop
  | [] => True
  | e :: later => h.Admissible history e ∧ Follow (extend history e) (h.step e) later

instance decidableFollow : (history : List Operation) → (h : Gatehouse) → (events : List Event) →
    Decidable (Follow history h events)
  | _, _, [] => isTrue trivial
  | history, h, e :: later =>
    have := decidableFollow (extend history e) (h.step e) later
    inferInstanceAs (Decidable (h.Admissible history e ∧ _))

/-- **Runs** of a gatehouse, which begins without channels, gates and sessions. -/
def Run (window : Nat) (events : List Event) : Prop := Follow [] { state := { window } } events

instance (window : Nat) (events : List Event) : Decidable (Run window events) :=
  inferInstanceAs (Decidable (Follow ..))

variable {window : Nat} {history : List Operation} {h : Gatehouse} {events later : List Event}
  {e : Event}

theorem after_append :
    after window (events ++ later) = later.foldl step (after window events) :=
  List.foldl_append

theorem after_snoc : after window (events ++ [e]) = (after window events).step e :=
  after_append

theorem follow_append : Follow history h (events ++ later) ↔
    Follow history h events ∧ Follow (events.foldl extend history) (events.foldl step h) later := by
  induction events generalizing history h with
  | nil => simp [Follow]
  | cons e events ih =>
    rw [List.cons_append, Follow, ih, Follow, and_assoc]
    rfl

theorem run_of_append (hr : Run window (events ++ later)) : Run window events :=
  (follow_append.1 hr).1

theorem run_snoc : Run window (events ++ [e]) ↔
    Run window events ∧ (after window events).Admissible (events.foldl extend []) e := by
  unfold Run
  rw [follow_append, Follow, Follow, and_true]
  rfl

end Gatehouse

/-! ### Connections drive gates so -/

namespace Connection

def post (c : Connection) : Post := ⟨c.gate, c.awaited⟩

variable {app : Application} {fresh : SignonId} {c c' : Connection} {s s' : State} {t : Turn}

theorem post_write {f : Written} : (c.write f).post = c.post := by
  unfold write
  split <;> rfl

theorem act_of_turn (h : c.turn app fresh s t = some (c', s')) (ho : c'.ended = false) :
    c.act app fresh s t = some (c', s') := by
  unfold turn at h
  split at h
  · simp at h
  · obtain ⟨⟨c₀, s₀⟩, hact, hrest⟩ := Option.map_eq_some_iff.1 h
    rw [hact]
    dsimp only at hrest
    split at hrest
    · next hended =>
      obtain rfl : (c₀.finish s₀).1 = c' := congrArg Prod.fst hrest
      have hstill : (c₀.finish s₀).1.ended = c₀.ended := rfl
      simp [hstill, hended] at ho
    · rw [hrest]

/-- **Connections drive their gates** with texts and with outcomes of the signons they wait for,
until they end. -/
theorem post_of_turn (h : c.turn app fresh s t = some (c', s')) (ho : c'.ended = false) :
    c'.post = c.post ∨
      (∃ text, t = .incoming (.text text) ∧ c'.post =
        ⟨(c.gate.onText s fresh text).2.1, (c.gate.onText s fresh text).1.awaited?.or c.awaited⟩) ∨
      ∃ o, c.awaited.bind s.outcome? = some o ∧
        c'.post = ⟨(c.gate.onOutcome s (.ok o)).2.1, none⟩ := by
  have hact := act_of_turn h ho
  unfold act at hact
  cases t with
  | kicked =>
    dsimp only at hact
    split at hact
    · obtain rfl : c.hangUp = c' := congrArg Prod.fst (Option.some.inj hact)
      simp [hangUp] at ho
    · simp at hact
  | outcome =>
    obtain ⟨o, hout, hc⟩ := Option.map_eq_some_iff.1 hact
    refine .inr (.inr ⟨o, hout, ?_⟩)
    obtain rfl : (c.onOutcome s (.ok o)).1 = c' := congrArg Prod.fst hc
    exact post_write
  | outbound =>
    obtain ⟨⟨m, s₀⟩, -, hc⟩ := Option.map_eq_some_iff.1 hact
    obtain rfl : c.onOutbound m = c' := congrArg Prod.fst hc
    left
    unfold onOutbound
    split
    · exact post_write
    · split
      · exact post_write
      · rfl
  | silence =>
    dsimp only at hact
    split at hact
    · obtain rfl : c.hangUp = c' := congrArg Prod.fst (Option.some.inj hact)
      simp [hangUp] at ho
    · simp at hact
  | incoming f =>
    have hc : (c.onIncoming app fresh s f).1 = c' := congrArg Prod.fst (Option.some.inj hact)
    cases f with
    | text text =>
      refine .inr (.inl ⟨text, rfl, ?_⟩)
      subst hc
      unfold onIncoming onText at ho ⊢
      dsimp only at ho ⊢
      generalize c.gate.onText s fresh text = result at ho ⊢
      obtain ⟨inbound, gate, s₀⟩ := result
      cases inbound with
      | close => simp [hangUp] at ho
      | reply p => exact post_write
      | _ => rfl
    | _ => exact .inl (hc ▸ rfl)

end Connection

end DurableSession.Server
