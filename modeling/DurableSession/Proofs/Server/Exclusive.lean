import DurableSession.Proofs.Server.Gatehouse
import DurableSession.Proofs.Server.Ownership

/-!
Gates over one registry: no two of them carry one session.

A gate learns of its session after the registry has bound it, and goes on carrying it until its
channel ends. What happens to the session in between leaves it to the gate's channel, unless that is
closed. Main statements: `Gatehouse.Sound.step` and `exclusive_of_run`.
-/

namespace DurableSession.Server

open Lifecycle (SessionId Phase)
open Network (SocketAddress)

/-! ### What a gate relies on -/

namespace State

variable {minted : SessionId → Prop} {s : State} {op : Operation} {x : SessionId} {c : ChannelId}

/-- Unless it is closed, the channel holds the session. -/
def Keeps (s : State) (c : ChannelId) (x : SessionId) : Prop :=
  s.Known c ∧ (s.closed c = false → s.Holds c x)

/-- The signon is one of the channel, which keeps the session if it was granted. -/
def Expects (s : State) (c : ChannelId) (id : SignonId) : Prop :=
  ∃ sg, s.signons.find? id = some sg ∧ sg.attempt.channel = c ∧
    ∀ x login, sg.progress = .decided (.accepted x login) → s.Keeps c x

theorem keeps_perform (h : Coherent minted s) (ha : op.Applicable s)
    (hf : ∀ x ∈ op.mints?, ¬ minted x) (hr : op.reports? ≠ some c) (hk : s.Keeps c x) :
    (s.perform op).Keeps c x := by
  refine ⟨known_perform hk.1, fun hopen => ?_⟩
  have hc : s.closed c = false := by
    cases hc : s.closed c with
    | false => rfl
    | true => simp [closed_perform ha hk.1 hc] at hopen
  rcases holds_perform h ha hf (hk.2 hc) with hx | hc | ⟨signedOff, rfl⟩ | rfl
  · exact hx
  · simp [hc] at hopen
  · exact absurd rfl hr
  · exact absurd rfl hr

theorem progress_perform (h : Coherent minted s) (ha : op.Applicable s)
    (hf : ∀ x ∈ op.mints?, ¬ minted x) {id : SignonId} {a : Attempt} {p : Progress}
    (hid : s.signons.find? id = some ⟨a, p⟩) :
    ∃ p', (s.perform op).signons.find? id = some ⟨a, p'⟩ ∧ (p' = p ∨ s.outcome? id = none) := by
  have hadv := h.advance hf id
  generalize hb : s.signons.find? id = before at hadv
  generalize ho : (s.perform op).signons.find? id = o at hadv
  have hout (hp : ∀ outcome, p ≠ .decided outcome) : s.outcome? id = none := by
    unfold outcome?
    rw [hid]
    cases p with
    | decided outcome => exact absurd rfl (hp outcome)
    | _ => rfl
  cases hadv with
  | kept => exact ⟨p, hb.symm.trans hid, .inl rfl⟩
  | spawned => simp [ha.1] at hid
  | _ =>
    obtain ⟨rfl, rfl⟩ := Signon.mk.inj (Option.some.inj (hb.symm.trans hid))
    exact ⟨_, rfl, .inr (hout (by simp))⟩

theorem expects_perform (h : Coherent minted s) (ha : op.Applicable s)
    (hf : ∀ x ∈ op.mints?, ¬ minted x) (hr : op.reports? ≠ some c) {id : SignonId}
    (he : s.Expects c id) : (s.perform op).Expects c id := by
  obtain ⟨⟨a, p⟩, hid, hc, hgranted⟩ := he
  obtain ⟨p', hid', hp'⟩ := progress_perform h ha hf hid
  refine ⟨⟨a, p'⟩, hid', hc, ?_⟩
  rintro x login rfl
  rcases hp' with hp' | hout
  · exact keeps_perform h ha hf hr (hgranted x login hp'.symm)
  · subst hc
    exact ⟨known_perform (h.attempt id _ hid), fun _ => holds_of_granted h hf hout hid'⟩

theorem keeps_of_outcome {id : SignonId} {login : String} (he : s.Expects c id)
    (ho : s.outcome? id = some (.accepted x login)) : s.Keeps c x := by
  obtain ⟨⟨a, p⟩, hid, -, hgranted⟩ := he
  unfold outcome? at ho
  rw [hid] at ho
  cases p with
  | decided outcome =>
    obtain rfl := Option.some.inj ho
    exact hgranted x login rfl
  | _ => simp at ho

end State

/-- An operation that a gate performs: it gives out no names, and may report the end of the gate's
channel. -/
def Operation.Own (c : ChannelId) (s : State) (op : Operation) : Prop :=
  op.Applicable s ∧ op.mints? = none ∧ ∀ d ∈ op.reports?, d = c

/-- What a gate says is true of the state: it relies on its channel to keep its session, or the
session that its signon gets. -/
structure Post.Sound (s : State) (c : ChannelId) (p : Post) : Prop where
  place : p.gate.channel = c
  known : s.Known c
  active : ∀ x, p.gate.state = .active x → s.Keeps c x
  awaited : ∀ id, p.awaited = some id → s.Expects c id

section Own

variable {minted : SessionId → Prop} {s : State} {op : Operation} {ops : List Operation}
  {c d : ChannelId} {p : Post}

theorem Post.Sound.perform (h : Coherent minted s) (ha : op.Applicable s)
    (hf : ∀ x ∈ op.mints?, ¬ minted x) (hr : op.reports? ≠ some c) (hp : p.Sound s c) :
    p.Sound (s.perform op) c where
  place := hp.place
  known := State.known_perform hp.known
  active x hx := State.keeps_perform h ha hf hr (hp.active x hx)
  awaited id hid := State.expects_perform h ha hf hr (hp.awaited id hid)

/-- After an operation that reports nothing a gate is as right as before. -/
theorem Post.Sound.silent (h : Coherent minted s) (ha : op.Applicable s) (hm : op.mints? = none)
    (hr : op.reports? = none) (hp : p.Sound s c) : p.Sound (s.perform op) c :=
  hp.perform h ha (by simp [hm]) (by simp [hr])

theorem Operation.own_of_silent (ha : op.Applicable s) (hm : op.mints? = none)
    (hr : op.reports? = none) : op.Own c s :=
  ⟨ha, hm, by simp [hr]⟩

theorem Gate.farewell_own {g : Gate} : Throughout (Operation.Own g.channel) s g.farewell := by
  unfold farewell
  refine ⟨Operation.own_of_silent trivial rfl rfl, ?_⟩
  split
  · exact ⟨Operation.own_of_silent trivial rfl rfl, ⟨trivial, rfl, by simp [Operation.reports?]⟩,
      trivial⟩
  · exact ⟨⟨trivial, rfl, by simp [Operation.reports?]⟩, trivial⟩
  · exact ⟨⟨trivial, rfl, by simp [Operation.reports?]⟩, trivial⟩
  · trivial
  · trivial

theorem Coherent.silent (h : Coherent minted s) (ha : op.Applicable s) (hm : op.mints? = none) :
    Coherent minted (s.perform op) :=
  (h.perform ha (by simp [hm])).mono fun x hx => by simpa [hm] using hx

theorem Coherent.owns (h : Coherent minted s) (ho : Throughout (Operation.Own c) s ops) :
    Coherent minted (s.performAll ops) := by
  induction ops generalizing s with
  | nil => exact h
  | cons op ops ih => exact ih (h.silent ho.1.1 ho.1.2.1) ho.2

/-- What a gate does leaves the other gates alone. -/
theorem Post.Sound.owns (h : Coherent minted s) (ho : Throughout (Operation.Own c) s ops)
    (hne : d ≠ c) (hp : p.Sound s d) : p.Sound (s.performAll ops) d := by
  induction ops generalizing s with
  | nil => exact hp
  | cons op ops ih =>
    refine ih (h.silent ho.1.1 ho.1.2.1) ho.2
      (hp.perform h ho.1.1 (by simp [ho.1.2.1]) fun hr => ?_)
    exact hne (ho.1.2.2 d hr)

end Own

/-! ### What an event keeps -/

/-- All gates of a gatehouse are right. -/
structure Gatehouse.Sound (minted : SessionId → Prop) (h : Gatehouse) : Prop where
  coherent : Coherent minted h.state
  posts : ∀ c p, h.posts.find? c = some p → p.Sound h.state c

namespace Gatehouse.Sound

variable {minted : SessionId → Prop} {h : Gatehouse} {c : ChannelId} {p : Post}

theorem insert (hs : Sound minted h) (ops : List Operation)
    (ho : Throughout (Operation.Own c) h.state ops) (hp : p.Sound (h.state.performAll ops) c) :
    Sound minted { state := h.state.performAll ops, posts := h.posts.insert c p } where
  coherent := hs.coherent.owns ho
  posts d q hq := by
    rw [Table.find?_insert] at hq
    split at hq
    · next he =>
      obtain rfl := Option.some.inj hq
      exact he ▸ hp
    · next hne => exact (hs.posts d q hq).owns hs.coherent ho (Ne.symm hne)

theorem erase (hs : Sound minted h) (ops : List Operation)
    (ho : Throughout (Operation.Own c) h.state ops) :
    Sound minted { state := h.state.performAll ops, posts := h.posts.erase c } where
  coherent := hs.coherent.owns ho
  posts d q hq := by
    rw [Table.find?_erase] at hq
    split at hq
    · simp at hq
    · next hne => exact (hs.posts d q hq).owns hs.coherent ho (Ne.symm hne)

theorem arrive (hs : Sound minted h) {remote : SocketAddress} {capacity : Nat}
    {authenticationRequired : Bool} (hc : ¬ h.state.Known c) :
    Sound minted (h.step (.arrive c remote capacity authenticationRequired)) := by
  have ho : Throughout (Operation.Own c) h.state [.openChannel c remote capacity] :=
    ⟨Operation.own_of_silent hc rfl rfl, trivial⟩
  refine hs.insert _ ho ⟨rfl, ?_, by simp, by simp⟩
  show (Table.find? (Table.insert _ c _) c).isSome = true
  rw [Table.find?_insert, if_pos rfl]
  rfl

theorem text (hs : Sound minted h) {fresh : SignonId} {text : String}
    (hf : h.state.signons.find? fresh = none) : Sound minted (h.step (.text c fresh text)) := by
  unfold step
  dsimp only
  split
  · exact hs
  · next p hp =>
    have hpost := hs.posts c p hp
    obtain rfl := hpost.place
    have hhandles : p.gate.Handles h.state fresh _ := p.gate.handles_onText text
    generalize p.gate.onText h.state fresh text = result at hhandles
    cases hhandles with
    | passed idle =>
      refine hs.insert [] trivial { hpost with awaited := ?_ }
      simpa [idle] using hpost.awaited
    | dropped =>
      have ha : (Operation.count .droppedFrames).Applicable h.state := trivial
      exact hs.insert [_] ⟨Operation.own_of_silent ha rfl rfl, trivial⟩
        (hpost.silent hs.coherent ha rfl rfl)
    | @began a channel =>
      have ha : (Operation.spawn fresh a).Applicable h.state := ⟨hf, channel ▸ hpost.known⟩
      have hpost' := hpost.silent hs.coherent ha rfl rfl
      refine hs.insert [.spawn fresh a] ⟨Operation.own_of_silent ha rfl rfl, trivial⟩
        ⟨rfl, hpost'.known, by simp, fun id hid => ?_⟩
      obtain rfl : fresh = id := by simpa [Inbound.awaited?] using hid
      exact ⟨⟨a, .spawned⟩, (Table.find?_insert ..).trans (if_pos rfl), channel, by simp⟩
    -- the registry binds the session before the gate says that it carries it
    | @resumed x login phase accepted =>
      have ha : (Operation.reuse x p.gate.channel).Applicable h.state := hpost.known
      have hpost' := hpost.silent hs.coherent ha rfl rfl
      have hcoherent := hs.coherent.silent ha rfl
      have ha' : (Operation.register x p.gate.channel).Applicable
          (h.state.perform (.reuse x p.gate.channel)) := trivial
      have hpost'' := hpost'.silent hcoherent ha' rfl rfl
      refine hs.insert [.reuse x p.gate.channel, .register x p.gate.channel]
        ⟨Operation.own_of_silent ha rfl rfl, Operation.own_of_silent ha' rfl rfl, trivial⟩
        { hpost'' with active := ?_ }
      rintro y hy
      obtain rfl : x = y := by simpa using hy
      exact ⟨hpost''.known, fun _ => State.holds_of_reuse accepted⟩
    | @refused x phase =>
      have ha : (Operation.reuse x p.gate.channel).Applicable h.state := hpost.known
      have hpost' := hpost.silent hs.coherent ha rfl rfl
      exact hs.insert [.reuse x p.gate.channel]
        ⟨Operation.own_of_silent ha rfl rfl, trivial⟩ { hpost' with active := by simp }
    | leaving =>
      exact hs.insert [] trivial ⟨rfl, hpost.known, hpost.active, hpost.awaited⟩

theorem outcome (hs : Sound minted h) : Sound minted (h.step (.outcome c)) := by
  unfold step
  dsimp only
  split
  · exact hs
  · next p hp =>
    split
    · exact hs
    · next o ho =>
      have hpost := hs.posts c p hp
      obtain rfl := hpost.place
      cases o with
      | accepted x login =>
        obtain ⟨id, hid, ho⟩ := Option.bind_eq_some_iff.1 ho
        have hkeeps := State.keeps_of_outcome (hpost.awaited id hid) ho
        have ha : (Operation.register x p.gate.channel).Applicable h.state := trivial
        have hpost' := hpost.silent hs.coherent ha rfl rfl
        refine hs.insert [.register x p.gate.channel] ⟨Operation.own_of_silent ha rfl rfl, trivial⟩
          ⟨rfl, hpost'.known, fun y hy => ?_, by simp⟩
        obtain rfl : x = y := GateState.active.inj hy
        exact hkeeps
      | needsSecondary t =>
        exact hs.insert [] trivial ⟨rfl, hpost.known, by simp [Gate.onOutcome], by simp⟩
      | denied failure =>
        exact hs.insert [] trivial ⟨rfl, hpost.known, by simp [Gate.onOutcome], by simp⟩

theorem abandoned (hs : Sound minted h) : Sound minted (h.step (.abandoned c)) := by
  unfold step
  dsimp only
  split
  · exact hs
  · next p hp =>
    have hpost := hs.posts c p hp
    split
    · exact hs.insert [] trivial ⟨hpost.place, hpost.known, by simp [Gate.onOutcome], by simp⟩
    · exact hs

theorem depart (hs : Sound minted h) : Sound minted (h.step (.depart c)) := by
  unfold step
  dsimp only
  split
  · exact hs
  · next p hp =>
    obtain rfl := (hs.posts c p hp).place
    rw [Gate.onClosed_snd]
    exact hs.erase _ Gate.farewell_own

theorem elsewhere {history : List Operation} {op : Operation} (hs : Sound (Minted history) h)
    (ha : h.Admissible history (.elsewhere op)) :
    Sound (Minted (history ++ [op])) (h.step (.elsewhere op)) where
  coherent := hs.coherent.step ha.1
  posts c p hp := by
    refine (hs.posts c p hp).perform hs.coherent ha.1.1 ha.1.2.1 fun hr => ?_
    have hnone := ha.2 c hr
    have hsome : h.posts.find? c = some p := hp
    simp [hnone] at hsome

/-- **One event** leaves all gates right. -/
theorem step {history : List Operation} {e : Event} (hs : Sound (Minted history) h)
    (ha : h.Admissible history e) : Sound (Minted (extend history e)) (h.step e) := by
  cases e with
  | arrive c remote capacity authenticationRequired => exact hs.arrive ha
  | text c fresh text => exact hs.text ha
  | outcome c => exact hs.outcome
  | abandoned c => exact hs.abandoned
  | depart c => exact hs.depart
  | elsewhere op => exact hs.elsewhere ha

theorem follow {history : List Operation} {events : List Event} (hs : Sound (Minted history) h)
    (hf : Follow history h events) : ∃ minted, Sound minted (events.foldl Gatehouse.step h) := by
  induction events generalizing h history with
  | nil => exact ⟨_, hs⟩
  | cons e later ih => exact ih (hs.step hf.1) hf.2

end Gatehouse.Sound

/-- **A run** leaves all gates right. -/
theorem sound_of_run {window : Nat} {events : List Event} (h : Gatehouse.Run window events) :
    ∃ minted, (Gatehouse.after window events).Sound minted := by
  have hs : Gatehouse.Sound (Minted []) { state := { window } } := ⟨Coherent.init window, by simp⟩
  exact hs.follow h

/-! ### Exclusive ownership -/

/-- A gate carries a session on its channel, which is not closed. -/
def Gatehouse.Carries (h : Gatehouse) (c : ChannelId) (x : SessionId) : Prop :=
  ∃ p, h.posts.find? c = some p ∧ p.gate.state = .active x ∧ h.state.closed c = false

/-- **Exclusive ownership**: a session that a gate carries is active and bound to the gate's
channel, and no other gate carries it, or another session of its login. -/
structure Gatehouse.Exclusive (h : Gatehouse) : Prop where
  place : ∀ c p, h.posts.find? c = some p → p.gate.channel = c
  bound : ∀ c x, h.Carries c x →
    ∃ rec, h.state.registry.record? x = some rec ∧ rec.state = .active ∧ rec.channel = some c
  session : ∀ c d x, h.Carries c x → h.Carries d x → c = d
  login : ∀ c d x y rec rec', h.Carries c x → h.Carries d y →
    h.state.registry.record? x = some rec → h.state.registry.record? y = some rec' →
    rec.login = rec'.login → c = d

theorem Gatehouse.Sound.holds {minted : SessionId → Prop} {h : Gatehouse} {c : ChannelId}
    {x : SessionId} (hs : Sound minted h) (hx : h.Carries c x) : h.state.Holds c x := by
  obtain ⟨p, hp, hactive, hopen⟩ := hx
  exact ((hs.posts c p hp).active x hactive).2 hopen

theorem Gatehouse.Sound.carries_unique {minted : SessionId → Prop} {h : Gatehouse} {c d : ChannelId}
    {x : SessionId} (hs : Sound minted h) (hc : h.Carries c x) (hd : h.Carries d x) : c = d := by
  obtain ⟨rec, hrec, -, hbound⟩ := hs.holds hc
  obtain ⟨rec', hrec', -, hbound'⟩ := hs.holds hd
  obtain rfl := Option.some.inj (hrec.symm.trans hrec')
  exact Option.some.inj (hbound.symm.trans hbound')

/-- **Every run** of gates over one registry leaves each session to one of them. -/
theorem exclusive_of_run {window : Nat} {events : List Event} (h : Gatehouse.Run window events) :
    (Gatehouse.after window events).Exclusive := by
  obtain ⟨minted, hs⟩ := sound_of_run h
  exact
    { place := fun c p hp => (hs.posts c p hp).place
      bound := fun c x hx => hs.holds hx
      session := fun c d x => hs.carries_unique
      login := fun c d x y rec rec' hc hd hx hy hl => by
        obtain rfl := hs.coherent.index.eq_of_login_eq hx hy hl
        exact hs.carries_unique hc hd }

/-- Carol signs on at her gate, and somebody at another gate wants to resume her session. -/
def Sample.meeting : List Event :=
  [.arrive client address 8 true, .arrive otherClient address 8 true,
    .text client ⟨0⟩ (Phase.encode (.signonAttempt "carol" ⟨"secret"⟩)),
    .elsewhere (.start ⟨0⟩ session),
    .elsewhere (.answerPrimary ⟨0⟩ .accepted token), .outcome client,
    .text otherClient ⟨1⟩ (Phase.encode (.resumeSession session)), .elsewhere .sweep]

set_option maxRecDepth 20000 in
/-- Carol's gate, and no other, carries her session. -/
theorem exclusive_at_meeting :
    Gatehouse.Run 10 Sample.meeting ∧ (Gatehouse.after 10 Sample.meeting).Exclusive ∧
      (Gatehouse.after 10 Sample.meeting).Carries Sample.client Sample.session := by
  have h : Gatehouse.Run 10 Sample.meeting := by decide +kernel
  refine ⟨h, exclusive_of_run h, ⟨⟨Sample.client, true, .active Sample.session, false⟩, none⟩, ?_⟩
  decide +kernel

end DurableSession.Server
