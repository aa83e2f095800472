import DurableSession.Proofs.Server.Deeds
import DurableSession.Proofs.Server.Grants

/-!
What an event does to routes and to the sessions that gates carry.

A gate enters the route of a session when it tells its client that the session is valid, and removes
it, if it is still there, when its channel has ended. Main statement: `move_step`.
-/

namespace DurableSession.Server

open Lifecycle (SessionId Token Phase)
open Network (SocketAddress)

/-! ### Routes -/

/-- The session whose route an operation changes. -/
def Operation.redirects? : Operation → Option SessionId
  | register x _ | unregister x _ => some x
  | _ => none

namespace State

variable {s : State} {op : Operation} {ops : List Operation} {x y : SessionId} {c : ChannelId}

theorem routes_startSignon (s : State) (id : SignonId) (fresh : SessionId) :
    (s.startSignon id fresh).routes = s.routes := by
  unfold startSignon
  split
  · dsimp only
    split <;> rfl
  · dsimp only
    split <;> rfl
  · rfl

theorem routes_answerPrimary {id : SignonId} {verdict : PrimaryVerdict} {fresh : Token} :
    (s.answerPrimary id verdict fresh).routes = s.routes := by
  unfold answerPrimary
  split <;> rfl

theorem routes_answerSecondary {id : SignonId} {verified : Bool} :
    (s.answerSecondary id verified).routes = s.routes := by
  unfold answerSecondary
  split <;> rfl

theorem routes_kickout (s : State) (x : SessionId) : (s.kickout x).2.routes = s.routes := by
  unfold kickout
  split <;> rfl

/-- Only gates enter and remove routes. -/
theorem routes_perform (hop : op.redirects? = none) : (s.perform op).routes = s.routes := by
  cases op with
  | start id fresh => exact routes_startSignon s id fresh
  | answerPrimary id verdict fresh => exact routes_answerPrimary
  | answerSecondary id verified => exact routes_answerSecondary
  | kickout x => exact routes_kickout s x
  | kickoutAll =>
    exact kickoutEach_keeps (P := fun s' => s'.routes = s.routes)
      (fun s' x h => (routes_kickout s' x).trans h) rfl
  | register | unregister => simp [Operation.redirects?] at hop
  | _ => rfl

theorem routes_performAll (hops : ∀ op ∈ ops, op.redirects? = none) :
    (s.performAll ops).routes = s.routes := by
  induction ops generalizing s with
  | nil => rfl
  | cons op ops ih =>
    rw [performAll_cons, ih fun op' hop' => hops op' (List.mem_cons_of_mem _ hop'),
      routes_perform (hops op List.mem_cons_self)]

theorem route_unregister : (s.unregister x c).2.routes.find? y =
    if x = y ∧ s.routes.find? y = some c then none else s.routes.find? y := by
  unfold unregister
  split
  · next h =>
    rw [Table.find?_erase]
    by_cases hxy : x = y
    · subst hxy
      simp [h]
    · simp [hxy]
  · next h =>
    by_cases hxy : x = y
    · subst hxy
      simp [h]
    · simp [hxy]

end State

namespace Gate

variable {g : Gate} {s : State} {id : SignonId} {text : String} {x y : SessionId}

theorem session?_eq_some : g.session? = some x ↔ g.state = .active x := by
  unfold session?
  cases g.state <;> simp

theorem session?_of_pending (h : g.state = .signonPending) : g.session? = none := by
  unfold session?
  rw [h]

/-- A gate that reports the end of its channel removes the route that it has entered, if that is
still there. -/
theorem route_farewell : (s.performAll g.farewell).routes.find? y =
    if g.session? = some y ∧ s.routes.find? y = some g.channel then none else s.routes.find? y := by
  unfold farewell session?
  cases g.state with
  | active x =>
    show ((s.kick g.channel).unregister x g.channel).2.routes.find? y = _
    rw [State.route_unregister]
    simp only [Option.some.injEq]
    rfl
  | _ => simp [State.perform, State.kick, State.releaseChannel]

/-- Only a client that gets the session it asks for is told at once that it is valid. -/
theorem demand_of_sessionValid (h : (g.onText s id text).1 = .reply (.sessionValid x)) :
    g.demand text = .resumption x ∧ ∃ login, (s.reuse x g.channel).1 = .ok login := by
  cases hq : g.demand text with
  | nothing =>
    unfold demand demandOf at hq
    unfold onText at h
    split at h
    · split at h <;> simp at h
    · simp at h
    · next p hp =>
      simp only [hp] at hq
      unfold onPhase at h
      split at h
      · split at h
        · simp [refuse] at h
        · split at h <;> simp [beginSignon] at h
      · split at h <;> simp [beginSignon] at h
      · split at h
        · next hawaits => simp [hawaits] at hq
        · simp at h
      · simp at h
      · simp at h
  | attempt a => simp [onText_of_attempt hq, beginSignon] at h
  | resumption y =>
    cases hr : (s.reuse y g.channel).1 with
    | ok login =>
      rw [onText_of_resumed hq hr] at h
      obtain rfl : y = x := by simpa using h
      exact ⟨rfl, login, hr⟩
    | error e => simp [onText_of_refused hq hr, refuse] at h

end Gate

/-! ### What clients are told -/

def Inbound.reply? : Inbound → Option Phase
  | reply p => some p
  | _ => none

namespace Gatehouse

/-- What a gate has its client told when an event happens. -/
def answer? (h : Gatehouse) : Event → Option Phase
  | .text c fresh text =>
    (h.posts.find? c).bind fun p => (p.gate.onText h.state fresh text).1.reply?
  | .outcome c => (h.posts.find? c).bind fun p =>
      (p.awaited.bind h.state.outcome?).map fun o => (p.gate.onOutcome h.state (.ok o)).1
  | .abandoned c => (h.posts.find? c).bind fun p =>
      p.awaited.map fun _ => (p.gate.onOutcome h.state (.error .abandoned)).1
  | .arrive _ _ _ _ | .depart _ | .elsewhere _ => none

/-- What clients were told, and are told when an event happens. -/
def tell (told : List Phase) (h : Gatehouse) (e : Event) :
    List Phase := told ++ (h.answer? e).toList

end Gatehouse

namespace Event

def names? : Event → Option SessionId
  | text _ _ frame => match Phase.decodeText frame with
    | some (.ok (.resumeSession x)) => some x
    | _ => none
  | _ => none

/-- The session whose route is changed by somebody else than a gate. -/
def redirects? : Event → Option SessionId
  | elsewhere op => op.redirects?
  | _ => none

/-- **Discretion**: a client wants to resume only a session that some client was told of, and nobody
but a gate changes routes. -/
def Discreet (told : List Phase) (e : Event) : Prop :=
  (∀ x ∈ e.names?, .sessionValid x ∈ told) ∧ e.redirects? = none

instance (told : List Phase) (e : Event) :
    Decidable (e.Discreet told) := inferInstanceAs (Decidable (_ ∧ _))

theorem names?_of_demand {g : Gate} {c : ChannelId} {fresh : SignonId} {frame : String}
    {x : SessionId} (h : g.demand frame = .resumption x) :
    (text c fresh frame).names? = some x := by
  unfold Gate.demand at h
  unfold names?
  split at h
  · next p hp =>
    obtain rfl := Gate.demandOf_of_resumption h
    simp [hp]
  · simp at h

end Event

namespace Gatehouse

/-- All events are discreet, when clients were told `told` before. -/
def Discretion (told : List Phase) (h : Gatehouse) : List Event → Prop
  | [] => True
  | e :: later => e.Discreet told ∧ Discretion (tell told h e) (h.step e) later

instance decidableDiscretion : (told : List Phase) → (h : Gatehouse) → (events : List Event) →
    Decidable (Discretion told h events)
  | _, _, [] => isTrue trivial
  | told, h, e :: later =>
    have := decidableDiscretion (tell told h e) (h.step e) later
    inferInstanceAs (Decidable (e.Discreet told ∧ _))

end Gatehouse

/-! ### What an event does to routes and gates -/

namespace Gatehouse

def carried? (h : Gatehouse) (c : ChannelId) : Option SessionId :=
  (h.posts.find? c).bind fun p => p.gate.session?

def awaited? (h : Gatehouse) (c : ChannelId) :
    Option SignonId := (h.posts.find? c).bind Post.awaited

section Posts

variable {h : Gatehouse} {s : State} {c d : ChannelId} {p : Post} {x : SessionId} {id : SignonId}

theorem carried?_eq_some :
    h.carried? c = some x ↔ ∃ p, h.posts.find? c = some p ∧ p.gate.state = .active x := by
  simp only [carried?, Option.bind_eq_some_iff, Gate.session?_eq_some]

theorem carried?_insert :
    carried? { state := s, posts := h.posts.insert c p } d = if c = d then p.gate.session?
      else h.carried? d := by
  unfold carried?
  dsimp only
  rw [Table.find?_insert]
  split <;> rfl

theorem awaited?_insert :
    awaited? { state := s, posts := h.posts.insert c p } d = if c = d then p.awaited
      else h.awaited? d := by
  unfold awaited?
  dsimp only
  rw [Table.find?_insert]
  split <;> rfl

theorem carried?_erase :
    carried? { state := s, posts := h.posts.erase c } d = if c = d then none else h.carried? d := by
  unfold carried?
  dsimp only
  rw [Table.find?_erase]
  split <;> rfl

theorem carried?_of_find? (hp : h.posts.find? c = some p) : h.carried? c = p.gate.session? := by
  unfold carried?
  rw [hp, Option.bind_some]

theorem awaited?_of_find? (hp : h.posts.find? c = some p) : h.awaited? c = p.awaited := by
  unfold awaited?
  rw [hp, Option.bind_some]

end Posts

/-- A gate that waits for the outcome of a signon does nothing else. -/
def Attentive (h : Gatehouse) : Prop :=
  ∀ c p, h.posts.find? c = some p → p.awaited ≠ none → p.gate.state = .signonPending

/-- Why a gate tells its client that a session is valid: the client asked for it and its channel
holds it now, or the signon that the gate waited for was granted it. -/
inductive Due (h h' : Gatehouse) (e : Event) (c : ChannelId) (x : SessionId) : Prop where
  | resumed (named : e.names? = some x) (holds : h'.state.Holds c x)
  | granted {id : SignonId} (awaited : h.awaited? c = some id) (grants : h.state.Grants id x)

/-- **What an event does** to routes and gates, and what a client is told. -/
inductive Move (h h' : Gatehouse) (e : Event) : Option Phase → Prop where
  | quiet {answer : Option Phase} (routes : h'.state.routes = h.state.routes)
      (carried : ∀ c, h'.carried? c = h.carried? c)
      (silent : ∀ x, answer ≠ some (.sessionValid x)) :
      Move h h' e answer
  | begun {c : ChannelId} {x : SessionId} (due : Due h h' e c x) (free : h.carried? c = none)
      (idle : h'.awaited? c = none) (routes : h'.state.routes = h.state.routes.insert x c)
      (carried : ∀ d, h'.carried? d = if c = d then some x else h.carried? d) :
      Move h h' e (some (.sessionValid x))
  | departed {c : ChannelId}
      (routes : ∀ x, h'.state.routes.find? x = if h.carried? c = some x ∧ h.state.routes.find? x =
        some c then none else h.state.routes.find? x)
      (carried : ∀ d, h'.carried? d = if c = d then none else h.carried? d) : Move h h' e none

section Moves

variable {minted : SessionId → Prop} {h : Gatehouse} {c : ChannelId} {p : Post} {fresh : SignonId}
  {text : String}

theorem Move.nothing {e : Event} : Move h h e none := .quiet rfl (fun _ => rfl) (by simp)

theorem Move.still {s : State} {e : Event} {answer : Option Phase} (hp : h.posts.find? c = some p)
    {p' : Post} (routes : s.routes = h.state.routes) (carried : p'.gate.session? = p.gate.session?)
    (silent : ∀ x, answer ≠ some (.sessionValid x)) :
    Move h { state := s, posts := h.posts.insert c p' } e answer := by
  refine .quiet routes ?_ silent
  intro d
  rw [carried?_insert]
  split
  · next he =>
    subst he
    rw [carried, carried?_of_find? hp]
  · rfl

theorem move_text (hs : Sound minted h) (hw : h.Attentive) (hp : h.posts.find? c = some p) :
    Move h (h.step (.text c fresh text)) (.text c fresh text) (h.answer? (.text c fresh text)) := by
  obtain rfl := (hs.posts c p hp).place
  have hanswer : h.answer? (.text p.gate.channel fresh text) =
      (p.gate.onText h.state fresh text).1.reply? := by
    simp [answer?, hp]
  have hstep : h.step (.text p.gate.channel fresh text) =
      { state := (p.gate.onText h.state fresh text).2.2
        posts := h.posts.insert p.gate.channel
          ⟨(p.gate.onText h.state fresh text).2.1,
            (p.gate.onText h.state fresh text).1.awaited?.or p.awaited⟩ } := by
    simp [step, hp]
  -- only a resumption that succeeds tells the client that a session is valid
  have hsilent (hnot : ∀ x login, p.gate.demand text = .resumption x →
      (h.state.reuse x p.gate.channel).1 ≠ .ok login) (x : SessionId) :
      (p.gate.onText h.state fresh text).1.reply? ≠ some (.sessionValid x) := by
    intro hreply
    have hinbound : (p.gate.onText h.state fresh text).1 = .reply (.sessionValid x) := by
      generalize (p.gate.onText h.state fresh text).1 = inbound at hreply ⊢
      cases inbound <;> simp_all [Inbound.reply?]
    obtain ⟨hq, login, hr⟩ := Gate.demand_of_sessionValid hinbound
    exact hnot x login hq hr
  rw [hanswer, hstep]
  cases hq : p.gate.demand text with
  | nothing =>
    have hsilent := hsilent (by simp [hq])
    obtain ⟨inbound, signoffSeen, hidle, htext⟩ := Gate.onText_of_nothing h.state fresh hq
    have hroutes : (h.state.performAll (p.gate.deeds h.state fresh text)).routes = h.state.routes :=
      State.routes_performAll fun op hop => by
      simp [Gate.deeds_of_nothing hq op hop, Operation.redirects?]
    rw [htext] at hsilent ⊢
    exact .still hp hroutes rfl hsilent
  | attempt a =>
    have hsilent := hsilent (by simp [hq])
    have hdemand : p.gate.demand text ≠ .nothing := by simp [hq]
    have hawaits := Gate.awaits_of_demand hdemand
    rw [Gate.onText_of_attempt hq] at hsilent ⊢
    exact .still hp rfl (Gate.session?_of_awaits hawaits).symm hsilent
  | resumption x =>
    have hdemand : p.gate.demand text ≠ .nothing := by simp [hq]
    have hawaits := Gate.awaits_of_demand hdemand
    have hfree := Gate.session?_of_awaits hawaits
    cases hr : (h.state.reuse x p.gate.channel).1 with
    | ok login =>
      have hidle : p.awaited = none := by
        cases hid : p.awaited with
        | none => rfl
        | some id =>
          have hpending := hw _ p hp (by simp [hid])
          simp [Gate.awaits, hpending] at hawaits
      rw [Gate.onText_of_resumed hq hr]
      refine .begun (c := p.gate.channel) (.resumed ?_ (State.holds_of_reuse hr)) ?_ ?_ rfl ?_
      · exact Event.names?_of_demand hq
      · rw [carried?_of_find? hp, hfree]
      · rw [awaited?_insert, if_pos rfl, hidle]
        rfl
      · intro d
        rw [carried?_insert]
        rfl
    | error e =>
      have hsilent := hsilent fun y login hy => by
        obtain rfl := Demand.resumption.inj (hq.symm.trans hy)
        simp [hr]
      rw [Gate.onText_of_refused hq hr] at hsilent ⊢
      exact .still hp (State.routes_performAll (by simp [Operation.redirects?])) hfree.symm hsilent

theorem move_outcome (hs : Sound minted h) (hw : h.Attentive) (hp : h.posts.find? c = some p) :
    Move h (h.step (.outcome c)) (.outcome c) (h.answer? (.outcome c)) := by
  obtain rfl := (hs.posts c p hp).place
  cases ho : p.awaited.bind h.state.outcome? with
  | none =>
    have hanswer : h.answer? (.outcome p.gate.channel) = none := by
      unfold answer?
      dsimp only
      rw [hp, Option.bind_some, ho, Option.map_none]
    have hstep : h.step (.outcome p.gate.channel) = h := by simp [step, hp, ho]
    rw [hanswer, hstep]
    exact .nothing
  | some o =>
    have hanswer : h.answer? (.outcome p.gate.channel) =
        some (p.gate.onOutcome h.state (.ok o)).1 := by
      unfold answer?
      dsimp only
      rw [hp, Option.bind_some, ho, Option.map_some]
    have hstep : h.step (.outcome p.gate.channel) =
        { state := (p.gate.onOutcome h.state (.ok o)).2.2
          posts := h.posts.insert p.gate.channel
            { gate := (p.gate.onOutcome h.state (.ok o)).2.1 } } := by
      simp [step, hp, ho]
    obtain ⟨id, hid, ho⟩ := Option.bind_eq_some_iff.1 ho
    have hfree := Gate.session?_of_pending (hw _ p hp (by simp [hid]))
    rw [hanswer, hstep]
    cases o with
    | accepted x login =>
      refine .begun (c := p.gate.channel) (.granted ?_ (State.grants_of_outcome? ho)) ?_ ?_ rfl ?_
      · rw [awaited?_of_find? hp, hid]
      · rw [carried?_of_find? hp, hfree]
      · rw [awaited?_insert, if_pos rfl]
      · intro d
        rw [carried?_insert]
        rfl
    | needsSecondary t => exact .still hp rfl hfree.symm (by simp [Gate.onOutcome])
    | denied failure => exact .still hp rfl hfree.symm (by simp [Gate.onOutcome])

theorem move_abandoned (hw : h.Attentive) (hp : h.posts.find? c = some p) :
    Move h (h.step (.abandoned c)) (.abandoned c) (h.answer? (.abandoned c)) := by
  cases hid : p.awaited with
  | none =>
    have hanswer : h.answer? (.abandoned c) = none := by simp [answer?, hp, hid]
    have hstep : h.step (.abandoned c) = h := by simp [step, hp, hid]
    rw [hanswer, hstep]
    exact .nothing
  | some id =>
    have hanswer : h.answer? (.abandoned c) =
        some (p.gate.onOutcome h.state (.error .abandoned)).1 := by
      simp [answer?, hp, hid]
    have hstep : h.step (.abandoned c) =
        { h with
          posts := h.posts.insert c
            { gate := (p.gate.onOutcome h.state (.error .abandoned)).2.1 } } := by
      simp [step, hp, hid, Gate.onOutcome]
    have hfree := Gate.session?_of_pending (hw _ p hp (by simp [hid]))
    rw [hanswer, hstep]
    exact .still hp rfl hfree.symm (by simp [Gate.onOutcome])

theorem move_depart (hs : Sound minted h) (hp : h.posts.find? c = some p) :
    Move h (h.step (.depart c)) (.depart c) (h.answer? (.depart c)) := by
  obtain rfl := (hs.posts c p hp).place
  have hstep : h.step (.depart p.gate.channel) =
      { state := h.state.performAll p.gate.farewell, posts := h.posts.erase p.gate.channel } := by
    simp [step, hp, Gate.onClosed_snd]
  rw [hstep]
  refine .departed (c := p.gate.channel) ?_ ?_
  · intro x
    rw [carried?_of_find? hp]
    exact Gate.route_farewell
  · intro d
    exact carried?_erase

theorem move_arrive {history : List Operation} {remote : SocketAddress} {capacity : Nat}
    {authenticationRequired : Bool} (hs : Sound minted h)
    (ha : h.Admissible history (.arrive c remote capacity authenticationRequired)) :
    Move h (h.step (.arrive c remote capacity authenticationRequired))
      (.arrive c remote capacity authenticationRequired) none := by
  have hfree : h.carried? c = none := by
    cases hx : h.carried? c with
    | none => rfl
    | some x =>
      obtain ⟨p, hp, -⟩ := carried?_eq_some.1 hx
      exact absurd (hs.posts c p hp).known ha
  refine .quiet rfl ?_ (by simp)
  intro d
  rw [step, carried?_insert]
  split
  · next hc =>
    subst hc
    exact hfree.symm
  · rfl

/-- **One event**, when nobody but gates changes routes. -/
theorem move_step {history : List Operation} {e : Event} (hs : Sound minted h) (hw : h.Attentive)
    (ha : h.Admissible history e) (he : e.redirects? = none) :
    Move h (h.step e) e (h.answer? e) := by
  cases e with
  | arrive c remote capacity authenticationRequired => exact move_arrive hs ha
  | text c fresh text =>
    cases hp : h.posts.find? c with
    | none => simpa only [step, answer?, hp, Option.bind_none] using Move.nothing
    | some p => exact move_text hs hw hp
  | outcome c =>
    cases hp : h.posts.find? c with
    | none => simpa only [step, answer?, hp, Option.bind_none] using Move.nothing
    | some p => exact move_outcome hs hw hp
  | abandoned c =>
    cases hp : h.posts.find? c with
    | none => simpa only [step, answer?, hp, Option.bind_none] using Move.nothing
    | some p => exact move_abandoned hw hp
  | depart c =>
    cases hp : h.posts.find? c with
    | none => simpa only [step, answer?, hp, Option.bind_none] using Move.nothing
    | some p => exact move_depart hs hp
  | elsewhere op => exact .quiet (State.routes_perform he) (fun _ => rfl) (by simp [answer?])

/-- A client is told that a session is valid only by a gate that begins to carry it. -/
theorem Move.due {h' : Gatehouse} {e : Event} {x : SessionId}
    (hm : Move h h' e (some (.sessionValid x))) :
    ∃ c, Due h h' e c x ∧ h'.awaited? c = none := by
  generalize ha : some (Phase.sessionValid x) = answer at hm
  cases hm with
  | quiet routes carried silent => exact absurd ha.symm (silent x)
  | begun due free idle routes carried =>
    obtain rfl := Phase.sessionValid.inj (Option.some.inj ha)
    exact ⟨_, due, idle⟩
  | departed => simp at ha

end Moves

end Gatehouse

end DurableSession.Server
