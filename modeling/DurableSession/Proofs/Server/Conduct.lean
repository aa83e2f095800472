import Mathlib.Data.List.Induction
import DurableSession.Proofs.Server.Deeds
import DurableSession.Proofs.Server.Tenancy

/-!
Where the channel of a gate stands, as long as its client answers a challenge before it wants
anything else.

A gate that has issued a challenge takes up whatever it is asked for next, and does not let go of
the session that was challenged. A client that answers its challenges therefore never meets this,
and its gate knows where its channel stands. Main statements: `Standing.event` and
`standing_of_run`.
-/

namespace DurableSession.Server

open Lifecycle (SessionId Token Phase)

/-! ### Conduct of a client -/

/-- The demand leaves a challenge alone, or answers it. -/
def Demand.Heeds (t : Token) : Demand → Prop
  | nothing => True
  | attempt a => a.token? = some t
  | resumption _ => False

instance (t : Token) (r : Demand) : Decidable (r.Heeds t) :=
  match r with
  | .nothing => isTrue trivial
  | .attempt a => inferInstanceAs (Decidable (a.token? = some t))
  | .resumption _ => isFalse id

namespace Gatehouse

/-- `P` holds of every event and of the gatehouse in which it happens. -/
def Always (P : Gatehouse → Event → Prop) (h : Gatehouse) : List Event → Prop
  | [] => True
  | e :: later => P h e ∧ Always P (h.step e) later

instance decidableAlways (P : Gatehouse → Event → Prop) [∀ h e, Decidable (P h e)] :
    (h : Gatehouse) → (events : List Event) → Decidable (Always P h events)
  | _, [] => isTrue trivial
  | h, e :: later =>
    have := decidableAlways P (h.step e) later
    inferInstanceAs (Decidable (P h e ∧ _))

theorem always_append {P : Gatehouse → Event → Prop} {h : Gatehouse} {events later : List Event} :
    Always P h (events ++ later) ↔ Always P h events ∧ Always P (events.foldl step h) later := by
  induction events generalizing h with
  | nil => simp [Always]
  | cons e events ih =>
    rw [List.cons_append, Always, ih, Always, and_assoc]
    rfl

theorem always_snoc {P : Gatehouse → Event → Prop} {h : Gatehouse} {events : List Event}
    {e : Event} :
    Always P h (events ++ [e]) ↔ Always P h events ∧ P (events.foldl step h) e := by
  rw [always_append, Always, Always, and_true]

/-- **Orderly conduct** on a channel: while a record that is bound to it waits for a code, the
client gives that code before it asks for anything else; the signons of the gate end; and nobody but
the gate binds sessions to the channel. -/
def Orderly (c : ChannelId) (h : Gatehouse) : Event → Prop
  | .text d _ text => d = c → ∀ p ∈ h.posts.find? c, ∀ rec ∈ h.state.registry.records,
      rec.channel = some c → ∀ t ∈ rec.state.token?, (p.gate.demand text).Heeds t
  | .abandoned d => d ≠ c
  | .elsewhere op => op.binds? ≠ some c
  | .arrive _ _ _ _ | .outcome _ | .depart _ => True

instance (c : ChannelId) (h : Gatehouse) : (e : Event) → Decidable (h.Orderly c e)
  | .text d _ text => inferInstanceAs (Decidable (d = c → ∀ p ∈ h.posts.find? c,
      ∀ rec ∈ h.state.registry.records, rec.channel = some c → ∀ t ∈ rec.state.token?,
        (p.gate.demand text).Heeds t))
  | .abandoned d => inferInstanceAs (Decidable (d ≠ c))
  | .elsewhere op => inferInstanceAs (Decidable (op.binds? ≠ some c))
  | .arrive _ _ _ _ | .outcome _ | .depart _ => isTrue trivial

end Gatehouse

/-! ### What a gate knows -/

def Stand.gateState : Stand → GateState
  | idle => .awaitingSignon
  | carrying x => .active x
  | challenged _ => .awaitingSecondary
  | trying _ => .signonPending

def Stand.awaited? : Stand → Option SignonId
  | trying id => some id
  | _ => none

/-- **A gate knows** where its channel stands. -/
structure Gatehouse.Standing (h : Gatehouse) (c : ChannelId) (stand : Stand) : Prop where
  tenancy : Tenancy h.state c stand
  post : ∀ p, h.posts.find? c = some p → p.gate.state = stand.gateState ∧ p.awaited = stand.awaited?

theorem Stand.awaited?_eq_none {stand : Stand} (h : ∀ id, stand ≠ .trying id) :
    stand.awaited? = none := by
  cases stand with
  | trying id => exact absurd rfl (h id)
  | _ => rfl

namespace Gatehouse.Standing

variable {h : Gatehouse} {c : ChannelId} {stand : Stand} {p : Post} {fresh : SignonId}
  {text : String}

/-- No signon is under way on the channel of a gate that can be asked for something. -/
theorem not_trying (hs : h.Standing c stand) (hp : h.posts.find? c = some p)
    (hasked : p.gate.demand text ≠ .nothing) : ∀ id, stand ≠ .trying id := by
  rintro id rfl
  have hawaits := Gate.awaits_of_demand hasked
  simp [Gate.awaits, (hs.post p hp).1, Stand.gateState] at hawaits

/-- Whatever a client asks of a gate, it heeds the challenges of the records that are bound. -/
theorem heeds (hs : h.Standing c stand) (hp : h.posts.find? c = some p)
    (hasked : p.gate.demand text ≠ .nothing) (ho : h.Orderly c (.text c fresh text)) {x : SessionId}
    {rec : Record} (hx : h.state.registry.record? x = some rec) (hc : rec.channel = some c) :
    ∃ t, rec.state = .pendingSecondary t ∧ (p.gate.demand text).Heeds t := by
  have hadmits := hs.tenancy.bound x rec hx hc
  have hawaits := Gate.awaits_of_demand hasked
  cases stand with
  | idle => exact hadmits.elim
  | carrying y => simp [Gate.awaits, (hs.post p hp).1, Stand.gateState] at hawaits
  | challenged t =>
    have hrec : rec.state = .pendingSecondary t := hadmits
    refine ⟨t, hrec, ho rfl p hp rec (Table.mem_values.2 ⟨x, hx⟩) hc t ?_⟩
    simp [hrec, RecordState.token?]
  | trying id => exact absurd rfl (hs.not_trying hp hasked id)

theorem unbound_of_resumption (hs : h.Standing c stand) (hp : h.posts.find? c = some p)
    {y : SessionId} (demand : p.gate.demand text = .resumption y)
    (ho : h.Orderly c (.text c fresh text)) (x : SessionId) (rec : Record)
    (hx : h.state.registry.record? x = some rec) : rec.channel ≠ some c := by
  intro hc
  obtain ⟨t, -, hheeds⟩ := hs.heeds hp (by simp [demand]) ho hx hc
  simp [demand, Demand.Heeds] at hheeds

end Gatehouse.Standing

section Run

variable {window : Nat} {events : List Event} {e : Event} {c : ChannelId} {stand : Stand}

theorem Tenancy.event (hr : Gatehouse.Run window (events ++ [e]))
    (hunbound : ∀ op ∈ (Gatehouse.after window events).deeds e, op.binds? ≠ some c)
    (ht : Tenancy (Gatehouse.after window events).state c stand) :
    Tenancy (Gatehouse.after window (events ++ [e])).state c stand := by
  obtain ⟨hrun, hstate⟩ := Gatehouse.run_performed hr
  have hbefore := (Gatehouse.run_performed (Gatehouse.run_of_append hr)).2
  rw [Gatehouse.performed_snoc] at hrun hstate
  rw [hbefore] at ht
  rw [hstate]
  exact ht.append hrun hunbound

/-- **One event**, when the client conducts itself orderly. -/
theorem Gatehouse.Standing.event (hr : Gatehouse.Run window (events ++ [e]))
    (ho : (Gatehouse.after window events).Orderly c e)
    (hs : (Gatehouse.after window events).Standing c stand) :
    ∃ stand, (Gatehouse.after window (events ++ [e])).Standing c stand := by
  obtain ⟨hevents, ha⟩ := Gatehouse.run_snoc.1 hr
  obtain ⟨minted, hsound⟩ := sound_of_run hevents
  have hplace : ∀ d p, (Gatehouse.after window events).posts.find? d = some p →
      p.gate.channel = d :=
    fun d p hp => (hsound.posts d p hp).place
  have hevent (stand : Stand)
      (hunbound : ∀ op ∈ (Gatehouse.after window events).deeds e, op.binds? ≠ some c)
      (ht : Tenancy (Gatehouse.after window events).state c stand) :
      Tenancy (Gatehouse.after window (events ++ [e])).state c stand :=
    ht.event hr hunbound
  have hshift := Gatehouse.shift (e := e) (c := c) hplace
  have hstate := Gatehouse.state_step (e := e) hplace
  rw [← Gatehouse.after_snoc] at hshift hstate
  generalize hd : (Gatehouse.after window events).deeds e = ops at hshift hstate hevent
  generalize hb : (Gatehouse.after window events).posts.find? c = before at hshift
  generalize hp : (Gatehouse.after window (events ++ [e])).posts.find? c = after at hshift
  cases hshift with
  | kept o unbound =>
    have hunbound := unbound fun op he => by
      subst he
      exact ho
    exact ⟨stand, hevent _ hunbound hs.tenancy,
      fun p hp' => hs.post p (hb.trans (hp.symm.trans hp'))⟩
  | arrived =>
    refine ⟨.idle, hevent _ (by simp [Operation.binds?]) (Tenancy.of_unknown hsound.coherent ha),
      fun p hp' => ?_⟩
    obtain rfl := Option.some.inj (hp.symm.trans hp')
    exact ⟨rfl, rfl⟩
  | @unasked fresh text ops p signoffSeen demand unbound =>
    refine ⟨stand, hevent _ (fun op hop => by simp [unbound op hop]) hs.tenancy, fun p' hp' => ?_⟩
    obtain rfl := Option.some.inj (hp.symm.trans hp')
    exact hs.post p hb
  | @began fresh text p a demand =>
    have hasked : p.gate.demand text ≠ .nothing := by simp [demand]
    refine ⟨.trying fresh, ?_, fun p hp' => ?_⟩
    · rw [hstate]
      refine hs.tenancy.begin (hs.not_trying hb hasked) fun x rec hx hc => ?_
      obtain ⟨t, hrec, hheeds⟩ := hs.heeds hb hasked ho hx hc
      rw [demand] at hheeds
      exact ⟨t, hheeds, hrec⟩
    · obtain rfl := Option.some.inj (hp.symm.trans hp')
      exact ⟨rfl, rfl⟩
  | @resumed fresh text p x login demand accepted =>
    have hasked : p.gate.demand text ≠ .nothing := by simp [demand]
    have hstand := hs.not_trying hb hasked
    have hresumed : Tenancy ((Gatehouse.after window events).state.perform (.reuse x c)) c
        (.carrying x) := hs.tenancy.resume hstand (hs.unbound_of_resumption hb demand ho)
    refine ⟨.carrying x, ?_, fun p hp' => ?_⟩
    · rw [hstate]
      exact ⟨hresumed.undecided, hresumed.bound⟩
    · obtain rfl := Option.some.inj (hp.symm.trans hp')
      exact ⟨rfl, (hs.post _ hb).2.trans (Stand.awaited?_eq_none hstand)⟩
  | @refused fresh text p x error demand denied =>
    have hasked : p.gate.demand text ≠ .nothing := by simp [demand]
    have hstand := hs.not_trying hb hasked
    refine ⟨.idle, ?_, fun p hp' => ?_⟩
    · rw [hstate]
      exact hs.tenancy.refuse hstand (hs.unbound_of_resumption hb demand ho) denied
    · obtain rfl := Option.some.inj (hp.symm.trans hp')
      exact ⟨rfl, (hs.post _ hb).2.trans (Stand.awaited?_eq_none hstand)⟩
  | @told ops p id o awaited decided unbound =>
    obtain ⟨a, hid⟩ := State.decided_of_outcome? decided
    have hawaited : stand.awaited? = some id := (hs.post p hb).2.symm.trans awaited
    cases stand with
    | trying id' =>
      obtain rfl := Option.some.inj hawaited
      refine ⟨o.stand, hevent _ (fun op hop => by simp [unbound op hop]) (hs.tenancy.told hid),
        fun p hp' => ?_⟩
      obtain rfl := Option.some.inj (hp.symm.trans hp')
      cases o <;> exact ⟨rfl, rfl⟩
    | _ => simp [Stand.awaited?] at hawaited
  | abandoned => exact absurd rfl ho
  | departed =>
    refine ⟨stand, hevent _ (fun op hop => by simp [Gate.farewell_binds op hop]) hs.tenancy,
      fun p hp' => ?_⟩
    simp [hp] at hp'

/-- **A run** in which the client of a channel conducts itself orderly leaves its gate knowing where
it stands. -/
theorem standing_of_run (hr : Gatehouse.Run window events)
    (ho : Gatehouse.Always (Gatehouse.Orderly c) { state := { window } } events) :
    ∃ stand, (Gatehouse.after window events).Standing c stand := by
  induction events using List.reverseRecOn with
  | nil =>
    have hempty : ¬ (Gatehouse.after window []).state.Known c := by
      simp [Gatehouse.after, State.Known]
    exact ⟨.idle, Tenancy.of_unknown (coherent_of_run .nil) hempty, by simp [Gatehouse.after]⟩
  | append_singleton events e ih =>
    obtain ⟨ho, he⟩ := Gatehouse.always_snoc.1 ho
    obtain ⟨stand, hs⟩ := ih (Gatehouse.run_of_append hr) ho
    exact hs.event hr he

end Run

/-! ### Carol and her challenge -/

namespace Sample

/-- Carol wants to sign on at her gate. -/
def knock : List Event :=
  [.arrive client address 8 true,
    .text client ⟨0⟩ (Phase.encode (.signonAttempt "carol" ⟨"secret"⟩))]

def challenge : List Event :=
  knock ++ [.elsewhere (.start ⟨0⟩ session), .elsewhere (.answerPrimary ⟨0⟩ .needsSecondary token),
    .outcome client]

def answer : List Event :=
  [.text client ⟨1⟩ (Phase.encode (.secondarySignonAttempt token ⟨"123456"⟩)),
    .elsewhere (.start ⟨1⟩ otherSession), .elsewhere (.answerSecondary ⟨1⟩ true), .outcome client]

/-- Her record while the code is awaited. -/
def awaiting : Record := ⟨session, "carol", .pendingSecondary token, some client, address, 0, 0⟩

end Sample

end DurableSession.Server
