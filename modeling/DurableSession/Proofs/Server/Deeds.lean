import DurableSession.Proofs.Server.Exclusive
import DurableSession.Proofs.Server.Demands

/-!
Everything that happens at a gatehouse is a few operations on the state of its gates.

Main statements: `state_step` for the state, `shift` for one gate, and `run_performed`: a run of a
gatehouse is a run of its state, so that what holds of the states of runs holds of the states of
gatehouses.
-/

namespace DurableSession.Server

open Lifecycle (SessionId Token)
open Network (SocketAddress)

/-! ### Events -/

def Event.channel? : Event → Option ChannelId
  | arrive c _ _ _ | text c _ _ | outcome c | abandoned c | depart c => some c
  | elsewhere _ => none

namespace Gatehouse

def deeds (h : Gatehouse) : Event → List Operation
  | .arrive c remote capacity _ => [.openChannel c remote capacity]
  | .text c fresh text =>
    match h.posts.find? c with
    | none => []
    | some p => p.gate.deeds h.state fresh text
  | .outcome c =>
    match (h.posts.find? c).bind fun p => p.awaited.bind h.state.outcome? with
    | some (.accepted x _) => [.register x c]
    | _ => []
  | .abandoned _ => []
  | .depart c =>
    match h.posts.find? c with
    | none => []
    | some p => p.gate.farewell
  | .elsewhere op => [op]

def operations (h : Gatehouse) : List Event → List Operation
  | [] => []
  | e :: later => h.deeds e ++ (h.step e).operations later

def performed (window : Nat) (events : List Event) : List Operation :=
  operations { state := { window } } events

variable {h : Gatehouse} {e : Event} {events later : List Event} {c : ChannelId}

theorem operations_append :
    h.operations (events ++ later) =
      h.operations events ++ (events.foldl step h).operations later := by
  induction events generalizing h with
  | nil => rfl
  | cons e events ih => simp [operations, ih]

theorem performed_append {window : Nat} :
    performed window (events ++ later) =
      performed window events ++ (after window events).operations later :=
  operations_append

theorem performed_snoc {window : Nat} :
    performed window (events ++ [e]) = performed window events ++
      (after window events).deeds e := by
  rw [performed_append, operations, operations, List.append_nil]

theorem state_step (hplace : ∀ c p, h.posts.find? c = some p → p.gate.channel = c) :
    (h.step e).state = h.state.performAll (h.deeds e) := by
  cases e with
  | arrive c remote capacity authenticationRequired => rfl
  | text c fresh text =>
    cases hp : h.posts.find? c with
    | none => simp [step, deeds, hp]
    | some p =>
      simp only [step, deeds, hp]
      exact Gate.state_onText
  | outcome c =>
    cases hp : h.posts.find? c with
    | none => simp [step, deeds, hp]
    | some p =>
      obtain rfl := hplace c p hp
      simp only [step, deeds, hp, Option.bind_some]
      cases p.awaited.bind h.state.outcome? with
      | none => rfl
      | some o => cases o <;> rfl
  | abandoned c =>
    unfold step
    dsimp only
    split
    · rfl
    · split <;> rfl
  | depart c =>
    cases hp : h.posts.find? c with
    | none => simp [step, deeds, hp]
    | some p =>
      simp only [step, deeds, hp]
      exact Gate.onClosed_snd
  | elsewhere op => rfl

/-- Nothing that happens at a gate gives out names. -/
theorem deeds_nameless {minted : SessionId → Prop} {history : List Operation} (hs : Sound minted h)
    (ha : h.Admissible history e) (hc : e.channel? = some c) :
    Throughout Operation.Nameless h.state (h.deeds e) := by
  unfold deeds
  cases e with
  | arrive d remote capacity authenticationRequired => exact ⟨⟨ha, rfl, rfl⟩, trivial⟩
  | text d fresh text =>
    dsimp only
    split
    · trivial
    · next p hp =>
      have hpost := hs.posts d p hp
      exact Gate.deeds_nameless (hpost.place.symm ▸ hpost.known) ha
  | outcome d =>
    dsimp only
    split
    · exact ⟨⟨trivial, rfl, rfl⟩, trivial⟩
    · trivial
  | abandoned d => trivial
  | depart d =>
    dsimp only
    split
    · trivial
    · exact Gate.farewell_nameless
  | elsewhere op => simp [Event.channel?] at hc

theorem posts_step (hne : e.channel? ≠ some c) : (h.step e).posts.find? c = h.posts.find? c := by
  have hins (d : ChannelId) (p : Post) (hd : some d ≠ some c) :
      (h.posts.insert d p).find? c = h.posts.find? c := by
    rw [Table.find?_insert, if_neg (fun he => hd (congrArg some he))]
  unfold step
  cases e with
  | arrive d remote capacity authenticationRequired => exact hins d _ hne
  | text d fresh text =>
    dsimp only
    split
    · rfl
    · exact hins d _ hne
  | outcome d =>
    dsimp only
    split
    · rfl
    · split
      · rfl
      · exact hins d _ hne
  | abandoned d =>
    dsimp only
    split
    · rfl
    · split
      · exact hins d _ hne
      · rfl
  | depart d =>
    dsimp only
    split
    · rfl
    · rw [Table.find?_erase, if_neg (fun he => hne (congrArg some he))]
  | elsewhere op => rfl

theorem not_binds (hplace : ∀ c p, h.posts.find? c = some p → p.gate.channel = c)
    (hne : e.channel? ≠ some c) (helse : ∀ op, e = .elsewhere op → op.binds? ≠ some c) :
    ∀ op ∈ h.deeds e, op.binds? ≠ some c := by
  unfold deeds
  cases e with
  | arrive d remote capacity authenticationRequired => simp [Operation.binds?]
  | text d fresh text =>
    dsimp only
    split
    · simp
    · next p hp =>
      intro op hop hc
      have hchannel := Gate.channel_of_binds hop hc
      rw [hplace d p hp] at hchannel
      exact hne (congrArg some hchannel)
  | outcome d =>
    dsimp only
    split <;> simp [Operation.binds?]
  | abandoned d => simp
  | depart d =>
    dsimp only
    split
    · simp
    · exact fun op hop => by simp [Gate.farewell_binds op hop]
  | elsewhere op => simpa using helse op rfl

/-- What an event does to the gate of a channel: the operations that it performs, the gate that was
there, and the one that is there afterwards. -/
inductive Shift (h : Gatehouse) (c : ChannelId) :
    Event → List Operation → Option Post → Option Post → Prop where
  | kept {e : Event} {ops : List Operation} (o : Option Post)
      (unbound : (∀ op, e = .elsewhere op → op.binds? ≠ some c) → ∀ op ∈ ops, op.binds? ≠ some c) :
      Shift h c e ops o o
  | arrived {remote : SocketAddress} {capacity : Nat} {authenticationRequired : Bool}
      (o : Option Post) :
      Shift h c (.arrive c remote capacity authenticationRequired)
        [.openChannel c remote capacity] o
        (some { gate := { channel := c, authenticationRequired } })
  | unasked {fresh : SignonId} {text : String} {ops : List Operation} {p : Post}
      {signoffSeen : Bool} (demand : p.gate.demand text = .nothing)
      (unbound : ∀ op ∈ ops, op.binds? = none) :
      Shift h c (.text c fresh text) ops (some p) (some ⟨{ p.gate with signoffSeen }, p.awaited⟩)
  | began {fresh : SignonId} {text : String} {p : Post} {a : Attempt}
      (demand : p.gate.demand text = .attempt a) :
      Shift h c (.text c fresh text) [.spawn fresh a] (some p)
        (some ⟨{ p.gate with state := .signonPending }, some fresh⟩)
  | resumed {fresh : SignonId} {text : String} {p : Post} {x : SessionId} {login : String}
      (demand : p.gate.demand text = .resumption x) (accepted : (h.state.reuse x c).1 = .ok login) :
      Shift h c (.text c fresh text) [.reuse x c, .register x c] (some p)
        (some ⟨{ p.gate with state := .active x }, p.awaited⟩)
  | refused {fresh : SignonId} {text : String} {p : Post} {x : SessionId} {error : RegistryError}
      (demand : p.gate.demand text = .resumption x)
      (denied : (h.state.reuse x c).1 = .error error) :
      Shift h c (.text c fresh text) [.reuse x c] (some p)
        (some ⟨{ p.gate with state := .awaitingSignon }, p.awaited⟩)
  | told {ops : List Operation} {p : Post} {id : SignonId} {o : Outcome}
      (awaited : p.awaited = some id) (decided : h.state.outcome? id = some o)
      (unbound : ∀ op ∈ ops, op.binds? = none) :
      Shift h c (.outcome c) ops (some p) (some { gate := (p.gate.onOutcome h.state (.ok o)).2.1 })
  | abandoned {p : Post} :
      Shift h c (.abandoned c) [] (some p)
        (some { gate := { p.gate with state := .awaitingSignon } })
  | departed {p : Post} : Shift h c (.depart c) p.gate.farewell (some p) none

theorem shift_text {fresh : SignonId} {text : String} {p : Post} (hplace : p.gate.channel = c) :
    Shift h c (.text c fresh text) (p.gate.deeds h.state fresh text) (some p)
      (some ⟨(p.gate.onText h.state fresh text).2.1,
        (p.gate.onText h.state fresh text).1.awaited?.or p.awaited⟩) := by
  subst hplace
  cases hq : p.gate.demand text with
  | nothing =>
    obtain ⟨inbound, signoffSeen, hidle, htext⟩ := Gate.onText_of_nothing h.state fresh hq
    rw [htext, hidle]
    exact .unasked hq fun op hop => by simp [Gate.deeds_of_nothing hq op hop, Operation.binds?]
  | attempt a =>
    rw [Gate.onText_of_attempt hq, Gate.deeds_of_attempt hq]
    exact .began hq
  | resumption x =>
    cases hr : (h.state.reuse x p.gate.channel).1 with
    | ok login =>
      rw [Gate.onText_of_resumed hq hr, Gate.deeds_of_resumed hq hr]
      exact .resumed hq hr
    | error error =>
      rw [Gate.onText_of_refused hq hr, Gate.deeds_of_refused hq hr]
      exact .refused hq hr

theorem shift_outcome {p : Post} (hp : h.posts.find? c = some p) :
    Shift h c (.outcome c) (h.deeds (.outcome c)) (some p)
      ((h.step (.outcome c)).posts.find? c) := by
  have hunbound : ∀ op ∈ h.deeds (.outcome c), op.binds? = none := by
    unfold deeds
    dsimp only
    split <;> simp [Operation.binds?]
  unfold step
  simp only [hp]
  split
  · rw [hp]
    exact .kept _ fun _ op hop => by simp [hunbound op hop]
  · next o ho =>
    obtain ⟨id, hid, ho⟩ := Option.bind_eq_some_iff.1 ho
    rw [Table.find?_insert, if_pos rfl]
    exact .told hid ho hunbound

/-- **What an event does to a gate.** -/
theorem shift (hplace : ∀ c p, h.posts.find? c = some p → p.gate.channel = c) :
    Shift h c e (h.deeds e) (h.posts.find? c) ((h.step e).posts.find? c) := by
  by_cases hc : e.channel? = some c
  · cases e with
    | arrive d remote capacity authenticationRequired =>
      obtain rfl : d = c := Option.some.inj hc
      have hpost : (h.step (.arrive d remote capacity authenticationRequired)).posts.find? d =
          some { gate := { channel := d, authenticationRequired } } :=
        (Table.find?_insert ..).trans (if_pos rfl)
      rw [hpost]
      exact .arrived _
    | text d fresh text =>
      obtain rfl : d = c := Option.some.inj hc
      cases hp : h.posts.find? d with
      | none =>
        simp only [step, deeds, hp]
        exact .kept _ (by simp)
      | some p =>
        simp only [step, deeds, hp, Table.find?_insert, if_true]
        exact shift_text (hplace d p hp)
    | outcome d =>
      obtain rfl : d = c := Option.some.inj hc
      cases hp : h.posts.find? d with
      | none =>
        simp only [step, deeds, hp, Option.bind_none]
        exact .kept _ (by simp)
      | some p => exact shift_outcome hp
    | abandoned d =>
      obtain rfl : d = c := Option.some.inj hc
      cases hp : h.posts.find? d with
      | none =>
        simp only [step, deeds, hp]
        exact .kept _ (by simp)
      | some p =>
        simp only [step, deeds, hp]
        split
        · rw [Table.find?_insert, if_pos rfl]
          exact .abandoned
        · rw [hp]
          exact .kept _ (by simp)
    | depart d =>
      obtain rfl : d = c := Option.some.inj hc
      cases hp : h.posts.find? d with
      | none =>
        simp only [step, deeds, hp]
        exact .kept _ (by simp)
      | some p =>
        simp only [step, deeds, hp, Table.find?_erase, if_true]
        exact .departed
    | elsewhere op => simp [Event.channel?] at hc
  · rw [posts_step hc]
    exact .kept _ fun helse => not_binds hplace hc helse

end Gatehouse

/-! ### Runs -/

section Nameless

variable {s : State} {ops history : List Operation}

theorem Throughout.names_none (hn : Throughout Operation.Nameless s ops) :
    ∀ op ∈ ops, op.mints? = none ∧ op.issues? = none := by
  induction ops generalizing s with
  | nil => simp
  | cons op ops ih =>
    simp only [List.mem_cons, forall_eq_or_imp]
    exact ⟨hn.1.2, ih hn.2⟩

/-- What gives out no names may follow any history. -/
theorem follow_of_nameless (hn : Throughout Operation.Nameless s ops) : Follow history s ops := by
  induction ops generalizing s history with
  | nil => trivial
  | cons op ops ih =>
    exact ⟨⟨hn.1.1, by simp [hn.1.2.1], by simp [hn.1.2.2]⟩, ih hn.2⟩

end Nameless

namespace Gatehouse

variable {h : Gatehouse} {e : Event} {events : List Event} {history ops : List Operation}

/-- What was given out in a history, not counting what gates do, was given out by all that was
performed. -/
structure Covers (history ops : List Operation) : Prop where
  minted : ∀ x, Minted ops x → Minted history x
  issued : ∀ t, Issued ops t → Issued history t

theorem Covers.step (hc : Covers history ops) (hs : Sound (Minted history) h)
    (ha : h.Admissible history e) : Covers (extend history e) (ops ++ h.deeds e) := by
  cases hchannel : e.channel? with
  | none =>
    cases e with
    | elsewhere op =>
      refine ⟨fun x hx => minted_append.2 ((minted_append.1 hx).imp_left (hc.minted x)),
        fun t ht => issued_append.2 ((issued_append.1 ht).imp_left (hc.issued t))⟩
    | _ => simp [Event.channel?] at hchannel
  | some c =>
    have hnames := (deeds_nameless hs ha hchannel).names_none
    have hextend : extend history e = history := by
      cases e with
      | elsewhere op => simp [Event.channel?] at hchannel
      | _ => rfl
    rw [hextend]
    refine ⟨fun x hx => (minted_append.1 hx).elim (hc.minted x) fun hx => ?_,
      fun t ht => (issued_append.1 ht).elim (hc.issued t) fun ht => ?_⟩
    · obtain ⟨op, hop, hx⟩ := hx
      simp [hnames op hop] at hx
    · obtain ⟨op, hop, ht⟩ := ht
      simp [hnames op hop] at ht

theorem Covers.follow_deeds (hc : Covers history ops) (hs : Sound (Minted history) h)
    (ha : h.Admissible history e) : Server.Follow ops h.state (h.deeds e) := by
  cases hchannel : e.channel? with
  | none =>
    cases e with
    | elsewhere op =>
      obtain ⟨⟨happlicable, hmints, hissues⟩, -⟩ := ha
      exact ⟨⟨happlicable, fun x hx hm => hmints x hx (hc.minted x hm),
        fun t ht hi => hissues t ht (hc.issued t hi)⟩, trivial⟩
    | _ => simp [Event.channel?] at hchannel
  | some c => exact follow_of_nameless (deeds_nameless hs ha hchannel)

theorem Covers.follow (hc : Covers history ops) (hs : Sound (Minted history) h)
    (hf : Follow history h events) :
    Server.Follow ops h.state (h.operations events) ∧
      (events.foldl Gatehouse.step h).state = h.state.performAll (h.operations events) := by
  induction events generalizing h history ops with
  | nil => exact ⟨trivial, rfl⟩
  | cons e later ih =>
    have hstate : (h.step e).state = h.state.performAll (h.deeds e) :=
      state_step fun c p hp => (hs.posts c p hp).place
    obtain ⟨hlater, hafter⟩ := ih (hc.step hs hf.1) (hs.step hf.1) hf.2
    refine ⟨Server.follow_append.2 ⟨hc.follow_deeds hs hf.1, hstate ▸ hlater⟩, ?_⟩
    rw [operations, State.performAll_append, ← hstate]
    exact hafter

/-- **A run of a gatehouse** is a run of its state. -/
theorem run_performed {window : Nat} (hr : Run window events) :
    Server.Run window (performed window events) ∧
      (after window events).state = stateAfter window (performed window events) := by
  have hs : Sound (Minted []) { state := { window } } := ⟨Coherent.init window, by simp⟩
  obtain ⟨hf, hstate⟩ := Covers.follow ⟨fun _ hx => hx, fun _ ht => ht⟩ hs hr
  exact ⟨Server.Run.iff_follow.2 hf, hstate⟩

end Gatehouse

end DurableSession.Server
