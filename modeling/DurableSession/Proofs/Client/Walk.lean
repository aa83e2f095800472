import DurableSession.Proofs.Client.Transition

/-!
Transitions that are called in any order, with any arguments.

The rules of a status alone do not say that a transition from an allowed status goes well: a client
that stops needs a descriptor and must be rid of its timers before it may stand still. A snapshot
that was reached from the beginning has what is missing, `Parts.Kept`. Main statements:
`Call.exists_leads` with one case for each transition, `Call.outcome` for one call, and
`Call.walk_judged` by induction over the calls.
-/

namespace DurableSession.Client

open Handshake (Descriptor)

variable {κ : Type}

/-! ### Calls -/

inductive Call (κ : Type) where
  | startConnecting (start : Signal) (provisional : Descriptor)
  | channelEstablished (channel : κ)
  | reconnectPlanned (timer : Timer)
  | connected (descriptor : Descriptor) (ping : Timer)
  | nextPingPlanned (timer : Timer)
  | pongTimeoutPlanned (timer : Timer)
  | signedIn (login : String)
  | channelLost (timer : Timer)
  | stopping (stop : Signal)
  | stopped
  | emergencyStopped
deriving DecidableEq

namespace Call

def apply (s : Snapshot κ) : Call κ → Except SnapshotError (Snapshot κ)
  | startConnecting start provisional => s.startConnecting start provisional
  | channelEstablished channel => s.channelEstablished channel
  | reconnectPlanned timer => s.reconnectPlanned timer
  | connected descriptor ping => s.connected descriptor ping
  | nextPingPlanned timer => s.nextPingPlanned timer
  | pongTimeoutPlanned timer => s.pongTimeoutPlanned timer
  | signedIn login => s.signedIn login
  | channelLost timer => s.channelLost timer
  | stopping stop => s.stopping stop
  | stopped => s.stopped
  | emergencyStopped => s.emergencyStopped

def name : Call κ → String
  | startConnecting .. => "start_connecting"
  | channelEstablished .. => "channel_established"
  | reconnectPlanned .. => "reconnect_planned"
  | connected .. => "connected"
  | nextPingPlanned .. => "next_ping_planned"
  | pongTimeoutPlanned .. => "pong_timeout_planned"
  | signedIn .. => "signed_in"
  | channelLost .. => "channel_lost"
  | stopping .. => "stopping"
  | stopped => "stopped"
  | emergencyStopped => "emergency_stopped"

/-- **The table of transitions**: the statuses from which a transition is allowed. -/
def sources : Call κ → List Status
  | startConnecting .. => [.stopped]
  | channelEstablished .. | reconnectPlanned .. | connected .. => [.connecting]
  | nextPingPlanned .. | pongTimeoutPlanned .. => [.connected, .signedIn]
  | signedIn .. => [.connected]
  | channelLost .. | stopping .. => [.connecting, .connected, .signedIn]
  | stopped => [.stopping]
  | emergencyStopped => [.connected, .signedIn, .stopping]

def starts : Call κ → Bool
  | startConnecting .. => true
  | _ => false

/-- The transition is the one to `connected`, which makes no channel. -/
def connects : Call κ → Bool
  | connected .. => true
  | _ => false

/-- The next snapshot; a call that fails keeps the one that is there. -/
def next (s : Snapshot κ) (c : Call κ) : Snapshot κ :=
  match c.apply s with
  | .ok s' => s'
  | .error _ => s

def walk (calls : List (Call κ)) : Snapshot κ := calls.foldl next .initial

end Call

/-! ### Snapshots that were reached -/

namespace Parts

/-- **The nullity contract**: what has to be there and what must not in each status. -/
def Contract (p : Parts κ) : Prop :=
  match p.status with
  | .stopped => p.start = none ∧ p.stop ≠ none ∧ p.channel = none ∧ p.login = none ∧
      p.reconnectTimer = none ∧ p.pingTimer = none ∧ p.pongTimer = none
  | .connecting => p.start ≠ none ∧ p.stop = none ∧ p.pingTimer = none ∧ p.pongTimer = none
  | .connected => p.start ≠ none ∧ p.stop = none ∧ p.channel ≠ none ∧ p.descriptor ≠ none
  | .signedIn =>
    p.start ≠ none ∧ p.stop = none ∧ p.channel ≠ none ∧ p.descriptor ≠ none ∧ p.login ≠ none
  | .stopping => p.start = none ∧ p.stop ≠ none ∧ p.descriptor ≠ none ∧ p.login = none

/-- The rules that are checked are the contract. -/
theorem obeys_iff_contract {p : Parts κ} : p.Obeys ↔ p.Contract := by
  unfold Contract
  split
  · next h => exact obeys_stopped h
  · next h => exact obeys_connecting h
  · next h => exact obeys_connected h
  · next h => exact obeys_signedIn h
  · next h => exact obeys_stopping h

/-- What the parts of a snapshot hold beyond the contract, given that the client was started before
or was not: a descriptor from the first start on, no timer while it stops, and the one of the ping
or the one of the pong while a server is there. -/
structure Kept (p : Parts κ) (started : Bool) : Prop where
  descriptor : p.descriptor ≠ none ↔ started = true
  begun : p.status ≠ .stopped → started = true
  stopping : p.status = .stopping → p.reconnectTimer = none ∧ p.pingTimer = none ∧
    p.pongTimer = none
  attached : p.status = .connected ∨ p.status = .signedIn →
    p.reconnectTimer = none ∧
      (p.pingTimer ≠ none ∧ p.pongTimer = none ∨ p.pingTimer = none ∧ p.pongTimer ≠ none)

theorem Kept.of_detached {p : Parts κ} {started : Bool}
    (h : p.status = .stopped ∨ p.status = .connecting)
    (hdescriptor : p.descriptor ≠ none ↔ started = true)
    (hbegun : p.status ≠ .stopped → started = true) :
    p.Kept started := by
  refine ⟨hdescriptor, hbegun, ?_, ?_⟩
  · intro hs
    rcases h with h | h <;> simp [h] at hs
  · intro hs
    rcases h with h | h <;> simp [h] at hs

theorem Kept.of_attached {p : Parts κ} {started : Bool}
    (h : p.status = .connected ∨ p.status = .signedIn)
    (hdescriptor : p.descriptor ≠ none ↔ started = true) (hbegun : started = true)
    (hreconnect : p.reconnectTimer = none)
    (hone : p.pingTimer ≠ none ∧ p.pongTimer = none ∨ p.pingTimer = none ∧ p.pongTimer ≠ none) :
    p.Kept started := by
  refine ⟨hdescriptor, fun _ => hbegun, ?_, fun _ => ⟨hreconnect, hone⟩⟩
  intro hs
  rcases h with h | h <;> simp [h] at hs

theorem Kept.begun_of_running {s : Snapshot κ} {started : Bool} (hk : s.parts.Kept started)
    (h : s.status = .connecting ∨ s.Attached) : started = true := by
  apply hk.begun
  rcases h with h | h
  · rw [show s.parts.status = .connecting from h]
    decide
  · exact h.ne_stopped

theorem kept_initial : (Snapshot.initial (κ := κ)).parts.Kept false :=
  .of_detached (.inl rfl) (by simp [Snapshot.initial]) (fun h => absurd rfl h)

end Parts

/-! ### One call -/

namespace Snapshot

variable {s : Snapshot κ} {p : Parts κ}

/-- Parts that break a rule make no snapshot, and the error has the words of the first one that is
broken. -/
theorem ofParts_of_violation {r : Rule κ} (h : p.violation? = some r) :
    ofParts p = .error (.invariant p.status r.message) := by
  unfold ofParts
  split
  · next hnone => simp [h] at hnone
  · next r' hr =>
    obtain rfl : r = r' := Option.some.inj (h.symm.trans hr)
    rfl

theorem ofParts_of_no_channel (hstatus : p.status = .connected) (hstart : p.start ≠ none)
    (hstop : p.stop = none) (hchannel : p.channel = none) :
    ofParts p = .error (.invariant .connected "channel must be present") := by
  have hbroken : p.violation? = some (Rule.present Parts.channel "channel") := by
    have hstarted : p.start.isSome = true := Option.isSome_iff_ne_none.2 hstart
    simp [Parts.violation?, hstatus, Rule.ofStatus, Rule.present, Rule.absent, hstarted,
      hstop, hchannel]
  rw [ofParts_of_violation hbroken, hstatus]
  rfl

theorem signals_of_running (h : s.status = .connecting ∨ s.Attached) :
    s.parts.start ≠ none ∧ s.parts.stop = none := by
  rcases h with h | h
  · obtain ⟨hstart, hstop, -⟩ := (Parts.obeys_connecting h).1 s.obeys
    exact ⟨hstart, hstop⟩
  · obtain ⟨hstart, hstop, -⟩ := attached_parts h
    exact ⟨hstart, hstop⟩

end Snapshot

namespace Call

variable {s s' : Snapshot κ} {c : Call κ} {p : Parts κ} {started : Bool}

/-- The parts that a call makes, if its transition is allowed: they break no rule unless the channel
is missing, and keep what is held beyond the rules. -/
structure Leads (c : Call κ) (s : Snapshot κ) (started : Bool) (p : Parts κ) : Prop where
  apply : c.apply s = s.step c.name c.sources p
  obeys : s.status ∈ c.sources → (c.connects = true → s.parts.channel ≠ none) → p.Obeys
  kept : s.status ∈ c.sources → p.Kept (c.starts || started)
  broken : s.status ∈ c.sources → c.connects = true → s.parts.channel = none →
    Snapshot.ofParts p = .error (.invariant .connected "channel must be present")

theorem Leads.of_plain (hc : c.connects = false) (happly : c.apply s = s.step c.name c.sources p)
    (h : s.status ∈ c.sources → p.Obeys ∧ p.Kept (c.starts || started)) : c.Leads s started p := by
  refine ⟨happly, fun hs _ => (h hs).1, fun hs => (h hs).2, ?_⟩
  intro _ hconnects
  simp [hc] at hconnects

theorem exists_leads (hk : s.parts.Kept started) (c : Call κ) : ∃ p, c.Leads s started p := by
  cases c with
  | startConnecting start provisional =>
    refine ⟨_, .of_plain rfl rfl fun _ => ⟨(Parts.obeys_connecting rfl).2 (by simp), ?_⟩⟩
    exact .of_detached (.inr rfl) (by simp [starts]) (by simp [starts])
  | channelEstablished channel =>
    refine ⟨_, .of_plain rfl rfl fun hs => ?_⟩
    have hstatus : s.parts.status = .connecting := List.mem_singleton.1 hs
    have hobeys := (Parts.obeys_connecting hstatus).1 s.obeys
    exact ⟨(Parts.obeys_connecting (by exact hstatus)).2 hobeys, .of_detached (.inr hstatus)
      hk.descriptor hk.begun⟩
  | reconnectPlanned timer =>
    refine ⟨_, .of_plain rfl rfl fun hs => ?_⟩
    have hstatus : s.parts.status = .connecting := List.mem_singleton.1 hs
    have hobeys := (Parts.obeys_connecting hstatus).1 s.obeys
    exact ⟨(Parts.obeys_connecting (by exact hstatus)).2 hobeys, .of_detached (.inr hstatus)
      hk.descriptor hk.begun⟩
  | connected descriptor ping =>
    have hsignals (hs : s.status ∈ [Status.connecting]) : s.parts.start ≠ none ∧
        s.parts.stop = none := Snapshot.signals_of_running (.inl (List.mem_singleton.1 hs))
    refine ⟨_, rfl, fun hs hchannel => ?_, fun hs => ?_, fun hs _ hchannel => ?_⟩
    · exact (Parts.obeys_connected rfl).2 ⟨(hsignals hs).1, (hsignals hs).2, hchannel rfl, by simp⟩
    · have hbegun : started = true := by
        apply hk.begun
        rw [show s.parts.status = .connecting from List.mem_singleton.1 hs]
        decide
      exact .of_attached (.inl rfl) (by simp [starts, hbegun]) hbegun rfl (.inl ⟨by simp, rfl⟩)
    · exact Snapshot.ofParts_of_no_channel rfl (hsignals hs).1 (hsignals hs).2 hchannel
  | nextPingPlanned timer =>
    refine ⟨_, .of_plain rfl rfl fun hs => ?_⟩
    have hattached : s.Attached := by simpa [sources, Snapshot.Attached] using hs
    exact ⟨Snapshot.obeys_of_attached hattached _ _, .of_attached hattached hk.descriptor
      (hk.begun hattached.ne_stopped) (hk.attached hattached).1 (.inl ⟨by simp, rfl⟩)⟩
  | pongTimeoutPlanned timer =>
    refine ⟨_, .of_plain rfl rfl fun hs => ?_⟩
    have hattached : s.Attached := by simpa [sources, Snapshot.Attached] using hs
    exact ⟨Snapshot.obeys_of_attached hattached _ _, .of_attached hattached hk.descriptor
      (hk.begun hattached.ne_stopped) (hk.attached hattached).1 (.inr ⟨rfl, by simp⟩)⟩
  | signedIn login =>
    refine ⟨_, .of_plain rfl rfl fun hs => ?_⟩
    have hattached : s.Attached := .inl (List.mem_singleton.1 hs)
    obtain ⟨hstart, hstop, hchannel, hdescriptor⟩ := Snapshot.attached_parts hattached
    obtain ⟨hreconnect, hone⟩ := hk.attached hattached
    exact ⟨(Parts.obeys_signedIn rfl).2 ⟨hstart, hstop, hchannel, hdescriptor, by simp⟩,
      .of_attached (.inr rfl) hk.descriptor (hk.begun hattached.ne_stopped) hreconnect hone⟩
  | channelLost timer =>
    refine ⟨_, .of_plain rfl rfl fun hs => ?_⟩
    have hrunning : s.status = .connecting ∨ s.Attached := by
      simpa [sources, Snapshot.Attached] using hs
    obtain ⟨hstart, hstop⟩ := Snapshot.signals_of_running hrunning
    exact ⟨(Parts.obeys_connecting rfl).2 ⟨hstart, hstop, rfl, rfl⟩,
      .of_detached (.inr rfl) hk.descriptor fun _ => hk.begun_of_running hrunning⟩
  | stopping stop =>
    refine ⟨_, .of_plain rfl rfl fun hs => ?_⟩
    have hrunning : s.status = .connecting ∨ s.Attached := by
      simpa [sources, Snapshot.Attached] using hs
    have hbegun := hk.begun_of_running hrunning
    exact ⟨(Parts.obeys_stopping rfl).2 ⟨rfl, by simp, hk.descriptor.2 hbegun, rfl⟩,
      hk.descriptor, fun _ => hbegun, fun _ => ⟨rfl, rfl, rfl⟩, by simp⟩
  | stopped =>
    refine ⟨_, .of_plain rfl rfl fun hs => ?_⟩
    have hstatus : s.parts.status = .stopping := List.mem_singleton.1 hs
    obtain ⟨hstart, hstop, -, hlogin⟩ := (Parts.obeys_stopping hstatus).1 s.obeys
    exact ⟨(Parts.obeys_stopped rfl).2 ⟨hstart, hstop, rfl, hlogin, hk.stopping hstatus⟩,
      .of_detached (.inl rfl) hk.descriptor fun h => absurd rfl h⟩
  | emergencyStopped =>
    refine ⟨_, .of_plain rfl rfl fun _ => ⟨(Parts.obeys_stopped rfl).2 (by simp), ?_⟩⟩
    exact .of_detached (.inl rfl) hk.descriptor fun h => absurd rfl h

/-! ### Any number of calls -/

/-- What becomes of a call on a snapshot that was reached. -/
inductive Outcome (c : Call κ) (s : Snapshot κ) (started : Bool) : Prop where
  /-- The transition is not allowed from the status. -/
  | refused (hs : s.status ∉ c.sources) (h : c.apply s = .error (.transition c.name s.status))
  /-- There is no channel to be connected. -/
  | broken (hs : s.status ∈ c.sources) (hconnects : c.connects = true)
      (hchannel : s.parts.channel = none)
    (h : c.apply s = .error (.invariant .connected "channel must be present"))
  | done (hs : s.status ∈ c.sources) (hchannel : c.connects = true → s.parts.channel ≠ none)
      (s' : Snapshot κ)
    (h : c.apply s = .ok s') (kept : s'.parts.Kept (c.starts || started))

theorem outcome (hk : s.parts.Kept started) (c : Call κ) : Outcome c s started := by
  obtain ⟨p, hp⟩ := exists_leads hk c
  by_cases hs : s.status ∈ c.sources
  · by_cases hchannel : c.connects = true → s.parts.channel ≠ none
    · obtain ⟨s', hs', hparts⟩ : ∃ s', s.step c.name c.sources p = .ok s' ∧ s'.parts = p :=
        Snapshot.step_of_obeys hs (hp.obeys hs hchannel)
      exact .done hs hchannel s' (hp.apply.trans hs') (hparts ▸ hp.kept hs)
    · obtain ⟨hconnects, hnone⟩ : c.connects = true ∧ s.parts.channel = none := by
        simpa using hchannel
      refine .broken hs hconnects hnone (hp.apply.trans ?_)
      rw [Snapshot.step, if_pos hs]
      exact hp.broken hs hconnects hnone
  · refine .refused hs (hp.apply.trans ?_)
    rw [Snapshot.step, if_neg hs]

theorem sources_of_starts (h : c.starts = true) : c.sources = [.stopped] ∧ c.connects = false := by
  cases c <;> simp_all [starts, sources, connects]

/-- What is held beyond the rules is kept by every call: a start that fails is not the first one. -/
theorem kept_next (hk : s.parts.Kept started) (c : Call κ) :
    (next s c).parts.Kept (c.starts || started) := by
  unfold next
  cases outcome hk c with
  | refused hs h =>
    rw [h]
    cases hstarts : c.starts with
    | false => exact hk
    | true =>
      have hbegun : started = true := by
        apply hk.begun
        intro hstopped
        rw [(sources_of_starts hstarts).1] at hs
        exact hs (List.mem_singleton.2 hstopped)
      rw [hbegun] at hk
      exact hk
  | broken hs hconnects hchannel h =>
    rw [h]
    cases hstarts : c.starts with
    | false => exact hk
    | true => simp [(sources_of_starts hstarts).2] at hconnects
  | done hs hchannel s' h kept =>
    rw [h]
    exact kept

theorem kept_foldl (hk : s.parts.Kept started) (calls : List (Call κ)) :
    (calls.foldl next s).parts.Kept (calls.any starts || started) := by
  induction calls generalizing s started with
  | nil => exact hk
  | cons c calls ih =>
    rw [List.foldl_cons, List.any_cons, Bool.or_comm c.starts, Bool.or_assoc]
    exact ih (kept_next hk c)

theorem kept_walk (calls : List (Call κ)) : (walk calls).parts.Kept (calls.any starts) := by
  have hk := kept_foldl Parts.kept_initial calls
  rwa [Bool.or_false] at hk

/-- **A call is judged by the table**: it succeeds if its transition is allowed from the status and
the client that is to be connected has a channel; it is refused as a transition from exactly the
other statuses; and it breaks a rule for want of a channel only. -/
structure Judged (c : Call κ) (s : Snapshot κ) : Prop where
  succeeds : (∃ s', c.apply s = .ok s') ↔ s.status ∈ c.sources ∧
    (c.connects = true → s.parts.channel ≠ none)
  refused : (∃ name status, c.apply s = .error (.transition name status)) ↔ s.status ∉ c.sources
  refusal : s.status ∉ c.sources → c.apply s = .error (.transition c.name s.status)
  broken : (∃ status words, c.apply s = .error (.invariant status words)) ↔
    s.status ∈ c.sources ∧ c.connects = true ∧ s.parts.channel = none
  words : ∀ status words, c.apply s = .error (.invariant status words) →
    status = .connected ∧ words = "channel must be present"

theorem Outcome.judged (h : Outcome c s started) : c.Judged s := by
  cases h with
  | refused hs h => refine ⟨?_, ?_, fun _ => h, ?_, ?_⟩ <;> simp [h, hs]
  | broken hs hconnects hchannel h =>
    refine ⟨?_, ?_, fun hn => absurd hs hn, ?_, ?_⟩ <;> simp_all
  | done hs hchannel s' h kept =>
    refine ⟨?_, ?_, fun hn => absurd hs hn, ?_, ?_⟩ <;> simp_all

/-- **Whatever transitions are called, in any order and with any arguments**: the snapshot that is
reached has what its status asks for and what is held beyond that, and the next call is judged by
the table. -/
theorem walk_judged (calls : List (Call κ)) :
    (walk calls).parts.Contract ∧ (walk calls).parts.Kept (calls.any starts) ∧
      ∀ c : Call κ, c.Judged (walk calls) :=
  ⟨Parts.obeys_iff_contract.1 (walk calls).obeys, kept_walk calls,
    fun c => (outcome (kept_walk calls) c).judged⟩

/-- A client that connects without a descriptor, which no walk leads to, cannot even stop. -/
example :
    let s : Snapshot Nat := ⟨{ status := .connecting, start := some .settled }, rfl⟩
    ¬ (stopping .settled).Judged s := by
  intro s h
  obtain ⟨s', hs'⟩ := h.succeeds.2 (by decide)
  have hbroken : (stopping .settled).apply s =
      .error (.invariant .stopping "descriptor must be present") := rfl
  simp [hbroken] at hs'

end Call

end DurableSession.Client
