import DurableSession.Proofs.Server.Resumption

/-!
Sweeping collects everything that is dead.

A sweep looks at four kinds of records, each with a clock of its own: a session that waits is
measured from when it was last active, a signon from its beginning, a terminated record not at all,
and an active session whose channel is gone only starts to wait. Between two sweeps that are further
apart than the window every clock runs out. Main statements: `sweepsUp` says what one sweep removes,
counts and kicks; `Between.perform` says what a record is on its way from one sweep to the next; and
`collected_of_sweeps` says what is left after the second one.
-/

namespace DurableSession.Server

open Lifecycle (SessionId)

/-! ### One sweep -/

/-- What a sweep destroys are the sessions that are gone after it, in their order. -/
theorem Registry.staleSessions_eq {r : Registry} {closed : ChannelId → Bool} {window now : Nat}
    (named : ∀ x rec, r.record? x = some rec → rec.session = x) :
    r.staleSessions window now =
      r.sessions.keys.filter fun x => ((r.sweep closed window now).2.1.record? x).isNone := by
  have hentry (e : SessionId × Record) (he : e ∈ r.sessions.entries) : r.record? e.1 = some e.2 :=
    Table.mem_entries.1 he
  unfold staleSessions records Table.values Table.keys
  rw [List.filter_map, List.filter_map, List.map_map]
  have hstale (e : SessionId × Record) (he : e ∈ r.sessions.entries) :
      isStale window now e.2 = ((r.sweep closed window now).2.1.record? e.1).isNone := by
    rw [record?_sweep named, hentry e he, Option.bind_some, sweptRecord]
    split
    · next h => exact h
    · next h => simpa using h
  have hfilter : r.sessions.entries.filter (isStale window now ∘ Prod.snd) =
      r.sessions.entries.filter
        ((fun x => ((r.sweep closed window now).2.1.record? x).isNone) ∘ Prod.fst) :=
    List.filter_congr hstale
  rw [hfilter]
  exact List.map_congr_left fun e he => named e.1 e.2 (hentry e (List.mem_filter.1 he).1)

theorem Registry.isStale_of_pending {rec : Record} {window now : Nat}
    (h : rec.state.isPending = true) :
    isStale window now rec = rec.overdue window now := by
  unfold isStale
  cases hstate : rec.state with
  | pendingPrimary => rfl
  | pendingSecondary t => rfl
  | _ => simp [hstate, RecordState.isPending] at h

namespace State

/-- The sessions that have a record in the first state and none in the second. -/
def lost (s s' : State) : List SessionId :=
  s.registry.sessions.keys.filter fun x => (s'.registry.record? x).isNone

/-- A sweep kicks a channel that was open. -/
def Kicks (s : State) (c : ChannelId) : Prop := s.closed c = false ∧ s.sweep.2.isKicked c = true

/-- **One sweep**: it answers with the number of records that it removes, none of which is active,
and the channels that it kicks are those that they are bound to. -/
structure SweepsUp (s : State) : Prop where
  answer : s.sweep.1 = (s.lost s.sweep.2).length
  spared : ∀ x rec, s.registry.record? x = some rec → rec.state = .active → x ∉ s.lost s.sweep.2
  kicked : ∀ c, s.sweep.2.isKicked c = true ↔ s.isKicked c = true ∨
    ∃ x ∈ s.lost s.sweep.2, ∃ rec, s.registry.record? x = some rec ∧ rec.channel = some c

variable {s : State} {x : SessionId} {c : ChannelId} {rec : Record}

theorem record?_sweep (hi : s.registry.Indexed) :
    s.sweep.2.registry.record? x =
      (s.registry.record? x).bind (Registry.sweptRecord s.closed s.window s.now) :=
  Registry.record?_sweep hi.named

theorem mem_lost_sweep (hi : s.registry.Indexed) (hx : s.registry.record? x = some rec) :
    x ∈ s.lost s.sweep.2 ↔ Registry.isStale s.window s.now rec = true := by
  have hstale : s.registry.staleSessions s.window s.now = s.lost s.sweep.2 :=
    Registry.staleSessions_eq hi.named
  rw [← hstale, Registry.mem_staleSessions hi.named]
  simp [hx]

theorem isKicked_sweep :
    s.sweep.2.isKicked c = true ↔ s.isKicked c = true ∨
      s.Known c ∧ c ∈ (s.registry.sweep s.closed s.window s.now).2.2 := by
  unfold isKicked Known
  rw [channels_sweep, Channels.find?_kickAll]
  cases s.channels.find? c with
  | none => simp
  | some ch =>
    split
    · next hc => simp [hc, Channel.kick]
    · next hc => simp [hc]

theorem closed_sweep (hc : s.sweep.2.closed c = true) (hk : s.Known c) :
    s.closed c = true ∨ s.Kicks c := by
  cases hopen : s.closed c with
  | true => exact .inl rfl
  | false =>
    refine .inr ⟨hopen, isKicked_sweep.2 (.inr ⟨hk, ?_⟩)⟩
    have hopen : s.channels.isClosed c = false := hopen
    unfold closed at hc
    rw [channels_sweep, Channels.isClosed_kickAll, hopen] at hc
    simpa using hc

theorem sweepsUp {minted : SessionId → Prop} (h : Coherent minted s) : s.SweepsUp where
  answer := congrArg List.length (Registry.staleSessions_eq h.index.named)
  spared x rec hx hactive := by
    rw [mem_lost_sweep h.index hx]
    simp [Registry.isStale, hactive]
  kicked c := by
    rw [isKicked_sweep, Registry.mem_sweep_snd h.index.named]
    refine or_congr_right ⟨?_, ?_⟩
    · rintro ⟨-, x, rec, hx, hstale, hc⟩
      exact ⟨x, (mem_lost_sweep h.index hx).2 hstale, rec, hx, hc⟩
    · rintro ⟨x, hlost, rec, hx, hc⟩
      exact ⟨h.bound x rec c hx hc, x, rec, hx, (mem_lost_sweep h.index hx).1 hlost, hc⟩

end State

/-! ### Clocks -/

/-- No record has a time that is still to come. -/
def State.Dated (s : State) : Prop :=
  ∀ x rec, s.registry.record? x = some rec → rec.createdAt ≤ s.now ∧ rec.lastActiveAt ≤ s.now

theorem State.Dated.perform {minted : SessionId → Prop} {s : State} {op : Operation} (hd : s.Dated)
    (h : Coherent minted s) (hf : ∀ x ∈ op.mints?, ¬ minted x) : (s.perform op).Dated := by
  intro x rec hx
  have ⟨_, hnow⟩ : (s.perform op).window = s.window ∧ s.now ≤ (s.perform op).now :=
    State.clock_perform
  have hfate := h.fate hf x
  rw [hx] at hfate
  generalize ho : s.registry.record? x = o at hfate
  cases hfate with
  | kept => exact ⟨Nat.le_trans (hd x rec ho).1 hnow, Nat.le_trans (hd x rec ho).2 hnow⟩
  | minted => exact ⟨hnow, hnow⟩
  | challenged => exact ⟨Nat.le_trans (hd x _ ho).1 hnow, Nat.le_trans (hd x _ ho).2 hnow⟩
  | accepted => exact ⟨Nat.le_trans (hd x _ ho).1 hnow, hnow⟩
  | verified => exact ⟨Nat.le_trans (hd x _ ho).1 hnow, hnow⟩
  | resumed => exact ⟨Nat.le_trans (hd x _ ho).1 hnow, hnow⟩
  | disconnected => exact ⟨Nat.le_trans (hd x _ ho).1 hnow, hnow⟩

theorem dated_of_run {window : Nat} {ops : List Operation} (h : Run window ops) :
    (stateAfter window ops).Dated := by
  induction h with
  | nil => simp [State.Dated, Registry.record?]
  | snoc hr ha ih =>
    rw [stateAfter_snoc]
    exact ih.perform (coherent_of_run hr) ha.2.1

/-! ### From one sweep to the next -/

/-- The session that an operation resumes. -/
def Operation.resumes? : Operation → Option SessionId
  | reuse x _ => some x
  | _ => none

/-- **A calm operation**: no sweep, no report of the end of a channel and no resumption; no login is
claimed, and no channel dies. -/
structure Operation.Calm (s : State) (op : Operation) : Prop where
  unswept : op ≠ .sweep
  unreported : op.reports? = none
  unresumed : op.resumes? = none
  unclaimed : ∀ x ∈ op.mints?, (s.perform op).registry.record? x = none
  alive : ∀ c ∈ s.channels.keys, s.closed c = false → (s.perform op).closed c = false

instance (s : State) (op : Operation) : Decidable (op.Calm s) :=
  decidable_of_iff
    (op ≠ .sweep ∧ op.reports? = none ∧ op.resumes? = none ∧
      (∀ x ∈ op.mints?, (s.perform op).registry.record? x = none) ∧
      ∀ c ∈ s.channels.keys, s.closed c = false → (s.perform op).closed c = false)
    ⟨fun ⟨h₁, h₂, h₃, h₄, h₅⟩ => ⟨h₁, h₂, h₃, h₄, h₅⟩, fun h => ⟨h.1, h.2, h.3, h.4, h.5⟩⟩

/-- An open channel is known, so that calm operations leave it open. -/
theorem Operation.Calm.open {s : State} {op : Operation} (h : op.Calm s) {c : ChannelId}
    (hc : s.closed c = false) :
    (s.perform op).closed c = false := by
  refine h.alive c ?_ hc
  cases hfind : s.channels.find? c with
  | none => simp [State.closed, Channels.isClosed, hfind] at hc
  | some ch => exact Table.mem_keys.2 ⟨ch, hfind⟩

/-- What a record can be between a sweep, in the state `first`, and the next one. -/
inductive Between (first s : State) (rec : Record) : Prop where
  | pending (state : rec.state.isPending = true) (old : rec.createdAt ≤ first.now)
  | waiting (state : rec.state = .reusable) (old : rec.lastActiveAt ≤ first.now)
  | attended {c : ChannelId} (state : rec.state = .active) (bound : rec.channel = some c)
      (alive : s.closed c = false)
  | kicked {c : ChannelId} (state : rec.state = .active) (bound : rec.channel = some c)
      (kicked : first.Kicks c)

namespace Between

variable {first s : State} {op : Operation} {rec : Record} {x : SessionId}

/-- After the first sweep: what it left had not run out, and an active session without channel has
started to wait. -/
theorem of_sweep {minted : SessionId → Prop} (h : Coherent minted first) (hd : first.Dated)
    (hx : first.sweep.2.registry.record? x = some rec) : Between first first.sweep.2 rec := by
  rw [State.record?_sweep h.index] at hx
  obtain ⟨rec₀, hx₀, hswept⟩ := Option.bind_eq_some_iff.1 hx
  obtain ⟨hcreated, hactive⟩ := hd x rec₀ hx₀
  have hsettled := h.settled x rec₀ hx₀
  unfold Registry.sweptRecord at hswept
  split at hswept
  · simp at hswept
  · obtain rfl := Option.some.inj hswept
    unfold Registry.refreshed
    split
    · exact .waiting rfl (Nat.le_refl _)
    · next hkept =>
      cases hstate : rec₀.state with
      | pendingPrimary => exact .pending (by rw [hstate]; rfl) hcreated
      | pendingSecondary t => exact .pending (by rw [hstate]; rfl) hcreated
      | reusable => exact .waiting hstate hactive
      | terminated => exact absurd hstate hsettled.present
      | active =>
        obtain ⟨c, hc⟩ := hsettled.attended (.inr hstate)
        have hopen : first.closed c = false := by
          simpa [hstate, Record.unattended, hc] using hkept
        cases hclosed : first.sweep.2.closed c with
        | false => exact .attended hstate hc hclosed
        | true =>
          rcases State.closed_sweep hclosed (h.bound x rec₀ c hx₀ hc) with hc' | hkicks
          · simp [hopen] at hc'
          · exact .kicked hstate hc hkicks

theorem mono (hb : Between first s rec) (hcalm : op.Calm s) : Between first (s.perform op) rec := by
  cases hb with
  | pending state old => exact .pending state old
  | waiting state old => exact .waiting state old
  | attended state bound alive => exact .attended state bound (hcalm.open alive)
  | kicked state bound kicked => exact .kicked state bound kicked

/-- **A calm operation** moves a record only on: from its signon's beginning to the challenge, and
from there, on a channel that is open, to an active session. -/
theorem perform {minted : SessionId → Prop} (h : Coherent minted s)
    (hf : ∀ x ∈ op.mints?, ¬ minted x) (hcalm : op.Calm s)
    (hb : ∀ x rec, s.registry.record? x = some rec → Between first s rec)
    (hx : (s.perform op).registry.record? x = some rec) : Between first (s.perform op) rec := by
  have hfate := h.fate hf x
  rw [hx] at hfate
  generalize ho : s.registry.record? x = o at hfate
  cases hfate with
  | kept => exact (hb x rec ho).mono hcalm
  | minted =>
    have hnone := hcalm.unclaimed x rfl
    rw [hx] at hnone
    simp at hnone
  | challenged signon state =>
    cases hb x _ ho with
    | pending _ old => exact .pending rfl old
    | waiting state' => simp [state] at state'
    | attended state' => simp [state] at state'
    | kicked state' => simp [state] at state'
  | accepted signon state attended =>
    obtain ⟨-, bound, -⟩ := h.asking _ _ _ _ _ signon ho
    exact .attended rfl bound (hcalm.open attended)
  | verified signon state attended =>
    obtain ⟨-, bound, -⟩ := h.asking _ _ _ _ _ signon ho
    exact .attended rfl bound (hcalm.open attended)
  | resumed => simpa [Operation.resumes?] using hcalm.unresumed
  | disconnected state why =>
    cases why with
    | closed => simpa [Operation.reports?] using hcalm.unreported
    | released => simpa [Operation.reports?] using hcalm.unreported
    | swept => exact absurd rfl hcalm.unswept

theorem follow {history wait : List Operation} (h : Coherent (Minted history) s)
    (hf : Follow history s wait) (hcalm : Throughout (fun s op => op.Calm s) s wait)
    (hb : ∀ x rec, s.registry.record? x = some rec → Between first s rec)
    (hx : (s.performAll wait).registry.record? x = some rec) :
    Between first (s.performAll wait) rec := by
  induction wait generalizing s history with
  | nil => exact hb x rec hx
  | cons op wait ih =>
    exact ih (h.step hf.1) hf.2 hcalm.2 (fun x rec hx => perform h hf.1.2.1 hcalm.1 hb hx) hx

end Between

/-! ### After the second sweep -/

/-- **What two sweeps collect**, made in the states `first` and `second`. Of the records that are
left none is pending, and all are active on channels that are open, unless one of the sweeps kicked
their channel. -/
structure Collected (first second : State) : Prop where
  settled : ∀ x rec, second.sweep.2.registry.record? x = some rec → rec.state.isPending = false
  attended : ∀ x rec, second.sweep.2.registry.record? x = some rec →
    (rec.state = .active ∧ ∃ c, rec.channel = some c ∧ second.sweep.2.closed c = false) ∨
      ∃ rec' c, second.registry.record? x = some rec' ∧ rec'.channel = some c ∧
        (first.Kicks c ∨ second.Kicks c)
  owned : ∀ login x, second.sweep.2.registry.ownerOf login = some x →
    ∃ rec, second.sweep.2.registry.record? x = some rec ∧ rec.login = login
  sweeps : first.SweepsUp ∧ second.SweepsUp

/-- What a later sweep leaves was active before it, on a channel that was open or that the first
sweep had kicked. -/
theorem Between.active_of_sweep {first s : State} {x : SessionId} {rec' : Record}
    (hi : s.registry.Indexed) (hb : ∀ x rec, s.registry.record? x = some rec → Between first s rec)
    (hlong : first.now + s.window < s.now) (hx' : s.sweep.2.registry.record? x = some rec') :
    ∃ rec c, s.registry.record? x = some rec ∧ rec.state = .active ∧ rec.channel = some c ∧
      rec' = Registry.refreshed s.closed s.now rec ∧ (s.closed c = false ∨ first.Kicks c) := by
  rw [State.record?_sweep hi] at hx'
  obtain ⟨rec, hx, hswept⟩ := Option.bind_eq_some_iff.1 hx'
  unfold Registry.sweptRecord at hswept
  split at hswept
  · simp at hswept
  · next hfresh =>
    have hrec' := (Option.some.inj hswept).symm
    cases hb x rec hx with
    | pending state old =>
      refine absurd ?_ hfresh
      rw [Registry.isStale_of_pending state, Record.overdue, decide_eq_true_eq]
      omega
    | waiting state old =>
      refine absurd ?_ hfresh
      simp only [Registry.isStale, state, Record.inactive, decide_eq_true_eq]
      omega
    | attended state bound alive => exact ⟨rec, _, hx, state, bound, hrec', .inl alive⟩
    | kicked state bound kicked => exact ⟨rec, _, hx, state, bound, hrec', .inr kicked⟩

theorem Collected.of_between {minted : SessionId → Prop} {first second : State}
    (h : Coherent minted second) (hfirst : first.SweepsUp)
    (hb : ∀ x rec, second.registry.record? x = some rec → Between first second rec)
    (hlong : first.now + second.window < second.now) : Collected first second where
  settled x rec hx := by
    obtain ⟨rec₀, c, hx₀, hactive, hc, rfl, -⟩ := Between.active_of_sweep h.index hb hlong hx
    unfold Registry.refreshed
    split
    · rfl
    · rw [hactive]
      rfl
  attended x rec hx := by
    obtain ⟨rec₀, c, hx₀, hactive, hc, rfl, hopen | hkicks⟩ :=
      Between.active_of_sweep h.index hb hlong hx
    · have hkept : Registry.refreshed second.closed second.now rec₀ = rec₀ :=
        if_neg (by simp [Record.unattended, hc, hopen])
      rw [hkept]
      cases hclosed : second.sweep.2.closed c with
      | false => exact .inl ⟨hactive, c, hc, hclosed⟩
      | true =>
        rcases State.closed_sweep hclosed (h.bound x rec₀ c hx₀ hc) with hclosed | hkicks
        · simp [hopen] at hclosed
        · exact .inr ⟨rec₀, c, hx₀, hc, .inr hkicks⟩
    · exact .inr ⟨rec₀, c, hx₀, hc, .inl hkicks⟩
  owned := (h.index.sweep).backed
  sweeps := ⟨hfirst, State.sweepsUp h⟩

/-- **Everything dead is collected** by two sweeps that are further apart than the window, if
between them no login is claimed, no session is resumed or closed, and no channel dies. -/
theorem collected_of_sweeps {window : Nat} {ops wait : List Operation}
    (h : Run window (ops ++ .sweep :: wait))
    (hcalm : Throughout (fun s op => op.Calm s) (stateAfter window (ops ++ [.sweep])) wait)
    (hlong : (stateAfter window ops).now + window <
      (stateAfter window (ops ++ .sweep :: wait)).now) :
    Collected (stateAfter window ops) (stateAfter window (ops ++ .sweep :: wait)) := by
  have hops := coherent_of_run h.of_append
  have hwindow : (stateAfter window (ops ++ .sweep :: wait)).window = window :=
    State.clock_performAll.1
  refine Collected.of_between (coherent_of_run h) (State.sweepsUp hops) (fun x rec hx => ?_)
    (by rwa [hwindow])
  have hdated := dated_of_run h.of_append
  rw [List.append_cons] at h hx ⊢
  obtain ⟨hrun, hf⟩ := Run.append_iff.1 h
  rw [stateAfter_append] at hx ⊢
  refine Between.follow (coherent_of_run hrun) hf hcalm (fun y rec hy => ?_) hx
  rw [stateAfter_snoc] at hy ⊢
  exact Between.of_sweep hops hdated hy

/-- Alice begins to sign on, on another channel, while Carol's session is active. -/
def Sample.begun : List Operation :=
  signon ++ [.openChannel otherClient address 8,
    .spawn ⟨2⟩ (.primary "alice" ⟨"secret"⟩ otherClient), .start ⟨2⟩ thirdSession]

/-- She is asked for a second factor and does not answer for longer than the window. -/
def Sample.hesitation :
    List Operation := [.answerPrimary ⟨2⟩ .needsSecondary otherToken, .advance 11]

set_option maxRecDepth 20000 in
/-- Alice's signon is collected, her channel kicked, and Carol's session left. -/
theorem collected_hesitant :
    Run 10 (Sample.begun ++ .sweep :: Sample.hesitation) ∧
      Collected (stateAfter 10 Sample.begun)
        (stateAfter 10 (Sample.begun ++ .sweep :: Sample.hesitation)) ∧
      (stateAfter 10 (Sample.begun ++ .sweep :: Sample.hesitation)).sweep.1 = 1 ∧
      (stateAfter 10 (Sample.begun ++ .sweep :: Sample.hesitation)).Kicks Sample.otherClient := by
  have h : Run 10 (Sample.begun ++ .sweep :: Sample.hesitation) := by decide +kernel
  refine ⟨h, collected_of_sweeps h (by decide +kernel) (by decide +kernel), by decide +kernel, ?_⟩
  exact ⟨by decide +kernel, by decide +kernel⟩

end DurableSession.Server
