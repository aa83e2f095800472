import DurableSession.Proofs.Server.Conduct

/-!
A channel carries one session.

A channel is closed in order to end the session that is bound to it, which must not cost another one
its channel. Main statements: `ends_of_closes`, whatever closes a channel, other than a kick and a
receiver that goes away, ends a session that is bound to it; and `unshared_of_run`, no channel whose
client answers its challenges is bound to two sessions. A client that is challenged and then signs
on otherwise has two: `shared_after_challenge`.
-/

namespace DurableSession.Server

open Lifecycle (SessionId Token Phase)
open Network (SocketAddress)

/-! ### What closes a channel -/

/-- A claim kicks the channel of the record that it displaces. -/
theorem Registry.displaced_of_claim {r r' : Registry} {closed : ChannelId → Bool} {now : Nat}
    {fresh : SessionId} {login : String} {c d : ChannelId} {remote : SocketAddress} (h : r.Indexed)
    (hf : r.record? fresh = none)
    (hc : r.claim closed now fresh login c remote = .ok (r', some d)) :
    ∃ old rec, r.record? old = some rec ∧ rec.channel = some d ∧ rec.reclaimable closed = true := by
  have hcl := claimed_of_claim h hf hc
  cases ho : r.ownerOf login with
  | none =>
    unfold claim at hc
    simp [ho] at hc
  | some old =>
    obtain ⟨rec, hold, -⟩ := h.backed login old ho
    exact ⟨old, rec, hold, (hcl.kicked old rec ho hold).symm, hcl.stale old rec ho hold⟩

namespace State

variable {minted : SessionId → Prop} {s : State} {op : Operation} {x : SessionId} {c : ChannelId}
  {rec : Record}

theorem closed_of_reclaimable (h : Coherent minted s) (hx : s.registry.record? x = some rec)
    (hc : rec.channel = some c) (hstale : rec.reclaimable s.closed = true) : s.closed c = true := by
  have hsettled := h.settled x rec hx
  unfold Record.Settled at hsettled
  unfold Record.reclaimable Record.unattended at hstale
  cases hstate : rec.state with
  | reusable => simp [hstate, hc] at hsettled
  | terminated => simp [hstate] at hsettled
  | _ => simpa [hstate, hc] using hstale

theorem closed_startSignon (h : Coherent minted s) {id : SignonId} {fresh : SessionId}
    (hf : s.registry.record? fresh = none) (hc : (s.perform (.start id fresh)).closed c = true) :
    s.closed c = true := by
  generalize hs' : s.perform (.start id fresh) = s' at hc
  have hstart : s.startSignon id fresh = s' := hs'
  unfold startSignon at hstart
  split at hstart
  · dsimp only at hstart
    split at hstart
    · rw [← hstart] at hc
      exact hc
    · next registry displaced hclaim =>
      rw [← hstart] at hc
      have hc : (s.channels.kickAll displaced.toList).isClosed c = true := hc
      rw [Channels.isClosed_kickAll, Bool.or_eq_true] at hc
      refine hc.elim (fun hc => hc) fun hmem => ?_
      obtain rfl : displaced = some c := by simpa using hmem
      obtain ⟨old, rec, hold, hbound, hstale⟩ := Registry.displaced_of_claim h.index hf hclaim
      exact closed_of_reclaimable h hold hbound hstale
  · dsimp only at hstart
    split at hstart
    · rw [← hstart] at hc
      exact hc
    · rw [← hstart] at hc
      exact hc
  · rw [← hstart] at hc
    exact hc

/-- Kicking out sessions closes the channels that they are bound to, and no others. -/
theorem bound_of_kickoutEach {l : List SessionId} (hopen : s.closed c = false)
    (hc : (s.kickoutEach l).2.closed c = true) :
    ∃ x ∈ l, ∃ rec, s.registry.record? x = some rec ∧ rec.channel = some c := by
  induction l generalizing s with
  | nil => simp [hopen] at hc
  | cons y l ih =>
    rw [kickoutEach_cons] at hc
    cases hy : (s.kickout y).2.closed c with
    | false =>
      obtain ⟨x, hx, rec, hrec, hbound⟩ := ih hy hc
      rw [record?_kickout] at hrec
      split at hrec
      · simp at hrec
      · exact ⟨x, List.mem_cons_of_mem _ hx, rec, hrec, hbound⟩
    | true =>
      have hkick :
          (s.channels.kickAll ((s.registry.record? y).bind Record.channel).toList).isClosed c =
            true := by
        rw [← channels_kickout]
        exact hy
      rw [Channels.isClosed_kickAll, show s.channels.isClosed c = false from hopen, Bool.false_or,
        decide_eq_true_eq, Option.mem_toList, Option.bind_eq_some_iff] at hkick
      obtain ⟨rec, hrec, hbound⟩ := hkick
      exact ⟨y, List.mem_cons_self, rec, hrec, hbound⟩

/-- **Whatever closes a channel**, other than a kick and a receiver that goes away, ends a session
that is bound to it. -/
theorem ends_of_closes (h : Coherent minted s) (hf : ∀ x ∈ op.mints?, ¬ minted x)
    (hopen : s.closed c = false) (hclosed : (s.perform op).closed c = true) (hkick : op ≠ .kick c)
    (habandon : op ≠ .abandon c) :
    ∃ x rec, s.registry.record? x = some rec ∧ rec.channel = some c ∧
      (s.perform op).registry.record? x = none := by
  have hopen' : s.channels.isClosed c = false := hopen
  have hsame (heq : (s.perform op).channels = s.channels) : s.closed c = true := by
    unfold closed at hclosed ⊢
    rw [← heq]
    exact hclosed
  cases op with
  | openChannel d remote capacity =>
    have hclosed : Channels.isClosed (s.channels.insert d { remote, capacity }) c = true := hclosed
    rw [Channels.isClosed_insert, hopen'] at hclosed
    split at hclosed <;> simp [Channel.isClosed] at hclosed
  | kick d =>
    have hclosed : (s.channels.kick d).isClosed c = true := hclosed
    rw [Channels.isClosed_kick, hopen', Bool.false_or, decide_eq_true_eq] at hclosed
    exact absurd (congrArg Operation.kick hclosed) hkick
  | abandon d =>
    have hclosed : Channels.isClosed (s.channels.modify d Channel.abandon) c = true := hclosed
    rw [Channels.isClosed_modify (fun ch => by simp [Channel.abandon, Channel.isClosed]), hopen',
      Bool.false_or, decide_eq_true_eq] at hclosed
    exact absurd (congrArg Operation.abandon hclosed) habandon
  | start id fresh =>
    have hc := closed_startSignon h (h.record?_fresh hf fresh rfl) hclosed
    simp [hc] at hopen
  | answerPrimary id verdict fresh =>
    simp [hsame channels_answerPrimary] at hopen
  | answerSecondary id verified =>
    simp [hsame channels_answerSecondary] at hopen
  | kickout y =>
    obtain ⟨x, hx, rec, hrec, hbound⟩ := bound_of_kickoutEach (l := [y]) hopen hclosed
    obtain rfl := List.mem_singleton.1 hx
    exact ⟨x, rec, hrec, hbound, record?_kickout.trans (if_pos rfl)⟩
  | kickoutAll =>
    obtain ⟨x, -, rec, hrec, hbound⟩ := bound_of_kickoutEach hopen hclosed
    exact ⟨x, rec, hrec, hbound, record?_kickoutAll⟩
  | sweep =>
    have hclosed : (s.channels.kickAll (s.registry.sweep s.closed s.window s.now).2.2).isClosed c =
        true := hclosed
    rw [Channels.isClosed_kickAll, hopen', Bool.false_or, decide_eq_true_eq,
      Registry.mem_sweep_snd h.index.named] at hclosed
    obtain ⟨x, rec, hrec, hstale, hbound⟩ := hclosed
    refine ⟨x, rec, hrec, hbound, (Registry.record?_sweep h.index.named).trans ?_⟩
    rw [hrec, Option.bind_some, Registry.sweptRecord, if_pos hstale]
  | unregister y d =>
    obtain ⟨routes, hr⟩ := s.perform_unregister y d
    simp [hsame (by rw [hr])] at hopen
  | _ => simp [hsame rfl] at hopen

end State

/-! ### One session for a channel -/

/-- **A channel is not shared**: at most one record is bound to it, and an operation that closes it
to end a session does not take it from another one. -/
structure Gatehouse.Unshared (history : List Operation) (h : Gatehouse) (c : ChannelId) : Prop where
  alone : ∀ x y rec rec', h.state.registry.record? x = some rec →
    h.state.registry.record? y = some rec' → rec.channel = some c → rec'.channel = some c → x = y
  spared : ∀ op, op.Admissible history h.state → op ≠ .kick c → op ≠ .abandon c →
    h.state.closed c = false →
    (h.state.perform op).closed c = true →
    ∀ x rec, (h.state.perform op).registry.record? x = some rec → rec.channel ≠ some c

theorem Tenancy.alone {window : Nat} {ops : List Operation} {c : ChannelId} {stand : Stand}
    (hr : Run window ops) (ht : Tenancy (stateAfter window ops) c stand) {x y : SessionId}
    {rec rec' : Record} (hx : (stateAfter window ops).registry.record? x = some rec)
    (hc : rec.channel = some c) (hy : (stateAfter window ops).registry.record? y = some rec')
    (hc' : rec'.channel = some c) : x = y := by
  have hadmits := ht.bound x rec hx hc
  have hadmits' := ht.bound y rec' hy hc'
  cases stand with
  | idle => exact hadmits.elim
  | carrying z => exact hadmits.symm.trans hadmits'
  | challenged t => exact eq_of_token hr hx hy hadmits hadmits'
  | trying id =>
    obtain ⟨⟨a, p⟩, hid, hv⟩ := hadmits
    obtain ⟨sg, hid', hv'⟩ := hadmits'
    obtain rfl := Option.some.inj (hid.symm.trans hid')
    cases p with
    | spawned =>
      obtain ⟨t, hat, hstate⟩ := hv
      obtain ⟨t', hat', hstate'⟩ := hv'
      obtain rfl := Option.some.inj (hat.symm.trans hat')
      exact eq_of_token hr hx hy hstate hstate'
    | asking z login => exact hv.symm.trans hv'
    | decided o =>
      cases o with
      | accepted z login => exact hv.symm.trans hv'
      | needsSecondary t => exact eq_of_token hr hx hy hv hv'
      | denied failure => exact hv.elim

/-- An operation that closes a channel leaves nothing bound to it, if at most one record was. -/
theorem unbound_of_closes {minted : SessionId → Prop} {s : State} {op : Operation} {c : ChannelId}
    (h : Coherent minted s) (hf : ∀ x ∈ op.mints?, ¬ minted x)
    (halone : ∀ x y rec rec', s.registry.record? x = some rec → s.registry.record? y = some rec' →
      rec.channel = some c → rec'.channel = some c → x = y)
    (hopen : s.closed c = false) (hclosed : (s.perform op).closed c = true) (hkick : op ≠ .kick c)
    (habandon : op ≠ .abandon c) {y : SessionId} {rec : Record}
    (hy : (s.perform op).registry.record? y = some rec) : rec.channel ≠ some c := by
  intro hc
  obtain ⟨x, old, hx, hbound, hgone⟩ := State.ends_of_closes h hf hopen hclosed hkick habandon
  -- a record that was bound to the channel before is the one that has gone
  have hstays (before : Record) (hb : s.registry.record? y = some before)
      (hc : before.channel = some c) : False := by
    obtain rfl := halone x y old before hx hb hbound hc
    simp [hgone] at hy
  have hfate := h.fate hf y
  rw [hy] at hfate
  generalize ho : s.registry.record? y = o at hfate
  cases hfate with
  | kept => exact hstays rec ho hc
  | minted signon =>
    have hnew := h.record?_fresh hf _ rfl
    simp [State.closed_startSignon h hnew hclosed] at hopen
  | resumed free => simp [show s.closed c = true from hclosed] at hopen
  | disconnected state why => simp [Record.disconnect] at hc
  | _ => exact hstays _ ho hc

/-- **One session for a channel**, as long as its client gives the code that it is asked for before
it wants anything else. -/
theorem unshared_of_run {window : Nat} {events : List Event} {c : ChannelId}
    (h : Gatehouse.Run window events)
    (ho : Gatehouse.Always (Gatehouse.Orderly c) { state := { window } } events) :
    (Gatehouse.after window events).Unshared (Gatehouse.performed window events) c := by
  obtain ⟨stand, hs⟩ := standing_of_run h ho
  obtain ⟨hrun, hstate⟩ := Gatehouse.run_performed h
  have htenancy := hs.tenancy
  have hcoherent := coherent_of_run hrun
  rw [hstate] at htenancy
  rw [← hstate] at hcoherent
  have halone : ∀ x y rec rec', (Gatehouse.after window events).state.registry.record? x =
    some rec →
      (Gatehouse.after window events).state.registry.record? y = some rec' → rec.channel = some c →
      rec'.channel = some c → x = y := by
    rw [hstate]
    exact fun x y rec rec' hx hy hc hc' => htenancy.alone hrun hx hc hy hc'
  exact
    { alone := halone
      spared := fun op ha hkick habandon hopen hclosed x rec hx =>
        unbound_of_closes hcoherent ha.2.1 halone hopen hclosed hkick habandon hx }

set_option maxRecDepth 20000 in
/-- Carol gives the code that she is asked for, and her channel carries one session. -/
theorem unshared_after_answer :
    (Gatehouse.after 10 (Sample.challenge ++ Sample.answer)).Unshared
        (Gatehouse.performed 10 (Sample.challenge ++ Sample.answer)) Sample.client ∧
      (Gatehouse.after 10 (Sample.challenge ++ Sample.answer)).Carries Sample.client
        Sample.session := by
  have h : Gatehouse.Run 10 (Sample.challenge ++ Sample.answer) := by decide +kernel
  refine ⟨unshared_of_run h (by decide +kernel),
    ⟨⟨Sample.client, true, .active Sample.session, false⟩, none⟩, ?_⟩
  decide +kernel

/-- Carol does not give the code, but signs on under another login, which takes no code, and
waits. -/
def Sample.change : List Event :=
  Sample.challenge ++
    [.text client ⟨1⟩ (Phase.encode (.signonAttempt "alice" ⟨"secret"⟩)),
      .elsewhere (.start ⟨1⟩ otherSession),
      .elsewhere (.answerPrimary ⟨1⟩ .accepted otherToken), .outcome client,
      .elsewhere (.advance 11)]

/-- The record of the session that she has got. -/
def Sample.changed : Record := ⟨otherSession, "alice", .active, some client, address, 0, 0⟩

set_option maxRecDepth 20000 in
/-- Two sessions are bound to her channel then, and when a sweep ends the one that was challenged,
it closes the channel that the other one uses. -/
theorem shared_after_challenge :
    Gatehouse.Run 10 Sample.change ∧
      (Gatehouse.after 10 Sample.change).Carries Sample.client Sample.otherSession ∧
      (Gatehouse.after 10 Sample.change).state.registry.record? Sample.session =
        some Sample.awaiting ∧
      (Gatehouse.after 10 Sample.change).state.registry.record? Sample.otherSession =
        some Sample.changed ∧
      Sample.awaiting.channel = some Sample.client ∧ Sample.changed.channel = some Sample.client ∧
      ((Gatehouse.after 10 Sample.change).state.perform .sweep).closed Sample.client = true ∧
      ((Gatehouse.after 10 Sample.change).state.perform .sweep).registry.record?
        Sample.otherSession =
        some Sample.changed := by
  refine ⟨by decide +kernel, ⟨⟨⟨Sample.client, true, .active Sample.otherSession, false⟩, none⟩,
    ?_⟩, ?_⟩
  · decide +kernel
  · decide +kernel

end DurableSession.Server
