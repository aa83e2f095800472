import DurableSession.Proofs.Registry.Index
import DurableSession.Proofs.Server.Closedness

/-!
What one operation does to the record of one session, and why.

Main statement: `fate`, which says everything an operation can do to a record; what is claimed of
records in a run follows from it. It rests on the index, and on fresh names for new sessions.
-/

namespace DurableSession.Server

open Lifecycle (SessionId Token Failure Secret)
open Network (SocketAddress)

/-- Why an operation destroys the record of a session. -/
inductive Destroys (s : State) (x : SessionId) (rec : Record) : Operation → Prop where
  /-- A signon for its login takes over, and its channel is kicked. -/
  | displaced {id : SignonId} {fresh : SessionId} {secret : Secret} {c : ChannelId}
      (signon : s.signons.find? id = some ⟨.primary rec.login secret c, .spawned⟩)
      (stale : rec.reclaimable s.closed = true)
      (kicked : ∀ d, rec.channel = some d → (s.perform (.start id fresh)).closed d = true) :
      Destroys s x rec (.start id fresh)
  /-- An answer to its challenge came from elsewhere, or was empty. -/
  | misanswered {id : SignonId} {fresh : SessionId} {c : ChannelId} {t : Token} {code : Secret}
      (signon : s.signons.find? id = some ⟨.secondary c t code, .spawned⟩)
      (challenge : s.registry.challenges.find? t = some x)
      (wrong : rec.state ≠ .pendingSecondary t ∨ rec.channel ≠ some c ∨ code.isEmpty = true) :
      Destroys s x rec (.start id fresh)
  | denied {id : SignonId} {verdict : PrimaryVerdict} {fresh : Token} {login login' : String}
      {secret : Secret} {c : ChannelId}
      (signon : s.signons.find? id = some ⟨.primary login secret c, .asking x login'⟩)
      (answer : (∃ failure, verdict = .denied failure) ∨
        verdict = .accepted ∧ (rec.state ≠ .pendingPrimary ∨ s.closed c = true)) :
      Destroys s x rec (.answerPrimary id verdict fresh)
  | unverified {id : SignonId} {verified : Bool} {c : ChannelId} {t : Token} {code : Secret}
      {login : String}
      (signon : s.signons.find? id = some ⟨.secondary c t code, .asking x login⟩)
      (answer : verified = false ∨ rec.state ≠ .pendingSecondary t ∨ s.closed c = true) :
      Destroys s x rec (.answerSecondary id verified)
  | expired {c : ChannelId} (state : rec.state = .reusable)
      (late : rec.inactive s.window s.now = true) : Destroys s x rec (.reuse x c)
  | closed {c : ChannelId} {signedOff : Bool} (bound : rec.channel = some c)
      (ended : signedOff = true ∨ rec.state ≠ .active) : Destroys s x rec (.close c x signedOff)
  | released {c : ChannelId} (bound : rec.channel = some c) (ended : rec.state ≠ .active) :
      Destroys s x rec (.release c)
  | kickedOut (kicked : ∀ d, rec.channel = some d → (s.perform (.kickout x)).closed d = true) :
      Destroys s x rec (.kickout x)
  | allKickedOut (kicked : ∀ d, rec.channel = some d → (s.perform .kickoutAll).closed d = true) :
      Destroys s x rec .kickoutAll
  | swept (stale : Registry.isStale s.window s.now rec = true)
      (kicked : ∀ d, rec.channel = some d → (s.perform .sweep).closed d = true) :
      Destroys s x rec .sweep

/-- Why an operation takes an active session's channel away. -/
inductive Disconnects (s : State) (x : SessionId) (rec : Record) : Operation → Prop where
  | closed {c : ChannelId} (bound : rec.channel = some c) : Disconnects s x rec (.close c x false)
  | released {c : ChannelId} (bound : rec.channel = some c) : Disconnects s x rec (.release c)
  | swept (gone : rec.unattended s.closed = true) : Disconnects s x rec .sweep

/-- What an operation does to the record of a session: what was there, and what is there
afterwards. -/
inductive Fate (s : State) (x : SessionId) : Operation → Option Record → Option Record → Prop where
  | kept {op : Operation} (o : Option Record) : Fate s x op o o
  | minted {id : SignonId} {login : String} {secret : Secret} {c : ChannelId}
      (signon : s.signons.find? id = some ⟨.primary login secret c, .spawned⟩) :
      Fate s x (.start id x) none (some (Record.pending x login c (s.remoteOf c) s.now))
  | destroyed {op : Operation} {rec : Record} (why : Destroys s x rec op) :
      Fate s x op (some rec) none
  | challenged {id : SignonId} {fresh : Token} {login login' : String} {secret : Secret}
      {c : ChannelId} {rec : Record}
      (signon : s.signons.find? id = some ⟨.primary login secret c, .asking x login'⟩)
      (state : rec.state = .pendingPrimary) :
      Fate s x (.answerPrimary id .needsSecondary fresh) (some rec)
        (some { rec with state := .pendingSecondary fresh })
  | accepted {id : SignonId} {fresh : Token} {login login' : String} {secret : Secret}
      {c : ChannelId} {rec : Record}
      (signon : s.signons.find? id = some ⟨.primary login secret c, .asking x login'⟩)
      (state : rec.state = .pendingPrimary) (attended : s.closed c = false) :
      Fate s x (.answerPrimary id .accepted fresh) (some rec)
        (some { rec with state := .active, lastActiveAt := s.now })
  | verified {id : SignonId} {c : ChannelId} {t : Token} {code : Secret} {login : String}
      {rec : Record}
      (signon : s.signons.find? id = some ⟨.secondary c t code, .asking x login⟩)
      (state : rec.state = .pendingSecondary t) (attended : s.closed c = false) :
      Fate s x (.answerSecondary id true) (some rec)
        (some { rec with state := .active, lastActiveAt := s.now })
  | resumed {c : ChannelId} {rec : Record}
      (free : rec.state = .reusable ∧ rec.inactive s.window s.now = false ∨
        rec.state = .active ∧ rec.unattended s.closed = true) :
      Fate s x (.reuse x c) (some rec)
        (some { rec with state := .active, channel := some c, remote := s.remoteOf c,
                         lastActiveAt := s.now })
  | disconnected {op : Operation} {rec : Record} (state : rec.state = .active)
      (why : Disconnects s x rec op) :
      Fate s x op (some rec) (some (rec.disconnect s.now))

namespace State

variable {s : State} {x : SessionId}

/-! ### Records one by one -/

theorem fate_gone {op : Operation} {y : SessionId}
    (h : ∀ rec, s.registry.record? y = some rec → Destroys s y rec op) :
    Fate s x op (s.registry.record? x) (if y = x then none else s.registry.record? x) := by
  split
  · next he =>
    subst he
    cases hy : s.registry.record? y with
    | none => exact .kept _
    | some rec => exact .destroyed (h rec hy)
  · exact .kept _

theorem fate_replaced {op : Operation} {y : SessionId} {rec rec' : Record}
    (hy : s.registry.record? y = some rec) (h : Fate s y op (some rec) (some rec')) :
    Fate s x op (s.registry.record? x) (if y = x then some rec' else s.registry.record? x) := by
  split
  · next he =>
    subst he
    rw [hy]
    exact h
  · exact .kept _

/-- Granting a signon makes the record of its session active, or takes it away. -/
theorem fate_activate {op : Operation} {y : SessionId} {c : ChannelId} {token : Option Token}
    (hgrant : ∀ rec, rec.state = Registry.waitingState token → s.closed c = false →
      Fate s y op (some rec) (some { rec with state := .active, lastActiveAt := s.now }))
    (hdeny : ∀ rec, rec.state ≠ Registry.waitingState token ∨ s.closed c = true →
      Destroys s y rec op) :
    Fate s x op (s.registry.record? x)
      ((s.registry.activate s.closed s.now y c token).2.record? x) := by
  rw [Registry.record?_activate]
  split
  · next he =>
    subst he
    cases s.registry.record? y with
    | none => exact .kept _
    | some rec =>
      rw [Option.bind_some, Registry.activatedRecord_eq]
      split
      · next h => exact hgrant rec h.1 h.2
      · next h =>
        refine .destroyed (hdeny rec ?_)
        by_cases hstate : rec.state = Registry.waitingState token
        · exact .inr (by simpa [hstate] using h)
        · exact .inl hstate
  · exact .kept _

/-! ### Signons -/

/-- Two records may change when a login is claimed: the new one, and that of the login's owner. -/
theorem fate_claim (hi : s.registry.Indexed) {id : SignonId} {fresh : SessionId}
    (hf : s.registry.record? fresh = none) {login : String} {secret : Secret} {c : ChannelId}
    (hid : s.signons.find? id = some ⟨.primary login secret c, .spawned⟩) {registry : Registry}
    {displaced : Option ChannelId}
    (hc : s.registry.claim s.closed s.now fresh login c (s.remoteOf c) = .ok (registry, displaced))
    (hkick : (s.perform (.start id fresh)).channels = s.channels.kickAll displaced.toList) :
    Fate s x (.start id fresh) (s.registry.record? x) (registry.record? x) := by
  have hcl := Registry.claimed_of_claim hi hf hc
  rw [hcl.record]
  split
  · next he =>
    subst he
    rw [hf]
    exact .minted hid
  · split
    · next ho =>
      obtain ⟨rec, hx, hlogin⟩ := hi.backed login x ho
      rw [hx]
      subst hlogin
      refine .destroyed (.displaced hid (hcl.stale x rec ho hx) fun d hd => ?_)
      unfold closed
      rw [hkick, Channels.isClosed_kickAll, hcl.kicked x rec ho hx, hd]
      simp
    · exact .kept _

theorem fate_openSecondary {id : SignonId} {fresh : SessionId} {c : ChannelId} {t : Token}
    {code : Secret} (hid : s.signons.find? id = some ⟨.secondary c t code, .spawned⟩) :
    Fate s x (.start id fresh) (s.registry.record? x)
      ((s.registry.openSecondary c t code).2.record? x) := by
  unfold Registry.openSecondary
  cases ht : s.registry.challenges.find? t with
  | none => exact .kept _
  | some y =>
    dsimp only
    split
    · exact .kept _
    · next rec hy =>
      have hdrop (wrong : rec.state ≠ .pendingSecondary t ∨ rec.channel ≠ some c ∨
          code.isEmpty = true) :
          Fate s x (.start id fresh) (s.registry.record? x)
            (if y = x then none else s.registry.record? x) := by
        refine fate_gone fun rec' hy' => ?_
        obtain rfl := Option.some.inj (hy.symm.trans hy')
        exact .misanswered hid ht wrong
      split
      · next hwrong =>
        rw [Registry.record?_drop]
        exact hdrop (hwrong.imp (fun h => h) .inl)
      · split
        · next hempty =>
          rw [Registry.record?_drop]
          exact hdrop (.inr (.inr hempty))
        · exact .kept _

theorem fate_start (hi : s.registry.Indexed) {id : SignonId} {fresh : SessionId}
    (hf : s.registry.record? fresh = none) :
    Fate s x (.start id fresh) (s.registry.record? x)
      ((s.perform (.start id fresh)).registry.record? x) := by
  generalize hs' : s.perform (.start id fresh) = s'
  have hstart : s.startSignon id fresh = s' := hs'
  unfold startSignon at hstart
  split at hstart
  · next login secret c hid =>
    dsimp only at hstart
    split at hstart
    · subst hstart
      exact .kept _
    · next registry displaced hc =>
      have hreg : s'.registry = registry := by
        rw [← hstart]
        rfl
      rw [hreg]
      refine fate_claim hi hf hid hc ?_
      rw [hs', ← hstart]
      rfl
  · next c t code hid =>
    dsimp only at hstart
    have hreg : s'.registry = (s.registry.openSecondary c t code).2 := by
      split at hstart
      · next hq =>
        rw [← hstart, hq]
        rfl
      · next hq =>
        rw [← hstart, hq]
        rfl
    rw [hreg]
    exact fate_openSecondary hid
  · rw [← hstart]
    exact .kept _

theorem fate_answerPrimary {id : SignonId} {verdict : PrimaryVerdict} {fresh : Token} :
    Fate s x (.answerPrimary id verdict fresh) (s.registry.record? x)
      ((s.perform (.answerPrimary id verdict fresh)).registry.record? x) := by
  unfold perform
  dsimp only
  unfold answerPrimary
  split
  · next login secret c y login' hid =>
    show Fate _ _ _ _
      ((s.registry.concludePrimary s.closed s.now y c verdict fresh).2.record? x)
    unfold Registry.concludePrimary
    cases verdict with
    | accepted =>
      exact fate_activate (fun rec state attended => .accepted hid state attended)
        fun rec answer => .denied hid (.inr ⟨rfl, answer⟩)
    | needsSecondary =>
      cases hy : s.registry.record? y with
      | none => exact .kept _
      | some rec =>
        dsimp only
        split
        · next hstate =>
          show Fate _ _ _ _ ((s.registry.setRecord y _).record? x)
          rw [Registry.record?_setRecord]
          exact fate_replaced hy (.challenged hid hstate)
        · exact .kept _
    | denied failure =>
      dsimp only
      rw [Registry.record?_drop]
      exact fate_gone fun rec _ => .denied hid (.inl ⟨failure, rfl⟩)
  · exact .kept _

theorem fate_answerSecondary {id : SignonId} {verified : Bool} :
    Fate s x (.answerSecondary id verified) (s.registry.record? x)
      ((s.perform (.answerSecondary id verified)).registry.record? x) := by
  unfold perform
  dsimp only
  unfold answerSecondary
  split
  · next c t code y login hid =>
    show Fate _ _ _ _
      ((s.registry.concludeSecondary s.closed s.now y c t verified).2.record? x)
    unfold Registry.concludeSecondary
    split
    · next hv =>
      subst hv
      exact fate_activate (fun rec state attended => .verified hid state attended)
        fun rec answer => .unverified hid (.inr answer)
    · next hv =>
      rw [Registry.record?_drop]
      exact fate_gone fun rec _ => .unverified hid (.inl (by simpa using hv))
  · exact .kept _

/-! ### Resuming and closing -/

theorem fate_reuse {y : SessionId} {c : ChannelId} :
    Fate s x (.reuse y c) (s.registry.record? x) ((s.perform (.reuse y c)).registry.record? x) := by
  show Fate _ _ _ _
    ((s.registry.reuse s.closed s.window s.now y c (s.remoteOf c)).2.record? x)
  unfold Registry.reuse
  cases hy : s.registry.record? y with
  | none => exact .kept _
  | some rec =>
    dsimp only
    split
    · next hstate =>
      split
      · next hlate =>
        rw [Registry.record?_terminate]
        refine fate_gone fun rec' hy' => ?_
        obtain rfl := Option.some.inj (hy.symm.trans hy')
        exact .expired hstate hlate
      · next hlate =>
        rw [Registry.record?_setRecord]
        exact fate_replaced hy (.resumed (.inl ⟨hstate, by simpa using hlate⟩))
    · next hstate =>
      split
      · next hgone =>
        rw [Registry.record?_setRecord]
        exact fate_replaced hy (.resumed (.inr ⟨hstate, hgone⟩))
      · exact .kept _
    · exact .kept _
    · exact .kept _

theorem fate_close {y : SessionId} {c : ChannelId} {signedOff : Bool} :
    Fate s x (.close c y signedOff) (s.registry.record? x)
      ((s.perform (.close c y signedOff)).registry.record? x) := by
  show Fate _ _ _ _ ((s.registry.close s.now c y signedOff).record? x)
  rw [Registry.record?_close]
  split
  · next he =>
    subst he
    cases s.registry.record? y with
    | none => exact .kept _
    | some rec =>
      rw [Option.bind_some]
      unfold Registry.closeRecord
      split
      · exact .kept _
      · next hbound =>
        have hbound : rec.channel = some c := Decidable.not_not.1 hbound
        split
        · next hover => exact .destroyed (.closed hbound hover)
        · next hover =>
          obtain ⟨hoff, hstate⟩ := not_or.1 hover
          obtain rfl : signedOff = false := by simpa using hoff
          exact .disconnected (Decidable.not_not.1 hstate) (.closed hbound)
  · exact .kept _

theorem fate_release {c : ChannelId} :
    Fate s x (.release c) (s.registry.record? x) ((s.perform (.release c)).registry.record? x) := by
  show Fate _ _ _ _ ((s.registry.releaseChannel s.now c).record? x)
  rw [Registry.record?_releaseChannel]
  cases s.registry.record? x with
  | none => exact .kept _
  | some rec =>
    rw [Option.bind_some]
    unfold Registry.closeRecord
    split
    · exact .kept _
    · next hbound =>
      have hbound : rec.channel = some c := Decidable.not_not.1 hbound
      split
      · next hover => exact .destroyed (.released hbound (hover.resolve_left (by simp)))
      · next hover =>
        exact .disconnected (Decidable.not_not.1 (not_or.1 hover).2) (.released hbound)

/-! ### Kicking out and sweeping -/

theorem record?_kickout {y : SessionId} :
    (s.kickout y).2.registry.record? x = if y = x then none else s.registry.record? x := by
  unfold kickout Registry.kickout
  cases hy : s.registry.record? y with
  | none =>
    dsimp only
    split
    · next he =>
      subst he
      exact hy
    · rfl
  | some rec =>
    show (s.registry.terminate y).1.record? x = _
    exact Registry.record?_terminate

theorem closed_kickout_self {rec : Record} {d : ChannelId} (hx : s.registry.record? x = some rec)
    (hd : rec.channel = some d) : (s.kickout x).2.closed d = true := by
  unfold closed
  rw [channels_kickout, Channels.isClosed_kickAll, hx, Option.bind_some, hd]
  simp

theorem record?_kickoutEach {l : List SessionId} :
    (s.kickoutEach l).2.registry.record? x = if x ∈ l then none else s.registry.record? x := by
  induction l generalizing s with
  | nil => simp
  | cons y l ih =>
    rw [kickoutEach_cons, ih, record?_kickout]
    by_cases hx : y = x
    · simp [hx]
    · simp [hx, Ne.symm hx]

theorem closed_kickoutEach {l : List SessionId} {rec : Record} {d : ChannelId} (hl : x ∈ l)
    (hx : s.registry.record? x = some rec) (hd : rec.channel = some d) :
    (s.kickoutEach l).2.closed d = true := by
  induction l generalizing s with
  | nil => simp at hl
  | cons y l ih =>
    rw [kickoutEach_cons]
    by_cases hy : y = x
    · subst hy
      exact kickoutEach_keeps (P := fun s => s.closed d = true) (fun _ _ => closed_kickout)
        (closed_kickout_self hx hd)
    · refine ih ((List.mem_cons.1 hl).resolve_left (Ne.symm hy)) ?_
      rw [record?_kickout, if_neg hy, hx]

theorem record?_kickoutAll : s.kickoutAll.2.registry.record? x = none := by
  unfold kickoutAll
  rw [record?_kickoutEach]
  split
  · rfl
  · next h =>
    cases hx : s.registry.record? x with
    | none => rfl
    | some rec => exact absurd (Table.mem_keys.2 ⟨rec, hx⟩) h

theorem fate_sweep (hi : s.registry.Indexed) :
    Fate s x .sweep (s.registry.record? x) ((s.perform .sweep).registry.record? x) := by
  show Fate _ _ _ _ ((s.registry.sweep s.closed s.window s.now).2.1.record? x)
  rw [Registry.record?_sweep hi.named]
  cases hx : s.registry.record? x with
  | none => exact .kept _
  | some rec =>
    rw [Option.bind_some]
    unfold Registry.sweptRecord
    split
    · next hstale =>
      refine .destroyed (.swept hstale fun d hd => ?_)
      show s.sweep.2.channels.isClosed d = true
      have hmem : d ∈ (s.registry.sweep s.closed s.window s.now).2.2 :=
        (Registry.mem_sweep_snd hi.named).2 ⟨x, rec, hx, hstale, hd⟩
      rw [channels_sweep, Channels.isClosed_kickAll]
      simp [hmem]
    · unfold Registry.refreshed
      split
      · next h => exact .disconnected h.1 (.swept h.2)
      · exact .kept _

/-- **What an operation does to a record.** -/
theorem fate (hi : s.registry.Indexed) {op : Operation}
    (hf : ∀ fresh, op.mints? = some fresh → s.registry.record? fresh = none) :
    Fate s x op (s.registry.record? x) ((s.perform op).registry.record? x) := by
  cases op with
  | start id fresh => exact fate_start hi (hf fresh rfl)
  | answerPrimary id verdict fresh => exact fate_answerPrimary
  | answerSecondary id verified => exact fate_answerSecondary
  | reuse y c => exact fate_reuse
  | close c y signedOff => exact fate_close
  | release c => exact fate_release
  | kickout y =>
    show Fate _ _ _ _ ((s.kickout y).2.registry.record? x)
    rw [record?_kickout]
    exact fate_gone fun rec hy => .kickedOut fun d => closed_kickout_self hy
  | kickoutAll =>
    show Fate _ _ _ _ (s.kickoutAll.2.registry.record? x)
    rw [record?_kickoutAll]
    cases hx : s.registry.record? x with
    | none => exact .kept _
    | some rec =>
      exact .destroyed (.allKickedOut fun d => closed_kickoutEach (Table.mem_keys.2 ⟨rec, hx⟩) hx)
  | sweep => exact fate_sweep hi
  | unregister y c =>
    obtain ⟨routes, hr⟩ := s.perform_unregister y c
    rw [hr]
    exact .kept _
  | _ => exact .kept _

end State

end DurableSession.Server
