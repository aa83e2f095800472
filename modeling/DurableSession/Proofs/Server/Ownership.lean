import DurableSession.Proofs.Server.Coherence

/-!
Which channel holds a session.

A channel gets a session by a signon that is granted or by a resumption, and keeps it until it is
closed or reported as gone. Main statements: `holds_of_binds` and `holds_perform`.
-/

namespace DurableSession.Server

open Lifecycle (SessionId Token)
open Network (SocketAddress)

/-! ### What it takes to get a session -/

namespace Registry

variable {r : Registry} {x y : SessionId} {closed : ChannelId → Bool} {window now : Nat}
  {c : ChannelId} {login : String}

theorem activate_accepted {token : Option Token}
    (h : (r.activate closed now y c token).1 = .accepted x login) :
    x = y ∧ ∃ rec, r.record? x = some rec ∧ rec.state = waitingState token ∧ rec.login = login ∧
      closed c = false ∧ (r.activate closed now y c token).2.record? x =
        some { rec with state := .active, lastActiveAt := now } := by
  rw [record?_activate]
  unfold activate at h
  cases hy : r.record? y with
  | none => simp [hy] at h
  | some rec =>
    simp only [hy] at h
    split at h
    · next hgrant =>
      obtain ⟨rfl, rfl⟩ := Outcome.accepted.inj h
      have hgrant : rec.state = waitingState token ∧ closed c = false := by
        simpa [grantable_eq_true_iff] using hgrant
      refine ⟨rfl, rec, hy, hgrant.1, rfl, hgrant.2, ?_⟩
      rw [if_pos rfl, hy, Option.bind_some, activatedRecord_eq, if_pos hgrant]
    · simp at h

theorem concludePrimary_accepted {verdict : PrimaryVerdict} {fresh : Token}
    (h : (r.concludePrimary closed now y c verdict fresh).1 = .accepted x login) :
    verdict = .accepted ∧ (r.activate closed now y c none).1 = .accepted x login := by
  unfold concludePrimary at h
  cases verdict with
  | accepted => exact ⟨rfl, h⟩
  | needsSecondary =>
    dsimp only at h
    split at h
    · simp at h
    · split at h <;> simp at h
  | denied failure => simp at h

theorem concludeSecondary_accepted {verified : Bool} {t : Token}
    (h : (r.concludeSecondary closed now y c t verified).1 = .accepted x login) :
    verified = true ∧ (r.activate closed now y c (some t)).1 = .accepted x login := by
  unfold concludeSecondary at h
  split at h
  · next hv => exact ⟨hv, h⟩
  · simp at h

/-- A session that can be resumed waits within its window, or its channel is closed. -/
theorem reuse_ok {remote : SocketAddress}
    (h : (r.reuse closed window now x c remote).1 = .ok login) :
    ∃ rec, r.record? x = some rec ∧ rec.login = login ∧
      (rec.state = .reusable ∨ rec.state = .active ∧ rec.unattended closed = true) ∧
      (r.reuse closed window now x c remote).2.record? x =
        some { rec with state := .active, channel := some c, remote := remote,
                        lastActiveAt := now } := by
  unfold reuse at h ⊢
  cases hx : r.record? x with
  | none => simp [hx] at h
  | some rec =>
    simp only [hx] at h ⊢
    split at h
    · next hstate =>
      split at h
      · simp at h
      · next hlate =>
        obtain rfl := Except.ok.inj h
        refine ⟨rec, rfl, rfl, .inl hstate, ?_⟩
        simp only [hlate]
        exact record?_setRecord.trans (if_pos rfl)
    · next hstate =>
      split at h
      · next hgone =>
        obtain rfl := Except.ok.inj h
        refine ⟨rec, rfl, rfl, .inr ⟨hstate, hgone⟩, ?_⟩
        simp only [hgone, if_true]
        exact record?_setRecord.trans (if_pos rfl)
      · simp at h
    · simp at h
    · simp at h

theorem reuse_of_none {remote : SocketAddress} (h : r.record? x = none) :
    (r.reuse closed window now x c remote).1 = .error .unknownSession := by
  unfold reuse
  rw [h]

end Registry

/-! ### Holding a session -/

namespace State

/-- The channel holds the session. -/
def Holds (s : State) (c : ChannelId) (x : SessionId) : Prop :=
  ∃ rec, s.registry.record? x = some rec ∧ rec.state = .active ∧ rec.channel = some c

/-- An operation binds a session to a channel: it decides a signon on the channel in favour of the
session, or resumes the session there. -/
inductive Binds (s : State) (x : SessionId) (c : ChannelId) : Operation → Prop where
  | signon {op : Operation} {id : SignonId} {a : Attempt} {login : String}
      (undecided : s.outcome? id = none)
      (granted : (s.perform op).signons.find? id = some ⟨a, .decided (.accepted x login)⟩)
      (channel : a.channel = c) : Binds s x c op
  | resumption {login : String} (accepted : (s.reuse x c).1 = .ok login) : Binds s x c (.reuse x c)

variable {minted : SessionId → Prop} {s : State} {op : Operation} {x : SessionId} {c : ChannelId}

theorem holds_of_reuse {login : String} (h : (s.reuse x c).1 = .ok login) :
    (s.reuse x c).2.Holds c x := by
  obtain ⟨rec, -, -, -, hafter⟩ := Registry.reuse_ok
    (h : (s.registry.reuse s.closed s.window s.now x c (s.remoteOf c)).1 = .ok login)
  exact ⟨_, hafter, rfl, rfl⟩

theorem holds_of_granted (h : Coherent minted s) (hf : ∀ x ∈ op.mints?, ¬ minted x) {id : SignonId}
    {a : Attempt} {login : String} (hid : s.outcome? id = none)
    (hgranted : (s.perform op).signons.find? id = some ⟨a, .decided (.accepted x login)⟩) :
    (s.perform op).Holds a.channel x := by
  have hadv := h.advance hf id
  rw [hgranted] at hadv
  generalize ho : s.signons.find? id = o at hadv
  generalize hp : Progress.decided (.accepted x login) = p at hadv
  cases hadv with
  | kept =>
    subst hp
    simp [outcome?, ho] at hid
  -- only an answer grants a signon
  | spawned | claimed | refused | opened => simp at hp
  | answeredPrimary =>
    obtain ⟨rfl, hact⟩ := Registry.concludePrimary_accepted (Progress.decided.inj hp).symm
    obtain ⟨rfl, rec, hx, -, -, -, hafter⟩ := Registry.activate_accepted hact
    have haw := h.asking _ _ _ _ rec ho hx
    refine ⟨{ rec with state := .active, lastActiveAt := s.now }, ?_, rfl, haw.2.1⟩
    rw [registry_of_answerPrimary ho]
    exact hafter
  | answeredSecondary =>
    obtain ⟨rfl, hact⟩ := Registry.concludeSecondary_accepted (Progress.decided.inj hp).symm
    obtain ⟨rfl, rec, hx, -, -, -, hafter⟩ := Registry.activate_accepted hact
    have haw := h.asking _ _ _ _ rec ho hx
    refine ⟨{ rec with state := .active, lastActiveAt := s.now }, ?_, rfl, haw.2.1⟩
    rw [registry_of_answerSecondary ho]
    exact hafter

theorem holds_of_binds (h : Coherent minted s) (hf : ∀ x ∈ op.mints?, ¬ minted x)
    (hb : s.Binds x c op) : (s.perform op).Holds c x := by
  cases hb with
  | signon undecided granted channel =>
    subst channel
    exact holds_of_granted h hf undecided granted
  | resumption accepted => exact holds_of_reuse accepted

/-! ### Keeping a session -/

/-- **What takes a session from a channel**: the channel is closed, or its end is reported. -/
theorem holds_perform (h : Coherent minted s) (ha : op.Applicable s)
    (hf : ∀ x ∈ op.mints?, ¬ minted x) (hx : s.Holds c x) :
    (s.perform op).Holds c x ∨ (s.perform op).closed c = true ∨
      (∃ signedOff, op = .close c x signedOff) ∨ op = .release c := by
  obtain ⟨rec, hrec, hactive, hbound⟩ := hx
  have hstill (hc : s.closed c = true) : (s.perform op).closed c = true :=
    closed_perform ha (h.bound x rec c hrec hbound) hc
  -- its signon is over, so that no answer concerns it any more
  have hsettled : rec.state.isPending = false := by simp [hactive, RecordState.isPending]
  have hfate := h.fate hf x
  rw [hrec] at hfate
  generalize ho : (s.perform op).registry.record? x = o at hfate
  cases hfate with
  | kept => exact .inl ⟨rec, ho, hactive, hbound⟩
  | destroyed why =>
    cases why with
    | displaced signon stale kicked => exact .inr (.inl (kicked c hbound))
    | misanswered signon challenge wrong =>
      exact absurd challenge (h.not_challenged hrec hsettled _)
    | denied signon answer => exact absurd ⟨_, _, signon⟩ (h.not_asks hrec hsettled _)
    | unverified signon answer => exact absurd ⟨_, _, signon⟩ (h.not_asks hrec hsettled _)
    | expired state late => simp [state] at hactive
    | @closed d signedOff bound ended =>
      obtain rfl := Option.some.inj (bound.symm.trans hbound)
      exact .inr (.inr (.inl ⟨signedOff, rfl⟩))
    | released bound ended => exact absurd hactive ended
    | kickedOut kicked => exact .inr (.inl (kicked c hbound))
    | allKickedOut kicked => exact .inr (.inl (kicked c hbound))
    | swept stale kicked => simp [Registry.isStale, hactive] at stale
  | challenged signon state => simp [state] at hactive
  | accepted signon state attended => simp [state] at hactive
  | verified signon state attended => simp [state] at hactive
  | resumed free =>
    have hgone : rec.unattended s.closed = true := by
      simpa [hactive] using free
    exact .inr (.inl (hstill (by simpa [Record.unattended, hbound] using hgone)))
  | disconnected state why =>
    cases why with
    | closed bound =>
      obtain rfl := Option.some.inj (bound.symm.trans hbound)
      exact .inr (.inr (.inl ⟨false, rfl⟩))
    | released bound =>
      obtain rfl := Option.some.inj (bound.symm.trans hbound)
      exact .inr (.inr (.inr rfl))
    | swept gone =>
      exact .inr (.inl (hstill (by simpa [Record.unattended, hbound] using gone)))

/-- A session that has ended does not come back. -/
theorem gone_perform (h : Coherent minted s) (hf : ∀ x ∈ op.mints?, ¬ minted x) (hm : minted x)
    (hx : s.registry.record? x = none) : (s.perform op).registry.record? x = none := by
  have hfate := h.fate hf x
  rw [hx] at hfate
  generalize ho : (s.perform op).registry.record? x = o at hfate
  cases hfate with
  | kept => rfl
  | minted => exact absurd hm (hf x rfl)

end State

end DurableSession.Server
