import DurableSession.Proofs.Server.Challenges
import DurableSession.Proofs.Server.Exclusive

/-!
Signons that were granted a session.

Once a session is granted, nothing that is still under way is about it: no authenticator decides
about it, and no challenge is open for it. So it is granted once. Main statements:
`concluded_of_grants` and `grants_unique`.
-/

namespace DurableSession.Server

open Lifecycle (SessionId Token)

namespace State

/-- The signon was granted the session. -/
def Grants (s : State) (id : SignonId) (x : SessionId) : Prop :=
  ∃ a login, s.signons.find? id = some ⟨a, .decided (.accepted x login)⟩

variable {minted : SessionId → Prop} {s : State} {op : Operation} {id : SignonId} {x : SessionId}

theorem grants_of_outcome? {login : String} (h : s.outcome? id = some (.accepted x login)) :
    s.Grants id x := by
  obtain ⟨a, hid⟩ := decided_of_outcome? h
  exact ⟨a, login, hid⟩

theorem grants_perform (h : Coherent minted s) (ha : op.Applicable s)
    (hf : ∀ x ∈ op.mints?, ¬ minted x) (hx : s.Grants id x) : (s.perform op).Grants id x := by
  obtain ⟨a, login, hid⟩ := hx
  obtain ⟨p, hp, hkept⟩ := progress_perform h ha hf hid
  have hdecided : p = .decided (.accepted x login) :=
    hkept.resolve_right (by simp [outcome?_eq hid])
  exact ⟨a, login, hdecided ▸ hp⟩

/-- A signon is granted the session that it asks for, by an answer that wants no second factor. -/
theorem asks_of_grants (h : Coherent minted s) (hf : ∀ x ∈ op.mints?, ¬ minted x)
    (hx : (s.perform op).Grants id x) :
    s.Grants id x ∨ ∃ a login, s.signons.find? id = some ⟨a, .asking x login⟩ ∧
      Answers id a op none := by
  obtain ⟨a, login, hid⟩ := hx
  have hadv := h.advance hf id
  rw [hid] at hadv
  generalize hb : s.signons.find? id = before at hadv
  generalize hp : Progress.decided (.accepted x login) = p at hadv
  cases hadv with
  | kept => exact .inl ⟨a, login, hp ▸ hb⟩
  | spawned | claimed | refused | opened => simp at hp
  | answeredPrimary =>
    obtain ⟨rfl, hact⟩ := Registry.concludePrimary_accepted (Progress.decided.inj hp).symm
    obtain ⟨rfl, -⟩ := Registry.activate_accepted hact
    exact .inr ⟨_, _, rfl, .primary⟩
  | answeredSecondary =>
    obtain ⟨rfl, hact⟩ := Registry.concludeSecondary_accepted (Progress.decided.inj hp).symm
    obtain ⟨rfl, -⟩ := Registry.activate_accepted hact
    exact .inr ⟨_, _, rfl, .secondary⟩

end State

/-! ### Sessions that nothing is about any more -/

/-- No signon that is under way is about the session. -/
structure Concluded (window : Nat) (ops : List Operation) (x : SessionId) : Prop where
  minted : Minted ops x
  unasked : ∀ id, ¬ (stateAfter window ops).Asks id x
  unchallenged : ∀ t, (stateAfter window ops).registry.challenges.find? t ≠ some x

section Concluded

variable {window : Nat} {ops : List Operation} {op : Operation} {id id' : SignonId} {x : SessionId}

theorem Concluded.snoc (hr : Run window (ops ++ [op])) (hc : Concluded window ops x) :
    Concluded window (ops ++ [op]) x := by
  obtain ⟨hops, ha⟩ := Run.snoc_iff.1 hr
  have h := coherent_of_run hops
  refine ⟨minted_snoc.2 (.inl hc.minted), ?_, ?_⟩
  · rintro id ⟨a, login, hq⟩
    rw [stateAfter_snoc] at hq
    rcases h.asking_perform ha.2.1 hq with hq | ⟨-, -, rfl, -⟩ | ⟨-, -, t, -, -, -, -, -, ht, -⟩
    · exact hc.unasked id ⟨a, login, hq⟩
    · exact ha.2.1 x rfl hc.minted
    · exact hc.unchallenged t ht
  · intro t ht
    rw [stateAfter_snoc] at ht
    rcases State.challenge_perform h.index (h.record?_fresh ha.2.1) ht with
      ht | ⟨id, login, secret, c, login', rec, -, hid, -⟩
    · exact hc.unchallenged t ht
    · exact hc.unasked id ⟨_, _, hid⟩

/-- An answer that grants a session ends all that was about it. -/
theorem concluded_of_answers (hr : Run window (ops ++ [op]))
    (hasks : (stateAfter window ops).Asks id x) {a : Attempt} (hop : State.Answers id a op none)
    (hx : (stateAfter window (ops ++ [op])).Grants id x) :
    Concluded window (ops ++ [op]) x := by
  obtain ⟨hops, ha⟩ := Run.snoc_iff.1 hr
  have h := coherent_of_run hops
  obtain ⟨a', login', hgranted⟩ := hx
  refine ⟨minted_snoc.2 (.inl (h.asked id x hasks)), ?_, ?_⟩
  · rintro id' ⟨a'', login'', hq⟩
    have hbefore := hq
    rw [stateAfter_snoc] at hbefore
    rcases h.asking_perform ha.2.1 hbefore with hq' | ⟨-, -, rfl, -⟩ | ⟨_, _, _, _, _, rfl, -⟩
    · -- only one signon asked, and it was answered
      obtain rfl := h.alone id id' x hasks ⟨_, _, hq'⟩
      simp [hgranted] at hq
    · cases hop
    · cases hop
  · intro t ht
    rw [stateAfter_snoc] at ht
    rcases State.challenge_perform h.index (h.record?_fresh ha.2.1) ht with ht |
      ⟨_, _, _, _, _, _, rfl, -⟩
    · exact h.unasked t x id ht hasks
    · generalize hdue : (none : Option Token) = due at hop
      cases hop
      simp [PrimaryVerdict.due?] at hdue

/-- **Nothing that is under way** is about a session that was granted. -/
theorem concluded_of_grants (hr : Run window ops) (hx : (stateAfter window ops).Grants id x) :
    Concluded window ops x := by
  induction hr with
  | nil => simp [State.Grants] at hx
  | @snoc ops op hops ha ih =>
    have hgrants := hx
    rw [stateAfter_snoc] at hgrants
    rcases State.asks_of_grants (coherent_of_run hops) ha.2.1 hgrants with hbefore |
      ⟨a, login, hid, hop⟩
    · exact (ih hbefore).snoc (hops.snoc ha)
    · exact concluded_of_answers (hops.snoc ha) ⟨a, login, hid⟩ hop hx

/-- **A session is granted once.** -/
theorem grants_unique (hr : Run window ops) (hx : (stateAfter window ops).Grants id x)
    (hx' : (stateAfter window ops).Grants id' x) : id = id' := by
  induction hr with
  | nil => simp [State.Grants] at hx
  | @snoc ops op hops ha ih =>
    have h := coherent_of_run hops
    rw [stateAfter_snoc] at hx hx'
    rcases State.asks_of_grants h ha.2.1 hx with hb | ⟨a, login, hid, -⟩
    · rcases State.asks_of_grants h ha.2.1 hx' with hb' | ⟨a', login', hid', -⟩
      · exact ih hb hb'
      · exact absurd ⟨a', login', hid'⟩ ((concluded_of_grants hops hb).unasked id')
    · rcases State.asks_of_grants h ha.2.1 hx' with hb' | ⟨a', login', hid', -⟩
      · exact absurd ⟨a, login, hid⟩ ((concluded_of_grants hops hb').unasked id)
      · exact h.alone id id' x ⟨a, login, hid⟩ ⟨a', login', hid'⟩

end Concluded

end DurableSession.Server
