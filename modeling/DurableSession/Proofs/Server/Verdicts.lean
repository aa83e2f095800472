import DurableSession.Proofs.Server.Authentication
import DurableSession.Proofs.Server.Ownership

/-!
How a signon ends, told by its login.

A session comes from one signon and a token from one challenge, and each of them belongs to the
login of that signon. Main statements: `verdict_of_run`, and `Verdict.mintedFor`, a signon is only
granted a session of its own login.
-/

namespace DurableSession.Server

open Lifecycle (SessionId Token Secret)

namespace Registry

variable {closed : ChannelId → Bool} {now : Nat} {r : Registry} {x : SessionId} {c : ChannelId}
  {t : Token} {token : Option Token}

theorem activate_ne_needsSecondary : (r.activate closed now x c token).1 ≠ .needsSecondary t := by
  unfold activate
  split
  · simp
  · split <;> simp

/-- A challenge follows a verdict that wants one, while the record waits for the verdict. -/
theorem concludePrimary_needsSecondary {verdict : PrimaryVerdict} {fresh : Token}
    (h : (r.concludePrimary closed now x c verdict fresh).1 = .needsSecondary t) :
    verdict = .needsSecondary ∧ fresh = t ∧ ∃ rec, r.record? x = some rec ∧
      rec.state = .pendingPrimary := by
  unfold concludePrimary at h
  cases verdict with
  | accepted => exact absurd h activate_ne_needsSecondary
  | needsSecondary =>
    dsimp only at h
    split at h
    · simp at h
    · next rec hrec =>
      split at h
      · next hstate => exact ⟨rfl, Outcome.needsSecondary.inj h, rec, hrec, hstate⟩
      · simp at h
  | denied failure => simp at h

/-- A code that was given in answer is not answered by another challenge. -/
theorem concludeSecondary_ne_needsSecondary {t' : Token} {verified : Bool} :
    (r.concludeSecondary closed now x c t' verified).1 ≠ .needsSecondary t := by
  unfold concludeSecondary
  split
  · exact activate_ne_needsSecondary
  · simp

end Registry

/-! ### Logins -/

/-- The session was given out in a signon of the login. -/
def MintedFor (window : Nat) (ops : List Operation) (x : SessionId) (login : String) : Prop :=
  ∃ o : Origin, o.Mints window ops x ∧ o.login = login

/-- The token was issued to challenge a signon of the login. -/
def IssuedFor (window : Nat) (ops : List Operation) (t : Token) (login : String) : Prop :=
  ∃ (o : Origin) (x : SessionId), o.Mints window ops x ∧ o.Challenged window ops x t ∧
    o.login = login

/-- The attempt is one of the login: it names the login, or answers a challenge to it. -/
def Attempt.For (window : Nat) (ops : List Operation) (login : String) : Attempt → Prop
  | primary login' _ _ => login' = login
  | secondary _ t _ => IssuedFor window ops t login

/-- **How an attempt ends**, and what the history tells of it. -/
inductive Verdict (window : Nat) (ops : List Operation) : Attempt → Outcome → Prop where
  | granted {login login' : String} {secret : Secret} {c : ChannelId} {x : SessionId}
      (minted : MintedFor window ops x login) :
      Verdict window ops (.primary login secret c) (.accepted x login')
  | challenged {login : String} {secret : Secret} {c : ChannelId} {t : Token}
      (issued : IssuedFor window ops t login) :
      Verdict window ops (.primary login secret c) (.needsSecondary t)
  | verified {o : Origin} {c : ChannelId} {t : Token} {code : Secret} {x : SessionId}
      {login' : String} (mints : o.Mints window ops x) (challenged : o.Challenged window ops x t) :
      Verdict window ops (.secondary c t code) (.accepted x login')
  | denied {a : Attempt} {failure : Lifecycle.Failure} : Verdict window ops a (.denied failure)

section Verdicts

variable {window : Nat} {ops later : List Operation} {op : Operation} {x : SessionId} {t : Token}
  {login : String} {a : Attempt} {o : Outcome} {id : SignonId}

theorem MintedFor.append (h : MintedFor window ops x login) :
    MintedFor window (ops ++ later) x login := by
  obtain ⟨o, hm, hlogin⟩ := h
  exact ⟨o, hm.append, hlogin⟩

theorem IssuedFor.append (h : IssuedFor window ops t login) :
    IssuedFor window (ops ++ later) t login := by
  obtain ⟨o, x, hm, hc, hlogin⟩ := h
  exact ⟨o, x, hm.append, hc.append, hlogin⟩

theorem Attempt.For.append (h : a.For window ops login) : a.For window (ops ++ later) login := by
  cases a with
  | primary login' secret c => exact h
  | secondary c t code => exact IssuedFor.append h

theorem Verdict.append (h : Verdict window ops a o) : Verdict window (ops ++ later) a o := by
  cases h with
  | granted minted => exact .granted minted.append
  | challenged issued => exact .challenged issued.append
  | verified mints challenged => exact .verified mints.append challenged.append
  | denied => exact .denied

/-! ### Answers -/

theorem verdict_answerPrimary (ht : Traced window ops) {login' : String} {secret : Secret}
    {c : ChannelId} {verdict : PrimaryVerdict} {fresh : Token}
    (hid : (stateAfter window ops).signons.find? id = some ⟨.primary login secret c,
      .asking x login'⟩) :
    Verdict window (ops ++ [.answerPrimary id verdict fresh]) (.primary login secret c)
      ((stateAfter window ops).registry.concludePrimary (stateAfter window ops).closed
        (stateAfter window ops).now x c
        verdict fresh).1 := by
  obtain ⟨rfl, before, hm⟩ := ht.asking _ _ _ _ _ _ hid
  cases ho : ((stateAfter window ops).registry.concludePrimary (stateAfter window ops).closed
      (stateAfter window ops).now x c verdict fresh).1 with
  | accepted y login'' =>
    obtain ⟨-, hact⟩ := Registry.concludePrimary_accepted ho
    obtain ⟨rfl, -⟩ := Registry.activate_accepted hact
    exact .granted ⟨_, hm.append, rfl⟩
  | needsSecondary t =>
    obtain ⟨rfl, rfl, rec, hrec, hstate⟩ := Registry.concludePrimary_needsSecondary ho
    exact .challenged ⟨_, x, hm.append, Traced.challenged_perform hid hrec hstate, rfl⟩
  | denied failure => exact .denied

theorem verdict_answerSecondary (ht : Traced window ops) {login' : String} {c : ChannelId}
    {code : Secret} {verified : Bool}
    (hid : (stateAfter window ops).signons.find? id = some ⟨.secondary c t code,
      .asking x login'⟩) :
    Verdict window (ops ++ [.answerSecondary id verified]) (.secondary c t code)
      ((stateAfter window ops).registry.concludeSecondary (stateAfter window ops).closed
        (stateAfter window ops).now x c
        t verified).1 := by
  cases ho : ((stateAfter window ops).registry.concludeSecondary (stateAfter window ops).closed
      (stateAfter window ops).now x c t verified).1 with
  | accepted y login'' =>
    obtain ⟨-, hact⟩ := Registry.concludeSecondary_accepted ho
    obtain ⟨rfl, rec, hrec, hstate, -⟩ := Registry.activate_accepted hact
    -- the record waits for this token, which was issued for its signon
    obtain ⟨o, hm, -, hsupports⟩ := ht.record y rec hrec
    have hchallenged : rec.channel = some o.channel ∧ o.Challenged window ops y t := by
      simpa [Origin.Supports, hstate, Registry.waitingState] using hsupports
    exact .verified hm.append hchallenged.2.append
  | needsSecondary t' => exact absurd ho Registry.concludeSecondary_ne_needsSecondary
  | denied failure => exact .denied

/-- **How signons end** in a run. -/
theorem verdict_of_run (hr : Run window ops)
    (hid : (stateAfter window ops).signons.find? id = some ⟨a, .decided o⟩) :
    Verdict window ops a o := by
  induction hr with
  | nil => simp at hid
  | @snoc ops op hops ha ih =>
    have ht := traced_of_run hops
    have hadv := (coherent_of_run hops).advance ha.2.1 id
    rw [stateAfter_snoc] at hid
    rw [hid] at hadv
    generalize hb : (stateAfter window ops).signons.find? id = before at hadv
    generalize hp : Progress.decided o = p at hadv
    cases hadv with
    | kept => exact (ih (hp ▸ hb)).append
    | spawned | claimed | opened => simp at hp
    | refused =>
      obtain rfl := Progress.decided.inj hp
      exact .denied
    | answeredPrimary =>
      obtain rfl := Progress.decided.inj hp
      exact verdict_answerPrimary ht hb
    | answeredSecondary =>
      obtain rfl := Progress.decided.inj hp
      exact verdict_answerSecondary ht hb

theorem Verdict.mintedFor {login' : String} (hr : Run window ops)
    (h : Verdict window ops a (.accepted x login')) (ha : a.For window ops login) :
    MintedFor window ops x login := by
  cases h with
  | granted minted =>
    obtain rfl := ha
    exact minted
  | @verified o c t code _ _ mints challenged =>
    obtain ⟨o', y, hm, hc, hlogin⟩ := ha
    -- the token is that of one session, and the session comes from one signon
    obtain rfl := challenged.unique hr hc
    obtain rfl := mints.unique hr hm
    exact ⟨_, mints, hlogin⟩

theorem Verdict.issuedFor (h : Verdict window ops a (.needsSecondary t))
    (ha : a.For window ops login) :
    IssuedFor window ops t login := by
  cases h with
  | challenged issued =>
    obtain rfl := ha
    exact issued

end Verdicts

end DurableSession.Server
