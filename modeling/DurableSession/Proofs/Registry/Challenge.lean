import DurableSession.Proofs.Registry.Lookup

/-!
What the operations of the registry do to challenges: they take challenges away, and only a primary
authenticator that asks for a second factor adds one.

A challenge is taken away with a record that waits for its token, or when an answer to it is taken
up. All other operations leave it open: `challenge_drop`, `challenge_claim`, `challenges_terminate`
and `challenge_sweep`.
-/

namespace DurableSession.Server.Registry

open Lifecycle (SessionId Token Failure Secret)
open Network (SocketAddress)

variable {r : Registry} {s x : SessionId} {t : Token} {closed : ChannelId → Bool} {window now : Nat}
  {c : ChannelId}

theorem challenge_of_erase {t' : Token}
    (h : ({ r with challenges := r.challenges.erase t' } : Registry).challenges.find? t = some x) :
    r.challenges.find? t = some x := by
  simp only [Table.find?_erase] at h
  split at h
  · simp at h
  · exact h

theorem challenge_of_activate {token : Option Token}
    (h : (r.activate closed now s c token).2.challenges.find? t = some x) :
    r.challenges.find? t = some x := by
  unfold activate at h
  split at h
  · exact h
  · split at h
    · exact h
    · exact challenge_of_drop h

theorem challenge_of_openSecondary {t' : Token} {code : Secret}
    (h : (r.openSecondary c t' code).2.challenges.find? t = some x) :
    r.challenges.find? t = some x := by
  unfold openSecondary at h
  split at h
  · exact h
  · dsimp only at h
    split at h
    · exact challenge_of_erase h
    · split at h
      · exact challenge_of_erase (challenge_of_drop h)
      · split at h
        · exact challenge_of_erase (challenge_of_drop h)
        · exact challenge_of_erase h

/-- A token counts once: taking up an answer to its challenge ends the challenge. -/
theorem challenge_openSecondary_self {code : Secret} :
    (r.openSecondary c t code).2.challenges.find? t = none := by
  have herase : ({ r with challenges := r.challenges.erase t } : Registry).challenges.find? t =
      none := by
    simp
  have hdrop : ∀ y, (({ r with challenges := r.challenges.erase t } : Registry).drop
    y).1.challenges.find? t
      = none := by
    intro y
    refine Option.eq_none_iff_forall_ne_some.2 fun x hx => ?_
    rw [challenge_of_drop hx] at herase
    simp at herase
  unfold openSecondary
  split
  · next h => exact h
  · dsimp only
    split
    · exact herase
    · split
      · exact hdrop _
      · split
        · exact hdrop _
        · exact herase

theorem challenge_of_concludeSecondary {t' : Token} {verified : Bool}
    (h : (r.concludeSecondary closed now s c t' verified).2.challenges.find? t = some x) :
    r.challenges.find? t = some x := by
  unfold concludeSecondary at h
  split at h
  · exact challenge_of_activate h
  · exact challenge_of_drop h

/-- Only a primary authenticator that asks for a second factor adds a challenge. -/
theorem challenge_of_concludePrimary {verdict : PrimaryVerdict} {fresh : Token}
    (h : (r.concludePrimary closed now s c verdict fresh).2.challenges.find? t = some x) :
    r.challenges.find? t = some x ∨
      verdict = .needsSecondary ∧ t = fresh ∧ x = s ∧
        ∃ rec, r.record? s = some rec ∧ rec.state = .pendingPrimary := by
  unfold concludePrimary at h
  cases verdict with
  | accepted => exact .inl (challenge_of_activate h)
  | needsSecondary =>
    cases hs : r.record? s with
    | none =>
      simp only [hs] at h
      exact .inl h
    | some rec =>
      simp only [hs] at h
      split at h
      · next hstate =>
        simp only [challenges_setRecord, Table.find?_insert] at h
        split at h
        · next ht => exact .inr ⟨rfl, ht.symm, (Option.some.inj h).symm, rec, rfl, hstate⟩
        · exact .inl h
      · exact .inl h
  | denied failure => exact .inl (challenge_of_drop h)

theorem challenge_of_reuse {remote : SocketAddress}
    (h : (r.reuse closed window now s c remote).2.challenges.find? t = some x) :
    r.challenges.find? t = some x := by
  unfold reuse at h
  split at h
  · exact h
  · dsimp only at h
    split at h
    · split at h
      · exact challenge_of_terminate h
      · exact h
    · split at h <;> exact h
    · exact h
    · exact h

theorem challenge_of_close {signedOff : Bool}
    (h : (r.close now c s signedOff).challenges.find? t = some x) :
    r.challenges.find? t = some x := by
  unfold close at h
  split at h
  · exact h
  · split at h
    · exact h
    · split at h
      · exact challenge_of_terminate h
      · exact h

theorem challenge_of_releaseChannel (h : (r.releaseChannel now c).challenges.find? t = some x) :
    r.challenges.find? t = some x := by
  unfold releaseChannel at h
  generalize r.sessions.keys = l at h
  induction l generalizing r with
  | nil => exact h
  | cons s l ih => exact challenge_of_close (ih h)

theorem challenge_of_kickout (h : (r.kickout s).2.1.challenges.find? t = some x) :
    r.challenges.find? t = some x := by
  unfold kickout at h
  split at h
  · exact h
  · exact challenge_of_terminate h

theorem challenge_of_dropAll {l : List SessionId}
    (h : (r.dropAll l).1.challenges.find? t = some x) : r.challenges.find? t = some x := by
  induction l generalizing r with
  | nil => exact h
  | cons s l ih => exact challenge_of_drop (ih h)

theorem challenge_of_sweep (h : (r.sweep closed window now).2.1.challenges.find? t = some x) :
    r.challenges.find? t = some x := by
  rw [sweep_eq] at h
  exact challenge_of_dropAll (r := r.marked closed window now) h

/-! ### Challenges that stay open -/

theorem challenges_releaseLogin {login : String} :
    (r.releaseLogin login s).challenges = r.challenges := by
  unfold releaseLogin
  split <;> rfl

theorem challenge_drop (hs : ∀ rec, r.record? s = some rec → rec.state ≠ .pendingSecondary t) :
    (r.drop s).1.challenges.find? t = r.challenges.find? t := by
  unfold drop
  cases hrec : r.record? s with
  | none => rfl
  | some rec =>
    dsimp only
    unfold forgetChallenge
    cases ht : rec.state.token? with
    | none => rw [challenges_releaseLogin]
    | some t' =>
      have hstate : rec.state = .pendingSecondary t' := by
        cases hst : rec.state <;> simp [hst, RecordState.token?] at ht ⊢
        exact ht
      have hne : t' ≠ t := by
        rintro rfl
        exact hs rec hrec hstate
      simp only [challenges_releaseLogin, Table.find?_erase, if_neg hne]

/-- A record that is marked first leaves its challenge behind. -/
theorem challenges_terminate : (r.terminate s).1.challenges = r.challenges := by
  unfold terminate drop
  rw [record?_markTerminated, if_pos rfl]
  cases r.record? s with
  | none => rfl
  | some rec => exact challenges_releaseLogin

theorem challenge_activate {token : Option Token}
    (hs : ∀ rec, r.record? s = some rec → rec.state ≠ .pendingSecondary t) :
    (r.activate closed now s c token).2.challenges.find? t = r.challenges.find? t := by
  unfold activate
  split
  · rfl
  · split
    · rfl
    · exact challenge_drop hs

theorem challenge_concludePrimary {verdict : PrimaryVerdict} {fresh : Token}
    (hs : ∀ rec, r.record? s = some rec → rec.state ≠ .pendingSecondary t) (hne : fresh ≠ t) :
    (r.concludePrimary closed now s c verdict fresh).2.challenges.find? t =
      r.challenges.find? t := by
  unfold concludePrimary
  cases verdict with
  | accepted => exact challenge_activate hs
  | needsSecondary =>
    dsimp only
    split
    · rfl
    · split
      · rw [Table.find?_insert, if_neg hne, challenges_setRecord]
      · rfl
  | denied failure => exact challenge_drop hs

theorem challenge_concludeSecondary {t' : Token} {verified : Bool}
    (hs : ∀ rec, r.record? s = some rec → rec.state ≠ .pendingSecondary t) :
    (r.concludeSecondary closed now s c t' verified).2.challenges.find? t =
      r.challenges.find? t := by
  unfold concludeSecondary
  split
  · exact challenge_activate hs
  · exact challenge_drop hs

theorem challenge_openSecondary {t' : Token} {code : Secret} (hne : t' ≠ t)
    (hs : ∀ y rec, r.challenges.find? t' = some y → r.record? y = some rec →
      rec.state ≠ .pendingSecondary t) :
    (r.openSecondary c t' code).2.challenges.find? t = r.challenges.find? t := by
  have herase : ({ r with challenges := r.challenges.erase t' } : Registry).challenges.find? t =
      r.challenges.find? t := by
    simp [hne]
  unfold openSecondary
  split
  · rfl
  · next y hy =>
    have hdrop : (({ r with challenges := r.challenges.erase t' } : Registry).drop
      y).1.challenges.find? t =
        r.challenges.find? t :=
      (challenge_drop (r := { r with challenges := r.challenges.erase t' })
        fun rec => hs y rec hy).trans herase
    dsimp only
    split
    · exact herase
    · split
      · exact hdrop
      · split
        · exact hdrop
        · exact herase

theorem challenge_claim {r' : Registry} {fresh : SessionId} {login : String}
    {remote : SocketAddress} {displaced : Option ChannelId}
    (hc : r.claim closed now fresh login c remote = .ok (r', displaced))
    (hs : ∀ old rec, r.ownerOf login = some old → r.record? old = some rec →
      rec.state ≠ .pendingSecondary t) : r'.challenges.find? t = r.challenges.find? t := by
  unfold claim at hc
  cases ho : r.ownerOf login with
  | none =>
    simp only [ho, Except.ok.injEq, Prod.mk.injEq] at hc
    rw [← hc.1]
  | some old =>
    simp only [ho] at hc
    split at hc
    · have hr' := congrArg Prod.fst (Except.ok.inj hc)
      dsimp only at hr'
      rw [← hr']
      refine challenge_drop fun rec hrec => ?_
      unfold record? at hrec
      rw [Table.find?_insert] at hrec
      split at hrec
      · obtain rfl := Option.some.inj hrec
        simp [Record.pending]
      · exact hs old rec ho hrec
    · simp at hc

theorem challenges_reuse {remote : SocketAddress} :
    (r.reuse closed window now s c remote).2.challenges = r.challenges := by
  unfold reuse
  split
  · rfl
  · dsimp only
    split
    · split
      · exact challenges_terminate
      · rfl
    · split <;> rfl
    · rfl
    · rfl

theorem challenges_close {signedOff : Bool} :
    (r.close now c s signedOff).challenges = r.challenges := by
  unfold close
  split
  · rfl
  · split
    · rfl
    · split
      · exact challenges_terminate
      · rfl

theorem challenges_releaseChannel : (r.releaseChannel now c).challenges = r.challenges := by
  unfold releaseChannel
  generalize r.sessions.keys = l
  induction l generalizing r with
  | nil => rfl
  | cons s l ih => exact ih.trans challenges_close

theorem challenges_kickout : (r.kickout s).2.1.challenges = r.challenges := by
  unfold kickout
  split
  · rfl
  · exact challenges_terminate

theorem challenge_dropAll {l : List SessionId}
    (hl : ∀ s ∈ l, ∀ rec, r.record? s = some rec → rec.state ≠ .pendingSecondary t) :
    (r.dropAll l).1.challenges.find? t = r.challenges.find? t := by
  induction l generalizing r with
  | nil => rfl
  | cons a l ih =>
    have hrest : ((r.drop a).1.dropAll l).1.challenges.find? t =
        (r.drop a).1.challenges.find? t := by
      refine ih fun s hs rec hrec => ?_
      rw [record?_drop] at hrec
      split at hrec
      · simp at hrec
      · exact hl s (List.mem_cons_of_mem _ hs) rec hrec
    exact hrest.trans (challenge_drop (hl a List.mem_cons_self))

/-- A sweep marks the records that it destroys, and leaves their challenges behind. -/
theorem challenge_sweep (named : ∀ x rec, r.record? x = some rec → rec.session = x) :
    (r.sweep closed window now).2.1.challenges.find? t = r.challenges.find? t := by
  rw [sweep_eq]
  refine challenge_dropAll (r := r.marked closed window now) fun x hx rec hrec => ?_
  obtain ⟨rec', hrec', hstale⟩ := (mem_staleSessions named).1 hx
  rw [record?_marked, hrec', Option.map_some, sweepRecord, if_pos hstale] at hrec
  obtain rfl := Option.some.inj hrec
  simp

end DurableSession.Server.Registry
