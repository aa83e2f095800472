import DurableSession.Proofs.Registry.Challenge
import DurableSession.Proofs.Server.Fate

/-!
What one operation does to a signon and to a challenge.

Main statements: `advance` gives the steps that a signon takes, `challenge_perform` the one way in
which a challenge is issued.
-/

namespace DurableSession.Server

open Lifecycle (SessionId Token Failure Secret)
open Network (SocketAddress)

/-- What an operation does to a signon: how far it was, and how far it is afterwards. -/
inductive Advance (s : State) (id : SignonId) :
    Operation → Option Signon → Option Signon → Prop where
  | kept {op : Operation} (o : Option Signon) : Advance s id op o o
  | spawned {a : Attempt} : Advance s id (.spawn id a) (s.signons.find? id) (some ⟨a, .spawned⟩)
  | claimed {fresh : SessionId} {login : String} {secret : Secret} {c : ChannelId}
      (record : (s.perform (.start id fresh)).registry.record? fresh =
        some (Record.pending fresh login c (s.remoteOf c) s.now)) :
      Advance s id (.start id fresh) (some ⟨.primary login secret c, .spawned⟩)
        (some ⟨.primary login secret c, .asking fresh login⟩)
  | refused {fresh : SessionId} {a : Attempt} {failure : Failure} :
      Advance s id (.start id fresh) (some ⟨a, .spawned⟩) (some ⟨a, .decided (.denied failure)⟩)
  | opened {fresh x : SessionId} {c : ChannelId} {t : Token} {code : Secret} {rec : Record}
      (challenge : s.registry.challenges.find? t = some x)
      (record : s.registry.record? x = some rec) (state : rec.state = .pendingSecondary t)
      (bound : rec.channel = some c) (answered : code.isEmpty = false) :
      Advance s id (.start id fresh) (some ⟨.secondary c t code, .spawned⟩)
        (some ⟨.secondary c t code, .asking x rec.login⟩)
  | answeredPrimary {verdict : PrimaryVerdict} {fresh : Token} {login login' : String}
      {secret : Secret} {c : ChannelId} {x : SessionId} :
      Advance s id (.answerPrimary id verdict fresh)
        (some ⟨.primary login secret c, .asking x login'⟩)
        (some ⟨.primary login secret c, .decided
          (s.registry.concludePrimary s.closed s.now x c verdict fresh).1⟩)
  | answeredSecondary {verified : Bool} {c : ChannelId} {t : Token} {code : Secret}
      {login : String} {x : SessionId} :
      Advance s id (.answerSecondary id verified) (some ⟨.secondary c t code, .asking x login⟩)
        (some ⟨.secondary c t code, .decided
          (s.registry.concludeSecondary s.closed s.now x c t verified).1⟩)

namespace State

variable {s : State} {id : SignonId}

theorem signons_kickout {x : SessionId} : (s.kickout x).2.signons = s.signons := by
  unfold kickout
  split <;> rfl

theorem signons_kickoutAll : s.kickoutAll.2.signons = s.signons :=
  kickoutEach_keeps (P := fun s' => s'.signons = s.signons)
    (fun _ _ h => signons_kickout.trans h) rfl

theorem openSecondary_ok {r r' : Registry} {c : ChannelId} {t : Token} {code : Secret}
    {q : Registry.SecondaryQuestion} (h : r.openSecondary c t code = (.ok q, r')) :
    ∃ rec, r.challenges.find? t = some q.session ∧ r.record? q.session = some rec ∧
      rec.state = .pendingSecondary t ∧ rec.channel = some c ∧ code.isEmpty = false ∧
      q.login = rec.login := by
  unfold Registry.openSecondary at h
  split at h
  · simp at h
  · next x hx =>
    dsimp only at h
    split at h
    · simp at h
    · next rec hrec =>
      split at h
      · simp at h
      · next hright =>
        split at h
        · simp at h
        · next hcode =>
          obtain ⟨hstate, hbound⟩ := not_or.1 hright
          obtain rfl : (⟨x, rec.login⟩ : Registry.SecondaryQuestion) = q := by
            simpa using (Prod.mk.inj h).1
          exact ⟨rec, hx, hrec, Decidable.not_not.1 hstate, Decidable.not_not.1 hbound,
            by simpa using hcode, rfl⟩

theorem advance_insert {op : Operation} {id' : SignonId} {sg : Signon}
    (h : Advance s id' op (s.signons.find? id') (some sg)) :
    Advance s id op (s.signons.find? id) ((s.signons.insert id' sg).find? id) := by
  rw [Table.find?_insert]
  split
  · next he =>
    subst he
    exact h
  · exact .kept _

theorem advance_start (hi : s.registry.Indexed) {id' : SignonId} {fresh : SessionId}
    (hf : s.registry.record? fresh = none) :
    Advance s id (.start id' fresh) (s.signons.find? id)
      ((s.perform (.start id' fresh)).signons.find? id) := by
  generalize hs' : s.perform (.start id' fresh) = s'
  have hstart : s.startSignon id' fresh = s' := hs'
  unfold startSignon at hstart
  split at hstart
  · next login secret c hid =>
    dsimp only at hstart
    split at hstart
    · rw [← hstart]
      refine advance_insert ?_
      rw [hid]
      exact .refused
    · next registry displaced hc =>
      have hcl := Registry.claimed_of_claim hi hf hc
      have hsig : s'.signons = s.signons.insert id'
          ⟨.primary login secret c, .asking fresh login⟩ := by
        rw [← hstart]
        rfl
      rw [hsig]
      refine advance_insert ?_
      rw [hid]
      refine .claimed ?_
      rw [hs', ← hstart]
      show registry.record? fresh = _
      rw [hcl.record, if_pos rfl]
  · next c t code hid =>
    dsimp only at hstart
    split at hstart
    · rw [← hstart]
      refine advance_insert ?_
      rw [hid]
      exact .refused
    · next q registry hq =>
      rw [← hstart]
      refine advance_insert ?_
      obtain ⟨rec, ht, hx, hstate, hbound, hcode, hlogin⟩ := openSecondary_ok hq
      rw [hid, hlogin]
      exact .opened ht hx hstate hbound hcode
  · rw [← hstart]
    exact .kept _

/-- **What an operation does to a signon.** -/
theorem advance (hi : s.registry.Indexed) {op : Operation}
    (hf : ∀ fresh, op.mints? = some fresh → s.registry.record? fresh = none) :
    Advance s id op (s.signons.find? id) ((s.perform op).signons.find? id) := by
  cases op with
  | spawn id' a => exact advance_insert .spawned
  | start id' fresh => exact advance_start hi (hf fresh rfl)
  | answerPrimary id' verdict fresh =>
    unfold perform
    dsimp only
    unfold answerPrimary
    split
    · next hid =>
      refine advance_insert ?_
      rw [hid]
      exact .answeredPrimary
    · exact .kept _
  | answerSecondary id' verified =>
    unfold perform
    dsimp only
    unfold answerSecondary
    split
    · next hid =>
      refine advance_insert ?_
      rw [hid]
      exact .answeredSecondary
    · exact .kept _
  | kickout x =>
    rw [perform, signons_kickout]
    exact .kept _
  | kickoutAll =>
    rw [perform, signons_kickoutAll]
    exact .kept _
  | unregister x c =>
    obtain ⟨routes, hr⟩ := s.perform_unregister x c
    rw [hr]
    exact .kept _
  | _ => exact .kept _

/-! ### Outcomes -/

theorem outcome?_eq {a : Attempt} {o : Outcome} (h : s.signons.find? id = some ⟨a, .decided o⟩) :
    s.outcome? id = some o := by
  unfold outcome?
  rw [h]

theorem decided_of_outcome? {o : Outcome} (h : s.outcome? id = some o) :
    ∃ a, s.signons.find? id = some ⟨a, .decided o⟩ := by
  unfold outcome? at h
  split at h
  · next a o' hid =>
    obtain rfl := Option.some.inj h
    exact ⟨a, hid⟩
  · simp at h

theorem decided_of_answerPrimary {login login' : String} {secret : Secret} {c : ChannelId}
    {x : SessionId} {verdict : PrimaryVerdict} {fresh : Token}
    (h : s.signons.find? id = some ⟨.primary login secret c, .asking x login'⟩) :
    (s.perform (.answerPrimary id verdict fresh)).signons.find? id =
      some ⟨.primary login secret c, .decided
        (s.registry.concludePrimary s.closed s.now x c verdict fresh).1⟩ := by
  unfold perform
  dsimp only
  unfold answerPrimary
  rw [h]
  exact (Table.find?_insert ..).trans (if_pos rfl)

theorem decided_of_answerSecondary {c : ChannelId} {t : Token} {code : Secret} {login : String}
    {x : SessionId} {verified : Bool}
    (h : s.signons.find? id = some ⟨.secondary c t code, .asking x login⟩) :
    (s.perform (.answerSecondary id verified)).signons.find? id =
      some ⟨.secondary c t code, .decided
        (s.registry.concludeSecondary s.closed s.now x c t verified).1⟩ := by
  unfold perform
  dsimp only
  unfold answerSecondary
  rw [h]
  exact (Table.find?_insert ..).trans (if_pos rfl)

/-- An answer to a signon's question acts on the session that the question was about. -/
theorem registry_of_answerPrimary {login login' : String} {secret : Secret} {c : ChannelId}
    {x : SessionId} {verdict : PrimaryVerdict} {fresh : Token}
    (h : s.signons.find? id = some ⟨.primary login secret c, .asking x login'⟩) :
    (s.perform (.answerPrimary id verdict fresh)).registry =
      (s.registry.concludePrimary s.closed s.now x c verdict fresh).2 := by
  unfold perform
  dsimp only
  unfold answerPrimary
  rw [h]
  rfl

theorem registry_of_answerSecondary {c : ChannelId} {t : Token} {code : Secret} {login : String}
    {x : SessionId} {verified : Bool}
    (h : s.signons.find? id = some ⟨.secondary c t code, .asking x login⟩) :
    (s.perform (.answerSecondary id verified)).registry =
      (s.registry.concludeSecondary s.closed s.now x c t verified).2 := by
  unfold perform
  dsimp only
  unfold answerSecondary
  rw [h]
  rfl

theorem record?_of_needsSecondary {login login' : String} {secret : Secret} {c : ChannelId}
    {x : SessionId} {t : Token} {rec : Record}
    (h : s.signons.find? id = some ⟨.primary login secret c, .asking x login'⟩)
    (hx : s.registry.record? x = some rec) (hstate : rec.state = .pendingPrimary) :
    (s.perform (.answerPrimary id .needsSecondary t)).registry.record? x =
      some { rec with state := .pendingSecondary t } := by
  rw [registry_of_answerPrimary h]
  unfold Registry.concludePrimary
  simp only [hx, hstate, if_true]
  exact Registry.record?_setRecord.trans (if_pos rfl)

/-! ### Challenges -/

theorem challenge_of_startSignon {id : SignonId} {fresh x : SessionId} {t : Token}
    (hi : s.registry.Indexed) (hf : s.registry.record? fresh = none)
    (h : (s.startSignon id fresh).registry.challenges.find? t = some x) :
    s.registry.challenges.find? t = some x := by
  unfold startSignon at h
  split at h
  · dsimp only at h
    split at h
    · exact h
    · next hc => exact (Registry.claimed_of_claim hi hf hc).challenge t x h
  · next c t' code _ =>
    suffices hopen : (s.registry.openSecondary c t' code).2.challenges.find? t = some x from
      Registry.challenge_of_openSecondary hopen
    dsimp only at h
    split at h
    · next hq =>
      rw [hq]
      exact h
    · next hq =>
      rw [hq]
      exact h
  · exact h

/-- An answer to a challenge ends it, whatever comes of the answer. -/
theorem challenge_start_secondary {id : SignonId} {fresh : SessionId} {c : ChannelId} {t : Token}
    {code : Secret} (h : s.signons.find? id = some ⟨.secondary c t code, .spawned⟩) :
    (s.perform (.start id fresh)).registry.challenges.find? t = none := by
  have hopen : (s.registry.openSecondary c t code).2.challenges.find? t = none :=
    Registry.challenge_openSecondary_self
  unfold perform
  dsimp only
  unfold startSignon
  rw [h]
  dsimp only
  split
  · next hq =>
    rw [hq] at hopen
    exact hopen
  · next hq =>
    rw [hq] at hopen
    exact hopen

theorem challenge_of_kickout {x y : SessionId} {t : Token}
    (h : (s.kickout y).2.registry.challenges.find? t = some x) :
    s.registry.challenges.find? t = some x := by
  unfold kickout at h
  split at h
  · exact h
  · next registry channel hk =>
    refine Registry.challenge_of_kickout (s := y) ?_
    rw [hk]
    exact h

/-- A challenge was open before, or is due after a primary authenticator's answer. -/
theorem challenge_perform (hi : s.registry.Indexed) {op : Operation}
    (hf : ∀ fresh, op.mints? = some fresh → s.registry.record? fresh = none) {t : Token}
    {x : SessionId} (h : (s.perform op).registry.challenges.find? t = some x) :
    s.registry.challenges.find? t = some x ∨
      ∃ id login secret c login' rec, op = .answerPrimary id .needsSecondary t ∧
        s.signons.find? id = some ⟨.primary login secret c, .asking x login'⟩ ∧
        s.registry.record? x = some rec ∧ rec.state = .pendingPrimary := by
  cases op with
  | start id fresh => exact .inl (challenge_of_startSignon hi (hf fresh rfl) h)
  | answerPrimary id verdict fresh =>
    unfold perform at h
    dsimp only at h
    unfold answerPrimary at h
    split at h
    · next login secret c y login' hid =>
      rcases Registry.challenge_of_concludePrimary
          (h : (s.registry.concludePrimary s.closed s.now y c verdict fresh).2.challenges.find? t
            = some x) with h | ⟨rfl, rfl, rfl, rec, hrec, hstate⟩
      · exact .inl h
      · exact .inr ⟨id, login, secret, c, login', rec, rfl, hid, hrec, hstate⟩
    · exact .inl h
  | answerSecondary id verified =>
    unfold perform at h
    dsimp only at h
    unfold answerSecondary at h
    split at h
    · exact .inl (Registry.challenge_of_concludeSecondary h)
    · exact .inl h
  | reuse y c => exact .inl (Registry.challenge_of_reuse h)
  | close c y signedOff => exact .inl (Registry.challenge_of_close h)
  | release c => exact .inl (Registry.challenge_of_releaseChannel h)
  | kickout y => exact .inl (challenge_of_kickout h)
  | kickoutAll =>
    refine .inl (kickoutEach_keeps (P := fun s' => s'.registry.challenges.find? t = some x →
      s.registry.challenges.find? t = some x) ?_ (fun h => h) h)
    exact fun _ _ ih h => ih (challenge_of_kickout h)
  | sweep => exact .inl (Registry.challenge_of_sweep h)
  | unregister y c =>
    obtain ⟨routes, hr⟩ := s.perform_unregister y c
    rw [hr] at h
    exact .inl h
  | _ => exact .inl h

end State

end DurableSession.Server
