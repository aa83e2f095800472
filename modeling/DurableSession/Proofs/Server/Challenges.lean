import DurableSession.Proofs.Server.Authentication

/-!
Records that wait for a second factor, and their challenges.

A record that waits for a code can still get it: its challenge is open, or an answer to it is being
verified. Main statements: `concluded_of_asking` for the signon that asks, `challenge_stays` for one
operation, and `challenge_of_waiting` and `eq_of_token` for a run.
-/

namespace DurableSession.Server

open Lifecycle (SessionId Token Failure Secret)

/-! ### What answers do -/

/-- The token of the challenge that a verdict wants. -/
def PrimaryVerdict.due? (fresh : Token) : PrimaryVerdict → Option Token
  | needsSecondary => some fresh
  | _ => none

/-- What an answer makes of the session that it is about, when the signon is on the channel `c`: how
the signon ends, and the record afterwards; `due` is the token of a challenge that is wanted. -/
inductive Conclusion (s : State) (x : SessionId) (rec : Record) (c : ChannelId)
    (due : Option Token) :
    Outcome → Option Record → Prop where
  | granted (attended : s.closed c = false) :
      Conclusion s x rec c due (.accepted x rec.login)
        (some { rec with state := .active, lastActiveAt := s.now })
  | challenged {t : Token} (wanted : due = some t) :
      Conclusion s x rec c due (.needsSecondary t) (some { rec with state := .pendingSecondary t })
  | refused (failure : Failure) : Conclusion s x rec c due (.denied failure) none

namespace State

variable {minted : SessionId → Prop} {s : State} {op : Operation} {id : SignonId} {x : SessionId}
  {rec : Record} {t : Token} {c : ChannelId}

theorem conclusion_of_activate {due token : Option Token} (hx : s.registry.record? x = some rec) :
    Conclusion s x rec c due (s.registry.activate s.closed s.now x c token).1
      ((s.registry.activate s.closed s.now x c token).2.record? x) := by
  rw [Registry.record?_activate, if_pos rfl, hx, Option.bind_some]
  unfold Registry.activate Registry.activatedRecord
  rw [hx]
  dsimp only
  split
  · next hgrant => exact .granted (by simpa using (Bool.and_eq_true_iff.1 hgrant).2)
  · exact .refused _

theorem conclusion_of_drop {due : Option Token} (failure : Failure) :
    Conclusion s x rec c due (.denied failure) ((s.registry.drop x).1.record? x) := by
  rw [Registry.record?_drop, if_pos rfl]
  exact .refused failure

/-- **The primary authenticator's answer** ends a signon. -/
theorem conclusion_of_answerPrimary (h : Coherent minted s) {login login' : String}
    {secret : Secret} {verdict : PrimaryVerdict} {fresh : Token}
    (hid : s.signons.find? id = some ⟨.primary login secret c, .asking x login'⟩)
    (hx : s.registry.record? x = some rec) :
    ∃ o, (s.perform (.answerPrimary id verdict fresh)).signons.find? id =
        some ⟨.primary login secret c, .decided o⟩ ∧
      Conclusion s x rec c (verdict.due? fresh) o
        ((s.perform (.answerPrimary id verdict fresh)).registry.record? x) := by
  refine ⟨_, decided_of_answerPrimary hid, ?_⟩
  have hstate : rec.state = .pendingPrimary := (h.asking id _ x login' rec hid hx).1
  rw [registry_of_answerPrimary hid]
  unfold Registry.concludePrimary
  cases verdict with
  | accepted => exact conclusion_of_activate hx
  | needsSecondary =>
    simp only [hx, hstate, if_true]
    show Conclusion _ _ _ _ _ _ ((s.registry.setRecord x _).record? x)
    rw [Registry.record?_setRecord, if_pos rfl]
    exact .challenged rfl
  | denied failure => exact conclusion_of_drop failure

/-- **The secondary authenticator's answer** ends a signon. -/
theorem conclusion_of_answerSecondary {code : Secret} {login : String} {verified : Bool}
    (hid : s.signons.find? id = some ⟨.secondary c t code, .asking x login⟩)
    (hx : s.registry.record? x = some rec) :
    ∃ o, (s.perform (.answerSecondary id verified)).signons.find? id =
        some ⟨.secondary c t code, .decided o⟩ ∧
      Conclusion s x rec c none o ((s.perform (.answerSecondary id verified)).registry.record? x) :=
  by
  refine ⟨_, decided_of_answerSecondary hid, ?_⟩
  rw [registry_of_answerSecondary hid]
  unfold Registry.concludeSecondary
  split
  · exact conclusion_of_activate hx
  · exact conclusion_of_drop _

/-- An operation that answers a signon; `due` is the token of the challenge that the answer
wants. -/
inductive Answers (id : SignonId) : Attempt → Operation → Option Token → Prop where
  | primary {login : String} {secret : Secret} {c : ChannelId} {verdict : PrimaryVerdict}
      {fresh : Token} :
      Answers id (.primary login secret c) (.answerPrimary id verdict fresh) (verdict.due? fresh)
  | secondary {c : ChannelId} {t : Token} {code : Secret} {verified : Bool} :
      Answers id (.secondary c t code) (.answerSecondary id verified) none

/-- **A signon that asks** about a session that has a record goes on to ask until it is answered. -/
theorem concluded_of_asking (h : Coherent minted s) (ha : op.Applicable s)
    (hf : ∀ x ∈ op.mints?, ¬ minted x) {a : Attempt} {login : String}
    (hid : s.signons.find? id = some ⟨a, .asking x login⟩) (hx : s.registry.record? x = some rec) :
    (s.perform op).signons.find? id = some ⟨a, .asking x login⟩ ∨
      ∃ o due, Answers id a op due ∧ (s.perform op).signons.find? id = some ⟨a, .decided o⟩ ∧
        Conclusion s x rec a.channel due o ((s.perform op).registry.record? x) := by
  have hadv := h.advance hf id
  generalize hb : s.signons.find? id = before at hadv
  generalize hq : (s.perform op).signons.find? id = after at hadv ⊢
  rw [hb] at hid
  cases hadv with
  | kept => exact .inl hid
  | spawned =>
    have hnew : s.signons.find? id = none := ha.1
    simp [hid] at hnew
  | answeredPrimary =>
    simp only [Option.some.injEq, Signon.mk.injEq, Progress.asking.injEq] at hid
    obtain ⟨rfl, rfl, rfl⟩ := hid
    obtain ⟨o, hdecided, hconclusion⟩ := conclusion_of_answerPrimary h hb hx
    exact .inr ⟨o, _, .primary, hq.symm.trans hdecided, hconclusion⟩
  | answeredSecondary =>
    simp only [Option.some.injEq, Signon.mk.injEq, Progress.asking.injEq] at hid
    obtain ⟨rfl, rfl, rfl⟩ := hid
    obtain ⟨o, hdecided, hconclusion⟩ := conclusion_of_answerSecondary hb hx
    exact .inr ⟨o, _, .secondary, hq.symm.trans hdecided, hconclusion⟩
  | _ => simp at hid

/-! ### Challenges that stay open -/

/-- Whoever answers the challenge of a record has it verified, or the record goes. -/
theorem asks_or_gone (fresh : SessionId) {code : Secret}
    (hid : s.signons.find? id = some ⟨.secondary c t code, .spawned⟩)
    (ht : s.registry.challenges.find? t = some x) (hx : s.registry.record? x = some rec) :
    (s.perform (.start id fresh)).Asks id x ∨
      (s.perform (.start id fresh)).registry.record? x = none := by
  generalize hs' : s.perform (.start id fresh) = s'
  have hstart : s.startSignon id fresh = s' := hs'
  unfold startSignon at hstart
  rw [hid] at hstart
  dsimp only at hstart
  split at hstart
  · next failure registry hopen =>
    right
    have hreg : s'.registry = registry := by
      rw [← hstart]
      rfl
    rw [hreg]
    unfold Registry.openSecondary at hopen
    have hx' :
        ({ s.registry with challenges := s.registry.challenges.erase t } : Registry).record? x =
          some rec := hx
    simp only [ht, hx'] at hopen
    have hdrop : (({ s.registry with challenges := s.registry.challenges.erase t } :
        Registry).drop x).1.record? x = none :=
      Registry.record?_drop.trans (if_pos rfl)
    split at hopen
    · rw [← (Prod.mk.inj hopen).2]
      exact hdrop
    · split at hopen
      · rw [← (Prod.mk.inj hopen).2]
        exact hdrop
      · simp at hopen
  · next q registry hopen =>
    left
    obtain ⟨rec', ht', -⟩ := openSecondary_ok hopen
    obtain rfl := Option.some.inj (ht.symm.trans ht')
    refine ⟨.secondary c t code, q.login, ?_⟩
    rw [← hstart]
    exact (Table.find?_insert ..).trans (if_pos rfl)

theorem challenge_start_primary (hi : s.registry.Indexed) {fresh : SessionId} {login : String}
    {secret : Secret} (hf : s.registry.record? fresh = none)
    (hid : s.signons.find? id = some ⟨.primary login secret c, .spawned⟩)
    (hunique : ∀ y rec', s.registry.record? y = some rec' →
      rec'.state = .pendingSecondary t → y = x)
    (hspared : ∀ rec, s.registry.record? x = some rec →
      (s.perform (.start id fresh)).registry.record? x ≠ none) :
    (s.perform (.start id fresh)).registry.challenges.find? t = s.registry.challenges.find? t := by
  generalize hs' : s.perform (.start id fresh) = s' at hspared
  have hstart : s.startSignon id fresh = s' := hs'
  unfold startSignon at hstart
  rw [hid] at hstart
  dsimp only at hstart
  split at hstart
  · rw [← hstart]
    rfl
  · next registry displaced hc =>
    have hreg : s'.registry = registry := by
      rw [← hstart]
      rfl
    rw [hreg] at hspared ⊢
    refine Registry.challenge_claim hc fun old rec' ho hold hstate => ?_
    -- the record that waits for the token would be displaced
    obtain rfl := hunique old rec' hold hstate
    refine hspared rec' hold ?_
    have hne : fresh ≠ old := by
      rintro rfl
      simp [hf] at hold
    rw [(Registry.claimed_of_claim hi hf hc).record, if_neg hne, if_pos ho]

theorem challenge_start_secondary_ne {fresh : SessionId} {t' : Token} {code : Secret}
    (h : Coherent minted s) (hid : s.signons.find? id = some ⟨.secondary c t' code, .spawned⟩)
    (hne : t' ≠ t) :
    (s.perform (.start id fresh)).registry.challenges.find? t = s.registry.challenges.find? t := by
  have hopen : (s.registry.openSecondary c t' code).2.challenges.find? t =
      s.registry.challenges.find? t := by
    refine Registry.challenge_openSecondary hne fun y rec ht' hy hstate => ?_
    rw [h.challenge t' y rec ht' hy] at hstate
    exact hne (RecordState.pendingSecondary.inj hstate)
  unfold perform
  dsimp only
  unfold startSignon
  rw [hid]
  dsimp only
  split
  · next hq =>
    rw [hq] at hopen
    exact hopen
  · next hq =>
    rw [hq] at hopen
    exact hopen

theorem challenges_kickout {y : SessionId} :
    (s.kickout y).2.registry.challenges = s.registry.challenges := by
  have hk : (s.registry.kickout y).2.1.challenges = s.registry.challenges :=
    Registry.challenges_kickout
  unfold kickout
  split
  · rfl
  · next hq =>
    rw [hq] at hk
    exact hk

/-- The operation takes up an answer to a challenge. -/
def TakesUp (s : State) (t : Token) : Operation → Prop
  | .start id _ => ∃ c code, s.signons.find? id = some ⟨.secondary c t code, .spawned⟩
  | _ => False

/-- A challenge stays open until an answer is taken up, or a signon displaces the record that waits
for it. -/
theorem challenge_kept (h : Coherent minted s) (hf : ∀ x ∈ op.mints?, ¬ minted x)
    (hnew : op.issues? ≠ some t) (hanswer : ¬ s.TakesUp t op)
    (hunique : ∀ y rec', s.registry.record? y = some rec' →
      rec'.state = .pendingSecondary t → y = x)
    (hspared : ∀ id fresh, op = .start id fresh → ∀ rec, s.registry.record? x = some rec →
      (s.perform op).registry.record? x ≠ none)
    (ht : s.registry.challenges.find? t = some x) :
    (s.perform op).registry.challenges.find? t = some x := by
  refine Eq.trans ?_ ht
  cases op with
  | start id fresh =>
    have hfresh := h.record?_fresh hf fresh rfl
    by_cases hid : ∃ a, s.signons.find? id = some ⟨a, .spawned⟩
    · obtain ⟨a, hid⟩ := hid
      cases a with
      | primary login secret c =>
        exact challenge_start_primary h.index hfresh hid hunique (hspared id fresh rfl)
      | secondary c t' code =>
        refine challenge_start_secondary_ne h hid ?_
        rintro rfl
        exact hanswer ⟨c, code, hid⟩
    · have hstart : s.perform (.start id fresh) = s := by
        unfold perform
        dsimp only
        unfold startSignon
        split
        · next hid' => exact absurd ⟨_, hid'⟩ hid
        · next hid' => exact absurd ⟨_, hid'⟩ hid
        · rfl
      rw [hstart]
  | answerPrimary id verdict fresh =>
    unfold perform
    dsimp only
    unfold answerPrimary
    split
    · next login secret c y login' hid =>
      refine Registry.challenge_concludePrimary (fun rec' hy hstate => ?_) fun he =>
        hnew (congrArg some he)
      rw [(h.asking id _ y login' rec' hid hy).1] at hstate
      simp [Attempt.token?, Registry.waitingState] at hstate
    · rfl
  | answerSecondary id verified =>
    unfold perform
    dsimp only
    unfold answerSecondary
    split
    · next c t' code y login hid =>
      refine Registry.challenge_concludeSecondary fun rec' hy hstate => ?_
      -- nobody verifies an answer to a challenge that is open
      obtain rfl := hunique y rec' hy hstate
      exact h.unasked t y id ht ⟨_, _, hid⟩
    · rfl
  | reuse y c => exact congrArg (Table.find? · t) Registry.challenges_reuse
  | close c y signedOff => exact congrArg (Table.find? · t) Registry.challenges_close
  | release c => exact congrArg (Table.find? · t) Registry.challenges_releaseChannel
  | kickout y => exact congrArg (Table.find? · t) challenges_kickout
  | kickoutAll =>
    refine congrArg (Table.find? · t) ?_
    exact kickoutEach_keeps (P := fun s' => s'.registry.challenges = s.registry.challenges)
      (fun _ _ hc => challenges_kickout.trans hc) rfl
  | sweep => exact Registry.challenge_sweep h.index.named
  | unregister y c =>
    obtain ⟨routes, hr⟩ := s.perform_unregister y c
    rw [hr]
  | _ => rfl

/-- While a record waits for a code, its challenge stays open until an answer is taken up. -/
theorem challenge_stays (h : Coherent minted s) (hf : ∀ x ∈ op.mints?, ¬ minted x)
    (hnew : op.issues? ≠ some t)
    (hunique : ∀ y rec', s.registry.record? y = some rec' →
      rec'.state = .pendingSecondary t → y = x)
    (ht : s.registry.challenges.find? t = some x) (hx : s.registry.record? x = some rec)
    (hx' : (s.perform op).registry.record? x = some rec) :
    (s.perform op).registry.challenges.find? t = some x ∨ ∃ id, (s.perform op).Asks id x := by
  by_cases hanswer : s.TakesUp t op
  · cases op with
    | start id fresh =>
      obtain ⟨c, code, hid⟩ := hanswer
      rcases asks_or_gone fresh hid ht hx with hasks | hgone
      · exact .inr ⟨id, hasks⟩
      · simp [hgone] at hx'
    | _ => exact hanswer.elim
  · exact .inl (challenge_kept h hf hnew hanswer hunique (by simp [hx']) ht)

theorem asks_stays (h : Coherent minted s) (ha : op.Applicable s) (hf : ∀ x ∈ op.mints?, ¬ minted x)
    (hasks : s.Asks id x) (hx : s.registry.record? x = some rec)
    (hstate : rec.state = .pendingSecondary t)
    (hx' : (s.perform op).registry.record? x = some rec) : (s.perform op).Asks id x := by
  obtain ⟨a, login, hid⟩ := hasks
  rcases concluded_of_asking h ha hf hid hx with hkept | ⟨o, due, hanswers, -, hconclusion⟩
  · exact ⟨a, login, hkept⟩
  · have hwaiting := (h.asking id a x login rec hid hx).1
    rw [hx'] at hconclusion
    generalize hr : some rec = r at hconclusion
    cases hconclusion with
    | granted =>
      rw [Option.some.inj hr] at hstate
      simp at hstate
    | challenged wanted =>
      cases hanswers with
      | primary => simp [hstate, Attempt.token?, Registry.waitingState] at hwaiting
      | secondary => simp at wanted
    | refused => simp at hr

end State

section Run

variable {window : Nat} {ops : List Operation} {x y : SessionId} {rec rec' : Record} {t : Token}

theorem eq_of_token (hr : Run window ops)
    (hx : (stateAfter window ops).registry.record? x = some rec)
    (hy : (stateAfter window ops).registry.record? y = some rec')
    (hstate : rec.state = .pendingSecondary t) (hstate' : rec'.state = .pendingSecondary t) :
    x = y := by
  obtain ⟨o, -, -, hsupports⟩ := (traced_of_run hr).record x rec hx
  obtain ⟨o', -, -, hsupports'⟩ := (traced_of_run hr).record y rec' hy
  simp only [Origin.Supports, hstate] at hsupports
  simp only [Origin.Supports, hstate'] at hsupports'
  exact hsupports.2.unique hr hsupports'.2

/-- **A record that waits for a code** can get it: its challenge is open, or an answer is being
verified. -/
theorem challenge_of_waiting (hr : Run window ops)
    (hx : (stateAfter window ops).registry.record? x = some rec)
    (hstate : rec.state = .pendingSecondary t) :
    (stateAfter window ops).registry.challenges.find? t = some x ∨
      ∃ id, (stateAfter window ops).Asks id x := by
  induction hr generalizing rec with
  | nil => simp [Registry.record?] at hx
  | @snoc ops op hops ha ih =>
    have hcoherent := coherent_of_run hops
    rw [stateAfter_snoc] at hx ⊢
    have hfate := hcoherent.fate ha.2.1 x
    rw [hx] at hfate
    generalize ho : (stateAfter window ops).registry.record? x = o at hfate
    cases hfate with
    | kept =>
      rcases ih ho hstate with ht | ⟨id, hasks⟩
      · have hnew : op.issues? ≠ some t :=
          fun he => ha.2.2 t he ((traced_of_run hops).issued t x ht)
        exact State.challenge_stays hcoherent ha.2.1 hnew
          (fun y rec' hy hstate' => eq_of_token hops hy ho hstate' hstate) ht ho hx
      · exact .inr ⟨id, State.asks_stays hcoherent ha.1 ha.2.1 hasks ho hstate hx⟩
    | minted => simp [Record.pending] at hstate
    | @challenged id fresh login login' secret c rec signon state =>
      obtain rfl := RecordState.pendingSecondary.inj hstate
      left
      rw [State.registry_of_answerPrimary signon]
      unfold Registry.concludePrimary
      simp only [ho, state, if_true]
      exact (Table.find?_insert ..).trans (if_pos rfl)
    | accepted signon state attended => simp at hstate
    | verified signon state attended => simp at hstate
    | resumed free => simp at hstate
    | disconnected state why => simp [Record.disconnect] at hstate

end Run

end DurableSession.Server
