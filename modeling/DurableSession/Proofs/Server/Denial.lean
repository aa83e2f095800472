import DurableSession.Proofs.Registry.Claim
import DurableSession.Proofs.Server.Sharing

/-!
What a signon with a password leaves that is denied, when nothing else happens between its call and
its end.

A signon claims its login before anybody looks at the password. If the login is free, or its owner
stays, a denial leaves nothing; if the owner could be reclaimed, it is gone, whatever the password
was. Main statements: `start_free`, `start_stale` and `start_kept`, how a signon begins, and
`aftermath_of_denied`, what is left of it. `wrong_password_destroys` shows the second case at work.
-/

namespace DurableSession.Server

open Lifecycle (SessionId Token Failure Secret)

/-! ### How a signon begins -/

namespace State

variable {s : State} {id : SignonId} {fresh old : SessionId} {login : String} {secret : Secret}
  {c : ChannelId} {rec : Record}

@[simp] theorem signons_ask {a : Attempt} :
    (s.ask id a fresh login).signons = s.signons.insert id ⟨a, .asking fresh login⟩ := rfl

@[simp] theorem signons_decide {a : Attempt} {o : Outcome} :
    (s.decide id a o).signons = s.signons.insert id ⟨a, .decided o⟩ := rfl

def entered (s : State) (fresh : SessionId) (login : String) (c : ChannelId) : Registry :=
  s.registry.entered s.now fresh login c (s.remoteOf c)

theorem start_free (fresh : SessionId)
    (hid : s.signons.find? id = some ⟨.primary login secret c, .spawned⟩)
    (ho : s.registry.ownerOf login = none) :
    s.perform (.start id fresh) =
      { s with registry := s.entered fresh login c }.ask id (.primary login secret c)
        fresh login := by
  show s.startSignon id fresh = _
  unfold startSignon
  rw [hid]
  dsimp only
  rw [Registry.claim_of_free ho]
  rfl

theorem start_stale (hid : s.signons.find? id = some ⟨.primary login secret c, .spawned⟩)
    (hf : s.registry.record? fresh = none) (ho : s.registry.ownerOf login = some old)
    (hold : s.registry.record? old = some rec) (hstale : rec.reclaimable s.closed = true) :
    s.perform (.start id fresh) =
      { s with
        registry := ((s.entered fresh login c).drop old).1
        channels := s.channels.kickAll rec.channel.toList }.ask id (.primary login secret c)
          fresh login := by
  have hne : fresh ≠ old := by
    rintro rfl
    simp [hf] at hold
  have hchannel : ((s.entered fresh login c).drop old).2 = rec.channel := by
    rw [Registry.drop_snd]
    unfold entered
    rw [Registry.record?_entered, if_neg hne, hold]
    rfl
  show s.startSignon id fresh = _
  unfold startSignon
  rw [hid]
  dsimp only
  rw [Registry.claim_of_stale ho hold hstale]
  dsimp only
  rw [← hchannel]
  rfl

theorem start_kept (fresh : SessionId)
    (hid : s.signons.find? id = some ⟨.primary login secret c, .spawned⟩)
    (ho : s.registry.ownerOf login = some old) (hold : s.registry.record? old = some rec)
    (hkept : rec.reclaimable s.closed = false) :
    s.perform (.start id fresh) = s.decide id (.primary login secret c)
      (.denied .sessionAlreadyExists) := by
  show s.startSignon id fresh = _
  unfold startSignon
  rw [hid]
  dsimp only
  rw [Registry.claim_of_kept ho hold hkept]

/-- A signon that is denied after it was asked about takes its record with it. -/
theorem registry_of_denied {a : Attempt} {failure : Failure} {verdict : PrimaryVerdict} {t : Token}
    (hid : s.signons.find? id = some ⟨.primary login secret c, .asking fresh login⟩)
    (hrec : s.registry.record? fresh = some rec) (hstate : rec.state = .pendingPrimary)
    (hdenied : (s.perform (.answerPrimary id verdict t)).signons.find? id =
      some ⟨a, .decided (.denied failure)⟩) :
    (s.perform (.answerPrimary id verdict t)).registry = (s.registry.drop fresh).1 := by
  rw [decided_of_answerPrimary hid, Option.some.injEq, Signon.mk.injEq, Progress.decided.injEq]
    at hdenied
  have hdenied := hdenied.2
  rw [registry_of_answerPrimary hid]
  unfold Registry.concludePrimary at hdenied ⊢
  cases verdict with
  | accepted =>
    unfold Registry.activate at hdenied ⊢
    rw [hrec] at hdenied ⊢
    dsimp only at hdenied ⊢
    split
    · next hgrant =>
      rw [if_pos hgrant] at hdenied
      simp at hdenied
    · rfl
  | needsSecondary => simp [hrec, hstate] at hdenied
  | denied failure' => rfl

end State

/-! ### What is left -/

/-- A signon with a password and its answer, with nothing in between. -/
def undisturbed (id : SignonId) (login : String) (secret : Secret) (c : ChannelId)
    (fresh : SessionId) (verdict : PrimaryVerdict) (t : Token) : List Operation :=
  [.spawn id (.primary login secret c), .start id fresh, .answerPrimary id verdict t]

/-- **What a denied signon leaves**, when `s` is the state before and `s'` the one afterwards. -/
inductive Aftermath (s s' : State) (login : String) : Prop where
  /-- Nothing: nobody owned the login, or its owner stays. -/
  | untouched
      (owner : ∀ x rec, s.registry.ownerOf login = some x → s.registry.record? x = some rec →
        rec.reclaimable s.closed = false)
      (registry : s'.registry = s.registry) (channels : s'.channels = s.channels)
  /-- The login is free, since its owner could be reclaimed; all else is as it was, and no open
  channel is closed. -/
  | takenOver (old : SessionId) (rec : Record) (owner : s.registry.ownerOf login = some old)
      (record : s.registry.record? old = some rec) (stale : rec.reclaimable s.closed = true)
      (sessions : ∀ x, s'.registry.record? x = if old = x then none else s.registry.record? x)
      (logins : ∀ l, s'.registry.ownerOf l = if login = l then none else s.registry.ownerOf l)
      (challenges : ∀ t, s'.registry.challenges.find? t =
        if rec.state = .pendingSecondary t then none else s.registry.challenges.find? t)
      (channels : s'.channels = s.channels.kickAll rec.channel.toList)
      (closed : ∀ d, s'.closed d = s.closed d)

/-- Taking over a login and giving it up again leaves it free. -/
theorem aftermath_of_takenOver {minted : SessionId → Prop} {s s' : State} {login : String}
    {old : SessionId} {rec : Record} (h : Coherent minted s)
    (ho : s.registry.ownerOf login = some old) (hold : s.registry.record? old = some rec)
    (hstale : rec.reclaimable s.closed = true) (hregistry : s'.registry = (s.registry.drop old).1)
    (hchannels : s'.channels = s.channels.kickAll rec.channel.toList) : Aftermath s s' login := by
  have hlogin : rec.login = login := by
    obtain ⟨rec', hold', hlogin⟩ := h.index.backed login old ho
    obtain rfl := Option.some.inj (hold.symm.trans hold')
    exact hlogin
  refine .takenOver old rec ho hold hstale
    (fun x => ?_) (fun l => ?_) (fun t => ?_) hchannels fun d => ?_
  · rw [hregistry]
    exact Registry.record?_drop
  · rw [hregistry, Registry.ownerOf_drop]
    by_cases hl : login = l
    · subst hl
      simp [hold, hlogin, ho]
    · simp [hold, hlogin, hl]
  · rw [hregistry, Registry.challenges_drop hold]
    unfold Registry.forgetChallenge
    cases hstate : rec.state with
    | pendingSecondary t' =>
      show (s.registry.challenges.erase t').find? t = _
      simp only [Table.find?_erase, RecordState.pendingSecondary.injEq]
    | _ => rfl
  · show s'.channels.isClosed d = s.channels.isClosed d
    rw [hchannels, Channels.isClosed_kickAll]
    -- the channel that is kicked was closed already
    cases hd : s.channels.isClosed d with
    | true => rfl
    | false =>
      rw [Bool.false_or, decide_eq_false_iff_not, Option.mem_toList]
      intro hbound
      have hclosed : s.channels.isClosed d = true :=
        State.closed_of_reclaimable h hold hbound hstale
      simp [hd] at hclosed

/-- What is left of a signon that has been spawned, when it runs to its end at once. -/
theorem State.aftermath {minted : SessionId → Prop} {s : State} {id : SignonId} {login : String}
    {secret : Secret} {c : ChannelId} {fresh : SessionId} {verdict : PrimaryVerdict} {t : Token}
    {failure : Failure} (h : Coherent minted s)
    (hid : s.signons.find? id = some ⟨.primary login secret c, .spawned⟩)
    (hf : s.registry.record? fresh = none)
    (hdenied : ((s.perform (.start id fresh)).perform (.answerPrimary id verdict t)).outcome? id =
      some (.denied failure)) :
    Aftermath s ((s.perform (.start id fresh)).perform (.answerPrimary id verdict t)) login := by
  obtain ⟨a, hdenied⟩ := decided_of_outcome? hdenied
  have hsignon (s : State) (p : Progress) :
      (s.signons.insert id ⟨.primary login secret c, p⟩).find? id =
        some ⟨.primary login secret c, p⟩ :=
    (Table.find?_insert ..).trans (if_pos rfl)
  cases ho : s.registry.ownerOf login with
  | none =>
    rw [start_free fresh hid ho] at hdenied ⊢
    have hregistry :=
      registry_of_denied (hsignon _ _) (Registry.record?_entered.trans (if_pos rfl)) rfl hdenied
    refine .untouched (by simp [ho]) ?_ channels_answerPrimary
    exact hregistry.trans (Registry.drop_entered hf ho)
  | some old =>
    obtain ⟨rec, hold, -⟩ := h.index.backed login old ho
    cases hstale : rec.reclaimable s.closed with
    | false =>
      rw [start_kept fresh hid ho hold hstale]
      -- the answer finds the signon decided
      have hover (s : State) (o : Outcome) : ((s.decide id (.primary login secret c) o).perform
          (.answerPrimary id verdict t)) = s.decide id (.primary login secret c) o := by
        show (s.decide id (.primary login secret c) o).answerPrimary id verdict t = _
        unfold answerPrimary
        rw [signons_decide, hsignon s]
      rw [hover]
      refine .untouched (fun x rec' hx hrec' => ?_) rfl rfl
      obtain rfl := Option.some.inj (ho.symm.trans hx)
      obtain rfl := Option.some.inj (hold.symm.trans hrec')
      exact hstale
    | true =>
      rw [start_stale hid hf ho hold hstale] at hdenied ⊢
      have hne : old ≠ fresh := by
        rintro rfl
        simp [hf] at hold
      have hrec : ((s.entered fresh login c).drop old).1.record? fresh =
          some (Record.pending fresh login c (s.remoteOf c) s.now) := by
        rw [Registry.record?_drop, if_neg hne]
        exact Registry.record?_entered.trans (if_pos rfl)
      have hregistry := registry_of_denied (hsignon _ _) hrec rfl hdenied
      refine aftermath_of_takenOver h ho hold hstale ?_ channels_answerPrimary
      exact hregistry.trans (Registry.drop_drop_entered h.index hf ho hold)

/-- **A denied signon** leaves everything as it was, unless it took over its login from a session
that could be reclaimed: then that one is gone, and nothing else. -/
theorem aftermath_of_denied {window : Nat} {before : List Operation} {id : SignonId}
    {login : String} {secret : Secret} {c : ChannelId} {fresh : SessionId}
    {verdict : PrimaryVerdict} {t : Token} {failure : Failure}
    (hr : Run window (before ++ undisturbed id login secret c fresh verdict t))
    (hdenied : (stateAfter window (before ++ undisturbed id login secret c fresh verdict
      t)).outcome? id = some (.denied failure)) :
    Aftermath (stateAfter window before)
      (stateAfter window (before ++ undisturbed id login secret c fresh verdict t)) login := by
  obtain ⟨hbefore, hspawn, hstart, -⟩ := Run.append_iff.1 hr
  rw [stateAfter_append] at hdenied ⊢
  have hcoherent := (coherent_of_run hbefore).step hspawn
  generalize stateAfter window before = s at hspawn hstart hcoherent hdenied ⊢
  have hid : (s.perform (.spawn id (.primary login secret c))).signons.find? id =
      some ⟨.primary login secret c, .spawned⟩ :=
    (Table.find?_insert ..).trans (if_pos rfl)
  -- the call itself changes nothing but the table of signons
  cases State.aftermath hcoherent hid (hcoherent.record?_fresh hstart.2.1 fresh rfl) hdenied with
  | untouched owner registry channels => exact .untouched owner registry channels
  | takenOver old rec owner record stale sessions logins challenges channels closed =>
    exact .takenOver old rec owner record stale sessions logins challenges channels closed

/-- Carol's session waits for her, and somebody else tries her login on another connection with a
wrong secret. -/
def Sample.abandonment :
    List Operation := signon ++ breakdown ++ [.openChannel otherClient address 8]

def Sample.guess : List Operation :=
  undisturbed ⟨2⟩ "carol" ⟨"guess"⟩ otherClient thirdSession (.denied .invalidCredential) otherToken

set_option maxRecDepth 10000 in
/-- Her session is the one thing that the wrong secret changes. -/
theorem aftermath_of_guess :
    Run 10 (Sample.abandonment ++ Sample.guess) ∧
      (stateAfter 10 (Sample.abandonment ++ Sample.guess)).outcome? ⟨2⟩ =
        some (.denied .invalidCredential) ∧
      Aftermath (stateAfter 10 Sample.abandonment)
        (stateAfter 10 (Sample.abandonment ++ Sample.guess)) "carol" := by
  have h : Run 10 (Sample.abandonment ++ Sample.guess) := by decide
  have hdenied : (stateAfter 10 (Sample.abandonment ++ Sample.guess)).outcome? ⟨2⟩ =
      some (.denied .invalidCredential) := by decide
  exact ⟨h, hdenied, aftermath_of_denied h hdenied⟩

set_option maxRecDepth 10000 in
/-- **A wrong password destroys a session** that waits to be resumed: before it the session can be
resumed, and afterwards it is unknown. -/
theorem wrong_password_destroys :
    Run 10 (Sample.abandonment ++ Sample.guess) ∧
      (stateAfter 10 (Sample.abandonment ++ Sample.guess)).outcome? ⟨2⟩ =
        some (.denied .invalidCredential) ∧
      (stateAfter 10 Sample.abandonment).registry.record? Sample.session = some Sample.waiting ∧
      ((stateAfter 10 Sample.abandonment).reuse Sample.session Sample.otherClient).1 = .ok "carol" ∧
      (stateAfter 10 (Sample.abandonment ++ Sample.guess)).registry.record? Sample.session = none ∧
      ((stateAfter 10 (Sample.abandonment ++ Sample.guess)).reuse Sample.session
        Sample.otherClient).1 =
        .error .unknownSession := by
  decide

end DurableSession.Server
