import DurableSession.Proofs.Server.Coherence

/-!
No session without authentication.

A history tells which signon a session comes from, and what the authenticators said about it. Main
statements: `Traced.perform`, each operation leaves every record with the evidence that its state
needs, and `authenticated_of_run`.
-/

namespace DurableSession.Server

open Lifecycle (SessionId Token Failure Secret)

/-! ### Evidence -/

/-- A signon in a history: what happened before it began, and what it wants. -/
structure Origin where
  before : List Operation
  id : SignonId
  login : String
  secret : Secret
  channel : ChannelId

namespace Origin

variable (window : Nat) (o : Origin) (ops : List Operation) (x : SessionId)

/-- The signon gave the session its identifier. -/
def Mints : Prop :=
  PerformedAfter ops o.before (.start o.id x) ∧
    (stateAfter window o.before).signons.find? o.id =
      some ⟨.primary o.login o.secret o.channel, .spawned⟩

/-- The primary authenticator is deciding about the login and the secret of the signon. -/
def Asks : Prop :=
  (stateAfter window ops).signons.find? o.id =
    some ⟨.primary o.login o.secret o.channel, .asking x o.login⟩

/-- The primary authenticator accepted the signon's login and secret. -/
def Accepted : Prop :=
  ∃ before fresh, PerformedAfter ops before (.answerPrimary o.id .accepted fresh) ∧
    o.Asks window before x

/-- The primary authenticator wanted a second factor, and the token was issued for the signon. -/
def Challenged (t : Token) : Prop :=
  ∃ before, PerformedAfter ops before (.answerPrimary o.id .needsSecondary t) ∧
    o.Asks window before x ∧
    (stateAfter window (before ++ [.answerPrimary o.id .needsSecondary t])).outcome? o.id =
      some (.needsSecondary t)

/-- The signon was challenged, and afterwards the secondary authenticator verified a code that was
given in answer from the same channel. -/
def Verified : Prop :=
  ∃ before id t code, PerformedAfter ops before (.answerSecondary id true) ∧
    (stateAfter window before).signons.find? id =
      some ⟨.secondary o.channel t code, .asking x o.login⟩ ∧
    code.isEmpty = false ∧ o.Challenged window before x t

/-- The authenticators granted the signon. -/
def Authenticated : Prop := o.Accepted window ops x ∨ o.Verified window ops x

/-- The evidence that the state of a record needs. -/
def Supports (rec : Record) : Prop :=
  match rec.state with
  | .pendingPrimary => True
  | .pendingSecondary t => rec.channel = some o.channel ∧ o.Challenged window ops x t
  | _ => o.Authenticated window ops x

variable {window o ops x} {later : List Operation} {t : Token} {rec : Record}

theorem Mints.append (h : o.Mints window ops x) : o.Mints window (ops ++ later) x :=
  ⟨h.1.append, h.2⟩

theorem Challenged.append (h : o.Challenged window ops x t) :
    o.Challenged window (ops ++ later) x t := by
  obtain ⟨before, hp, hrest⟩ := h
  exact ⟨before, hp.append, hrest⟩

theorem Authenticated.append (h : o.Authenticated window ops x) :
    o.Authenticated window (ops ++ later) x := by
  rcases h with ⟨before, fresh, hp, hasks⟩ | ⟨before, id, t, code, hp, hrest⟩
  · exact .inl ⟨before, fresh, hp.append, hasks⟩
  · exact .inr ⟨before, id, t, code, hp.append, hrest⟩

theorem Supports.append (h : o.Supports window ops x rec) :
    o.Supports window (ops ++ later) x rec := by
  unfold Supports at h ⊢
  split
  · trivial
  · next t hstate =>
    rw [hstate] at h
    exact ⟨h.1, h.2.append⟩
  · next hprimary hsecondary =>
    split at h
    · next hstate => exact absurd hstate hprimary
    · next t hstate => exact absurd hstate (hsecondary t)
    · exact h.append

theorem Supports.authenticated (h : o.Supports window ops x rec)
    (hstate : rec.state = .active ∨ rec.state = .reusable) : o.Authenticated window ops x := by
  rcases hstate with hstate | hstate
  · simpa [Supports, hstate] using h
  · simpa [Supports, hstate] using h

theorem Mints.unique {o' : Origin} (hr : Run window ops) (h : o.Mints window ops x)
    (h' : o'.Mints window ops x) : o' = o := by
  rcases h.1.compare h'.1 with ⟨hbefore, hop⟩ | hp | hp
  · obtain ⟨before, id, login, secret, c⟩ := o
    obtain ⟨before', id', login', secret', c'⟩ := o'
    obtain rfl : before = before' := hbefore
    obtain rfl : id = id' := (Operation.start.inj hop).1
    have hs := Option.some.inj (h.2.symm.trans h'.2)
    simp only [Signon.mk.injEq, Attempt.primary.injEq, and_true] at hs
    obtain ⟨rfl, rfl, rfl⟩ := hs
    rfl
  · exact absurd ⟨_, hp.mem, rfl⟩ ((hr.of_performedAfter h'.1).2.2.1 x rfl)
  · exact absurd ⟨_, hp.mem, rfl⟩ ((hr.of_performedAfter h.1).2.2.1 x rfl)

theorem Challenged.unique {o' : Origin} {y : SessionId} (hr : Run window ops)
    (h : o.Challenged window ops x t) (h' : o'.Challenged window ops y t) : x = y := by
  obtain ⟨before, hp, hasks, -⟩ := h
  obtain ⟨before', hp', hasks', -⟩ := h'
  rcases hp.compare hp' with ⟨rfl, hop⟩ | hfirst | hfirst
  · have hid : o.id = o'.id := (Operation.answerPrimary.inj hop).1
    unfold Asks at hasks hasks'
    rw [hid] at hasks
    have hs := Option.some.inj (hasks.symm.trans hasks')
    exact (Progress.asking.inj (Signon.mk.inj hs).2).1
  · exact absurd ⟨_, hfirst.mem, rfl⟩ ((hr.of_performedAfter hp').2.2.2 t rfl)
  · exact absurd ⟨_, hfirst.mem, rfl⟩ ((hr.of_performedAfter hp).2.2.2 t rfl)

end Origin

/-! ### Every record has its evidence -/

/-- **What a history accounts for**: each question to an authenticator, each open challenge, and the
state of each record. -/
structure Traced (window : Nat) (ops : List Operation) : Prop where
  asking : ∀ id login secret c x login',
    (stateAfter window ops).signons.find? id = some ⟨.primary login secret c, .asking x login'⟩ →
      login' = login ∧ ∃ before, Origin.Mints window ⟨before, id, login, secret, c⟩ ops x
  answered : ∀ id c t code x login,
    (stateAfter window ops).signons.find? id = some ⟨.secondary c t code, .asking x login⟩ →
      code.isEmpty = false
  issued : ∀ t x, (stateAfter window ops).registry.challenges.find? t = some x → Issued ops t
  record : ∀ x rec, (stateAfter window ops).registry.record? x = some rec →
    ∃ o : Origin, o.Mints window ops x ∧ rec.login = o.login ∧ o.Supports window ops x rec

namespace Traced

variable {window : Nat} {ops : List Operation} {op : Operation} {x : SessionId} {rec : Record}

theorem init (window : Nat) : Traced window [] where
  asking := by simp
  answered := by simp
  issued := by simp
  record := by simp [Registry.record?]

theorem asking_perform (ht : Traced window ops) (h : Coherent (Minted ops) (stateAfter window ops))
    (hf : ∀ x ∈ op.mints?, ¬ Minted ops x) {id : SignonId} {login login' : String} {secret : Secret}
    {c : ChannelId}
    (hq : ((stateAfter window ops).perform op).signons.find? id =
      some ⟨.primary login secret c, .asking x login'⟩) :
    login' = login ∧ ∃ before, Origin.Mints window ⟨before, id, login, secret, c⟩
      (ops ++ [op]) x := by
  rcases h.asking_perform hf hq with hq | ⟨secret', c', rfl, he, hs, -⟩ | ⟨_, _, _, _, _, -, he, -⟩
  · obtain ⟨hlogin, before, hm⟩ := ht.asking _ _ _ _ _ _ hq
    exact ⟨hlogin, before, hm.append⟩
  · obtain ⟨rfl, rfl, rfl⟩ := Attempt.primary.inj he
    exact ⟨rfl, ops, performedAfter_last, hs⟩
  · simp at he

theorem answered_perform (ht : Traced window ops)
    (h : Coherent (Minted ops) (stateAfter window ops)) (hf : ∀ x ∈ op.mints?, ¬ Minted ops x)
    {id : SignonId} {c : ChannelId} {t : Token} {code : Secret} {login : String}
    (hq : ((stateAfter window ops).perform op).signons.find? id = some ⟨.secondary c t code,
      .asking x login⟩) : code.isEmpty = false := by
  rcases h.asking_perform hf hq with
    hq | ⟨_, _, -, he, -⟩ | ⟨_, _, _, code', _, -, he, -, -, -, -, hcode⟩
  · exact ht.answered _ _ _ _ _ _ hq
  · simp at he
  · obtain ⟨rfl, rfl, rfl⟩ := Attempt.secondary.inj he
    exact hcode

theorem issued_perform (ht : Traced window ops) (h : Coherent (Minted ops) (stateAfter window ops))
    (hf : ∀ x ∈ op.mints?, ¬ Minted ops x) {t : Token}
    (hc : ((stateAfter window ops).perform op).registry.challenges.find? t = some x) :
    Issued (ops ++ [op]) t := by
  rcases State.challenge_perform h.index (h.record?_fresh hf) hc with
    hc | ⟨id, login, secret, c, login', rec, rfl, -⟩
  · exact issued_snoc.2 (.inl (ht.issued t x hc))
  · exact issued_snoc.2 (.inr rfl)

/-- A signon whose session waits is challenged when a second factor is wanted. -/
theorem challenged_perform {id : SignonId} {fresh : Token} {login : String} {secret : Secret}
    {c : ChannelId} {before : List Operation}
    (hs : (stateAfter window ops).signons.find? id =
      some ⟨.primary login secret c, .asking x login⟩)
    (hx : (stateAfter window ops).registry.record? x = some rec)
    (hstate : rec.state = .pendingPrimary) :
    Origin.Challenged window ⟨before, id, login, secret, c⟩
      (ops ++ [.answerPrimary id .needsSecondary fresh]) x fresh := by
  refine ⟨ops, performedAfter_last, hs, ?_⟩
  rw [stateAfter_snoc]
  unfold State.outcome?
  rw [State.decided_of_answerPrimary hs]
  unfold Registry.concludePrimary
  simp [hx, hstate]

theorem record_perform (ht : Traced window ops) (h : Coherent (Minted ops) (stateAfter window ops))
    (hf : ∀ x ∈ op.mints?, ¬ Minted ops x)
    (hx : ((stateAfter window ops).perform op).registry.record? x = some rec) :
    ∃ o : Origin, o.Mints window (ops ++ [op]) x ∧ rec.login = o.login ∧
      o.Supports window (ops ++ [op]) x rec := by
  have hfate := h.fate hf x
  rw [hx] at hfate
  generalize ho : (stateAfter window ops).registry.record? x = before at hfate
  cases hfate with
  | kept =>
    obtain ⟨o, hm, hlogin, hs⟩ := ht.record x rec ho
    exact ⟨o, hm.append, hlogin, hs.append⟩
  | minted signon => exact ⟨⟨ops, _, _, _, _⟩, ⟨performedAfter_last, signon⟩, rfl, trivial⟩
  | @challenged id fresh login login' secret c rec signon state =>
    obtain ⟨rfl, before, hm⟩ := ht.asking _ _ _ _ _ _ signon
    obtain ⟨-, hbound, hlogin⟩ := h.asking _ _ x _ rec signon ho
    exact ⟨_, hm.append, hlogin, hbound, challenged_perform signon ho state⟩
  | @accepted id fresh login login' secret c rec signon state attended =>
    obtain ⟨rfl, before, hm⟩ := ht.asking _ _ _ _ _ _ signon
    obtain ⟨-, -, hlogin⟩ := h.asking _ _ x _ rec signon ho
    exact ⟨_, hm.append, hlogin, .inl ⟨ops, fresh, performedAfter_last, signon⟩⟩
  | @verified id c t code login rec signon state attended =>
    obtain ⟨o, hm, hlogin, hs⟩ := ht.record x rec ho
    obtain ⟨-, hbound, hlogin'⟩ := h.asking _ _ x _ rec signon ho
    have hs : rec.channel = some o.channel ∧ o.Challenged window ops x t := by
      simpa [Origin.Supports, state] using hs
    -- the record is bound to the channel that was challenged and to the one that answers
    obtain rfl : c = o.channel := Option.some.inj (hbound.symm.trans hs.1)
    obtain rfl : login = o.login := hlogin'.symm.trans hlogin
    exact ⟨o, hm.append, hlogin, .inr ⟨ops, id, t, code, performedAfter_last, signon,
      ht.answered _ _ _ _ _ _ signon, hs.2⟩⟩
  | resumed free =>
    obtain ⟨o, hm, hlogin, hs⟩ := ht.record x _ ho
    have hauth := hs.authenticated (free.symm.imp And.left And.left)
    exact ⟨o, hm.append, hlogin, hauth.append⟩
  | disconnected state why =>
    obtain ⟨o, hm, hlogin, hs⟩ := ht.record x _ ho
    exact ⟨o, hm.append, hlogin, (hs.authenticated (.inl state)).append⟩

/-- **One operation** adds to a history the evidence for what it does. -/
theorem perform (ht : Traced window ops) (h : Coherent (Minted ops) (stateAfter window ops))
    (hf : ∀ x ∈ op.mints?, ¬ Minted ops x) : Traced window (ops ++ [op]) where
  asking := by
    rw [stateAfter_snoc]
    exact fun _ _ _ _ _ _ => ht.asking_perform h hf
  answered := by
    rw [stateAfter_snoc]
    exact fun _ _ _ _ _ _ => ht.answered_perform h hf
  issued := by
    rw [stateAfter_snoc]
    exact fun _ _ => ht.issued_perform h hf
  record := by
    rw [stateAfter_snoc]
    exact fun _ _ => ht.record_perform h hf

end Traced

/-- **A run** accounts for the state of every record. -/
theorem traced_of_run {window : Nat} {ops : List Operation} (h : Run window ops) :
    Traced window ops := by
  induction h with
  | nil => exact Traced.init window
  | snoc hrun ha ih => exact ih.perform (coherent_of_run hrun) ha.2.1

/-! ### Tokens count once -/

/-- The operation brings a token to the secondary authenticator, in a signon's question. -/
def Consults (s : State) (op : Operation) (id : SignonId) (t : Token) : Prop :=
  ∃ c code x login,
    (s.perform op).signons.find? id = some ⟨.secondary c t code, .asking x login⟩ ∧
      s.signons.find? id ≠ some ⟨.secondary c t code, .asking x login⟩

/-- A token that is brought to the secondary authenticator is that of an open challenge. -/
theorem start_of_consults {minted : SessionId → Prop} {s : State} {op : Operation} {id : SignonId}
    {t : Token} (h : Coherent minted s) (hf : ∀ x ∈ op.mints?, ¬ minted x)
    (hc : Consults s op id t) :
    (∃ fresh, op = .start id fresh) ∧ (∃ x, s.registry.challenges.find? t = some x) ∧
      (s.perform op).registry.challenges.find? t = none := by
  obtain ⟨c, code, x, login, hq, hnew⟩ := hc
  rcases h.asking_perform hf hq with hq' | ⟨_, _, -, he, -⟩ |
    ⟨fresh, _, _, _, _, rfl, he, hs, ht, -⟩
  · exact absurd hq' hnew
  · simp at he
  · obtain ⟨rfl, rfl, rfl⟩ := Attempt.secondary.inj he
    exact ⟨⟨fresh, rfl⟩, ⟨x, ht⟩, State.challenge_start_secondary hs⟩

theorem spent_follow {history later : List Operation} {s : State} {t : Token}
    (h : Coherent (Minted history) s) (hf : Follow history s later) (hi : Issued history t)
    (ht : s.registry.challenges.find? t = none) :
    (s.performAll later).registry.challenges.find? t = none := by
  induction later generalizing s history with
  | nil => exact ht
  | cons op later ih =>
    refine ih (h.step hf.1) hf.2 (issued_snoc.2 (.inl hi)) ?_
    cases hc : (s.perform op).registry.challenges.find? t with
    | none => rfl
    | some x =>
      rcases State.challenge_perform h.index (h.record?_fresh hf.1.2.1) hc with
        hc | ⟨id, login, secret, c, login', rec, rfl, -⟩
      · simp [ht] at hc
      · exact absurd hi (hf.1.2.2 t rfl)

/-- After a token has reached the secondary authenticator it does not do so again. -/
theorem not_consults_again {window : Nat} {ops before : List Operation} {op op' : Operation}
    {id id' : SignonId} {t : Token} (h : Run window (ops ++ [op']))
    (hp : PerformedAfter ops before op) (hc : Consults (stateAfter window before) op id t) :
    ¬ Consults (stateAfter window ops) op' id' t := by
  intro hc'
  obtain ⟨later, rfl⟩ := hp
  obtain ⟨hops, ha'⟩ := Run.snoc_iff.1 h
  rw [List.append_cons] at hops
  obtain ⟨hrun, hf⟩ := Run.append_iff.1 hops
  obtain ⟨hbefore, ha⟩ := Run.snoc_iff.1 hrun
  obtain ⟨-, ⟨x, ht⟩, hspent⟩ := start_of_consults (coherent_of_run hbefore) ha.2.1 hc
  rw [← stateAfter_snoc] at hspent
  have hissued : Issued (before ++ [op]) t :=
    issued_snoc.2 (.inl ((traced_of_run hbefore).issued t x ht))
  have hnone := spent_follow (coherent_of_run hrun) hf hissued hspent
  rw [← stateAfter_append, ← List.append_cons] at hnone
  obtain ⟨-, ⟨y, hy⟩, -⟩ := start_of_consults (coherent_of_run (Run.snoc_iff.1 h).1) ha'.2.1 hc'
  simp [hnone] at hy

/-- Two operations of a run that bring the same token to the secondary authenticator are one. -/
theorem consults_once {window : Nat} {ops before before' : List Operation} {op op' : Operation}
    {id id' : SignonId} {t : Token} (h : Run window ops) (hp : PerformedAfter ops before op)
    (hp' : PerformedAfter ops before' op') (hc : Consults (stateAfter window before) op id t)
    (hc' : Consults (stateAfter window before') op' id' t) : before = before' ∧ id = id' := by
  obtain ⟨hrun, ha⟩ := h.of_performedAfter hp
  obtain ⟨hrun', ha'⟩ := h.of_performedAfter hp'
  rcases hp.compare hp' with ⟨rfl, rfl⟩ | hfirst | hfirst
  · obtain ⟨⟨fresh, rfl⟩, -⟩ := start_of_consults (coherent_of_run hrun) ha.2.1 hc
    obtain ⟨⟨fresh', he⟩, -⟩ := start_of_consults (coherent_of_run hrun) ha.2.1 hc'
    exact ⟨rfl, (Operation.start.inj he).1⟩
  · exact absurd hc' (not_consults_again (hrun'.snoc ha') hfirst hc)
  · exact absurd hc (not_consults_again (hrun.snoc ha) hfirst hc')

/-! ### No session without authentication -/

/-- **No session without authentication.** A session that is active comes from one signon, has that
signon's login for as long as it lasts, and the authenticators had granted the signon when it became
active; and no token reaches the secondary authenticator twice. -/
theorem authenticated_of_run {window : Nat} {ops : List Operation} (h : Run window ops) :
    (∀ before later x rec, ops = before ++ later →
      (stateAfter window before).registry.record? x = some rec → rec.state = .active →
      ∃ o : Origin, o.Mints window before x ∧ (∀ o' : Origin, o'.Mints window ops x → o' = o) ∧
        (∀ before' later' rec', ops = before' ++ later' →
          (stateAfter window before').registry.record? x = some rec' → rec'.login = o.login) ∧
        o.Authenticated window before x) ∧
    ∀ before before' op op' id id' t, PerformedAfter ops before op →
      PerformedAfter ops before' op' →
      Consults (stateAfter window before) op id t → Consults (stateAfter window before') op' id' t →
      before = before' ∧ id = id' := by
  refine ⟨?_, fun _ _ _ _ _ _ _ hp hp' => consults_once h hp hp'⟩
  rintro before later x rec rfl hx hactive
  obtain ⟨o, hm, -, hs⟩ := (traced_of_run h.of_append).record x rec hx
  have hone (o' : Origin) (hm' : o'.Mints window (before ++ later) x) : o' = o :=
    Origin.Mints.unique h hm.append hm'
  refine ⟨o, hm, hone, ?_, hs.authenticated (.inl hactive)⟩
  intro before' later' rec' he hx'
  have hrun' : Run window before' := Run.of_append (he ▸ h)
  obtain ⟨o', hm', hlogin', -⟩ := (traced_of_run hrun').record x rec' hx'
  obtain rfl := hone o' (he ▸ hm'.append)
  exact hlogin'

set_option maxRecDepth 10000 in
/-- Carol's session comes from her signon, which the authenticators granted. -/
theorem carol_authenticated :
    ∃ o : Origin, o.Mints 10 Sample.signon Sample.session ∧
      o.Authenticated 10 Sample.signon Sample.session := by
  have h : Run 10 Sample.signon := by decide
  have hx : (stateAfter 10 Sample.signon).registry.record? Sample.session =
      some ⟨Sample.session, "carol", .active, some Sample.client, Sample.address, 0, 0⟩ := by
    decide
  obtain ⟨o, hm, -, -, hauth⟩ :=
    (authenticated_of_run h).1 Sample.signon [] Sample.session _ (by simp) hx rfl
  exact ⟨o, hm, hauth⟩

end DurableSession.Server
