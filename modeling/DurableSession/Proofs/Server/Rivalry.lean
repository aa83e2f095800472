import DurableSession.Proofs.Server.Denial
import DurableSession.Proofs.Server.Exclusive
import DurableSession.Proofs.Server.Resumption

/-!
Signons that compete for a login.

Whoever claims a login first has it: until the authenticator has decided about that signon, and
after it was granted, the others are turned away before the authenticator is asked. Main statement:
`one_winner`. It rests on `Race.perform`: either nobody has claimed the login, or one rival has it
and the others are turned away, and no operation changes that.
-/

namespace DurableSession.Server

open Lifecycle (SessionId Token Failure Secret)

/-! ### Operations on a login -/

/-- The login that a signon is for, once it begins; an answer to a challenge is for that of the
challenged session. -/
def Attempt.loginIn? (s : State) : Attempt → Option String
  | primary login _ _ => some login
  | secondary _ t _ => ((s.registry.challenges.find? t).bind s.registry.record?).map Record.login

/-- The login about which an authenticator is deciding. -/
def Progress.login? : Progress → Option String
  | asking _ login => some login
  | _ => none

namespace State

/-- The record of the session that owns a login. -/
def recordOf (s : State) (login : String) :
    Option Record := (s.registry.ownerOf login).bind s.registry.record?

end State

/-- The operation is on a login: it begins or ends a signon for it, or acts on the session that owns
it. -/
def Operation.Concerns (s : State) (login : String) : Operation → Prop
  | .spawn _ a => a.login? = some login
  | .start id _ =>
    ∃ sg ∈ s.signons.find? id, sg.progress = .spawned ∧ sg.attempt.loginIn? s = some login
  | .answerPrimary id _ _ | .answerSecondary id _ =>
    ∃ sg ∈ s.signons.find? id, sg.progress.login? = some login
  | .reuse x _ | .close _ x _ | .kickout x => ∃ rec ∈ s.registry.record? x, rec.login = login
  | .release c => ∃ rec ∈ s.recordOf login, rec.channel = some c
  | .kickoutAll => ∃ rec ∈ s.recordOf login, True
  | .sweep => ∃ rec ∈ s.recordOf login, Registry.isStale s.window s.now rec = true
  | _ => False

instance decidableConcerns (s : State) (login : String) :
    (op : Operation) → Decidable (op.Concerns s login)
  | .spawn _ a => inferInstanceAs (Decidable (a.login? = some login))
  | .start id _ =>
    inferInstanceAs (Decidable (∃ sg ∈ s.signons.find? id,
      sg.progress = .spawned ∧ sg.attempt.loginIn? s = some login))
  | .answerPrimary id _ _ | .answerSecondary id _ =>
    inferInstanceAs (Decidable (∃ sg ∈ s.signons.find? id, sg.progress.login? = some login))
  | .reuse x _ | .close _ x _ | .kickout x =>
    inferInstanceAs (Decidable (∃ rec ∈ s.registry.record? x, rec.login = login))
  | .release c => inferInstanceAs (Decidable (∃ rec ∈ s.recordOf login, rec.channel = some c))
  | .kickoutAll => inferInstanceAs (Decidable (∃ rec ∈ s.recordOf login, True))
  | .sweep =>
    inferInstanceAs (Decidable (∃ rec ∈ s.recordOf login,
      Registry.isStale s.window s.now rec = true))
  | .openChannel _ _ _ | .kick _ | .abandon _ | .advance _ | .register _ _ | .unregister _ _
  | .count _ =>
    isFalse id

/-- One of several signons with a password for the same login. -/
structure Rival where
  id : SignonId
  secret : Secret
  channel : ChannelId
deriving DecidableEq

def Rival.attempt (login : String) (r : Rival) : Attempt := .primary login r.secret r.channel

namespace Rival

/-- The rival has not claimed the login. -/
inductive Idle (r : Rival) (login : String) : Option Signon → Prop where
  | uncalled : Idle r login none
  | called : Idle r login (some ⟨r.attempt login, .spawned⟩)

/-- The rival does not get past its claim. -/
inductive Beaten (r : Rival) (login : String) : Option Signon → Prop where
  | idle {o : Option Signon} (h : r.Idle login o) : Beaten r login o
  | refused : Beaten r login (some ⟨r.attempt login, .decided (.denied .sessionAlreadyExists)⟩)

end Rival

/-- A step of a rival: its call, its claim, or the authenticator's verdict, which is the same for
all of them. -/
def Operation.Contends (rivals : List Rival) (login : String) (verdict : PrimaryVerdict) :
    Operation → Prop
  | .spawn id a => ∃ r ∈ rivals, r.id = id ∧ r.attempt login = a
  | .start id _ => ∃ r ∈ rivals, r.id = id
  | .answerPrimary id verdict' _ => (∃ r ∈ rivals, r.id = id) ∧ verdict' = verdict
  | _ => False

instance decidableContends (rivals : List Rival) (login : String) (verdict : PrimaryVerdict) :
    (op : Operation) → Decidable (op.Contends rivals login verdict)
  | .spawn id a => inferInstanceAs (Decidable (∃ r ∈ rivals, r.id = id ∧ r.attempt login = a))
  | .start id _ => inferInstanceAs (Decidable (∃ r ∈ rivals, r.id = id))
  | .answerPrimary id verdict' _ =>
    inferInstanceAs (Decidable ((∃ r ∈ rivals, r.id = id) ∧ verdict' = verdict))
  | .openChannel _ _ _ | .kick _ | .abandon _ | .advance _ | .answerSecondary _ _ | .reuse _ _
  | .close _ _ _
  | .release _ | .kickout _ | .kickoutAll | .sweep | .register _ _ | .unregister _ _ | .count _ =>
    isFalse id

/-! ### Who has the login -/

section Race

/-- How far the rival is that has the login, and the state of its record `x`: the authenticator is
deciding, or has given its verdict. -/
inductive Leads (verdict : PrimaryVerdict) (x : SessionId) (login : String) :
    Progress → RecordState → Prop where
  | asking : Leads verdict x login (.asking x login) .pendingPrimary
  | accepted (h : verdict = .accepted) :
      Leads verdict x login (.decided (.accepted x login)) .active
  | challenged {t : Token} (h : verdict = .needsSecondary) :
      Leads verdict x login (.decided (.needsSecondary t)) (.pendingSecondary t)

/-- **How a race for a login stands.** -/
inductive Race (s : State) (login : String) (verdict : PrimaryVerdict) (rivals : List Rival) :
    Prop where
  /-- Nobody has the login, and no rival has claimed it. -/
  | vacant (nobody : s.registry.ownerOf login = none)
      (idle : ∀ r ∈ rivals, r.Idle login (s.signons.find? r.id))
  /-- One rival has it for its session, bound to its channel, and none of the others gets past its
  claim. -/
  | taken (winner : Rival) (mem : winner ∈ rivals) (x : SessionId) (rec : Record) (p : Progress)
      (record : s.registry.record? x = some rec) (owner : rec.login = login)
      (bound : rec.channel = some winner.channel)
      (signon : s.signons.find? winner.id = some ⟨winner.attempt login, p⟩)
      (leads : Leads verdict x login p rec.state)
      (others : ∀ r ∈ rivals, r ≠ winner → r.Beaten login (s.signons.find? r.id))

/-- What is asked of every operation of a race: operations on the login are steps of the rivals,
their names are theirs, and their channels are open. -/
structure Fair (login : String) (verdict : PrimaryVerdict) (rivals : List Rival) (s : State)
    (op : Operation) :
    Prop where
  only : op.Concerns s login → op.Contends rivals login verdict
  named : ∀ r ∈ rivals, ∀ a, op = .spawn r.id a → a = r.attempt login
  attended : ∀ r ∈ rivals, s.Known r.channel → s.closed r.channel = false

variable {minted : SessionId → Prop} {s : State} {op : Operation} {login : String}
  {verdict : PrimaryVerdict} {rivals : List Rival} {x : SessionId} {rec : Record}

theorem Race.signon (hrace : Race s login verdict rivals) {r : Rival} (hr : r ∈ rivals) :
    s.signons.find? r.id = none ∨ ∃ p, s.signons.find? r.id = some ⟨r.attempt login, p⟩ ∧
      ∀ x login', p = .asking x login' → login' = login := by
  have hidle (o : Option Signon) (h : r.Idle login o) : o = none ∨
    ∃ p, o = some ⟨r.attempt login, p⟩ ∧
      ∀ x login', p = .asking x login' → login' = login := by
    cases h with
    | uncalled => exact .inl rfl
    | called => exact .inr ⟨_, rfl, by simp⟩
  cases hrace with
  | vacant nobody idle => exact hidle _ (idle r hr)
  | taken winner mem x rec p record owner bound signon leads others =>
    by_cases hne : r = winner
    · subst hne
      refine .inr ⟨p, signon, ?_⟩
      generalize rec.state = state at leads
      cases leads <;> simp
    · have hbeaten := others r hr hne
      generalize s.signons.find? r.id = o at hbeaten ⊢
      cases hbeaten with
      | idle h => exact hidle o h
      | refused => exact .inr ⟨_, rfl, by simp⟩

/-! ### Operations on other logins -/

theorem State.recordOf_eq (hi : s.registry.Indexed) (hx : s.registry.record? x = some rec)
    (hlogin : rec.login = login) :
    s.recordOf login = some rec := by
  subst hlogin
  unfold recordOf
  rw [hi.owned x rec hx]
  exact hx

/-- An operation on other logins leaves the record of a session that is attended. -/
theorem State.record?_of_unconcerned (h : Coherent minted s) (hf : ∀ x ∈ op.mints?, ¬ minted x)
    (hx : s.registry.record? x = some rec) (hlogin : rec.login = login)
    (hopen : rec.unattended s.closed = false) (hc : ¬ op.Concerns s login) :
    (s.perform op).registry.record? x = some rec := by
  subst hlogin
  have hof := recordOf_eq h.index hx rfl
  -- whoever asks about the session asks about its login
  have hasking {id : SignonId} {a : Attempt} {login' : String}
      (hid : s.signons.find? id = some ⟨a, .asking x login'⟩) :
      ∃ sg ∈ s.signons.find? id, sg.progress.login? = some rec.login :=
    ⟨_, hid, congrArg some (h.asking id a x login' rec hid hx).2.2.symm⟩
  have hfate := h.fate hf x
  rw [hx] at hfate
  generalize (s.perform op).registry.record? x = o at hfate ⊢
  cases hfate with
  | kept => rfl
  | destroyed why =>
    refine absurd ?_ hc
    cases why with
    | displaced signon => exact ⟨_, signon, rfl, rfl⟩
    | misanswered signon challenge =>
      refine ⟨_, signon, rfl, ?_⟩
      simp [Attempt.loginIn?, challenge, hx]
    | denied signon => exact hasking signon
    | unverified signon => exact hasking signon
    | expired => exact ⟨rec, hx, rfl⟩
    | closed => exact ⟨rec, hx, rfl⟩
    | released bound => exact ⟨rec, hof, bound⟩
    | kickedOut => exact ⟨rec, hx, rfl⟩
    | allKickedOut => exact ⟨rec, hof, trivial⟩
    | swept stale => exact ⟨rec, hof, stale⟩
  | challenged signon => exact absurd (hasking signon) hc
  | accepted signon => exact absurd (hasking signon) hc
  | verified signon => exact absurd (hasking signon) hc
  | resumed => exact absurd ⟨rec, hx, rfl⟩ hc
  | disconnected state why =>
    cases why with
    | closed => exact absurd ⟨rec, hx, rfl⟩ hc
    | released bound => exact absurd ⟨rec, hof, bound⟩ hc
    | swept gone => simp [hopen] at gone

theorem State.free_of_unconcerned (h : Coherent minted s) (hf : ∀ x ∈ op.mints?, ¬ minted x)
    (ho : s.registry.ownerOf login = none) (hc : ¬ op.Concerns s login) :
    (s.perform op).registry.ownerOf login = none := by
  cases howner : (s.perform op).registry.ownerOf login with
  | none => rfl
  | some y =>
    exfalso
    obtain ⟨rec', hy, hlogin⟩ := (h.index.perform (h.record?_fresh hf)).backed login y howner
    -- a record of the login was there before, unless a signon for it has begun
    have hbefore (rec : Record) (hb : s.registry.record? y = some rec)
        (hlogin : rec.login = login) : False := by
      have howned := h.index.owned y rec hb
      rw [hlogin, ho] at howned
      simp at howned
    have hfate := h.fate hf y
    rw [hy] at hfate
    generalize hb : s.registry.record? y = before at hfate
    cases hfate with
    | minted signon =>
      subst hlogin
      exact hc ⟨_, signon, rfl, rfl⟩
    | _ => exact hbefore _ hb hlogin

theorem State.signon_of_unconcerned (h : Coherent minted s) (hf : ∀ x ∈ op.mints?, ¬ minted x)
    {r : Rival} (hr : r ∈ rivals) (hfair : Fair login verdict rivals s op)
    (hc : ¬ op.Concerns s login)
    (hid : s.signons.find? r.id = none ∨ ∃ p, s.signons.find? r.id = some ⟨r.attempt login, p⟩ ∧
      ∀ x login', p = .asking x login' → login' = login) :
    (s.perform op).signons.find? r.id = s.signons.find? r.id := by
  have hattempt {a : Attempt} {p : Progress} (hb : s.signons.find? r.id = some ⟨a, p⟩) :
      a = r.attempt login ∧ ∀ x login', p = .asking x login' → login' = login := by
    rcases hid with hnone | ⟨p', hsome, hasking⟩
    · simp [hnone] at hb
    · obtain ⟨rfl, rfl⟩ := Signon.mk.inj (Option.some.inj (hb.symm.trans hsome))
      exact ⟨rfl, hasking⟩
  have hbegins {a : Attempt} {fresh : SessionId} (hb : s.signons.find? r.id = some ⟨a, .spawned⟩) :
      (Operation.start r.id fresh).Concerns s login :=
    ⟨_, hb, rfl, congrArg (Attempt.loginIn? s) (hattempt hb).1⟩
  have hadv := h.advance hf r.id
  generalize hb : s.signons.find? r.id = before at hadv ⊢
  generalize (s.perform op).signons.find? r.id = after at hadv ⊢
  cases hadv with
  | kept => rfl
  | spawned =>
    obtain rfl := hfair.named r hr _ rfl
    exact absurd rfl hc
  | claimed => exact absurd (hbegins hb) hc
  | refused => exact absurd (hbegins hb) hc
  | answeredPrimary => exact absurd ⟨_, hb, congrArg some ((hattempt hb).2 _ _ rfl)⟩ hc
  | _ => simpa [Rival.attempt] using (hattempt hb).1

/-! ### Steps of the rivals -/

theorem Race.call (hrace : Race s login verdict rivals) {r : Rival}
    (hnew : s.signons.find? r.id = none) (hnamed : ∀ r' ∈ rivals, r'.id = r.id → r' = r) :
    Race (s.perform (.spawn r.id (r.attempt login))) login verdict rivals := by
  have hsignon (r' : Rival) (hr' : r' ∈ rivals) :
      (r' = r ∧ (s.perform (.spawn r.id (r.attempt login))).signons.find? r'.id =
        some ⟨r'.attempt login, .spawned⟩) ∨
      (s.perform (.spawn r.id (r.attempt login))).signons.find? r'.id = s.signons.find? r'.id := by
    by_cases he : r'.id = r.id
    · obtain rfl := hnamed r' hr' he
      exact .inl ⟨rfl, (Table.find?_insert ..).trans (if_pos rfl)⟩
    · exact .inr ((Table.find?_insert ..).trans (if_neg (Ne.symm he)))
  cases hrace with
  | vacant nobody idle =>
    refine .vacant nobody fun r' hr' => ?_
    rcases hsignon r' hr' with ⟨-, he⟩ | he
    · rw [he]
      exact .called
    · rw [he]
      exact idle r' hr'
  | taken winner mem x rec p record owner bound signon leads others =>
    refine .taken winner mem x rec p record owner bound ?_ leads fun r' hr' hne => ?_
    · rcases hsignon winner mem with ⟨rfl, -⟩ | he
      · simp [signon] at hnew
      · exact he.trans signon
    · rcases hsignon r' hr' with ⟨-, he⟩ | he
      · rw [he]
        exact .idle .called
      · rw [he]
        exact others r' hr' hne

theorem Race.claim (h : Coherent minted s) (hrace : Race s login verdict rivals) {r : Rival}
    (hr : r ∈ rivals) {fresh : SessionId}
    (hid : s.signons.find? r.id = some ⟨r.attempt login, .spawned⟩)
    (hdistinct : ∀ r' ∈ rivals, r'.id = r.id → r' = r)
    (hattended : ∀ r' ∈ rivals, s.Known r'.channel → s.closed r'.channel = false) :
    Race (s.perform (.start r.id fresh)) login verdict rivals := by
  have hsignon (s : State) (sg : Signon) (r' : Rival) (hr' : r' ∈ rivals) (hne : r' ≠ r) :
      (s.signons.insert r.id sg).find? r'.id = s.signons.find? r'.id :=
    (Table.find?_insert ..).trans (if_neg fun he => hne (hdistinct r' hr' he.symm))
  cases hrace with
  | vacant nobody idle =>
    rw [State.start_free fresh hid nobody]
    refine .taken r hr fresh (Record.pending fresh login r.channel (s.remoteOf r.channel) s.now)
      (.asking fresh login) ?_ rfl rfl ?_ .asking fun r' hr' hne => ?_
    · exact Registry.record?_entered.trans (if_pos rfl)
    · exact (Table.find?_insert ..).trans (if_pos rfl)
    · refine .idle ?_
      rw [State.signons_ask, hsignon _ _ r' hr' hne]
      exact idle r' hr'
  | taken winner mem x rec p record owner bound signon leads others =>
    have hne : winner ≠ r := by
      rintro rfl
      rw [signon] at hid
      obtain rfl : p = .spawned := by simpa using hid
      cases leads
    -- the winner's channel is open, so nobody takes the login over
    have hkept : rec.reclaimable s.closed = false := by
      have hopen := hattended winner mem (h.bound x rec winner.channel record bound)
      unfold Record.reclaimable Record.unattended
      generalize rec.state = state at leads
      cases leads <;> simpa [bound] using hopen
    have howner : s.registry.ownerOf login = some x := by
      rw [← owner]
      exact h.index.owned x rec record
    rw [State.start_kept fresh hid howner record hkept]
    refine .taken winner mem x rec p record owner bound ?_ leads fun r' hr' hne' => ?_
    · exact (hsignon s _ winner mem hne).trans signon
    · rw [State.signons_decide]
      by_cases he : r' = r
      · rw [he, Table.find?_insert, if_pos rfl]
        exact .refused
      · rw [hsignon s _ r' hr' he]
        exact others r' hr' hne'

/-- The authenticator's verdict lets the rival in that has the login. -/
theorem leads_of_verdict {id : SignonId} {secret : Secret} {c : ChannelId} {t : Token}
    (hid : s.signons.find? id = some ⟨.primary login secret c, .asking x login⟩)
    (hx : s.registry.record? x = some rec) (hlogin : rec.login = login)
    (hstate : rec.state = .pendingPrimary) (hopen : s.closed c = false)
    (hgrants : ∀ failure, verdict ≠ .denied failure) :
    ∃ o rec', (s.perform (.answerPrimary id verdict t)).signons.find? id =
        some ⟨.primary login secret c, .decided o⟩ ∧
      (s.perform (.answerPrimary id verdict t)).registry.record? x = some rec' ∧
        rec'.login = login ∧
      rec'.channel = rec.channel ∧ Leads verdict x login (.decided o) rec'.state := by
  rw [State.decided_of_answerPrimary hid, State.registry_of_answerPrimary hid]
  unfold Registry.concludePrimary
  cases verdict with
  | accepted =>
    have hgranted : s.registry.activate s.closed s.now x c none = (.accepted x login,
        s.registry.setRecord x { rec with state := .active, lastActiveAt := s.now }) := by
      unfold Registry.activate
      simp [hx, hstate, hlogin, hopen, Registry.grantable]
    refine ⟨.accepted x login, { rec with state := .active, lastActiveAt := s.now }, ?_, ?_,
      hlogin, rfl, .accepted rfl⟩
    · rw [hgranted]
    · rw [hgranted]
      exact Registry.record?_setRecord.trans (if_pos rfl)
  | needsSecondary =>
    refine ⟨.needsSecondary t, { rec with state := .pendingSecondary t }, ?_, ?_, hlogin, rfl,
      .challenged rfl⟩
    · simp only [hx, hstate, if_true]
    · simp only [hx, hstate, if_true]
      exact Registry.record?_setRecord.trans (if_pos rfl)
  | denied failure => exact absurd rfl (hgrants failure)

theorem Race.conclude (h : Coherent minted s) (hrace : Race s login verdict rivals) {r : Rival}
    (hr : r ∈ rivals) {a : Attempt} {y : SessionId} {login' : String} {t : Token}
    (hid : s.signons.find? r.id = some ⟨a, .asking y login'⟩)
    (hdistinct : ∀ r' ∈ rivals, r'.id = r.id → r' = r)
    (hgrants : ∀ failure, verdict ≠ .denied failure)
    (hattended : ∀ r' ∈ rivals, s.Known r'.channel → s.closed r'.channel = false) :
    Race (s.perform (.answerPrimary r.id verdict t)) login verdict rivals := by
  cases hrace with
  | vacant nobody idle =>
    have hidle := idle r hr
    rw [hid] at hidle
    cases hidle
  | taken winner mem x rec p record owner bound signon leads others =>
    -- nobody but the winner gets as far as to the authenticator
    obtain rfl : r = winner := by
      by_contra hne
      have hbeaten := others r hr hne
      rw [hid] at hbeaten
      cases hbeaten with
      | idle hidle => cases hidle
    obtain rfl : p = .asking y login' := by
      rw [signon] at hid
      simpa using congrArg Signon.progress (Option.some.inj hid)
    generalize hstate : rec.state = state at leads
    cases leads with
    | asking =>
      have hopen := hattended r mem (h.bound y rec r.channel record bound)
      obtain ⟨o, rec', hdecided, hrec', hlogin, hchannel, hleads⟩ :=
        leads_of_verdict (t := t) signon record owner hstate hopen hgrants
      refine .taken r hr y rec' _ hrec' hlogin (hchannel.trans bound) hdecided hleads
        fun r' hr' hne => ?_
      have hkept : (s.perform (.answerPrimary r.id verdict t)).signons.find? r'.id =
          s.signons.find? r'.id := by
        show (s.answerPrimary r.id verdict t).signons.find? r'.id = _
        unfold State.answerPrimary
        rw [signon]
        exact (Table.find?_insert ..).trans (if_neg fun he => hne (hdistinct r' hr' he.symm))
      rw [hkept]
      exact others r' hr' hne

/-! ### The whole race -/

/-- **One operation** leaves the login with whoever has it. -/
theorem Race.perform (h : Coherent minted s) (ha : op.Applicable s)
    (hf : ∀ x ∈ op.mints?, ¬ minted x) (hrace : Race s login verdict rivals)
    (hfair : Fair login verdict rivals s op) (hgrants : ∀ failure, verdict ≠ .denied failure)
    (hdistinct : ∀ r ∈ rivals, ∀ r' ∈ rivals, r'.id = r.id → r' = r) :
    Race (s.perform op) login verdict rivals := by
  by_cases hc : op.Concerns s login
  · have hcontends := hfair.only hc
    cases op with
    | spawn id a =>
      obtain ⟨r, hr, rfl, rfl⟩ := hcontends
      exact hrace.call ha.1 (hdistinct r hr)
    | start id fresh =>
      obtain ⟨r, hr, rfl⟩ := hcontends
      obtain ⟨⟨a, p⟩, hid, rfl, -⟩ := hc
      have hid : s.signons.find? r.id = some ⟨a, .spawned⟩ := hid
      rcases hrace.signon hr with hnone | ⟨p, hsome, -⟩
      · simp [hnone] at hid
      · obtain ⟨rfl, -⟩ := Signon.mk.inj (Option.some.inj (hid.symm.trans hsome))
        exact hrace.claim h hr hid (hdistinct r hr) hfair.attended
    | answerPrimary id verdict' t =>
      obtain ⟨⟨r, hr, rfl⟩, rfl⟩ := hcontends
      obtain ⟨⟨a, p⟩, hid, hp⟩ := hc
      cases p with
      | asking y login' => exact hrace.conclude h hr hid (hdistinct r hr) hgrants hfair.attended
      | _ => simp [Progress.login?] at hp
    | _ => exact hcontends.elim
  · have hsignon (r : Rival) (hr : r ∈ rivals) : (s.perform op).signons.find? r.id =
        s.signons.find? r.id := State.signon_of_unconcerned h hf hr hfair hc (hrace.signon hr)
    cases hrace with
    | vacant nobody idle =>
      refine .vacant (State.free_of_unconcerned h hf nobody hc) fun r hr => ?_
      rw [hsignon r hr]
      exact idle r hr
    | taken winner mem x rec p record owner bound signon leads others =>
      have hopen : rec.unattended s.closed = false := by
        have hopen := hfair.attended winner mem (h.bound x rec winner.channel record bound)
        simpa [Record.unattended, bound] using hopen
      refine .taken winner mem x rec p (State.record?_of_unconcerned h hf record owner hopen hc)
        owner bound ((hsignon winner mem).trans signon) leads fun r hr hne => ?_
      rw [hsignon r hr]
      exact others r hr hne

/-- **Many operations** leave the login with whoever has it. -/
theorem Race.follow {history later : List Operation} (h : Coherent (Minted history) s)
    (hf : Follow history s later) (hrace : Race s login verdict rivals)
    (honly : Throughout
      (fun s op => op.Concerns s login → op.Contends rivals login verdict) s later)
    (hnamed : ∀ r ∈ rivals, ∀ a, .spawn r.id a ∈ later → a = r.attempt login)
    (hattended : ∀ r ∈ rivals, (s.performAll later).closed r.channel = false)
    (hgrants : ∀ failure, verdict ≠ .denied failure)
    (hdistinct : ∀ r ∈ rivals, ∀ r' ∈ rivals, r'.id = r.id → r' = r) :
    Race (s.performAll later) login verdict rivals := by
  induction later generalizing s history with
  | nil => exact hrace
  | cons op later ih =>
    have hfair : Fair login verdict rivals s op :=
      { only := honly.1
        named := fun r hr a he => hnamed r hr a (he ▸ List.mem_cons_self)
        attended := fun r hr hk => State.open_of_performAll hf hk (hattended r hr) }
    exact ih (h.step hf.1) hf.2 (hrace.perform h hf.1.1 hf.1.2.1 hfair hgrants hdistinct) honly.2
      (fun r hr a hmem => hnamed r hr a (List.mem_cons_of_mem _ hmem)) hattended

end Race

section Run

variable {window : Nat} {before later : List Operation} {id : SignonId} {a : Attempt}

theorem State.attempt_performAll {history : List Operation} {s : State} {p : Progress}
    (h : Coherent (Minted history) s) (hf : Follow history s later)
    (hid : s.signons.find? id = some ⟨a, p⟩) :
    ∃ p', (s.performAll later).signons.find? id = some ⟨a, p'⟩ := by
  induction later generalizing s history p with
  | nil => exact ⟨p, hid⟩
  | cons op later ih =>
    obtain ⟨p', hid', -⟩ := progress_perform h hf.1.1 hf.1.2.1 hid
    exact ih (h.step hf.1) hf.2 hid'

theorem signon_of_call (hr : Run window (before ++ later)) (hmem : .spawn id a ∈ later) :
    (stateAfter window before).signons.find? id = none ∧
      ∃ p, (stateAfter window (before ++ later)).signons.find? id = some ⟨a, p⟩ := by
  obtain ⟨earlier, rest, rfl⟩ := List.append_of_mem hmem
  obtain ⟨hbefore, hfollow⟩ := Run.append_iff.1 hr
  obtain ⟨hearlier, hcall, hrest⟩ := follow_append.1 hfollow
  have hrun : Run window (before ++ earlier) := Run.append_iff.2 ⟨hbefore, hearlier⟩
  have hcoherent := coherent_of_run hrun
  rw [stateAfter_append] at hcoherent
  constructor
  · cases hid : (stateAfter window before).signons.find? id with
    | none => rfl
    | some sg =>
      have hnew : ((stateAfter window before).performAll earlier).signons.find? id = none :=
        hcall.1.1
      obtain ⟨p, hid'⟩ := State.attempt_performAll (coherent_of_run hbefore) hearlier hid
      simp [hnew] at hid'
  · rw [stateAfter_append, State.performAll_append, State.performAll_cons]
    exact State.attempt_performAll (hcoherent.step hcall) hrest
      ((Table.find?_insert ..).trans (if_pos rfl))

/-- Signons with a password for a login that nobody has: they are called in the course of `later`,
in which nothing else happens to the login; the authenticator gives each the same verdict, which is
no denial, their channels stay open, and in the end all of them have an outcome. -/
structure Rivalry (login : String) (verdict : PrimaryVerdict) (rivals : List Rival) (s : State)
    (later : List Operation) : Prop where
  nonempty : rivals ≠ []
  nobody : ∀ x rec, s.registry.record? x = some rec → rec.login ≠ login
  called : ∀ r ∈ rivals, .spawn r.id (r.attempt login) ∈ later
  grants : ∀ failure, verdict ≠ .denied failure
  only : Throughout (fun s op => op.Concerns s login → op.Contends rivals login verdict) s later
  attended : ∀ r ∈ rivals, (s.performAll later).closed r.channel = false
  resolved : ∀ r ∈ rivals, (s.performAll later).outcome? r.id ≠ none

section Rivalry

variable {login : String} {verdict : PrimaryVerdict} {rivals : List Rival} {r r' : Rival}

theorem Rivalry.named (h : Rivalry login verdict rivals (stateAfter window before) later)
    (hr : Run window (before ++ later)) (hmem : r ∈ rivals) (ha : .spawn r.id a ∈ later) :
    a = r.attempt login := by
  obtain ⟨-, p, hid⟩ := signon_of_call hr (h.called r hmem)
  obtain ⟨-, p', hid'⟩ := signon_of_call hr ha
  exact congrArg Signon.attempt (Option.some.inj (hid'.symm.trans hid))

theorem Rivalry.distinct (h : Rivalry login verdict rivals (stateAfter window before) later)
    (hr : Run window (before ++ later)) (hmem : r ∈ rivals) (hmem' : r' ∈ rivals)
    (he : r'.id = r.id) : r' = r := by
  have hattempt : r'.attempt login = r.attempt login := h.named hr hmem (he ▸ h.called r' hmem')
  cases r
  cases r'
  simp_all [Rival.attempt]

/-- All rivals have an outcome in the end. -/
theorem Rivalry.decided (h : Rivalry login verdict rivals (stateAfter window before) later)
    (hr : Run window (before ++ later)) (hmem : r ∈ rivals) :
    ∃ o, (stateAfter window (before ++ later)).signons.find? r.id =
      some ⟨r.attempt login, .decided o⟩ := by
  obtain ⟨-, p, hid⟩ := signon_of_call hr (h.called r hmem)
  have hresolved := h.resolved r hmem
  rw [← stateAfter_append] at hresolved
  unfold State.outcome? at hresolved
  rw [hid] at hresolved
  cases p with
  | decided o => exact ⟨o, hid⟩
  | _ => simp at hresolved

/-- **The race** of the rivals stands somewhere in the end, as it did in the beginning. -/
theorem Rivalry.race (h : Rivalry login verdict rivals (stateAfter window before) later)
    (hr : Run window (before ++ later)) :
    Race (stateAfter window (before ++ later)) login verdict rivals := by
  obtain ⟨hbefore, hfollow⟩ := Run.append_iff.1 hr
  have hcoherent := coherent_of_run hbefore
  have hvacant : Race (stateAfter window before) login verdict rivals := by
    refine .vacant ?_ fun r hmem => ?_
    · cases ho : (stateAfter window before).registry.ownerOf login with
      | none => rfl
      | some x =>
        obtain ⟨rec, hx, hlogin⟩ := hcoherent.index.backed login x ho
        exact absurd hlogin (h.nobody x rec hx)
    · rw [(signon_of_call hr (h.called r hmem)).1]
      exact .uncalled
  rw [stateAfter_append]
  exact hvacant.follow hcoherent hfollow h.only (fun r hmem a ha => h.named hr hmem ha)
    h.attended h.grants
    fun r hmem r' hmem' he => h.distinct hr hmem hmem' he

end Rivalry

/-- **One rival has won.** Its outcome is what the verdict says, the others are told that there is a
session for the login, and that session, the only one for the login, is the winner's. -/
structure Victory (login : String) (verdict : PrimaryVerdict) (rivals : List Rival) (s : State)
    (winner : Rival) (x : SessionId) (rec : Record) (o : Outcome) : Prop where
  mem : winner ∈ rivals
  outcome : s.outcome? winner.id = some o
  granted : Leads verdict x login (.decided o) rec.state
  others : ∀ r ∈ rivals, r ≠ winner → r.id ≠ winner.id ∧
    s.outcome? r.id = some (.denied .sessionAlreadyExists)
  record : s.registry.record? x = some rec
  bound : rec.channel = some winner.channel
  only : ∀ y rec', s.registry.record? y = some rec' → (rec'.login = login ↔ y = x)

/-- **Signons that compete for a login** agree on one winner, in whatever order they get on. -/
theorem one_winner {login : String} {verdict : PrimaryVerdict} {rivals : List Rival}
    (hr : Run window (before ++ later))
    (h : Rivalry login verdict rivals (stateAfter window before) later) :
    ∃ winner x rec o,
      Victory login verdict rivals (stateAfter window (before ++ later)) winner x rec o := by
  have hindex := (coherent_of_run hr).index
  have hbegun {r : Rival} (hmem : r ∈ rivals) :
      ¬ r.Idle login ((stateAfter window (before ++ later)).signons.find? r.id) := by
    obtain ⟨o, hid⟩ := h.decided hr hmem
    rw [hid]
    intro hidle
    cases hidle
  cases h.race hr with
  | vacant nobody idle =>
    obtain ⟨r, hmem⟩ := List.exists_mem_of_ne_nil rivals h.nonempty
    exact absurd (idle r hmem) (hbegun hmem)
  | taken winner mem x rec p record owner bound signon leads others =>
    obtain ⟨o, hid⟩ := h.decided hr mem
    obtain rfl := (Signon.mk.inj (Option.some.inj (signon.symm.trans hid))).2
    refine ⟨winner, x, rec, o, mem, State.outcome?_eq signon, leads, fun r hmem hne => ⟨?_, ?_⟩,
      record, bound, fun y rec' hy => ⟨fun hlogin => ?_, ?_⟩⟩
    · exact fun he => hne (h.distinct hr mem hmem he)
    · have hbeaten := others r hmem hne
      generalize hid : (stateAfter window (before ++ later)).signons.find? r.id = sg at hbeaten
      cases hbeaten with
      | idle hidle => exact absurd (hid ▸ hidle) (hbegun hmem)
      | refused => exact State.outcome?_eq hid
    · exact hindex.eq_of_login_eq hy record (hlogin.trans owner.symm)
    · rintro rfl
      obtain rfl := Option.some.inj (hy.symm.trans record)
      exact owner

end Run

namespace Sample

def doors : List Operation :=
  [.openChannel client address 8, .openChannel otherClient address 8,
    .openChannel thirdClient address 8]

/-- On two of them Carol signs on, and Alice does on the third. -/
def rush : List Operation :=
  [.spawn ⟨0⟩ (.primary "carol" ⟨"secret"⟩ client),
    .spawn ⟨1⟩ (.primary "alice" ⟨"secret"⟩ thirdClient),
    .spawn ⟨2⟩ (.primary "carol" ⟨"secret"⟩ otherClient), .start ⟨2⟩ thirdSession,
    .start ⟨1⟩ otherSession,
    .answerPrimary ⟨1⟩ .accepted otherToken, .start ⟨0⟩ session,
    .answerPrimary ⟨2⟩ .needsSecondary token,
    .sweep]

def rivals : List Rival := [⟨⟨0⟩, ⟨"secret"⟩, client⟩, ⟨⟨2⟩, ⟨"secret"⟩, otherClient⟩]

end Sample

set_option maxRecDepth 20000 in
/-- Carol is challenged on one of her two connections, the one that claimed her login first. -/
theorem carol_challenged_once :
    Run 10 (Sample.doors ++ Sample.rush) ∧
      Rivalry "carol" .needsSecondary Sample.rivals (stateAfter 10 Sample.doors) Sample.rush ∧
      (stateAfter 10 (Sample.doors ++ Sample.rush)).outcome? ⟨2⟩ =
        some (.needsSecondary Sample.token) ∧
      ∃ winner x rec o, Victory "carol" .needsSecondary Sample.rivals
        (stateAfter 10 (Sample.doors ++ Sample.rush))
        winner x rec o := by
  have hr : Run 10 (Sample.doors ++ Sample.rush) := by decide +kernel
  have h : Rivalry "carol" .needsSecondary Sample.rivals (stateAfter 10 Sample.doors) Sample.rush :=
    { nonempty := by decide
      nobody := fun x rec hx => by simp [show (stateAfter 10 Sample.doors).registry.record? x =
        none from rfl] at hx
      called := by decide
      grants := fun failure he => by cases he
      only := by decide +kernel
      attended := by decide +kernel
      resolved := by decide +kernel }
  exact ⟨hr, h, by decide +kernel, one_winner hr h⟩

end DurableSession.Server
