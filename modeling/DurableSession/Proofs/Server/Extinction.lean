import Mathlib.Data.List.Induction
import DurableSession.Proofs.Server.Authentication
import DurableSession.Proofs.Server.Ownership

/-!
Sessions that were destroyed do not come back.

A signon keeps the name of its session while an authenticator decides, and so does a challenge that
nobody has answered. Both outlive the record, and both come to nothing once it is gone. Main
statements: `denied_of_resolves`, whatever ends such a signon denies it, and `never_returns`.
-/

namespace DurableSession.Server

open Lifecycle (SessionId Token Failure Secret)

/-! ### Signons for a session -/

/-- The signon is about the session: an authenticator decides whether it gets the session, or it is
about to answer a challenge that was issued for the session. -/
inductive About (window : Nat) (ops : List Operation) (id : SignonId) (x : SessionId) : Prop where
  | asking (asks : (stateAfter window ops).Asks id x)
  | answering {o : Origin} {c : ChannelId} {t : Token} {code : Secret}
      (signon : (stateAfter window ops).signons.find? id = some ⟨.secondary c t code, .spawned⟩)
      (challenge : o.Challenged window ops x t)

/-- An operation that a signon waits for: its authenticator answers, or its answer to a challenge is
taken up. -/
inductive State.Resolves (s : State) (id : SignonId) : Operation → Prop where
  | primary {login login' : String} {secret : Secret} {c : ChannelId} {x : SessionId}
      {verdict : PrimaryVerdict} {fresh : Token}
      (signon : s.signons.find? id = some ⟨.primary login secret c, .asking x login'⟩) :
      Resolves s id (.answerPrimary id verdict fresh)
  | secondary {c : ChannelId} {t : Token} {code : Secret} {x : SessionId} {login : String}
      {verified : Bool}
      (signon : s.signons.find? id = some ⟨.secondary c t code, .asking x login⟩) :
      Resolves s id (.answerSecondary id verified)
  | opening {c : ChannelId} {t : Token} {code : Secret} {fresh : SessionId}
      (signon : s.signons.find? id = some ⟨.secondary c t code, .spawned⟩) :
      Resolves s id (.start id fresh)

/-! ### Without a record there is nothing to grant -/

namespace Registry

variable {r : Registry} {x : SessionId} {closed : ChannelId → Bool} {now : Nat} {c : ChannelId}

theorem activate_of_none {token : Option Token} (h : r.record? x = none) :
    (r.activate closed now x c token).1 = .denied .unknownSession := by
  unfold activate
  rw [h]

theorem concludePrimary_of_none {verdict : PrimaryVerdict} {fresh : Token}
    (h : r.record? x = none) :
    ∃ failure, (r.concludePrimary closed now x c verdict fresh).1 = .denied failure := by
  unfold concludePrimary
  cases verdict with
  | accepted => exact ⟨_, activate_of_none h⟩
  | needsSecondary =>
    rw [h]
    exact ⟨_, rfl⟩
  | denied failure => exact ⟨failure, rfl⟩

theorem concludeSecondary_of_none {t : Token} {verified : Bool} (h : r.record? x = none) :
    ∃ failure, (r.concludeSecondary closed now x c t verified).1 = .denied failure := by
  unfold concludeSecondary
  split
  · exact ⟨_, activate_of_none h⟩
  · exact ⟨_, rfl⟩

end Registry

namespace State

variable {s : State} {id : SignonId} {op : Operation}

theorem outcome?_perform {minted : SessionId → Prop} (h : Coherent minted s) (ha : op.Applicable s)
    (hf : ∀ x ∈ op.mints?, ¬ minted x) {o : Outcome} (ho : s.outcome? id = some o) :
    (s.perform op).outcome? id = some o := by
  have hadv := h.advance hf id
  unfold outcome? at ho ⊢
  generalize hb : s.signons.find? id = before at hadv ho
  generalize hq : (s.perform op).signons.find? id = after at hadv
  cases hadv with
  | kept => exact ho
  | spawned => simp [ha.1] at ho
  | _ => simp at ho

theorem outcome?_start_secondary {c : ChannelId} {t : Token} {code : Secret} {fresh : SessionId}
    (hid : s.signons.find? id = some ⟨.secondary c t code, .spawned⟩)
    (hnone : ∀ x rec, s.registry.challenges.find? t = some x → s.registry.record? x = some rec →
      rec.state ≠ .pendingSecondary t) :
    ∃ failure, (s.perform (.start id fresh)).outcome? id = some (.denied failure) := by
  generalize hs' : s.perform (.start id fresh) = s'
  have hstart : s.startSignon id fresh = s' := hs'
  unfold startSignon at hstart
  rw [hid] at hstart
  dsimp only at hstart
  split at hstart
  · next failure registry _ =>
    refine ⟨failure, outcome?_eq (a := .secondary c t code) ?_⟩
    rw [← hstart]
    exact (Table.find?_insert ..).trans (if_pos rfl)
  · next q registry hq =>
    obtain ⟨rec, ht, hx, hstate, -⟩ := openSecondary_ok hq
    exact absurd hstate (hnone _ rec ht hx)

end State

/-! ### Signons for a session that is gone -/

section About

variable {window : Nat} {ops : List Operation} {op : Operation} {id : SignonId} {x : SessionId}

theorem About.minted (hr : Run window ops) (ha : About window ops id x) : Minted ops x := by
  cases ha with
  | asking asks => exact (coherent_of_run hr).asked id x asks
  | answering signon challenge =>
    obtain ⟨before, ⟨later, rfl⟩, hasks, -⟩ := challenge
    have hm : Minted before x := (coherent_of_run hr.of_append).asked _ x ⟨_, _, hasks⟩
    obtain ⟨op, hop, hx⟩ := hm
    exact ⟨op, List.mem_append_left _ hop, hx⟩

/-- **Whatever ends a signon** for a session that is gone denies it. -/
theorem denied_of_resolves (hr : Run window ops)
    (hx : (stateAfter window ops).registry.record? x = none) (ha : About window ops id x)
    (hop : (stateAfter window ops).Resolves id op) :
    ∃ failure, ((stateAfter window ops).perform op).outcome? id = some (.denied failure) := by
  cases ha with
  | asking asks =>
    obtain ⟨a, login, hq⟩ := asks
    cases hop with
    | primary signon =>
      obtain ⟨-, he⟩ := Signon.mk.inj (Option.some.inj (hq.symm.trans signon))
      obtain ⟨rfl, -⟩ := Progress.asking.inj he
      rw [State.outcome?_eq (State.decided_of_answerPrimary signon)]
      obtain ⟨failure, ho⟩ := Registry.concludePrimary_of_none hx
      exact ⟨failure, congrArg some ho⟩
    | secondary signon =>
      obtain ⟨-, he⟩ := Signon.mk.inj (Option.some.inj (hq.symm.trans signon))
      obtain ⟨rfl, -⟩ := Progress.asking.inj he
      rw [State.outcome?_eq (State.decided_of_answerSecondary signon)]
      obtain ⟨failure, ho⟩ := Registry.concludeSecondary_of_none hx
      exact ⟨failure, congrArg some ho⟩
    | opening signon => simp [hq] at signon
  | answering signon challenge =>
    cases hop with
    | primary signon' => simp [signon] at signon'
    | secondary signon' => simp [signon] at signon'
    | opening signon' =>
      refine State.outcome?_start_secondary signon fun y rec _ hy hstate => ?_
      -- a record that waits for the token would be that of the session itself
      obtain ⟨o, -, -, hsupports⟩ := (traced_of_run hr).record y rec hy
      simp only [Origin.Supports, hstate] at hsupports
      obtain rfl := challenge.unique hr hsupports.2
      simp [hx] at hy

/-- One operation ends a signon for a session that is gone with a denial, or leaves it as it is. -/
theorem About.step (hr : Run window ops) (hop : op.Admissible ops (stateAfter window ops))
    (hx : (stateAfter window ops).registry.record? x = none) (ha : About window ops id x) :
    About window (ops ++ [op]) id x ∨
      ∃ failure, (stateAfter window (ops ++ [op])).outcome? id = some (.denied failure) := by
  have hadv := (coherent_of_run hr).advance hop.2.1 id
  rw [stateAfter_snoc]
  by_cases hresolves : (stateAfter window ops).Resolves id op
  · exact .inr (denied_of_resolves hr hx ha hresolves)
  · left
    suffices hkept : ((stateAfter window ops).perform op).signons.find? id =
        (stateAfter window ops).signons.find? id by
      rw [← stateAfter_snoc] at hkept
      cases ha with
      | asking asks =>
        obtain ⟨a, login, hq⟩ := asks
        exact .asking ⟨a, login, hkept.trans hq⟩
      | answering signon challenge => exact .answering (hkept.trans signon) challenge.append
    have hwaits : ∃ a p, (stateAfter window ops).signons.find? id = some ⟨a, p⟩ ∧
        (p = .spawned → ∃ c t code, a = .secondary c t code) := by
      cases ha with
      | asking asks =>
        obtain ⟨a, login, hq⟩ := asks
        exact ⟨a, _, hq, by simp⟩
      | answering signon challenge => exact ⟨_, _, signon, fun _ => ⟨_, _, _, rfl⟩⟩
    obtain ⟨a, p, hq, hspawned⟩ := hwaits
    generalize hb : (stateAfter window ops).signons.find? id = before at hadv
    generalize ho : ((stateAfter window ops).perform op).signons.find? id = after at hadv
    cases hadv with
    | kept => rfl
    | spawned =>
      have hnew : (stateAfter window ops).signons.find? id = none := hop.1.1
      simp [hnew] at hq
    | claimed record =>
      obtain ⟨rfl, rfl⟩ := Signon.mk.inj (Option.some.inj (hb.symm.trans hq))
      obtain ⟨c, t, code, he⟩ := hspawned rfl
      simp at he
    | refused =>
      obtain ⟨rfl, rfl⟩ := Signon.mk.inj (Option.some.inj (hb.symm.trans hq))
      obtain ⟨c, t, code, rfl⟩ := hspawned rfl
      exact absurd (.opening hb) hresolves
    | opened => exact absurd (.opening hb) hresolves
    | answeredPrimary => exact absurd (.primary hb) hresolves
    | answeredSecondary => exact absurd (.secondary hb) hresolves

end About

section Run

variable {window : Nat} {before later : List Operation} {id : SignonId} {x : SessionId}

/-- A session that has ended has ended for good. -/
theorem gone_of_run (hr : Run window (before ++ later)) (hm : Minted before x)
    (hx : (stateAfter window before).registry.record? x = none) :
    (stateAfter window (before ++ later)).registry.record? x = none := by
  induction later using List.reverseRecOn with
  | nil => simpa using hx
  | append_singleton later op ih =>
    rw [← List.append_assoc] at hr ⊢
    obtain ⟨hr, hop⟩ := Run.snoc_iff.1 hr
    obtain ⟨op', hop', hx'⟩ := hm
    rw [stateAfter_snoc]
    exact State.gone_perform (coherent_of_run hr) hop.2.1 ⟨op', List.mem_append_left _ hop', hx'⟩
      (ih hr)

theorem About.follow (hr : Run window (before ++ later)) (ha : About window before id x)
    (hx : (stateAfter window before).registry.record? x = none) :
    About window (before ++ later) id x ∨
      ∃ failure, (stateAfter window (before ++ later)).outcome? id = some (.denied failure) := by
  induction later using List.reverseRecOn with
  | nil => exact .inl (by simpa using ha)
  | append_singleton later op ih =>
    rw [← List.append_assoc] at hr ⊢
    obtain ⟨hr, hop⟩ := Run.snoc_iff.1 hr
    have hm : Minted before x := ha.minted hr.of_append
    rcases ih hr with ha | ⟨failure, ho⟩
    · exact ha.step hr hop (gone_of_run hr hm hx)
    · right
      rw [stateAfter_snoc]
      exact ⟨failure, State.outcome?_perform (coherent_of_run hr) hop.1 hop.2.1 ho⟩

theorem About.denied (hr : Run window (before ++ later)) (ha : About window before id x)
    (hx : (stateAfter window before).registry.record? x = none) {o : Outcome}
    (ho : (stateAfter window (before ++ later)).outcome? id = some o) :
    ∃ failure, o = .denied failure := by
  rcases ha.follow hr hx with ha | ⟨failure, ho'⟩
  · unfold State.outcome? at ho
    cases ha with
    | asking asks =>
      obtain ⟨a, login, hq⟩ := asks
      simp [hq] at ho
    | answering signon challenge => simp [signon] at ho
  · exact ⟨failure, Option.some.inj (ho.symm.trans ho')⟩

end Run

/-! ### Sessions that have ended -/

/-- The session had a record once, and has none any more. -/
def Left (window : Nat) (ops : List Operation) (x : SessionId) : Prop :=
  (∃ before later rec, ops = before ++ later ∧
    (stateAfter window before).registry.record? x = some rec) ∧
  (stateAfter window ops).registry.record? x = none

theorem Left.minted {window : Nat} {ops : List Operation} {x : SessionId} (hr : Run window ops)
    (h : Left window ops x) : Minted ops x := by
  obtain ⟨⟨before, later, rec, rfl, hx⟩, -⟩ := h
  obtain ⟨op, hop, hmints⟩ := (coherent_of_run hr.of_append).known x rec hx
  exact ⟨op, List.mem_append_left _ hop, hmints⟩

/-- A session that had ended after `before` is over after `ops`: nobody resumes it, and its signons
are denied, those that were under way then and those that answer one of its challenges later. -/
structure Extinct (window : Nat) (before ops : List Operation) (x : SessionId) : Prop where
  gone : (stateAfter window ops).registry.record? x = none
  refused : ∀ c, ((stateAfter window ops).reuse x c).1 = .error .unknownSession
  resolved : ∀ id op, About window ops id x → (stateAfter window ops).Resolves id op →
    ∃ failure, ((stateAfter window ops).perform op).outcome? id = some (.denied failure)
  denied : ∀ id o, About window before id x → (stateAfter window ops).outcome? id = some o →
    ∃ failure, o = .denied failure

/-- All sessions were destroyed after `before`: no table knows any, their channels are closed, and
no signon that was under way for one of them has got a session after `ops`. -/
structure Evacuated (window : Nat) (before ops : List Operation) : Prop where
  sessions : (stateAfter window (before ++ [.kickoutAll])).registry.sessions.size = 0
  logins : (stateAfter window (before ++ [.kickoutAll])).registry.logins.size = 0
  channels : ∀ x rec c, (stateAfter window before).registry.record? x = some rec →
    rec.channel = some c → (stateAfter window (before ++ [.kickoutAll])).closed c = true
  denied : ∀ id x o, About window before id x → (stateAfter window ops).outcome? id = some o →
    ∃ failure, o = .denied failure

section Kickout

variable {window : Nat} {before later : List Operation}

theorem record?_after_kickoutAll (x : SessionId) :
    (stateAfter window (before ++ [.kickoutAll])).registry.record? x = none := by
  rw [stateAfter_snoc]
  exact State.record?_kickoutAll

/-- Kicking everybody out leaves the signons under way. -/
theorem About.kickoutAll {id : SignonId} {x : SessionId} (ha : About window before id x) :
    About window (before ++ [.kickoutAll]) id x := by
  have hsignons : (stateAfter window (before ++ [.kickoutAll])).signons =
      (stateAfter window before).signons := by
    rw [stateAfter_snoc]
    exact State.signons_kickoutAll
  cases ha with
  | asking asks =>
    obtain ⟨a, login, hq⟩ := asks
    exact .asking ⟨a, login, by rw [hsignons, hq]⟩
  | answering signon challenge => exact .answering (by rw [hsignons, signon]) challenge.append

theorem evacuated_of_run (hr : Run window (before ++ .kickoutAll :: later)) :
    Evacuated window before (before ++ .kickoutAll :: later) := by
  rw [List.append_cons] at hr ⊢
  have hcoherent := coherent_of_run hr.of_append
  refine ⟨Table.size_eq_zero record?_after_kickoutAll, Table.size_eq_zero fun login => ?_,
    fun x rec c hx hc => ?_, fun id x o ha ho => ?_⟩
  · refine Option.eq_none_iff_forall_ne_some.2 fun x hx => ?_
    obtain ⟨rec, hrec, -⟩ := hcoherent.index.backed login x hx
    simp [record?_after_kickoutAll] at hrec
  · rw [stateAfter_snoc]
    exact State.closed_kickoutEach (Table.mem_keys.2 ⟨rec, hx⟩) hx hc
  · exact ha.kickoutAll.denied hr (record?_after_kickoutAll x) ho

end Kickout

/-- **Destroyed sessions never come back.** A session that has left the registry has no record ever
after, nobody resumes it, and every signon for it is denied, whatever its authenticator answers; and
when everybody is kicked out, no session and no owner of a login is left, and no signon that was
under way gets one. -/
theorem never_returns {window : Nat} {ops : List Operation} (h : Run window ops) :
    (∀ before later x, ops = before ++ later → Left window before x → Extinct window before ops x) ∧
    ∀ before later, ops = before ++ .kickoutAll :: later → Evacuated window before ops := by
  constructor
  · rintro before later x rfl hleft
    have hgone := gone_of_run h (hleft.minted h.of_append) hleft.2
    exact
      { gone := hgone
        refused := fun c => Registry.reuse_of_none hgone
        resolved := fun id op => denied_of_resolves h hgone
        denied := fun id o ha => ha.denied h hleft.2 }
  · rintro before later rfl
    exact evacuated_of_run h

/-- Everybody is kicked out while Carol's secret is being checked, and then it turns out to be
right. -/
def Sample.lateVerdict : List Operation :=
  Sample.signon.take 3 ++ [.kickoutAll, .answerPrimary ⟨0⟩ .accepted Sample.token]

set_option maxRecDepth 10000 in
/-- Carol's session is gone then, and her signon is denied. -/
theorem carol_evacuated :
    Left 10 (Sample.lateVerdict.take 4) Sample.session ∧
      Extinct 10 (Sample.lateVerdict.take 4) Sample.lateVerdict Sample.session ∧
      Evacuated 10 (Sample.signon.take 3) Sample.lateVerdict ∧
      (stateAfter 10 Sample.lateVerdict).outcome? ⟨0⟩ = some (.denied .unknownSession) := by
  have h : Run 10 Sample.lateVerdict := by decide
  have hleft : Left 10 (Sample.lateVerdict.take 4) Sample.session :=
    ⟨⟨Sample.signon.take 3, [.kickoutAll],
      Record.pending Sample.session "carol" Sample.client Sample.address 0, rfl, by decide⟩, by
        decide⟩
  exact ⟨hleft, (never_returns h).1 _ [.answerPrimary ⟨0⟩ .accepted Sample.token] _ rfl hleft,
    (never_returns h).2 _ _ rfl, by decide⟩

end DurableSession.Server
