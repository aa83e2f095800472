import DurableSession.Proofs.Server.Ownership
import DurableSession.Proofs.Server.Regular

/-!
A session is not taken from a channel that is alive.

Main statement: `never_taken`. Somebody else resumes a session only when the channel that it was
bound to is closed, or was reported as gone since; and when several channels want to resume a
session that waits for it, the first of them gets it.
-/

namespace DurableSession.Server

open Lifecycle (SessionId)

namespace State

variable {history : List Operation} {s : State} {op : Operation} {later : List Operation}
  {x : SessionId} {c : ChannelId}

/-! ### Time and channels in a continuation -/

theorem clock_perform : (s.perform op).window = s.window ∧ s.now ≤ (s.perform op).now := by
  have hkickout (s : State) (y : SessionId) :
      (s.kickout y).2.window = s.window ∧ (s.kickout y).2.now = s.now := by
    unfold kickout
    split <;> exact ⟨rfl, rfl⟩
  cases op with
  | advance ms => exact ⟨rfl, Nat.le_add_right s.now ms⟩
  | start id fresh =>
    unfold perform startSignon
    dsimp only
    split
    · split <;> exact ⟨rfl, Nat.le_refl _⟩
    · split <;> exact ⟨rfl, Nat.le_refl _⟩
    · exact ⟨rfl, Nat.le_refl _⟩
  | answerPrimary id verdict fresh =>
    unfold perform answerPrimary
    dsimp only
    split <;> exact ⟨rfl, Nat.le_refl _⟩
  | answerSecondary id verified =>
    unfold perform answerSecondary
    dsimp only
    split <;> exact ⟨rfl, Nat.le_refl _⟩
  | kickout y => exact ⟨(hkickout s y).1, Nat.le_of_eq (hkickout s y).2.symm⟩
  | kickoutAll =>
    refine kickoutEach_keeps (P := fun s' => s'.window = s.window ∧ s.now ≤ s'.now)
      (fun s' y h => ?_) ⟨rfl, Nat.le_refl _⟩
    exact ⟨(hkickout s' y).1.trans h.1, Nat.le_trans h.2 (Nat.le_of_eq (hkickout s' y).2.symm)⟩
  | unregister y c =>
    obtain ⟨routes, hr⟩ := s.perform_unregister y c
    have hnow : (s.perform (.unregister y c)).now = s.now := by rw [hr]
    exact ⟨by rw [hr], Nat.le_of_eq hnow.symm⟩
  | _ => exact ⟨rfl, Nat.le_refl _⟩

theorem clock_performAll :
    (s.performAll later).window = s.window ∧ s.now ≤ (s.performAll later).now := by
  induction later generalizing s with
  | nil => exact ⟨rfl, Nat.le_refl _⟩
  | cons op later ih =>
    obtain ⟨hwindow, hnow⟩ : (s.perform op).window = s.window ∧ s.now ≤ (s.perform op).now :=
      clock_perform
    exact ⟨ih.1.trans hwindow, Nat.le_trans hnow ih.2⟩

theorem closed_performAll (hf : Follow history s later) (hk : s.Known c) (h : s.closed c = true) :
    (s.performAll later).closed c = true := by
  induction later generalizing s history with
  | nil => exact h
  | cons op later ih => exact ih hf.2 (known_perform hk) (closed_perform hf.1.1 hk h)

theorem isKicked_performAll (hf : Follow history s later) (h : s.isKicked c = true) :
    (s.performAll later).isKicked c = true := by
  induction later generalizing s history with
  | nil => exact h
  | cons op later ih => exact ih hf.2 (isKicked_perform hf.1.1 h)

theorem open_of_performAll (hf : Follow history s later) (hk : s.Known c)
    (h : (s.performAll later).closed c = false) : s.closed c = false := by
  cases hc : s.closed c with
  | false => rfl
  | true => simp [closed_performAll hf hk hc] at h

/-! ### A session that a channel has got -/

/-- Nobody else has got the session of a channel. -/
inductive Undisputed (minted : SessionId → Prop) (s : State) (c : ChannelId) (x : SessionId) :
    Prop where
  | held (h : s.Holds c x)
  | closed (known : s.Known c) (h : s.closed c = true)
  | ended (given : minted x) (h : s.registry.record? x = none)

theorem record?_of_signoff (h : s.Holds c x) :
    (s.perform (.close c x true)).registry.record? x = none := by
  obtain ⟨rec, hx, -, hbound⟩ := h
  show (s.registry.close s.now c x true).record? x = none
  rw [Registry.record?_close, if_pos rfl, hx, Option.bind_some]
  unfold Registry.closeRecord
  rw [if_neg (by simp [hbound]), if_pos (.inl rfl)]

theorem Undisputed.step (h : Coherent (Minted history) s) (ha : op.Admissible history s)
    (hu : Undisputed (Minted history) s c x) (hclose : op ≠ .close c x false)
    (hrelease : op ≠ .release c) :
    Undisputed (Minted (history ++ [op])) (s.perform op) c x := by
  cases hu with
  | held hx =>
    have hrec := hx
    obtain ⟨rec, hrec, -, hbound⟩ := hrec
    rcases holds_perform h ha.1 ha.2.1 hx with hx' | hc | ⟨signedOff, rfl⟩ | rfl
    · exact .held hx'
    · exact .closed (known_perform (h.bound x rec c hrec hbound)) hc
    · cases signedOff with
      | false => exact absurd rfl hclose
      | true => exact .ended (minted_snoc.2 (.inl (h.known x rec hrec))) (record?_of_signoff hx)
    · exact absurd rfl hrelease
  | closed known hc => exact .closed (known_perform known) (closed_perform ha.1 known hc)
  | ended given hx => exact .ended (minted_snoc.2 (.inl given)) (gone_perform h ha.2.1 given hx)

theorem Undisputed.follow (h : Coherent (Minted history) s) (hf : Follow history s later)
    (hu : Undisputed (Minted history) s c x) (hclose : .close c x false ∉ later)
    (hrelease : .release c ∉ later) :
    ∃ minted, Undisputed minted (s.performAll later) c x := by
  induction later generalizing s history with
  | nil => exact ⟨_, hu⟩
  | cons op later ih =>
    rw [List.mem_cons, not_or] at hclose hrelease
    exact ih (h.step hf.1) hf.2 (hu.step h hf.1 (Ne.symm hclose.1) (Ne.symm hrelease.1)) hclose.2
      hrelease.2

/-- Whoever resumes a session finds the channel closed that it was bound to. -/
theorem Undisputed.closed_of_reuse {minted : SessionId → Prop} (hu : Undisputed minted s c x)
    {d : ChannelId} {login : String} (hr : (s.reuse x d).1 = .ok login) : s.closed c = true := by
  obtain ⟨rec, hx, -, hfree, -⟩ := Registry.reuse_ok
    (hr : (s.registry.reuse s.closed s.window s.now x d (s.remoteOf d)).1 = .ok login)
  cases hu with
  | held h =>
    obtain ⟨rec', hx', hactive, hbound⟩ := h
    obtain rfl := Option.some.inj (hx.symm.trans hx')
    simpa [hactive, Record.unattended, hbound] using hfree
  | closed known h => exact h
  | ended given h => simp [hx] at h

end State

/-- Between the time when a session is bound to a channel and the time when it is resumed by
anybody, the channel is closed or its end is reported. -/
theorem closed_or_reported {window : Nat} {ops later : List Operation} {op : Operation}
    {x : SessionId} {c d : ChannelId} {login : String} (h : Run window (ops ++ op :: later))
    (hb : (stateAfter window ops).Binds x c op)
    (hr : ((stateAfter window (ops ++ op :: later)).reuse x d).1 = .ok login) :
    (stateAfter window (ops ++ op :: later)).closed c = true ∨ .close c x false ∈ later ∨
      .release c ∈ later := by
  rw [List.append_cons] at h hr ⊢
  obtain ⟨hrun, hf⟩ := Run.append_iff.1 h
  obtain ⟨hops, ha⟩ := Run.snoc_iff.1 hrun
  have hholds := State.holds_of_binds (coherent_of_run hops) ha.2.1 hb
  rw [← stateAfter_snoc] at hholds
  rw [stateAfter_append] at hr ⊢
  by_cases hclose : .close c x false ∈ later
  · exact .inr (.inl hclose)
  · by_cases hrelease : .release c ∈ later
    · exact .inr (.inr hrelease)
    · obtain ⟨minted, hu⟩ :=
        State.Undisputed.follow (coherent_of_run hrun) hf (.held hholds) hclose hrelease
      exact .inl (hu.closed_of_reuse hr)

/-! ### Channels that contend for a session -/

def Attempt.login? : Attempt → Option String
  | primary login _ _ => some login
  | secondary .. => none

/-- Next to the attempts to resume a session, which are made within its window, other operations are
about other sessions and logins. -/
def Operation.Aside (x : SessionId) (rec : Record) (s : State) : Operation → Prop
  | .reuse y _ => y = x → rec.inactive s.window s.now = false
  | .start id _ =>
    ∀ sg ∈ s.signons.find? id, sg.progress = .spawned → sg.attempt.login? ≠ some rec.login
  | .kickout y => y ≠ x
  | .kickoutAll => False
  | _ => True

/-- What the attempts to resume a session are answered, the first one first. -/
def resumptions (x : SessionId) (s : State) : List Operation → List (Except RegistryError String)
  | [] => []
  | .reuse y c :: later =>
    if y = x then (s.reuse y c).1 :: resumptions x (s.reuse y c).2 later
    else resumptions x (s.reuse y c).2 later
  | op :: later => resumptions x (s.perform op) later

/-- Channels that stay open and unreported contend for a session that waits to be resumed. -/
structure Contest (s : State) (x : SessionId) (rec : Record) (later : List Operation) : Prop where
  record : s.registry.record? x = some rec
  waits : rec.state = .reusable
  aside : Throughout (Operation.Aside x rec) s later
  attended : ∀ c, .reuse x c ∈ later → (s.performAll later).closed c = false
  unreported : ∀ c, .reuse x c ∈ later → .release c ∉ later ∧
    ∀ signedOff, .close c x signedOff ∉ later

/-- The first one gets the session, and the others are told that it is taken. -/
def FirstWins (login : String) : List (Except RegistryError String) → Prop
  | [] => True
  | first :: others => first = .ok login ∧ ∀ answer ∈ others, answer = .error .sessionNotReusable

namespace State

variable {history : List Operation} {s : State} {op : Operation} {later : List Operation}
  {x : SessionId} {c : ChannelId} {rec : Record}

theorem resumptions_cons (hop : ∀ c, op ≠ .reuse x c) :
    resumptions x s (op :: later) = resumptions x (s.perform op) later := by
  cases op with
  | reuse y c =>
    have hne : y ≠ x := by
      rintro rfl
      exact hop c rfl
    exact if_neg hne
  | _ => rfl

theorem resumptions_reuse :
    resumptions x s (.reuse x c :: later) =
      (s.reuse x c).1 :: resumptions x (s.perform (.reuse x c)) later :=
  if_pos rfl

theorem reuse_of_holds (h : s.Holds c x) (hc : s.closed c = false) (d : ChannelId) :
    (s.reuse x d).1 = .error .sessionNotReusable := by
  obtain ⟨rec, hx, hactive, hbound⟩ := h
  show (s.registry.reuse s.closed s.window s.now x d (s.remoteOf d)).1 = _
  unfold Registry.reuse
  simp [hx, hactive, Record.unattended, hbound, hc]

theorem reuse_of_waiting (hx : s.registry.record? x = some rec) (hstate : rec.state = .reusable)
    (hlate : rec.inactive s.window s.now = false) : (s.reuse x c).1 = .ok rec.login := by
  show (s.registry.reuse s.closed s.window s.now x c (s.remoteOf c)).1 = _
  unfold Registry.reuse
  simp [hx, hstate, hlate]

theorem resumptions_of_holds (h : Coherent (Minted history) s) (hf : Follow history s later)
    (hx : s.Holds c x) (hopen : (s.performAll later).closed c = false)
    (hrelease : .release c ∉ later) (hclose : ∀ signedOff, .close c x signedOff ∉ later) :
    ∀ answer ∈ resumptions x s later, answer = .error .sessionNotReusable := by
  induction later generalizing s history with
  | nil => simp [resumptions]
  | cons op later ih =>
    obtain ⟨rec, hrec, -, hbound⟩ := id hx
    have hknown : s.Known c := h.bound x rec c hrec hbound
    -- a channel that is open in the end was open all the time
    have hc := open_of_performAll hf hknown hopen
    have hx' : (s.perform op).Holds c x := by
      rcases holds_perform h hf.1.1 hf.1.2.1 hx with hx' | hc' | ⟨signedOff, rfl⟩ | rfl
      · exact hx'
      · have hopen' := open_of_performAll hf.2 (known_perform hknown) hopen
        simp [hc'] at hopen'
      · exact absurd List.mem_cons_self (hclose signedOff)
      · exact absurd List.mem_cons_self hrelease
    have hrest := ih (h.step hf.1) hf.2 hx' hopen (fun hm => hrelease (List.mem_cons_of_mem _ hm))
      fun signedOff hm => hclose signedOff (List.mem_cons_of_mem _ hm)
    by_cases hop : ∃ d, op = .reuse x d
    · obtain ⟨d, rfl⟩ := hop
      rw [resumptions_reuse]
      simpa [reuse_of_holds hx hc d] using hrest
    · rw [resumptions_cons (fun d hd => hop ⟨d, hd⟩)]
      exact hrest

theorem resumptions_of_late (hlate : rec.inactive s.window s.now = true)
    (haside : Throughout (Operation.Aside x rec) s later) : resumptions x s later = [] := by
  induction later generalizing s with
  | nil => rfl
  | cons op later ih =>
    rw [resumptions_cons]
    · refine ih ?_ haside.2
      have ⟨hwindow, hnow⟩ : (s.perform op).window = s.window ∧ s.now ≤ (s.perform op).now :=
        clock_perform
      simp only [Record.inactive, decide_eq_true_eq, hwindow] at hlate ⊢
      omega
    · rintro c rfl
      have hintime : rec.inactive s.window s.now = false := haside.1 rfl
      simp [hlate] at hintime

/-- A session waits until it is resumed, or until a sweep finds its window over. -/
theorem record?_of_waiting (h : Coherent (Minted history) s) (ha : op.Admissible history s)
    (hx : s.registry.record? x = some rec) (hstate : rec.state = .reusable)
    (haside : op.Aside x rec s) (hop : ∀ c, op ≠ .reuse x c) :
    (s.perform op).registry.record? x = some rec ∨
      (s.perform op).registry.record? x = none ∧ rec.inactive s.window s.now = true := by
  have hfree : rec.channel = none := (h.settled x rec hx).parted hstate
  have hsettled : rec.state.isPending = false := by simp [hstate, RecordState.isPending]
  have hfate := h.fate ha.2.1 x
  rw [hx] at hfate
  generalize ho : (s.perform op).registry.record? x = o at hfate
  cases hfate with
  | kept => exact .inl rfl
  | destroyed why =>
    cases why with
    | displaced signon stale kicked => exact absurd rfl (haside _ signon rfl)
    | misanswered signon challenge wrong => exact absurd challenge (h.not_challenged hx hsettled _)
    | denied signon answer => exact absurd ⟨_, _, signon⟩ (h.not_asks hx hsettled _)
    | unverified signon answer => exact absurd ⟨_, _, signon⟩ (h.not_asks hx hsettled _)
    | expired state late => exact absurd rfl (hop _)
    | closed bound ended => simp [hfree] at bound
    | released bound ended => simp [hfree] at bound
    | kickedOut kicked => exact absurd rfl haside
    | allKickedOut kicked => exact absurd haside id
    | swept stale kicked => exact .inr ⟨rfl, by simpa [Registry.isStale, hstate] using stale⟩
  | challenged signon state => simp [hstate] at state
  | accepted signon state attended => simp [hstate] at state
  | verified signon state attended => simp [hstate] at state
  | resumed free => exact absurd rfl (hop _)
  | disconnected state why => simp [hstate] at state

/-- **The first channel** that wants to resume a session gets it. -/
theorem firstWins (h : Coherent (Minted history) s) (hf : Follow history s later)
    (hc : Contest s x rec later) : FirstWins rec.login (resumptions x s later) := by
  induction later generalizing s history with
  | nil => trivial
  | cons op later ih =>
    by_cases hop : ∃ c, op = .reuse x c
    · obtain ⟨c, rfl⟩ := hop
      have hok := reuse_of_waiting (c := c) hc.record hc.waits (hc.aside.1 rfl)
      obtain ⟨hrelease, hclose⟩ := hc.unreported c List.mem_cons_self
      rw [resumptions_reuse]
      exact ⟨hok, resumptions_of_holds (h.step hf.1) hf.2 (holds_of_reuse hok)
        (hc.attended c List.mem_cons_self) (fun hm => hrelease (List.mem_cons_of_mem _ hm))
        fun signedOff hm => hclose signedOff (List.mem_cons_of_mem _ hm)⟩
    · have hop' : ∀ c, op ≠ .reuse x c := fun c hc => hop ⟨c, hc⟩
      rw [resumptions_cons hop']
      rcases record?_of_waiting h hf.1 hc.record hc.waits hc.aside.1 hop' with hx | ⟨-, hlate⟩
      · refine ih (h.step hf.1) hf.2
          { record := hx
            waits := hc.waits
            aside := hc.aside.2
            attended := fun c hm => hc.attended c (List.mem_cons_of_mem _ hm)
            unreported := fun c hm => ?_ }
        obtain ⟨hrelease, hclose⟩ := hc.unreported c (List.mem_cons_of_mem _ hm)
        exact ⟨fun hr => hrelease (List.mem_cons_of_mem _ hr),
          fun signedOff hr => hclose signedOff (List.mem_cons_of_mem _ hr)⟩
      · -- the sweep came too late for anybody to contend after it
        have hnone : resumptions x s (op :: later) = [] := resumptions_of_late hlate hc.aside
        rw [resumptions_cons hop'] at hnone
        rw [hnone]
        trivial

end State

/-- **A session is not taken from a channel that is alive.** Whoever resumes a session finds the
channel that it was bound to closed, or reported as gone since; and of all channels that contend for
a session the first one gets it. -/
theorem never_taken {window : Nat} {ops : List Operation} (h : Run window ops) (x : SessionId) :
    (∀ before op between c d login, ops = before ++ op :: between →
      (stateAfter window before).Binds x c op → ((stateAfter window ops).reuse x d).1 = .ok login →
      (stateAfter window ops).closed c = true ∨ .close c x false ∈ between ∨ .release c ∈ between) ∧
    ∀ before later rec, ops = before ++ later → Contest (stateAfter window before) x rec later →
      FirstWins rec.login (resumptions x (stateAfter window before) later) := by
  constructor
  · rintro before op between c d login rfl hb hr
    exact closed_or_reported h hb hr
  · rintro before later rec rfl hc
    obtain ⟨hbefore, hf⟩ := Run.append_iff.1 h
    exact State.firstWins (coherent_of_run hbefore) hf hc

set_option maxRecDepth 10000 in
/-- Carol's session is resumed on another channel, which keeps it while a third one wants it. -/
theorem comeback_contended :
    ((stateAfter 10 (Sample.signon ++ Sample.breakdown)).closed Sample.client = true ∨
      .close Sample.client Sample.session false ∈ Sample.breakdown ∨
      .release Sample.client ∈ Sample.breakdown) ∧
    FirstWins "carol" (resumptions Sample.session
      (stateAfter 10 (Sample.signon ++ Sample.breakdown)) Sample.contest) := by
  have h : Run 10 ((Sample.signon ++ Sample.breakdown) ++ Sample.contest) := by decide
  constructor
  · have hgranted : ((stateAfter 10 (Sample.signon.take 6)).perform
        (.answerSecondary ⟨1⟩ true)).signons.find? ⟨1⟩ =
        some ⟨.secondary Sample.client Sample.token ⟨"123456"⟩,
          .decided (.accepted Sample.session "carol")⟩ := by
      decide
    exact (never_taken h.of_append Sample.session).1 _ _ Sample.breakdown _ Sample.otherClient
      "carol" rfl (.signon (by decide) hgranted rfl) rfl
  · have hone (c : ChannelId) (hc : .reuse Sample.session c ∈ Sample.contest) :
        c = Sample.otherClient ∨ c = Sample.thirdClient := by
      simpa [Sample.contest] using hc
    refine (never_taken h Sample.session).2 _ _ Sample.waiting rfl
      { record := by decide
        waits := rfl
        aside := ?_
        attended := fun c hc => ?_
        unreported := fun c hc => ?_ }
    · exact ⟨trivial, trivial, trivial, fun _ => by decide, trivial, fun _ => by decide, trivial⟩
    · rcases hone c hc with rfl | rfl <;> decide
    · rcases hone c hc with rfl | rfl <;> simp [Sample.contest]

end DurableSession.Server
