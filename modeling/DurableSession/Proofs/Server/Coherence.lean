import DurableSession.Proofs.Server.Advance

/-!
Records, challenges and signons fit together in every state of a run.

A signon that asks an authenticator about a session finds its record as it left it, or finds none:
nobody else moves a record that waits. This is what keeps a late answer from acting on a session
that has gone on without it. Main statements: `Coherent.perform` for one operation and
`coherent_of_run` for a run.
-/

namespace DurableSession.Server

open Lifecycle (SessionId Token Failure Secret)
open Network (SocketAddress)

/-! ### The index -/

namespace Registry.Indexed

variable {s : State} {op : Operation}

theorem kickoutState (h : s.registry.Indexed) (x : SessionId) :
    (s.kickout x).2.registry.Indexed := by
  have hk : (s.registry.kickout x).2.1.Indexed := h.kickout
  unfold State.kickout
  split
  · exact h
  · next hq =>
    rw [hq] at hk
    exact hk

theorem perform (h : s.registry.Indexed)
    (hf : ∀ fresh, op.mints? = some fresh → s.registry.record? fresh = none) :
    (s.perform op).registry.Indexed := by
  cases op with
  | start id fresh =>
    unfold State.perform
    dsimp only
    unfold State.startSignon
    split
    · dsimp only
      split
      · exact h
      · next hc => exact h.claim (hf fresh rfl) hc
    · next c t code _ =>
      have hopen : (s.registry.openSecondary c t code).2.Indexed := h.openSecondary
      dsimp only
      split
      · next hq =>
        rw [hq] at hopen
        exact hopen
      · next hq =>
        rw [hq] at hopen
        exact hopen
    · exact h
  | answerPrimary id verdict fresh =>
    unfold State.perform
    dsimp only
    unfold State.answerPrimary
    split
    · exact h.concludePrimary
    · exact h
  | answerSecondary id verified =>
    unfold State.perform
    dsimp only
    unfold State.answerSecondary
    split
    · exact h.concludeSecondary
    · exact h
  | reuse x c => exact h.reuse
  | close c x signedOff => exact h.close
  | release c => exact h.releaseChannel
  | kickout x => exact h.kickoutState x
  | kickoutAll =>
    exact State.kickoutEach_keeps (P := fun s => s.registry.Indexed)
      (fun _ x h => h.kickoutState x) h
  | sweep => exact h.sweep
  | unregister x c =>
    obtain ⟨routes, hr⟩ := s.perform_unregister x c
    rw [hr]
    exact h
  | _ => exact h

end Registry.Indexed

/-! ### What fits together -/

/-- The state of a record fits its channel: it waits for its signon or is active on one, or waits to
be resumed without one. -/
def Record.Settled (rec : Record) : Prop :=
  match rec.state with
  | .pendingPrimary | .pendingSecondary _ | .active => rec.channel ≠ none
  | .reusable => rec.channel = none
  | .terminated => False

namespace Attempt

def token? : Attempt → Option Token
  | primary .. => none
  | secondary _ t _ => some t

/-- The record waits for what becomes of the attempt. -/
def AwaitedBy (a : Attempt) (login : String) (rec : Record) : Prop :=
  rec.state = Registry.waitingState a.token? ∧ rec.channel = some a.channel ∧ rec.login = login

end Attempt

/-- The signon has put a question about the session. -/
def State.Asks (s : State) (id : SignonId) (x : SessionId) : Prop :=
  ∃ a login, s.signons.find? id = some ⟨a, .asking x login⟩

/-- **What fits together** in a state in which the sessions `minted` were given out. -/
structure Coherent (minted : SessionId → Prop) (s : State) : Prop where
  index : s.registry.Indexed
  known : ∀ x rec, s.registry.record? x = some rec → minted x
  settled : ∀ x rec, s.registry.record? x = some rec → rec.Settled
  bound : ∀ x rec c, s.registry.record? x = some rec → rec.channel = some c → s.Known c
  attempt : ∀ id sg, s.signons.find? id = some sg → s.Known sg.attempt.channel
  asked : ∀ id x, s.Asks id x → minted x
  asking : ∀ id a x login rec, s.signons.find? id = some ⟨a, .asking x login⟩ →
    s.registry.record? x = some rec → a.AwaitedBy login rec
  alone : ∀ id id' x, s.Asks id x → s.Asks id' x → id = id'
  challenged : ∀ t x, s.registry.challenges.find? t = some x → minted x
  challenge : ∀ t x rec, s.registry.challenges.find? t = some x → s.registry.record? x = some rec →
    rec.state = .pendingSecondary t
  unasked : ∀ t x id, s.registry.challenges.find? t = some x → ¬ s.Asks id x

namespace Coherent

variable {minted : SessionId → Prop} {s : State} {op : Operation} {x : SessionId} {rec : Record}

theorem init (window : Nat) : Coherent minted { window } where
  index := Registry.Indexed.empty
  known := by simp [Registry.record?]
  settled := by simp [Registry.record?]
  bound := by simp [Registry.record?]
  attempt := by simp
  asked := by simp [State.Asks]
  asking := by simp
  alone := by simp [State.Asks]
  challenged := by simp
  challenge := by simp
  unasked := by simp

theorem mono {minted' : SessionId → Prop} (h : Coherent minted s) (hm : ∀ x, minted x → minted' x) :
    Coherent minted' s :=
  { h with
    known := fun x rec hx => hm x (h.known x rec hx)
    asked := fun id x hx => hm x (h.asked id x hx)
    challenged := fun t x hx => hm x (h.challenged t x hx) }

theorem record?_fresh (h : Coherent minted s) (hf : ∀ x ∈ op.mints?, ¬ minted x) :
    ∀ fresh, op.mints? = some fresh → s.registry.record? fresh = none := by
  intro fresh hop
  cases hx : s.registry.record? fresh with
  | none => rfl
  | some rec => exact absurd (h.known fresh rec hx) (hf fresh hop)

theorem fate (h : Coherent minted s) (hf : ∀ x ∈ op.mints?, ¬ minted x) (x : SessionId) :
    Fate s x op (s.registry.record? x) ((s.perform op).registry.record? x) :=
  State.fate h.index (h.record?_fresh hf)

theorem advance (h : Coherent minted s) (hf : ∀ x ∈ op.mints?, ¬ minted x) (id : SignonId) :
    Advance s id op (s.signons.find? id) ((s.perform op).signons.find? id) :=
  State.advance h.index (h.record?_fresh hf)

/-- Nobody is asked about a session whose record does not wait. -/
theorem not_asks (h : Coherent minted s) (hx : s.registry.record? x = some rec)
    (hs : rec.state.isPending = false) (id : SignonId) : ¬ s.Asks id x := by
  rintro ⟨a, login, hq⟩
  rw [(h.asking id a x login rec hq hx).1] at hs
  cases ha : a.token? <;> simp [ha, Registry.waitingState, RecordState.isPending] at hs

theorem not_challenged (h : Coherent minted s) (hx : s.registry.record? x = some rec)
    (hs : rec.state.isPending = false) (t : Token) : s.registry.challenges.find? t ≠ some x := by
  intro ht
  rw [h.challenge t x rec ht hx] at hs
  simp [RecordState.isPending] at hs

/-- A signon that asks was asking before, or has just put its question. -/
theorem asking_perform (h : Coherent minted s) (hf : ∀ x ∈ op.mints?, ¬ minted x) {id : SignonId}
    {a : Attempt} {login : String}
    (hq : (s.perform op).signons.find? id = some ⟨a, .asking x login⟩) :
    s.signons.find? id = some ⟨a, .asking x login⟩ ∨
      (∃ secret c, op = .start id x ∧ a = .primary login secret c ∧
        s.signons.find? id = some ⟨a, .spawned⟩ ∧
        (s.perform op).registry.record? x =
          some (Record.pending x login c (s.remoteOf c) s.now)) ∨
      ∃ fresh c t code rec, op = .start id fresh ∧ a = .secondary c t code ∧
        s.signons.find? id = some ⟨a, .spawned⟩ ∧ s.registry.challenges.find? t = some x ∧
        s.registry.record? x = some rec ∧ a.AwaitedBy login rec ∧ code.isEmpty = false := by
  have hadv := h.advance hf id
  rw [hq] at hadv
  generalize ho : s.signons.find? id = o at hadv
  cases hadv with
  | kept => exact .inl rfl
  | claimed record => exact .inr (.inl ⟨_, _, rfl, rfl, rfl, record⟩)
  | opened challenge record state bound answered =>
    exact .inr (.inr
      ⟨_, _, _, _, _, rfl, rfl, rfl, challenge, record, ⟨state, bound, rfl⟩, answered⟩)

theorem record?_of_asking (h : Coherent minted s) (hf : ∀ x ∈ op.mints?, ¬ minted x) {id : SignonId}
    {a : Attempt} {login : String} (hq : s.signons.find? id = some ⟨a, .asking x login⟩)
    (hq' : (s.perform op).signons.find? id = some ⟨a, .asking x login⟩)
    (hx : (s.perform op).registry.record? x = some rec) : s.registry.record? x = some rec := by
  have hasks : s.Asks id x := ⟨a, login, hq⟩
  have hfate := h.fate hf x
  rw [hx] at hfate
  generalize ho : s.registry.record? x = o at hfate
  cases hfate with
  | kept => rfl
  | minted => exact absurd (h.asked id x hasks) (hf x rfl)
  | challenged signon state =>
    obtain rfl := h.alone _ _ x ⟨_, _, signon⟩ hasks
    rw [State.decided_of_answerPrimary signon] at hq'
    simp at hq'
  | accepted signon state attended =>
    obtain rfl := h.alone _ _ x ⟨_, _, signon⟩ hasks
    rw [State.decided_of_answerPrimary signon] at hq'
    simp at hq'
  | verified signon state attended =>
    obtain rfl := h.alone _ _ x ⟨_, _, signon⟩ hasks
    rw [State.decided_of_answerSecondary signon] at hq'
    simp at hq'
  | resumed free =>
    refine absurd hasks (h.not_asks ho ?_ id)
    rcases free with ⟨state, -⟩ | ⟨state, -⟩ <;> simp [state, RecordState.isPending]
  | disconnected state =>
    exact absurd hasks (h.not_asks ho (by simp [state, RecordState.isPending]) id)

/-- While a challenge is open, the record of its session stays as it is, or goes. -/
theorem record?_of_challenge (h : Coherent minted s) (hf : ∀ x ∈ op.mints?, ¬ minted x) {t : Token}
    (ht : s.registry.challenges.find? t = some x)
    (hx : (s.perform op).registry.record? x = some rec) : s.registry.record? x = some rec := by
  have hfate := h.fate hf x
  rw [hx] at hfate
  generalize ho : s.registry.record? x = o at hfate
  cases hfate with
  | kept => rfl
  | minted => exact absurd (h.challenged t x ht) (hf x rfl)
  | challenged signon state => exact absurd ⟨_, _, signon⟩ (h.unasked t x _ ht)
  | accepted signon state attended => exact absurd ⟨_, _, signon⟩ (h.unasked t x _ ht)
  | verified signon state attended => exact absurd ⟨_, _, signon⟩ (h.unasked t x _ ht)
  | resumed free => simp [h.challenge t x _ ht ho] at free
  | disconnected state => simp [h.challenge t x _ ht ho] at state

/-! ### What one operation keeps -/

theorem known_perform (h : Coherent minted s) (hf : ∀ x ∈ op.mints?, ¬ minted x)
    (hx : (s.perform op).registry.record? x = some rec) : minted x ∨ op.mints? = some x := by
  have hfate := h.fate hf x
  rw [hx] at hfate
  generalize ho : s.registry.record? x = o at hfate
  cases hfate with
  | minted => exact .inr rfl
  | _ => exact .inl (h.known x _ ho)

theorem settled_perform (h : Coherent minted s) (hf : ∀ x ∈ op.mints?, ¬ minted x)
    (hx : (s.perform op).registry.record? x = some rec) : rec.Settled := by
  have hfate := h.fate hf x
  rw [hx] at hfate
  generalize ho : s.registry.record? x = o at hfate
  cases hfate with
  | kept => exact h.settled x rec ho
  | minted => simp [Record.Settled, Record.pending]
  | challenged signon state =>
    have hs := h.settled x _ ho
    simpa [Record.Settled, state] using hs
  | accepted signon state attended =>
    have hs := h.settled x _ ho
    simpa [Record.Settled, state] using hs
  | verified signon state attended =>
    have hs := h.settled x _ ho
    simpa [Record.Settled, state] using hs
  | resumed free => simp [Record.Settled]
  | disconnected state => simp [Record.Settled, Record.disconnect]

theorem bound_perform (h : Coherent minted s) (ha : op.Applicable s)
    (hf : ∀ x ∈ op.mints?, ¬ minted x) {c : ChannelId}
    (hx : (s.perform op).registry.record? x = some rec) (hc : rec.channel = some c) :
    (s.perform op).Known c := by
  refine State.known_perform ?_
  have hfate := h.fate hf x
  rw [hx] at hfate
  generalize ho : s.registry.record? x = o at hfate
  cases hfate with
  | minted signon =>
    obtain rfl := Option.some.inj hc
    exact h.attempt _ _ signon
  | resumed free =>
    obtain rfl := Option.some.inj hc
    exact ha
  | disconnected state => simp [Record.disconnect] at hc
  | _ => exact h.bound x _ c ho hc

theorem attempt_perform (h : Coherent minted s) (ha : op.Applicable s)
    (hf : ∀ x ∈ op.mints?, ¬ minted x) {id : SignonId} {sg : Signon}
    (hid : (s.perform op).signons.find? id = some sg) :
    (s.perform op).Known sg.attempt.channel := by
  refine State.known_perform ?_
  have hadv := h.advance hf id
  rw [hid] at hadv
  generalize ho : s.signons.find? id = o at hadv
  cases hadv with
  | spawned => exact ha.2
  | _ =>
    have hk := h.attempt id _ ho
    exact hk

theorem asked_perform (h : Coherent minted s) (hf : ∀ x ∈ op.mints?, ¬ minted x) {id : SignonId}
    (hq : (s.perform op).Asks id x) : minted x ∨ op.mints? = some x := by
  obtain ⟨a, login, hq⟩ := hq
  rcases h.asking_perform hf hq with hq | ⟨-, -, rfl, -⟩ | ⟨-, -, t, -, -, -, -, -, ht, -⟩
  · exact .inl (h.asked id x ⟨a, login, hq⟩)
  · exact .inr rfl
  · exact .inl (h.challenged t x ht)

theorem awaitedBy_perform (h : Coherent minted s) (hf : ∀ x ∈ op.mints?, ¬ minted x) {id : SignonId}
    {a : Attempt} {login : String}
    (hq : (s.perform op).signons.find? id = some ⟨a, .asking x login⟩)
    (hx : (s.perform op).registry.record? x = some rec) : a.AwaitedBy login rec := by
  rcases h.asking_perform hf hq with
    hq' | ⟨secret, c, rfl, rfl, -, hrec⟩ | ⟨fresh, c, t, code, rec', rfl, rfl, -, ht, hrec, haw, -⟩
  · exact h.asking id a x login rec hq' (h.record?_of_asking hf hq' hq hx)
  · rw [hx] at hrec
    obtain rfl := Option.some.inj hrec
    exact ⟨rfl, rfl, rfl⟩
  · have hrec' := h.record?_of_challenge hf ht hx
    rw [hrec] at hrec'
    obtain rfl := Option.some.inj hrec'
    exact haw

theorem alone_perform (h : Coherent minted s) (hf : ∀ x ∈ op.mints?, ¬ minted x) {id id' : SignonId}
    (hq : (s.perform op).Asks id x) (hq' : (s.perform op).Asks id' x) : id = id' := by
  obtain ⟨a, login, hq⟩ := hq
  obtain ⟨a', login', hq'⟩ := hq'
  -- if one of the questions is new, its session was given out just now, or was challenged until now
  rcases h.asking_perform hf hq with
    hb | ⟨-, -, rfl, -⟩ | ⟨fresh, -, t, -, -, rfl, -, -, ht, -⟩
  · rcases h.asking_perform hf hq' with
      hb' | ⟨-, -, rfl, -⟩ | ⟨-, -, t', -, -, -, -, -, ht', -⟩
    · exact h.alone id id' x ⟨a, login, hb⟩ ⟨a', login', hb'⟩
    · exact absurd (h.asked id x ⟨a, login, hb⟩) (hf x rfl)
    · exact absurd ⟨a, login, hb⟩ (h.unasked t' x id ht')
  · rcases h.asking_perform hf hq' with hb' | ⟨-, -, he, -⟩ | ⟨fresh', -, -, -, -, he, -⟩
    · exact absurd (h.asked id' x ⟨a', login', hb'⟩) (hf x rfl)
    · simpa using he
    · simpa using (Operation.start.inj he).1
  · rcases h.asking_perform hf hq' with hb' | ⟨-, -, he, -⟩ | ⟨fresh', -, -, -, -, he, -⟩
    · exact absurd ⟨a', login', hb'⟩ (h.unasked t x id' ht)
    · simpa using (Operation.start.inj he).1
    · simpa using (Operation.start.inj he).1

theorem challenged_perform (h : Coherent minted s) (hf : ∀ x ∈ op.mints?, ¬ minted x) {t : Token}
    (ht : (s.perform op).registry.challenges.find? t = some x) : minted x := by
  rcases State.challenge_perform h.index (h.record?_fresh hf) ht with
    hb | ⟨id, login, secret, c, login', rec, rfl, hid, -⟩
  · exact h.challenged t x hb
  · exact h.asked id x ⟨_, _, hid⟩

theorem challenge_perform (h : Coherent minted s) (hf : ∀ x ∈ op.mints?, ¬ minted x) {t : Token}
    (ht : (s.perform op).registry.challenges.find? t = some x)
    (hx : (s.perform op).registry.record? x = some rec) : rec.state = .pendingSecondary t := by
  rcases State.challenge_perform h.index (h.record?_fresh hf) ht with
    hb | ⟨id, login, secret, c, login', rec', rfl, hid, hrec, hstate⟩
  · exact h.challenge t x rec hb (h.record?_of_challenge hf hb hx)
  · rw [State.record?_of_needsSecondary hid hrec hstate] at hx
    obtain rfl := Option.some.inj hx
    rfl

theorem unasked_perform (h : Coherent minted s) (hf : ∀ x ∈ op.mints?, ¬ minted x) {t : Token}
    {id : SignonId} (ht : (s.perform op).registry.challenges.find? t = some x) :
    ¬ (s.perform op).Asks id x := by
  rintro ⟨a, login, hq⟩
  rcases State.challenge_perform h.index (h.record?_fresh hf) ht with
    hb | ⟨id', login₀, secret, c, login', rec', rfl, hid, hrec, hstate⟩
  · rcases h.asking_perform hf hq with
      hq' | ⟨-, -, rfl, -⟩ | ⟨fresh, c, t', code, rec, rfl, rfl, hid, ht', hrec, haw, -⟩
    · exact h.unasked t x id hb ⟨a, login, hq'⟩
    · exact hf x rfl (h.challenged t x hb)
    · -- the challenge that was taken up is the only one of its session, and it is over
      have hstate := h.challenge t x rec hb hrec
      rw [h.challenge t' x rec ht' hrec] at hstate
      obtain rfl := RecordState.pendingSecondary.inj hstate
      rw [State.challenge_start_secondary hid] at ht
      simp at ht
  · rcases h.asking_perform hf hq with hq' | ⟨-, -, he, -⟩ | ⟨fresh', -, -, -, -, he, -⟩
    · obtain rfl := h.alone _ _ x ⟨_, _, hid⟩ ⟨a, login, hq'⟩
      rw [State.decided_of_answerPrimary hid] at hq
      simp at hq
    · simp at he
    · simp at he

/-- **One operation** keeps records, challenges and signons together. -/
theorem perform (h : Coherent minted s) (ha : op.Applicable s) (hf : ∀ x ∈ op.mints?, ¬ minted x) :
    Coherent (fun x => minted x ∨ op.mints? = some x) (s.perform op) where
  index := h.index.perform (h.record?_fresh hf)
  known _ _ := h.known_perform hf
  settled _ _ := h.settled_perform hf
  bound _ _ _ := h.bound_perform ha hf
  attempt _ _ := h.attempt_perform ha hf
  asked _ _ := h.asked_perform hf
  asking _ _ _ _ _ := h.awaitedBy_perform hf
  alone _ _ _ := h.alone_perform hf
  challenged _ _ ht := .inl (h.challenged_perform hf ht)
  challenge _ _ _ := h.challenge_perform hf
  unasked _ _ _ := h.unasked_perform hf

/-- What may follow a history keeps records, challenges and signons together. -/
theorem step {history : List Operation} (h : Coherent (Minted history) s)
    (ha : op.Admissible history s) : Coherent (Minted (history ++ [op])) (s.perform op) :=
  (h.perform ha.1 ha.2.1).mono fun _ hx => minted_snoc.2 hx

end Coherent

/-- **A run** keeps records, challenges and signons together. -/
theorem coherent_of_run {window : Nat} {ops : List Operation} (h : Run window ops) :
    Coherent (Minted ops) (stateAfter window ops) := by
  induction h with
  | nil => exact Coherent.init window
  | snoc _ ha ih =>
    rw [stateAfter_snoc]
    exact ih.step ha

end DurableSession.Server
