import DurableSession.Proofs.Table
import DurableSession.Server.State

/-!
Runs of a server: operations on its state, in any order.

An operation is a stretch of work during which nothing else happens. A signon takes three: it is
spawned, runs up to its question, and ends with the answer, which may be anything. A run starts from
a server without channels and sessions. The names that its operations give out are fresh, and no
channel is used before it is open.
-/

namespace DurableSession.Server

open Lifecycle (SessionId Token Failure Secret)
open Network (SocketAddress)

/-- What may happen to a server's state. -/
inductive Operation where
  | openChannel (c : ChannelId) (remote : SocketAddress) (capacity : Nat)
  | kick (c : ChannelId)
  | abandon (c : ChannelId)
  | advance (ms : Nat)
  | spawn (id : SignonId) (a : Attempt)
  /-- A spawned signon runs up to its question; `fresh` names its session, should it get one. -/
  | start (id : SignonId) (fresh : SessionId)
  /-- `fresh` is the token of a challenge, should one be due. -/
  | answerPrimary (id : SignonId) (verdict : PrimaryVerdict) (fresh : Token)
  | answerSecondary (id : SignonId) (verified : Bool)
  | reuse (session : SessionId) (c : ChannelId)
  | close (c : ChannelId) (session : SessionId) (signedOff : Bool)
  | release (c : ChannelId)
  | kickout (session : SessionId)
  | kickoutAll
  | sweep
  /-- Application messages for the session go to the channel from now on. -/
  | register (session : SessionId) (c : ChannelId)
  | unregister (session : SessionId) (c : ChannelId)
  | count (series : Series)
deriving DecidableEq

namespace Operation

/-- The session identifier that an operation gives out, if it needs one. -/
def mints? : Operation → Option SessionId
  | start _ fresh => some fresh
  | _ => none

/-- The token that an operation gives out, if it needs one. -/
def issues? : Operation → Option Token
  | answerPrimary _ _ fresh => some fresh
  | _ => none

def reports? : Operation → Option ChannelId
  | close c _ _ | release c => some c
  | _ => none

end Operation

namespace State

def perform (s : State) : Operation → State
  | .openChannel c remote capacity => s.openChannel c remote capacity
  | .kick c => s.kick c
  | .abandon c => s.abandon c
  | .advance ms => { s with now := s.now + ms }
  | .spawn id a => s.spawn id a
  | .start id fresh => s.startSignon id fresh
  | .answerPrimary id verdict fresh => s.answerPrimary id verdict fresh
  | .answerSecondary id verified => s.answerSecondary id verified
  | .reuse session c => (s.reuse session c).2
  | .close c session signedOff => s.closeSession c session signedOff
  | .release c => s.releaseChannel c
  | .kickout session => (s.kickout session).2
  | .kickoutAll => s.kickoutAll.2
  | .sweep => s.sweep.2
  | .register session c => s.register session c
  | .unregister session c => (s.unregister session c).2
  | .count series => s.count series

def performAll (s : State) (ops : List Operation) : State := ops.foldl perform s

@[simp] theorem performAll_nil (s : State) : s.performAll [] = s := rfl

@[simp] theorem performAll_cons (s : State) (op : Operation) (ops : List Operation) :
    s.performAll (op :: ops) = (s.perform op).performAll ops := rfl

theorem performAll_append (s : State) (ops later : List Operation) :
    s.performAll (ops ++ later) = (s.performAll ops).performAll later :=
  List.foldl_append

theorem performAll_snoc (s : State) (ops : List Operation) (op : Operation) :
    s.performAll (ops ++ [op]) = (s.performAll ops).perform op :=
  performAll_append s ops [op]

theorem perform_unregister (s : State) (x : SessionId) (c : ChannelId) :
    ∃ routes, s.perform (.unregister x c) = { s with routes } := by
  unfold perform unregister
  dsimp only
  split
  · exact ⟨_, rfl⟩
  · exact ⟨s.routes, rfl⟩

/-- The channel was opened at some time. -/
def Known (s : State) (c : ChannelId) : Prop := (s.channels.find? c).isSome = true

instance (s : State) (c : ChannelId) : Decidable (s.Known c) :=
  inferInstanceAs (Decidable (_ = true))

end State

/-! ### Runs -/

/-- Channels and signons get new names, and signons and sessions only channels that were opened. -/
def Operation.Applicable (s : State) : Operation → Prop
  | .openChannel c _ _ => ¬ s.Known c
  | .spawn id a => s.signons.find? id = none ∧ s.Known a.channel
  | .reuse _ c => s.Known c
  | _ => True

instance decidableApplicable (s : State) : (op : Operation) → Decidable (op.Applicable s)
  | .openChannel c _ _ => inferInstanceAs (Decidable (¬ s.Known c))
  | .spawn id a => inferInstanceAs (Decidable (s.signons.find? id = none ∧ s.Known a.channel))
  | .reuse _ c => inferInstanceAs (Decidable (s.Known c))
  | .kick _ | .abandon _ | .advance _ | .start _ _ | .answerPrimary _ _ _ | .answerSecondary _ _
  | .close _ _ _ | .release _ | .kickout _ | .kickoutAll | .sweep | .register _ _ | .unregister _ _
  | .count _ => isTrue trivial

def Minted (history : List Operation) (x : SessionId) : Prop := ∃ op ∈ history, op.mints? = some x

def Issued (history : List Operation) (t : Token) : Prop := ∃ op ∈ history, op.issues? = some t

instance (history : List Operation) (x : SessionId) : Decidable (Minted history x) :=
  inferInstanceAs (Decidable (∃ op ∈ history, op.mints? = some x))

instance (history : List Operation) (t : Token) : Decidable (Issued history t) :=
  inferInstanceAs (Decidable (∃ op ∈ history, op.issues? = some t))

theorem minted_snoc {history : List Operation} {op : Operation} {x : SessionId} :
    Minted (history ++ [op]) x ↔ Minted history x ∨ op.mints? = some x := by
  simp [Minted, or_and_right, exists_or]

theorem issued_snoc {history : List Operation} {op : Operation} {t : Token} :
    Issued (history ++ [op]) t ↔ Issued history t ∨ op.issues? = some t := by
  simp [Issued, or_and_right, exists_or]

theorem minted_append {history later : List Operation} {x : SessionId} :
    Minted (history ++ later) x ↔ Minted history x ∨ Minted later x := by
  simp [Minted, or_and_right, exists_or]

theorem issued_append {history later : List Operation} {t : Token} :
    Issued (history ++ later) t ↔ Issued history t ∨ Issued later t := by
  simp [Issued, or_and_right, exists_or]

/-- An operation may follow a history that has led to `s`: what it gives out is new. -/
def Operation.Admissible (history : List Operation) (s : State) (op : Operation) : Prop :=
  op.Applicable s ∧ (∀ x ∈ op.mints?, ¬ Minted history x) ∧ ∀ t ∈ op.issues?, ¬ Issued history t

instance (history : List Operation) (s : State) (op : Operation) :
    Decidable (op.Admissible history s) :=
  inferInstanceAs (Decidable (_ ∧ _ ∧ _))

def stateAfter (window : Nat) (ops : List Operation) : State := State.performAll { window } ops

@[simp] theorem stateAfter_nil (window : Nat) : stateAfter window [] = { window } := rfl

theorem stateAfter_snoc (window : Nat) (ops : List Operation) (op : Operation) :
    stateAfter window (ops ++ [op]) = (stateAfter window ops).perform op :=
  State.performAll_snoc ..

theorem stateAfter_append (window : Nat) (ops later : List Operation) :
    stateAfter window (ops ++ later) = (stateAfter window ops).performAll later :=
  State.performAll_append ..

/-- **Runs** of a server with an inactivity window. -/
inductive Run (window : Nat) : List Operation → Prop where
  | nil : Run window []
  | snoc {ops : List Operation} {op : Operation} : Run window ops →
      op.Admissible ops (stateAfter window ops) → Run window (ops ++ [op])

/-- Operations may follow a history that has led to `s`, one after the other. -/
def Follow (history : List Operation) (s : State) : List Operation → Prop
  | [] => True
  | op :: later => op.Admissible history s ∧ Follow (history ++ [op]) (s.perform op) later

instance decidableFollow : (history : List Operation) → (s : State) → (ops : List Operation) →
    Decidable (Follow history s ops)
  | _, _, [] => isTrue trivial
  | history, s, op :: later =>
    have := decidableFollow (history ++ [op]) (s.perform op) later
    inferInstanceAs (Decidable (op.Admissible history s ∧ _))

theorem follow_append {history ops later : List Operation} {s : State} :
    Follow history s (ops ++ later) ↔
      Follow history s ops ∧ Follow (history ++ ops) (s.performAll ops) later := by
  induction ops generalizing history s with
  | nil => simp [Follow]
  | cons op ops ih =>
    rw [List.cons_append, Follow, ih, Follow, State.performAll_cons, List.append_assoc, and_assoc]
    rfl

/-- The history `ops` contains `op`, performed when `before` had happened. -/
def PerformedAfter (ops before : List Operation) (op : Operation) : Prop :=
  ∃ later, ops = before ++ op :: later

namespace Run

variable {window : Nat} {ops later before : List Operation} {op : Operation}

theorem snoc_iff : Run window (ops ++ [op]) ↔
    Run window ops ∧ op.Admissible ops (stateAfter window ops) := by
  constructor
  · intro h
    generalize hl : ops ++ [op] = l at h
    cases h with
    | nil => simp at hl
    | snoc h ha =>
      obtain ⟨rfl, he⟩ := List.append_inj' hl rfl
      obtain rfl : op = _ := List.head_eq_of_cons_eq he
      exact ⟨h, ha⟩
  · rintro ⟨h, ha⟩
    exact h.snoc ha

theorem append_iff : Run window (ops ++ later) ↔
    Run window ops ∧ Follow ops (stateAfter window ops) later := by
  induction later generalizing ops with
  | nil => simp [Follow]
  | cons op later ih =>
    rw [List.append_cons, ih, snoc_iff, stateAfter_snoc, Follow, and_assoc]

theorem iff_follow : Run window ops ↔ Follow [] { window } ops := by
  have h : Run window ([] ++ ops) ↔ Run window [] ∧ Follow [] { window } ops := append_iff
  simpa [Run.nil] using h

instance : Decidable (Run window ops) := decidable_of_iff _ iff_follow.symm

theorem of_append (h : Run window (ops ++ later)) : Run window ops := (append_iff.1 h).1

theorem of_performedAfter (h : Run window ops) (hop : PerformedAfter ops before op) :
    Run window before ∧ op.Admissible before (stateAfter window before) := by
  obtain ⟨later, rfl⟩ := hop
  rw [List.append_cons] at h
  exact snoc_iff.1 h.of_append

end Run

theorem PerformedAfter.append {ops before later : List Operation} {op : Operation}
    (h : PerformedAfter ops before op) : PerformedAfter (ops ++ later) before op := by
  obtain ⟨rest, rfl⟩ := h
  exact ⟨rest ++ later, by simp⟩

theorem PerformedAfter.mem {ops before : List Operation} {op : Operation}
    (h : PerformedAfter ops before op) : op ∈ ops := by
  obtain ⟨later, rfl⟩ := h
  exact List.mem_append_cons_self

theorem performedAfter_last {ops : List Operation} {op : Operation} :
    PerformedAfter (ops ++ [op]) ops op :=
  ⟨[], rfl⟩

/-- Of two operations of a history one comes first. -/
theorem PerformedAfter.compare {ops before before' : List Operation} {op op' : Operation}
    (h : PerformedAfter ops before op) (h' : PerformedAfter ops before' op') :
    (before = before' ∧ op = op') ∨ PerformedAfter before' before op ∨
      PerformedAfter before before' op' := by
  obtain ⟨later, rfl⟩ := h
  obtain ⟨later', he⟩ := h'
  rcases List.append_eq_append_iff.1 he with ⟨l, rfl, hl⟩ | ⟨l, rfl, hl⟩
  · cases l with
    | nil => exact .inl ⟨(List.append_nil _).symm, List.head_eq_of_cons_eq hl⟩
    | cons op'' l =>
      obtain rfl := List.head_eq_of_cons_eq hl
      exact .inr (.inl ⟨l, rfl⟩)
  · cases l with
    | nil => exact .inl ⟨List.append_nil _, (List.head_eq_of_cons_eq hl).symm⟩
    | cons op'' l =>
      obtain rfl := List.head_eq_of_cons_eq hl
      exact .inr (.inr ⟨l, rfl⟩)

/-- `P` holds of every operation of a continuation and of the state in which it is performed. -/
def Throughout (P : State → Operation → Prop) : State → List Operation → Prop
  | _, [] => True
  | s, op :: later => P s op ∧ Throughout P (s.perform op) later

instance decidableThroughout (P : State → Operation → Prop) [∀ s op, Decidable (P s op)] :
    (s : State) → (ops : List Operation) → Decidable (Throughout P s ops)
  | _, [] => isTrue trivial
  | s, op :: later =>
    have := decidableThroughout P (s.perform op) later
    inferInstanceAs (Decidable (P s op ∧ _))

theorem throughout_of_forall {P : State → Operation → Prop} {s : State} {ops : List Operation}
    (h : ∀ op ∈ ops, ∀ s, P s op) : Throughout P s ops := by
  induction ops generalizing s with
  | nil => trivial
  | cons op ops ih =>
    exact ⟨h op List.mem_cons_self s, ih fun op' hop' => h op' (List.mem_cons_of_mem _ hop')⟩

theorem throughout_append {P : State → Operation → Prop} {s : State} {ops later : List Operation} :
    Throughout P s (ops ++ later) ↔ Throughout P s ops ∧ Throughout P (s.performAll ops) later := by
  induction ops generalizing s with
  | nil => simp [Throughout]
  | cons op ops ih =>
    rw [List.cons_append, Throughout, ih, Throughout, State.performAll_cons, and_assoc]

/-! ### A short history -/

namespace Sample

def client : ChannelId := ⟨1⟩
def otherClient : ChannelId := ⟨2⟩
def thirdClient : ChannelId := ⟨3⟩
def session : SessionId := ⟨"s-1", by decide⟩
def otherSession : SessionId := ⟨"s-2", by decide⟩
def thirdSession : SessionId := ⟨"s-3", by decide⟩
def token : Token := ⟨"t-1", by decide⟩
def otherToken : Token := ⟨"t-2", by decide⟩
def address : SocketAddress := ⟨.v4 127 0 0 1, 7000, 0⟩

/-- Carol connects and signs on with a second factor. -/
def signon : List Operation :=
  [.openChannel client address 8, .spawn ⟨0⟩ (.primary "carol" ⟨"secret"⟩ client),
    .start ⟨0⟩ session, .answerPrimary ⟨0⟩ .needsSecondary token,
    .spawn ⟨1⟩ (.secondary client token ⟨"123456"⟩), .start ⟨1⟩ ⟨"s-2", by decide⟩,
    .answerSecondary ⟨1⟩ true]

def breakdown : List Operation := [.kick client, .close client session false]

def waiting : Record := ⟨session, "carol", .reusable, none, address, 0, 0⟩

/-- She comes back on another connection, and somebody else wants her session too. -/
def contest : List Operation :=
  [.openChannel otherClient address 8, .openChannel thirdClient address 8, .advance 5,
    .reuse session otherClient, .sweep, .reuse session thirdClient]

end Sample

end DurableSession.Server
