import Mathlib.Data.List.Basic
import DurableSession.Proofs.Server.Advance
import DurableSession.Proofs.Server.Realm
import DurableSession.Proofs.Server.Resumption

/-!
Logins do not interfere.

What is written down of a realm depends on the operations that concern it and on their times, and on
nothing else: it is what would be written down if no other operations had happened. So are the
answers that these operations get. Main statements: `Agree.alone`, by induction over the operations
from `Agree.of_within` for those that do not concern the realm and `Agree.perform` for those that
do, and `Realm.undisturbed` for two runs.
-/

namespace DurableSession.Server

open Lifecycle (SessionId Token Failure Secret)
open Network (SocketAddress)

/-! ### Kicking out everyone -/

namespace State

variable {s : State} {x : SessionId} {c : ChannelId}

theorem kickoutEach_snd {l : List SessionId} :
    (s.kickoutEach l).2 = l.foldl (fun s x => (s.kickout x).2) s := by
  induction l generalizing s with
  | nil => rfl
  | cons x l ih => exact ih

theorem edit_kickout (s : State) (x : SessionId) :
    Registry.Edit (Registry.only x fun _ => none) none s.registry (s.kickout x).2.registry := by
  unfold kickout Registry.kickout
  cases hx : s.registry.record? x with
  | none =>
    refine .unchanged fun y rec hy => Registry.only_of_ne ?_
    rintro rfl
    simp [hx] at hy
  | some rec => exact Registry.edit_terminate

theorem edit_kickoutAll :
    Registry.Edit (fun _ _ => none) none s.registry s.kickoutAll.2.registry := by
  unfold kickoutAll
  rw [kickoutEach_snd]
  refine (Registry.Edit.foldl State.registry edit_kickout (by simp) Table.nodup_keys s).congr
    fun x rec hx => ?_
  exact if_pos (Table.mem_keys.2 ⟨rec, hx⟩)

/-- Kicking out sessions kicks the channels that they are bound to. -/
theorem channels_kickoutEach {l : List SessionId} (hl : l.Nodup) :
    (s.kickoutEach l).2.channels =
      s.channels.kickAll (l.filterMap fun x => (s.registry.record? x).bind Record.channel) := by
  induction l generalizing s with
  | nil => rfl
  | cons x l ih =>
    obtain ⟨hx, hl⟩ := List.nodup_cons.1 hl
    have hothers : (l.filterMap fun y => ((s.kickout x).2.registry.record? y).bind Record.channel) =
        l.filterMap fun y => (s.registry.record? y).bind Record.channel := by
      refine List.filterMap_congr fun y hy => ?_
      rw [record?_kickout, if_neg]
      rintro rfl
      exact hx hy
    rw [kickoutEach_cons, ih hl, hothers, channels_kickout, List.filterMap_cons]
    cases (s.registry.record? x).bind Record.channel <;> rfl

theorem mem_bound {r : Registry} :
    c ∈ r.sessions.keys.filterMap (fun x => (r.record? x).bind Record.channel) ↔
      ∃ x rec, r.record? x = some rec ∧ rec.channel = some c := by
  rw [List.mem_filterMap]
  constructor
  · rintro ⟨x, -, hx⟩
    obtain ⟨rec, hrec, hc⟩ := Option.bind_eq_some_iff.1 hx
    exact ⟨x, rec, hrec, hc⟩
  · rintro ⟨x, rec, hrec, hc⟩
    refine ⟨x, Table.mem_keys.2 ⟨rec, hrec⟩, ?_⟩
    rw [hrec, Option.bind_some, hc]

end State

/-! ### Answers -/

/-- What an operation gives back: how far a signon has come, that is whom an authenticator is asked
about or the outcome, the login of a session that is resumed, or whether there was a session to kick
out. -/
inductive Answer where
  | signon (progress : Option Progress)
  | resumed (result : Except RegistryError String)
  | kickedOut (found : Bool)

namespace State

def progress? (s : State) (id : SignonId) :
    Option Progress := (s.signons.find? id).map Signon.progress

/-- What an operation gives back to the one that it is for. -/
def answer? (s : State) (op : Operation) : Option Answer :=
  match op with
  | .start id _ | .answerPrimary id _ _ | .answerSecondary id _ =>
    some (.signon ((s.perform op).progress? id))
  | .reuse x c => some (.resumed (s.reuse x c).1)
  | .kickout x => some (.kickedOut (s.kickout x).1)
  | _ => none

/-- The state after operations at given times. -/
def replay (s : State) (timed : List (Nat × Operation)) : State :=
  timed.foldl (fun s (now, op) => { s with now }.perform op) s

/-- What operations at given times give back. -/
def answers (s : State) : List (Nat × Operation) → List (Option Answer)
  | [] => []
  | (now, op) :: timed => { s with now }.answer? op :: ({ s with now }.perform op).answers timed

end State

namespace Realm

/-! ### Registries -/

/-- The registries are the same as far as the realm goes. -/
structure Same (D : Realm) (r₁ r₂ : Registry) : Prop where
  record : ∀ x, D.session x = true → r₁.record? x = r₂.record? x
  owner : r₁.ownerOf D.login = r₂.ownerOf D.login
  challenge : ∀ t, D.token t = true → r₁.challenges.find? t = r₂.challenges.find? t

theorem named_login (D : Realm) : D.named D.login = true := decide_eq_true rfl

section Registries

variable {D : Realm} {r₁ r₂ r₁' r₂' : Registry} {x : SessionId} {rec : Record} {c : ChannelId}
  {token : Token} {t gone₁ gone₂ : Option Token} {remote₁ remote₂ : SocketAddress}
  {closed₁ closed₂ : ChannelId → Bool} {window₁ window₂ now₁ now₂ : Nat}
  {g₁ g₂ : SessionId → Record → Option Record}

theorem Same.edit (h : D.Same r₁ r₂) (hs : D.Sorted r₁) (he₁ : Registry.Edit g₁ gone₁ r₁ r₁')
    (he₂ : Registry.Edit g₂ gone₂ r₂ r₂')
    (hg : ∀ x rec, D.session x = true → D.Fits x rec → g₁ x rec = g₂ x rec)
    (hgone : ∀ t, D.token t = true → (gone₁ = some t ↔ gone₂ = some t)) : D.Same r₁' r₂' := by
  refine ⟨fun x hx => ?_, Option.ext fun x => ?_, fun t ht => ?_⟩
  · rw [he₁.record, he₂.record, ← h.record x hx]
    cases hrec : r₁.record? x with
    | none => rfl
    | some rec => exact hg x rec hx (hs.record x rec hrec)
  · rw [he₁.owner, he₂.owner, ← h.owner]
    refine and_congr_right fun ho => ?_
    have hx : D.session x = true := (hs.owner _ x ho).trans D.named_login
    rw [← h.record x hx]
    refine forall_congr' fun rec => forall_congr' fun hrec => ?_
    rw [hg x rec hx (hs.record x rec hrec)]
  · rw [he₁.challenge, he₂.challenge, h.challenge t ht]
    simp only [hgone t ht]

theorem Same.drop (h : D.Same r₁ r₂) (hs : D.Sorted r₁) (hx : D.session x = true) :
    D.Same (r₁.drop x).1 (r₂.drop x).1 :=
  h.edit hs Registry.edit_drop Registry.edit_drop (fun _ _ _ _ => rfl) fun t _ => by
    rw [h.record x hx]

theorem Same.terminate (h : D.Same r₁ r₂) (hs : D.Sorted r₁) (x : SessionId) :
    D.Same (r₁.terminate x).1 (r₂.terminate x).1 :=
  h.edit hs Registry.edit_terminate Registry.edit_terminate (fun _ _ _ _ => rfl) fun _ _ => Iff.rfl

theorem Same.setRecord (h : D.Same r₁ r₂) (x : SessionId) (rec : Record) :
    D.Same (r₁.setRecord x rec) (r₂.setRecord x rec) := by
  refine ⟨fun y hy => ?_, h.owner, h.challenge⟩
  rw [Registry.record?_setRecord, Registry.record?_setRecord, h.record y hy]

theorem Same.erase (h : D.Same r₁ r₂) (token : Token) :
    D.Same { r₁ with challenges := r₁.challenges.erase token }
      { r₂ with challenges := r₂.challenges.erase token } := by
  refine ⟨h.record, h.owner, fun t ht => ?_⟩
  simp only [Table.find?_erase, h.challenge t ht]

theorem Same.insert (h : D.Same r₁ r₂) (token : Token) (x : SessionId) :
    D.Same { r₁ with challenges := r₁.challenges.insert token x }
      { r₂ with challenges := r₂.challenges.insert token x } := by
  refine ⟨h.record, h.owner, fun t ht => ?_⟩
  simp only [Table.find?_insert, h.challenge t ht]

/-! ### Signing on -/

theorem Same.activate (h : D.Same r₁ r₂) (hs : D.Sorted r₁) (hx : D.session x = true)
    (hc : closed₁ c = closed₂ c) (hnow : now₁ = now₂) :
    (r₁.activate closed₁ now₁ x c t).1 = (r₂.activate closed₂ now₂ x c t).1 ∧
      D.Same (r₁.activate closed₁ now₁ x c t).2 (r₂.activate closed₂ now₂ x c t).2 := by
  subst hnow
  unfold Registry.activate
  rw [h.record x hx, hc]
  cases r₂.record? x with
  | none => exact ⟨rfl, h⟩
  | some rec =>
    dsimp only
    split
    · exact ⟨rfl, h.setRecord x _⟩
    · exact ⟨rfl, h.drop hs hx⟩

theorem Same.concludePrimary (h : D.Same r₁ r₂) (hs : D.Sorted r₁) (hx : D.session x = true)
    (hc : closed₁ c = closed₂ c) (hnow : now₁ = now₂) {verdict : PrimaryVerdict} {fresh : Token} :
    (r₁.concludePrimary closed₁ now₁ x c verdict fresh).1 =
      (r₂.concludePrimary closed₂ now₂ x c verdict fresh).1 ∧
      D.Same (r₁.concludePrimary closed₁ now₁ x c verdict fresh).2
        (r₂.concludePrimary closed₂ now₂ x c verdict fresh).2 := by
  unfold Registry.concludePrimary
  cases verdict with
  | accepted => exact h.activate hs hx hc hnow
  | needsSecondary =>
    rw [h.record x hx]
    cases r₂.record? x with
    | none => exact ⟨rfl, h⟩
    | some rec =>
      dsimp only
      split
      · exact ⟨rfl, (h.setRecord x _).insert fresh x⟩
      · exact ⟨rfl, h⟩
  | denied failure => exact ⟨rfl, h.drop hs hx⟩

theorem Same.concludeSecondary (h : D.Same r₁ r₂) (hs : D.Sorted r₁) (hx : D.session x = true)
    (hc : closed₁ c = closed₂ c) (hnow : now₁ = now₂) {verified : Bool} :
    (r₁.concludeSecondary closed₁ now₁ x c token verified).1 =
        (r₂.concludeSecondary closed₂ now₂ x c token verified).1 ∧
      D.Same (r₁.concludeSecondary closed₁ now₁ x c token verified).2
        (r₂.concludeSecondary closed₂ now₂ x c token verified).2 := by
  unfold Registry.concludeSecondary
  split
  · exact h.activate hs hx hc hnow
  · exact ⟨rfl, h.drop hs hx⟩

theorem Same.openSecondary (h : D.Same r₁ r₂) (hs : D.Sorted r₁) (ht : D.token token = true)
    {code : Secret} :
    (r₁.openSecondary c token code).1 = (r₂.openSecondary c token code).1 ∧
      D.Same (r₁.openSecondary c token code).2 (r₂.openSecondary c token code).2 := by
  have herase := h.erase token
  have hsorted := (hs.keeps_erase token).sorted
  have hside (x : SessionId) (hx : r₁.challenges.find? token = some x) : D.session x = true :=
    (hs.challenge token x hx).trans ht
  unfold Registry.openSecondary
  rw [← h.challenge token ht]
  cases hx : r₁.challenges.find? token with
  | none => exact ⟨rfl, h⟩
  | some x =>
    have hx := hside x hx
    dsimp only
    rw [herase.record x hx]
    split
    · exact ⟨rfl, herase⟩
    · split
      · exact ⟨rfl, herase.drop hsorted hx⟩
      · split
        · exact ⟨rfl, herase.drop hsorted hx⟩
        · exact ⟨rfl, herase⟩

/-- Whether a record can be reclaimed depends on its own channel. -/
theorem Fits.reclaimable (h : D.Fits x rec) (hx : D.session x = true)
    (hc : ∀ c, D.channel c = true → closed₁ c = closed₂ c) :
    rec.unattended closed₁ = rec.unattended closed₂ ∧ rec.reclaimable closed₁ =
      rec.reclaimable closed₂ := by
  have hunattended : rec.unattended closed₁ = rec.unattended closed₂ := by
    unfold Record.unattended
    cases hchannel : rec.channel with
    | none => rfl
    | some c => exact hc c ((h.channel c hchannel).trans hx)
  refine ⟨hunattended, ?_⟩
  unfold Record.reclaimable
  rw [hunattended]

theorem Same.entered (h : D.Same r₁ r₂) (now : Nat) (fresh : SessionId) (login : String)
    (remote : SocketAddress) :
    D.Same (r₁.entered now fresh login c remote) (r₂.entered now fresh login c remote) := by
  refine ⟨fun x hx => ?_, ?_, h.challenge⟩
  · rw [Registry.record?_entered, Registry.record?_entered, h.record x hx]
  · rw [Registry.ownerOf_entered, Registry.ownerOf_entered, h.owner]

/-- The login of the realm is claimed in both, or in none. -/
theorem Same.claim (h : D.Same r₁ r₂) (hs : D.Sorted r₁)
    (hcl : ∀ c, D.channel c = true → closed₁ c = closed₂ c) {fresh : SessionId}
    (hf : D.session fresh = true) (hc : D.channel c = true) (hnow : now₁ = now₂)
    (hremote : remote₁ = remote₂) :
    (∃ failure, r₁.claim closed₁ now₁ fresh D.login c remote₁ = .error failure ∧
        r₂.claim closed₂ now₂ fresh D.login c remote₂ = .error failure) ∨
      ∃ r₁' r₂' displaced, r₁.claim closed₁ now₁ fresh D.login c remote₁ = .ok (r₁', displaced) ∧
        r₂.claim closed₂ now₂ fresh D.login c remote₂ = .ok (r₂', displaced) ∧ D.Same r₁' r₂' := by
  subst hnow hremote
  have hentered := h.entered (c := c) now₁ fresh D.login remote₁
  have hsorted : D.Sorted (r₁.entered now₁ fresh D.login c remote₁) :=
    (hs.keeps_entered (hf.trans D.named_login.symm) (hc.trans D.named_login.symm)).sorted
  unfold Registry.claim
  rw [← h.owner]
  cases ho : r₁.ownerOf D.login with
  | none => exact .inr ⟨_, _, _, rfl, rfl, hentered⟩
  | some old =>
    have hold : D.session old = true := (hs.owner _ old ho).trans D.named_login
    have hreclaimable : (r₁.record? old).map (Record.reclaimable closed₁) =
        (r₂.record? old).map (Record.reclaimable closed₂) := by
      rw [← h.record old hold]
      cases hrec : r₁.record? old with
      | none => rfl
      | some rec => exact congrArg some ((hs.record old rec hrec).reclaimable hold hcl).2
    dsimp only
    rw [hreclaimable]
    split
    · refine .inr ⟨_, _, _, rfl, ?_, hentered.drop hsorted hold⟩
      have hkicked : ((r₂.entered now₁ fresh D.login c remote₁).drop old).2 =
          ((r₁.entered now₁ fresh D.login c remote₁).drop old).2 := by
        rw [Registry.drop_snd, Registry.drop_snd, hentered.record old hold]
      exact congrArg Except.ok (Prod.ext rfl hkicked)
    · exact .inl ⟨_, rfl, rfl⟩

/-! ### Resuming, closing and sweeping -/

theorem Same.reuse (h : D.Same r₁ r₂) (hs : D.Sorted r₁) (hx : D.session x = true)
    (hcl : ∀ c, D.channel c = true → closed₁ c = closed₂ c) (hwindow : window₁ = window₂)
    (hnow : now₁ = now₂) (hremote : remote₁ = remote₂) :
    (r₁.reuse closed₁ window₁ now₁ x c remote₁).1 = (r₂.reuse closed₂ window₂ now₂ x c remote₂).1 ∧
      D.Same (r₁.reuse closed₁ window₁ now₁ x c remote₁).2
        (r₂.reuse closed₂ window₂ now₂ x c remote₂).2 := by
  subst hwindow hnow hremote
  unfold Registry.reuse
  rw [← h.record x hx]
  cases hrec : r₁.record? x with
  | none => exact ⟨rfl, h⟩
  | some rec =>
    have hunattended := ((hs.record x rec hrec).reclaimable hx hcl).1
    dsimp only
    rw [hunattended]
    split
    · split
      · exact ⟨rfl, h.terminate hs x⟩
      · exact ⟨rfl, h.setRecord x _⟩
    · split
      · exact ⟨rfl, h.setRecord x _⟩
      · exact ⟨rfl, h⟩
    · exact ⟨rfl, h⟩
    · exact ⟨rfl, h⟩

theorem Same.close (h : D.Same r₁ r₂) (hs : D.Sorted r₁) (hnow : now₁ = now₂) {signedOff : Bool} :
    D.Same (r₁.close now₁ c x signedOff) (r₂.close now₂ c x signedOff) := by
  subst hnow
  exact h.edit hs Registry.edit_close Registry.edit_close (fun _ _ _ _ => rfl) fun _ _ => Iff.rfl

theorem Same.releaseChannel (h : D.Same r₁ r₂) (hs : D.Sorted r₁) (hnow : now₁ = now₂) :
    D.Same (r₁.releaseChannel now₁ c) (r₂.releaseChannel now₂ c) := by
  subst hnow
  exact h.edit hs Registry.edit_releaseChannel Registry.edit_releaseChannel (fun _ _ _ _ => rfl)
    fun _ _ => Iff.rfl

/-- What a sweep makes of a record depends on the record's own channel. -/
theorem Same.sweep (h : D.Same r₁ r₂) (hs₁ : D.Sorted r₁) (hs₂ : D.Sorted r₂)
    (hcl : ∀ c, D.channel c = true → closed₁ c = closed₂ c) (hwindow : window₁ = window₂)
    (hnow : now₁ = now₂) :
    D.Same (r₁.sweep closed₁ window₁ now₁).2.1 (r₂.sweep closed₂ window₂ now₂).2.1 := by
  subst hwindow hnow
  refine h.edit hs₁ (Registry.edit_sweep fun x rec hx => (hs₁.record x rec hx).session)
    (Registry.edit_sweep fun x rec hx => (hs₂.record x rec hx).session) (fun x rec hx hrec => ?_)
      fun _ _ => Iff.rfl
  unfold Registry.sweptRecord Registry.refreshed
  rw [(hrec.reclaimable hx hcl).1]

end Registries

/-! ### States -/

/-- The states are the same as far as the realm goes; their clocks may differ. -/
structure Agree (D : Realm) (s₁ s₂ : State) : Prop where
  window : s₁.window = s₂.window
  registry : D.Same s₁.registry s₂.registry
  channel : ∀ c, D.channel c = true → s₁.channels.find? c = s₂.channels.find? c
  signon : ∀ id, D.signon id = true → s₁.signons.find? id = s₂.signons.find? id

section States

variable {D : Realm} {s₁ s₂ s₃ s s' : State} {x : SessionId} {c : ChannelId} {id : SignonId}
  {op : Operation}

theorem Agree.symm (h : D.Agree s₁ s₂) : D.Agree s₂ s₁ where
  window := h.window.symm
  registry := ⟨fun x hx => (h.registry.record x hx).symm, h.registry.owner.symm,
    fun t ht => (h.registry.challenge t ht).symm⟩
  channel c hc := (h.channel c hc).symm
  signon id hid := (h.signon id hid).symm

theorem Agree.trans (h : D.Agree s₁ s₂) (h' : D.Agree s₂ s₃) : D.Agree s₁ s₃ where
  window := h.window.trans h'.window
  registry := ⟨fun x hx => (h.registry.record x hx).trans (h'.registry.record x hx),
    h.registry.owner.trans h'.registry.owner, fun t ht => (h.registry.challenge t ht).trans
      (h'.registry.challenge t ht)⟩
  channel c hc := (h.channel c hc).trans (h'.channel c hc)
  signon id hid := (h.signon id hid).trans (h'.signon id hid)

/-- **Nothing that is done on the other side** is seen in the realm. -/
theorem Agree.of_within (h : D.Within false s s') : D.Agree s' s where
  window := h.window
  registry := ⟨fun x hx => h.registry.record x (by simp [hx]),
    h.registry.owner _ (by simp [D.named_login]),
    fun t ht => h.registry.challenge t (by simp [ht])⟩
  channel c hc := h.channel c (by simp [hc])
  signon id hid := h.signon id (by simp [hid])

theorem Agree.closed (h : D.Agree s₁ s₂) (hc : D.channel c = true) : s₁.closed c = s₂.closed c := by
  unfold State.closed Channels.isClosed
  rw [h.channel c hc]

theorem Agree.remoteOf (h : D.Agree s₁ s₂) (hc : D.channel c = true) :
    s₁.remoteOf c = s₂.remoteOf c := by
  unfold State.remoteOf
  rw [h.channel c hc]

theorem Agree.withRegistry (h : D.Agree s₁ s₂) {r₁ r₂ : Registry} (hr : D.Same r₁ r₂) :
    D.Agree { s₁ with registry := r₁ } { s₂ with registry := r₂ } :=
  ⟨h.window, hr, h.channel, h.signon⟩

theorem Agree.aside (h : D.Agree s₁ s₂) {now₁ now₂ : Nat}
    {routes₁ routes₂ : Table SessionId ChannelId} {metrics₁ metrics₂ : Metrics} :
    D.Agree { s₁ with now := now₁, routes := routes₁, metrics := metrics₁ }
      { s₂ with now := now₂, routes := routes₂, metrics := metrics₂ } :=
  ⟨h.window, h.registry, h.channel, h.signon⟩

theorem Agree.withSignon (h : D.Agree s₁ s₂) (id : SignonId) (g : Signon) :
    D.Agree { s₁ with signons := s₁.signons.insert id g }
      { s₂ with signons := s₂.signons.insert id g } := by
  refine ⟨h.window, h.registry, h.channel, fun id' hid' => ?_⟩
  simp only [Table.find?_insert, h.signon id' hid']

theorem Agree.withChannels (h : D.Agree s₁ s₂) {cs₁ cs₂ : Channels}
    (hc : ∀ c, D.channel c = true → cs₁.find? c = cs₂.find? c) :
    D.Agree { s₁ with channels := cs₁ } { s₂ with channels := cs₂ } :=
  ⟨h.window, h.registry, hc, h.signon⟩

theorem Agree.kickAll (h : D.Agree s₁ s₂) {l₁ l₂ : List ChannelId}
    (hl : ∀ c, D.channel c = true → (c ∈ l₁ ↔ c ∈ l₂)) :
    D.Agree { s₁ with channels := s₁.channels.kickAll l₁ }
      { s₂ with channels := s₂.channels.kickAll l₂ } := by
  refine h.withChannels fun c hc => ?_
  simp only [Channels.find?_kickAll, hl c hc, h.channel c hc]

theorem Agree.modify (h : D.Agree s₁ s₂) (c : ChannelId) (f : Channel → Channel) :
    D.Agree { s₁ with channels := s₁.channels.modify c f }
      { s₂ with channels := s₂.channels.modify c f } := by
  refine h.withChannels fun d hd => ?_
  simp only [Table.find?_modify, h.channel d hd]

theorem Agree.decide (h : D.Agree s₁ s₂) (id : SignonId) (a : Attempt) (outcome : Outcome) :
    D.Agree (s₁.decide id a outcome) (s₂.decide id a outcome) :=
  (h.withSignon id ⟨a, .decided outcome⟩).aside

theorem Agree.ask (h : D.Agree s₁ s₂) (id : SignonId) (a : Attempt) (x : SessionId)
    (login : String) :
    D.Agree (s₁.ask id a x login) (s₂.ask id a x login) :=
  h.withSignon id ⟨a, .asking x login⟩

theorem Agree.progress? (h : D.Agree s₁ s₂) (hid : D.signon id = true) :
    s₁.progress? id = s₂.progress? id := by
  unfold State.progress?
  rw [h.signon id hid]

/-! ### Signons -/

theorem Agree.start (h : D.Agree s₁ s₂) (hs : D.Confined s₁) (hnow : s₁.now = s₂.now)
    (hid : D.signon id = true) {fresh : SessionId} (hf : D.session fresh = true) :
    D.Agree (s₁.startSignon id fresh) (s₂.startSignon id fresh) := by
  have hcl : ∀ c, D.channel c = true → s₁.closed c = s₂.closed c := fun c hc => h.closed hc
  unfold State.startSignon
  rw [← h.signon id hid]
  split
  · next login secret c hg =>
    obtain ⟨hlogin, hc⟩ : D.named login = D.signon id ∧ D.channel c = D.signon id :=
      (hs.signon id _ hg).attempt
    have hc : D.channel c = true := hc.trans hid
    obtain rfl : login = D.login := of_decide_eq_true (hlogin.trans hid)
    dsimp only
    obtain ⟨failure, he₁, he₂⟩ | ⟨r₁', r₂', displaced, he₁, he₂, hsame⟩ :=
      h.registry.claim hs.registry hcl hf hc hnow (h.remoteOf hc)
    · rw [he₁, he₂]
      exact h.decide id _ _
    · rw [he₁, he₂]
      dsimp only
      have hkick : D.Agree
          { s₁ with registry := r₁', channels := s₁.channels.kickAll displaced.toList }
          { s₂ with registry := r₂', channels := s₂.channels.kickAll displaced.toList } :=
        (h.withRegistry hsame).kickAll fun _ _ => Iff.rfl
      exact hkick.ask id _ fresh _
  · next c token code hg =>
    have htoken : D.token token = D.signon id := (hs.signon id _ hg).attempt
    have hopen : (s₁.registry.openSecondary c token code).1 =
      (s₂.registry.openSecondary c token code).1 ∧
        D.Same (s₁.registry.openSecondary c token code).2
          (s₂.registry.openSecondary c token code).2 :=
      h.registry.openSecondary hs.registry (htoken.trans hid)
    obtain ⟨hresult, hsame⟩ := hopen
    dsimp only
    generalize s₁.registry.openSecondary c token code = q₁ at hresult hsame ⊢
    generalize s₂.registry.openSecondary c token code = q₂ at hresult hsame ⊢
    obtain ⟨result, registry₁⟩ := q₁
    obtain ⟨result', registry₂⟩ := q₂
    obtain rfl : result = result' := hresult
    cases result with
    | error failure => exact (h.withRegistry hsame).decide id _ _
    | ok question => exact (h.withRegistry hsame).ask id _ _ _
  · exact h

theorem Agree.answerPrimary (h : D.Agree s₁ s₂) (hs : D.Confined s₁) (hnow : s₁.now = s₂.now)
    (hid : D.signon id = true) {verdict : PrimaryVerdict} {fresh : Token} :
    D.Agree (s₁.answerPrimary id verdict fresh) (s₂.answerPrimary id verdict fresh) := by
  unfold State.answerPrimary
  rw [← h.signon id hid]
  split
  · next login secret c x login' hg =>
    obtain ⟨hx, hc⟩ : D.session x = D.signon id ∧ D.channel c = D.signon id :=
      (hs.signon id _ hg).asking x login' rfl
    obtain ⟨houtcome, hsame⟩ :=
      h.registry.concludePrimary hs.registry (hx.trans hid) (h.closed (hc.trans hid)) hnow
    dsimp only
    rw [houtcome]
    exact (h.withRegistry hsame).decide id _ _
  · exact h

theorem Agree.answerSecondary (h : D.Agree s₁ s₂) (hs : D.Confined s₁) (hnow : s₁.now = s₂.now)
    (hid : D.signon id = true) {verified : Bool} :
    D.Agree (s₁.answerSecondary id verified) (s₂.answerSecondary id verified) := by
  unfold State.answerSecondary
  rw [← h.signon id hid]
  split
  · next c token code x login' hg =>
    obtain ⟨hx, hc⟩ : D.session x = D.signon id ∧ D.channel c = D.signon id :=
      (hs.signon id _ hg).asking x login' rfl
    obtain ⟨houtcome, hsame⟩ :=
      h.registry.concludeSecondary hs.registry (hx.trans hid) (h.closed (hc.trans hid)) hnow
    dsimp only
    rw [houtcome]
    exact (h.withRegistry hsame).decide id _ _
  · exact h

/-! ### Sessions -/

theorem Agree.reuse (h : D.Agree s₁ s₂) (hs : D.Confined s₁) (hnow : s₁.now = s₂.now)
    (hx : D.session x = true) (hc : D.channel c = true) :
    (s₁.reuse x c).1 = (s₂.reuse x c).1 ∧ D.Agree (s₁.reuse x c).2 (s₂.reuse x c).2 := by
  have hcl : ∀ c, D.channel c = true → s₁.closed c = s₂.closed c := fun c hc => h.closed hc
  obtain ⟨hresult, hsame⟩ := h.registry.reuse hs.registry hx hcl h.window hnow (h.remoteOf hc)
  exact ⟨hresult, (h.withRegistry hsame).aside⟩

theorem Agree.kickout (h : D.Agree s₁ s₂) (hs : D.Confined s₁) (hx : D.session x = true) :
    (s₁.kickout x).1 = (s₂.kickout x).1 ∧ D.Agree (s₁.kickout x).2 (s₂.kickout x).2 := by
  have hkicked : (s₁.registry.terminate x).2 = (s₂.registry.terminate x).2 := by
    rw [Registry.terminate_snd, Registry.terminate_snd, h.registry.record x hx]
  unfold State.kickout Registry.kickout
  rw [← h.registry.record x hx]
  cases s₁.registry.record? x with
  | none => exact ⟨rfl, h⟩
  | some rec =>
    have hlist : ∀ c, D.channel c = true →
        (c ∈ (s₁.registry.terminate x).2.toList ↔ c ∈ (s₂.registry.terminate x).2.toList) := by
      intro c _
      rw [hkicked]
    have hkick := (h.withRegistry (h.registry.terminate hs.registry x)).kickAll hlist
    exact ⟨rfl, hkick.aside⟩

theorem Agree.bound (h : D.Agree s₁ s₂) (hs : D.Confined s₁) (hc : D.channel c = true)
    {P : Record → Prop}
    (hbound : ∃ x rec, s₁.registry.record? x = some rec ∧ P rec ∧ rec.channel = some c) :
    ∃ x rec, s₂.registry.record? x = some rec ∧ P rec ∧ rec.channel = some c := by
  obtain ⟨x, rec, hrec, hp, hchannel⟩ := hbound
  have hx : D.session x = true := ((hs.registry.record x rec hrec).channel c hchannel).symm.trans hc
  exact ⟨x, rec, (h.registry.record x hx).symm.trans hrec, hp, hchannel⟩

theorem Agree.bound_iff (h : D.Agree s₁ s₂) (hs₁ : D.Confined s₁) (hs₂ : D.Confined s₂)
    (hc : D.channel c = true) (P : Record → Prop) :
    (∃ x rec, s₁.registry.record? x = some rec ∧ P rec ∧ rec.channel = some c) ↔
      ∃ x rec, s₂.registry.record? x = some rec ∧ P rec ∧ rec.channel = some c :=
  ⟨h.bound hs₁ hc, h.symm.bound hs₂ hc⟩

theorem Agree.sweep (h : D.Agree s₁ s₂) (hs₁ : D.Confined s₁) (hs₂ : D.Confined s₂)
    (hnow : s₁.now = s₂.now) :
    D.Agree s₁.sweep.2 s₂.sweep.2 := by
  have hcl : ∀ c, D.channel c = true → s₁.closed c = s₂.closed c := fun c hc => h.closed hc
  have hsame := h.registry.sweep hs₁.registry hs₂.registry hcl h.window hnow
  have hkicked : ∀ c, D.channel c = true → (c ∈ (s₁.registry.sweep s₁.closed s₁.window s₁.now).2.2 ↔
      c ∈ (s₂.registry.sweep s₂.closed s₂.window s₂.now).2.2) := by
    intro c hc
    rw [Registry.mem_sweep_snd fun x rec hx => (hs₁.registry.record x rec hx).session,
      Registry.mem_sweep_snd fun x rec hx => (hs₂.registry.record x rec hx).session,
      ← h.window, ← hnow]
    exact h.bound_iff hs₁ hs₂ hc fun rec => Registry.isStale s₁.window s₁.now rec = true
  have hkick := (h.withRegistry hsame).kickAll hkicked
  exact hkick.aside

theorem Agree.kickoutAll (h : D.Agree s₁ s₂) (hs₁ : D.Confined s₁) (hs₂ : D.Confined s₂) :
    D.Agree s₁.kickoutAll.2 s₂.kickoutAll.2 := by
  have hclock (s : State) : (s.perform .kickoutAll).window = s.window ∧
      s.now ≤ (s.perform .kickoutAll).now := State.clock_perform
  have hwindow (s : State) : s.kickoutAll.2.window = s.window := (hclock s).1
  refine ⟨?_, ?_, fun c hc => ?_, fun id hid => ?_⟩
  · rw [hwindow, hwindow, h.window]
  · exact h.registry.edit hs₁.registry State.edit_kickoutAll State.edit_kickoutAll
      (fun _ _ _ _ => rfl)
      fun _ _ => Iff.rfl
  · have hbound := h.bound_iff hs₁ hs₂ hc fun _ => True
    unfold State.kickoutAll
    rw [State.channels_kickoutEach Table.nodup_keys, State.channels_kickoutEach Table.nodup_keys,
      Channels.find?_kickAll, Channels.find?_kickAll, h.channel c hc]
    refine if_congr ?_ rfl rfl
    simpa only [State.mem_bound, true_and] using hbound
  · rw [State.signons_kickoutAll, State.signons_kickoutAll, h.signon id hid]

/-! ### Operations -/

/-- **An operation that concerns the realm** gets the same answer in states that agree, and they
agree after it. -/
theorem Agree.perform (h : D.Agree s₁ s₂) (hs₁ : D.Confined s₁) (hs₂ : D.Confined s₂)
    (hnow : s₁.now = s₂.now) (hop : D.Apart op) (hside : D.side? op ≠ some false) :
    s₁.answer? op = s₂.answer? op ∧ D.Agree (s₁.perform op) (s₂.perform op) := by
  have hsignon {id : SignonId} (hid : D.signon id = true)
    (ha : D.Agree (s₁.perform op) (s₂.perform op)) :
      some (Answer.signon ((s₁.perform op).progress? id)) =
        some (.signon ((s₂.perform op).progress? id)) ∧ D.Agree (s₁.perform op) (s₂.perform op) :=
    ⟨by rw [ha.progress? hid], ha⟩
  cases op with
  | openChannel c remote capacity =>
    refine ⟨rfl, h.withChannels fun d hd => ?_⟩
    rw [Table.find?_insert, Table.find?_insert, h.channel d hd]
  | kick c => exact ⟨rfl, h.modify c Channel.kick⟩
  | abandon c => exact ⟨rfl, h.modify c Channel.abandon⟩
  | spawn id a => exact ⟨rfl, h.withSignon id ⟨a, .spawned⟩⟩
  | start id fresh =>
    have hid : D.signon id = true := by simpa [side?] using hside
    have hf : D.session fresh = D.signon id := hop
    exact hsignon hid (h.start hs₁ hnow hid (hf.trans hid))
  | answerPrimary id verdict fresh =>
    have hid : D.signon id = true := by simpa [side?] using hside
    exact hsignon hid (h.answerPrimary hs₁ hnow hid)
  | answerSecondary id verified =>
    have hid : D.signon id = true := by simpa [side?] using hside
    exact hsignon hid (h.answerSecondary hs₁ hnow hid)
  | reuse x c =>
    have hx : D.session x = true := by simpa [side?] using hside
    have hc : D.channel c = D.session x := hop
    obtain ⟨hresult, ha⟩ := h.reuse hs₁ hnow hx (hc.trans hx)
    exact ⟨congrArg (some ∘ Answer.resumed) hresult, ha⟩
  | close c x signedOff => exact ⟨rfl, h.withRegistry (h.registry.close hs₁.registry hnow)⟩
  | release c => exact ⟨rfl, h.withRegistry (h.registry.releaseChannel hs₁.registry hnow)⟩
  | kickout x =>
    have hx : D.session x = true := by simpa [side?] using hside
    obtain ⟨hfound, ha⟩ := h.kickout hs₁ hx
    exact ⟨congrArg (some ∘ Answer.kickedOut) hfound, ha⟩
  | kickoutAll => exact ⟨rfl, h.kickoutAll hs₁ hs₂⟩
  | sweep => exact ⟨rfl, h.sweep hs₁ hs₂ hnow⟩
  | advance | register | unregister | count => exact absurd rfl hside

/-! ### Runs -/

/-- The operations of a continuation that concern the realm, with their times. -/
def heard (D : Realm) : State → List Operation → List (Nat × Operation)
  | _, [] => []
  | s, op :: later =>
    if D.side? op = some false then D.heard (s.perform op) later
    else (s.now, op) :: D.heard (s.perform op) later

def told (D : Realm) : State → List Operation → List (Option Answer)
  | _, [] => []
  | s, op :: later =>
    if D.side? op = some false then D.told (s.perform op) later
    else s.answer? op :: D.told (s.perform op) later

/-- **Operations that do not concern the realm may as well not have happened**: it gets the same
answers if those that do are performed alone, at their times. -/
theorem Agree.alone (h : D.Agree s₁ s₂) (hs₁ : D.Confined s₁) (hs₂ : D.Confined s₂)
    {ops : List Operation} (hops : ∀ op ∈ ops, D.Apart op) :
    D.told s₁ ops = s₂.answers (D.heard s₁ ops) ∧
      D.Agree (s₁.performAll ops) (s₂.replay (D.heard s₁ ops)) := by
  induction ops generalizing s₁ s₂ with
  | nil => exact ⟨rfl, h⟩
  | cons op ops ih =>
    obtain ⟨hop, hops⟩ := List.forall_mem_cons.1 hops
    have hs₁' := hs₁.perform hop
    rw [told, heard, State.performAll_cons]
    by_cases hside : D.side? op = some false
    · rw [if_pos hside, if_pos hside]
      exact ih ((Agree.of_within (hs₁.within_perform hop hside)).trans h) hs₁' hs₂ hops
    · rw [if_neg hside, if_neg hside]
      -- The clock of the state that hears only what concerns the realm is set.
      have hs₂' : D.Confined { s₂ with now := s₁.now } := ⟨hs₂.registry, hs₂.signon⟩
      have hset : D.Agree s₁ { s₂ with now := s₁.now } :=
        ⟨h.window, h.registry, h.channel, h.signon⟩
      obtain ⟨hanswer, hagree⟩ := hset.perform hs₁ hs₂' rfl hop hside
      obtain ⟨htold, hlast⟩ := ih hagree hs₁' (hs₂'.perform hop) hops
      exact ⟨congrArg₂ List.cons hanswer htold, hlast⟩

/-- What can be seen of the realm: who owns its login, the records of the login and of all sessions
that are its, the signons, and whether its channels are alive. -/
structure Alike (D : Realm) (s₁ s₂ : State) : Prop where
  owner : s₁.registry.ownerOf D.login = s₂.registry.ownerOf D.login
  record : ∀ x rec, rec.login = D.login →
    (s₁.registry.record? x = some rec ↔ s₂.registry.record? x = some rec)
  session : ∀ x, D.session x = true → s₁.registry.record? x = s₂.registry.record? x
  signon : ∀ id, D.signon id = true → s₁.signons.find? id = s₂.signons.find? id
  alive : ∀ c, D.channel c = true → s₁.closed c = s₂.closed c ∧ s₁.isKicked c = s₂.isKicked c

theorem Agree.record (h : D.Agree s₁ s₂) (hs : D.Confined s₁) {rec : Record}
    (hl : rec.login = D.login) (hx : s₁.registry.record? x = some rec) :
    s₂.registry.record? x = some rec := by
  have hnamed : D.named rec.login = true := decide_eq_true hl
  rw [← h.registry.record x ((hs.registry.record x rec hx).login.symm.trans hnamed), hx]

theorem Agree.alike (h : D.Agree s₁ s₂) (hs₁ : D.Confined s₁) (hs₂ : D.Confined s₂) :
    D.Alike s₁ s₂ where
  owner := h.registry.owner
  record _ _ hl := ⟨h.record hs₁ hl, h.symm.record hs₂ hl⟩
  session := h.registry.record
  signon := h.signon
  alive c hc := by
    refine ⟨h.closed hc, ?_⟩
    unfold State.isKicked
    rw [h.channel c hc]

end States

theorem Confined.performAll {D : Realm} {s : State} (h : D.Confined s) {ops : List Operation}
    (hops : ∀ op ∈ ops, D.Apart op) : D.Confined (s.performAll ops) := by
  induction ops generalizing s with
  | nil => exact h
  | cons op ops ih =>
    obtain ⟨hop, hops⟩ := List.forall_mem_cons.1 hops
    exact ih (h.perform hop) hops

/-- **Logins do not interfere**: two runs in which a realm hears the same at the same times,
whatever else happens in them, tell it the same, and leave the same of it. -/
theorem undisturbed (D : Realm) {window : Nat} {ops₁ ops₂ : List Operation}
    (h₁ : ∀ op ∈ ops₁, D.Apart op) (h₂ : ∀ op ∈ ops₂, D.Apart op)
    (h : D.heard { window } ops₁ = D.heard { window } ops₂) :
    D.told { window } ops₁ = D.told { window } ops₂ ∧
      D.Alike (stateAfter window ops₁) (stateAfter window ops₂) := by
  have hinitial := D.confined_initial window
  have hsame : D.Agree { window } { window } := Agree.of_within hinitial.within
  obtain ⟨htold₁, hagree₁⟩ := hsame.alone hinitial hinitial h₁
  obtain ⟨htold₂, hagree₂⟩ := hsame.alone hinitial hinitial h₂
  rw [← h] at htold₂ hagree₂
  refine ⟨htold₁.trans htold₂.symm, ?_⟩
  exact (hagree₁.trans hagree₂.symm).alike (hinitial.performAll h₁) (hinitial.performAll h₂)

end Realm

namespace Sample

/-- What is Carol's in her signon. -/
def carol : Realm where
  login := "carol"
  channel c := c = client
  session x := x = session ∨ x = otherSession
  token t := t = token
  signon id := id.number < 2

def dave : List Operation :=
  [.openChannel thirdClient address 8, .spawn ⟨2⟩ (.primary "dave" ⟨"secret"⟩ thirdClient),
    .start ⟨2⟩ thirdSession, .answerPrimary ⟨2⟩ .needsSecondary otherToken]

set_option maxRecDepth 20000 in
/-- Carol gets in, whether Dave comes first and is kicked out, or comes later and breaks off. -/
theorem carol_undisturbed :
    (carol.told { window := 100 } (dave ++ signon ++ [.kickout thirdSession, .sweep]) =
        carol.told { window := 100 }
          (signon ++ dave ++ [.release thirdClient, .kick thirdClient, .sweep]) ∧
      carol.Alike (stateAfter 100 (dave ++ signon ++ [.kickout thirdSession, .sweep]))
        (stateAfter 100 (signon ++ dave ++ [.release thirdClient, .kick thirdClient, .sweep]))) ∧
      (stateAfter 100 (dave ++ signon)).registry.ownerOf "carol" = some session :=
  ⟨carol.undisturbed (by decide +kernel) (by decide +kernel) (by decide +kernel), by decide +kernel⟩

end Sample

end DurableSession.Server
