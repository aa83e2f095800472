import DurableSession.Proofs.Registry.Edit
import DurableSession.Proofs.Registry.Index
import DurableSession.Proofs.Server.Denial

/-!
A login and what is its: channels, sessions, tokens and signons.

Names are split into two sides, those of one login and those of all others. As long as every
operation takes its names from one side, what the server has written down keeps to the sides, and an
operation changes nothing on the other. Main statements: `Realm.within_perform`, and
`Realm.confined_perform` for the operations that concern everyone.
-/

namespace DurableSession.Server

open Lifecycle (SessionId Token Failure Secret)
open Network (SocketAddress)

/-- **A realm**: a login, and the names that are its; all other names are on the other side. -/
structure Realm where
  login : String
  channel : ChannelId → Bool
  session : SessionId → Bool
  token : Token → Bool
  signon : SignonId → Bool

namespace Realm

def named (D : Realm) (login : String) : Bool := login = D.login

/-! ### Registries -/

/-- The record of a session refers to names of the session's side. -/
structure Fits (D : Realm) (x : SessionId) (rec : Record) : Prop where
  session : rec.session = x
  login : D.named rec.login = D.session x
  channel : ∀ c, rec.channel = some c → D.channel c = D.session x
  token : ∀ t, rec.state.token? = some t → D.token t = D.session x

/-- All tables of the registry keep to the sides. -/
structure Sorted (D : Realm) (r : Registry) : Prop where
  record : ∀ x rec, r.record? x = some rec → D.Fits x rec
  owner : ∀ login x, r.ownerOf login = some x → D.session x = D.named login
  challenge : ∀ t x, r.challenges.find? t = some x → D.session x = D.token t

/-- Nothing is changed but on the side `b`, and the tables keep to the sides. -/
structure Keeps (D : Realm) (b : Bool) (r r' : Registry) : Prop where
  record : ∀ x, D.session x ≠ b → r'.record? x = r.record? x
  owner : ∀ login, D.named login ≠ b → r'.ownerOf login = r.ownerOf login
  challenge : ∀ t, D.token t ≠ b → r'.challenges.find? t = r.challenges.find? t
  sorted : D.Sorted r'

section Registries

variable {D : Realm} {b : Bool} {r r₁ r₂ : Registry} {s x : SessionId} {rec old : Record}
  {c : ChannelId} {t gone : Option Token} {token : Token} {login : String} {remote : SocketAddress}
  {closed : ChannelId → Bool} {window now : Nat} {g : SessionId → Record → Option Record}
  {f : Record → Option Record}

theorem sorted_empty : D.Sorted {} := by
  constructor <;> simp [Registry.record?, Registry.ownerOf]

theorem Sorted.refl (h : D.Sorted r) :
    D.Keeps b r r := ⟨fun _ _ => rfl, fun _ _ => rfl, fun _ _ => rfl, h⟩

theorem Keeps.trans (h : D.Keeps b r r₁) (h' : D.Keeps b r₁ r₂) : D.Keeps b r r₂ where
  record x hx := (h'.record x hx).trans (h.record x hx)
  owner login hl := (h'.owner login hl).trans (h.owner login hl)
  challenge t ht := (h'.challenge t ht).trans (h.challenge t ht)
  sorted := h'.sorted

theorem Sorted.edit (h : D.Sorted r) (he : Registry.Edit g gone r r₁)
    (hfit : ∀ x rec rec', D.Fits x rec → g x rec = some rec' → D.Fits x rec') : D.Sorted r₁ := by
  refine ⟨fun x rec hx => ?_, fun login x ho => ?_, fun token x ht => ?_⟩
  · rw [he.record] at hx
    obtain ⟨rec', hx', hg⟩ := Option.bind_eq_some_iff.1 hx
    exact hfit x rec' rec (h.record x rec' hx') hg
  · exact h.owner login x ((he.owner login x).1 ho).1
  · rw [he.challenge] at ht
    split at ht
    · simp at ht
    · exact h.challenge token x ht

theorem Sorted.keeps_edit (h : D.Sorted r) (he : Registry.Edit g gone r r₁)
    (hfit : ∀ x rec rec', D.Fits x rec → g x rec = some rec' → D.Fits x rec')
    (hside : ∀ x rec, D.Fits x rec → D.session x ≠ b → g x rec = some rec)
    (hgone : ∀ t, gone = some t → D.token t = b) : D.Keeps b r r₁ := by
  refine ⟨fun x hx => ?_, fun login hl => ?_, fun token ht => ?_, h.edit he hfit⟩
  · rw [he.record]
    cases hrec : r.record? x with
    | none => rfl
    | some rec => exact hside x rec (h.record x rec hrec) hx
  · refine Option.ext fun x => (he.owner login x).trans ⟨fun ho => ho.1,
      fun ho => ⟨ho, fun rec hrec _ => ?_⟩⟩
    have hx : D.session x ≠ b := by rwa [h.owner login x ho]
    simp [hside x rec (h.record x rec hrec) hx]
  · rw [he.challenge, if_neg]
    intro heq
    exact ht (hgone token heq)

theorem Sorted.keeps_only (h : D.Sorted r) (he : Registry.Edit (Registry.only s f) gone r r₁)
    (hfit : ∀ rec rec', D.Fits s rec → f rec = some rec' → D.Fits s rec')
    (hgone : ∀ t, gone = some t → D.token t = D.session s) : D.Keeps (D.session s) r r₁ := by
  refine h.keeps_edit he (fun x rec rec' hrec hg => ?_) (fun x rec _ hx => ?_) hgone
  · by_cases hx : s = x
    · subst hx
      exact hfit rec rec' hrec (Registry.only_self.symm.trans hg)
    · rw [Registry.only_of_ne hx] at hg
      exact Option.some.inj hg ▸ hrec
  · refine Registry.only_of_ne ?_
    rintro rfl
    exact hx rfl

theorem Sorted.keeps_drop (h : D.Sorted r) (s : SessionId) :
    D.Keeps (D.session s) r (r.drop s).1 := by
  refine h.keeps_only Registry.edit_drop (by simp) fun t ht => ?_
  obtain ⟨rec, hs, ht⟩ := Option.bind_eq_some_iff.1 ht
  exact (h.record s rec hs).token t ht

theorem Sorted.keeps_terminate (h : D.Sorted r) (s : SessionId) :
    D.Keeps (D.session s) r (r.terminate s).1 :=
  h.keeps_only Registry.edit_terminate (by simp) (by simp)

theorem Sorted.keeps_setRecord (h : D.Sorted r) (hs : r.record? s = some old)
    (hrec : D.Fits s rec) :
    D.Keeps (D.session s) r (r.setRecord s rec) := by
  refine h.keeps_only (Registry.edit_setRecord hs) (fun old' rec' _ heq => ?_) (by simp)
  exact Option.some.inj heq ▸ hrec

theorem Sorted.keeps_challenges (h : D.Sorted r) {challenges : Table Token SessionId}
    (hother : ∀ t, D.token t ≠ b → challenges.find? t = r.challenges.find? t)
    (hside : ∀ t x, challenges.find? t = some x → D.session x = D.token t) :
    D.Keeps b r { r with challenges } :=
  ⟨fun _ _ => rfl, fun _ _ => rfl, hother, h.record, h.owner, hside⟩

theorem Sorted.keeps_erase (h : D.Sorted r) (token : Token) :
    D.Keeps (D.token token) r { r with challenges := r.challenges.erase token } := by
  refine h.keeps_challenges (fun t ht => ?_) fun t x hx => ?_
  · rw [Table.find?_erase, if_neg]
    rintro rfl
    exact ht rfl
  · rw [Table.find?_erase] at hx
    split at hx
    · simp at hx
    · exact h.challenge t x hx

/-- A record stays fit as long as it keeps its session, its login and its channel, and waits for no
token. -/
theorem Fits.withState (h : D.Fits x rec) {state : RecordState}
    (hstate : ∀ t, state.token? = some t → D.token t = D.session x) {lastActiveAt : Nat} :
    D.Fits x { rec with state, lastActiveAt } :=
  ⟨h.session, h.login, h.channel, hstate⟩

/-! ### Signing on -/

theorem Sorted.keeps_activate (h : D.Sorted r) :
    D.Keeps (D.session s) r (r.activate closed now s c t).2 := by
  unfold Registry.activate
  cases hs : r.record? s with
  | none => exact h.refl
  | some rec =>
    dsimp only
    split
    · exact h.keeps_setRecord hs ((h.record s rec hs).withState (by simp [RecordState.token?]))
    · exact h.keeps_drop s

theorem Sorted.keeps_concludePrimary (h : D.Sorted r) {verdict : PrimaryVerdict} {fresh : Token}
    (hf : D.token fresh = D.session s) :
    D.Keeps (D.session s) r (r.concludePrimary closed now s c verdict fresh).2 := by
  unfold Registry.concludePrimary
  cases verdict with
  | accepted => exact h.keeps_activate
  | needsSecondary =>
    cases hs : r.record? s with
    | none => exact h.refl
    | some rec =>
      dsimp only
      split
      · have hrec : D.Fits s { rec with state := .pendingSecondary fresh } := by
          refine (h.record s rec hs).withState fun t ht => ?_
          obtain rfl : fresh = t := by simpa [RecordState.token?] using ht
          exact hf
        have hset := h.keeps_setRecord hs hrec
        refine hset.trans (hset.sorted.keeps_challenges (fun t ht => ?_) fun t x hx => ?_)
        · rw [Table.find?_insert, if_neg]
          rintro rfl
          exact ht hf
        · rw [Table.find?_insert] at hx
          split at hx
          · next he => rw [← Option.some.inj hx, ← he, hf]
          · exact hset.sorted.challenge t x hx
      · exact h.refl
  | denied failure => exact h.keeps_drop s

theorem Sorted.keeps_concludeSecondary (h : D.Sorted r) {verified : Bool} :
    D.Keeps (D.session s) r (r.concludeSecondary closed now s c token verified).2 := by
  unfold Registry.concludeSecondary
  split
  · exact h.keeps_activate
  · exact h.keeps_drop s

/-- An answer to a challenge concerns the side of its token. -/
theorem Sorted.keeps_openSecondary (h : D.Sorted r) {code : Secret} :
    D.Keeps (D.token token) r (r.openSecondary c token code).2 := by
  have herase := h.keeps_erase token
  unfold Registry.openSecondary
  cases ht : r.challenges.find? token with
  | none => exact h.refl
  | some s =>
    have hdrop : D.Keeps (D.token token) r
        (({ r with challenges := r.challenges.erase token } : Registry).drop s).1 := by
      refine herase.trans ?_
      rw [← h.challenge token s ht]
      exact herase.sorted.keeps_drop s
    dsimp only
    split
    · exact herase
    · split
      · exact hdrop
      · split
        · exact hdrop
        · exact herase

/-- The question for the secondary authenticator is about a session and a channel of the token's
side. -/
theorem Sorted.question (h : D.Sorted r) {code : Secret} {q : Registry.SecondaryQuestion}
    (hq : (r.openSecondary c token code).1 = .ok q) :
    D.session q.session = D.token token ∧ D.channel c = D.token token := by
  unfold Registry.openSecondary at hq
  cases ht : r.challenges.find? token with
  | none => simp [ht] at hq
  | some s =>
    have hside := h.challenge token s ht
    simp only [ht] at hq
    split at hq
    · simp at hq
    · next rec hs =>
      have hrec : r.record? s = some rec := hs
      split at hq
      · simp at hq
      · next hwaits =>
        split at hq
        · simp at hq
        · obtain ⟨-, hchannel⟩ := not_or.1 hwaits
          rw [← Except.ok.inj hq]
          have hrecord := (h.record s rec hrec).channel c (Decidable.not_not.1 hchannel)
          exact ⟨hside, hrecord.trans hside⟩

theorem Sorted.keeps_entered (h : D.Sorted r) {fresh : SessionId}
    (hf : D.session fresh = D.named login) (hc : D.channel c = D.named login) :
    D.Keeps (D.named login) r (r.entered now fresh login c remote) := by
  refine ⟨fun x hx => ?_, fun l hl => ?_, fun t ht => rfl, fun x rec hx => ?_, fun l x ho => ?_,
    h.challenge⟩
  · rw [Registry.record?_entered, if_neg]
    rintro rfl
    exact hx hf
  · rw [Registry.ownerOf_entered, if_neg]
    rintro rfl
    exact hl rfl
  · rw [Registry.record?_entered] at hx
    split at hx
    · next he =>
      subst he
      rw [← Option.some.inj hx]
      refine ⟨rfl, hf.symm, fun d hd => ?_, by simp [Record.pending, RecordState.token?]⟩
      obtain rfl : c = d := by simpa [Record.pending] using hd
      exact hc.trans hf.symm
    · exact h.record x rec hx
  · rw [Registry.ownerOf_entered] at ho
    split at ho
    · next he => rw [← Option.some.inj ho, ← he, hf]
    · exact h.owner l x ho

/-- A login is claimed on its side, and the channel to be kicked is there too. -/
theorem Sorted.keeps_claim (h : D.Sorted r) {fresh : SessionId}
    (hf : D.session fresh = D.named login) (hc : D.channel c = D.named login) {r' : Registry}
    {displaced : Option ChannelId}
    (hclaim : r.claim closed now fresh login c remote = .ok (r', displaced)) :
    D.Keeps (D.named login) r r' ∧ ∀ d, displaced = some d → D.channel d = D.named login := by
  have hentered : D.Keeps (D.named login) r (r.entered now fresh login c remote) :=
    h.keeps_entered hf hc
  unfold Registry.claim at hclaim
  cases ho : r.ownerOf login with
  | none =>
    simp only [ho, Except.ok.injEq, Prod.mk.injEq] at hclaim
    obtain ⟨rfl, rfl⟩ := hclaim
    exact ⟨hentered, by simp⟩
  | some old =>
    have hside := h.owner login old ho
    simp only [ho] at hclaim
    split at hclaim
    · have hdrop : (r.entered now fresh login c remote).drop old = (r', displaced) :=
        Except.ok.inj hclaim
      obtain rfl : ((r.entered now fresh login c remote).drop old).1 = r' := congrArg Prod.fst hdrop
      obtain rfl : ((r.entered now fresh login c remote).drop old).2 = displaced :=
        congrArg Prod.snd hdrop
      refine ⟨hentered.trans (hside ▸ hentered.sorted.keeps_drop old), fun d hd => ?_⟩
      rw [Registry.drop_snd] at hd
      obtain ⟨rec, hrec, hd⟩ := Option.bind_eq_some_iff.1 hd
      exact ((hentered.sorted.record old rec hrec).channel d hd).trans hside
    · simp at hclaim

/-! ### Resuming, closing and sweeping -/

theorem Sorted.keeps_reuse (h : D.Sorted r) (hc : D.channel c = D.session s) :
    D.Keeps (D.session s) r (r.reuse closed window now s c remote).2 := by
  unfold Registry.reuse
  cases hs : r.record? s with
  | none => exact h.refl
  | some rec =>
    have hrec := h.record s rec hs
    have hresumed : D.Fits s
        { rec with state := .active, channel := some c, remote := remote, lastActiveAt := now } :=
      ⟨hrec.session, hrec.login, fun d hd => Option.some.inj hd ▸ hc, by simp [RecordState.token?]⟩
    have hbound := h.keeps_setRecord hs hresumed
    dsimp only
    split
    · split
      · exact h.keeps_terminate s
      · exact hbound
    · split
      · exact hbound
      · exact h.refl
    · exact h.refl
    · exact h.refl

theorem Fits.disconnect (h : D.Fits x rec) : D.Fits x (rec.disconnect now) :=
  ⟨h.session, h.login, by simp [Record.disconnect], by simp [Record.disconnect, RecordState.token?]⟩

theorem Fits.close (h : D.Fits x rec) {signedOff : Bool} {rec' : Record}
    (hrec : Registry.closeRecord now c signedOff rec = some rec') : D.Fits x rec' := by
  unfold Registry.closeRecord at hrec
  split at hrec
  · exact Option.some.inj hrec ▸ h
  · split at hrec
    · simp at hrec
    · exact Option.some.inj hrec ▸ h.disconnect

theorem Sorted.keeps_close (h : D.Sorted r) {signedOff : Bool} :
    D.Keeps (D.session s) r (r.close now c s signedOff) :=
  h.keeps_only Registry.edit_close (fun _ _ hrec heq => hrec.close heq) (by simp)

theorem Sorted.keeps_releaseChannel (h : D.Sorted r) :
    D.Keeps (D.channel c) r (r.releaseChannel now c) := by
  refine h.keeps_edit Registry.edit_releaseChannel (fun _ _ _ hrec heq => hrec.close heq)
    (fun x rec hrec hx => ?_) (by simp)
  refine if_pos fun hbound => ?_
  exact hx (hrec.channel c hbound).symm

theorem Sorted.sweep (h : D.Sorted r) : D.Sorted (r.sweep closed window now).2.1 := by
  refine h.edit (Registry.edit_sweep fun x rec hx => (h.record x rec hx).session)
    fun x rec rec' hrec heq => ?_
  unfold Registry.sweptRecord at heq
  split at heq
  · simp at heq
  · rw [← Option.some.inj heq]
    unfold Registry.refreshed
    split
    · exact hrec.disconnect
    · exact hrec

end Registries

/-! ### States -/

/-- A signon of the side `b` wants the login of that side, on a channel of it, or answers to a token
of it. -/
def Wants (D : Realm) (b : Bool) : Attempt → Prop
  | .primary login _ c => D.named login = b ∧ D.channel c = b
  | .secondary _ t _ => D.token t = b

instance decidableWants (D : Realm) (b : Bool) : (a : Attempt) → Decidable (D.Wants b a)
  | .primary login _ c => inferInstanceAs (Decidable (D.named login = b ∧ D.channel c = b))
  | .secondary _ t _ => inferInstanceAs (Decidable (D.token t = b))

/-- A signon of the side `b` that is being decided is so on a session and a channel of it. -/
structure Suits (D : Realm) (b : Bool) (g : Signon) : Prop where
  attempt : D.Wants b g.attempt
  asking : ∀ x login, g.progress = .asking x login → D.session x = b ∧
    D.channel g.attempt.channel = b

/-- The registry and the signons of the state keep to the sides. -/
structure Confined (D : Realm) (s : State) : Prop where
  registry : D.Sorted s.registry
  signon : ∀ id g, s.signons.find? id = some g → D.Suits (D.signon id) g

/-- Nothing is changed but on the side `b`, and the state keeps to the sides. -/
structure Within (D : Realm) (b : Bool) (s s' : State) : Prop where
  window : s'.window = s.window
  registry : D.Keeps b s.registry s'.registry
  channel : ∀ c, D.channel c ≠ b → s'.channels.find? c = s.channels.find? c
  signon : ∀ id, D.signon id ≠ b → s'.signons.find? id = s.signons.find? id
  suits : ∀ id g, s'.signons.find? id = some g → D.Suits (D.signon id) g

/-- The operation keeps to the sides: what a signon asks for, and every name that is given out, is
of the side of whom it is for. -/
def Apart (D : Realm) : Operation → Prop
  | .spawn id a => D.Wants (D.signon id) a
  | .start id fresh => D.session fresh = D.signon id
  | .answerPrimary id _ fresh => D.token fresh = D.signon id
  | .reuse x c => D.channel c = D.session x
  | _ => True

instance decidableApart (D : Realm) : (op : Operation) → Decidable (D.Apart op)
  | .spawn id a => decidableWants D (D.signon id) a
  | .start id fresh => inferInstanceAs (Decidable (D.session fresh = D.signon id))
  | .answerPrimary id _ fresh => inferInstanceAs (Decidable (D.token fresh = D.signon id))
  | .reuse x c => inferInstanceAs (Decidable (D.channel c = D.session x))
  | .openChannel .. | .kick _ | .abandon _ | .advance _ | .answerSecondary .. | .close ..
  | .release _ | .kickout _
  | .kickoutAll | .sweep | .register .. | .unregister .. | .count _ => isTrue trivial

def side? (D : Realm) : Operation → Option Bool
  | .openChannel c _ _ | .kick c | .abandon c | .release c => some (D.channel c)
  | .spawn id _ | .start id _ | .answerPrimary id _ _ | .answerSecondary id _ => some (D.signon id)
  | .reuse x _ | .close _ x _ | .kickout x => some (D.session x)
  | .kickoutAll | .sweep => none
  | .advance _ | .register _ _ | .unregister _ _ | .count _ => some false

section States

variable {D : Realm} {b : Bool} {s s' : State} {x : SessionId} {c : ChannelId} {id : SignonId}
  {a : Attempt}

theorem Confined.within (h : D.Confined s) : D.Within b s s :=
  ⟨rfl, h.registry.refl, fun _ _ => rfl, fun _ _ => rfl, h.signon⟩

theorem Within.confined (h : D.Within b s s') : D.Confined s' := ⟨h.registry.sorted, h.suits⟩

theorem Within.aside (h : D.Within b s s') {now : Nat} {routes : Table SessionId ChannelId}
    {metrics : Metrics} :
    D.Within b s { s' with now, routes, metrics } :=
  ⟨h.window, h.registry, h.channel, h.signon, h.suits⟩

theorem Within.withRegistry (h : D.Within b s s') {registry : Registry}
    (hr : D.Keeps b s'.registry registry) :
    D.Within b s { s' with registry } :=
  ⟨h.window, h.registry.trans hr, h.channel, h.signon, h.suits⟩

theorem Within.withChannels (h : D.Within b s s') {channels : Channels}
    (hc : ∀ c, D.channel c ≠ b → channels.find? c = s'.channels.find? c) :
    D.Within b s { s' with channels } :=
  ⟨h.window, h.registry, fun c hside => (hc c hside).trans (h.channel c hside), h.signon, h.suits⟩

theorem Within.withSignon (h : D.Within b s s') (hid : D.signon id = b) {g : Signon}
    (hg : D.Suits b g) :
    D.Within b s { s' with signons := s'.signons.insert id g } := by
  refine ⟨h.window, h.registry, h.channel, fun id' hid' => ?_, fun id' g' hg' => ?_⟩
  · show (s'.signons.insert id g).find? id' = _
    rw [Table.find?_insert, if_neg, h.signon id' hid']
    rintro rfl
    exact hid' hid
  · change (s'.signons.insert id g).find? id' = _ at hg'
    rw [Table.find?_insert] at hg'
    split at hg'
    · next he =>
      subst he
      rw [← Option.some.inj hg', hid]
      exact hg
    · exact h.suits id' g' hg'

theorem Within.modify (h : D.Within b s s') (hc : D.channel c = b) (f : Channel → Channel) :
    D.Within b s { s' with channels := s'.channels.modify c f } := by
  refine h.withChannels fun d hside => ?_
  rw [Table.find?_modify, if_neg]
  rintro rfl
  exact hside hc

theorem Within.kickAll (h : D.Within b s s') {l : List ChannelId} (hl : ∀ d ∈ l, D.channel d = b) :
    D.Within b s { s' with channels := s'.channels.kickAll l } := by
  refine h.withChannels fun c hside => ?_
  rw [Channels.find?_kickAll, if_neg]
  intro hc
  exact hside (hl c hc)

theorem Within.decide (h : D.Within b s s') (hid : D.signon id = b) (ha : D.Wants b a)
    (outcome : Outcome) :
    D.Within b s (s'.decide id a outcome) :=
  (h.withSignon hid (g := ⟨a, .decided outcome⟩) ⟨ha, by simp⟩).aside

theorem Within.ask (h : D.Within b s s') (hid : D.signon id = b) (ha : D.Wants b a)
    (hx : D.session x = b) (hc : D.channel a.channel = b) (login : String) :
    D.Within b s (s'.ask id a x login) := by
  refine h.withSignon hid (g := ⟨a, .asking x login⟩) ⟨ha, fun y login' he => ?_⟩
  obtain ⟨rfl, rfl⟩ := Progress.asking.inj he
  exact ⟨hx, hc⟩

/-! ### Operations -/

theorem Confined.within_spawn (h : D.Confined s) (ha : D.Wants (D.signon id) a) :
    D.Within (D.signon id) s (s.spawn id a) :=
  h.within.withSignon rfl ⟨ha, by simp⟩

theorem Confined.within_start (h : D.Confined s) {fresh : SessionId}
    (hf : D.session fresh = D.signon id) :
    D.Within (D.signon id) s (s.startSignon id fresh) := by
  unfold State.startSignon
  split
  · next login secret c hid =>
    have hwants : D.Wants (D.signon id) (.primary login secret c) := (h.signon id _ hid).attempt
    obtain ⟨hlogin, hc⟩ : D.named login = D.signon id ∧ D.channel c = D.signon id :=
      (h.signon id _ hid).attempt
    dsimp only
    split
    · exact h.within.decide rfl hwants _
    · next registry displaced hclaim =>
      obtain ⟨hkeeps, hkicked⟩ :=
        h.registry.keeps_claim (hf.trans hlogin.symm) (hc.trans hlogin.symm) hclaim
      rw [hlogin] at hkeeps hkicked
      have hkick := (h.within.withRegistry hkeeps).kickAll (l := displaced.toList) fun d hd =>
        hkicked d (Option.mem_toList.1 hd)
      exact hkick.ask rfl hwants hf hc login
  · next c token code hid =>
    have hwants : D.Wants (D.signon id) (.secondary c token code) := (h.signon id _ hid).attempt
    have htoken : D.token token = D.signon id := hwants
    have hkeeps : D.Keeps (D.signon id) s.registry (s.registry.openSecondary c token code).2 :=
      htoken ▸ h.registry.keeps_openSecondary
    dsimp only
    split
    · next failure registry hopen =>
      rw [hopen] at hkeeps
      exact (h.within.withRegistry hkeeps).decide rfl hwants _
    · next question registry hopen =>
      obtain ⟨hx, hc⟩ := h.registry.question (congrArg Prod.fst hopen)
      rw [hopen] at hkeeps
      exact (h.within.withRegistry hkeeps).ask rfl hwants (hx.trans htoken) (hc.trans htoken) _
  · exact h.within

theorem Confined.within_answerPrimary (h : D.Confined s) {verdict : PrimaryVerdict} {fresh : Token}
    (hf : D.token fresh = D.signon id) :
    D.Within (D.signon id) s (s.answerPrimary id verdict fresh) := by
  unfold State.answerPrimary
  split
  · next login secret c x login' hid =>
    have hsuits := h.signon id _ hid
    have hx := (hsuits.asking x login' rfl).1
    dsimp only
    exact (h.within.withRegistry (hx ▸ h.registry.keeps_concludePrimary (hf.trans hx.symm))).decide
      rfl hsuits.attempt _
  · exact h.within

theorem Confined.within_answerSecondary (h : D.Confined s) {verified : Bool} :
    D.Within (D.signon id) s (s.answerSecondary id verified) := by
  unfold State.answerSecondary
  split
  · next c token code x login' hid =>
    have hsuits := h.signon id _ hid
    have hx := (hsuits.asking x login' rfl).1
    dsimp only
    exact (h.within.withRegistry (hx ▸ h.registry.keeps_concludeSecondary)).decide rfl
      hsuits.attempt _
  · exact h.within

theorem Confined.within_kickout (h : D.Confined s) (x : SessionId) :
    D.Within (D.session x) s (s.kickout x).2 := by
  unfold State.kickout Registry.kickout
  cases hx : s.registry.record? x with
  | none => exact h.within
  | some rec =>
    have hkick := (h.within.withRegistry (h.registry.keeps_terminate x)).kickAll
      (l := (s.registry.terminate x).2.toList) fun d hd => by
        rw [Registry.terminate_snd, hx, Option.mem_toList] at hd
        exact (h.registry.record x rec hx).channel d hd
    exact hkick.aside

/-- **An operation on names of one side** changes nothing on the other. -/
theorem Confined.within_perform (h : D.Confined s) {op : Operation} (hop : D.Apart op)
    (hside : D.side? op = some b) :
    D.Within b s (s.perform op) := by
  have hsides {b' : Bool} (hw : D.Within b' s (s.perform op)) (hb : some b' = D.side? op) :
      D.Within b s (s.perform op) := Option.some.inj (hb.trans hside) ▸ hw
  cases op with
  | openChannel c remote capacity =>
    refine hsides (h.within.withChannels fun d hd => ?_) rfl
    rw [Table.find?_insert, if_neg]
    rintro rfl
    exact hd rfl
  | kick c => exact hsides (h.within.modify rfl Channel.kick) rfl
  | abandon c => exact hsides (h.within.modify rfl Channel.abandon) rfl
  | spawn id a => exact hsides (h.within_spawn hop) rfl
  | start id fresh => exact hsides (h.within_start hop) rfl
  | answerPrimary id verdict fresh => exact hsides (h.within_answerPrimary hop) rfl
  | answerSecondary id verified => exact hsides h.within_answerSecondary rfl
  | reuse x c => exact hsides (h.within.withRegistry (h.registry.keeps_reuse hop)).aside rfl
  | close c x signedOff => exact hsides (h.within.withRegistry h.registry.keeps_close) rfl
  | release c => exact hsides (h.within.withRegistry h.registry.keeps_releaseChannel) rfl
  | kickout x => exact hsides (h.within_kickout x) rfl
  | kickoutAll | sweep => simp [side?] at hside
  | advance | register | count => exact h.within.aside
  | unregister x c =>
    obtain ⟨routes, hr⟩ := s.perform_unregister x c
    rw [hr]
    exact h.within.aside

/-- **Every operation** leaves the sides apart, those that concern everyone too. -/
theorem Confined.perform (h : D.Confined s) {op : Operation} (hop : D.Apart op) :
    D.Confined (s.perform op) := by
  cases hside : D.side? op with
  | some b => exact (h.within_perform hop hside).confined
  | none =>
    cases op with
    | kickoutAll =>
      exact State.kickoutEach_keeps (P := D.Confined)
        (fun s x hs => (hs.within_kickout x).confined) h
    | sweep => exact ⟨h.registry.sweep, h.signon⟩
    | _ => simp [side?] at hside

theorem confined_initial (D : Realm) (window : Nat) : D.Confined { window } :=
  ⟨sorted_empty, by simp⟩

end States

end Realm

end DurableSession.Server
