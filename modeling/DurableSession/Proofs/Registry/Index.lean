import DurableSession.Proofs.Registry.Lookup

/-!
The login index and the records of a registry are inverse to each other, whatever the operations.

Each operation changes both in several writes. `Indexed` is kept by dropping a record and by
replacing one under its login, and all operations but two are made of these. The two are `claim`,
which enters a session before the one it displaces is gone, and `sweep`, which marks records first.
-/

namespace DurableSession.Server.Registry

open Lifecycle (SessionId Token Failure Secret)
open Network (SocketAddress)

/-- **The index**: a record's login is owned by its session, and an owner has a record under the
login. -/
structure Indexed (r : Registry) : Prop where
  named : ∀ x rec, r.record? x = some rec → rec.session = x
  owned : ∀ x rec, r.record? x = some rec → r.ownerOf rec.login = some x
  backed : ∀ login x, r.ownerOf login = some x → ∃ rec, r.record? x = some rec ∧ rec.login = login

namespace Indexed

variable {r : Registry} {s : SessionId} {closed : ChannelId → Bool} {window now : Nat}
  {c : ChannelId}

theorem empty : Indexed {} where
  named := by simp [record?]
  owned := by simp [record?]
  backed := by simp [ownerOf]

theorem eq_of_login_eq (h : Indexed r) {x y : SessionId} {a b : Record} (hx : r.record? x = some a)
    (hy : r.record? y = some b) (hl : a.login = b.login) : x = y := by
  have hx' := h.owned x a hx
  have hy' := h.owned y b hy
  rw [hl, hy'] at hx'
  exact (Option.some.inj hx').symm

theorem drop (h : Indexed r) (s : SessionId) : Indexed (r.drop s).1 where
  named x rec hx := by
    rw [record?_drop] at hx
    split at hx
    · simp at hx
    · exact h.named x rec hx
  owned x rec hx := by
    rw [record?_drop] at hx
    split at hx
    · simp at hx
    · next hne =>
      have ho := h.owned x rec hx
      rw [ownerOf_drop, if_neg, ho]
      rintro ⟨-, hs⟩
      rw [ho] at hs
      exact hne (Option.some.inj hs).symm
  backed login x ho := by
    rw [ownerOf_drop] at ho
    split at ho
    · simp at ho
    · next hn =>
      obtain ⟨rec, hx, hl⟩ := h.backed login x ho
      refine ⟨rec, ?_, hl⟩
      rw [record?_drop, if_neg]
      · exact hx
      · rintro rfl
        exact hn ⟨by rw [hx, ← hl]; rfl, ho⟩

/-- Records may change in all but their names and logins. -/
theorem congr (h : Indexed r) {r' : Registry} (ho : ∀ login, r'.ownerOf login = r.ownerOf login)
    (hr : ∀ x, (r'.record? x).map (fun rec => (rec.session, rec.login)) =
      (r.record? x).map (fun rec => (rec.session, rec.login))) : Indexed r' := by
  have back : ∀ x rec, r'.record? x = some rec →
      ∃ rec', r.record? x = some rec' ∧ rec'.session = rec.session ∧ rec'.login = rec.login := by
    intro x rec hx
    have := hr x
    rw [hx, Option.map_some] at this
    obtain ⟨rec', hx', he⟩ := Option.map_eq_some_iff.1 this.symm
    exact ⟨rec', hx', (Prod.mk.inj he).1, (Prod.mk.inj he).2⟩
  refine ⟨fun x rec hx => ?_, fun x rec hx => ?_, fun login x hl => ?_⟩
  · obtain ⟨rec', hx', hs, -⟩ := back x rec hx
    rw [← hs]
    exact h.named x rec' hx'
  · obtain ⟨rec', hx', -, hl⟩ := back x rec hx
    rw [ho, ← hl]
    exact h.owned x rec' hx'
  · rw [ho] at hl
    obtain ⟨rec, hx, hlog⟩ := h.backed login x hl
    have := hr x
    rw [hx, Option.map_some] at this
    obtain ⟨rec', hx', he⟩ := Option.map_eq_some_iff.1 this
    exact ⟨rec', hx', (Prod.mk.inj he).2.trans hlog⟩

theorem setRecord (h : Indexed r) {old rec : Record} (hs : r.record? s = some old)
    (hname : rec.session = old.session) (hlogin : rec.login = old.login) :
    Indexed (r.setRecord s rec) := by
  refine h.congr (fun _ => rfl) fun x => ?_
  rw [record?_setRecord]
  split
  · next he =>
    subst he
    rw [hs, Option.map_some, Option.map_some, hname, hlogin]
  · rfl

theorem withChallenges (h : Indexed r) (challenges : Table Token SessionId) :
    Indexed { r with challenges } :=
  ⟨h.named, h.owned, h.backed⟩

theorem markTerminated (h : Indexed r) (s : SessionId) : Indexed (r.markTerminated s) := by
  refine h.congr (fun _ => rfl) fun x => ?_
  rw [record?_markTerminated]
  split
  · rw [Option.map_map]
    rfl
  · rfl

theorem terminate (h : Indexed r) (s : SessionId) : Indexed (r.terminate s).1 :=
  (h.markTerminated s).drop s

/-! ### Signing on, resuming and closing -/

theorem activate (h : Indexed r) {token : Option Token} :
    Indexed (r.activate closed now s c token).2 := by
  unfold Registry.activate
  cases hs : r.record? s with
  | none => exact h
  | some rec =>
    dsimp only
    split
    · exact h.setRecord hs rfl rfl
    · exact h.drop s

theorem concludePrimary (h : Indexed r) {verdict : PrimaryVerdict} {fresh : Token} :
    Indexed (r.concludePrimary closed now s c verdict fresh).2 := by
  unfold Registry.concludePrimary
  cases verdict with
  | accepted => exact h.activate
  | needsSecondary =>
    cases hs : r.record? s with
    | none => exact h
    | some rec =>
      dsimp only
      split
      · have h' : Indexed (r.setRecord s { rec with state := .pendingSecondary fresh }) :=
          h.setRecord hs rfl rfl
        exact h'.withChallenges _
      · exact h
  | denied failure => exact h.drop s

theorem openSecondary (h : Indexed r) {token : Token} {code : Secret} :
    Indexed (r.openSecondary c token code).2 := by
  unfold Registry.openSecondary
  cases r.challenges.find? token with
  | none => exact h
  | some s =>
    have h' := h.withChallenges (r.challenges.erase token)
    dsimp only
    split
    · exact h'
    · split
      · exact h'.drop s
      · split
        · exact h'.drop s
        · exact h'

theorem concludeSecondary (h : Indexed r) {token : Token} {verified : Bool} :
    Indexed (r.concludeSecondary closed now s c token verified).2 := by
  unfold Registry.concludeSecondary
  split
  · exact h.activate
  · exact h.drop s

theorem reuse (h : Indexed r) {remote : SocketAddress} :
    Indexed (r.reuse closed window now s c remote).2 := by
  unfold Registry.reuse
  cases hs : r.record? s with
  | none => exact h
  | some rec =>
    dsimp only
    split
    · split
      · exact h.terminate s
      · exact h.setRecord hs rfl rfl
    · split
      · exact h.setRecord hs rfl rfl
      · exact h
    · exact h
    · exact h

theorem close (h : Indexed r) {signedOff : Bool} : Indexed (r.close now c s signedOff) := by
  unfold Registry.close
  cases hs : r.record? s with
  | none => exact h
  | some rec =>
    dsimp only
    split
    · exact h
    · split
      · exact h.terminate s
      · exact h.setRecord hs rfl rfl

theorem releaseChannel (h : Indexed r) : Indexed (r.releaseChannel now c) := by
  unfold Registry.releaseChannel
  generalize r.sessions.keys = l
  induction l generalizing r with
  | nil => exact h
  | cons s l ih => exact ih h.close

theorem kickout (h : Indexed r) : Indexed (r.kickout s).2.1 := by
  unfold Registry.kickout
  split
  · exact h
  · exact h.terminate s

/-! ### Sweeping -/

theorem dropAll (h : Indexed r) (l : List SessionId) : Indexed (r.dropAll l).1 := by
  induction l generalizing r with
  | nil => exact h
  | cons s l ih => exact ih (h.drop s)

theorem sweep (h : Indexed r) : Indexed (r.sweep closed window now).2.1 := by
  rw [sweep_eq]
  refine Indexed.dropAll ?_ _
  refine h.congr (fun _ => rfl) fun x => ?_
  rw [record?_marked, Option.map_map]
  congr 1
  funext rec
  simp only [Function.comp, sweepRecord, refreshed, Record.disconnect]
  split
  · rfl
  · split <;> rfl

end Indexed

/-! ### Claiming a login -/

/-- What a signon has done once it has claimed its login. -/
structure Claimed (closed : ChannelId → Bool) (now : Nat) (r : Registry) (fresh : SessionId)
    (login : String) (c : ChannelId) (remote : SocketAddress) (r' : Registry)
    (displaced : Option ChannelId) : Prop where
  record : ∀ x, r'.record? x =
    if fresh = x then some (Record.pending fresh login c remote now)
    else if r.ownerOf login = some x then none
    else r.record? x
  owner : ∀ l, r'.ownerOf l = if login = l then some fresh else r.ownerOf l
  challenge : ∀ t x, r'.challenges.find? t = some x → r.challenges.find? t = some x
  /-- The channel of the session that had the login is to be kicked. -/
  kicked : ∀ old rec, r.ownerOf login = some old → r.record? old = some rec →
    displaced = rec.channel
  stale : ∀ old rec, r.ownerOf login = some old → r.record? old = some rec →
    rec.reclaimable closed = true

section Claim

variable {r r' : Registry} {closed : ChannelId → Bool} {now : Nat} {fresh : SessionId}
  {login : String} {c : ChannelId} {remote : SocketAddress} {displaced : Option ChannelId}

/-- The two tables of a claim before the displaced record goes. -/
def entered (now : Nat) (r : Registry) (fresh : SessionId) (login : String) (c : ChannelId)
    (remote : SocketAddress) : Registry :=
  { r with
    sessions := r.sessions.insert fresh (Record.pending fresh login c remote now)
    logins := r.logins.insert login fresh }

theorem record?_entered {x : SessionId} :
    (r.entered now fresh login c remote).record? x =
      if fresh = x then some (Record.pending fresh login c remote now) else r.record? x :=
  Table.find?_insert ..

theorem ownerOf_entered {l : String} :
    (r.entered now fresh login c remote).ownerOf l =
      if login = l then some fresh else r.ownerOf l :=
  Table.find?_insert ..

theorem claimed_of_claim (h : Indexed r) (hf : r.record? fresh = none)
    (hc : r.claim closed now fresh login c remote = .ok (r', displaced)) :
    Claimed closed now r fresh login c remote r' displaced := by
  unfold claim at hc
  cases ho : r.ownerOf login with
  | none =>
    simp only [ho, Except.ok.injEq, Prod.mk.injEq] at hc
    obtain ⟨rfl, rfl⟩ := hc
    refine ⟨fun x => ?_, fun l => ownerOf_entered, fun _ _ ht => ht, ?_, ?_⟩
    · simp only [ho, reduceCtorEq, if_false]
      exact record?_entered
    all_goals
      intro old rec hold
      rw [ho] at hold
      simp at hold
  | some old =>
    obtain ⟨rec, hold, hlogin⟩ := h.backed login old ho
    have hne : fresh ≠ old := by
      rintro rfl
      rw [hf] at hold
      simp at hold
    simp only [ho, hold, Option.map_some, Option.getD_some] at hc
    split at hc
    · next hstale =>
      have hdrop : (r.entered now fresh login c remote).drop old = (r', displaced) :=
        Except.ok.inj hc
      have hr' : r' = ((r.entered now fresh login c remote).drop old).1 := by rw [hdrop]
      have hd : displaced = ((r.entered now fresh login c remote).drop old).2 := by rw [hdrop]
      have hold' : (r.entered now fresh login c remote).record? old = some rec := by
        rw [record?_entered, if_neg hne, hold]
      refine ⟨fun x => ?_, fun l => ?_, fun t x ht => ?_, fun old' rec' ho' hold'' => ?_,
        fun old' rec' ho' hold'' => ?_⟩
      · rw [hr', record?_drop, record?_entered]
        simp only [ho, Option.some.injEq]
        by_cases hx : fresh = x
        · subst hx
          simp [Ne.symm hne]
        · simp [hx]
      · rw [hr', ownerOf_drop, if_neg, ownerOf_entered]
        rintro ⟨hl, hown⟩
        rw [hold', Option.map_some, Option.some.injEq, hlogin] at hl
        subst hl
        rw [ownerOf_entered, if_pos rfl, Option.some.injEq] at hown
        exact hne hown
      · rw [hr'] at ht
        exact challenge_of_drop (r := r.entered now fresh login c remote) ht
      · obtain rfl : old = old' := Option.some.inj (ho.symm.trans ho')
        obtain rfl : rec = rec' := Option.some.inj (hold.symm.trans hold'')
        rw [hd, drop_snd, hold', Option.bind_some]
      · obtain rfl : old = old' := Option.some.inj (ho.symm.trans ho')
        obtain rfl : rec = rec' := Option.some.inj (hold.symm.trans hold'')
        exact hstale
    · simp at hc

theorem Indexed.claim (h : Indexed r) (hf : r.record? fresh = none)
    (hc : r.claim closed now fresh login c remote = .ok (r', displaced)) : Indexed r' := by
  have hcl := claimed_of_claim h hf hc
  refine ⟨fun x rec hx => ?_, fun x rec hx => ?_, fun l x hl => ?_⟩
  · rw [hcl.record] at hx
    split at hx
    · next he =>
      rw [← he, ← Option.some.inj hx]
      rfl
    · split at hx
      · simp at hx
      · exact h.named x rec hx
  · rw [hcl.record] at hx
    rw [hcl.owner]
    split at hx
    · next he =>
      rw [← he, ← Option.some.inj hx]
      simp [Record.pending]
    · split at hx
      · simp at hx
      · next hne =>
        have ho := h.owned x rec hx
        rw [if_neg, ho]
        rintro rfl
        exact hne ho
  · rw [hcl.owner] at hl
    split at hl
    · next he =>
      obtain rfl := Option.some.inj hl
      refine ⟨Record.pending fresh login c remote now, ?_, he⟩
      rw [hcl.record, if_pos rfl]
    · next hne =>
      obtain ⟨rec, hx, hlogin⟩ := h.backed l x hl
      refine ⟨rec, ?_, hlogin⟩
      have hfx : fresh ≠ x := by
        rintro rfl
        rw [hf] at hx
        simp at hx
      rw [hcl.record, if_neg hfx, if_neg, hx]
      intro ho
      obtain ⟨rec', hx', hlogin'⟩ := h.backed login x ho
      obtain rfl : rec = rec' := Option.some.inj (hx.symm.trans hx')
      exact hne (hlogin'.symm.trans hlogin)

end Claim

end DurableSession.Server.Registry
