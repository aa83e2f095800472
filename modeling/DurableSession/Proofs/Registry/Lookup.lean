import DurableSession.Proofs.Table
import DurableSession.Server.Registry

/-!
What the operations of the registry do to look-ups: the record of a session, the owner of a login,
and the challenge of a token. Of a session other than the one an operation is about, the record
stays.

Main statements: `record?_drop`, `record?_close`, `record?_releaseChannel` and `record?_sweep` give
the record of every session afterwards as a function of the record before.
-/

namespace DurableSession.Server.Registry

open Lifecycle (SessionId Token Failure Secret)
open Network (SocketAddress)

variable {r : Registry} {s x : SessionId} {rec : Record} {login : String} {t : Token}
  {closed : ChannelId → Bool} {window now : Nat} {c : ChannelId}

/-! ### One record -/

@[simp] theorem record?_setRecord :
    (r.setRecord s rec).record? x = if s = x then some rec else r.record? x :=
  Table.find?_insert ..

@[simp] theorem challenges_setRecord : (r.setRecord s rec).challenges = r.challenges := rfl

@[simp] theorem record?_releaseLogin : (r.releaseLogin login s).record? x = r.record? x := by
  unfold releaseLogin
  split <;> rfl

@[simp] theorem record?_forgetChallenge {state : RecordState} :
    (r.forgetChallenge state).record? x = r.record? x := by
  unfold forgetChallenge
  split <;> rfl

@[simp] theorem ownerOf_forgetChallenge {state : RecordState} :
    (r.forgetChallenge state).ownerOf login = r.ownerOf login := by
  unfold forgetChallenge
  split <;> rfl

theorem record?_drop : (r.drop s).1.record? x = if s = x then none else r.record? x := by
  unfold drop
  cases h : r.record? s with
  | none =>
    by_cases hx : s = x
    · subst hx
      simp [h]
    · simp [hx]
  | some rec =>
    simp only [record?_forgetChallenge, record?_releaseLogin]
    exact Table.find?_erase ..

theorem ownerOf_drop :
    (r.drop s).1.ownerOf login =
      if (r.record? s).map Record.login = some login ∧ r.ownerOf login = some s then none
      else r.ownerOf login := by
  unfold drop
  cases h : r.record? s with
  | none => simp
  | some rec =>
    simp only [ownerOf_forgetChallenge, Option.map_some, Option.some.injEq]
    unfold releaseLogin ownerOf
    by_cases hl : rec.login = login
    · subst hl
      by_cases ho : r.logins.find? rec.login = some s <;> simp [ho]
    · by_cases ho : r.logins.find? rec.login = some s <;> simp [ho, hl]

theorem challenge_of_drop (h : (r.drop s).1.challenges.find? t = some x) :
    r.challenges.find? t = some x := by
  unfold drop at h
  cases hs : r.record? s with
  | none => simpa [hs] using h
  | some rec =>
    simp only [hs] at h
    unfold forgetChallenge releaseLogin at h
    cases ht : rec.state.token? with
    | none =>
      simp only [ht] at h
      split at h <;> exact h
    | some t' =>
      simp only [ht] at h
      split at h <;>
        · simp only [Table.find?_erase] at h
          split at h
          · simp at h
          · exact h

theorem drop_snd : (r.drop s).2 = (r.record? s).bind Record.channel := by
  unfold drop
  cases r.record? s <;> rfl

/-! ### Terminated records -/

theorem record?_markTerminated :
    (r.markTerminated s).record? x =
      if s = x then (r.record? x).map (fun rec => { rec with state := .terminated })
      else r.record? x :=
  Table.find?_modify ..

theorem record?_terminate : (r.terminate s).1.record? x = if s = x then none else r.record? x := by
  unfold terminate
  rw [record?_drop, record?_markTerminated]
  by_cases hx : s = x <;> simp [hx]

theorem challenge_of_terminate (h : (r.terminate s).1.challenges.find? t = some x) :
    r.challenges.find? t = some x :=
  challenge_of_drop (r := r.markTerminated s) h

theorem terminate_snd : (r.terminate s).2 = (r.record? s).bind Record.channel := by
  unfold terminate
  rw [drop_snd, record?_markTerminated, if_pos rfl]
  cases r.record? s <;> rfl

/-! ### Activating -/

/-- The state in which a record waits for a signon, with the token of its challenge if there is
one. -/
def waitingState : Option Token → RecordState
  | none => .pendingPrimary
  | some t => .pendingSecondary t

theorem grantable_eq_true_iff {token : Option Token} {state : RecordState} :
    grantable token state = true ↔ state = waitingState token := by
  cases state <;> cases token <;> simp [grantable, waitingState]

/-- What becomes of a record when its signon on the channel `c` is granted. -/
def activatedRecord (closed : ChannelId → Bool) (now : Nat) (c : ChannelId) (token : Option Token)
    (rec : Record) : Option Record :=
  if grantable token rec.state && !closed c then
    some { rec with state := .active, lastActiveAt := now }
  else none

theorem activatedRecord_eq {token : Option Token} :
    activatedRecord closed now c token rec =
      if rec.state = waitingState token ∧ closed c = false then
        some { rec with state := .active, lastActiveAt := now }
      else none := by
  unfold activatedRecord
  simp only [Bool.and_eq_true, grantable_eq_true_iff, Bool.not_eq_true']

theorem record?_activate {token : Option Token} :
    (r.activate closed now s c token).2.record? x =
      if s = x then (r.record? x).bind (activatedRecord closed now c token) else r.record? x := by
  unfold activate activatedRecord
  cases h : r.record? s with
  | none =>
    by_cases hx : s = x
    · subst hx
      simp [h]
    · simp [hx]
  | some rec =>
    by_cases hx : s = x
    · subst hx
      simp only [h, if_true, Option.bind_some]
      split
      · simp
      · rw [record?_drop, if_pos rfl]
    · simp only [hx, if_false]
      split
      · simp [hx]
      · rw [record?_drop, if_neg hx]

/-! ### Closing -/

/-- What becomes of a record when the channel `c` is reported gone. -/
def closeRecord (now : Nat) (c : ChannelId) (signedOff : Bool) (rec : Record) : Option Record :=
  if rec.channel ≠ some c then some rec
  else if signedOff ∨ rec.state ≠ .active then none
  else some (rec.disconnect now)

theorem record?_close {signedOff : Bool} :
    (r.close now c s signedOff).record? x =
      if s = x then (r.record? x).bind (closeRecord now c signedOff) else r.record? x := by
  unfold close
  cases h : r.record? s with
  | none =>
    by_cases hx : s = x
    · subst hx
      simp [h]
    · simp [hx]
  | some rec =>
    by_cases hx : s = x
    · subst hx
      simp only [h, if_true, Option.bind_some, closeRecord]
      split
      · exact h
      · split
        · rw [record?_terminate, if_pos rfl]
        · simp
    · simp only [hx, if_false]
      split
      · rfl
      · split
        · rw [record?_terminate, if_neg hx]
        · simp [hx]

/-- A change of one record after the other, each session once, changes every record of the list
once. -/
theorem record?_foldl {f : Registry → SessionId → Registry} {g : Record → Option Record}
    (hf : ∀ r s x, (f r s).record? x = if s = x then (r.record? x).bind g else r.record? x)
    {l : List SessionId} (hl : l.Nodup) :
    (l.foldl f r).record? x = if x ∈ l then (r.record? x).bind g else r.record? x := by
  induction l generalizing r with
  | nil => simp
  | cons a l ih =>
    obtain ⟨ha, hl⟩ := List.nodup_cons.1 hl
    rw [List.foldl_cons, ih hl, hf]
    by_cases hx : a = x
    · subst hx
      simp [ha]
    · simp [hx, Ne.symm hx]

/-- What becomes of a record when the channel `c` is released. -/
theorem record?_releaseChannel :
    (r.releaseChannel now c).record? x = (r.record? x).bind (closeRecord now c false) := by
  unfold releaseChannel
  rw [record?_foldl (fun _ _ _ => record?_close) Table.nodup_keys]
  split
  · rfl
  · next h =>
    have hx : r.record? x = none := by
      cases hx : r.record? x with
      | none => rfl
      | some rec => exact absurd (Table.mem_keys.2 ⟨rec, hx⟩) h
    rw [hx, Option.bind_none]

/-! ### Sweeping -/

/-- What becomes of a record in a sweep. -/
def sweptRecord (closed : ChannelId → Bool) (window now : Nat) (rec : Record) : Option Record :=
  if isStale window now rec then none else some (refreshed closed now rec)

theorem record?_dropAll {l : List SessionId} :
    (r.dropAll l).1.record? x = if x ∈ l then none else r.record? x := by
  induction l generalizing r with
  | nil => simp [dropAll]
  | cons a l ih =>
    unfold dropAll
    simp only [ih, record?_drop, List.mem_cons]
    by_cases hx : a = x
    · simp [hx]
    · simp [hx, Ne.symm hx]

/-- The table of a sweep's first half: stale records are marked, the others refreshed. -/
def marked (closed : ChannelId → Bool) (window now : Nat) (r : Registry) : Registry :=
  { r with
    sessions := r.sessions.keys.foldl
      (fun t s => t.modify s (sweepRecord closed window now)) r.sessions }

theorem sweep_eq :
    r.sweep closed window now =
      ((r.staleSessions window now).length,
        (r.marked closed window now).dropAll (r.staleSessions window now)) := rfl

theorem record?_marked :
    (r.marked closed window now).record? x =
      (r.record? x).map (sweepRecord closed window now) :=
  Table.find?_foldl_modify_keys

theorem mem_staleSessions (named : ∀ x rec, r.record? x = some rec → rec.session = x) :
    x ∈ r.staleSessions window now ↔
      ∃ rec, r.record? x = some rec ∧ isStale window now rec = true := by
  unfold staleSessions records
  simp only [List.mem_map, List.mem_filter, Table.mem_values]
  constructor
  · rintro ⟨rec, ⟨⟨k, hk⟩, hs⟩, rfl⟩
    obtain rfl := named k rec hk
    exact ⟨rec, hk, hs⟩
  · rintro ⟨rec, hx, hs⟩
    exact ⟨rec, ⟨⟨x, hx⟩, hs⟩, named x rec hx⟩

/-- A sweep acts on every record by itself. -/
theorem record?_sweep (named : ∀ x rec, r.record? x = some rec → rec.session = x) :
    (r.sweep closed window now).2.1.record? x =
      (r.record? x).bind (sweptRecord closed window now) := by
  rw [sweep_eq, record?_dropAll, record?_marked]
  cases hx : r.record? x with
  | none => simp
  | some rec =>
    simp only [Option.map_some, Option.bind_some, sweptRecord, sweepRecord]
    by_cases hs : isStale window now rec = true
    · rw [if_pos ((mem_staleSessions named).2 ⟨rec, hx, hs⟩), if_pos hs]
    · rw [if_neg, if_neg hs, if_neg hs]
      rintro h
      obtain ⟨rec', hx', hs'⟩ := (mem_staleSessions named).1 h
      rw [hx] at hx'
      obtain rfl : rec = rec' := by simpa using hx'
      exact hs hs'

theorem mem_dropAll_snd {l : List SessionId} :
    c ∈ (r.dropAll l).2 ↔ ∃ x ∈ l, ∃ rec, r.record? x = some rec ∧ rec.channel = some c := by
  induction l generalizing r with
  | nil => simp [dropAll]
  | cons a l ih =>
    unfold dropAll
    simp only [List.mem_append, ih, drop_snd, record?_drop, Option.mem_toList, List.mem_cons,
      Option.bind_eq_some_iff]
    constructor
    · rintro (⟨rec, hr, hc⟩ | ⟨x, hx, rec, hr, hc⟩)
      · exact ⟨a, .inl rfl, rec, hr, hc⟩
      · split at hr
        · simp at hr
        · exact ⟨x, .inr hx, rec, hr, hc⟩
    · rintro ⟨x, hx, rec, hr, hc⟩
      by_cases hax : a = x
      · exact .inl ⟨rec, hax ▸ hr, hc⟩
      · exact .inr ⟨x, hx.resolve_left (Ne.symm hax), rec, by rw [if_neg hax, hr], hc⟩

/-- A sweep kicks the channels of the records it destroys. -/
theorem mem_sweep_snd (named : ∀ x rec, r.record? x = some rec → rec.session = x) :
    c ∈ (r.sweep closed window now).2.2 ↔
      ∃ x rec, r.record? x = some rec ∧ isStale window now rec = true ∧ rec.channel = some c := by
  rw [sweep_eq, mem_dropAll_snd]
  constructor
  · rintro ⟨x, hx, rec', hr', hc⟩
    obtain ⟨rec, hr, hs⟩ := (mem_staleSessions named).1 hx
    rw [record?_marked, hr, Option.map_some, Option.some.injEq, sweepRecord, if_pos hs] at hr'
    exact ⟨x, rec, hr, hs, by rw [← hc, ← hr']⟩
  · rintro ⟨x, rec, hr, hs, hc⟩
    refine ⟨x, (mem_staleSessions named).2 ⟨rec, hr, hs⟩, sweepRecord closed window now rec, ?_, ?_⟩
    · rw [record?_marked, hr, Option.map_some]
    · rw [sweepRecord, if_pos hs]
      exact hc

end DurableSession.Server.Registry
