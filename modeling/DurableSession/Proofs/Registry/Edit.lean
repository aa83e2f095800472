import DurableSession.Proofs.Registry.Challenge

/-!
Edits of a registry: every record by itself is replaced or goes, and with it the ownership of its
login, and at most one challenge is forgotten.

All operations of a registry but two are edits, of one session or of all of them: a claim enters a
record, and a primary authenticator that asks for a second factor adds a challenge. Main statements:
`edit_drop`, `edit_terminate`, `edit_setRecord` and `edit_close` for one session, and
`edit_releaseChannel` and `edit_sweep` for all.
-/

namespace DurableSession.Server.Registry

open Lifecycle (SessionId Token Failure Secret)
open Network (SocketAddress)

/-- **An edit**: `g` says what becomes of a session's record, and `gone` which challenge is
forgotten. -/
structure Edit (g : SessionId → Record → Option Record) (gone : Option Token) (r r' : Registry) :
    Prop where
  record : ∀ x, r'.record? x = (r.record? x).bind (g x)
  owner : ∀ login x, r'.ownerOf login = some x ↔
    r.ownerOf login = some x ∧ ∀ rec, r.record? x = some rec → rec.login = login → g x rec ≠ none
  challenge : ∀ t, r'.challenges.find? t = if gone = some t then none else r.challenges.find? t

/-- What becomes of a record when only the session `s` is edited. -/
def only (s : SessionId) (f : Record → Option Record) (x : SessionId) (rec : Record) :
    Option Record :=
  if s = x then f rec else some rec

variable {r r₁ r₂ : Registry} {s x : SessionId} {rec old : Record} {closed : ChannelId → Bool}
  {window now : Nat} {c : ChannelId} {g h : SessionId → Record → Option Record}
  {t gone : Option Token}

theorem only_self {f : Record → Option Record} : only s f s rec = f rec := if_pos rfl

theorem only_of_ne {f : Record → Option Record} (hne : s ≠ x) :
    only s f x rec = some rec := if_neg hne

/-! ### Edits in general -/

theorem Edit.unchanged (hg : ∀ x rec, r.record? x = some rec → g x rec = some rec) :
    Edit g none r r := by
  refine ⟨fun x => ?_, fun login x => ?_, fun t => ?_⟩
  · cases hx : r.record? x with
    | none => rfl
    | some rec => exact (hg x rec hx).symm
  · constructor
    · intro ho
      refine ⟨ho, fun rec hx _ => ?_⟩
      simp [hg x rec hx]
    · exact fun ho => ho.1
  · simp

theorem Edit.congr (he : Edit g gone r r₁)
    (hg : ∀ x rec, r.record? x = some rec → g x rec = h x rec) :
    Edit h gone r r₁ := by
  refine ⟨fun x => ?_, fun login x => ?_, he.challenge⟩
  · rw [he.record]
    cases hx : r.record? x with
    | none => rfl
    | some rec => exact hg x rec hx
  · rw [he.owner]
    refine and_congr_right fun _ => forall_congr' fun rec => ?_
    refine forall_congr' fun hx => ?_
    rw [hg x rec hx]

/-- One edit after another, if the first one keeps logins and the second one challenges. -/
theorem Edit.trans (he : Edit g gone r r₁) (he' : Edit h none r₁ r₂)
    (hlogin : ∀ x rec rec', g x rec = some rec' → rec'.login = rec.login) :
    Edit (fun x rec => (g x rec).bind (h x)) gone r r₂ := by
  refine ⟨fun x => ?_, fun login x => ?_, fun t => ?_⟩
  · rw [he'.record, he.record, Option.bind_assoc]
  · rw [he'.owner, he.owner, and_assoc]
    refine and_congr_right fun _ => ?_
    constructor
    · rintro ⟨hg, hh⟩ rec hx hl
      obtain ⟨rec', hrec'⟩ := Option.ne_none_iff_exists'.1 (hg rec hx hl)
      rw [hrec', Option.bind_some]
      refine hh rec' ?_ ((hlogin x rec rec' hrec').trans hl)
      rw [he.record, hx, Option.bind_some, hrec']
    · intro hgh
      refine ⟨fun rec hx hl hnone => hgh rec hx hl (by rw [hnone, Option.bind_none]),
        fun rec' hx' hl => ?_⟩
      rw [he.record] at hx'
      obtain ⟨rec, hx, hrec'⟩ := Option.bind_eq_some_iff.1 hx'
      have hne := hgh rec hx ((hlogin x rec rec' hrec').symm.trans hl)
      rwa [hrec', Option.bind_some] at hne
  · rw [he'.challenge, he.challenge, if_neg (by simp)]

theorem Edit.foldl {σ : Type} (registry : σ → Registry) {f : σ → SessionId → σ}
    {k : Record → Option Record} (hf : ∀ a s, Edit (only s k) none (registry a) (registry (f a s)))
    (hlogin : ∀ rec rec', k rec = some rec' → rec'.login = rec.login) {l : List SessionId}
    (hl : l.Nodup) (a : σ) :
    Edit (fun x rec => if x ∈ l then k rec else some rec) none (registry a)
      (registry (l.foldl f a)) := by
  induction l generalizing a with
  | nil => exact .unchanged fun x rec _ => if_neg List.not_mem_nil
  | cons s l ih =>
    obtain ⟨hs, hl⟩ := List.nodup_cons.1 hl
    refine ((hf a s).trans (ih hl (f a s)) fun x rec rec' hx => ?_).congr fun x rec _ => ?_
    · unfold only at hx
      split at hx
      · exact hlogin rec rec' hx
      · rw [Option.some.inj hx]
    · by_cases hx : s = x
      · subst hx
        rw [only_self, if_pos List.mem_cons_self]
        simp only [hs, if_false]
        exact Option.bind_fun_some _
      · rw [only_of_ne hx, Option.bind_some]
        simp [Ne.symm hx]

/-! ### One session -/

theorem edit_gone (hrecord : ∀ x, r₁.record? x = if s = x then none else r.record? x)
    (howner : ∀ login, r₁.ownerOf login = if (r.record? s).map Record.login = some login ∧
      r.ownerOf login = some s then none else r.ownerOf login)
    (hchallenge : ∀ t, r₁.challenges.find? t = if gone = some t then none
      else r.challenges.find? t) :
    Edit (only s fun _ => none) gone r r₁ := by
  refine ⟨fun x => ?_, fun login x => ?_, hchallenge⟩
  · rw [hrecord]
    by_cases hx : s = x
    · subst hx
      cases r.record? s <;> simp [only]
    · cases r.record? x <;> simp [only, hx]
  · rw [howner]
    by_cases hx : s = x
    · subst hx
      cases hs : r.record? s with
      | none => simp
      | some rec =>
        by_cases hl : rec.login = login <;> by_cases ho : r.ownerOf login =
          some s <;> simp [only, hl, ho]
    · constructor
      · intro ho
        split at ho
        · simp at ho
        · exact ⟨ho, fun rec _ _ => by simp [only, hx]⟩
      · rintro ⟨ho, -⟩
        rw [if_neg, ho]
        rintro ⟨-, hs⟩
        exact hx (Option.some.inj (hs.symm.trans ho))

theorem edit_drop :
    Edit (only s fun _ => none) ((r.record? s).bind fun rec => rec.state.token?) r
      (r.drop s).1 := by
  refine edit_gone (fun x => record?_drop) (fun login => ownerOf_drop) fun t => ?_
  unfold drop
  cases r.record? s with
  | none => simp
  | some rec =>
    dsimp only
    rw [Option.bind_some]
    unfold forgetChallenge
    cases rec.state.token? with
    | none => simp [challenges_releaseLogin]
    | some t' => simp [challenges_releaseLogin]

theorem edit_terminate : Edit (only s fun _ => none) none r (r.terminate s).1 := by
  refine edit_gone (fun x => record?_terminate) (fun login => ?_) fun t => ?_
  · have hlogin : ((r.markTerminated s).record? s).map Record.login =
        (r.record? s).map Record.login := by
      rw [record?_markTerminated, if_pos rfl, Option.map_map]
      rfl
    unfold terminate
    rw [ownerOf_drop, hlogin]
    rfl
  · rw [challenges_terminate]
    simp

theorem edit_setRecord (hs : r.record? s = some old) :
    Edit (only s fun _ => some rec) none r (r.setRecord s rec) := by
  refine ⟨fun x => ?_, fun login x => ?_, fun t => ?_⟩
  · rw [record?_setRecord]
    by_cases hx : s = x
    · subst hx
      simp [hs, only]
    · cases r.record? x <;> simp [only, hx]
  · have hkept : ∀ rec', only s (fun _ => some rec) x rec' ≠ none := by
      intro rec'
      unfold only
      split <;> simp
    constructor
    · exact fun ho => ⟨ho, fun rec' _ _ => hkept rec'⟩
    · exact fun ho => ho.1
  · simp

theorem edit_close {signedOff : Bool} :
    Edit (only s (closeRecord now c signedOff)) none r (r.close now c s signedOff) := by
  unfold close
  cases hs : r.record? s with
  | none =>
    refine .unchanged fun x rec hx => only_of_ne ?_
    rintro rfl
    simp [hs] at hx
  | some rec =>
    have hsame {f : Record → Option Record} (he : closeRecord now c signedOff rec = f rec)
      (x : SessionId)
        (rec' : Record) (hx : r.record? x = some rec') : only s f x rec' =
          only s (closeRecord now c signedOff) x rec' := by
      unfold only
      split
      · next heq =>
        subst heq
        obtain rfl := Option.some.inj (hs.symm.trans hx)
        exact he.symm
      · rfl
    dsimp only
    split
    · next hother =>
      refine .unchanged fun x rec' hx => ?_
      rw [← hsame (f := some) (if_pos hother) x rec' hx, only]
      split <;> rfl
    · next hbound =>
      split
      · next hover =>
          exact edit_terminate.congr (hsame (by rw [closeRecord, if_neg hbound, if_pos hover]))
      · next hover =>
          exact (edit_setRecord hs).congr (hsame (by rw [closeRecord, if_neg hbound, if_neg hover]))

/-! ### All sessions -/

theorem edit_releaseChannel :
    Edit (fun _ => closeRecord now c false) none r (r.releaseChannel now c) := by
  have hlogin : ∀ rec rec', closeRecord now c false rec = some rec' → rec'.login = rec.login := by
    intro rec rec' hrec
    unfold closeRecord at hrec
    split at hrec
    · rw [Option.some.inj hrec]
    · split at hrec
      · simp at hrec
      · rw [← Option.some.inj hrec]
        rfl
  refine (Edit.foldl id (fun r s => edit_close) hlogin Table.nodup_keys r).congr fun x rec hx => ?_
  exact if_pos (Table.mem_keys.2 ⟨rec, hx⟩)

theorem ownerOf_dropAll {l : List SessionId} {login : String} :
    (r.dropAll l).1.ownerOf login = some x ↔
      r.ownerOf login = some x ∧ ∀ rec, r.record? x = some rec → rec.login = login → x ∉ l := by
  induction l generalizing r with
  | nil => simp [dropAll]
  | cons a l ih =>
    show ((r.drop a).1.dropAll l).1.ownerOf login = some x ↔ _
    rw [ih, edit_drop.owner, and_assoc]
    refine and_congr_right fun _ => ?_
    rw [record?_drop]
    by_cases hx : a = x
    · subst hx
      simp [only]
    · simp [only, hx, Ne.symm hx]

theorem login_sweepRecord : (sweepRecord closed window now rec).login = rec.login := by
  unfold sweepRecord refreshed
  split
  · rfl
  · split <;> rfl

theorem edit_sweep (named : ∀ x rec, r.record? x = some rec → rec.session = x) :
    Edit (fun _ => sweptRecord closed window now) none r (r.sweep closed window now).2.1 := by
  refine ⟨fun x => record?_sweep named, fun login x => ?_, fun t => ?_⟩
  · rw [sweep_eq, ownerOf_dropAll]
    refine and_congr_right fun _ => ?_
    rw [record?_marked]
    cases hx : r.record? x with
    | none => simp
    | some rec =>
      have hstale : x ∈ r.staleSessions window now ↔ isStale window now rec = true := by
        rw [mem_staleSessions named]
        simp [hx]
      simp [login_sweepRecord, hstale, sweptRecord]
  · rw [challenge_sweep named, if_neg (by simp)]

end DurableSession.Server.Registry
