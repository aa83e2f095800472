import DurableSession.Proofs.Registry.Challenge
import DurableSession.Proofs.Registry.Index

/-!
How a claim of a login ends, and what is left of a claim when the signon behind it is denied.

A claim depends on the owner of the login: there is none, or it can be reclaimed, or it stays. Main
statements: `claim_of_free`, `claim_of_stale` and `claim_of_kept` for the three cases, and
`drop_entered` and `drop_drop_entered`: when the claimed record goes again, the registry is what it
was, but for the record that was displaced.
-/

namespace DurableSession.Server.Registry

open Lifecycle (SessionId Token Failure)
open Network (SocketAddress)

variable {r : Registry} {closed : ChannelId → Bool} {now : Nat} {fresh old x : SessionId}
  {rec : Record} {login : String} {c : ChannelId} {remote : SocketAddress}

/-! ### The three cases of a claim -/

theorem claim_of_free (ho : r.ownerOf login = none) :
    r.claim closed now fresh login c remote = .ok (r.entered now fresh login c remote, none) := by
  unfold claim
  rw [ho]
  rfl

theorem claim_of_stale (ho : r.ownerOf login = some old) (hold : r.record? old = some rec)
    (hstale : rec.reclaimable closed = true) :
    r.claim closed now fresh login c remote =
      .ok ((r.entered now fresh login c remote).drop old) := by
  unfold claim
  simp only [ho, hold, Option.map_some, Option.getD_some, hstale, if_true]
  rfl

theorem claim_of_kept (ho : r.ownerOf login = some old) (hold : r.record? old = some rec)
    (hkept : rec.reclaimable closed = false) :
    r.claim closed now fresh login c remote = .error .sessionAlreadyExists := by
  unfold claim
  simp [ho, hold, hkept]

/-! ### Claims that are undone -/

theorem eq_of_tables {r' : Registry} (hsessions : r'.sessions = r.sessions)
    (hlogins : r'.logins = r.logins) (hchallenges : r'.challenges = r.challenges) : r' = r := by
  cases r
  cases r'
  simp_all

theorem sessions_drop : (r.drop x).1.sessions = r.sessions.erase x := by
  have hforget (r : Registry) (state : RecordState) : (r.forgetChallenge state).sessions =
      r.sessions := by
    unfold forgetChallenge
    split <;> rfl
  have hrelease (r : Registry) (login : String) : (r.releaseLogin login x).sessions =
      r.sessions := by
    unfold releaseLogin
    split <;> rfl
  unfold drop
  cases hx : r.record? x with
  | none => exact (Table.erase_of_find?_eq_none hx).symm
  | some rec => exact (hforget _ _).trans (hrelease _ _)

theorem logins_drop (hx : r.record? x = some rec) :
    (r.drop x).1.logins = if r.ownerOf rec.login = some x then r.logins.erase rec.login
      else r.logins := by
  have hforget (r : Registry) (state : RecordState) : (r.forgetChallenge state).logins =
      r.logins := by
    unfold forgetChallenge
    split <;> rfl
  unfold drop
  rw [hx]
  refine (hforget _ _).trans ?_
  unfold releaseLogin ownerOf
  dsimp only
  split <;> rfl

theorem challenges_drop (hx : r.record? x = some rec) :
    (r.drop x).1.challenges = (r.forgetChallenge rec.state).challenges := by
  unfold drop
  rw [hx]
  dsimp only
  unfold forgetChallenge
  cases rec.state.token? with
  | none => exact challenges_releaseLogin
  | some t => exact congrArg (Table.erase · t) challenges_releaseLogin

/-- A claim of a free login leaves nothing when its record goes. -/
theorem drop_entered (hf : r.record? fresh = none) (ho : r.ownerOf login = none) :
    ((r.entered now fresh login c remote).drop fresh).1 = r := by
  have hrec : (r.entered now fresh login c remote).record? fresh =
      some (Record.pending fresh login c remote now) :=
    record?_entered.trans (if_pos rfl)
  have howner : (r.entered now fresh login c remote).ownerOf login = some fresh :=
    ownerOf_entered.trans (if_pos rfl)
  refine eq_of_tables ?_ ?_ ?_
  · rw [sessions_drop]
    exact Table.erase_insert.trans (Table.erase_of_find?_eq_none hf)
  · rw [logins_drop hrec]
    refine (if_pos howner).trans ?_
    exact Table.erase_insert.trans (Table.erase_of_find?_eq_none ho)
  · rw [challenges_drop hrec]
    rfl

/-- A claim that has displaced a record leaves, when its own record goes, what displacing alone
would. -/
theorem drop_drop_entered (hi : r.Indexed) (hf : r.record? fresh = none)
    (ho : r.ownerOf login = some old) (hold : r.record? old = some rec) :
    (((r.entered now fresh login c remote).drop old).1.drop fresh).1 = (r.drop old).1 := by
  have hne : fresh ≠ old := by
    rintro rfl
    simp [hf] at hold
  have hlogin : rec.login = login := by
    obtain ⟨rec', hold', hlogin⟩ := hi.backed login old ho
    obtain rfl := Option.some.inj (hold.symm.trans hold')
    exact hlogin
  have hold' : (r.entered now fresh login c remote).record? old = some rec :=
    record?_entered.trans ((if_neg hne).trans hold)
  have hkeeps : ((r.entered now fresh login c remote).drop old).1.logins =
      (r.entered now fresh login c remote).logins := by
    rw [logins_drop hold', if_neg]
    rw [ownerOf_entered, if_pos hlogin.symm, Option.some.injEq]
    exact hne
  have hrec : ((r.entered now fresh login c remote).drop old).1.record? fresh =
      some (Record.pending fresh login c remote now) := by
    rw [record?_drop, if_neg hne.symm, record?_entered, if_pos rfl]
  have howner : ((r.entered now fresh login c remote).drop old).1.ownerOf login = some fresh := by
    unfold ownerOf
    rw [hkeeps]
    exact ownerOf_entered.trans (if_pos rfl)
  refine eq_of_tables ?_ ?_ ?_
  · rw [sessions_drop, sessions_drop, sessions_drop, Table.erase_comm]
    have hgone : (r.entered now fresh login c remote).sessions.erase fresh = r.sessions :=
      Table.erase_insert.trans (Table.erase_of_find?_eq_none hf)
    rw [hgone]
  · rw [logins_drop hrec]
    refine (if_pos howner).trans ?_
    rw [hkeeps, logins_drop hold, hlogin, if_pos ho]
    exact Table.erase_insert
  · rw [challenges_drop hrec]
    show ((r.entered now fresh login c remote).drop old).1.challenges = (r.drop old).1.challenges
    rw [challenges_drop hold', challenges_drop hold]
    unfold forgetChallenge
    cases rec.state.token? <;> rfl

end DurableSession.Server.Registry
