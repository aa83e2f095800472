import DurableSession.Proofs.Server.Challenges
import DurableSession.Proofs.Server.Denial
import DurableSession.Proofs.Server.Extinction

/-!
Challenges that outlive their records.

Where a record goes in the course of a signon, its challenge goes with it. Closing, kicking out and
sweeping mark a record as terminated before they take it out; its state does not name its challenge
any more then, and the challenge is left behind until somebody answers it. Main statement:
`challenge_iff_of_run`, these are the only challenges that nobody waits for. `challenge_left_behind`
has one for each of these operations.
-/

namespace DurableSession.Server

open Lifecycle (SessionId Token Failure Secret)

/-- The operation marks records as terminated before it takes them out. -/
def Operation.marks : Operation → Bool
  | .close _ _ _ | .release _ | .kickout _ | .kickoutAll | .sweep => true
  | _ => false

/-- The signon has brought a code to the secondary authenticator. -/
def Signon.verifies : Signon → Bool
  | ⟨.secondary _ _ _, .asking _ _⟩ => true
  | _ => false

/-- After `before`, when the session waited for a code, `op` has destroyed its record and left its
challenge, which nobody has answered since. -/
structure Orphaned (window : Nat) (before : List Operation) (op : Operation)
    (later : List Operation) (t : Token) (x : SessionId) : Prop where
  challenge : (stateAfter window before).registry.challenges.find? t = some x
  waiting : ∃ rec, (stateAfter window before).registry.record? x = some rec ∧
    rec.state = .pendingSecondary t
  marks : op.marks = true
  gone : (stateAfter window (before ++ [op])).registry.record? x = none
  unanswered : Throughout (fun s op => ¬ s.TakesUp t op) (stateAfter window (before ++ [op])) later

section Step

variable {minted : SessionId → Prop} {s : State} {op : Operation} {t : Token} {x : SessionId}
  {rec : Record}

theorem State.challenge_of_displaced (h : Coherent minted s) {id : SignonId} {fresh : SessionId}
    {secret : Secret} {c : ChannelId} (hf : s.registry.record? fresh = none)
    (hid : s.signons.find? id = some ⟨.primary rec.login secret c, .spawned⟩)
    (hx : s.registry.record? x = some rec) (hstate : rec.state = .pendingSecondary t)
    (hstale : rec.reclaimable s.closed = true) :
    (s.perform (.start id fresh)).registry.challenges.find? t = none := by
  have hne : fresh ≠ x := by
    rintro rfl
    simp [hf] at hx
  have hentered : (s.entered fresh rec.login c).record? x = some rec :=
    Registry.record?_entered.trans ((if_neg hne).trans hx)
  rw [start_stale hid hf (h.index.owned x rec hx) hx hstale]
  show ((s.entered fresh rec.login c).drop x).1.challenges.find? t = none
  rw [Registry.challenges_drop hentered]
  unfold Registry.forgetChallenge
  rw [hstate]
  exact (Table.find?_erase ..).trans (if_pos rfl)

/-- **When a record goes that waits for a code**, its challenge goes too, but for the operations
that mark it first. -/
theorem State.marks_of_destroyed (h : Coherent minted s) (hf : ∀ x ∈ op.mints?, ¬ minted x)
    (hx : s.registry.record? x = some rec) (ht : s.registry.challenges.find? t = some x)
    (why : Destroys s x rec op) (ht' : (s.perform op).registry.challenges.find? t = some x) :
    op.marks = true := by
  have hstate : rec.state = .pendingSecondary t := h.challenge t x rec ht hx
  cases why with
  | @displaced id fresh secret c signon stale =>
    have hfresh := h.record?_fresh hf fresh rfl
    simp [challenge_of_displaced h hfresh signon hx hstate stale] at ht'
  | @misanswered id fresh c t' code signon challenge =>
    -- the answer was to this challenge, which is the only one of the session
    have hstate' := h.challenge t' x rec challenge hx
    rw [hstate] at hstate'
    obtain rfl := RecordState.pendingSecondary.inj hstate'
    simp [challenge_start_secondary signon] at ht'
  | denied signon => exact absurd ⟨_, _, signon⟩ (h.unasked t x _ ht)
  | unverified signon => exact absurd ⟨_, _, signon⟩ (h.unasked t x _ ht)
  | expired state => simp [hstate] at state
  | _ => rfl

end Step

section Run

variable {window : Nat} {ops before later : List Operation} {op : Operation} {t : Token}
  {x : SessionId}

/-- Nobody else ever waits for the code that a session waits for. -/
theorem eq_of_waiting (hr : Run window (before ++ later)) {y : SessionId} {rec rec' : Record}
    (hx : (stateAfter window before).registry.record? x = some rec)
    (hstate : rec.state = .pendingSecondary t)
    (hy : (stateAfter window (before ++ later)).registry.record? y = some rec')
    (hstate' : rec'.state = .pendingSecondary t) : y = x := by
  obtain ⟨o, -, -, hsupports⟩ := (traced_of_run hr.of_append).record x rec hx
  obtain ⟨o', -, -, hsupports'⟩ := (traced_of_run hr).record y rec' hy
  simp only [Origin.Supports, hstate] at hsupports
  simp only [Origin.Supports, hstate'] at hsupports'
  exact hsupports'.2.unique hr hsupports.2.append

/-- A challenge that is left behind stays until somebody answers it. -/
theorem challenge_of_orphaned (hr : Run window (before ++ op :: later))
    (h : Orphaned window before op later t x) :
    (stateAfter window (before ++ op :: later)).registry.challenges.find? t = some x := by
  obtain ⟨hopen, ⟨rec, hx, hstate⟩, hmarks, hgone, hunanswered⟩ := h
  have hissued := (traced_of_run hr.of_append).issued t x hopen
  rw [List.append_cons] at hr ⊢
  have hminted : Minted (before ++ [op]) x := by
    obtain ⟨op', hop', hx'⟩ := (coherent_of_run hr.of_append.of_append).known x rec hx
    exact ⟨op', List.mem_append_left _ hop', hx'⟩
  induction later using List.reverseRecOn with
  | nil =>
    -- the operation that destroys the record is none that could end the challenge
    rw [List.append_nil] at hr ⊢
    obtain ⟨hbefore, hop⟩ := Run.snoc_iff.1 hr
    rw [stateAfter_snoc]
    refine State.challenge_kept (coherent_of_run hbefore) hop.2.1
      (fun he => hop.2.2 t he hissued) ?_ ?_ ?_ hopen
    · intro htakes
      cases op <;> simp [Operation.marks, State.TakesUp] at hmarks htakes
    · exact fun y rec' hy hstate' => eq_of_token hbefore hy hx hstate' hstate
    · rintro id fresh rfl
      simp [Operation.marks] at hmarks
  | append_singleton later op' ih =>
    rw [← List.append_assoc] at hr ⊢
    obtain ⟨hlater, hop'⟩ := Run.snoc_iff.1 hr
    obtain ⟨hunanswered, hanswer, -⟩ := throughout_append.1 hunanswered
    rw [← stateAfter_append] at hanswer
    have hkept := ih hlater hunanswered
    have hnone := gone_of_run hlater hminted hgone
    rw [stateAfter_snoc]
    refine State.challenge_kept (coherent_of_run hlater) hop'.2.1
      (fun he => hop'.2.2 t he ?_) hanswer ?_ ?_ hkept
    · exact (traced_of_run hlater).issued t x hkept
    · intro y rec' hy hstate'
      rw [List.append_assoc] at hlater hy
      exact eq_of_waiting hlater hx hstate hy hstate'
    · intro id fresh _ rec' hx'
      cases hnone.symm.trans hx'

/-- **An open challenge** is one that a session waits for, or one that was left behind. -/
theorem waiting_or_orphaned (hr : Run window ops)
    (ht : (stateAfter window ops).registry.challenges.find? t = some x) :
    (∃ rec, (stateAfter window ops).registry.record? x = some rec ∧
      rec.state = .pendingSecondary t) ∨
      ∃ before op later, ops = before ++ op :: later ∧ Orphaned window before op later t x := by
  induction hr with
  | nil => simp at ht
  | @snoc ops op hops ha ih =>
    have hcoherent := coherent_of_run hops
    have hafter := hcoherent.step ha
    rw [stateAfter_snoc] at ht ⊢
    cases hx' : ((stateAfter window ops).perform op).registry.record? x with
    | some rec => exact .inl ⟨rec, rfl, hafter.challenge t x rec ht hx'⟩
    | none =>
      right
      have hopen : (stateAfter window ops).registry.challenges.find? t = some x := by
        rcases State.challenge_perform hcoherent.index (hcoherent.record?_fresh ha.2.1) ht with
          hopen | ⟨id, login, secret, c, login', rec, rfl, hid, hrec, hstate⟩
        · exact hopen
        · rw [State.record?_of_needsSecondary hid hrec hstate] at hx'
          simp at hx'
      rcases ih hopen with ⟨rec, hx, hstate⟩ | ⟨before, op', later, rfl, horphaned⟩
      · have hfate := hcoherent.fate ha.2.1 x
        rw [hx, hx'] at hfate
        cases hfate with
        | destroyed why =>
          refine ⟨ops, op, [], rfl, hopen, ⟨rec, hx, hstate⟩, ?_, ?_, trivial⟩
          · exact State.marks_of_destroyed hcoherent ha.2.1 hx hopen why ht
          · rw [stateAfter_snoc]
            exact hx'
      · refine ⟨before, op', later ++
          [op], by simp, horphaned.challenge, horphaned.waiting, horphaned.marks,
          horphaned.gone, throughout_append.2 ⟨horphaned.unanswered, fun htakes => ?_, trivial⟩⟩
        rw [← stateAfter_append, ← List.append_cons] at htakes
        cases op with
        | start id fresh =>
          obtain ⟨c, code, hid⟩ := htakes
          simp [State.challenge_start_secondary hid] at ht
        | _ => exact htakes.elim

/-- **The open challenges** when no code is being verified: each of a session that waits for it, and
those that were left behind. -/
theorem challenge_iff_of_run (hr : Run window ops)
    (hidle : ∀ sg ∈ (stateAfter window ops).signons.values, sg.verifies = false) :
    (stateAfter window ops).registry.challenges.find? t = some x ↔
      (∃ rec, (stateAfter window ops).registry.record? x = some rec ∧
        rec.state = .pendingSecondary t) ∨
        ∃ before op later, ops = before ++ op :: later ∧ Orphaned window before op later t x := by
  refine ⟨waiting_or_orphaned hr, ?_⟩
  rintro (⟨rec, hx, hstate⟩ | ⟨before, op, later, rfl, horphaned⟩)
  · rcases challenge_of_waiting hr hx hstate with hopen | ⟨id, a, login, hid⟩
    · exact hopen
    · -- whoever asks about it verifies a code
      have hwaits := ((coherent_of_run hr).asking id a x login rec hid hx).1
      have hverifies := hidle _ (Table.mem_values.2 ⟨id, hid⟩)
      cases a with
      | primary => simp [hstate, Attempt.token?, Registry.waitingState] at hwaits
      | secondary => simp [Signon.verifies] at hverifies
  · exact challenge_of_orphaned hr horphaned

end Run

namespace Sample

/-- Carol has given her secret, and a code is awaited. -/
def challenged : List Operation := signon.take 4

/-- Her record while it is. -/
def unverified : Record := ⟨session, "carol", .pendingSecondary token, some client, address, 0, 0⟩

/-- Her record goes in the end, no code is being verified then, and the challenge is still there. -/
def LeavesChallenge (ending : List Operation) : Prop :=
  Run 10 (challenged ++ ending) ∧
    (∀ sg ∈ (stateAfter 10 (challenged ++ ending)).signons.values, sg.verifies = false) ∧
    (stateAfter 10 challenged).registry.record? session = some unverified ∧
    (stateAfter 10 (challenged ++ ending)).registry.record? session = none ∧
    (stateAfter 10 (challenged ++ ending)).registry.challenges.find? token = some session

instance decidableLeavesChallenge (ending : List Operation) : Decidable (LeavesChallenge ending) :=
  inferInstanceAs (Decidable (_ ∧ _ ∧ _ ∧ _ ∧ _))

end Sample

set_option maxRecDepth 10000 in
/-- **A challenge is left behind** by each operation that marks records first. -/
theorem challenge_left_behind :
    Sample.LeavesChallenge [.close Sample.client Sample.session false] ∧
      Sample.LeavesChallenge [.release Sample.client] ∧
        Sample.LeavesChallenge [.kickout Sample.session] ∧
      Sample.LeavesChallenge [.kickoutAll] ∧ Sample.LeavesChallenge [.advance 11, .sweep] := by
  decide

set_option maxRecDepth 10000 in
/-- Carol is kicked out while a code is awaited, and nobody waits for the code afterwards. -/
theorem carol_left_challenge :
    Run 10 (Sample.challenged ++ [.kickout Sample.session]) ∧
      ∃ before op later, Sample.challenged ++ [.kickout Sample.session] = before ++ op :: later ∧
        Orphaned 10 before op later Sample.token Sample.session := by
  have hr : Run 10 (Sample.challenged ++ [.kickout Sample.session]) := by decide
  have hidle :
    ∀ sg ∈ (stateAfter 10 (Sample.challenged ++ [.kickout Sample.session])).signons.values,
      sg.verifies = false := by decide
  have hgone : (stateAfter 10 (Sample.challenged ++ [.kickout Sample.session])).registry.record?
    Sample.session = none := by decide
  have hopen :
    (stateAfter 10 (Sample.challenged ++ [.kickout Sample.session])).registry.challenges.find?
      Sample.token = some Sample.session := by decide
  rcases (challenge_iff_of_run hr hidle).1 hopen with ⟨rec, hx, -⟩ | horphaned
  · cases hgone.symm.trans hx
  · exact ⟨hr, horphaned⟩

end DurableSession.Server
