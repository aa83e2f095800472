import DurableSession.Proofs.Registry.Census
import DurableSession.Proofs.Server.Coherence

/-!
The registry stays regular.

Main statement: `regular_of_run`. Whatever is performed in whatever order, the table of records and
that of the owners of logins are inverse to each other, and the channel of a record fits its state.
-/

namespace DurableSession.Server

open Lifecycle (SessionId)

/-- **A regular registry**: records and logins lead to each other, no record is terminated, and a
record has a channel unless it waits to be resumed. -/
structure Registry.Regular (r : Registry) : Prop where
  owned : ∀ x rec, r.record? x = some rec → rec.session = x ∧ r.ownerOf rec.login = some x
  backed : ∀ login x, r.ownerOf login = some x → ∃ rec, r.record? x = some rec ∧ rec.login = login
  present : ∀ x rec, r.record? x = some rec → rec.state ≠ .terminated
  parted : ∀ x rec, r.record? x = some rec → rec.state = .reusable → rec.channel = none
  attended : ∀ x rec, r.record? x = some rec → rec.state.isPending = true ∨ rec.state = .active →
    ∃ c, rec.channel = some c
  alone : ∀ x y rec rec', r.record? x = some rec → r.record? y = some rec' →
    rec.login = rec'.login → x = y
  census : Metrics.gaugedStates.foldr (fun name n => r.countOf name + n) 0 = r.size

namespace Record.Settled

variable {rec : Record}

theorem present (h : rec.Settled) : rec.state ≠ .terminated := by
  intro hs
  simp [Settled, hs] at h

theorem parted (h : rec.Settled) (hs : rec.state = .reusable) : rec.channel = none := by
  simpa [Settled, hs] using h

theorem attended (h : rec.Settled) (hs : rec.state.isPending = true ∨ rec.state = .active) :
    ∃ c, rec.channel = some c := by
  refine Option.ne_none_iff_exists'.1 ?_
  cases hstate : rec.state with
  | pendingPrimary => simpa [Settled, hstate] using h
  | pendingSecondary t => simpa [Settled, hstate] using h
  | active => simpa [Settled, hstate] using h
  | reusable => simp [hstate, RecordState.isPending] at hs
  | terminated => simp [hstate, RecordState.isPending] at hs

end Record.Settled

theorem Coherent.regular {minted : SessionId → Prop} {s : State} (h : Coherent minted s) :
    s.registry.Regular where
  owned x rec hx := ⟨h.index.named x rec hx, h.index.owned x rec hx⟩
  backed := h.index.backed
  present x rec hx := (h.settled x rec hx).present
  parted x rec hx := (h.settled x rec hx).parted
  attended x rec hx := (h.settled x rec hx).attended
  alone _ _ _ _ hx hy := h.index.eq_of_login_eq hx hy
  census := Registry.sum_countOf fun x rec hx => (h.settled x rec hx).present

/-- **Every run** leaves the registry regular. -/
theorem regular_of_run {window : Nat} {ops : List Operation} (h : Run window ops) :
    (stateAfter window ops).registry.Regular :=
  (coherent_of_run h).regular

set_option maxRecDepth 10000 in
/-- The registry is regular, and holds one session, when Carol's connection is broken. -/
theorem regular_after_breakdown :
    Run 10 (Sample.signon ++ Sample.breakdown) ∧
      (stateAfter 10 (Sample.signon ++ Sample.breakdown)).registry.Regular ∧
      (stateAfter 10 (Sample.signon ++ Sample.breakdown)).registry.size = 1 := by
  have h : Run 10 (Sample.signon ++ Sample.breakdown) := by decide
  exact ⟨h, regular_of_run h, by decide⟩

end DurableSession.Server
