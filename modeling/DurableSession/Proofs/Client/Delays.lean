import DurableSession.Proofs.Client.Turns
import DurableSession.Proofs.Timing.Delay

/-!
The delay before a connector tries to connect again.

Whenever a connector schedules a timer to reconnect, the delay is drawn from the range of the timing
in force, and every delay of that range is as likely as any other. Main statement: `fairly_delayed`.
-/

namespace DurableSession.Client

open Timing (DelayRange)

namespace Connector

variable {c c' : Connector} {m : Moment} {o : Option (Command × Signal)} {t : Timer}

/-- A timer to reconnect that a turn schedules waits for a delay from the range in force. -/
theorem Turn.delays (ht : Turn c m o c') (hnew : t ∈ c'.timers.running)
    (hold : t ∉ c.timers.running) (hkind : t.kind = .reconnect) : c.Delays t := by
  have hkept {l : List Timer} (h : t ∈ (c.timers.cancelAll l).running) : c.Delays t :=
    absurd (Timers.mem_running_cancelAll.1 h).1 hold
  cases ht with
  | idle aside =>
    cases aside
    exact absurd hnew hold
  | started | stopped | redialed | signedIn => exact absurd hnew hold
  | stopping | halted | abandoned => exact hkept hnew
  | failed _ _ _ scheduled delays =>
    rcases scheduled.mem_running.1 hnew with h | rfl
    · exact absurd h hold
    · exact delays
  | lost _ _ scheduled _ delays | misled _ _ scheduled _ delays =>
    rcases scheduled.mem_running.1 hnew with h | rfl
    · exact hkept h
    · exact delays
  | opened _ _ _ scheduled | pinged _ _ _ scheduled =>
    rcases scheduled.mem_running.1 hnew with h | rfl
    · exact absurd h hold
    · simp [scheduled.kind] at hkind
  | ponged _ _ _ scheduled =>
    rcases scheduled.mem_running.1 hnew with h | rfl
    · exact absurd (Timers.mem_running_cancel.1 h).1 hold
    · simp [scheduled.kind] at hkind

/-- **Fairly delayed**: delays are drawn from the range fairly, and a timer to reconnect that is
scheduled while the range is in force waits for one of them. -/
structure FairlyDelayed (r : DelayRange) : Prop extends r.Fair where
  scheduled : ∀ (u : Setup) (past : List Moment) (m : Moment) (t : Timer),
    t ∈ (u.after (past ++ [m])).timers.running → t ∉ (u.after past).timers.running →
      t.kind = .reconnect →
      (u.after past).policy.reconnectRange = r →
        t.deadline = (u.after past).now + (r.sample (u.after past).timers.words).1.toNat ∧
          (u.after past).now + r.lower.toNat ≤ t.deadline ∧
            t.deadline ≤ (u.after past).now + r.upper.toNat

theorem fairly_delayed (r : DelayRange) : FairlyDelayed r := by
  refine ⟨r.fair, ?_⟩
  rintro u past m t hnew hold hkind rfl
  have hdelays : (u.after past).Delays t := (turn_after u past m).delays hnew hold hkind
  obtain ⟨hlower, hupper⟩ := (DelayRange.fair _).within (u.after past).timers.words
  have hdeadline : t.deadline = _ := hdelays
  rw [UInt64.le_iff_toNat_le] at hlower hupper
  exact ⟨hdeadline, hdeadline ▸ Nat.add_le_add_left hlower _,
    hdeadline ▸ Nat.add_le_add_left hupper _⟩

end Connector

end DurableSession.Client
