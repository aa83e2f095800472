import DurableSession.Proofs.Client.Turns

/-!
Nobody who waits for a connector is left hanging or told too early.

A command that is granted returns a handle, which completes when the start or the stop is done. A
handle is passed from snapshot to snapshot until then. Main statements: `Owing.snoc` and
`waiters_after`.
-/

namespace DurableSession.Client.Connector

variable {c c' : Connector} {m : Moment} {o : Option (Command × Signal)}
  {past before since : List Moment} {u : Setup} {k : Command} {s : Signal} {id : SignalId}

/-- The connector is where a start leads to: signed in, or connected to a server that requires no
signon. -/
def Arrived (c : Connector) : Prop :=
  c.snapshot.status = .signedIn ∨
    c.snapshot.status = .connected ∧ ∃ d, c.snapshot.parts.descriptor = some d ∧
      d.authenticationRequired = false

/-- The connector arrived at some moment since the start that came after `before`. -/
def ArrivedSince (u : Setup) (before since : List Moment) : Prop :=
  ∃ between, between <+: since ∧ (u.after (before ++ .command .start :: between)).Arrived

def Completes (completed : List SignalId) (handles : List (Command × Signal)) : Prop :=
  ∀ h ∈ handles, h.2.isComplete completed = true

/-- The handle `s` was the last one to be returned, by the command between `before` and `since`, and
those that were returned earlier are complete. -/
structure Latest (u : Setup) (past before since : List Moment) (k : Command) (s : Signal) :
    Prop where
  split : past = before ++ .command k :: since
  granted : (u.after before).returned? (.command k) = some (k, s)
  last : (u.after (before ++ [.command k])).returned since = []
  earlier : Completes (u.after past).completed (u.connector.returned before)

/-- **Nobody waits for nothing**: all handles are complete when the connector has stopped, and all
but that of the stop when it stops. Until then the handle of the start is complete once the
connector has arrived, and so are all earlier ones. -/
structure Waiters (u : Setup) (past : List Moment) : Prop where
  stopped : (u.after past).snapshot.status = .stopped →
    Completes (u.after past).completed (u.connector.returned past)
  stopping : (u.after past).snapshot.status = .stopping →
    ∃ before since k s, Latest u past before since k s ∧
    (k = .stop ∨ k = .signoff) ∧ s.isComplete (u.after past).completed = false
  started : (u.after past).snapshot.status ∈ [.connecting, .connected, .signedIn] →
    ∃ before since s, Latest u past before since .start s ∧
      (s.isComplete (u.after past).completed = true ↔ ArrivedSince u before since)

/-! ### Signals -/

/-- The signals of the connector: those of the snapshot, and the one that has just been made. -/
def Signals (c c' : Connector) (id : SignalId) : Prop :=
  c.snapshot.parts.start = some (.awaited id) ∨ c.snapshot.parts.stop = some (.awaited id) ∨
    id = ⟨c.nextSignal⟩ ∧ c'.nextSignal = c.nextSignal + 1

/-- **What a turn does to signals**: what is complete stays complete, and the connector has no
signals but those that it had and the one that it makes. -/
theorem Turn.signals (ht : Turn c m o c') :
    c.nextSignal ≤ c'.nextSignal ∧ (∀ id ∈ c.completed, id ∈ c'.completed) ∧
      (∀ id ∈ c'.completed, id ∈ c.completed ∨ Signals c c' id) ∧
        ∀ id, c'.snapshot.parts.start = some (.awaited id) ∨ c'.snapshot.parts.stop =
          some (.awaited id) →
          Signals c c' id := by
  have hsame {snapshot : Snapshot LinkId} (hstart : snapshot.parts.start = c.snapshot.parts.start)
      (hstop : snapshot.parts.stop = c.snapshot.parts.stop) (id : SignalId)
      (h : snapshot.parts.start = some (.awaited id) ∨ snapshot.parts.stop = some (.awaited id)) :
      Signals c c' id := by
    rw [hstart, hstop] at h
    exact h.imp_right .inl
  have hmarks {signals : List Signal} {completed : List SignalId}
    (h : Marks c.completed signals completed)
      (hsignals : ∀ id, .awaited id ∈ signals → Signals c c' id) :
      (∀ id ∈ c.completed, id ∈ completed) ∧ ∀ id ∈ completed, id ∈ c.completed ∨
        Signals c c' id := by
    constructor
    · intro id hid
      exact (h id).2 (.inl hid)
    · intro id hid
      exact ((h id).1 hid).imp_right (hsignals id)
  cases ht with
  | idle aside =>
    cases aside
    exact ⟨Nat.le_refl _, fun id hid => hid, fun id hid => .inl hid, hsame rfl rfl⟩
  | started status parts =>
    refine ⟨Nat.le_succ _, fun id hid => hid, fun id hid => .inl hid, ?_⟩
    intro id hid
    exact .inr (.inr ⟨by simpa [parts, eq_comm] using hid, rfl⟩)
  | stopping _ _ _ parts marks =>
    obtain ⟨hkept, hnew⟩ := hmarks marks fun id hid => .inl (by simpa using hid)
    refine ⟨Nat.le_succ _, hkept, hnew, ?_⟩
    intro id hid
    exact .inr (.inr ⟨by simpa [parts, eq_comm] using hid, rfl⟩)
  | halted _ _ parts marks =>
    obtain ⟨hkept, hnew⟩ := hmarks marks fun id hid => by
      rw [List.mem_append, Option.mem_toList, List.mem_singleton, Signal.awaited.injEq] at hid
      exact hid.imp_right fun he => .inr ⟨he, rfl⟩
    refine ⟨Nat.le_succ _, hkept, hnew, ?_⟩
    intro id hid
    exact .inr (.inr ⟨by simpa [parts, eq_comm] using hid, rfl⟩)
  | @abandoned s stop completed more status signal parts marks =>
    have hstop (id : SignalId) (he : stop = .awaited id) : c.snapshot.parts.stop =
        some (.awaited id) := by
      cases hs : c.snapshot.parts.stop with
      | none => simp [hs, he] at signal
      | some s => simpa [hs, he] using signal
    obtain ⟨hkept, hnew⟩ := hmarks marks fun id hid => by
      rw [List.mem_append, Option.mem_toList, List.mem_singleton] at hid
      exact hid.imp_right fun he => .inl (hstop id he.symm)
    refine ⟨Nat.le_refl _, hkept, hnew, ?_⟩
    intro id hid
    exact .inr (.inl (hstop id (by simpa [parts] using hid)))
  | stopped status signal parts marks =>
    obtain ⟨hkept, hnew⟩ := hmarks marks fun id hid =>
      .inr (.inl (by simpa [signal, eq_comm] using hid))
    exact ⟨Nat.le_refl _, hkept, hnew, hsame (by simp [parts]) (by simp [parts])⟩
  | @opened d server s timer timers completed more dial status parts scheduled marks =>
    obtain ⟨hkept, hnew⟩ := hmarks marks fun id hid => .inl (by
      split at hid
      · simp at hid
      · simpa using hid)
    exact ⟨Nat.le_refl _, hkept, hnew, hsame (by simp [parts]) (by simp [parts])⟩
  | signedIn status parts marks =>
    obtain ⟨hkept, hnew⟩ := hmarks marks fun id hid => .inl (by simpa using hid)
    exact ⟨Nat.le_refl _, hkept, hnew, hsame (by simp [parts]) (by simp [parts])⟩
  | failed _ _ parts | lost _ parts | pinged _ _ parts | ponged _ _ parts =>
    exact ⟨Nat.le_refl _, fun id hid => hid, fun id hid => .inl hid,
      hsame (by simp [parts]) (by simp [parts])⟩
  | redialed | misled =>
    exact ⟨Nat.le_refl _, fun id hid => hid, fun id hid => .inl hid, hsame rfl rfl⟩

/-- Signals were made before `nextSignal`. -/
structure Made (c : Connector) : Prop where
  completed : ∀ id ∈ c.completed, id.number < c.nextSignal
  held : ∀ id, c.snapshot.parts.start = some (.awaited id) ∨ c.snapshot.parts.stop =
    some (.awaited id) → id.number < c.nextSignal

theorem Made.turn (h : Made c) (ht : Turn c m o c') : Made c' := by
  obtain ⟨hnext, -, hcompleted, hheld⟩ := ht.signals
  have hsignals (id : SignalId) (hid : Signals c c' id) : id.number < c'.nextSignal := by
    rcases hid with hid | hid | ⟨rfl, hmade⟩
    · have hlt := h.held id (.inl hid)
      omega
    · have hlt := h.held id (.inr hid)
      omega
    · simp [hmade]
  constructor
  · intro id hid
    rcases hcompleted id hid with hid | hid
    · have hlt := h.completed id hid
      omega
    · exact hsignals id hid
  · intro id hid
    exact hsignals id (hheld id hid)

theorem made_after (u : Setup) (past : List Moment) : Made (u.after past) := by
  induction past using List.reverseRecOn with
  | nil => constructor <;> simp [Setup.after, Setup.connector, Snapshot.initial]
  | append_singleton past m ih => exact ih.turn (turn_after u past m)

/-! ### The last handle -/

section Latest

theorem isComplete_awaited {completed : List SignalId} :
    (Signal.awaited id).isComplete completed = true ↔ id ∈ completed := by
  simp [Signal.isComplete]

theorem Completes.mono {completed completed' : List SignalId} {handles : List (Command × Signal)}
    (h : Completes completed handles) (hsub : ∀ id ∈ completed, id ∈ completed') :
    Completes completed' handles := by
  intro handle hmem
  have hcomplete := h handle hmem
  cases hs : handle.2 with
  | settled => rfl
  | awaited id =>
    rw [hs, isComplete_awaited] at hcomplete
    exact isComplete_awaited.2 (hsub id hcomplete)

theorem completes_append {completed : List SignalId} {l l' : List (Command × Signal)} :
    Completes completed (l ++ l') ↔ Completes completed l ∧ Completes completed l' := by
  simp only [Completes, List.forall_mem_append]

theorem completes_singleton {completed : List SignalId} :
    Completes completed [(k, s)] ↔ s.isComplete completed = true := by
  simp [Completes]

theorem completed_after (u : Setup) (past : List Moment) (m : Moment) :
    ∀ id ∈ (u.after past).completed, id ∈ (u.after (past ++ [m])).completed :=
  (turn_after u past m).signals.2.1

theorem returned_after : u.connector.returned (past ++ [m]) =
    u.connector.returned past ++ ((u.after past).returned? m).toList :=
  returned_snoc

theorem Latest.returned (h : Latest u past before since k s) :
    u.connector.returned past = u.connector.returned before ++ [(k, s)] := by
  have hsplit : past = (before ++ [.command k]) ++ since := by simp [h.split]
  rw [hsplit, returned_append, returned_after, h.granted]
  have hlast : (u.after (before ++ [.command k])).returned since = [] := h.last
  unfold Setup.after at hlast
  rw [hlast]
  simp

theorem Latest.completes {completed : List SignalId}
    (h : Latest u past before since k (.awaited id))
    (hkept : ∀ id ∈ (u.after past).completed, id ∈ completed) (hid : id ∈ completed) :
    Completes completed (u.connector.returned past) := by
  rw [h.returned, completes_append, completes_singleton, isComplete_awaited]
  exact ⟨h.earlier.mono hkept, hid⟩

theorem Latest.snoc (h : Latest u past before since k s)
    (hnone : (u.after past).returned? m = none) :
    Latest u (past ++ [m]) before (since ++ [m]) k s where
  split := by simp [h.split]
  granted := h.granted
  last := by
    have hafter : since.foldl step (u.after (before ++ [.command k])) = u.after past := by
      unfold Setup.after
      rw [← List.foldl_append, h.split, List.append_assoc, List.singleton_append]
    rw [returned_snoc, h.last, hafter, hnone]
    rfl
  earlier := h.earlier.mono (completed_after u past m)

theorem Latest.begin (hk : (u.after past).returned? (.command k) = some (k, s))
    (h : Completes (u.after (past ++ [.command k])).completed (u.connector.returned past)) :
    Latest u (past ++ [.command k]) past [] k s where
  split := rfl
  granted := hk
  last := rfl
  earlier := h

end Latest

/-! ### Runs -/

theorem arrivedSince_snoc (hpast : past = before ++ .command .start :: since) :
    ArrivedSince u before (since ++ [m]) ↔ ArrivedSince u before since ∨
      (u.after (past ++ [m])).Arrived := by
  have hnow : before ++ .command .start :: (since ++ [m]) = past ++ [m] := by simp [hpast]
  constructor
  · rintro ⟨between, hbetween, harrived⟩
    rcases List.prefix_concat_iff.1 hbetween with rfl | hbetween
    · exact .inr (hnow ▸ harrived)
    · exact .inl ⟨between, hbetween, harrived⟩
  · rintro (⟨between, hbetween, harrived⟩ | harrived)
    · exact ⟨between, hbetween.trans (List.prefix_append _ _), harrived⟩
    · exact ⟨since ++ [m], List.prefix_refl _, hnow.symm ▸ harrived⟩

/-- What a run owes to those who wait: the snapshot has the signal that they wait for. -/
structure Owing (u : Setup) (past : List Moment) : Prop where
  stopped : (u.after past).snapshot.status = .stopped →
    Completes (u.after past).completed (u.connector.returned past)
  stopping : (u.after past).snapshot.status = .stopping → ∃ before since k id,
    Latest u past before since k (.awaited id) ∧ (k = .stop ∨ k = .signoff) ∧
      (u.after past).snapshot.parts.stop = some (.awaited id) ∧ id ∉ (u.after past).completed
  started : (u.after past).snapshot.status = .connecting ∨ (u.after past).snapshot.Attached →
    ∃ before since id, Latest u past before since .start (.awaited id) ∧
      (u.after past).snapshot.parts.start = some (.awaited id) ∧
      (id ∈ (u.after past).completed ↔ ArrivedSince u before since)

theorem Owing.of_stopped (hs : (u.after past).snapshot.status = .stopped)
    (h : Completes (u.after past).completed (u.connector.returned past)) : Owing u past :=
  ⟨fun _ => h, by simp [hs], by simp [Snapshot.Attached, hs]⟩

theorem Owing.of_stopping (hs : (u.after past).snapshot.status = .stopping)
    (hl : Latest u past before since k (.awaited id)) (hk : k = .stop ∨ k = .signoff)
    (hstop : (u.after past).snapshot.parts.stop = some (.awaited id))
    (hid : id ∉ (u.after past).completed) :
    Owing u past :=
  ⟨by simp [hs], fun _ => ⟨before, since, k, id, hl, hk, hstop, hid⟩,
    by simp [Snapshot.Attached, hs]⟩

theorem Owing.of_started
    (hs : (u.after past).snapshot.status = .connecting ∨ (u.after past).snapshot.Attached)
    (hl : Latest u past before since .start (.awaited id))
    (hstart : (u.after past).snapshot.parts.start = some (.awaited id))
    (hid : id ∈ (u.after past).completed ↔ ArrivedSince u before since) : Owing u past := by
  have hne : (u.after past).snapshot.status ≠ .stopped ∧
      (u.after past).snapshot.status ≠ .stopping := by
    rcases hs with hs | hs
    · simp [hs]
    · exact ⟨hs.ne_stopped, hs.ne_stopping⟩
  refine ⟨?_, ?_, ?_⟩
  · intro hstopped
    exact absurd hstopped hne.1
  · intro hstopping
    exact absurd hstopping hne.2
  · intro _
    exact ⟨before, since, id, hl, hstart, hid⟩

theorem status_cases (c : Connector) : c.snapshot.status = .stopped ∨
    c.snapshot.status = .stopping ∨ c.snapshot.status = .connecting ∨ c.snapshot.Attached := by
  cases hstatus : c.snapshot.status <;> simp [Snapshot.Attached, hstatus]

theorem Owing.snoc_stopping (h : Owing u past) (hs : (u.after past).snapshot.status = .stopping)
    (hnone : (u.after past).returned? m = none)
    (hsnapshot : (u.after (past ++ [m])).snapshot = (u.after past).snapshot)
    (hcompleted : (u.after (past ++ [m])).completed = (u.after past).completed) :
    Owing u (past ++ [m]) := by
  obtain ⟨before, since, k, id, hl, hk, hstop, hid⟩ := h.stopping hs
  exact .of_stopping (by rw [hsnapshot, hs]) (hl.snoc hnone) hk (by rw [hsnapshot, hstop])
    (by rwa [hcompleted])

/-- While nothing is returned, a start goes on waiting until the connector arrives. -/
theorem Owing.snoc_started (h : Owing u past)
    (hs : (u.after past).snapshot.status = .connecting ∨ (u.after past).snapshot.Attached)
    (hnone : (u.after past).returned? m = none)
    (hs' : (u.after (past ++ [m])).snapshot.status = .connecting ∨
      (u.after (past ++ [m])).snapshot.Attached)
    (hstart : (u.after (past ++ [m])).snapshot.parts.start = (u.after past).snapshot.parts.start)
    (hcompleted : ∀ id, (u.after past).snapshot.parts.start = some (.awaited id) →
      (id ∈ (u.after (past ++ [m])).completed ↔ id ∈ (u.after past).completed ∨
      (u.after (past ++ [m])).Arrived)) : Owing u (past ++ [m]) := by
  obtain ⟨before, since, id, hl, hheld, hid⟩ := h.started hs
  refine .of_started hs' (hl.snoc hnone) (hstart.trans hheld) ?_
  rw [hcompleted id hheld, hid, arrivedSince_snoc hl.split]

theorem Owing.snoc_kept (h : Owing u past)
    (hs : (u.after past).snapshot.status = .connecting ∨ (u.after past).snapshot.Attached)
    (hnone : (u.after past).returned? m = none)
    (hs' : (u.after (past ++ [m])).snapshot.status = .connecting ∨
      (u.after (past ++ [m])).snapshot.Attached)
    (hstart : (u.after (past ++ [m])).snapshot.parts.start = (u.after past).snapshot.parts.start)
    (hcompleted : (u.after (past ++ [m])).completed = (u.after past).completed)
    (harrived : (u.after (past ++ [m])).Arrived → (u.after past).Arrived) :
    Owing u (past ++ [m]) := by
  refine h.snoc_started hs hnone hs' hstart ?_
  intro id hheld
  obtain ⟨before, since, id', hl, hheld', hid⟩ := h.started hs
  obtain rfl : id = id' := by simpa [hheld] using hheld'
  rw [hcompleted]
  constructor
  · exact .inl
  · rintro (hmem | harrived')
    · exact hmem
    -- it had arrived before
    · exact hid.2 ⟨since, List.prefix_refl _, hl.split ▸ harrived harrived'⟩

/-- All handles are complete once a start is, or a stop that waits. -/
theorem Owing.completes (h : Owing u past) {completed : List SignalId}
    (hs : (u.after past).snapshot.status ≠ .stopped)
    (hkept : ∀ id ∈ (u.after past).completed, id ∈ completed)
    (hdone : ∀ id, (u.after past).snapshot.parts.start = some (.awaited id) ∨
      (u.after past).snapshot.parts.stop = some (.awaited id) → id ∈ completed) :
    Completes completed (u.connector.returned past) := by
  rcases (u.after past).status_cases with hstopped | hstopping | hstarted
  · exact absurd hstopped hs
  · obtain ⟨before, since, k, id, hl, -, hstop, -⟩ := h.stopping hstopping
    exact hl.completes hkept (hdone id (.inr hstop))
  · obtain ⟨before, since, id, hl, hstart, -⟩ := h.started hstarted
    exact hl.completes hkept (hdone id (.inl hstart))

/-- A moment that stops the connector completes whatever is waited for. -/
theorem Owing.snoc_stopped (h : Owing u past) (hs : (u.after past).snapshot.status ≠ .stopped)
    (hs' : (u.after (past ++ [m])).snapshot.status = .stopped) {signals : List Signal}
    (hmarks : Marks (u.after past).completed signals (u.after (past ++ [m])).completed)
    (hheld : ∀ id, (u.after past).snapshot.parts.start = some (.awaited id) ∨
      (u.after past).snapshot.parts.stop = some (.awaited id) → .awaited id ∈ signals)
    (hnew : ∀ handle ∈ (u.after past).returned? m, handle.2 ∈ signals) : Owing u (past ++ [m]) := by
  refine .of_stopped hs' ?_
  rw [returned_after, completes_append]
  constructor
  · refine h.completes hs (completed_after u past m) ?_
    intro id hid
    exact (hmarks id).2 (.inr (hheld id hid))
  · intro handle hmem
    have hsignal := hnew handle (Option.mem_toList.1 hmem)
    cases hs : handle.2 with
    | settled => rfl
    | awaited id =>
      rw [hs] at hsignal
      exact isComplete_awaited.2 ((hmarks id).2 (.inr hsignal))

theorem Owing.snoc_aside (h : Owing u past) (hnone : (u.after past).returned? m = none)
    (hsnapshot : (u.after (past ++ [m])).snapshot = (u.after past).snapshot)
    (hcompleted : (u.after (past ++ [m])).completed = (u.after past).completed) :
    Owing u (past ++ [m]) := by
  rcases (u.after past).status_cases with hstopped | hstopping | hstarted
  · refine .of_stopped (by rw [hsnapshot, hstopped]) ?_
    rw [returned_after, hnone, hcompleted]
    simpa using h.stopped hstopped
  · exact h.snoc_stopping hstopping hnone hsnapshot hcompleted
  · refine h.snoc_kept hstarted hnone (by rwa [hsnapshot]) (by rw [hsnapshot]) hcompleted ?_
    unfold Arrived
    rw [hsnapshot]
    exact fun harrived => harrived

/-- A start of a connector that was stopped is the only one that waits. -/
theorem Owing.snoc_start (h : Owing u past) (hs : (u.after past).snapshot.status = .stopped)
    (hgranted : (u.after past).returned? (.command .start) = some (.start, .awaited id))
    (hs' : (u.after (past ++ [.command .start])).snapshot.status = .connecting)
    (hstart : (u.after (past ++ [.command .start])).snapshot.parts.start = some (.awaited id))
    (hcompleted : (u.after (past ++ [.command .start])).completed = (u.after past).completed)
    (hfresh : id ∉ (u.after past).completed) : Owing u (past ++ [.command .start]) := by
  have hwaits : ¬ ArrivedSince u past [] := by
    rintro ⟨between, hbetween, harrived⟩
    obtain rfl := List.prefix_nil.1 hbetween
    simp [Arrived, hs'] at harrived
  have hlatest : Latest u (past ++ [.command .start]) past [] .start (.awaited id) :=
    .begin hgranted (by rw [hcompleted]; exact h.stopped hs)
  exact .of_started (.inl hs') hlatest hstart (iff_of_false (by rwa [hcompleted]) hwaits)

/-- A stop of a connector that is attached completes the start, and waits. -/
theorem Owing.snoc_stop (h : Owing u past) (hs : (u.after past).snapshot.Attached)
    (hk : k = .stop ∨ k = .signoff)
    (hgranted : (u.after past).returned? (.command k) = some (k, .awaited id))
    (hs' : (u.after (past ++ [.command k])).snapshot.status = .stopping)
    (hstop : (u.after (past ++ [.command k])).snapshot.parts.stop = some (.awaited id))
    (hmarks : Marks (u.after past).completed (u.after past).snapshot.parts.start.toList
      (u.after (past ++ [.command k])).completed)
    (hfresh : id ∉ (u.after past).completed ∧
      (u.after past).snapshot.parts.start ≠ some (.awaited id)) :
    Owing u (past ++ [.command k]) := by
  have hnone : (u.after past).snapshot.parts.stop = none := (Snapshot.attached_parts hs).2.1
  have hearlier : Completes (u.after (past ++ [.command k])).completed
      (u.connector.returned past) := by
    refine h.completes hs.ne_stopped (completed_after u past (.command k)) ?_
    rintro id' (hstart | hstop')
    · exact (hmarks id').2 (.inr (by simp [hstart]))
    · simp [hnone] at hstop'
  refine .of_stopping hs' (.begin hgranted hearlier) hk hstop ?_
  rw [hmarks id, Option.mem_toList, not_or]
  exact hfresh

theorem Owing.snoc_opened (h : Owing u past) {server : Handshake.Descriptor}
    (hs : (u.after past).snapshot.status = .connecting)
    (hnone : (u.after past).returned? m = none)
    (hs' : (u.after (past ++ [m])).snapshot.status = .connected)
    (hserver : (u.after (past ++ [m])).snapshot.parts.descriptor = some server)
    (hstart : (u.after (past ++ [m])).snapshot.parts.start = (u.after past).snapshot.parts.start)
    (hmarks : Marks (u.after past).completed
      (if server.authenticationRequired then [] else (u.after past).snapshot.parts.start.toList)
      (u.after (past ++ [m])).completed) : Owing u (past ++ [m]) := by
  refine h.snoc_started (.inl hs) hnone (.inr (.inl hs')) hstart ?_
  intro id hheld
  rw [hmarks id]
  cases hneeded : server.authenticationRequired <;> simp [Arrived, hs', hserver, hneeded, hheld]

/-- **One moment** leaves nobody waiting for nothing. -/
theorem Owing.snoc (h : Owing u past) (m : Moment) : Owing u (past ++ [m]) := by
  have ht := turn_after u past m
  have hnew : (⟨(u.after past).nextSignal⟩ : SignalId) ∉ (u.after past).completed ∧
      (u.after past).snapshot.parts.start ≠ some (.awaited ⟨(u.after past).nextSignal⟩) := by
    refine ⟨fun hmem => ?_, fun hheld => ?_⟩
    · exact Nat.lt_irrefl _ ((made_after u past).completed _ hmem)
    · exact Nat.lt_irrefl _ ((made_after u past).held _ (.inl hheld))
  generalize hc' : u.after (past ++ [m]) = c' at ht
  generalize ho : (u.after past).returned? m = o at ht
  cases ht with
  | idle aside =>
    cases aside
    exact h.snoc_aside ho (by rw [hc']) (by rw [hc'])
  | started status parts =>
    exact h.snoc_start status ho (by simp [hc', Snapshot.status, parts]) (by simp [hc', parts])
      (by rw [hc']) hnew.1
  | stopping command status channel parts marks =>
    exact h.snoc_stop status command ho (by simp [hc', Snapshot.status, parts])
      (by simp [hc', parts]) (by rwa [hc']) hnew
  | @halted k s completed more command status parts marks =>
    have hstop : (u.after past).snapshot.parts.stop = none :=
      ((Parts.obeys_connecting status).1 (u.after past).snapshot.obeys).2.1
    have hs' : (u.after (past ++ [.command k])).snapshot.status = .stopped := by
      simp [hc', Snapshot.status, parts]
    refine h.snoc_stopped (by simp [status]) hs' (by rwa [hc']) ?_ (by simp [ho])
    rintro id (hstart | hstop')
    · simp [hstart]
    · simp [hstop] at hstop'
  | abandoned status signal parts marks =>
    have hne : (u.after past).snapshot.status ≠ .stopped := by
      rcases status with status | status
      · exact status.ne_stopped
      · simp [status]
    have hs' : (u.after (past ++ [.command .emergencyStop])).snapshot.status = .stopped := by
      simp [hc', Snapshot.status, parts]
    refine h.snoc_stopped hne hs' (by rwa [hc']) ?_ (by simp [ho])
    rintro id (hstart | hstop)
    · simp [hstart]
    · simp [← signal, hstop]
  | @stopped s stop link completed status signal parts marks =>
    have hstart : (u.after past).snapshot.parts.start = none :=
      ((Parts.obeys_stopping status).1 (u.after past).snapshot.obeys).1
    have hs' : (u.after (past ++ [.event (.linkClosed link)])).snapshot.status = .stopped := by
      simp [hc', Snapshot.status, parts]
    refine h.snoc_stopped (by simp [status]) hs' (by rwa [hc']) ?_ (by simp [ho])
    rintro id (hstart' | hstop)
    · simp [hstart] at hstart'
    · simpa [signal, eq_comm] using hstop
  | failed dial status parts =>
    have hstatus : (u.after past).snapshot.parts.status = .connecting := status
    refine h.snoc_kept (.inl status) ho (.inl ?_) (by simp [hc', parts]) (by rw [hc']) ?_
    · simp [hc', Snapshot.status, parts, hstatus]
    · simp [hc', Arrived, Snapshot.status, parts, hstatus]
  | @opened d server s timer timers completed more dial status parts scheduled marks =>
    have hserver :
        (u.after (past ++ [.event (.dialed d (some server))])).snapshot.parts.descriptor =
          some server := by
      simp [hc', parts]
    exact h.snoc_opened status ho (by simp [hc', Snapshot.status, parts]) hserver
      (by simp [hc', parts]) (by rwa [hc'])
  | redialed | misled => exact h.snoc_aside ho (by rw [hc']) (by rw [hc'])
  | lost status parts =>
    refine h.snoc_kept (.inr status) ho (.inl ?_) (by simp [hc', parts]) (by rw [hc']) ?_
    · simp [hc', Snapshot.status, parts]
    · simp [hc', Arrived, Snapshot.status, parts]
  | pinged status held parts | ponged status held parts =>
    refine h.snoc_kept (.inr status) ho (.inr ?_) (by simp [hc', parts]) (by rw [hc']) ?_
    · simpa [hc', Snapshot.Attached, Snapshot.status, parts] using status
    · simp [hc', Arrived, Snapshot.status, parts]
  | signedIn status parts marks =>
    refine h.snoc_started (.inr (.inl status)) ho (.inr (.inr ?_)) (by simp [hc', parts]) ?_
    · simp [hc', Snapshot.status, parts]
    · intro id hstart
      rw [hc', marks id]
      simp [Arrived, Snapshot.status, parts, hstart]

theorem owing_after (u : Setup) (past : List Moment) : Owing u past := by
  induction past using List.reverseRecOn with
  | nil => exact .of_stopped rfl (by simp [Completes, Connector.returned])
  | append_singleton past m ih => exact ih.snoc m

/-- **Every run** leaves nobody waiting for nothing. -/
theorem waiters_after (u : Setup) (past : List Moment) : Waiters u past := by
  have h := owing_after u past
  refine ⟨h.stopped, ?_, ?_⟩
  · intro hs
    obtain ⟨before, since, k, id, hl, hk, -, hid⟩ := h.stopping hs
    exact ⟨before, since, k, .awaited id, hl, hk, by simpa [Signal.isComplete] using hid⟩
  · intro hs
    obtain ⟨before, since, id, hl, -, hid⟩ := h.started (by simpa [Snapshot.Attached] using hs)
    exact ⟨before, since, .awaited id, hl, isComplete_awaited.trans hid⟩

end DurableSession.Client.Connector
