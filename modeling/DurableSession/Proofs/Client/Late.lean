import Mathlib.Data.List.Nodup
import DurableSession.Proofs.Client.Numbers

/-!
Events that come late.

An event is about a connection attempt, a link or a timer. Once the connector has taken up another
one, the event does nothing, however late it comes and whatever was started and stopped in between:
numbers are given out once, and what the connector refers to is only ever left, or replaced by what
has the next number. Main statement: `late_after`, by induction over what follows from
`Turn.supersedes`.
-/

namespace DurableSession.Client.Connector

variable {c c' : Connector} {m : Moment} {o : Option (Command × Signal)} {u : Setup}
  {past later : List Moment} {e : Event}

/-! ### Superseded events -/

/-- **Superseded**: the event is about an attempt that is not the one under way, a link that is not
the snapshot's channel, or a timer that the snapshot does not hold. -/
def Superseded (c : Connector) : Event → Prop
  | .dialed attempt _ => c.dial ≠ some attempt
  | .text link _ | .pong link | .linkClosed link | .credentials link _ | .secondaryCode link _ _ =>
    c.link? ≠ some link
  | .timerFired id _ => ∀ t ∈ c.snapshot.timers, t.id ≠ id

/-- What the event is about has a number that was given out. -/
def Known (c : Connector) : Event → Prop
  | .dialed attempt _ => attempt.number < c.nextDial
  | .text link _ | .pong link | .linkClosed link | .credentials link _ | .secondaryCode link _ _ =>
    link.number < c.nextLink
  | .timerFired id _ => id.number < c.timers.next

/-- **A superseded event does nothing**: it changes no part of the connector, and asks for nothing
outside. -/
theorem Superseded.inert (h : c.Superseded e) : c.handle e = c := by
  cases e with
  | dialed attempt result => exact if_pos h
  | text link text | pong link => exact if_neg h
  | linkClosed link => exact if_pos h
  | credentials link supplied => exact if_pos (.inl h)
  | secondaryCode link token supplied => exact if_pos (.inl h)
  | timerFired id kind =>
    have hstale : c.snapshot.onFired id kind = .stale := by
      unfold Snapshot.onFired
      split
      · next t ht => exact if_neg (h t (Snapshot.exists_timerOf.1 ⟨kind, ht⟩))
      · rfl
    simp only [handle, onTimer, hstale]

/-- A connector without an attempt, a link and a timer waits for no event. -/
theorem superseded_of_idle (hdial : c.dial = none) (hlink : c.link? = none)
    (htimers : c.snapshot.timers = []) (e : Event) : c.Superseded e := by
  cases e <;> simp [Superseded, hdial, hlink, htimers]

/-- **What was superseded remains so**: what a turn takes up has a number that was not given out
before. -/
theorem Turn.supersedes (ht : Turn c m o c') (hk : c.Known e) (h : c.Superseded e) :
    c'.Known e ∧ c'.Superseded e := by
  cases e with
  | dialed attempt result => exact ht.succeeds.excludes (fun _ => rfl) hk h
  | text link text | pong link | linkClosed link | credentials link supplied
  | secondaryCode link token supplied =>
    exact ht.links.excludes (fun _ => rfl) hk h
  | timerFired id kind =>
    have hk : id.number < c.timers.next := hk
    obtain ⟨hnext, hheld⟩ := ht.renews
    refine ⟨hk.trans_le hnext, fun t ht => ?_⟩
    rcases hheld t ht with ht | he
    · exact h t ht
    · rw [he]
      rintro ⟨⟩
      simp at hk

/-! ### Runs -/

theorem superseded_later (hk : (u.after past).Known e) (h : (u.after past).Superseded e) :
    (u.after (past ++ later)).Known e ∧ (u.after (past ++ later)).Superseded e := by
  induction later using List.reverseRecOn with
  | nil => simpa using ⟨hk, h⟩
  | append_singleton later m ih =>
    rw [← List.append_assoc]
    exact (turn_after u (past ++ later) m).supersedes ih.1 ih.2

/-- The event is about an attempt, a link, a question or a timer that moments have brought about. -/
def Issued (u : Setup) (past : List Moment) : Event → Prop
  | .dialed attempt _ => ∃ timeout, .dial attempt timeout ∈ (u.after past).wishes
  | .text link _ | .pong link | .linkClosed link => link ∈ u.connector.opened past
  | .credentials link _ | .secondaryCode link _ _ =>
    ∃ request, .ask link request ∈ (u.after past).wishes
  | .timerFired id _ => id ∈ u.connector.scheduled past

theorem Issued.known (h : Issued u past e) : (u.after past).Known e := by
  have hn := numbered_after u past
  have hopened {link : LinkId} (hl : link ∈ u.connector.opened past) : link.number <
      (u.after past).nextLink := by
    rw [hn.links] at hl
    obtain ⟨n, hn, rfl⟩ := List.mem_map.1 hl
    exact (List.Ico.mem.1 hn).2
  have hasked {link : LinkId} (hl : ∃ request, .ask link request ∈ (u.after past).wishes) :
      link.number < (u.after past).nextLink := by
    obtain ⟨request, hl⟩ := hl
    exact hn.askers link (List.mem_filterMap.2 ⟨_, hl, rfl⟩)
  cases e with
  | dialed attempt result =>
    obtain ⟨timeout, hd⟩ := h
    have hd : attempt ∈ (u.after past).attempts := List.mem_filterMap.2 ⟨_, hd, rfl⟩
    rw [hn.dials] at hd
    obtain ⟨n, hn, rfl⟩ := List.mem_map.1 hd
    exact (List.Ico.mem.1 hn).2
  | text link text | pong link | linkClosed link => exact hopened h
  | credentials link supplied | secondaryCode link token supplied => exact hasked h
  | timerFired id kind =>
    have hid : id ∈ u.connector.scheduled past := h
    rw [hn.timers] at hid
    obtain ⟨n, hn, rfl⟩ := List.mem_map.1 hid
    exact (List.Ico.mem.1 hn).2

theorem superseded_of_pong {link : LinkId} {t : Timer} (hl : (u.after past).link? = some link)
    (ht : (u.after past).snapshot.parts.pongTimer = some t) (kind : TimerKind) :
    (u.after (past ++ [.event (.pong link)])).Known (.timerFired t.id kind) ∧
      (u.after (past ++ [.event (.pong link)])).Superseded (.timerFired t.id kind) := by
  have hc := tidy_after u past
  have hs := hc.attached_of_heartbeat (.inr (by simp [ht]))
  have hreconnect := hc.reconnect_eq_none hs.ne_connecting
  have hlt := (below_after u past).held t (Snapshot.mem_timers.2 (.inr (.inr ht)))
  have hpong : u.after (past ++ [.event (.pong link)]) = (u.after past).onPong := by
    rw [Setup.after_snoc]
    exact if_pos hl
  obtain ⟨timer, timers, hscheduled, heq⟩ := onPong_eq ht
  obtain ⟨s, hplanned, hparts⟩ := Snapshot.nextPingPlanned_of_attached hs timer
  have hnext : timers.next = (u.after past).timers.next + 1 := hscheduled.next
  have hid : timer.id = ⟨(u.after past).timers.next⟩ := hscheduled.id
  rw [hpong, heq, hplanned]
  refine ⟨show t.id.number < timers.next by omega, fun r hr => ?_⟩
  have hr : timer = r := by simpa [Snapshot.mem_timers, take, hparts, hreconnect] using hr
  rw [← hr, hid]
  intro he
  simp [← he] at hlt

/-- **Late events**, after any moments and whatever follows: no number is given out twice; an event
that is superseded does nothing; one about something that was brought about before, and that is
superseded, stays so; a timer that waited for a pong does nothing once the pong has come; and
nothing that was brought about before the connector had stopped does anything after it. -/
structure Late (u : Setup) (past later : List Moment) : Prop where
  timers : (u.connector.scheduled (past ++ later)).Nodup
  dials : (u.after (past ++ later)).attempts.Nodup
  links : (u.connector.opened (past ++ later)).Nodup
  inert : ∀ e, (u.after (past ++ later)).Superseded e →
    (u.after (past ++ later)).handle e = u.after (past ++ later)
  superseded : ∀ e, Issued u past e → (u.after past).Superseded e →
    (u.after (past ++ later)).Superseded e ∧ (u.after (past ++ later)).handle e =
      u.after (past ++ later)
  pong : ∀ link t rest, later = .event (.pong link) :: rest → (u.after past).link? = some link →
    (u.after past).snapshot.parts.pongTimer = some t → ∀ kind,
      (u.after (past ++ later)).handle (.timerFired t.id kind) = u.after (past ++ later)
  stopped : (u.after past).snapshot.status = .stopped → ∀ e, Issued u past e →
    (u.after (past ++ later)).handle e = u.after (past ++ later)

theorem late_after (u : Setup) (past later : List Moment) : Late u past later := by
  have hn := numbered_after u (past ++ later)
  have hinj {n : Nat} {α : Type} {f : Nat → α} (hf : f.Injective) (m : Nat) :
      ((List.Ico n m).map f).Nodup := List.Nodup.map hf (List.Ico.nodup n m)
  refine ⟨?_, ?_, ?_, fun e h => h.inert, ?_, ?_, ?_⟩
  · rw [hn.timers]
    exact hinj (fun a b h => congrArg TimerId.number h) _
  · rw [hn.dials]
    exact hinj (fun a b h => congrArg DialId.number h) _
  · rw [hn.links]
    exact hinj (fun a b h => congrArg LinkId.number h) _
  · intro e hi hs
    have hlater : (u.after (past ++ later)).Superseded e := (superseded_later hi.known hs).2
    exact ⟨hlater, hlater.inert⟩
  · rintro link t rest rfl hl ht kind
    obtain ⟨hk, hs⟩ := superseded_of_pong hl ht kind
    rw [List.append_cons]
    exact (superseded_later hk hs).2.inert
  · intro hstatus e hi
    have hdial := (tidy_after u past).dial_eq_none (by simp [hstatus])
    have hlink : (u.after past).link? = none :=
      ((Parts.obeys_stopped hstatus).1 (u.after past).snapshot.obeys).2.2.1
    have hs := superseded_of_idle hdial hlink (Snapshot.timers_of_stopped hstatus) e
    exact (superseded_later hi.known hs).2.inert

set_option maxRecDepth 20000 in
/-- The attempt that was under way when the connector was stopped succeeds after the restart, too
late. -/
example :
    let restarted := Sample.setup.after (Sample.silence ++ [.command .stop, .command .start])
    restarted.snapshot.status = .connecting ∧
      restarted.Superseded (.dialed ⟨2⟩ (some Sample.server)) ∧
      ¬ restarted.Superseded (.dialed ⟨3⟩ (some Sample.server)) := by
  simp only [Superseded]
  decide +kernel

end DurableSession.Client.Connector
