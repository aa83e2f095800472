import DurableSession.Proofs.Registry.Lookup
import DurableSession.Proofs.Server.Run

/-!
Channels stay closed. Main statements: `channel_perform`, no operation takes back that a channel was
kicked or abandoned, and `known_perform`, a channel that was ever opened is remembered.
-/

namespace DurableSession.Server

open Lifecycle (SessionId Token)
open Network (SocketAddress)

/-- A channel at a later moment: what was kicked or abandoned is so still. -/
structure Channel.Older (ch ch' : Channel) : Prop where
  kicked : ch.kicked = true → ch'.kicked = true
  abandoned : ch.abandoned = true → ch'.abandoned = true

namespace Channel.Older

variable {ch ch' : Channel}

theorem refl (ch : Channel) : ch.Older ch := ⟨fun h => h, fun h => h⟩

theorem trans {ch'' : Channel} (h : ch.Older ch') (h' : ch'.Older ch'') : ch.Older ch'' :=
  ⟨fun hk => h'.kicked (h.kicked hk), fun ha => h'.abandoned (h.abandoned ha)⟩

theorem kick (ch : Channel) : ch.Older ch.kick := ⟨fun _ => rfl, fun h => h⟩

theorem abandon (ch : Channel) : ch.Older ch.abandon := ⟨fun h => h, fun _ => rfl⟩

theorem closed (h : ch.Older ch') (hc : ch.isClosed = true) : ch'.isClosed = true := by
  unfold isClosed at hc ⊢
  rcases Bool.or_eq_true_iff.1 hc with hkicked | habandoned
  · rw [h.kicked hkicked, Bool.true_or]
  · rw [h.abandoned habandoned, Bool.or_true]

end Channel.Older

namespace Channels

variable {cs : Channels} {c d : ChannelId}

theorem isClosed_insert {ch : Channel} :
    isClosed (cs.insert d ch) c = if d = c then ch.isClosed else cs.isClosed c := by
  unfold isClosed
  rw [Table.find?_insert]
  split <;> rfl

theorem isClosed_modify {f : Channel → Channel} (hf : ∀ ch, (f ch).isClosed = true) :
    isClosed (cs.modify d f) c = (cs.isClosed c || decide (d = c)) := by
  unfold isClosed
  rw [Table.find?_modify]
  by_cases hd : d = c
  · cases cs.find? c <;> simp [hd, hf]
  · simp [hd]

theorem isClosed_kick : (cs.kick d).isClosed c = (cs.isClosed c || decide (d = c)) :=
  isClosed_modify fun _ => by simp [Channel.kick, Channel.isClosed]

theorem isClosed_kickAll {l : List ChannelId} :
    (cs.kickAll l).isClosed c = (cs.isClosed c || decide (c ∈ l)) := by
  unfold kickAll
  induction l generalizing cs with
  | nil => simp
  | cons d l ih =>
    rw [List.foldl_cons, ih, isClosed_kick]
    by_cases hd : d = c
    · simp [hd]
    · simp [hd, Ne.symm hd]

/-- A channel that is kicked more than once is kicked. -/
theorem find?_kickAll {l : List ChannelId} :
    (cs.kickAll l).find? c = if c ∈ l then (cs.find? c).map Channel.kick else cs.find? c := by
  unfold kickAll
  induction l generalizing cs with
  | nil => simp
  | cons d l ih =>
    rw [List.foldl_cons, ih, kick, Table.find?_modify]
    by_cases hd : d = c
    · subst hd
      cases cs.find? d with
      | none => simp
      | some ch => simp [Channel.kick]
    · simp [hd, Ne.symm hd]

theorem isSome_modify {f : Channel → Channel} :
    ((cs.modify d f).find? c).isSome = (cs.find? c).isSome := by
  rw [Table.find?_modify]
  split <;> simp

theorem isSome_kickAll {l : List ChannelId} :
    ((cs.kickAll l).find? c).isSome = (cs.find? c).isSome := by
  unfold kickAll
  induction l generalizing cs with
  | nil => rfl
  | cons d l ih => rw [List.foldl_cons, ih, kick, isSome_modify]

theorem older_modify {f : Channel → Channel} (hf : ∀ ch : Channel, ch.Older (f ch)) {ch : Channel}
    (h : cs.find? c = some ch) :
    ∃ ch', (cs.modify d f).find? c = some ch' ∧ ch.Older ch' := by
  rw [Table.find?_modify, h]
  split
  · exact ⟨f ch, rfl, hf ch⟩
  · exact ⟨ch, rfl, .refl ch⟩

theorem older_kickAll {l : List ChannelId} {ch : Channel} (h : cs.find? c = some ch) :
    ∃ ch', (cs.kickAll l).find? c = some ch' ∧ ch.Older ch' := by
  rw [find?_kickAll, h]
  split
  · exact ⟨ch.kick, rfl, .kick ch⟩
  · exact ⟨ch, rfl, .refl ch⟩

end Channels

namespace State

variable {s : State} {x : SessionId} {c : ChannelId} {op : Operation}

/-! ### What signons, resumptions and closings do to channels -/

/-- The channels that an operation kicks, one after the other. -/
theorem channels_startSignon (s : State) (id : SignonId) (fresh : SessionId) :
    ∃ l, (s.startSignon id fresh).channels = s.channels.kickAll l := by
  unfold startSignon
  split
  · next login secret c hid =>
    dsimp only
    split
    · exact ⟨[], rfl⟩
    · next registry displaced hc => exact ⟨displaced.toList, rfl⟩
  · dsimp only
    split
    · exact ⟨[], rfl⟩
    · exact ⟨[], rfl⟩
  · exact ⟨[], rfl⟩

theorem channels_answerPrimary {id : SignonId} {verdict : PrimaryVerdict} {fresh : Token} :
    (s.answerPrimary id verdict fresh).channels = s.channels := by
  unfold answerPrimary
  split <;> rfl

theorem channels_answerSecondary {id : SignonId} {verified : Bool} :
    (s.answerSecondary id verified).channels = s.channels := by
  unfold answerSecondary
  split <;> rfl

theorem channels_kickout (s : State) (x : SessionId) :
    (s.kickout x).2.channels =
      s.channels.kickAll ((s.registry.record? x).bind Record.channel).toList := by
  unfold kickout Registry.kickout
  cases h : s.registry.record? x with
  | none => rfl
  | some rec =>
    show s.channels.kickAll (s.registry.terminate x).2.toList = _
    rw [Registry.terminate_snd, h]

@[simp] theorem kickoutEach_nil : (s.kickoutEach []).2 = s := rfl

@[simp] theorem kickoutEach_cons {l : List SessionId} :
    (s.kickoutEach (x :: l)).2 = ((s.kickout x).2.kickoutEach l).2 := rfl

theorem kickoutEach_keeps {P : State → Prop} (hP : ∀ s x, P s → P (s.kickout x).2)
    {l : List SessionId} (h : P s) : P (s.kickoutEach l).2 := by
  induction l generalizing s with
  | nil => exact h
  | cons x l ih => exact ih (hP s x h)

theorem channels_sweep :
    s.sweep.2.channels =
      s.channels.kickAll (s.registry.sweep s.closed s.window s.now).2.2 := rfl

/-! ### Closed channels and channels that were opened -/

theorem closed_kickout (h : s.closed c = true) : (s.kickout x).2.closed c = true := by
  unfold closed
  rw [channels_kickout, Channels.isClosed_kickAll, show s.channels.isClosed c = true from h]
  rfl

theorem known_kickout (h : s.Known c) : (s.kickout x).2.Known c := by
  unfold Known
  rw [channels_kickout, Channels.isSome_kickAll]
  exact h

theorem known_perform (h : s.Known c) : (s.perform op).Known c := by
  have hc : (s.channels.find? c).isSome = true := h
  unfold Known
  cases op with
  | openChannel d remote capacity =>
    rw [perform, openChannel, Table.find?_insert]
    split
    · rfl
    · exact hc
  | kick d => rw [perform, kick, Channels.kick, Channels.isSome_modify, hc]
  | abandon d => rw [perform, abandon, Channels.isSome_modify, hc]
  | start id fresh =>
    obtain ⟨l, hl⟩ := channels_startSignon s id fresh
    rw [perform, hl, Channels.isSome_kickAll, hc]
  | answerPrimary id verdict fresh => rw [perform, channels_answerPrimary, hc]
  | answerSecondary id verified => rw [perform, channels_answerSecondary, hc]
  | kickout x => exact known_kickout h
  | kickoutAll => exact kickoutEach_keeps (P := fun s => s.Known c) (fun _ _ => known_kickout) h
  | sweep => rw [perform, channels_sweep, Channels.isSome_kickAll, hc]
  | unregister x d =>
    obtain ⟨routes, hr⟩ := s.perform_unregister x d
    rw [hr, hc]
  | _ => exact hc

theorem channel_kickout {ch : Channel} (h : s.channels.find? c = some ch) :
    ∃ ch', (s.kickout x).2.channels.find? c = some ch' ∧ ch.Older ch' := by
  rw [channels_kickout]
  exact Channels.older_kickAll h

theorem channel_kickoutEach {l : List SessionId} {ch : Channel} (h : s.channels.find? c = some ch) :
    ∃ ch', (s.kickoutEach l).2.channels.find? c = some ch' ∧ ch.Older ch' := by
  refine kickoutEach_keeps
    (P := fun s' => ∃ ch', s'.channels.find? c = some ch' ∧ ch.Older ch') ?_ ⟨ch, h, .refl ch⟩
  rintro s' x ⟨ch₁, h₁, hold₁⟩
  obtain ⟨ch₂, h₂, hold₂⟩ := channel_kickout (x := x) h₁
  exact ⟨ch₂, h₂, hold₁.trans hold₂⟩

/-- **No channel opens again**: an operation leaves a channel that was opened kicked if it was
kicked, and abandoned if it was abandoned. -/
theorem channel_perform (ha : op.Applicable s) {ch : Channel} (h : s.channels.find? c = some ch) :
    ∃ ch', (s.perform op).channels.find? c = some ch' ∧ ch.Older ch' := by
  cases op with
  | openChannel d remote capacity =>
    have hne : d ≠ c := by
      rintro rfl
      exact ha (by rw [Known, h, Option.isSome_some])
    exact ⟨ch, by rw [perform, openChannel, Table.find?_insert, if_neg hne, h], .refl ch⟩
  | kick d => exact Channels.older_modify Channel.Older.kick h
  | abandon d => exact Channels.older_modify Channel.Older.abandon h
  | start id fresh =>
    obtain ⟨l, hl⟩ := channels_startSignon s id fresh
    rw [perform, hl]
    exact Channels.older_kickAll h
  | answerPrimary id verdict fresh =>
    exact ⟨ch, by rw [perform, channels_answerPrimary, h], .refl ch⟩
  | answerSecondary id verified =>
    exact ⟨ch, by rw [perform, channels_answerSecondary, h], .refl ch⟩
  | kickout x => exact channel_kickout h
  | kickoutAll => exact channel_kickoutEach h
  | sweep =>
    rw [perform, channels_sweep]
    exact Channels.older_kickAll h
  | unregister x d =>
    obtain ⟨routes, hr⟩ := s.perform_unregister x d
    exact ⟨ch, by rw [hr, h], .refl ch⟩
  | _ => exact ⟨ch, h, .refl ch⟩

theorem closed_perform (ha : op.Applicable s) (hk : s.Known c) (h : s.closed c = true) :
    (s.perform op).closed c = true := by
  obtain ⟨ch, hch⟩ := Option.isSome_iff_exists.1 hk
  obtain ⟨ch', hch', hold⟩ := channel_perform ha hch
  unfold closed Channels.isClosed at h ⊢
  rw [hch] at h
  rw [hch']
  exact hold.closed h

theorem isKicked_perform (ha : op.Applicable s) (h : s.isKicked c = true) :
    (s.perform op).isKicked c = true := by
  unfold isKicked at h ⊢
  cases hch : s.channels.find? c with
  | none => simp [hch] at h
  | some ch =>
    obtain ⟨ch', hch', hold⟩ := channel_perform ha hch
    rw [hch] at h
    rw [hch']
    exact hold.kicked h

end State

end DurableSession.Server
