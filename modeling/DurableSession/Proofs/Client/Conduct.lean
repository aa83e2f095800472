import DurableSession.Proofs.Client.Turns
import DurableSession.Proofs.Lifecycle.Codec

/-!
What a connector says to its server, and what it asks of its supplier of credentials.

Between the frames of the server and the answers of the supplier, a connector either goes on as it
was or lets go of its link. Main statements: `conduct_of_free`, and one lemma for each frame and for
each answer that the connector acts on.
-/

namespace DurableSession.Client

open Lifecycle (Phase SessionId Token Failure Secret)
open Handshake (Descriptor)

namespace Wish

def text? (k : LinkId) : Wish → Option String
  | send link (.text t) => if link = k then some t else none
  | _ => none

def question? (k : LinkId) : Wish → Option Request
  | ask link r => if link = k then some r else none
  | _ => none

/-- A wish that neither sends a lifecycle frame nor asks for anything. -/
structure Silent (w : Wish) : Prop where
  plain : ∀ k, (w.text? k).toList.filter Phase.isFrame = []
  unasked : ∀ k, w.question? k = none

theorem silent_dial (d : DialId) (timeout : Nat) :
    Silent (.dial d timeout) := ⟨fun _ => rfl, fun _ => rfl⟩
theorem silent_cancelDial (d : DialId) : Silent (.cancelDial d) := ⟨fun _ => rfl, fun _ => rfl⟩
theorem silent_ping (link : LinkId) : Silent (.send link .ping) := ⟨fun _ => rfl, fun _ => rfl⟩
theorem silent_close (link : LinkId) : Silent (.close link) := ⟨fun _ => rfl, fun _ => rfl⟩
theorem silent_deliver (text : String) : Silent (.deliver text) := ⟨fun _ => rfl, fun _ => rfl⟩

theorem silent_send {link : LinkId} {text : String} (h : Phase.isFrame text = false) :
    Silent (.send link (.text text)) := by
  refine ⟨fun k => ?_, fun _ => rfl⟩
  by_cases hk : link = k <;> simp [text?, hk, h]

end Wish

namespace Connector

/-- What the connector wants to send on a link. -/
def said (c : Connector) (k : LinkId) : List String := c.wishes.filterMap (Wish.text? k)

def frames (c : Connector) (k : LinkId) : List String := (c.said k).filter Phase.isFrame

def questions (c : Connector) (k : LinkId) : List Request := c.wishes.filterMap (Wish.question? k)

/-- Whom the connector takes itself to be, should the server accept it. -/
def claimant? (c : Connector) : Option String := c.pendingLogin.or (c.resume.map Resume.login)

section Wishes

variable {c c₁ : Connector} {k : LinkId} {w : Wish}

theorem frames_congr (h : c₁.wishes = c.wishes) : c₁.frames k = c.frames k := by
  unfold frames said
  rw [h]

theorem questions_congr (h : c₁.wishes = c.wishes) : c₁.questions k = c.questions k := by
  unfold questions
  rw [h]

theorem said_wish : (c.wish w).said k = c.said k ++ (w.text? k).toList := by
  unfold said wish
  rw [List.filterMap_append]
  rfl

theorem frames_wish :
    (c.wish w).frames k = c.frames k ++ (w.text? k).toList.filter Phase.isFrame := by
  unfold frames
  rw [said_wish, List.filter_append]

theorem questions_wish : (c.wish w).questions k = c.questions k ++ (w.question? k).toList := by
  unfold questions wish
  rw [List.filterMap_append]
  rfl

end Wishes

/-! ### Going on, and letting go -/

/-- The connector stands where it stood with its server, and has said nothing. -/
structure Alike (c c' : Connector) : Prop where
  status : c'.snapshot.status = c.snapshot.status
  link : c'.link? = c.link?
  login : c'.snapshot.parts.login = c.snapshot.parts.login
  session : c'.session = c.session
  resume : c'.resume = c.resume
  pending : c'.pendingLogin = c.pendingLogin
  nextLink : c'.nextLink = c.nextLink
  frames : ∀ k, c'.frames k = c.frames k

/-- The connector goes on as it was, and has asked nothing either. -/
structure Steady (c c' : Connector) : Prop extends Alike c c' where
  questions : ∀ k, c'.questions k = c.questions k

/-- The connector takes up no new link and no other session, and asks only on behalf of the link
that it had. -/
structure Keeps (c c' : Connector) : Prop where
  link : ∀ k, c'.link? = some k → c.link? = some k
  resume : ∀ r, c'.resume = some r → c.resume = some r
  nextLink : c'.nextLink = c.nextLink
  questions : ∀ k, c.link? ≠ some k → c'.questions k = c.questions k

/-- The connector lets go of its link. -/
structure Withdrawn (c c' : Connector) : Prop extends Keeps c c' where
  away : ¬ c'.snapshot.Attached
  pending : c'.pendingLogin = none

inductive Conduct (c c' : Connector) : Prop where
  | steady (h : Steady c c')
  | withdrawn (h : Withdrawn c c')

section Relations

variable {c c₁ c₂ : Connector}

theorem Alike.trans (h : Alike c c₁) (h' : Alike c₁ c₂) : Alike c c₂ where
  status := h'.status.trans h.status
  link := h'.link.trans h.link
  login := h'.login.trans h.login
  session := h'.session.trans h.session
  resume := h'.resume.trans h.resume
  pending := h'.pending.trans h.pending
  nextLink := h'.nextLink.trans h.nextLink
  frames k := (h'.frames k).trans (h.frames k)

theorem Alike.attached_iff (h : Alike c c₁) : c₁.snapshot.Attached ↔ c.snapshot.Attached := by
  unfold Snapshot.Attached
  rw [h.status]

theorem Alike.claimant?_eq (h : Alike c c₁) : c₁.claimant? = c.claimant? := by
  unfold claimant?
  rw [h.pending, h.resume]

theorem Steady.refl (c : Connector) : Steady c c :=
  ⟨⟨rfl, rfl, rfl, rfl, rfl, rfl, rfl, fun _ => rfl⟩, fun _ => rfl⟩

theorem Steady.trans (h : Steady c c₁) (h' : Steady c₁ c₂) : Steady c c₂ :=
  ⟨h.toAlike.trans h'.toAlike, fun k => (h'.questions k).trans (h.questions k)⟩

theorem Steady.keeps (h : Steady c c₁) : Keeps c c₁ where
  link _ hk := h.link ▸ hk
  resume _ hr := h.resume ▸ hr
  nextLink := h.nextLink
  questions k _ := h.questions k

/-- A connector that has no link any more asks for nothing on behalf of another. -/
theorem Keeps.of_unlinked (hlink : c₁.link? = none) (hresume : c₁.resume = c.resume)
    (hnext : c₁.nextLink = c.nextLink) (hquestions : ∀ k, c₁.questions k = c.questions k) :
    Keeps c c₁ where
  link k hk := absurd (hlink.symm.trans hk) (by simp)
  resume _ hr := hresume ▸ hr
  nextLink := hnext
  questions k _ := hquestions k

theorem Keeps.trans (h : Keeps c c₁) (h' : Keeps c₁ c₂) : Keeps c c₂ where
  link k hk := h.link k (h'.link k hk)
  resume r hr := h.resume r (h'.resume r hr)
  nextLink := h'.nextLink.trans h.nextLink
  questions k hk := (h'.questions k fun hk' => hk (h.link k hk')).trans (h.questions k hk)

theorem Withdrawn.after (h : Keeps c c₁) (h' : Withdrawn c₁ c₂) : Withdrawn c c₂ :=
  ⟨h.trans h'.toKeeps, h'.away, h'.pending⟩

theorem Withdrawn.steady (h : Withdrawn c c₁) (h' : Steady c₁ c₂) : Withdrawn c c₂ where
  toKeeps := h.toKeeps.trans h'.keeps
  away := fun ha => h.away (h'.attached_iff.1 ha)
  pending := h'.pending.trans h.pending

theorem Conduct.after (h : Steady c c₁) (h' : Conduct c₁ c₂) : Conduct c c₂ := by
  cases h' with
  | steady h' => exact .steady (h.trans h')
  | withdrawn h' => exact .withdrawn (.after h.keeps h')

end Relations

/-! ### Small steps -/

section Small

variable {c : Connector} {k : LinkId} {w : Wish}

theorem steady_books {dial : Option DialId} {nextDial nextSignal now : Nat}
    {completed : List SignalId} {timers : Timers} {refused : List SnapshotError} :
    Steady c { c with dial, nextDial, nextSignal, now, completed, timers, refused } :=
  ⟨⟨rfl, rfl, rfl, rfl, rfl, rfl, rfl, fun _ => rfl⟩, fun _ => rfl⟩

theorem steady_wish (h : w.Silent) : Steady c (c.wish w) := by
  refine ⟨⟨rfl, rfl, rfl, rfl, rfl, rfl, rfl, fun k => ?_⟩, fun k => ?_⟩
  · rw [frames_wish, h.plain, List.append_nil]
  · rw [questions_wish, h.unasked, Option.toList_none, List.append_nil]

theorem steady_cancelTimers : Steady c c.cancelTimers := steady_books

theorem steady_cancelDial : Steady c c.cancelDial := by
  unfold cancelDial
  split
  · exact steady_books.trans (steady_wish (Wish.silent_cancelDial _))
  · exact .refl c

theorem steady_redial : Steady c c.redial :=
  steady_cancelDial.trans (steady_books.trans (steady_wish (Wish.silent_dial _ _)))

theorem steady_closeLink : Steady c c.closeLink := by
  unfold closeLink
  split
  · exact steady_wish (Wish.silent_close _)
  · exact .refl c

theorem steady_complete (s : Signal) : Steady c (c.complete s) := by
  cases s with
  | settled => exact .refl c
  | awaited id => exact steady_books

theorem steady_completeStart : Steady c c.completeStart := by
  unfold completeStart
  split
  · exact steady_complete _
  · exact .refl c

theorem steady_refuse (e : SnapshotError) : Steady c (c.refuse e) := steady_books

theorem steady_take {r : Except SnapshotError (Snapshot LinkId)}
    (h : ∀ s, r = .ok s → s.parts.status = c.snapshot.parts.status ∧ s.parts.channel =
      c.snapshot.parts.channel ∧ s.parts.login = c.snapshot.parts.login) :
    Steady c (c.take r).2 := by
  cases r with
  | ok s =>
    obtain ⟨hstatus, hchannel, hlogin⟩ := h s rfl
    exact ⟨⟨hstatus, hchannel, hlogin, rfl, rfl, rfl, rfl, fun _ => rfl⟩, fun _ => rfl⟩
  | error e => exact steady_refuse e

theorem questions_ask {link : LinkId} {r : Request} :
    (c.ask link r).questions k = c.questions k ++ if c.hasSupplier ∧ link = k then [r] else [] := by
  unfold ask
  cases c.hasSupplier with
  | false => simp
  | true =>
    rw [if_pos rfl, questions_wish]
    by_cases hk : link = k <;> simp [Wish.question?, hk]

theorem alike_ask {link : LinkId} {r : Request} : Alike c (c.ask link r) := by
  unfold ask
  split
  · refine ⟨rfl, rfl, rfl, rfl, rfl, rfl, rfl, fun k => ?_⟩
    exact frames_wish.trans (List.append_nil _)
  · exact (Steady.refl c).toAlike

theorem keeps_ask {link : LinkId} {r : Request} (hl : c.link? = some link) :
    Keeps c (c.ask link r) := by
  refine ⟨fun _ hk => alike_ask.link ▸ hk, fun _ hr => alike_ask.resume ▸ hr, alike_ask.nextLink,
    fun k hk => ?_⟩
  have hother : ¬ (c.hasSupplier ∧ link = k) := by
    rintro ⟨-, rfl⟩
    exact hk hl
  rw [questions_ask, if_neg hother, List.append_nil]

theorem keeps_forgetSession : Keeps c c.forgetSession :=
  ⟨fun _ hk => hk, by simp [forgetSession], rfl, fun _ _ => rfl⟩

theorem withdrawn_loseChannel : Withdrawn c c.loseChannel := by
  obtain ⟨timer, timers, -, heq⟩ := loseChannel_eq c
  rw [heq]
  cases hlost : c.snapshot.channelLost timer with
  | ok s =>
    obtain ⟨-, hparts⟩ := Snapshot.step_eq_ok hlost
    have hstatus : s.status = .connecting := congrArg Parts.status hparts
    have hlink : s.parts.channel = none := congrArg Parts.channel hparts
    exact ⟨.of_unlinked hlink rfl rfl fun _ => rfl,
      fun ha => Snapshot.Attached.ne_connecting (s := s) ha hstatus, rfl⟩
  | error e =>
    refine ⟨⟨fun _ hk => hk, fun _ hr => hr, rfl, fun _ _ => rfl⟩, fun ha => ?_, rfl⟩
    obtain ⟨s, hs, -⟩ := Snapshot.channelLost_of_attached (s := c.snapshot) ha timer
    simp [hlost] at hs

theorem withdrawn_finishStop (hs : c.snapshot.status = .stopping) (hp : c.pendingLogin = none) :
    Withdrawn c c.finishStop := by
  unfold finishStop
  split
  · next s hstopped =>
    obtain ⟨-, hparts⟩ := Snapshot.step_eq_ok hstopped
    have hstatus : s.status = .stopped := congrArg Parts.status hparts
    have hlink : s.parts.channel = none := congrArg Parts.channel hparts
    have hstops {c₁ : Connector} (hsignal : Steady c c₁) : Withdrawn c { c₁ with snapshot := s } :=
      ⟨.of_unlinked hlink hsignal.resume hsignal.nextLink hsignal.questions,
        fun ha => Snapshot.Attached.ne_stopped (s := s) ha hstatus, hsignal.pending.trans hp⟩
    dsimp only
    split
    · exact hstops (steady_complete _)
    · exact hstops (.refl c)
  · refine ⟨(steady_refuse _).keeps, fun ha => ?_, hp⟩
    exact Snapshot.Attached.ne_stopping (s := c.snapshot) ha hs

end Small

/-! ### Moments without the server -/

/-- What may happen to a connector without a frame of the server, an answer of the supplier, or a
new link: commands, timers, pongs, the end of a link, an attempt to connect that fails or that
nobody waits for any more, and messages of the application without the mark. -/
def Free (c : Connector) : Moment → Prop
  | .command _ | .advance _ | .event (.pong _) | .event (.linkClosed _) | .event (.timerFired _ _) |
    .event (.dialed _ none) => True
  | .event (.dialed attempt (some _)) => c.dial ≠ some attempt ∨ c.snapshot.status ≠ .connecting
  | .send text => Phase.isFrame text = false
  | .event (.text _ _) | .event (.credentials _ _) | .event (.secondaryCode _ _ _) => False

instance decidableFree (c : Connector) : (m : Moment) → Decidable (c.Free m)
  | .command _ | .advance _ | .event (.pong _) | .event (.linkClosed _) | .event (.timerFired _ _) |
    .event (.dialed _ none) => isTrue trivial
  | .event (.dialed attempt (some _)) => inferInstanceAs (Decidable (c.dial ≠ some attempt ∨ _))
  | .send text => inferInstanceAs (Decidable (Phase.isFrame text = false))
  | .event (.text _ _) | .event (.credentials _ _) | .event (.secondaryCode _ _ _) =>
    isFalse not_false

section Moments

variable {c : Connector}

theorem conduct_start (hp : c.snapshot.status ≠ .connected → c.pendingLogin = none) :
    Conduct c c.onStart.2 := by
  unfold onStart newSignal
  dsimp only
  split
  · exact .steady (.refl c)
  · next s hs =>
    obtain ⟨hallowed, hparts⟩ := Snapshot.step_eq_ok hs
    have hstopped : c.snapshot.status = .stopped := by simpa using hallowed
    have hstatus : s.status = .connecting := congrArg Parts.status hparts
    have hlink : s.parts.channel = none := congrArg Parts.channel hparts
    have hstarted : Withdrawn c { c with nextSignal := c.nextSignal + 1, snapshot := s } :=
      ⟨.of_unlinked hlink rfl rfl fun _ => rfl,
        fun ha => Snapshot.Attached.ne_connecting (s := s) ha hstatus, hp (by simp [hstopped])⟩
    exact .withdrawn (hstarted.steady steady_redial)

theorem withdrawn_stop {s : Snapshot LinkId}
    (hs : c.snapshot.stopping (.awaited ⟨c.nextSignal⟩) = .ok s) :
    Withdrawn c c.onStop.2 := by
  have hparts := (Snapshot.step_eq_ok hs).2
  have hstatus : s.parts.status = .stopping := by rw [hparts]
  have hlink : s.parts.channel = c.snapshot.parts.channel := by rw [hparts]
  have hbefore : Steady c ({ c with nextSignal := c.nextSignal + 1 } :
    Connector).cancelTimers.cancelDial :=
    steady_books.trans (steady_cancelTimers.trans steady_cancelDial)
  unfold onStop newSignal
  dsimp only
  rw [hs]
  dsimp only
  generalize ({ c with nextSignal := c.nextSignal + 1 } : Connector).cancelTimers.cancelDial =
    c₁ at hbefore ⊢
  have hstart : Steady { c₁ with pendingLogin := none }
      ({ c₁ with pendingLogin := none } : Connector).completeStart := steady_completeStart
  generalize ({ c₁ with pendingLogin := none } : Connector).completeStart = c₂ at hstart ⊢
  have hend : Withdrawn c { c₂ with snapshot := s } := by
    refine ⟨⟨fun k hk => hlink.symm.trans hk, fun r hr => ?_,
      hstart.nextLink.trans hbefore.nextLink, fun k _ => ?_⟩,
      fun ha => Snapshot.Attached.ne_stopping (s := s) ha hstatus, hstart.pending⟩
    · exact hbefore.resume.symm.trans (hstart.resume.symm.trans hr)
    · exact (hstart.questions k).trans (hbefore.questions k)
  split
  · exact hend.steady (steady_wish (Wish.silent_close _))
  · exact .after hend.toKeeps (withdrawn_finishStop hstatus hend.pending)

theorem conduct_stop : Conduct c c.onStop.2 := by
  cases hs : c.snapshot.stopping (.awaited ⟨c.nextSignal⟩) with
  | ok s => exact .withdrawn (withdrawn_stop hs)
  | error e =>
    have heq : c.onStop.2 = c := by simp [onStop, newSignal, hs]
    rw [heq]
    exact .steady (.refl c)

theorem conduct_emergencyStop : Conduct c c.onEmergencyStop.2 := by
  unfold onEmergencyStop
  split
  · exact .steady (.refl c)
  · next s hs =>
    have hparts := (Snapshot.step_eq_ok hs).2
    have hstatus : s.parts.status = .stopped := by rw [hparts]
    have hlink : s.parts.channel = none := by rw [hparts]
    have hbefore : Steady c c.cancelTimers.cancelDial := steady_cancelTimers.trans steady_cancelDial
    dsimp only
    generalize c.cancelTimers.cancelDial = c₁ at hbefore ⊢
    generalize s.parts.stop.getD .settled = signal
    have hrest : Steady { c₁ with pendingLogin := none }
        (({ c₁ with pendingLogin := none } : Connector).closeLink.completeStart.complete signal) :=
      (steady_closeLink.trans steady_completeStart).trans (steady_complete _)
    exact .withdrawn
      ⟨hbefore.keeps.trans (.of_unlinked hlink hrest.resume hrest.nextLink hrest.questions),
      fun ha => Snapshot.Attached.ne_stopped (s := s) ha hstatus, hrest.pending⟩

theorem stopping_of_attached {s : Snapshot LinkId} (h : s.Attached) (stop : Signal) :
    ∃ s', s.stopping stop = .ok s' := by
  obtain ⟨-, -, -, hdescriptor⟩ := Snapshot.attached_parts h
  exact Snapshot.stopping_of_descriptor (.inr h) hdescriptor stop

theorem conduct_signoff : Conduct c c.onSignoff.2 := by
  unfold onSignoff
  split
  · exact .steady (.refl c)
  · next hstatus =>
    have hattached : c.snapshot.Attached := .inr (by simpa using hstatus)
    have htold (c₁ : Connector) (hsnapshot : c₁.snapshot = c.snapshot) (hkeeps : Keeps c c₁) :
        Conduct c c₁.forgetSession.onStop.2 := by
      obtain ⟨s, hs⟩ := stopping_of_attached (s := c₁.forgetSession.snapshot)
        (hsnapshot ▸ hattached) (.awaited ⟨c₁.forgetSession.nextSignal⟩)
      exact .withdrawn (.after (hkeeps.trans keeps_forgetSession) (withdrawn_stop hs))
    dsimp only
    split
    · refine htold _ rfl ⟨fun _ hk => hk, fun _ hr => hr, rfl, fun k _ => ?_⟩
      exact questions_wish.trans (List.append_nil _)
    · exact htold c rfl (Steady.refl c).keeps

theorem conduct_dialFailed (hs : c.snapshot.status = .connecting) (hp : c.pendingLogin = none) :
    Conduct c c.onDialFailed := by
  obtain ⟨timer, timers, -, heq⟩ := onDialFailed_eq c
  rw [heq]
  cases hplanned : c.snapshot.reconnectPlanned timer with
  | ok s =>
    obtain ⟨-, hparts⟩ := Snapshot.step_eq_ok hplanned
    have hstatus : s.status = .connecting := (congrArg Parts.status hparts).trans hs
    have hlink : s.parts.channel = none := congrArg Parts.channel hparts
    exact .withdrawn ⟨.of_unlinked hlink rfl rfl fun _ => rfl,
      fun ha => Snapshot.Attached.ne_connecting (s := s) ha hstatus, hp⟩
  | error e => exact .steady steady_books

theorem steady_pong : Steady c c.onPong := by
  rcases Option.eq_none_or_eq_some c.snapshot.parts.pongTimer with ht | ⟨t, ht⟩
  · have heq : c.onPong = c := by
      unfold onPong
      rw [ht]
    rw [heq]
    exact .refl c
  · obtain ⟨timer, timers, -, heq⟩ := onPong_eq ht
    rw [heq]
    refine steady_books.trans (steady_take fun s hs => ?_)
    rw [(Snapshot.step_eq_ok hs).2]
    exact ⟨rfl, rfl, rfl⟩

theorem conduct_timer (id : TimerId) (kind : TimerKind) : Conduct c (c.onTimer id kind) := by
  unfold onTimer
  split
  · split
    · exact .steady (.refl c)
    · next link _ =>
      refine .steady ((steady_wish (Wish.silent_ping link)).trans
        (steady_books.trans (steady_take fun s hs => ?_)))
      rw [(Snapshot.step_eq_ok hs).2]
      exact ⟨rfl, rfl, rfl⟩
  · exact .withdrawn (.after steady_closeLink.keeps withdrawn_loseChannel)
  · exact .steady steady_redial
  · exact .steady (.refl c)

/-- **A connector left to itself** goes on as it was or lets go of its link. -/
theorem conduct_of_free {m : Moment} (hp : c.snapshot.status ≠ .connected → c.pendingLogin = none)
    (hm : c.Free m) :
    Conduct c (c.step m) := by
  cases m with
  | command k =>
    cases k with
    | start => exact conduct_start hp
    | stop => exact conduct_stop
    | emergencyStop => exact conduct_emergencyStop
    | signoff => exact conduct_signoff
  | send text =>
    change Conduct c (c.send text).2
    unfold send
    split
    · exact .steady (steady_wish (Wish.silent_send hm))
    · exact .steady (.refl c)
  | advance ms => exact .steady steady_books
  | event e =>
    cases e with
    | dialed attempt result =>
      by_cases hd : c.dial = some attempt
      · have hdial : Steady c { c with dial := none } := steady_books
        unfold step handle onDialed
        simp only [hd, ne_eq, not_true_eq_false, if_false]
        split
        · exact .steady hdial
        · next hs =>
          have hs : c.snapshot.status = .connecting := by simpa using hs
          cases result with
          | none => exact .after hdial (conduct_dialFailed hs (hp (by simp [hs])))
          | some server => exact absurd hm (by simp [Free, hd, hs])
      · have heq : c.step (.event (.dialed attempt result)) = c := if_pos hd
        rw [heq]
        exact .steady (.refl c)
    | text link text | credentials link supplied | secondaryCode link token supplied =>
      exact absurd hm not_false
    | pong link =>
      unfold step handle
      dsimp only
      split
      · exact .steady steady_pong
      · exact .steady (.refl c)
    | linkClosed link =>
      unfold step handle onLinkClosed
      dsimp only
      split
      · exact .steady (.refl c)
      · split
        · next hs => exact .withdrawn (withdrawn_finishStop hs (hp (by simp [hs])))
        · exact .withdrawn withdrawn_loseChannel
    | timerFired id kind => exact conduct_timer id kind

end Moments

/-! ### Frames of the server -/

/-- The connector has signed in under a name. -/
structure Admitted (c c' : Connector) (x : SessionId) (name : String) : Prop where
  status : c'.snapshot.status = .signedIn
  link : c'.link? = c.link?
  login : c'.snapshot.parts.login = some name
  session : c'.session = some x
  resume : c'.resume = some ⟨x, name⟩
  pending : c'.pendingLogin = none
  nextLink : c'.nextLink = c.nextLink
  frames : ∀ k, c'.frames k = c.frames k
  questions : ∀ k, c'.questions k = c.questions k

/-- The connector keeps its link after a failure, and asks for credentials, if there is someone to
ask. -/
structure Rebuffed (c c' : Connector) (here : LinkId) : Prop extends Keeps c c' where
  status : c'.snapshot.status = c.snapshot.status
  channel : c'.link? = c.link?
  pending : c'.pendingLogin = none
  frames : ∀ k, c'.frames k = c.frames k
  asked : ∃ rs : List Request, c'.questions here = c.questions here ++ rs ∧
    (rs = [] ∨ ∃ r : Request, (∀ t, r ≠ .secondaryCode t) ∧ rs = [r])

section Frames

variable {c : Connector} {link : LinkId} {text : String}

theorem text_of_other (hl : c.link? ≠ some link) : c.handle (.text link text) = c := if_neg hl

/-- A text without the mark is for the application. -/
theorem steady_of_plain (h : Phase.isFrame text = false) :
    Steady c (c.handle (.text link text)) := by
  unfold handle onText
  dsimp only
  rw [Phase.decodeText_eq_none.2 h]
  dsimp only
  split
  · split
    · exact steady_wish (Wish.silent_deliver text)
    · exact .refl c
  · exact .refl c

theorem handle_encode (hl : c.link? = some link) (p : Phase) :
    c.handle (.text link p.encode) = c.onPhase link p := by
  unfold handle onText
  dsimp only
  rw [Phase.decodeText_encode, if_pos hl]

theorem withdrawn_ask {r : Request} (ha : ¬ c.snapshot.Attached) (hp : c.pendingLogin = none)
    (hl : c.link? = some link) : Withdrawn c (c.ask link r) :=
  ⟨keeps_ask hl, fun ha' => ha (alike_ask.attached_iff.1 ha'), alike_ask.pending.trans hp⟩

theorem withdrawn_or_rebuffed (hl : c.link? = some link) (f : Failure) :
    Withdrawn c (c.onFailure link f) ∨ Rebuffed c (c.onFailure link f) link := by
  have hasks (c₁ : Connector) (hkeeps : Keeps c c₁) (hsnapshot : c₁.snapshot = c.snapshot)
      (hwishes : c₁.wishes = c.wishes) (hpending : c₁.pendingLogin = none) {r : Request}
      (hr : ∀ t, r ≠ .secondaryCode t) : Rebuffed c (c₁.ask link r) link := by
    have hl₁ : c₁.link? = c.link? := congrArg (fun s => s.parts.channel) hsnapshot
    refine ⟨hkeeps.trans (keeps_ask (hl₁.trans hl)),
      alike_ask.status.trans (congrArg Snapshot.status hsnapshot),
      alike_ask.link.trans hl₁, alike_ask.pending.trans hpending,
      fun k => (alike_ask.frames k).trans (frames_congr hwishes), _,
      questions_ask.trans (congrArg (· ++ _) (questions_congr hwishes)), ?_⟩
    split
    · exact .inr ⟨r, hr, rfl⟩
    · exact .inl rfl
  have hgone : Keeps c { c with pendingLogin := none } :=
    ⟨fun _ hk => hk, fun _ hr => hr, rfl, fun _ _ => rfl⟩
  unfold onFailure
  dsimp only
  split
  · exact .inr (hasks _ (hgone.trans keeps_forgetSession) rfl rfl rfl (by simp))
  · split
    · exact .inl (.after (hgone.trans steady_closeLink.keeps) withdrawn_loseChannel)
    · exact .inr (hasks _ hgone rfl rfl rfl (by simp))

/-- A connector whose server is not there does not sign in, whatever comes. -/
theorem conduct_of_detached (ha : ¬ c.snapshot.Attached) (hp : c.pendingLogin = none) :
    Conduct c (c.handle (.text link text)) := by
  by_cases hl : c.link? = some link
  · have hstatus : c.snapshot.status ≠ .connected := fun hs => ha (.inl hs)
    unfold handle onText
    dsimp only
    rw [if_pos hl]
    split
    · split
      · exact .steady (steady_wish (Wish.silent_deliver text))
      · exact .steady (.refl c)
    · exact .steady (.refl c)
    · next p _ =>
      cases p with
      | sessionValid x =>
        have heq : c.onPhase link (.sessionValid x) = c := if_pos hstatus
        rw [heq]
        exact .steady (.refl c)
      | signonFailureNotice f =>
        rcases withdrawn_or_rebuffed hl f with h | h
        · exact .withdrawn h
        · refine .withdrawn ⟨h.toKeeps, ?_, h.pending⟩
          unfold Snapshot.Attached
          rw [show (c.onPhase link (.signonFailureNotice f)).snapshot.status = c.snapshot.status
            from h.status]
          exact ha
      | secondarySignonNeeded t => exact .withdrawn (withdrawn_ask ha hp hl)
      | _ => exact .steady (.refl c)
  · rw [text_of_other hl]
    exact .steady (.refl c)

/-- A connector that knows whom it takes itself to be signs in under that name. -/
theorem admitted_of_connected {x : SessionId} {login : String} (hs : c.snapshot.status = .connected)
    (hlogin : c.claimant? = some login) : Admitted c (c.onSessionValid x) x login := by
  obtain ⟨s, completed, hparts, -, heq⟩ := onSessionValid_eq hs x
  have hnext : c.nextLogin = login := by
    unfold nextLogin
    rw [show c.pendingLogin.or (c.resume.map Resume.login) = some login from hlogin]
    rfl
  rw [hnext] at hparts heq
  rw [heq]
  exact ⟨congrArg Parts.status hparts, congrArg (fun p => p.channel) hparts,
    congrArg Parts.login hparts, rfl, rfl, rfl, rfl, fun _ => rfl, fun _ => rfl⟩

end Frames

/-! ### Answers of the supplier -/

section Supplied

variable {c : Connector} {link : LinkId}

/-- An answer that comes late is ignored, and so is one that refuses. -/
theorem credentials_of_other {supplied : Option Credentials}
    (h : c.link? ≠ some link ∨ c.snapshot.status ≠ .connected) :
    c.handle (.credentials link supplied) = c :=
  if_pos h

theorem code_of_other {token : Token} {supplied : Option Secret}
    (h : c.link? ≠ some link ∨ c.snapshot.status ≠ .connected) :
    c.handle (.secondaryCode link token supplied) = c :=
  if_pos h

theorem credentials_of_connected (hl : c.link? = some link) (hs : c.snapshot.status = .connected)
    (supplied : Option Credentials) : c.handle (.credentials link supplied) =
      match supplied with
      | none => c
      | some ⟨login, secret⟩ =>
        { c with pendingLogin := some login }.sendPhase link (.signonAttempt login secret) :=
  if_neg (by simp [hl, hs])

theorem code_of_connected (hl : c.link? = some link) (hs : c.snapshot.status = .connected)
    (token : Token) (supplied : Option Secret) : c.handle (.secondaryCode link token supplied) =
      match supplied with
      | none => c
      | some code => c.sendPhase link (.secondarySignonAttempt token code) :=
  if_neg (by simp [hl, hs])

end Supplied

/-! ### A new link -/

/-- What a connector begins with on a link: nothing, a session to resume, or a question. -/
inductive Opening (c c' : Connector) (link : LinkId) : Prop where
  | nothing (frames : c'.frames link = c.frames link)
      (questions : c'.questions link = c.questions link)
  | resuming {r : Resume} (resume : c.resume = some r)
      (frames : c'.frames link = c.frames link ++ [(Phase.resumeSession r.session).encode])
      (questions : c'.questions link = c.questions link)
  | asking (frames : c'.frames link = c.frames link)
      (questions : c'.questions link = c.questions link ++ [.credentials])

/-- The connector begins: it stands where it stood, and speaks and asks on its link only. -/
structure Begins (c c' : Connector) (link : LinkId) : Prop where
  status : c'.snapshot.status = c.snapshot.status
  channel : c'.link? = c.link?
  nextLink : c'.nextLink = c.nextLink
  resume : c'.resume = c.resume
  pending : c'.pendingLogin = c.pendingLogin
  others : ∀ k : LinkId, k ≠ link → c'.questions k = c.questions k
  opening : Opening c c' link

/-- The connector takes up a new link. -/
structure TakesUp (c c' : Connector) : Prop where
  status : c'.snapshot.status = .connected
  link : c'.link? = some ⟨c.nextLink⟩
  nextLink : c'.nextLink = c.nextLink + 1
  resume : c'.resume = c.resume
  pending : c'.pendingLogin = c.pendingLogin
  others : ∀ k : LinkId, k ≠ ⟨c.nextLink⟩ → c'.questions k = c.questions k
  opening : Opening c c' ⟨c.nextLink⟩

section Links

variable {c c₁ c' : Connector} {link : LinkId}

theorem frames_encode {p : Phase} :
    (c.sendPhase link p).frames link = c.frames link ++ [p.encode] := by
  unfold sendPhase
  rw [frames_wish]
  simp [Wish.text?, Phase.isFrame_encode]

theorem begins_signon {server : Descriptor} (hl : c.link? = some link)
    (hserver : c.snapshot.parts.descriptor = some server) : Begins c c.beginSignon link := by
  unfold beginSignon
  rw [hl, hserver]
  dsimp only
  split
  · have hstart : Steady c c.completeStart := steady_completeStart
    exact ⟨hstart.status, hstart.link, hstart.nextLink, hstart.resume, hstart.pending,
      fun k _ => hstart.questions k, .nothing (hstart.frames _) (hstart.questions _)⟩
  · split
    · next r hr =>
      have hasked (k : LinkId) : (c.sendPhase link (.resumeSession r.session)).questions k =
          c.questions k := questions_wish.trans (List.append_nil _)
      exact ⟨rfl, rfl, rfl, rfl, rfl, fun k _ => hasked k, .resuming hr frames_encode (hasked _)⟩
    · have hsame : Alike c (c.ask link .credentials) := alike_ask
      refine ⟨hsame.status, hsame.link, hsame.nextLink, hsame.resume, hsame.pending,
        fun k hk => ?_, ?_⟩
      · rw [questions_ask, if_neg (fun h => hk h.2.symm), List.append_nil]
      · cases hsupplier : c.hasSupplier with
        | true =>
          refine .asking (hsame.frames _) ?_
          rw [questions_ask, if_pos ⟨hsupplier, rfl⟩]
        | false =>
          refine .nothing (hsame.frames _) ?_
          rw [questions_ask, if_neg (by simp [hsupplier]), List.append_nil]

/-- A connector that has wished for nothing else begins as the one that it was. -/
theorem Opening.of_wishes (h : Opening c₁ c' link) (hresume : c₁.resume = c.resume)
    (hwishes : c₁.wishes = c.wishes) :
    Opening c c' link := by
  have hf : c₁.frames link = c.frames link := frames_congr hwishes
  have hq : c₁.questions link = c.questions link := questions_congr hwishes
  cases h with
  | nothing frames questions => exact .nothing (frames.trans hf) (questions.trans hq)
  | resuming resume frames questions =>
    exact .resuming (hresume.symm.trans resume) (frames.trans (congrArg (· ++ _) hf))
      (questions.trans hq)
  | asking frames questions =>
    exact .asking (frames.trans hf) (questions.trans (congrArg (· ++ _) hq))

/-- A connection attempt that succeeds opens the next link, and the signon begins on it. -/
theorem exists_beginSignon {attempt : DialId} (hd : c.dial = some attempt)
    (hs : c.snapshot.status = .connecting) (server : Descriptor) :
    ∃ (s : Snapshot LinkId) (timers : Timers), s.status = .connected ∧
      s.parts.channel = some ⟨c.nextLink⟩ ∧ s.parts.descriptor = some server ∧
      c.handle (.dialed attempt (some server)) =
        ({ c with snapshot := s, dial := none, nextLink := c.nextLink + 1, timers } :
          Connector).beginSignon := by
  have heq : c.handle (.dialed attempt (some server)) =
      ({ c with dial := none } : Connector).onDialSucceeded server := by
    unfold handle onDialed
    simp [hd, hs]
  generalize hdrawn : c.timers.schedulePing c.now server.boundary = drawn
  obtain ⟨s₁, s, hestablished, hconnected, hparts⟩ :=
    Snapshot.connected_of_connecting hs (⟨c.nextLink⟩ : LinkId) server drawn.1
  refine ⟨s, drawn.2, congrArg Parts.status hparts, congrArg Parts.channel hparts,
    congrArg Parts.descriptor hparts, ?_⟩
  rw [heq]
  unfold onDialSucceeded
  dsimp only
  rw [hdrawn, hestablished]
  dsimp only
  rw [hconnected]
  rfl

/-- **A connection attempt that succeeds** gives the connector a new link. -/
theorem takesUp_of_dialed {attempt : DialId} (hd : c.dial = some attempt)
    (hs : c.snapshot.status = .connecting) (server : Descriptor) :
    TakesUp c (c.handle (.dialed attempt (some server))) := by
  obtain ⟨s, timers, hstatus, hlink, hserver, heq⟩ := exists_beginSignon hd hs server
  have hbegins := begins_signon
    (c := { c with snapshot := s, dial := none, nextLink := c.nextLink + 1, timers }) hlink hserver
  rw [heq]
  exact ⟨hbegins.status.trans hstatus, hbegins.channel.trans hlink, hbegins.nextLink,
    hbegins.resume, hbegins.pending, hbegins.others, hbegins.opening.of_wishes rfl rfl⟩

end Links

end Connector

end DurableSession.Client
