import Mathlib.Data.List.Induction
import DurableSession.Proofs.Lifecycle.Codec
import DurableSession.Proofs.Server.Gatehouse

/-!
What a connection lets through when it requires authentication.

Nothing passes between client and application before the client was told that its session is valid.
From the moment at which the connection itself says so, every message that is read is handed to the
application, in order and once, and never a lifecycle frame. Whatever comes first in a turn, and
whatever others do to the state in between, makes no difference; a word of a valid session that
others have queued is written like any lifecycle frame and opens nothing. Main statements:
`Locked.pass` and `Serving.pass`, for one moment before and after the connection's word, and
`enforced_of_run`.
-/

namespace DurableSession.Server

open Lifecycle (SessionId Phase Failure)
open Network (SocketAddress)

/-! ### What a gate does with a text -/

namespace Gate

/-- What a gate that lets nothing through makes of a text: its answer, and the gate afterwards. -/
inductive Withholds (g : Gate) : Inbound → Gate → Prop where
  | dropped : Withholds g .drop g
  | began {id : SignonId} (awaits : g.awaits = true) :
      Withholds g (.await id) { g with state := .signonPending }
  | resumed {x : SessionId} (awaits : g.awaits = true) :
      Withholds g (.reply (.sessionValid x)) { g with state := .active x }
  | refused {failure : Failure} (awaits : g.awaits = true) :
      Withholds g (.reply (.signonFailureNotice failure)) { g with state := .awaitingSignon }
  | leaving {signoffSeen : Bool} : Withholds g .close { g with signoffSeen }

/-- What a gate whose channel carries a session makes of a text. -/
inductive LetsThrough (g : Gate) (text : String) : Inbound → Gate → Prop where
  | forwarded (message : Phase.isFrame text = false) : LetsThrough g text (.forward text) g
  | dropped (frame : Phase.isFrame text = true) : LetsThrough g text .drop g
  | refused {failure : Failure} (frame : Phase.isFrame text = true) :
      LetsThrough g text (.reply (.signonFailureNotice failure)) g
  | leaving {signoffSeen : Bool} (frame : Phase.isFrame text = true) :
      LetsThrough g text .close { g with signoffSeen }

variable {g : Gate} {s : State} {id : SignonId} {text : String} {x : SessionId}

theorem withholds_onPhase (hs : g.session? = none) (p : Phase) :
    g.Withholds (g.onPhase s id p).1 (g.onPhase s id p).2.1 := by
  unfold onPhase
  split
  · simp only [hs, Option.isSome_none, Bool.false_eq_true, if_false]
    split
    · next hawaits => exact .began hawaits
    · exact .dropped
  · split
    · next hawaits => exact .began hawaits
    · exact .dropped
  · split
    · next hawaits =>
      split
      · exact .resumed hawaits
      · exact .refused hawaits
    · exact .dropped
  · exact .leaving
  · exact .dropped

theorem withholds_onText (hr : g.authenticationRequired = true) (hs : g.session? = none) :
    g.Withholds (g.onText s id text).1 (g.onText s id text).2.1 := by
  have hadmits : g.admitsApplication = false := by simp [admitsApplication, hr, hs]
  unfold onText
  split
  · rw [hadmits]
    exact .dropped
  · exact .dropped
  · exact withholds_onPhase hs _

theorem letsThrough_onPhase (hs : g.state = .active x) (hframe : Phase.isFrame text = true)
    (p : Phase) :
    g.LetsThrough text (g.onPhase s id p).1 (g.onPhase s id p).2.1 := by
  have hsession : g.session? = some x := by simp [session?, hs]
  have hawaits : g.awaits = false := by simp [awaits, hs]
  unfold onPhase
  simp only [hsession, hawaits, Option.isSome_some, if_true, Bool.false_eq_true, if_false]
  split
  · exact .refused hframe
  · exact .dropped hframe
  · exact .dropped hframe
  · exact .leaving hframe
  · exact .dropped hframe

theorem letsThrough_onText (hs : g.state = .active x) :
    g.LetsThrough text (g.onText s id text).1 (g.onText s id text).2.1 := by
  have hadmits : g.admitsApplication = true := by simp [admitsApplication, session?, hs]
  have hframe (hd : Phase.decodeText text ≠ none) : Phase.isFrame text = true := by
    cases hf : Phase.isFrame text with
    | true => rfl
    | false => exact absurd (Phase.decodeText_eq_none.2 hf) hd
  unfold onText
  split
  · next hd =>
    rw [hadmits]
    exact .forwarded (Phase.decodeText_eq_none.1 hd)
  · next hd => exact .dropped (hframe (by simp [hd]))
  · next hd => exact letsThrough_onPhase hs (hframe (by simp [hd])) _

end Gate

/-! ### Runs of a connection -/

/-- What may happen to a connection next. The state is whatever others have made of it by then. -/
inductive Moment where
  /-- A turn; `fresh` is the name of a signon, should one begin. -/
  | turn (s : State) (fresh : SignonId) (t : Turn)
  /-- The signon that is awaited will have no outcome. -/
  | abandoned (s : State)
  /-- The socket takes no more frames. -/
  | choked (s : State)

namespace Moment

def message? : Moment → Option String
  | turn _ _ (.incoming (.text text)) => if Phase.isFrame text then none else some text
  | _ => none

def queued? (c : ChannelId) : Moment → Option Outbound
  | turn s _ .outbound => (s.take c).map Prod.fst
  | _ => none

end Moment

namespace Connection

/-- What a moment does, up to the end that it may bring; with the state in which the gate would
report it. -/
def meet (app : Application) (c : Connection) : Moment → Option (Connection × State)
  | .turn s fresh t => c.act app fresh s t
  | .abandoned s => c.awaited.map fun _ => c.onOutcome s (.error .abandoned)
  | .choked s => some ({ c with writable := false }, s)

/-- The connection after a moment, if it can have one. -/
def pass (app : Application) (c : Connection) (m : Moment) : Option Connection :=
  if c.ended then none
  else (c.meet app m).map fun (c, s) => if c.ended then (c.finish s).1 else c

theorem pass_turn (app : Application) (c : Connection) (s : State) (fresh : SignonId) (t : Turn) :
    c.pass app (.turn s fresh t) = (c.turn app fresh s t).map Prod.fst := by
  unfold pass turn meet
  split
  · rfl
  · rw [Option.map_map]
    congr 1
    funext r
    simp only [Function.comp]
    split <;> rfl

def follow (app : Application) (c : Connection) (ms : List Moment) :
    Option Connection := ms.foldlM (pass app) c

/-- The client was told that its session is valid. -/
def Greeted (c : Connection) : Prop := ∃ x, .text (Phase.sessionValid x).encode ∈ c.written

/-- The moment takes the connection from `c` to `c'`, which tells the client, on its own account,
that its session is valid. -/
structure Welcomes (m : Moment) (c c' : Connection) : Prop where
  own : m.queued? c.channel = none
  told : ∃ x, c'.written = c.written ++ [.text (Phase.sessionValid x).encode]

/-- The run `ms` of a connection comes to the moment `m`, after the moments `before`. -/
structure Comes (app : Application) (c₀ : Connection) (ms before : List Moment) (m : Moment)
    (later : List Moment) (c c' : Connection) : Prop where
  split : ms = before ++ m :: later
  reached : c₀.follow app before = some c
  passed : c.pass app m = some c'

/-- In the run `ms` the connection has told its client, on its own account, that its session is
valid. -/
def Welcomed (app : Application) (c₀ : Connection) (ms : List Moment) : Prop :=
  ∃ before m later c c', Comes app c₀ ms before m later c c' ∧ Welcomes m c c'

variable {app : Application} {c₀ c c₁ c' : Connection} {m : Moment} {ms : List Moment}

theorem follow_append {later : List Moment} :
    c₀.follow app (ms ++ later) = (c₀.follow app ms).bind fun c => c.follow app later :=
  List.foldlM_append

theorem follow_cons : c.follow app (m :: ms) = (c.pass app m).bind fun c => c.follow app ms :=
  List.foldlM_cons

theorem follow_snoc :
    c₀.follow app (ms ++ [m]) = (c₀.follow app ms).bind fun c => c.pass app m := by
  rw [follow_append]
  congr 1
  funext c
  rw [follow_cons]
  cases c.pass app m <;> rfl

/-! ### One moment -/

theorem write_cases (c : Connection) (f : Written) :
    c.write f = { c with written := c.written ++ [f] } ∨ c.write f = { c with ended := true } := by
  unfold write
  split
  · exact .inl rfl
  · exact .inr rfl

theorem meet_of_pass (h : c.pass app m = some c') :
    c.ended = false ∧ ∃ c₁ s, c.meet app m = some (c₁, s) ∧ c'.written = c₁.written ∧
      c'.delivered = c₁.delivered ∧
      (c'.ended = false → c' = c₁) := by
  unfold pass at h
  split at h
  · simp at h
  · next hended =>
    obtain ⟨⟨c₁, s⟩, hmeet, hc⟩ := Option.map_eq_some_iff.1 h
    refine ⟨by simpa using hended, c₁, s, hmeet, ?_⟩
    dsimp only at hc
    split at hc
    · next hend =>
      subst hc
      refine ⟨rfl, rfl, fun ho => ?_⟩
      have hstill : (c₁.finish s).1.ended = c₁.ended := rfl
      simp [hstill, hend] at ho
    · subst hc
      exact ⟨rfl, rfl, fun _ => rfl⟩

/-- **What a moment makes of a connection** that has not ended. -/
inductive Meets (app : Application) (c : Connection) (m : Moment) : Connection → Prop where
  | outcome {s : State} {o : Except RegistryError Outcome} (awaits : c.awaited.isSome = true)
      (queue : m.queued? c.channel = none) (message : m.message? = none) :
      Meets app c m (c.onOutcome s o).1
  | outbound {o : Outbound} (queue : m.queued? c.channel = some o) (message : m.message? = none) :
      Meets app c m (c.onOutbound o)
  | text {s : State} {fresh : SignonId} {text : String}
      (turn : m = .turn s fresh (.incoming (.text text))) :
      Meets app c m (c.onText app fresh s text).1
  | leaving (queue : m.queued? c.channel = none) (message : m.message? = none) :
      Meets app c m c.hangUp
  /-- Nothing is written or handed on, and the gate stays as it is. -/
  | idle {watchdog : Watchdog} {writable ended : Bool} (queue : m.queued? c.channel = none)
      (message : m.message? = none) : Meets app c m { c with watchdog, writable, ended }

theorem meets_of_meet {s : State} (h : c.meet app m = some (c₁, s)) : Meets app c m c₁ := by
  cases m with
  | choked s =>
    obtain rfl := congrArg Prod.fst (Option.some.inj h)
    exact .idle rfl rfl
  | abandoned s =>
    obtain ⟨id, hawaited, hc⟩ := Option.map_eq_some_iff.1 h
    obtain rfl := congrArg Prod.fst hc
    exact .outcome (by simp [hawaited]) rfl rfl
  | turn s' fresh t =>
    have h : c.act app fresh s' t = some (c₁, s) := h
    unfold act at h
    cases t with
    | kicked =>
      dsimp only at h
      split at h
      · obtain rfl := congrArg Prod.fst (Option.some.inj h)
        exact .leaving rfl rfl
      · simp at h
    | outcome =>
      obtain ⟨o, ho, hc⟩ := Option.map_eq_some_iff.1 h
      obtain ⟨id, hawaited, -⟩ := Option.bind_eq_some_iff.1 ho
      obtain rfl := congrArg Prod.fst hc
      exact .outcome (by simp [hawaited]) rfl rfl
    | outbound =>
      obtain ⟨⟨o, s''⟩, htake, hc⟩ := Option.map_eq_some_iff.1 h
      obtain rfl := congrArg Prod.fst hc
      exact .outbound (by simp [Moment.queued?, htake]) rfl
    | silence =>
      dsimp only at h
      split at h
      · obtain rfl := congrArg Prod.fst (Option.some.inj h)
        exact .leaving rfl rfl
      · simp at h
    | incoming f =>
      obtain rfl := congrArg Prod.fst (Option.some.inj h)
      cases f with
      | text text => exact .text rfl
      | _ => exact .idle rfl rfl

/-- Nothing passes: authentication is required, there is no session, and a signon that is awaited is
under way. -/
structure Barred (c : Connection) : Prop where
  required : c.gate.authenticationRequired = true
  session : c.gate.session? = none
  pending : c.awaited.isSome = true → c.gate.awaits = false

/-- The connection has ended, or nothing passes; and nothing has passed. -/
structure Locked (c : Connection) : Prop where
  delivered : c.delivered = []
  barred : c.ended = false → c.Barred

/-- The connection has ended, or carries a session. -/
def Serving (c : Connection) :
    Prop := c.ended = false → ∃ x, c.gate.state = .active x ∧ c.awaited = none

/-- A moment in which the door stays shut: what is written is no word of a valid session, unless it
was in the queue, and no message from there. -/
structure Shut (c : Connection) (m : Moment) (c' : Connection) : Prop where
  locked : c'.Locked
  news : ∃ news, c'.written = c.written ++ news ∧ ∀ x, .text (Phase.sessionValid x).encode ∈ news →
    ∃ y, m.queued? c.channel = some (.phase (.sessionValid y))
  unsent : ∀ text, m.queued? c.channel = some (.application text) → c'.written = c.written

/-- The moment in which it opens. -/
structure Opens (c : Connection) (m : Moment) (c' : Connection) : Prop where
  delivered : c'.delivered = []
  serving : c'.Serving
  welcomes : Welcomes m c c'

/-- A moment in which it is open: what is read is handed on, and nothing is said of a valid session
but what was in the queue. -/
structure Open (c : Connection) (m : Moment) (c' : Connection) : Prop where
  delivered : c'.delivered.map Prod.snd = c.delivered.map Prod.snd ++ m.message?.toList
  serving : c'.Serving
  news : ∃ news, c'.written = c.written ++ news ∧ ∀ x, .text (Phase.sessionValid x).encode ∈ news →
    m.queued? c.channel ≠ none

/-! ### Before the client is told -/

section Locked

variable {f : Written}

theorem written_write :
    (c.write f).written = c.written ∨ (c.write f).written = c.written ++ [f] := by
  rcases write_cases c f with he | he
  · exact .inr (by rw [he])
  · exact .inl (by rw [he])

theorem delivered_write : (c.write f).delivered = c.delivered := by
  rcases write_cases c f with he | he <;> rw [he]

theorem Barred.write (h : c.Barred) : (c.write f).Barred := by
  rcases write_cases c f with he | he <;> rw [he] <;> exact ⟨h.required, h.session, h.pending⟩

/-- Nothing was written, or one frame that did not come from the queue and speaks of no valid
session. -/
theorem shut_of_written (hl : c₁.Locked)
    (hw : c₁.written = c.written ∨ ∃ f, c₁.written = c.written ++ [f] ∧
      (∀ x, f = .text (Phase.sessionValid x).encode → ∃ y, m.queued? c.channel =
      some (.phase (.sessionValid y))) ∧ ∀ text, m.queued? c.channel ≠ some (.application text)) :
    Shut c m c₁ := by
  refine ⟨hl, ?_, fun text htext => ?_⟩
  · rcases hw with hw | ⟨f, hw, hf, -⟩
    · exact ⟨[], by simp [hw], by simp⟩
    · refine ⟨[f], hw, fun x hx => hf x ?_⟩
      exact (List.mem_singleton.1 hx).symm
  · rcases hw with hw | ⟨f, -, -, hqueue⟩
    · exact hw
    · exact absurd htext (hqueue text)

variable {c₂ : Connection} {x : SessionId}

theorem shut_of_reply {p : Phase} (hw : c₂.written = c.written) (hd : c₂.delivered = [])
    (hb : c₂.Barred) (hp : p.kind ≠ .sessionValid) (hq : m.queued? c.channel = none) :
    Shut c m (c₂.writePhase p) := by
  refine shut_of_written ⟨delivered_write.trans hd, fun _ => hb.write⟩ ?_
  rcases written_write (c := c₂) (f := .text p.encode) with he | he
  · exact .inl (he.trans hw)
  · refine .inr ⟨.text p.encode, he.trans (by rw [hw]), fun x hx => ?_, by simp [hq]⟩
    exact absurd (congrArg Phase.kind (Phase.eq_of_encode (Written.text.inj hx))) hp

theorem shut_of_hangUp (hw : c₂.written = c.written) (hd : c₂.delivered = [])
    (hq : m.queued? c.channel = none) : Shut c m c₂.hangUp := by
  refine shut_of_written ⟨delivered_write.trans hd, fun ho => by simp [hangUp] at ho⟩ ?_
  rcases written_write (c := c₂) (f := .close) with he | he
  · exact .inl (he.trans hw)
  · exact .inr ⟨.close, he.trans (by rw [hw]), by simp, by simp [hq]⟩

/-- The client is told that its session is valid, unless the socket does not take the frame. -/
theorem opens_or_shut (hw : c₂.written = c.written) (hd : c₂.delivered = [])
    (hactive : c₂.gate.state = .active x) (hawaited : c₂.awaited = none)
    (hq : m.queued? c.channel = none) :
    Shut c m (c₂.writePhase (.sessionValid x)) ∨ Opens c m (c₂.writePhase (.sessionValid x)) := by
  unfold writePhase
  rcases write_cases c₂ (.text (Phase.sessionValid x).encode) with he | he
  · rw [he]
    exact .inr ⟨hd, fun _ => ⟨x, hactive, hawaited⟩, hq, x, by rw [hw]⟩
  · rw [he]
    exact .inl (shut_of_written ⟨hd, by simp⟩ (.inl hw))

theorem Barred.onOutcome (hb : c.Barred) (hd : c.delivered = []) (s : State)
    (o : Except RegistryError Outcome) (hq : m.queued? c.channel = none) :
    Shut c m (c.onOutcome s o).1 ∨ Opens c m (c.onOutcome s o).1 := by
  have hrefused (state : GateState) (hs : state = .awaitingSignon ∨ state = .awaitingSecondary)
      {p : Phase} (hp : p.kind ≠ .sessionValid) :
      Shut c m
        (Connection.writePhase { c with gate := { c.gate with state }, awaited := none } p) := by
    refine shut_of_reply rfl hd ⟨hb.required, ?_, fun h => by cases h⟩ hp hq
    rcases hs with rfl | rfl <;> rfl
  cases o with
  | error e =>
    exact .inl (hrefused .awaitingSignon (.inl rfl) (p := .signonFailureNotice e.asFailure)
      (by simp [Phase.kind]))
  | ok o =>
    cases o with
    | accepted x login =>
      show Shut c m (Connection.writePhase _ _) ∨ Opens c m (Connection.writePhase _ _)
      exact opens_or_shut rfl hd rfl rfl hq
    | needsSecondary t =>
      exact .inl (hrefused .awaitingSecondary (.inr rfl) (p := .secondarySignonNeeded t)
        (by simp [Phase.kind]))
    | denied failure =>
      exact .inl (hrefused .awaitingSignon (.inl rfl) (p := .signonFailureNotice failure)
        (by simp [Phase.kind]))

theorem Barred.onText (hb : c.Barred) (hd : c.delivered = []) (s : State) (fresh : SignonId)
    (text : String) (hq : m.queued? c.channel = none) :
    Shut c m (c.onText app fresh s text).1 ∨ Opens c m (c.onText app fresh s text).1 := by
  have hgate : c.gate.Withholds (c.gate.onText s fresh text).1 (c.gate.onText s fresh text).2.1 :=
    Gate.withholds_onText hb.required hb.session
  have hawaited (h : c.gate.awaits = true) : c.awaited = none := by
    cases ha : c.awaited with
    | none => rfl
    | some id =>
      have hp := hb.pending (by simp [ha])
      simp [h] at hp
  unfold Connection.onText
  generalize c.gate.onText s fresh text = result at hgate ⊢
  obtain ⟨inbound, gate, s'⟩ := result
  dsimp only at hgate ⊢
  cases hgate with
  | dropped => exact .inl (shut_of_written ⟨hd, fun _ => hb⟩ (.inl rfl))
  | began => exact .inl (shut_of_written ⟨hd, fun _ => ⟨hb.required, rfl, fun _ => rfl⟩⟩ (.inl rfl))
  | resumed awaits =>
    dsimp only
    exact opens_or_shut rfl hd rfl (hawaited awaits) hq
  | refused awaits =>
    dsimp only
    refine .inl (shut_of_reply rfl hd ⟨hb.required, rfl, fun hsome => ?_⟩ (by simp [Phase.kind]) hq)
    simp [hawaited awaits] at hsome
  | leaving =>
    dsimp only
    exact .inl (shut_of_hangUp rfl hd hq)

theorem Barred.onOutbound (hb : c.Barred) (hd : c.delivered = []) {o : Outbound}
    (hq : m.queued? c.channel = some o) : Shut c m (c.onOutbound o) := by
  cases o with
  | phase p =>
    refine shut_of_written ⟨delivered_write.trans hd, fun _ => hb.write⟩ ?_
    rcases written_write (c := c) (f := .text p.encode) with he | he
    · exact .inl he
    · refine .inr ⟨.text p.encode, he, fun x hx => ?_, by simp [hq]⟩
      obtain rfl := Phase.eq_of_encode (Written.text.inj hx)
      exact ⟨x, hq⟩
  | application text =>
    have hadmits : c.gate.admitsOutbound = false := by
      simp [Gate.admitsOutbound, Gate.admitsApplication, hb.required, hb.session]
    unfold Connection.onOutbound
    rw [hadmits]
    exact shut_of_written ⟨hd, fun _ => hb⟩ (.inl rfl)

theorem Barred.meets (hb : c.Barred) (hd : c.delivered = []) (h : Meets app c m c₁) :
    Shut c m c₁ ∨ Opens c m c₁ := by
  cases h with
  | outcome awaits queue message => exact hb.onOutcome hd _ _ queue
  | outbound queue message => exact .inl (hb.onOutbound hd queue)
  | text turn => exact hb.onText hd _ _ _ (by rw [turn]; rfl)
  | leaving queue message => exact .inl (shut_of_hangUp rfl hd queue)
  | idle queue message =>
    exact .inl (shut_of_written ⟨hd, fun _ => ⟨hb.required, hb.session, hb.pending⟩⟩ (.inl rfl))

/-- **One moment** of a connection that lets nothing through. -/
theorem Locked.pass (h : c.Locked) (hp : c.pass app m = some c') : Shut c m c' ∨ Opens c m c' := by
  obtain ⟨hended, c₁, s, hmeet, hwritten, hdelivered, hsame⟩ := meet_of_pass hp
  rcases (h.barred hended).meets h.delivered (meets_of_meet hmeet) with hshut | hopens
  · refine .inl ⟨⟨hdelivered.trans hshut.locked.delivered, fun ho => ?_⟩, ?_, fun text htext => ?_⟩
    · obtain rfl := hsame ho
      exact hshut.locked.barred ho
    · rw [hwritten]
      exact hshut.news
    · exact hwritten.trans (hshut.unsent text htext)
  · refine .inr ⟨hdelivered.trans hopens.delivered, fun ho => ?_, hopens.welcomes.own, ?_⟩
    · obtain rfl := hsame ho
      exact hopens.serving ho
    · rw [hwritten]
      exact hopens.welcomes.told

end Locked

/-! ### Afterwards -/

section Serving

variable {f : Written} {x : SessionId}

/-- Nothing was written, or one frame that came from the queue or speaks of no valid session. -/
theorem open_of_written
    (hd : c₁.delivered.map Prod.snd = c.delivered.map Prod.snd ++ m.message?.toList)
    (hs : c₁.Serving)
    (hw : c₁.written = c.written ∨ c₁.written = c.written ++ [f] ∧ ∀ x,
      f = .text (Phase.sessionValid x).encode → m.queued? c.channel ≠ none) : Open c m c₁ := by
  refine ⟨hd, hs, ?_⟩
  rcases hw with hw | ⟨hw, hf⟩
  · exact ⟨[], by simp [hw], by simp⟩
  · exact ⟨[f], hw, fun x hx => hf x (List.mem_singleton.1 hx).symm⟩

theorem Serving.write (h : c.Serving) : (c.write f).Serving := by
  rcases write_cases c f with he | he
  · rw [he]
    exact h
  · rw [he]
    exact fun ho => by simp at ho

theorem open_of_write (hs : c.Serving) (hm : m.message? = none)
    (hf : ∀ x, f = .text (Phase.sessionValid x).encode → m.queued? c.channel ≠ none) :
    Open c m (c.write f) := by
  refine open_of_written ?_ hs.write (written_write.imp (fun he => he) fun he => ⟨he, hf⟩)
  rw [hm, Option.toList_none, List.append_nil, delivered_write]

theorem open_of_hangUp {c₂ : Connection} (hw : c₂.written = c.written)
    (hd : c₂.delivered = c.delivered) (hm : m.message? = none) : Open c m c₂.hangUp := by
  refine open_of_written (f := .close) ?_ (fun ho => by simp [hangUp] at ho) ?_
  · rw [hm, Option.toList_none, List.append_nil]
    exact congrArg _ (delivered_write.trans hd)
  · rw [← hw]
    exact written_write.imp (fun he => he) fun he => ⟨he, by simp⟩

theorem Serving.onText (hs : c.Serving) (hactive : c.gate.state = .active x) (s : State)
    (fresh : SignonId) (text : String) :
    Open c (.turn s fresh (.incoming (.text text))) (c.onText app fresh s text).1 := by
  have hgate : c.gate.LetsThrough text (c.gate.onText s fresh text).1
      (c.gate.onText s fresh text).2.1 := Gate.letsThrough_onText hactive
  have hnone (hframe : Phase.isFrame text = true) :
      (Moment.turn s fresh (.incoming (.text text))).message? = none := by
    simp [Moment.message?, hframe]
  unfold Connection.onText
  generalize c.gate.onText s fresh text = result at hgate ⊢
  obtain ⟨inbound, gate, s'⟩ := result
  dsimp only at hgate ⊢
  cases hgate with
  | forwarded message =>
    exact open_of_written (f := .close) (by simp [Moment.message?, message]) hs (.inl rfl)
  | dropped frame => exact open_of_written (f := .close) (by simp [hnone frame]) hs (.inl rfl)
  | refused frame =>
    refine open_of_write hs (hnone frame) fun x hx => ?_
    exact absurd (Phase.eq_of_encode (Written.text.inj hx)) (by simp)
  | leaving frame =>
    dsimp only
    exact open_of_hangUp rfl rfl (hnone frame)

theorem Serving.onOutbound (hs : c.Serving) {o : Outbound} (hq : m.queued? c.channel = some o)
    (hm : m.message? = none) : Open c m (c.onOutbound o) := by
  have hwrite (f : Written) : Open c m (c.write f) := open_of_write hs hm fun _ _ => by simp [hq]
  cases o with
  | phase p => exact hwrite _
  | application text =>
    show Open c m (if c.gate.admitsOutbound then c.write (.text text) else c)
    split
    · exact hwrite _
    · exact open_of_written (f := .close) (by simp [hm]) hs (.inl rfl)

theorem Serving.meets (hs : c.Serving) (hended : c.ended = false) (h : Meets app c m c₁) :
    Open c m c₁ := by
  obtain ⟨x, hactive, hawaited⟩ := hs hended
  cases h with
  | outcome awaits queue message => simp [hawaited] at awaits
  | outbound queue message => exact hs.onOutbound queue message
  | text turn =>
    subst turn
    exact hs.onText hactive _ _ _
  | leaving queue message => exact open_of_hangUp rfl rfl message
  | idle queue message =>
    exact open_of_written (f := .close) (by simp [message]) (fun _ => ⟨x, hactive, hawaited⟩)
      (.inl rfl)

/-- **One moment** of a connection that carries a session. -/
theorem Serving.pass (hs : c.Serving) (hp : c.pass app m = some c') : Open c m c' := by
  obtain ⟨hended, c₁, s, hmeet, hwritten, hdelivered, hsame⟩ := meet_of_pass hp
  have hopen := hs.meets hended (meets_of_meet hmeet)
  refine ⟨?_, fun ho => ?_, ?_⟩
  · rw [hdelivered]
    exact hopen.delivered
  · obtain rfl := hsame ho
    exact hopen.serving ho
  · rw [hwritten]
    exact hopen.news

end Serving

/-! ### Runs -/

section Run

variable {before later : List Moment}

theorem Serving.follow (hs : c.Serving) (h : c.follow app ms = some c') :
    c'.Serving ∧
      c'.delivered.map Prod.snd = c.delivered.map Prod.snd ++ ms.filterMap Moment.message? ∧
      c.written <+: c'.written := by
  induction ms using List.reverseRecOn generalizing c' with
  | nil =>
    obtain rfl : c = c' := Option.some.inj h
    exact ⟨hs, by simp, List.prefix_rfl⟩
  | append_singleton ms m ih =>
    rw [follow_snoc] at h
    obtain ⟨c₁, hc₁, hp⟩ := Option.bind_eq_some_iff.1 h
    obtain ⟨hs₁, hdelivered, hwritten⟩ := ih hc₁
    have hopen := hs₁.pass hp
    refine ⟨hopen.serving, ?_, hwritten.trans ?_⟩
    · rw [hopen.delivered, hdelivered, List.append_assoc, List.filterMap_append]
      cases hm : m.message? <;> simp [hm]
    · obtain ⟨news, he, -⟩ := hopen.news
      exact ⟨news, he.symm⟩

theorem Comes.append (h : Comes app c₀ ms before m later c c') (more : List Moment) :
    Comes app c₀ (ms ++ more) before m (later ++ more) c c' where
  split := by simp [h.split]
  reached := h.reached
  passed := h.passed

theorem Welcomed.append (h : Welcomed app c₀ ms) (more : List Moment) :
    Welcomed app c₀ (ms ++ more) := by
  obtain ⟨before, m, later, c, c', hcomes, hwelcomes⟩ := h
  exact ⟨before, m, later ++ more, c, c', hcomes.append more, hwelcomes⟩

theorem Comes.rest (h : Comes app c₀ ms before m later c c') {cₙ : Connection}
    (hms : c₀.follow app ms = some cₙ) :
    c'.follow app later = some cₙ := by
  rw [h.split, follow_append, h.reached, Option.bind_some, follow_cons, h.passed,
    Option.bind_some] at hms
  exact hms

/-- **How a run stands**: nothing has passed, and if the client was told of a valid session, that
was in the queue; or there is the moment in which it was welcomed. -/
inductive Standing (app : Application) (c₀ : Connection) (ms : List Moment) (c : Connection) :
    Prop where
  | locked (h : c.Locked) (queued : c.Greeted → ∃ before m later b b' x,
      Comes app c₀ ms before m later b b' ∧
      m.queued? b.channel = some (.phase (.sessionValid x)))
  | welcomed {before later : List Moment} {m : Moment} {b b' : Connection}
      (comes : Comes app c₀ ms before m later b b')
      (opens : Opens b m b') (rest : b'.follow app later = some c)

theorem Opens.greeted {b b' : Connection} (h : Opens b m b') (rest : b'.follow app later = some c) :
    c.Greeted := by
  obtain ⟨x, hx⟩ := h.welcomes.told
  obtain ⟨-, -, hprefix⟩ := h.serving.follow rest
  refine ⟨x, hprefix.subset ?_⟩
  rw [hx]
  exact List.mem_append_right _ List.mem_cons_self

theorem Opens.welcomed {b b' : Connection} (h : Opens b m b')
    (hcomes : Comes app c₀ ms before m later b b') : Welcomed app c₀ ms :=
  ⟨before, m, later, b, b', hcomes, h.welcomes⟩

namespace Standing

theorem held (h : Standing app c₀ ms c) (hg : ¬ c.Greeted) : c.delivered = [] := by
  cases h with
  | locked hlocked => exact hlocked.delivered
  | welcomed comes opens rest => exact absurd (opens.greeted rest) hg

/-- Until the connection itself has spoken nothing is handed over, whatever others had queued. -/
theorem shut (h : Standing app c₀ ms c) (hw : ¬ Welcomed app c₀ ms) : c.delivered = [] := by
  cases h with
  | locked hlocked => exact hlocked.delivered
  | welcomed comes opens rest => exact absurd (opens.welcomed comes) hw

end Standing

theorem Opens.passed {b b' : Connection} (h : Opens b m b') (rest : b'.follow app later = some c) :
    c.delivered.map Prod.snd = later.filterMap Moment.message? := by
  obtain ⟨-, hdelivered, -⟩ := h.serving.follow rest
  rw [hdelivered, h.delivered]
  rfl

end Run

end Connection

namespace Sample

def connected : State := stateAfter 10 [.openChannel client address 8]

def granted : State :=
  stateAfter 10 [.openChannel client address 8, .spawn ⟨0⟩ (.primary "carol" ⟨"secret"⟩ client),
    .start ⟨0⟩ session, .answerPrimary ⟨0⟩ .accepted token]

end Sample

end DurableSession.Server
