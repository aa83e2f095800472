import DurableSession.Client.Loop
import DurableSession.Proofs.Client.Transition

/-!
What happens to a connector, moment by moment.

A moment is a command of the user, an event, a message that is to be sent, or a stretch of time. In
a run each connection attempt reports its end at most once, and each timer fires at most once;
anything else may happen at any time. `Turn` says everything that a moment can do to the status, the
connection attempt, the timers and the signals.
-/

namespace DurableSession.Client

open Lifecycle (Phase SessionId Failure Token Secret)
open Handshake (Descriptor)
open Timing (Boundary WordSource)

/-- What may happen to a connector. -/
inductive Moment where
  | command (k : Command)
  | event (e : Event)
  | send (text : String)
  | advance (ms : Nat)
deriving DecidableEq

namespace Moment

def attempt? : Moment → Option DialId
  | event (.dialed attempt _) => some attempt
  | _ => none

def firing? : Moment → Option (TimerId × TimerKind)
  | event (.timerFired id kind) => some (id, kind)
  | _ => none

end Moment

namespace Connector

def step (c : Connector) : Moment → Connector
  | .command k => (c.command k).2
  | .event e => c.handle e
  | .send text => (c.send text).2
  | .advance ms => c.advance ms

/-- The handle that a command returns, if it is granted. -/
def returned? (c : Connector) : Moment → Option (Command × Signal)
  | .command k => (c.command k).1.toOption.map fun s => (k, s)
  | _ => none

/-- The server says that the session is busy when the connector has already been stopped. -/
def untimely (c : Connector) : Moment → Bool
  | .event (.text link text) =>
    c.snapshot.status = .stopping && c.link? = some link && c.resume.isSome &&
      match Phase.decodeText text with
      | some (.ok (.signonFailureNotice .sessionBusy)) => true
      | _ => false
  | _ => false

end Connector

/-! ### Runs -/

/-- A connector to which nothing has happened yet. -/
structure Setup where
  boundary : Boundary
  hasSupplier : Bool := true
  hasInbox : Bool := true
  words : WordSource := {}

namespace Setup

def connector (u : Setup) : Connector :=
  { boundary := u.boundary
    hasSupplier := u.hasSupplier
    hasInbox := u.hasInbox
    timers := { words := u.words } }

def after (u : Setup) (past : List Moment) : Connector := past.foldl Connector.step u.connector

end Setup

namespace Connector

def returned (c : Connector) : List Moment → List (Command × Signal)
  | [] => []
  | m :: later => (c.returned? m).toList ++ (c.step m).returned later

/-- A connection attempt that was begun reports its end once, and a timer that was scheduled fires
once. -/
def Admissible (past : List Moment) (c : Connector) (m : Moment) : Prop :=
  (∀ d ∈ m.attempt?, d.number < c.nextDial ∧ ∀ m' ∈ past, m'.attempt? ≠ some d) ∧
    ∀ f ∈ m.firing?, f.1.number < c.timers.next ∧ ∀ m' ∈ past, m'.firing? ≠ some f

instance (past : List Moment) (c : Connector) (m : Moment) : Decidable (c.Admissible past m) :=
  inferInstanceAs (Decidable (_ ∧ _))

/-- Moments may follow a past that has led to `c`, one after the other. -/
def Follow (past : List Moment) (c : Connector) : List Moment → Prop
  | [] => True
  | m :: later => c.Admissible past m ∧ Follow (past ++ [m]) (c.step m) later

instance decidableFollow : (past : List Moment) → (c : Connector) → (later : List Moment) →
    Decidable (Follow past c later)
  | _, _, [] => isTrue trivial
  | past, c, m :: later =>
    have := decidableFollow (past ++ [m]) (c.step m) later
    inferInstanceAs (Decidable (c.Admissible past m ∧ _))

end Connector

/-- **Runs** of a connector. -/
def Run (u : Setup) (past : List Moment) : Prop := Connector.Follow [] u.connector past

instance (u : Setup) (past : List Moment) : Decidable (Run u past) :=
  inferInstanceAs (Decidable (Connector.Follow ..))

section Runs

variable {u : Setup} {c : Connector} {past later before : List Moment} {m : Moment}

theorem Connector.follow_append {ahead : List Moment} : Connector.Follow past c (later ++ ahead) ↔
    Connector.Follow past c later ∧
      Connector.Follow (past ++ later) (later.foldl Connector.step c) ahead := by
  induction later generalizing past c with
  | nil => simp [Connector.Follow]
  | cons m later ih =>
    rw [List.cons_append, Connector.Follow, ih, Connector.Follow, and_assoc, List.append_assoc]
    rfl

theorem run_append :
    Run u (past ++ later) ↔ Run u past ∧ Connector.Follow past (u.after past) later :=
  Connector.follow_append

theorem run_snoc : Run u (past ++ [m]) ↔ Run u past ∧ (u.after past).Admissible past m := by
  rw [run_append, Connector.Follow, Connector.Follow, and_true]

theorem Setup.after_snoc : u.after (past ++ [m]) = (u.after past).step m :=
  List.foldl_append

theorem Connector.returned_append : c.returned (past ++ later) =
    c.returned past ++ (past.foldl Connector.step c).returned later := by
  induction past generalizing c with
  | nil => rfl
  | cons m past ih => simp [Connector.returned, ih]

theorem Connector.returned_snoc : c.returned (past ++ [m]) =
    c.returned past ++ ((past.foldl Connector.step c).returned? m).toList := by
  rw [Connector.returned_append, Connector.returned, Connector.returned, List.append_nil]

end Runs

/-! ### A short course -/

namespace Sample

def setup : Setup := { boundary := .lenient }
def server : Descriptor := ⟨"1.0", true, .lenient⟩
def session : SessionId := ⟨"session-1", by decide⟩

/-- A connector starts, connects and signs on. -/
def signon : List Moment :=
  [.command .start, .event (.dialed ⟨1⟩ (some server)),
    .event (.credentials ⟨1⟩ (some ⟨"carol", ⟨"secret"⟩⟩)),
    .event (.text ⟨1⟩ (Phase.encode (.sessionValid session)))]

/-- The server does not answer a ping, so that the channel is given up and another one is wanted. -/
def silence : List Moment :=
  signon ++ [.advance 30000, .event (.timerFired ⟨0⟩ .ping), .advance 10000,
    .event (.timerFired ⟨1⟩ .pongTimeout),
    .event (.linkClosed ⟨1⟩), .event (.timerFired ⟨2⟩ .reconnect)]

/-- The server calls the session busy after the user has stopped the connector. -/
def lateRefusal : List Moment :=
  signon ++ [.command .stop, .event (.text ⟨1⟩ (Phase.encode (.signonFailureNotice .sessionBusy)))]

/-- The timer that is scheduled then. -/
def stray : Timer := ⟨⟨1⟩, .reconnect, 1000⟩

end Sample

namespace Connector

/-! ### Small steps -/

/-- The signals were completed, and no others. -/
def Marks (before : List SignalId) (signals : List Signal) (after : List SignalId) : Prop :=
  ∀ id, id ∈ after ↔ id ∈ before ∨ .awaited id ∈ signals

section Small

variable {c : Connector}

theorem Marks.append {before between after : List SignalId} {l l' : List Signal}
    (h : Marks before l between) (h' : Marks between l' after) : Marks before (l ++ l') after := by
  intro id
  rw [h' id, h id, List.mem_append, or_assoc]

theorem complete_eq (c : Connector) (s : Signal) :
    ∃ completed, c.complete s = { c with completed } ∧ Marks c.completed [s] completed := by
  cases s with
  | settled => exact ⟨c.completed, rfl, by simp [Marks]⟩
  | awaited id =>
    refine ⟨_, rfl, ?_⟩
    intro id'
    rw [List.mem_singleton, Signal.awaited.injEq]
    split
    · next h =>
      constructor
      · exact .inl
      · rintro (h' | rfl)
        · exact h'
        · exact h
    · rw [List.mem_cons, or_comm]

theorem completeStart_eq (c : Connector) :
    ∃ completed, c.completeStart = { c with completed } ∧
      Marks c.completed c.snapshot.parts.start.toList completed := by
  unfold completeStart
  cases c.snapshot.parts.start with
  | some s => exact complete_eq c s
  | none => exact ⟨c.completed, rfl, by simp [Marks]⟩

theorem closeLink_eq (c : Connector) :
    ∃ more, c.closeLink = { c with wishes := c.wishes ++ more } ∧
      ∀ d, Wish.cancelDial d ∉ more := by
  unfold closeLink
  split
  · exact ⟨[_], rfl, by simp⟩
  · exact ⟨[], by simp, by simp⟩

theorem ask_eq (c : Connector) (link : LinkId) (r : Request) :
    ∃ more, c.ask link r = { c with wishes := c.wishes ++ more } ∧
      ∀ d, Wish.cancelDial d ∉ more := by
  unfold ask
  split
  · exact ⟨[_], rfl, by simp⟩
  · exact ⟨[], by simp, by simp⟩

theorem cancelDial_eq (c : Connector) :
    ∃ more, c.cancelDial = { c with dial := none, wishes := c.wishes ++ more } ∧
      ∀ d, Wish.cancelDial d ∈ more → c.dial = some d := by
  unfold cancelDial
  cases hd : c.dial with
  | none => exact ⟨[], by simp [← hd], by simp⟩
  | some d => exact ⟨[.cancelDial d], rfl, by simp⟩

end Small

/-! ### Turns -/

/-- The timer waits for a delay that is drawn from the range in force. -/
def Delays (c : Connector) (t : Timer) : Prop :=
  t.deadline = c.now + (c.policy.reconnectRange.sample c.timers.words).1.toNat

/-- Nothing has changed but the time, whom the connector signs on as, and what it wants outside. -/
inductive Aside (c : Connector) : Connector → Prop where
  | mk (now : Nat) (session : Option SessionId) (resume : Option Resume)
      (pendingLogin : Option String) (more : List Wish) (spared : ∀ d, Wish.cancelDial d ∉ more) :
      Aside c { c with now, session, resume, pendingLogin, wishes := c.wishes ++ more }

/-- **What a moment does** to a connector, and the handle that it returns. -/
inductive Turn (c : Connector) : Moment → Option (Command × Signal) → Connector → Prop where
  /-- Nothing that a transition depends on. -/
  | idle {m : Moment} {c' : Connector} (aside : Aside c c')
      (attempt : ∀ d, m.attempt? = some d → c.dial ≠ some d)
      (firing : ∀ id kind t, m.firing? = some (id, kind) →
        c.snapshot.timerOf kind = some t → t.id ≠ id)
      (timely : c.untimely m = false) : Turn c m none c'
  | started {s : Snapshot LinkId} {d : Descriptor} {timeout : Nat}
      (status : c.snapshot.status = .stopped)
      (parts : s.parts =
        { status := .connecting, start := some (.awaited ⟨c.nextSignal⟩), descriptor := some d }) :
      Turn c (.command .start) (some (.start, .awaited ⟨c.nextSignal⟩))
        { c with
          snapshot := s
          nextSignal := c.nextSignal + 1
          dial := some ⟨c.nextDial⟩
          nextDial := c.nextDial + 1
          wishes := c.wishes ++ [.dial ⟨c.nextDial⟩ timeout] }
  /-- A stop waits for the channel to be closed. -/
  | stopping {k : Command} {s : Snapshot LinkId} {link : LinkId} {session : Option SessionId}
      {resume : Option Resume} {completed : List SignalId} {more : List Wish}
      (command : k = .stop ∨ k = .signoff) (status : c.snapshot.Attached)
      (channel : c.snapshot.parts.channel = some link)
      (parts : s.parts = { c.snapshot.parts with
        status := .stopping
        start := none
        stop := some (.awaited ⟨c.nextSignal⟩)
        reconnectTimer := none
        pingTimer := none
        pongTimer := none
        login := none })
      (marks : Marks c.completed c.snapshot.parts.start.toList completed)
      (told : .close link ∈ more) (spared : ∀ d, Wish.cancelDial d ∉ more) :
      Turn c (.command k) (some (k, .awaited ⟨c.nextSignal⟩))
        { c with
          snapshot := s
          session
          resume
          pendingLogin := none
          nextSignal := c.nextSignal + 1
          completed
          timers := c.timers.cancelAll c.snapshot.timers
          wishes := c.wishes ++ more }
  /-- A stop without a channel is done at once. -/
  | halted {k : Command} {s : Snapshot LinkId} {completed : List SignalId} {more : List Wish}
      (command : k = .stop ∨ k = .signoff)
      (status : c.snapshot.status = .connecting)
      (parts : s.parts = { c.snapshot.parts with
        status := .stopped
        channel := none
        start := none
        stop := some (.awaited ⟨c.nextSignal⟩)
        reconnectTimer := none
        pingTimer := none
        pongTimer := none
        login := none })
      (marks : Marks c.completed
        (c.snapshot.parts.start.toList ++ [.awaited ⟨c.nextSignal⟩]) completed)
      (spared : ∀ d, .cancelDial d ∈ more → c.dial = some d) :
      Turn c (.command k) (some (k, .awaited ⟨c.nextSignal⟩))
        { c with
          snapshot := s
          pendingLogin := none
          dial := none
          nextSignal := c.nextSignal + 1
          completed
          timers := c.timers.cancelAll c.snapshot.timers
          wishes := c.wishes ++ more }
  | abandoned {s : Snapshot LinkId} {stop : Signal} {completed : List SignalId} {more : List Wish}
      (status : c.snapshot.Attached ∨ c.snapshot.status = .stopping)
      (signal : c.snapshot.parts.stop.getD .settled = stop)
      (parts : s.parts =
        { status := .stopped, stop := some stop, descriptor := c.snapshot.parts.descriptor })
      (marks : Marks c.completed (c.snapshot.parts.start.toList ++ [stop]) completed)
      (spared : ∀ d, Wish.cancelDial d ∉ more) :
      Turn c (.command .emergencyStop) (some (.emergencyStop, stop))
        { c with
          snapshot := s
          pendingLogin := none
          completed
          timers := c.timers.cancelAll c.snapshot.timers
          wishes := c.wishes ++ more }
  | stopped {s : Snapshot LinkId} {stop : Signal} {link : LinkId} {completed : List SignalId}
      (status : c.snapshot.status = .stopping) (signal : c.snapshot.parts.stop = some stop)
      (parts : s.parts = { c.snapshot.parts with status := .stopped, channel := none })
      (marks : Marks c.completed [stop] completed) :
      Turn c (.event (.linkClosed link)) none { c with snapshot := s, completed }
  /-- A connection attempt failed. -/
  | failed {d : DialId} {s : Snapshot LinkId} {timer : Timer} {timers : Timers}
      (dial : c.dial = some d) (status : c.snapshot.status = .connecting)
      (parts : s.parts = { c.snapshot.parts with channel := none, reconnectTimer := some timer })
      (scheduled : c.timers.Schedules .reconnect timer timers) (delays : c.Delays timer) :
      Turn c (.event (.dialed d none)) none { c with snapshot := s, dial := none, timers }
  /-- A connection attempt succeeded. -/
  | opened {d : DialId} {server : Descriptor} {s : Snapshot LinkId} {timer : Timer}
      {timers : Timers} {completed : List SignalId} {more : List Wish} (dial : c.dial = some d)
      (status : c.snapshot.status = .connecting)
      (parts : s.parts = { c.snapshot.parts with
        status := .connected
        channel := some ⟨c.nextLink⟩
        descriptor := some server
        reconnectTimer := none
        pingTimer := some timer
        pongTimer := none })
      (scheduled : c.timers.Schedules .ping timer timers)
      (marks : Marks c.completed
        (if server.authenticationRequired then [] else c.snapshot.parts.start.toList) completed)
      (spared : ∀ d, Wish.cancelDial d ∉ more) :
      Turn c (.event (.dialed d (some server))) none
        { c with
          snapshot := s
          dial := none
          nextLink := c.nextLink + 1
          completed
          timers
          wishes := c.wishes ++ more }
  /-- It is time for another connection attempt. -/
  | redialed {t : Timer} {more : List Wish} {timeout : Nat}
      (status : c.snapshot.status = .connecting) (held : c.snapshot.parts.reconnectTimer = some t)
      (spared : ∀ d, .cancelDial d ∈ more → c.dial = some d) :
      Turn c (.event (.timerFired t.id .reconnect)) none
        { c with
          dial := some ⟨c.nextDial⟩
          nextDial := c.nextDial + 1
          wishes := c.wishes ++ more ++ [.dial ⟨c.nextDial⟩ timeout] }
  /-- The channel is gone, or given up. -/
  | lost {m : Moment} {s : Snapshot LinkId} {timer : Timer} {timers : Timers} {more : List Wish}
      (status : c.snapshot.Attached)
      (parts : s.parts = { c.snapshot.parts with
        status := .connecting
        channel := none
        reconnectTimer := some timer
        pingTimer := none
        pongTimer := none })
      (scheduled : (c.timers.cancelAll c.snapshot.timers).Schedules .reconnect timer timers)
      (spared : ∀ d, Wish.cancelDial d ∉ more) (delays : c.Delays timer) :
      Turn c m none
        { c with snapshot := s, pendingLogin := none, timers, wishes := c.wishes ++ more }
  /-- The channel is given up, but the connector has already been stopped. -/
  | misled {m : Moment} {timer : Timer} {timers : Timers} {more : List Wish}
      (status : c.snapshot.status = .stopping) (untimely : c.untimely m = true)
      (scheduled : (c.timers.cancelAll c.snapshot.timers).Schedules .reconnect timer timers)
      (spared : ∀ d, Wish.cancelDial d ∉ more) (delays : c.Delays timer) :
      Turn c m none
        { c with
          pendingLogin := none
          timers
          wishes := c.wishes ++ more
          refused := c.refused ++ [.transition "channel_lost" .stopping] }
  | pinged {t : Timer} {s : Snapshot LinkId} {timer : Timer} {timers : Timers} {more : List Wish}
      (status : c.snapshot.Attached) (held : c.snapshot.parts.pingTimer = some t)
      (parts : s.parts = { c.snapshot.parts with pingTimer := none, pongTimer := some timer })
      (scheduled : c.timers.Schedules .pongTimeout timer timers)
      (spared : ∀ d, Wish.cancelDial d ∉ more) :
      Turn c (.event (.timerFired t.id .ping)) none
        { c with snapshot := s, timers, wishes := c.wishes ++ more }
  | ponged {t : Timer} {s : Snapshot LinkId} {timer : Timer} {timers : Timers} {link : LinkId}
      (status : c.snapshot.Attached) (held : c.snapshot.parts.pongTimer = some t)
      (parts : s.parts = { c.snapshot.parts with pingTimer := some timer, pongTimer := none })
      (scheduled : (c.timers.cancel t.id).Schedules .ping timer timers) :
      Turn c (.event (.pong link)) none { c with snapshot := s, timers }
  | signedIn {s : Snapshot LinkId} {login : String} {link : LinkId} {text : String}
      {session : Option SessionId} {resume : Option Resume} {completed : List SignalId}
      (status : c.snapshot.status = .connected)
      (parts : s.parts = { c.snapshot.parts with status := .signedIn, login := some login })
      (marks : Marks c.completed c.snapshot.parts.start.toList completed) :
      Turn c (.event (.text link text)) none
        { c with
          snapshot := s
          session
          resume
          pendingLogin := none
          completed }

end Connector

end DurableSession.Client
