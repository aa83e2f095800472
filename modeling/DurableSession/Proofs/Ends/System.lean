import Mathlib.Logic.Function.Basic
import DurableSession.Proofs.Client.Conduct
import DurableSession.Proofs.Server.Moves

/-!
Connectors and a server, joined by links.

A system is any number of connectors, the gatehouse of one server, and the lines between them. A
line carries texts both ways, in order, and may break at any time: each end then learns of it by
itself, and what is still on its way may be lost or come late. Whoever supplies credentials, and the
authenticators, answer when and what they like.
-/

namespace DurableSession.Ends

open Lifecycle (Phase SessionId)
open Client (Connector LinkId DialId Moment Request Supply Setup)
open Server (ChannelId SignonId Gatehouse Operation)
open Handshake (Descriptor)
open Network (SocketAddress)

/-- A connector, and the questions to its supplier of credentials that wait for an answer. -/
structure Party where
  connector : Connector
  asked : LinkId → List Request := fun _ => []

/-- A channel of a connector, and the texts on their way. -/
structure Line where
  client : Nat
  /-- The link under which the connector knows the channel, once it does. -/
  link : Option LinkId := none
  up : List String := []
  down : List String := []

/-- Connectors, a server and the lines between them. -/
structure System where
  window : Nat
  /-- What the server tells clients of itself. -/
  server : Descriptor
  parties : Nat → Party
  lines : ChannelId → Option Line := fun _ => none
  /-- What has happened at the server. -/
  log : List Server.Event := []

/-- What is given at the beginning. -/
structure Setting where
  window : Nat
  server : Descriptor
  setups : Nat → Setup

/-- What may happen in a system. -/
inductive Happening where
  /-- A connector takes a moment by itself. -/
  | client (i : Nat) (m : Moment)
  /-- The supplier answers a question. -/
  | supplied (i : Nat) (link : LinkId) (r : Request) (answer : Supply)
  /-- A channel of a connector arrives at the server. -/
  | arrive (i : Nat) (c : ChannelId) (remote : SocketAddress) (capacity : Nat)
  /-- The connection attempt that led to the channel succeeds. -/
  | opened (i : Nat) (attempt : DialId) (c : ChannelId)
  /-- The server reads a text; `fresh` is the name of a signon, should one begin. -/
  | up (c : ChannelId) (fresh : SignonId)
  /-- The connector reads a text. -/
  | down (c : ChannelId)
  /-- The server's application sends a text. -/
  | emit (c : ChannelId) (text : String)
  /-- Anything else happens at the server. -/
  | server (e : Server.Event)

/-- How an answer of the supplier comes in, if it is one to the question. -/
def event? (link : LinkId) : Request → Supply → Option Client.Event
  | .secondaryCode t, .code supplied => some (.secondaryCode link t supplied)
  | .secondaryCode _, .credentials _ => none
  | _, .credentials supplied => some (.credentials link supplied)
  | _, .code _ => none

/-- The channel on which somebody connects or sends. -/
def visited? : Server.Event → Option ChannelId
  | .arrive c _ _ _ | .text c _ _ => some c
  | _ => none

def Setting.system (u : Setting) : System :=
  { window := u.window
    server := u.server
    parties := fun i => { connector := (u.setups i).connector } }

namespace System

variable (S : System)

def connector (i : Nat) : Connector := (S.parties i).connector

def house : Gatehouse := .after S.window S.log

def performed : List Operation := Gatehouse.performed S.window S.log

def change (c : ChannelId) (f : Line → Line) : System :=
  { S with lines := fun d => if d = c then (S.lines d).map f else S.lines d }

/-- Put up a line. -/
def join (c : ChannelId) (l : Line) :
    System := { S with lines := fun d => if d = c then some l else S.lines d }

def settle (i : Nat) (link : LinkId) (r : Request) : System :=
  { S with parties := Function.update S.parties i { S.parties i with
      asked := Function.update (S.parties i).asked link (((S.parties i).asked link).erase r) } }

/-- A connector takes a moment: its texts are sent, and its questions are put. -/
def act (i : Nat) (m : Moment) : System :=
  let connector := (S.connector i).step m
  { S with
    parties := Function.update S.parties i
      { connector := { connector with wishes := [] }
        asked := fun k => (S.parties i).asked k ++ connector.questions k }
    lines := fun c => (S.lines c).map fun l =>
      if l.client = i then { l with up := l.up ++ l.link.elim [] connector.said } else l }

/-- Something happens at the server: its answer is sent. -/
def happen (e : Server.Event) : System :=
  { S with
    log := S.log ++ [e]
    lines := fun c => (S.lines c).map fun l =>
      if e.channel? = some c then
        { l with down := l.down ++ (S.house.answer? e).toList.map Phase.encode } else l }

/-- The gate of a channel lets texts of the application out. -/
def admits (c : ChannelId) :
    Bool := ((S.house.posts.find? c).map fun p => p.gate.admitsOutbound).getD false

def step : Happening → System
  | .client i m => S.act i m
  | .supplied i link r answer =>
    match event? link r answer with
    | some e => (S.settle i link r).act i (.event e)
    | none => S
  | .arrive i c remote capacity =>
    (S.happen (.arrive c remote capacity S.server.authenticationRequired)).join c { client := i }
  | .opened i attempt c =>
    (S.change c fun l => { l with link := some ⟨(S.connector i).nextLink⟩ }).act i
      (.event (.dialed attempt (some S.server)))
  | .up c fresh =>
    match S.lines c with
    | some { up := text :: rest, .. } =>
      (S.change c fun l => { l with up := rest }).happen (.text c fresh text)
    | _ => S
  | .down c =>
    match S.lines c with
    | some { client := i, link := some k, down := text :: rest, .. } =>
      (S.change c fun l => { l with down := rest }).act i (.event (.text k text))
    | _ => S
  | .emit c text =>
    if S.admits c then S.change c fun l => { l with down := l.down ++ [text] } else S
  | .server e => S.happen e

def Allows (e : Server.Event) : Prop := S.house.Admissible (S.log.foldl Gatehouse.extend []) e

instance (e : Server.Event) :
    Decidable (S.Allows e) := inferInstanceAs (Decidable (Gatehouse.Admissible ..))

/-- The supplier answers what it was asked, an attempt succeeds with a channel of its own, names at
the server are new, nobody else uses a line, and applications send no text with the mark. -/
def Admissible : Happening → Prop
  | .client i m => (S.connector i).Free m
  | .supplied i link r answer => r ∈ (S.parties i).asked link ∧ (event? link r answer).isSome
  | .arrive _ c remote capacity =>
    S.lines c = none ∧ S.Allows (.arrive c remote capacity S.server.authenticationRequired)
  | .opened i attempt c =>
    (S.connector i).dial = some attempt ∧ (S.connector i).snapshot.status = .connecting ∧
      ∃ l ∈ S.lines c, l.client = i ∧ l.link = none
  | .up _ fresh => S.house.state.signons.find? fresh = none
  | .down _ => True
  | .emit _ text => Phase.isFrame text = false
  | .server e => S.Allows e ∧ ∀ c ∈ visited? e, S.lines c = none

instance decidableAdmissible : (a : Happening) → Decidable (S.Admissible a)
  | .client i m => inferInstanceAs (Decidable ((S.connector i).Free m))
  | .supplied i link r _ => inferInstanceAs (Decidable (r ∈ (S.parties i).asked link ∧ _))
  | .arrive _ c _ _ => inferInstanceAs (Decidable (S.lines c = none ∧ S.Allows _))
  | .opened i attempt c =>
    inferInstanceAs (Decidable ((S.connector i).dial = some attempt ∧ _ ∧ ∃ l ∈ S.lines c, _))
  | .up _ fresh => inferInstanceAs (Decidable (S.house.state.signons.find? fresh = none))
  | .down _ => isTrue trivial
  | .emit _ text => inferInstanceAs (Decidable (Phase.isFrame text = false))
  | .server e => inferInstanceAs (Decidable (S.Allows e ∧ ∀ c ∈ visited? e, S.lines c = none))

/-- Happenings may follow, one after the other. -/
def Follow (S : System) : List Happening → Prop
  | [] => True
  | a :: later => S.Admissible a ∧ Follow (S.step a) later

instance decidableFollow : (S : System) → (later : List Happening) → Decidable (Follow S later)
  | _, [] => isTrue trivial
  | S, a :: later =>
    have := decidableFollow (S.step a) later
    inferInstanceAs (Decidable (S.Admissible a ∧ _))

end System

namespace Setting

def after (u : Setting) (past : List Happening) : System := past.foldl System.step u.system

/-- **Runs** of a system. -/
def Run (u : Setting) (past : List Happening) : Prop := u.system.Follow past

instance (u : Setting) (past : List Happening) : Decidable (u.Run past) :=
  inferInstanceAs (Decidable (System.Follow ..))

end Setting

/-! ### Connections write so -/

section Written

open Server (Connection State Application Turn Written Outbound)

variable {app : Application} {fresh : SignonId} {c c' : Connection} {s' : State} {h : Gatehouse}
  {t : Turn}

/-- What becomes of a frame in the queue. -/
def passes (c : Connection) : Outbound → List Written
  | .phase p => [.text p.encode]
  | .application text => if c.gate.admitsOutbound then [.text text] else []

/-- What a connection has to write in a turn: the answer of its gate, or what the gate lets out of
the queue. -/
def due (c : Connection) (h : Gatehouse) (fresh : SignonId) : Turn → List Written
  | .outcome => (h.answer? (.outcome c.channel)).toList.map fun p => .text p.encode
  | .incoming (.text text) =>
    (h.answer? (.text c.channel fresh text)).toList.map fun p => .text p.encode
  | .outbound => ((h.state.take c.channel).map Prod.fst).toList.flatMap (passes c)
  | _ => []

theorem written_of_write {f : Written} (ho : (c.write f).ended = false) :
    (c.write f).written = c.written ++ [f] := by
  unfold Connection.write at ho ⊢
  split at ho
  · next hw => rw [if_pos hw]
  · cases ho

/-- **Connections write** what is due, until they end. -/
theorem written_of_turn (hp : h.posts.find? c.channel = some c.post)
    (ht : c.turn app fresh h.state t = some (c', s')) (ho : c'.ended = false) :
    c'.written = c.written ++ due c h fresh t := by
  have hact := Connection.act_of_turn ht ho
  cases t with
  | kicked | silence =>
    unfold Connection.act at hact
    dsimp only at hact
    split at hact
    · obtain rfl : c.hangUp = c' := congrArg Prod.fst (Option.some.inj hact)
      simp [Connection.hangUp] at ho
    · cases hact
  | outcome =>
    obtain ⟨o, hout, hc⟩ := Option.map_eq_some_iff.1 hact
    obtain rfl : (c.onOutcome h.state (.ok o)).1 = c' := congrArg Prod.fst hc
    have hanswer : h.answer? (.outcome c.channel) = some (c.gate.onOutcome h.state (.ok o)).1 := by
      simp only [Gatehouse.answer?, hp, Option.bind_some, Connection.post, hout, Option.map_some]
    unfold due
    rw [hanswer]
    exact written_of_write ho
  | outbound =>
    obtain ⟨⟨m, s₀⟩, htake, hc⟩ := Option.map_eq_some_iff.1 hact
    obtain rfl : c.onOutbound m = c' := congrArg Prod.fst hc
    unfold due
    simp only [htake, Option.map_some, Option.toList_some, List.flatMap_singleton]
    unfold Connection.onOutbound passes at *
    cases m with
    | phase p => exact written_of_write ho
    | application text =>
      dsimp only at ho ⊢
      split at ho
      · next hg =>
        rw [if_pos hg, if_pos hg]
        exact written_of_write ho
      · next hg => rw [if_neg hg, if_neg hg, List.append_nil]
  | incoming f =>
    obtain rfl : (c.onIncoming app fresh h.state f).1 = c' :=
      congrArg Prod.fst (Option.some.inj hact)
    cases f with
    | text text =>
      have hanswer : h.answer? (.text c.channel fresh text) =
          (c.gate.onText h.state fresh text).1.reply? := by
        simp only [Gatehouse.answer?, hp, Option.bind_some, Connection.post]
      unfold due
      dsimp only
      rw [hanswer]
      unfold Connection.onIncoming Connection.onText at ho ⊢
      dsimp only at ho ⊢
      generalize c.gate.onText h.state fresh text = result at ho ⊢
      obtain ⟨inbound, gate, s₀⟩ := result
      cases inbound with
      | reply p => exact written_of_write ho
      | close => simp [Connection.hangUp] at ho
      | _ => exact (List.append_nil _).symm
    | _ => exact (List.append_nil _).symm

end Written

/-! ### What a happening does to whom -/

namespace System

variable {S : System} {i j : Nat} {m : Moment} {e : Server.Event}

theorem follow_append {past later : List Happening} :
    S.Follow (past ++ later) ↔ S.Follow past ∧ (past.foldl step S).Follow later := by
  induction past generalizing S with
  | nil => simp [Follow]
  | cons a past ih => rw [List.cons_append, Follow, ih, Follow, and_assoc, List.foldl_cons]

theorem connector_act_self :
    (S.act i m).connector i = { (S.connector i).step m with wishes := [] } := by
  simp [connector, act]

theorem parties_act_ne (h : j ≠ i) : (S.act i m).parties j = S.parties j :=
  Function.update_of_ne h _ _

theorem asked_act_self {k : LinkId} :
    ((S.act i m).parties i).asked k =
      (S.parties i).asked k ++ ((S.connector i).step m).questions k := by
  simp [act]

theorem house_happen : (S.happen e).house = S.house.step e := Gatehouse.after_snoc

theorem performed_happen :
    (S.happen e).performed = S.performed ++ S.house.deeds e := Gatehouse.performed_snoc

end System

theorem Setting.run_snoc {u : Setting} {past : List Happening} {a : Happening} :
    u.Run (past ++ [a]) ↔ u.Run past ∧ (u.after past).Admissible a := by
  unfold Run
  rw [System.follow_append, System.Follow, System.Follow, and_true]
  rfl

theorem Setting.after_snoc {u : Setting} {past : List Happening} {a : Happening} :
    u.after (past ++ [a]) = (u.after past).step a :=
  List.foldl_append

end DurableSession.Ends
