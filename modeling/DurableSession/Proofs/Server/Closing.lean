import Mathlib.Logic.Function.Iterate
import DurableSession.Proofs.Registry.Edit
import DurableSession.Proofs.Server.Departure
import DurableSession.Proofs.Server.Moves
import DurableSession.Proofs.Server.Resumption

/-!
The end of a channel touches only what is the channel's.

A gate that reports the end of its channel may be late: its session may be resumed on another
channel by then, its login taken over, its record gone. Each of the three things it does asks first
whether the channel is still meant. Main statements: `edit_farewell` for records and logins,
`onClosed_again` for a gate that reports twice, and `closing_spares`, in any state and for a gate
that stands anywhere.
-/

namespace DurableSession.Server

open Lifecycle (SessionId)

namespace Gate

variable {g : Gate} {s : State} {x : SessionId} {rec : Record}

/-! ### Records and logins -/

/-- The gate ends the session with its channel, if it is bound to it: the one that it carries, or
any for which a signon on the channel is under way. -/
def Ends (g : Gate) (x : SessionId) : Prop :=
  g.session? = some x ∨ g.state = .signonPending ∨ g.state = .awaitingSecondary

instance (g : Gate) (x : SessionId) : Decidable (g.Ends x) := inferInstanceAs (Decidable (_ ∨ _))

/-- What becomes of a record when the gate reports the end of its channel. -/
def ended (g : Gate) (now : Nat) (x : SessionId) (rec : Record) : Option Record :=
  if g.Ends x then Registry.closeRecord now g.channel (g.session?.isSome && g.signoffSeen) rec
    else some rec

theorem ended_of_elsewhere {now : Nat} (h : rec.channel ≠ some g.channel) :
    g.ended now x rec = some rec := by
  unfold ended
  split
  · exact if_pos h
  · rfl

theorem unbound_of_ended {now : Nat} {rec' : Record} (hends : g.Ends x)
    (h : g.ended now x rec = some rec') :
    rec'.channel ≠ some g.channel := by
  rw [ended, if_pos hends] at h
  exact Registry.unbound_of_closeRecord h

/-- **The report of a gate** edits the records that are bound to its channel. -/
theorem edit_farewell :
    Registry.Edit (g.ended s.now) none s.registry (s.performAll g.farewell).registry := by
  have hstate {y : SessionId} (hs : g.state = .active y) : g.session? = some y :=
    session?_eq_some.2 hs
  rw [registry_farewell]
  split
  · next y hs =>
    refine Registry.edit_close.congr fun x rec _ => ?_
    simp only [Registry.only, ended, Ends, hs, hstate hs, Option.some.injEq, reduceCtorEq, or_false,
      Option.isSome_some, Bool.true_and]
  · next hs =>
    refine Registry.edit_releaseChannel.congr fun x rec _ => ?_
    simp [ended, Ends, session?, hs]
  · next hs =>
    refine Registry.edit_releaseChannel.congr fun x rec _ => ?_
    simp [ended, Ends, session?, hs]
  · next hs => exact .unchanged fun x rec _ => by simp [ended, Ends, session?, hs]
  · next hs => exact .unchanged fun x rec _ => by simp [ended, Ends, session?, hs]

theorem ownerOf_onClosed {login : String} (h : ∀ x, s.registry.ownerOf login = some x →
    (s.registry.record? x).bind Record.channel ≠ some g.channel) :
    (g.onClosed s).2.registry.ownerOf login = s.registry.ownerOf login := by
  refine Option.ext fun x => ?_
  rw [onClosed_snd, edit_farewell.owner]
  refine ⟨fun ho => ho.1, fun ho => ⟨ho, fun rec hx _ => ?_⟩⟩
  have helse : rec.channel ≠ some g.channel := by simpa [hx] using h x ho
  simp [ended_of_elsewhere helse]

theorem onClosed_rest :
    ∃ registry routes channels, (g.onClosed s).2 = { s with registry, routes, channels } := by
  rw [onClosed_snd]
  unfold farewell
  cases g.state with
  | active x =>
    obtain ⟨routes, hr⟩ := (s.perform (.kick g.channel)).perform_unregister x g.channel
    simp only [State.performAll_cons, State.performAll_nil, hr]
    exact ⟨_, routes, s.channels.kick g.channel, rfl⟩
  | signonPending => exact ⟨_, s.routes, s.channels.kick g.channel, rfl⟩
  | awaitingSecondary => exact ⟨_, s.routes, s.channels.kick g.channel, rfl⟩
  | awaitingSignon => exact ⟨s.registry, s.routes, s.channels.kick g.channel, rfl⟩
  | closed => exact ⟨s.registry, s.routes, s.channels.kick g.channel, rfl⟩

/-! ### Twice -/

theorem onClosed_fst : (g.onClosed s).1 = { g with state := .closed } := by
  unfold onClosed
  cases g.state <;> rfl

/-- A gate that has reported the end of its channel has nothing to report any more. -/
theorem onClosed_again (hg : g.state = .closed)
    (hk : s.Known g.channel → s.isKicked g.channel = true) :
    g.onClosed s = (g, s) := by
  have hchannels : s.channels.kick g.channel = s.channels := by
    refine Table.modify_eq_self fun ch hch => ?_
    have hkicked : s.isKicked g.channel = true := hk (by rw [State.Known, hch, Option.isSome_some])
    rw [State.isKicked, hch, Option.map_some, Option.getD_some] at hkicked
    unfold Channel.kick
    rw [← hkicked]
  unfold onClosed State.kick
  simp only [hchannels, hg]
  rw [← hg]

theorem isKicked_onClosed (hk : s.Known g.channel) :
    (g.onClosed s).2.isKicked g.channel = true := by
  obtain ⟨ch, hch⟩ := Option.isSome_iff_exists.1 hk
  rw [onClosed_snd, State.isKicked, channels_farewell, Channels.kick, Table.find?_modify,
    if_pos rfl, hch]
  rfl

theorem known_onClosed : (g.onClosed s).2.Known g.channel ↔ s.Known g.channel := by
  rw [onClosed_snd, State.Known, channels_farewell, Channels.kick, Channels.isSome_modify]
  rfl

/-- The channel stays kicked, so that the gate has nothing to report later either. -/
theorem onClosed_late {history later : List Operation} (hk : s.Known g.channel)
    (hf : Follow history (g.onClosed s).2 later) :
    (g.onClosed s).1.onClosed ((g.onClosed s).2.performAll later) =
      ((g.onClosed s).1, (g.onClosed s).2.performAll later) := by
  have hkicked : ((g.onClosed s).2.performAll later).isKicked g.channel = true :=
    State.isKicked_performAll hf (isKicked_onClosed hk)
  refine onClosed_again ?_ fun _ => ?_
  · rw [onClosed_fst]
  · rw [onClosed_fst]
    exact hkicked

/-! ### The end of a channel -/

/-- **The end of a channel**, as its gate reports it in the state `s`. What is bound to another
channel or to none stays, other channels are not kicked, and nothing but records, logins, routes and
the channel is touched. What the gate ends is not bound to the channel any more, which is kicked;
and to report the end once more, at once or after whatever has happened since, changes nothing. -/
structure Closing (g : Gate) (s : State) : Prop where
  records : ∀ x, (s.registry.record? x).bind Record.channel ≠ some g.channel →
    (g.onClosed s).2.registry.record? x = s.registry.record? x
  logins : ∀ login, (∀ x, s.registry.ownerOf login = some x →
      (s.registry.record? x).bind Record.channel ≠ some g.channel) →
    (g.onClosed s).2.registry.ownerOf login = s.registry.ownerOf login
  challenges : ∀ t, (g.onClosed s).2.registry.challenges.find? t = s.registry.challenges.find? t
  routes : ∀ x, s.routes.find? x ≠ some g.channel → (g.onClosed s).2.routes.find? x =
    s.routes.find? x
  channels : ∀ d, d ≠ g.channel → (g.onClosed s).2.channels.find? d = s.channels.find? d
  rest : ∃ registry routes channels, (g.onClosed s).2 = { s with registry, routes, channels }
  released : ∀ x rec, g.Ends x → (g.onClosed s).2.registry.record? x = some rec →
    rec.channel ≠ some g.channel
  kicked : s.Known g.channel → (g.onClosed s).2.isKicked g.channel = true
  repeated : ∀ n, (fun p : Gate × State => p.1.onClosed p.2)^[n] (g.onClosed s) = g.onClosed s
  late : ∀ history later, s.Known g.channel → Follow history (g.onClosed s).2 later →
    (g.onClosed s).1.onClosed ((g.onClosed s).2.performAll later) =
      ((g.onClosed s).1, (g.onClosed s).2.performAll later)

/-- **The end of a channel touches only what is the channel's**, whatever the state and wherever its
gate stands. -/
theorem closing_spares (g : Gate) (s : State) : g.Closing s where
  records x hx := by
    rw [onClosed_snd, edit_farewell.record]
    cases hrec : s.registry.record? x with
    | none => rfl
    | some rec => exact ended_of_elsewhere (by simpa [hrec] using hx)
  logins login hlogin := ownerOf_onClosed hlogin
  challenges t := by
    rw [onClosed_snd, edit_farewell.challenge, if_neg (by simp)]
  routes x hx := by
    rw [onClosed_snd, route_farewell, if_neg fun h => hx h.2]
  channels d hd := by
    rw [onClosed_snd, channels_farewell, Channels.kick, Table.find?_modify, if_neg (Ne.symm hd)]
  rest := onClosed_rest
  released x rec hends hx := by
    rw [onClosed_snd, edit_farewell.record] at hx
    obtain ⟨rec₀, -, hrec⟩ := Option.bind_eq_some_iff.1 hx
    exact unbound_of_ended hends hrec
  kicked := isKicked_onClosed
  repeated n := by
    refine Function.iterate_fixed (onClosed_again ?_ ?_) n
    · rw [onClosed_fst]
    · rw [onClosed_fst]
      exact fun hk => isKicked_onClosed (known_onClosed.1 hk)
  late _ _ hk hf := onClosed_late hk hf

end Gate

/-- Carol resumes her session on another channel before the end of the first one is reported: it
stays hers there. -/
example :
    let s := stateAfter 10 (Sample.signon ++ [.kick Sample.client,
      .openChannel Sample.otherClient Sample.address 8,
      .reuse Sample.session Sample.otherClient])
    let g : Gate :=
      { channel := Sample.client
        authenticationRequired := true
        state := .active Sample.session }
    s.registry.record? Sample.session ≠ none ∧
      (g.onClosed s).2.registry.record? Sample.session = s.registry.record? Sample.session := by
  decide +kernel

end DurableSession.Server
