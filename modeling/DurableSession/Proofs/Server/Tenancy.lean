import DurableSession.Proofs.Server.Challenges
import DurableSession.Proofs.Server.Demands

/-!
Which records may be bound to a channel.

A channel stands somewhere: nothing is bound to it, or the session that it carries, or the session
that was challenged on it, or whatever the one signon accounts for that is under way there. Nobody
else binds a session to the channel, so that it stands where it stands until a signon begins or
ends, or a session is resumed. Main statements: `Tenancy.snoc`, for the operations of others, and
`Tenancy.begin`, `Tenancy.told`, `Tenancy.resume` and `Tenancy.refuse` for those of the channel's
gate.
-/

namespace DurableSession.Server

open Lifecycle (SessionId Token Failure Secret)

/-! ### Where a channel stands -/

/-- Where a channel stands. -/
inductive Stand where
  | idle
  | carrying (x : SessionId)
  /-- A challenge was issued on it. -/
  | challenged (t : Token)
  /-- A signon is under way, or nobody has been told yet how it has ended. -/
  | trying (id : SignonId)

def Signon.isDecided (sg : Signon) : Bool :=
  match sg.progress with
  | .decided _ => true
  | _ => false

/-- The record of a session is due to the signon: it waits for the code that the signon brings, or
the signon asks about it, or has got or challenged it. -/
def Signon.Vouches (sg : Signon) (x : SessionId) (rec : Record) : Prop :=
  match sg.progress with
  | .spawned => ∃ t, sg.attempt.token? = some t ∧ rec.state = .pendingSecondary t
  | .asking y _ => y = x
  | .decided (.accepted y _) => y = x
  | .decided (.needsSecondary t) => rec.state = .pendingSecondary t
  | .decided (.denied _) => False

/-- The record of a session may be bound to a channel that stands so. -/
def Stand.Admits (s : State) (x : SessionId) (rec : Record) : Stand → Prop
  | idle => False
  | carrying y => y = x
  | challenged t => rec.state = .pendingSecondary t
  | trying id => ∃ sg, s.signons.find? id = some sg ∧ sg.Vouches x rec

/-- Where a channel stands when its signon has ended. -/
def Outcome.stand : Outcome → Stand
  | accepted x _ => .carrying x
  | needsSecondary t => .challenged t
  | denied _ => .idle

/-- **Tenancy**: where a channel stands says which signon may be under way on it and which records
are bound to it. -/
structure Tenancy (s : State) (c : ChannelId) (stand : Stand) : Prop where
  undecided : ∀ id sg, s.signons.find? id = some sg → sg.attempt.channel = c →
    sg.isDecided = false → stand = .trying id
  bound : ∀ x rec, s.registry.record? x = some rec → rec.channel = some c → stand.Admits s x rec

theorem Conclusion.vouches {s : State} {x : SessionId} {rec rec' : Record} {c : ChannelId}
    {due : Option Token} {o : Outcome} {a : Attempt} (h : Conclusion s x rec c due o (some rec')) :
    Signon.Vouches ⟨a, .decided o⟩ x rec' := by
  cases h with
  | granted attended => rfl
  | challenged wanted => rfl

section Answers

variable {minted : SessionId → Prop} {s : State} {id : SignonId} {c : ChannelId} {x : SessionId}
  {rec rec' : Record} {secret : Secret} {login : String}

/-- A signon that the primary authenticator answers goes on to account for the record of its
session. -/
theorem State.admits_answerPrimary (h : Coherent minted s) {login' : String}
    {verdict : PrimaryVerdict} {fresh : Token}
    (hid : s.signons.find? id = some ⟨.primary login secret c, .asking x login'⟩)
    (hx : s.registry.record? x = some rec)
    (hx' : (s.perform (.answerPrimary id verdict fresh)).registry.record? x = some rec') :
    Stand.Admits (s.perform (.answerPrimary id verdict fresh)) x rec' (.trying id) := by
  obtain ⟨o, hdecided, hconclusion⟩ := conclusion_of_answerPrimary h hid hx
  rw [hx'] at hconclusion
  exact ⟨_, hdecided, hconclusion.vouches⟩

theorem State.admits_answerSecondary {t : Token} {verified : Bool}
    (hid : s.signons.find? id = some ⟨.secondary c t secret, .asking x login⟩)
    (hx : s.registry.record? x = some rec)
    (hx' : (s.perform (.answerSecondary id verified)).registry.record? x = some rec') :
    Stand.Admits (s.perform (.answerSecondary id verified)) x rec' (.trying id) := by
  obtain ⟨o, hdecided, hconclusion⟩ := conclusion_of_answerSecondary hid hx
  rw [hx'] at hconclusion
  exact ⟨_, hdecided, hconclusion.vouches⟩

end Answers

/-- A signon with a password asks about the session that it has got. -/
theorem State.asks_of_minted {s : State} {id : SignonId} {login : String} {secret : Secret}
    {c : ChannelId} {x : SessionId} {rec : Record}
    (hid : s.signons.find? id = some ⟨.primary login secret c, .spawned⟩)
    (hnone : s.registry.record? x = none)
    (hx : (s.perform (.start id x)).registry.record? x = some rec) :
    (s.perform (.start id x)).signons.find? id =
      some ⟨.primary login secret c, .asking x login⟩ := by
  generalize hs' : s.perform (.start id x) = s' at hx ⊢
  have hstart : s.startSignon id x = s' := hs'
  unfold startSignon at hstart
  rw [hid] at hstart
  dsimp only at hstart
  split at hstart
  · rw [← hstart] at hx
    have hx' : s.registry.record? x = some rec := hx
    simp [hnone] at hx'
  · rw [← hstart]
    exact (Table.find?_insert ..).trans (if_pos rfl)

theorem State.record?_of_refused {s : State} {x y : SessionId} {c : ChannelId} {e : RegistryError}
    {rec : Record} (hr : (s.reuse x c).1 = .error e)
    (hy : (s.perform (.reuse x c)).registry.record? y = some rec) :
    s.registry.record? y = some rec := by
  have hfate := State.fate_reuse (s := s) (x := y) (y := x) (c := c)
  rw [hy] at hfate
  generalize ho : s.registry.record? y = o at hfate
  cases hfate with
  | kept => rfl
  | resumed free =>
    have hr' : (s.registry.reuse s.closed s.window s.now x c (s.remoteOf c)).1 = .error e := hr
    unfold Registry.reuse at hr'
    rcases free with ⟨hstate, hlate⟩ | ⟨hstate, hgone⟩
    · simp [ho, hstate, hlate] at hr'
    · simp [ho, hstate, hgone] at hr'
  | disconnected state why => cases why

namespace Tenancy

section State

variable {minted : SessionId → Prop} {s : State} {c : ChannelId} {stand : Stand} {id : SignonId}
  {x : SessionId} {rec : Record} {a : Attempt}

/-- Nothing is bound to a channel that was never opened. -/
theorem of_unknown (h : Coherent minted s) (hc : ¬ s.Known c) : Tenancy s c .idle where
  undecided id sg hid he := absurd (he ▸ h.attempt id sg hid) hc
  bound x rec hx hbound := absurd (h.bound x rec c hx hbound) hc

/-- A signon that asks about a session on the channel is the one that is under way there. -/
theorem eq_trying (ht : Tenancy s c stand) (h : Coherent minted s) {login : String}
    (hid : s.signons.find? id = some ⟨a, .asking x login⟩) (hx : s.registry.record? x = some rec)
    (hc : rec.channel = some c) : stand = .trying id := by
  have hchannel := (h.asking id a x login rec hid hx).2.1
  exact ht.undecided id _ hid (Option.some.inj (hchannel.symm.trans hc)) rfl

end State

/-! ### What others do -/

section Run

variable {window : Nat} {ops later : List Operation} {op : Operation} {c : ChannelId}
  {stand : Stand} {id : SignonId} {x : SessionId} {rec : Record}

theorem undecided_snoc (hr : Run window (ops ++ [op])) (hop : op.binds? ≠ some c)
    (ht : Tenancy (stateAfter window ops) c stand) {sg : Signon}
    (hid : (stateAfter window (ops ++ [op])).signons.find? id = some sg)
    (hc : sg.attempt.channel = c) (hsg : sg.isDecided = false) : stand = .trying id := by
  obtain ⟨hops, ha⟩ := Run.snoc_iff.1 hr
  have hadv := (coherent_of_run hops).advance ha.2.1 id
  rw [← stateAfter_snoc, hid] at hadv
  generalize ho : (stateAfter window ops).signons.find? id = o at hadv
  cases hadv with
  | kept => exact ht.undecided id sg ho hc hsg
  | spawned => exact absurd (congrArg some hc) hop
  | claimed record => exact ht.undecided id _ ho hc rfl
  | refused => simp [Signon.isDecided] at hsg
  | opened => exact ht.undecided id _ ho hc rfl
  | answeredPrimary => simp [Signon.isDecided] at hsg
  | answeredSecondary => simp [Signon.isDecided] at hsg

theorem vouches_snoc (hr : Run window (ops ++ [op]))
    (ht : Tenancy (stateAfter window ops) c (.trying id)) {sg : Signon}
    (hid : (stateAfter window ops).signons.find? id = some sg) (hv : sg.Vouches x rec)
    (hx : (stateAfter window ops).registry.record? x = some rec) (hc : rec.channel = some c)
    (hx' : (stateAfter window (ops ++ [op])).registry.record? x = some rec) :
    ∃ sg, (stateAfter window (ops ++ [op])).signons.find? id = some sg ∧ sg.Vouches x rec := by
  obtain ⟨hops, ha⟩ := Run.snoc_iff.1 hr
  have h := coherent_of_run hops
  have hadv := h.advance ha.2.1 id
  rw [stateAfter_snoc] at hx' ⊢
  generalize hq : ((stateAfter window ops).perform op).signons.find? id = after at hadv
  generalize hb : (stateAfter window ops).signons.find? id = before at hadv
  rw [hb] at hid
  cases hadv with
  | kept => exact ⟨sg, hid, hv⟩
  | spawned =>
    have hnew : (stateAfter window ops).signons.find? id = none := ha.1.1
    simp [hid] at hnew
  | claimed record =>
    obtain rfl := Option.some.inj hid
    obtain ⟨t, ht, -⟩ := hv
    simp [Attempt.token?] at ht
  | @refused fresh a failure =>
    obtain rfl := Option.some.inj hid
    obtain ⟨t, ha', hstate⟩ := hv
    cases a with
    | primary login secret d => simp [Attempt.token?] at ha'
    | secondary d t' code =>
      obtain rfl := Option.some.inj ha'
      -- the challenge is open, so that the code is verified, or the record would be gone
      rcases challenge_of_waiting hops hx hstate with hopen | ⟨id', a, login, hasks⟩
      · rcases State.asks_or_gone fresh hb hopen hx with ⟨a, login, hasks⟩ | hgone
        · simp [hq] at hasks
        · simp [hgone] at hx'
      · obtain rfl := Stand.trying.inj (ht.eq_trying h hasks hx hc)
        simp [hb] at hasks
  | @opened fresh y d t code rec' challenge record state bound answered =>
    obtain rfl := Option.some.inj hid
    obtain ⟨t', ha', hstate⟩ := hv
    obtain rfl := Option.some.inj ha'
    obtain rfl := eq_of_token hops record hx state hstate
    exact ⟨_, rfl, rfl⟩
  | answeredPrimary =>
    obtain rfl := Option.some.inj hid
    obtain rfl := hv
    obtain ⟨sg, hid', hv'⟩ := State.admits_answerPrimary h hb hx hx'
    exact ⟨sg, hq.symm.trans hid', hv'⟩
  | answeredSecondary =>
    obtain rfl := Option.some.inj hid
    obtain rfl := hv
    obtain ⟨sg, hid', hv'⟩ := State.admits_answerSecondary hb hx hx'
    exact ⟨sg, hq.symm.trans hid', hv'⟩

/-- Every record that is bound to the channel was bound to it before, or is due to the signon under
way. -/
theorem bound_snoc (hr : Run window (ops ++ [op])) (hop : op.binds? ≠ some c)
    (ht : Tenancy (stateAfter window ops) c stand)
    (hx : (stateAfter window (ops ++ [op])).registry.record? x = some rec)
    (hc : rec.channel = some c) :
    stand.Admits (stateAfter window (ops ++ [op])) x rec := by
  obtain ⟨hops, ha⟩ := Run.snoc_iff.1 hr
  have h := coherent_of_run hops
  have hfate := h.fate ha.2.1 x
  rw [← stateAfter_snoc, hx] at hfate
  generalize ho : (stateAfter window ops).registry.record? x = o at hfate
  cases hfate with
  | kept =>
    have hadmits := ht.bound x rec ho hc
    cases stand with
    | trying id =>
      obtain ⟨sg, hid, hv⟩ := hadmits
      exact ht.vouches_snoc hr hid hv ho hc hx
    | _ => exact hadmits
  | @minted id login secret d signon =>
    obtain rfl : d = c := Option.some.inj hc
    obtain rfl := ht.undecided id _ signon rfl rfl
    rw [stateAfter_snoc] at hx ⊢
    exact ⟨_, State.asks_of_minted signon ho hx, rfl⟩
  | challenged signon state =>
    obtain rfl := ht.eq_trying h signon ho hc
    rw [stateAfter_snoc] at hx ⊢
    exact State.admits_answerPrimary h signon ho hx
  | accepted signon state attended =>
    obtain rfl := ht.eq_trying h signon ho hc
    rw [stateAfter_snoc] at hx ⊢
    exact State.admits_answerPrimary h signon ho hx
  | verified signon state attended =>
    obtain rfl := ht.eq_trying h signon ho hc
    rw [stateAfter_snoc] at hx ⊢
    exact State.admits_answerSecondary signon ho hx
  | resumed free => exact absurd hc hop
  | disconnected state why => simp [Record.disconnect] at hc

/-- **An operation** that binds nothing to the channel leaves it where it stands. -/
theorem snoc (hr : Run window (ops ++ [op])) (hop : op.binds? ≠ some c)
    (ht : Tenancy (stateAfter window ops) c stand) :
    Tenancy (stateAfter window (ops ++ [op])) c stand where
  undecided _ _ := ht.undecided_snoc hr hop
  bound _ _ := ht.bound_snoc hr hop

theorem append (hr : Run window (ops ++ later)) (hlater : ∀ op ∈ later, op.binds? ≠ some c)
    (ht : Tenancy (stateAfter window ops) c stand) :
    Tenancy (stateAfter window (ops ++ later)) c stand := by
  induction later generalizing ops with
  | nil => simpa using ht
  | cons op later ih =>
    rw [List.append_cons] at hr ⊢
    exact ih hr (fun op' hop' => hlater op' (List.mem_cons_of_mem _ hop'))
      (ht.snoc hr.of_append (hlater op List.mem_cons_self))

end Run

/-! ### What the gate of the channel does -/

section Gate

variable {s : State} {c : ChannelId} {stand : Stand} {id : SignonId} {x : SessionId} {a : Attempt}

/-- A signon begins where none is under way; the records that are bound wait for the code that it
brings. -/
theorem begin (ht : Tenancy s c stand) (hstand : ∀ id, stand ≠ .trying id)
    (hbound : ∀ x rec, s.registry.record? x = some rec → rec.channel = some c →
      ∃ t, a.token? = some t ∧ rec.state = .pendingSecondary t) :
    Tenancy (s.perform (.spawn id a)) c (.trying id) where
  undecided id' sg hid hc hsg := by
    have hid : (s.signons.insert id ⟨a, .spawned⟩).find? id' = some sg := hid
    rw [Table.find?_insert] at hid
    split at hid
    · next he => rw [he]
    · exact absurd (ht.undecided id' sg hid hc hsg) (hstand id')
  bound x rec hx hc := by
    obtain ⟨t, hat, hstate⟩ := hbound x rec hx hc
    exact ⟨⟨a, .spawned⟩, (Table.find?_insert ..).trans (if_pos rfl), t, hat, hstate⟩

theorem told {o : Outcome} (ht : Tenancy s c (.trying id))
    (hid : s.signons.find? id = some ⟨a, .decided o⟩) :
    Tenancy s c o.stand where
  undecided id' sg hid' hc hsg := by
    obtain rfl := Stand.trying.inj (ht.undecided id' sg hid' hc hsg)
    obtain rfl := Option.some.inj (hid.symm.trans hid')
    simp [Signon.isDecided] at hsg
  bound x rec hx hc := by
    obtain ⟨sg, hid', hv⟩ := ht.bound x rec hx hc
    obtain rfl := Option.some.inj (hid.symm.trans hid')
    cases o with
    | accepted y login => exact hv
    | needsSecondary t => exact hv
    | denied failure => exact hv.elim

theorem resume (ht : Tenancy s c stand) (hstand : ∀ id, stand ≠ .trying id)
    (hfree : ∀ x rec, s.registry.record? x = some rec → rec.channel ≠ some c) :
    Tenancy (s.perform (.reuse x c)) c (.carrying x) where
  undecided id sg hid hc hsg := absurd (ht.undecided id sg hid hc hsg) (hstand id)
  bound y rec hy hc := by
    have hfate := State.fate_reuse (s := s) (x := y) (y := x) (c := c)
    rw [hy] at hfate
    generalize ho : s.registry.record? y = o at hfate
    cases hfate with
    | kept => exact absurd hc (hfree y rec ho)
    | resumed free => rfl
    | disconnected state why => simp [Record.disconnect] at hc

theorem refuse {e : RegistryError} (ht : Tenancy s c stand) (hstand : ∀ id, stand ≠ .trying id)
    (hfree : ∀ x rec, s.registry.record? x = some rec → rec.channel ≠ some c)
    (hr : (s.reuse x c).1 = .error e) : Tenancy (s.perform (.reuse x c)) c .idle where
  undecided id sg hid hc hsg := absurd (ht.undecided id sg hid hc hsg) (hstand id)
  bound y rec hy hc := hfree y rec (State.record?_of_refused hr hy) hc

end Gate

end Tenancy

end DurableSession.Server
