import DurableSession.Proofs.Ends.System
import DurableSession.Proofs.Server.Routing
import DurableSession.Proofs.Server.Verdicts

/-!
Whose move it is on a link.

Until a connector is signed in, exactly one party is to say or do something next, if any: the
supplier of credentials, the gate that reads a frame, the authenticators, or the connector that
reads an answer. What it has before it concerns the login that the connector takes for its own.
`Word.Holds` says so, and there is one lemma for each move.
-/

namespace DurableSession.Ends

open Lifecycle (Phase SessionId Token Secret Failure)
open Client (Connector LinkId Request Supply Snapshot)
open Server (ChannelId SignonId Gatehouse Gate Post Operation Attempt Progress MintedFor IssuedFor
  stateAfter)

/-- Whose move it is on a link. -/
inductive Word where
  /-- Nobody's, until the link is given up. -/
  | nobody
  | supplier (r : Request)
  | upward (p : Phase)
  /-- The authenticators', on behalf of the gate. -/
  | gate (id : SignonId)
  | downward (p : Phase)
  /-- Nobody's any more: the connector is signed in. -/
  | settled (x : SessionId)

namespace Word

def asks : Word → List Request
  | supplier r => [r]
  | _ => []

def ups : Word → List String
  | upward p => [p.encode]
  | _ => []

def downs : Word → List String
  | downward p => [p.encode]
  | _ => []

/-- What the gate does in the meantime. -/
def Guards (p : Post) : Word → Prop
  | gate id => p.awaited = some id
  | downward (.sessionValid x) | settled x => p.gate.state = .active x ∧ p.awaited = none
  | _ => p.gate.awaits = true ∧ p.awaited = none

/-- Where the connector stands in the meantime. -/
def Suits (C : Connector) : Word → Prop
  | settled x => C.snapshot.status = .signedIn ∧
      ∃ login, C.snapshot.parts.login = some login ∧ C.session = some x ∧ C.resume = some ⟨x, login⟩
  | _ => C.snapshot.status = .connected

/-- **What the move is about** concerns the login `who`. -/
inductive Concerns (window : Nat) (ops : List Operation) (who : Option String) : Word → Prop where
  | nobody : Concerns window ops who .nobody
  | asked {r : Request} (plain : ∀ t, r ≠ .secondaryCode t) : Concerns window ops who (.supplier r)
  | code {t : Token} {login : String} (whose : who = some login)
      (issued : IssuedFor window ops t login) :
      Concerns window ops who (.supplier (.secondaryCode t))
  | attempt {login : String} {secret : Secret} (whose : who = some login) :
      Concerns window ops who (.upward (.signonAttempt login secret))
  | answer {t : Token} {code : Secret} {login : String} (whose : who = some login)
      (issued : IssuedFor window ops t login) :
      Concerns window ops who (.upward (.secondarySignonAttempt t code))
  | comeback {x : SessionId} {login : String} (whose : who = some login)
      (minted : MintedFor window ops x login) :
      Concerns window ops who (.upward (.resumeSession x))
  | deciding {id : SignonId} {a : Attempt} {p : Progress} {login : String}
      (whose : who = some login) (signon : (stateAfter window ops).signons.find? id = some ⟨a, p⟩)
      (attempt : a.For window ops login) :
      Concerns window ops who (.gate id)
  | valid {x : SessionId} {login : String} (whose : who = some login)
      (minted : MintedFor window ops x login) :
      Concerns window ops who (.downward (.sessionValid x))
  | needed {t : Token} {login : String} (whose : who = some login)
      (issued : IssuedFor window ops t login) :
      Concerns window ops who (.downward (.secondarySignonNeeded t))
  | failed {f : Failure} : Concerns window ops who (.downward (.signonFailureNotice f))
  | settled {x : SessionId} : Concerns window ops who (.settled x)

/-- **Whose move it is**, seen from both ends of a link and from between them. -/
structure Holds (w : Word) (window : Nat) (ops : List Operation) (C : Connector)
    (asked : List Request) (up down : List String) (post : Option Post) : Prop where
  asked : asked = w.asks
  up : up.filter Phase.isFrame = w.ups
  down : down.filter Phase.isFrame = w.downs
  suits : w.Suits C
  concerns : w.Concerns window ops C.claimant?
  guards : ∀ p, post = some p → w.Guards p

section Moves

variable {w : Word} {window : Nat} {ops later : List Operation} {C C' : Connector}
  {asked : List Request} {up up' down down' : List String} {post : Option Post} {k : LinkId}
  {text : String}

/-! ### Time passes -/

theorem signon_append {id : SignonId} {a : Attempt} {p : Progress}
    (hr : Server.Run window (ops ++ later))
    (h : (stateAfter window ops).signons.find? id = some ⟨a, p⟩) :
    ∃ p', (stateAfter window (ops ++ later)).signons.find? id = some ⟨a, p'⟩ := by
  induction later using List.reverseRecOn with
  | nil => exact ⟨p, by rwa [List.append_nil]⟩
  | append_singleton later op ih =>
    rw [← List.append_assoc] at hr ⊢
    obtain ⟨hops, ha⟩ := Server.Run.snoc_iff.1 hr
    obtain ⟨p', hp'⟩ := ih hops
    obtain ⟨p'', hp'', -⟩ := Server.State.progress_perform (Server.coherent_of_run hops)
      ha.1 ha.2.1 hp'
    rw [Server.stateAfter_snoc]
    exact ⟨p'', hp''⟩

theorem Concerns.append {who : Option String} (h : Concerns window ops who w)
    (hr : Server.Run window (ops ++ later)) : Concerns window (ops ++ later) who w := by
  cases h with
  | nobody => exact .nobody
  | asked plain => exact .asked plain
  | code whose issued => exact .code whose issued.append
  | attempt whose => exact .attempt whose
  | answer whose issued => exact .answer whose issued.append
  | comeback whose minted => exact .comeback whose minted.append
  | deciding whose signon attempt =>
    obtain ⟨p', hp'⟩ := signon_append hr signon
    exact .deciding whose hp' attempt.append
  | valid whose minted => exact .valid whose minted.append
  | needed whose issued => exact .needed whose issued.append
  | failed => exact .failed
  | settled => exact .settled

/-- What happens elsewhere at the server does not change whose move it is. -/
theorem Holds.append (h : Holds w window ops C asked up down post)
    (hr : Server.Run window (ops ++ later)) :
    Holds w window (ops ++ later) C asked up down post :=
  ⟨h.asked, h.up, h.down, h.suits, h.concerns.append hr, h.guards⟩

theorem Holds.gone (h : Holds w window ops C asked up down post) :
    Holds w window ops C asked up down none :=
  ⟨h.asked, h.up, h.down, h.suits, h.concerns, by simp⟩

theorem Holds.alike (h : Holds w window ops C asked up down post) (hs : C.Alike C')
    (hup : up'.filter Phase.isFrame = up.filter Phase.isFrame)
    (hdown : down'.filter Phase.isFrame = down.filter Phase.isFrame) :
    Holds w window ops C' asked up' down' post := by
  refine ⟨h.asked, hup.trans h.up, hdown.trans h.down, ?_, ?_, h.guards⟩
  · have hsuits := h.suits
    unfold Suits at hsuits ⊢
    rwa [hs.status, hs.login, hs.session, hs.resume]
  · rw [hs.claimant?_eq]
    exact h.concerns

/-! ### The gate reads -/

theorem Holds.upward_of_frame (h : Holds w window ops C asked (text :: up) down post)
    (hf : Phase.isFrame text = true) :
    ∃ p, w = .upward p ∧ text = p.encode ∧ up.filter Phase.isFrame = [] := by
  have hup := h.up
  rw [List.filter_cons_of_pos hf] at hup
  cases w with
  | upward p => exact ⟨p, rfl, List.head_eq_of_cons_eq hup, List.tail_eq_of_cons_eq hup⟩
  | _ => cases hup

theorem onText_of_plain (g : Gate) (s : Server.State) (fresh : SignonId)
    (hplain : Phase.isFrame text = false) :
    (g.onText s fresh text).1.reply? = none ∧ (g.onText s fresh text).1.awaited? = none ∧
      (g.onText s fresh text).2.1 = g := by
  unfold Gate.onText
  rw [Phase.decodeText_eq_none.2 hplain]
  dsimp only
  split
  · exact ⟨rfl, rfl, rfl⟩
  · exact ⟨rfl, rfl, rfl⟩

theorem demand_encode (g : Gate) (p : Phase) : g.demand p.encode = g.demandOf p := by
  unfold Gate.demand
  rw [Phase.decodeText_encode]

theorem Holds.frames_answer (h : Holds w window ops C asked up down post) (hw : w.downs = [])
    (p : Phase) :
    (down ++ [p.encode]).filter Phase.isFrame = (downward p).downs := by
  rw [List.filter_append, h.down, hw]
  simp [downs, Phase.isFrame_encode]

/-- **The gate reads a frame.** -/
theorem Holds.read_frame {p : Phase} {q : Post} {fresh : SignonId} {s : Server.State}
    (h : Holds (.upward p) window ops C asked (p.encode :: up) down (some q)) :
    ∃ w', Holds w' window (ops ++ q.gate.deeds s fresh p.encode) C asked up
      (down ++ (q.gate.onText s fresh p.encode).1.reply?.toList.map Phase.encode)
      (some ⟨(q.gate.onText s fresh p.encode).2.1,
        (q.gate.onText s fresh p.encode).1.awaited?.or q.awaited⟩) := by
  have hup : up.filter Phase.isFrame = [] := by
    obtain ⟨p', -, -, hup⟩ := h.upward_of_frame (Phase.isFrame_encode p)
    exact hup
  obtain ⟨hawaits, hidle⟩ := h.guards q rfl
  have hsilent : (down ++ []).filter Phase.isFrame = [] := by
    rw [List.append_nil]
    exact h.down
  -- a signon begins, for whoever the frame names or for whoever was challenged
  have hbegin {a : Attempt} {login : String} (hdemand : q.gate.demand p.encode = .attempt a)
      (whose : C.claimant? = some login) (hfor : a.For window ops login) :
      ∃ w', Holds w' window (ops ++ q.gate.deeds s fresh p.encode) C asked up
        (down ++ (q.gate.onText s fresh p.encode).1.reply?.toList.map Phase.encode)
        (some ⟨(q.gate.onText s fresh p.encode).2.1,
          (q.gate.onText s fresh p.encode).1.awaited?.or q.awaited⟩) := by
    rw [Gate.onText_of_attempt hdemand, Gate.deeds_of_attempt hdemand]
    have hspawned : (stateAfter window (ops ++ [.spawn fresh a])).signons.find? fresh =
        some ⟨a, .spawned⟩ := by
      rw [Server.stateAfter_snoc]
      simp [Server.State.perform, Server.State.spawn]
    refine ⟨.gate fresh, h.asked, hup, hsilent, h.suits, .deciding whose hspawned hfor.append, ?_⟩
    rintro _ ⟨⟩
    rfl
  have hconcerns := h.concerns
  cases hconcerns with
  | @attempt login secret whose =>
    refine hbegin (a := .primary login secret q.gate.channel) ?_ whose rfl
    rw [demand_encode]
    simp [Gate.demandOf, hawaits]
  | @answer t code login whose issued =>
    refine hbegin (a := .secondary q.gate.channel t code) ?_ whose issued
    rw [demand_encode]
    simp [Gate.demandOf, hawaits]
  | @comeback x login whose minted =>
    have hdemand : q.gate.demand (Phase.resumeSession x).encode = .resumption x := by
      rw [demand_encode]
      simp [Gate.demandOf, hawaits]
    cases hreuse : (s.reuse x q.gate.channel).1 with
    | ok login' =>
      rw [Gate.onText_of_resumed hdemand hreuse, Gate.deeds_of_resumed hdemand hreuse]
      refine ⟨.downward (.sessionValid x), h.asked, hup, h.frames_answer rfl _, h.suits,
        .valid whose minted.append, ?_⟩
      rintro _ ⟨⟩
      exact ⟨rfl, hidle⟩
    | error e =>
      rw [Gate.onText_of_refused hdemand hreuse, Gate.deeds_of_refused hdemand hreuse]
      refine ⟨.downward (.signonFailureNotice e.asFailure), h.asked, hup, h.frames_answer rfl _,
        h.suits, .failed, ?_⟩
      rintro _ ⟨⟩
      exact ⟨rfl, hidle⟩

/-- **The gate reads**, if it is still there. -/
theorem Holds.read {h : Gatehouse} {c : ChannelId} {fresh : SignonId}
    (hw : Holds w window ops C asked (text :: up) down (h.posts.find? c))
    (hr : Server.Run window (ops ++ h.deeds (.text c fresh text))) :
    ∃ w', Holds w' window (ops ++ h.deeds (.text c fresh text)) C asked up
      (down ++ (h.answer? (.text c fresh text)).toList.map Phase.encode)
      ((h.step (.text c fresh text)).posts.find? c) := by
  cases hp : h.posts.find? c with
  | none =>
    rw [hp] at hw
    have hdeeds : h.deeds (.text c fresh text) = [] := by simp [Gatehouse.deeds, hp]
    have hanswer : h.answer? (.text c fresh text) = none := by simp [Gatehouse.answer?, hp]
    have hpost : (h.step (.text c fresh text)).posts.find? c = none := by simp [Gatehouse.step, hp]
    rw [hdeeds, hanswer, hpost, List.append_nil, Option.toList_none, List.map_nil, List.append_nil]
    cases hf : Phase.isFrame text with
    | false => exact ⟨w, hw.alike (Connector.Steady.refl C).toAlike (by simp [hf]) rfl⟩
    | true =>
      obtain ⟨p, rfl, -, hup⟩ := hw.upward_of_frame hf
      exact ⟨.nobody, hw.asked, hup, hw.down, hw.suits, .nobody, by simp⟩
  | some q =>
    rw [hp] at hw
    have hdeeds : h.deeds (.text c fresh text) = q.gate.deeds h.state fresh text := by
      simp [Gatehouse.deeds, hp]
    have hanswer : h.answer? (.text c fresh text) =
        (q.gate.onText h.state fresh text).1.reply? := by
      simp [Gatehouse.answer?, hp]
    have hpost : (h.step (.text c fresh text)).posts.find? c =
        some ⟨(q.gate.onText h.state fresh text).2.1,
          (q.gate.onText h.state fresh text).1.awaited?.or q.awaited⟩ := by
            simp [Gatehouse.step, hp]
    rw [hdeeds] at hr ⊢
    rw [hanswer, hpost]
    cases hf : Phase.isFrame text with
    | false =>
      obtain ⟨hreply, hawaited, hgate⟩ := onText_of_plain q.gate h.state fresh hf
      rw [hreply, hawaited, hgate]
      exact ⟨w, (hw.append hr).alike (Connector.Steady.refl C).toAlike (by simp [hf]) (by simp)⟩
    | true =>
      obtain ⟨p, rfl, rfl, -⟩ := hw.upward_of_frame hf
      exact hw.read_frame

/-! ### The gate is told -/

/-- A gate waits for a signon while the authenticators decide. -/
theorem Guards.eq_gate {q : Post} {id : SignonId} (h : w.Guards q) (hid : q.awaited = some id) :
    w = .gate id := by
  unfold Guards at h
  split at h
  · rw [hid] at h
    rw [Option.some.inj h]
  · simp [hid] at h
  · simp [hid] at h
  · simp [hid] at h

/-- **The gate is told** how its signon has ended. -/
theorem Holds.outcome {q : Post} {id : SignonId} {o : Server.Outcome} {s : Server.State}
    (h : Holds w window ops C asked up down (some q)) (hid : q.awaited = some id)
    (hr : Server.Run window ops) (ho : (stateAfter window ops).outcome? id = some o) :
    ∃ w', Holds w' window ops C asked up (down ++ [(q.gate.onOutcome s (.ok o)).1.encode])
      (some { gate := (q.gate.onOutcome s (.ok o)).2.1 }) := by
  obtain rfl := (h.guards q rfl).eq_gate hid
  obtain ⟨a, hdecided⟩ := Server.State.decided_of_outcome? ho
  have hverdict := Server.verdict_of_run hr hdecided
  have hconcerns := h.concerns
  cases hconcerns with
  | @deciding _ a' p login whose signon attempt =>
    obtain ⟨rfl, rfl⟩ := Server.Signon.mk.inj (Option.some.inj (signon.symm.trans hdecided))
    cases o with
    | accepted x login' =>
      refine ⟨.downward (.sessionValid x), h.asked, h.up, h.frames_answer rfl _, h.suits,
        .valid whose (hverdict.mintedFor hr attempt), ?_⟩
      rintro _ ⟨⟩
      exact ⟨rfl, rfl⟩
    | needsSecondary t =>
      refine ⟨.downward (.secondarySignonNeeded t), h.asked, h.up, h.frames_answer rfl _, h.suits,
        .needed whose (hverdict.issuedFor attempt), ?_⟩
      rintro _ ⟨⟩
      exact ⟨rfl, rfl⟩
    | denied f =>
      refine ⟨.downward (.signonFailureNotice f), h.asked, h.up, h.frames_answer rfl _, h.suits,
        .failed, ?_⟩
      rintro _ ⟨⟩
      exact ⟨rfl, rfl⟩

theorem Holds.abandoned {q : Post} {id : SignonId} {s : Server.State}
    (h : Holds w window ops C asked up down (some q)) (hid : q.awaited = some id) :
    ∃ w', Holds w' window ops C asked up
      (down ++ [(q.gate.onOutcome s (.error .abandoned)).1.encode])
      (some { gate := (q.gate.onOutcome s (.error .abandoned)).2.1 }) := by
  obtain rfl := (h.guards q rfl).eq_gate hid
  refine ⟨.downward (.signonFailureNotice Server.RegistryError.abandoned.asFailure), h.asked, h.up,
    h.frames_answer rfl _, h.suits, .failed, ?_⟩
  rintro _ ⟨⟩
  exact ⟨rfl, rfl⟩

/-- **Whatever else happens at the server**: the gate is told of its signon, the connection ends, or
nothing changes. -/
theorem Holds.serve {h : Gatehouse} {c : ChannelId} {e : Server.Event}
    (hw : Holds w window ops C asked up down (h.posts.find? c))
    (hs : h.state = stateAfter window ops) (hr : Server.Run window (ops ++ h.deeds e))
    (hv : visited? e ≠ some c) :
    ∃ w', Holds w' window (ops ++ h.deeds e) C asked up
      (if e.channel? = some c then down ++ (h.answer? e).toList.map Phase.encode else down)
      ((h.step e).posts.find? c) := by
  have hlater := hw.append hr
  by_cases hc : e.channel? = some c
  · rw [if_pos hc]
    cases e with
    | arrive d | text d => exact absurd hc hv
    | elsewhere op => simp [Server.Event.channel?] at hc
    | depart d =>
      obtain rfl := Option.some.inj hc
      have hpost : (h.step (.depart d)).posts.find? d = none := by
        cases hp : h.posts.find? d <;> simp [Gatehouse.step, hp]
      rw [hpost]
      refine ⟨w, hlater.gone.alike (Connector.Steady.refl C).toAlike rfl ?_⟩
      simp [Gatehouse.answer?]
    | outcome d =>
      obtain rfl := Option.some.inj hc
      cases hp : h.posts.find? d with
      | none => exact ⟨w, by simpa [Gatehouse.step, Gatehouse.answer?, hp] using hlater⟩
      | some q =>
        rw [hp] at hlater
        cases ho : q.awaited.bind h.state.outcome? with
        | none =>
          simp only [Gatehouse.step, Gatehouse.answer?, hp, ho, Option.bind_some, Option.map_none,
            Option.toList_none, List.map_nil, List.append_nil]
          exact ⟨w, hlater⟩
        | some o =>
          obtain ⟨id, hid, hout⟩ := Option.bind_eq_some_iff.1 ho
          rw [hs] at hout
          rw [hp] at hw
          obtain ⟨w', hw'⟩ := hw.outcome (s := h.state) hid hr.of_append hout
          refine ⟨w', ?_⟩
          simp only [Gatehouse.step, Gatehouse.answer?, hp, ho, Option.bind_some, Option.map_some,
            Table.find?_insert, if_pos]
          exact hw'.append hr
    | abandoned d =>
      obtain rfl := Option.some.inj hc
      cases hp : h.posts.find? d with
      | none => exact ⟨w, by simpa [Gatehouse.step, Gatehouse.answer?, hp] using hlater⟩
      | some q =>
        rw [hp] at hlater
        cases hid : q.awaited with
        | none => exact ⟨w, by simpa [Gatehouse.step, Gatehouse.answer?, hp, hid] using hlater⟩
        | some id =>
          obtain ⟨w', hw'⟩ := hlater.abandoned (s := h.state) hid
          exact ⟨w', by simpa [Gatehouse.step, Gatehouse.answer?, hp, hid] using hw'⟩
  · rw [if_neg hc, Gatehouse.posts_step hc]
    exact ⟨w, hlater⟩

/-! ### The connector reads -/

/-- What a connector does at any moment but the opening of a link, when `ops` were performed at the
server. -/
structure Orderly (window : Nat) (ops : List Operation) (C C' : Connector) : Prop where
  nextLink : C'.nextLink = C.nextLink
  link : ∀ k, C'.link? = some k → C.link? = some k
  attached : C'.snapshot.Attached → C.snapshot.Attached
  pending : C'.snapshot.status ≠ .connected → C'.pendingLogin = none
  resume : ∀ r, C'.resume = some r → C.resume = some r ∨ MintedFor window ops r.session r.login
  questions : ∀ k, C.link? ≠ some k → C'.questions k = []

theorem questions_of_wishes (hw : C.wishes = []) (k : LinkId) : C.questions k = [] := by
  unfold Connector.questions
  rw [hw, List.filterMap_nil]

theorem frames_of_wishes (hw : C.wishes = []) (k : LinkId) : C.frames k = [] := by
  unfold Connector.frames Connector.said
  rw [hw, List.filterMap_nil, List.filter_nil]

theorem orderly_of_conduct (hw : C.wishes = [])
    (hp : C.snapshot.status ≠ .connected → C.pendingLogin = none) (h : C.Conduct C') :
    Orderly window ops C C' := by
  cases h with
  | steady h =>
    refine ⟨h.nextLink, h.keeps.link, h.attached_iff.1, fun hs => ?_,
      fun r hr => .inl (h.keeps.resume r hr),
      fun k _ => (h.questions k).trans (questions_of_wishes hw k)⟩
    rw [h.pending]
    exact hp (h.status ▸ hs)
  | withdrawn h =>
    exact ⟨h.nextLink, h.link, fun ha => absurd ha h.away, fun _ => h.pending,
      fun r hr => .inl (h.resume r hr),
      fun k hk => (h.questions k hk).trans (questions_of_wishes hw k)⟩

theorem Holds.steady (h : Holds w window ops C asked up down post) (hw : C.wishes = [])
    (hs : C.Steady C') (hdown : down'.filter Phase.isFrame = down.filter Phase.isFrame) :
    Holds w window ops C' (asked ++ C'.questions k) (up ++ C'.said k) down' post := by
  rw [hs.questions, questions_of_wishes hw, List.append_nil]
  refine h.alike hs.toAlike ?_ hdown
  rw [List.filter_append]
  exact (congrArg _ ((hs.frames k).trans (frames_of_wishes hw k))).trans (List.append_nil _)

theorem Holds.downward_of_frame (h : Holds w window ops C asked up (text :: down) post)
    (hf : Phase.isFrame text = true) :
    ∃ p, w = .downward p ∧ text = p.encode ∧ down.filter Phase.isFrame = [] := by
  have hdown := h.down
  rw [List.filter_cons_of_pos hf] at hdown
  cases w with
  | downward p => exact ⟨p, rfl, List.head_eq_of_cons_eq hdown, List.tail_eq_of_cons_eq hdown⟩
  | _ => cases hdown

/-- While nothing is on its way up, nothing is if the connector says nothing. -/
theorem Holds.said_of_frames (h : Holds w window ops C asked up down post) (hups : w.ups = [])
    (hw : C.wishes = []) (hframes : C'.frames k = C.frames k) :
    (up ++ C'.said k).filter Phase.isFrame = [] := by
  rw [List.filter_append, h.up, hups]
  exact hframes.trans (frames_of_wishes hw k)

theorem Holds.hear_valid {x : SessionId} {login : String}
    (h : Holds (.downward (.sessionValid x)) window ops C [] up
      ((Phase.sessionValid x).encode :: down) post)
    (whose : C.claimant? = some login) (minted : MintedFor window ops x login)
    (hw : C.wishes = []) :
    Orderly window ops C (C.onSessionValid x) ∧ ∃ w', Holds w' window ops (C.onSessionValid x)
      ((C.onSessionValid x).questions k) (up ++ (C.onSessionValid x).said k) down post := by
  obtain ⟨-, -, -, hdown⟩ := h.downward_of_frame (Phase.isFrame_encode _)
  have hstatus : C.snapshot.status = .connected := h.suits
  have hadmitted : C.Admitted (C.onSessionValid x) x login :=
    Connector.admitted_of_connected hstatus whose
  constructor
  · refine ⟨hadmitted.nextLink, fun _ hk => hadmitted.link ▸ hk, fun _ => .inl hstatus,
      fun _ => hadmitted.pending,
      fun r hr => ?_, fun k' _ => (hadmitted.questions k').trans (questions_of_wishes hw k')⟩
    obtain rfl := Option.some.inj (hadmitted.resume.symm.trans hr)
    exact .inr minted
  · exact ⟨.settled x, (hadmitted.questions k).trans (questions_of_wishes hw k),
      h.said_of_frames rfl hw (hadmitted.frames k), hdown,
      ⟨hadmitted.status, login, hadmitted.login, hadmitted.session, hadmitted.resume⟩,
      .settled, h.guards⟩

theorem Holds.hear_needed {t : Token} {login : String}
    (h : Holds (.downward (.secondarySignonNeeded t)) window ops C [] up
      ((Phase.secondarySignonNeeded t).encode :: down) post)
    (whose : C.claimant? = some login) (issued : IssuedFor window ops t login)
    (hl : C.link? = some k) (hw : C.wishes = []) :
    Orderly window ops C (C.ask k (.secondaryCode t)) ∧
      ∃ w', Holds w' window ops (C.ask k (.secondaryCode t))
        ((C.ask k (.secondaryCode t)).questions k) (up ++ (C.ask k (.secondaryCode t)).said k)
        down post := by
  obtain ⟨-, -, -, hdown⟩ := h.downward_of_frame (Phase.isFrame_encode _)
  have hstatus : C.snapshot.status = .connected := h.suits
  have halike : C.Alike (C.ask k (.secondaryCode t)) := Connector.alike_ask
  have hkeeps : C.Keeps (C.ask k (.secondaryCode t)) := Connector.keeps_ask hl
  have hsaid := h.said_of_frames rfl hw (halike.frames k)
  constructor
  · exact ⟨hkeeps.nextLink, hkeeps.link, halike.attached_iff.1,
      fun hs => absurd (halike.status.trans hstatus) hs,
      fun r hr => .inl (hkeeps.resume r hr),
      fun k' hk' => (hkeeps.questions k' hk').trans (questions_of_wishes hw k')⟩
  · have hquestions : (C.ask k (.secondaryCode t)).questions k =
        C.questions k ++ if C.hasSupplier ∧ k = k then [.secondaryCode t] else [] :=
          Connector.questions_ask
    rw [questions_of_wishes hw, List.nil_append] at hquestions
    cases hsupplier : C.hasSupplier with
    | true =>
      rw [hsupplier, if_pos ⟨rfl, rfl⟩] at hquestions
      exact ⟨.supplier (.secondaryCode t), hquestions, hsaid, hdown, halike.status.trans hstatus,
        .code (halike.claimant?_eq.trans whose) issued, h.guards⟩
    | false =>
      rw [hsupplier, if_neg (by simp)] at hquestions
      exact ⟨.nobody, hquestions, hsaid, hdown, halike.status.trans hstatus, .nobody, h.guards⟩

theorem Holds.hear_failed {f : Failure}
    (h : Holds (.downward (.signonFailureNotice f)) window ops C [] up
      ((Phase.signonFailureNotice f).encode :: down) post)
    (hl : C.link? = some k) (hw : C.wishes = []) :
    Orderly window ops C (C.onFailure k f) ∧ (¬ (C.onFailure k f).snapshot.Attached ∨
      ∃ w', Holds w' window ops (C.onFailure k f) ((C.onFailure k f).questions k)
        (up ++ (C.onFailure k f).said k)
        down post) := by
  obtain ⟨-, -, -, hdown⟩ := h.downward_of_frame (Phase.isFrame_encode _)
  have hstatus : C.snapshot.status = .connected := h.suits
  rcases Connector.withdrawn_or_rebuffed hl f with hgone | hstays
  · exact ⟨orderly_of_conduct hw (fun hs => absurd hstatus hs) (.withdrawn hgone), .inl hgone.away⟩
  · have hsaid := h.said_of_frames rfl hw (hstays.frames k)
    constructor
    · exact ⟨hstays.nextLink, hstays.link, fun _ => .inl hstatus, fun _ => hstays.pending,
        fun r hr => .inl (hstays.resume r hr),
        fun k' hk' => (hstays.questions k' hk').trans (questions_of_wishes hw k')⟩
    · right
      obtain ⟨rs, hquestions, hrs⟩ := hstays.asked
      rw [questions_of_wishes hw, List.nil_append] at hquestions
      rcases hrs with rfl | ⟨r, hplain, rfl⟩
      · exact ⟨.nobody, hquestions, hsaid, hdown, hstays.status.trans hstatus, .nobody, h.guards⟩
      · exact ⟨.supplier r, hquestions, hsaid, hdown, hstays.status.trans hstatus, .asked hplain,
          h.guards⟩

/-- **The connector reads an answer.** -/
theorem Holds.hear_frame {p : Phase}
    (h : Holds (.downward p) window ops C asked up (p.encode :: down) post) (hl : C.link? = some k)
    (hw : C.wishes = []) :
    Orderly window ops C (C.onPhase k p) ∧ (¬ (C.onPhase k p).snapshot.Attached ∨
      ∃ w', Holds w' window ops (C.onPhase k p) (asked ++ (C.onPhase k p).questions k)
        (up ++ (C.onPhase k p).said k) down post) := by
  obtain rfl : asked = [] := h.asked
  have hconcerns := h.concerns
  cases hconcerns with
  | valid whose minted => exact (h.hear_valid whose minted hw).imp_right .inr
  | needed whose issued => exact (h.hear_needed whose issued hl hw).imp_right .inr
  | failed => exact h.hear_failed hl hw

/-- **The connector reads** a text. -/
theorem Holds.hear (h : Holds w window ops C asked up (text :: down) post) (hl : C.link? = some k)
    (hw : C.wishes = []) (hp : C.snapshot.status ≠ .connected → C.pendingLogin = none) :
    Orderly window ops C (C.handle (.text k text)) ∧
      (¬ (C.handle (.text k text)).snapshot.Attached ∨
      ∃ w', Holds w' window ops (C.handle (.text k text))
        (asked ++ (C.handle (.text k text)).questions k)
        (up ++ (C.handle (.text k text)).said k) down post) := by
  cases hf : Phase.isFrame text with
  | false =>
    have hsteady : C.Steady (C.handle (.text k text)) := Connector.steady_of_plain hf
    exact ⟨orderly_of_conduct hw hp (.steady hsteady), .inr ⟨w, h.steady hw hsteady (by simp [hf])⟩⟩
  | true =>
    obtain ⟨p, rfl, rfl, -⟩ := h.downward_of_frame hf
    rw [Connector.handle_encode hl]
    exact h.hear_frame hl hw

/-! ### The supplier answers -/

/-- Somebody is asked only while the connector waits. -/
theorem Holds.connected_of_asked {r : Request} (h : Holds w window ops C asked up down post)
    (hr : r ∈ asked) :
    C.snapshot.status = .connected := by
  rw [h.asked] at hr
  have hsuits := h.suits
  cases w with
  | settled x => cases hr
  | _ => exact hsuits

/-- An answer that comes late changes nothing. -/
theorem handle_of_late {r : Request} {answer : Supply} {e : Client.Event}
    (he : event? k r answer = some e) (hlate : C.link? ≠ some k ∨ C.snapshot.status ≠ .connected) :
    C.handle e = C := by
  unfold event? at he
  split at he
  · obtain rfl := Option.some.inj he
    exact Connector.code_of_other hlate
  · cases he
  · obtain rfl := Option.some.inj he
    exact Connector.credentials_of_other hlate
  · cases he

theorem Holds.send {r : Request} {p : Phase} (pending : Option String)
    (h : Holds (.supplier r) window ops C asked up down post) (hw : C.wishes = [])
    (hconcerns : Concerns window ops ({ C with pendingLogin := pending } : Connector).claimant?
      (.upward p)) :
    Orderly window ops C (({ C with pendingLogin := pending } : Connector).sendPhase k p) ∧
      ∃ w', Holds w' window ops (({ C with pendingLogin := pending } : Connector).sendPhase k p)
        ([] ++ (({ C with pendingLogin := pending } : Connector).sendPhase k p).questions k)
        (up ++ (({ C with pendingLogin := pending } : Connector).sendPhase k p).said k) down
        post := by
  have hstatus : C.snapshot.status = .connected := h.suits
  have hquiet (k' : LinkId) : ({ C with pendingLogin := pending } : Connector).questions k' = [] :=
    questions_of_wishes hw k'
  have hquestions (k' : LinkId) :
      (({ C with pendingLogin := pending } : Connector).sendPhase k p).questions k' = [] :=
    Connector.questions_wish.trans ((List.append_nil _).trans (hquiet k'))
  have hframes : (({ C with pendingLogin := pending } : Connector).sendPhase k p).frames k =
      [p.encode] := by
    rw [Connector.frames_encode, frames_of_wishes (C := { C with pendingLogin := pending }) hw,
      List.nil_append]
  refine ⟨⟨rfl, fun _ hk => hk, fun _ => .inl hstatus, fun hs => absurd hstatus hs,
    fun _ hr => .inl hr,
    fun k' _ => hquestions k'⟩, .upward p, hquestions k, ?_, h.down, hstatus, hconcerns, h.guards⟩
  rw [List.filter_append, h.up]
  exact hframes

/-- **The supplier answers.** -/
theorem Holds.supply {r : Request} {answer : Supply} {e : Client.Event}
    (h : Holds w window ops C asked up down post) (hr : r ∈ asked) (he : event? k r answer = some e)
    (hl : C.link? = some k) (hw : C.wishes = []) :
    Orderly window ops C (C.handle e) ∧ ∃ w', Holds w' window ops (C.handle e)
      (asked.erase r ++ (C.handle e).questions k) (up ++ (C.handle e).said k) down post := by
  have hs := h.connected_of_asked hr
  have hword : w = .supplier r := by
    rw [h.asked] at hr
    cases w with
    | supplier r' => rw [List.mem_singleton.1 hr]
    | _ => cases hr
  subst hword
  have herase : asked.erase r = [] := by
    rw [h.asked]
    simp [asks]
  rw [herase]
  have hsilent : Orderly window ops C C ∧
      ∃ w', Holds w' window ops C ([] ++ C.questions k) (up ++ C.said k) down post := by
    exact ⟨orderly_of_conduct hw (fun hs' => absurd hs hs') (.steady (.refl C)), .nobody,
      questions_of_wishes hw k, h.said_of_frames rfl hw rfl, h.down, hs, .nobody, h.guards⟩
  unfold event? at he
  split at he
  · next t supplied =>
    obtain rfl := Option.some.inj he
    rw [Connector.code_of_connected hl hs]
    cases supplied with
    | none => exact hsilent
    | some code =>
      have hconcerns := h.concerns
      cases hconcerns with
      | asked plain => exact absurd rfl (plain t)
      | code whose issued => exact h.send C.pendingLogin hw (.answer whose issued)
  · cases he
  · next supplied _ =>
    obtain rfl := Option.some.inj he
    rw [Connector.credentials_of_connected hl hs]
    cases supplied with
    | none => exact hsilent
    | some given => exact h.send (some given.login) hw (.attempt rfl)
  · cases he

/-! ### A link is opened -/

/-- **A link is opened** on a channel that nobody has used yet. -/
theorem holds_of_takesUp (ht : C.TakesUp C') (hw : C.wishes = []) (hp : C.pendingLogin = none)
    (hresume : ∀ r, C.resume = some r → MintedFor window ops r.session r.login)
    (hdown : down.filter Phase.isFrame = [])
    (hpost : ∀ q, post = some q → q.gate.awaits = true ∧ q.awaited = none) :
    ∃ w, Holds w window ops C' (C'.questions ⟨C.nextLink⟩) (C'.said ⟨C.nextLink⟩) down post := by
  have hopening := ht.opening
  cases hopening with
  | nothing frames questions =>
    rw [frames_of_wishes hw] at frames
    rw [questions_of_wishes hw] at questions
    exact ⟨.nobody, questions, frames, hdown, ht.status, .nobody, hpost⟩
  | @resuming r hr frames questions =>
    rw [frames_of_wishes hw] at frames
    rw [questions_of_wishes hw] at questions
    have hwho : C'.claimant? = some r.login := by
      unfold Connector.claimant?
      rw [ht.pending, hp, ht.resume, hr]
      rfl
    exact ⟨.upward (.resumeSession r.session), questions, frames, hdown, ht.status,
      .comeback hwho (hresume r hr), hpost⟩
  | asking frames questions =>
    rw [frames_of_wishes hw] at frames
    rw [questions_of_wishes hw] at questions
    exact ⟨.supplier .credentials, questions, frames, hdown, ht.status, .asked (by simp), hpost⟩

end Moves

end Word

end DurableSession.Ends
