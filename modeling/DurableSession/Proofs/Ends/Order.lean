import DurableSession.Proofs.Ends.Word

/-!
What every system of connectors and a server keeps in order.

Each link is one line, a line is not used before its connector knows it, gates go only when their
connections end, and a connector remembers sessions only for the logins for which they were given
out. Most happenings leave it at the same lines, with other texts on them (`Continues`). Main
statements: `Sound.happen` for what happens at the server, `Sound.act` for what a connector does,
and `Sound.opened` for one that takes up a line.
-/

namespace DurableSession.Ends

open Lifecycle (Phase SessionId)
open Client (Connector LinkId Moment Request)
open Server (ChannelId Gatehouse Post Operation MintedFor stateAfter)

/-! ### What every system keeps -/

/-- What a connector keeps in order, when `ops` were performed at the server. -/
structure Party.Sound (P : Party) (window : Nat) (ops : List Operation) : Prop where
  wishes : P.connector.wishes = []
  pending : P.connector.snapshot.status ≠ .connected → P.connector.pendingLogin = none
  /-- The session to resume was given out for its login. -/
  resume : ∀ r, P.connector.resume = some r → MintedFor window ops r.session r.login
  link : ∀ k, P.connector.link? = some k → k.number < P.connector.nextLink
  asked : ∀ k : LinkId, P.connector.nextLink ≤ k.number → P.asked k = []

/-- The party after a moment that has led its connector to `C'`: its wishes were seen to. -/
def Party.next (P : Party) (C' : Connector) : Party :=
  { connector := { C' with wishes := [] }, asked := fun k => P.asked k ++ C'.questions k }

section Parties

variable {P : Party} {C' : Connector} {window : Nat} {ops : List Operation}

theorem Party.Sound.orderly (h : P.Sound window ops) (ho : Word.Orderly window ops P.connector C') :
    (P.next C').Sound window ops where
  wishes := rfl
  pending := ho.pending
  resume r hr := (ho.resume r hr).elim (h.resume r) id
  link k hk := ho.nextLink.symm ▸ h.link k (ho.link k hk)
  asked k hk := by
    have hold : P.connector.nextLink ≤ k.number := ho.nextLink ▸ hk
    have hother : P.connector.link? ≠ some k := fun hl => absurd (h.link k hl) (Nat.not_lt.2 hold)
    simp only [Party.next, h.asked k hold, ho.questions k hother, List.append_nil]

theorem Party.Sound.takesUp (h : P.Sound window ops) (ht : P.connector.TakesUp C') :
    (P.next C').Sound window ops where
  wishes := rfl
  pending hs := absurd ht.status hs
  resume r hr := h.resume r (ht.resume ▸ hr)
  link k hk := by
    obtain rfl := Option.some.inj (ht.link.symm.trans hk)
    exact ht.nextLink.symm ▸ Nat.lt_succ_self _
  asked k hk := by
    have hlater : P.connector.nextLink + 1 ≤ k.number := ht.nextLink ▸ hk
    have hne : k ≠ ⟨P.connector.nextLink⟩ := by
      rintro rfl
      exact Nat.not_succ_le_self _ hlater
    simp only [Party.next, h.asked k (Nat.le_of_succ_le hlater), ht.others k hne,
      Word.questions_of_wishes h.wishes, List.append_nil]

end Parties

/-- A line that its connector does not know yet has not been used. -/
structure Line.Unused (l : Line) (post : Option Post) : Prop where
  up : l.up = []
  down : l.down.filter Phase.isFrame = []
  post : ∀ q, post = some q → q.gate.awaits = true ∧ q.awaited = none

/-- The line goes on as the line `l'`: what is on it may change, once it is in use. -/
structure Line.Continues (l l' : Line) (post post' : Option Post) : Prop where
  client : l'.client = l.client
  link : l'.link = l.link
  unused : l.link = none → l.Unused post → l'.Unused post'

namespace System

/-- What holds of the parties and the lines of a system. -/
structure Sound (S : System) : Prop where
  run : Gatehouse.Run S.window S.log
  parties : ∀ i, (S.parties i).Sound S.window S.performed
  linked : ∀ c l k, S.lines c = some l → l.link = some k →
    k.number < (S.connector l.client).nextLink
  unlinked : ∀ c l, S.lines c = some l → l.link = none → l.Unused (S.house.posts.find? c)
  gone : ∀ c l, S.lines c = some l → S.house.posts.find? c = none → .depart c ∈ S.log
  /-- A link is one line. -/
  alone : ∀ c c' l l' k, S.lines c = some l → S.lines c' = some l' → l.client = l'.client →
    l.link = some k → l'.link = some k → c = c'
  found : ∀ i k, (S.connector i).snapshot.Attached → (S.connector i).link? = some k →
    ∃ c l, S.lines c = some l ∧ l.client = i ∧ l.link = some k

/-- A system in which nothing happened but on the lines and on the links that there were. -/
structure Continues (S S' : System) : Prop where
  before : ∀ c l', S'.lines c = some l' →
    ∃ l, S.lines c = some l ∧ l.Continues l' (S.house.posts.find? c) (S'.house.posts.find? c)
  after : ∀ c l, S.lines c = some l → ∃ l', S'.lines c = some l' ∧ l'.client = l.client ∧
    l'.link = l.link
  nextLink : ∀ i, (S'.connector i).nextLink = (S.connector i).nextLink
  current : ∀ i k, (S'.connector i).snapshot.Attached → (S'.connector i).link? = some k →
    (S.connector i).snapshot.Attached ∧ (S.connector i).link? = some k
  gone : ∀ c, S'.house.posts.find? c = none → S.house.posts.find? c = none ∨ .depart c ∈ S'.log
  log : S.log ⊆ S'.log

section Steps

variable {S S' : System} {i j : Nat} {c d : ChannelId} {l l' : Line} {m : Moment} {e : Server.Event}
  {f : Line → Line} {C' : Connector}

theorem Sound.state (h : S.Sound) : S.house.state = stateAfter S.window S.performed :=
  (Gatehouse.run_performed h.run).2

/-- A system that goes on with its lines stays in order, if its parties do. -/
theorem Sound.continues (h : S.Sound) (hs : S.Continues S') (hrun : Gatehouse.Run S'.window S'.log)
    (hparties : ∀ i, (S'.parties i).Sound S'.window S'.performed) : S'.Sound where
  run := hrun
  parties := hparties
  linked c l' k hl' hk := by
    obtain ⟨l, hl, hline⟩ := hs.before c l' hl'
    rw [hline.client, hs.nextLink]
    exact h.linked c l k hl (hline.link.symm.trans hk)
  unlinked c l' hl' hk := by
    obtain ⟨l, hl, hline⟩ := hs.before c l' hl'
    have hnone : l.link = none := hline.link.symm.trans hk
    exact hline.unused hnone (h.unlinked c l hl hnone)
  gone c l' hl' hgone := by
    obtain ⟨l, hl, -⟩ := hs.before c l' hl'
    exact (hs.gone c hgone).elim (fun hgone => hs.log (h.gone c l hl hgone)) id
  alone c c' l₁ l₁' k hl₁ hl₁' hclient hk hk' := by
    obtain ⟨l, hl, hline⟩ := hs.before c l₁ hl₁
    obtain ⟨l', hl', hline'⟩ := hs.before c' l₁' hl₁'
    rw [hline.client, hline'.client] at hclient
    exact h.alone c c' l l' k hl hl' hclient (hline.link.symm.trans hk) (hline'.link.symm.trans hk')
  found i k ha hk := by
    obtain ⟨ha, hk⟩ := hs.current i k ha hk
    obtain ⟨c, l, hl, hclient, hlink⟩ := h.found i k ha hk
    obtain ⟨l', hl', hclient', hlink'⟩ := hs.after c l hl
    exact ⟨c, l', hl', hclient'.trans hclient, hlink'.trans hlink⟩

/-! ### At the server -/

theorem lines_happen : (S.happen e).lines c = some l' ↔ ∃ l, S.lines c = some l ∧ l' = { l with
    down := if e.channel? = some c then l.down ++ (S.house.answer? e).toList.map Phase.encode
    else l.down } := by
  unfold happen
  rw [Option.map_eq_some_iff]
  constructor
  · rintro ⟨l, hl, rfl⟩
    refine ⟨l, hl, ?_⟩
    split <;> rfl
  · rintro ⟨l, hl, rfl⟩
    refine ⟨l, hl, ?_⟩
    split <;> rfl

/-- Only the end of its connection takes a gate away. -/
theorem depart_of_gone {h : Gatehouse} {q : Post} (hq : h.posts.find? c = some q)
    (hgone : (h.step e).posts.find? c = none) : e = .depart c := by
  have hc : e.channel? = some c := by
    by_contra hne
    rw [Gatehouse.posts_step hne, hq] at hgone
    cases hgone
  cases e with
  | elsewhere op => simp [Server.Event.channel?] at hc
  | depart d => rw [Option.some.inj hc]
  | arrive d =>
    obtain rfl := Option.some.inj hc
    simp [Gatehouse.step] at hgone
  | text d =>
    obtain rfl := Option.some.inj hc
    simp [Gatehouse.step, hq] at hgone
  | outcome d =>
    obtain rfl := Option.some.inj hc
    simp only [Gatehouse.step, hq] at hgone
    split at hgone
    · simp [hq] at hgone
    · simp at hgone
  | abandoned d =>
    obtain rfl := Option.some.inj hc
    simp only [Gatehouse.step, hq] at hgone
    split at hgone
    · simp at hgone
    · simp [hq] at hgone

theorem idle_step {h : Gatehouse}
    (hidle : ∀ q, h.posts.find? c = some q → q.gate.awaits = true ∧ q.awaited = none)
    (hc : e.channel? = some c) (hv : visited? e ≠ some c) :
    h.answer? e = none ∧ ∀ q, (h.step e).posts.find? c = some q → q.gate.awaits = true ∧
      q.awaited = none := by
  cases e with
  | elsewhere op => simp [Server.Event.channel?] at hc
  | arrive d | text d => exact absurd hc hv
  | depart d =>
    obtain rfl := Option.some.inj hc
    refine ⟨rfl, fun q hq => ?_⟩
    cases hp : h.posts.find? d <;> simp [Gatehouse.step, hp] at hq
  | outcome d | abandoned d =>
    obtain rfl := Option.some.inj hc
    cases hp : h.posts.find? d with
    | none => simp [Gatehouse.answer?, Gatehouse.step, hp]
    | some q =>
      obtain ⟨hawaits, hawaited⟩ := hidle q hp
      simp [Gatehouse.answer?, Gatehouse.step, hp, hawaited, hawaits]

/-- **What happens at the server** keeps a system in order. -/
theorem Sound.happen (h : S.Sound) (ha : S.Allows e)
    (hv : ∀ c l, visited? e = some c → S.lines c = some l → l.link ≠ none) :
    (S.happen e).Sound := by
  have hcontinues : S.Continues (S.happen e) := by
    refine ⟨fun c l' hl' => ?_, fun c l hl => ⟨_, lines_happen.2 ⟨l, hl, rfl⟩, rfl, rfl⟩,
      fun _ => rfl, fun i k ha hk => ⟨ha, hk⟩, fun c hgone => ?_, List.subset_append_left _ _⟩
    · obtain ⟨l, hl, rfl⟩ := lines_happen.1 hl'
      refine ⟨l, hl, rfl, rfl, fun hk hunused => ?_⟩
      rw [house_happen]
      by_cases hc : e.channel? = some c
      · obtain ⟨hanswer, hpost⟩ := idle_step hunused.post hc fun he => hv c l he hl hk
        refine ⟨hunused.up, ?_, hpost⟩
        rw [if_pos hc, hanswer, Option.toList_none, List.map_nil, List.append_nil]
        exact hunused.down
      · rw [if_neg hc, Gatehouse.posts_step hc]
        exact hunused
    · rw [house_happen] at hgone
      cases hp : S.house.posts.find? c with
      | none => exact .inl rfl
      | some q =>
        rw [depart_of_gone hp hgone]
        exact .inr (List.mem_append_right _ (List.mem_singleton.2 rfl))
  refine h.continues hcontinues (Gatehouse.run_snoc.2 ⟨h.run, ha⟩) fun i => ?_
  obtain ⟨hwishes, hpending, hresume, hlink, hasked⟩ := h.parties i
  refine ⟨hwishes, hpending, fun r hr => ?_, hlink, hasked⟩
  rw [performed_happen]
  exact (hresume r hr).append

theorem Sound.run_happen (h : S.Sound) (ha : S.Allows e) :
    Server.Run S.window (S.performed ++ S.house.deeds e) := by
  rw [← performed_happen]
  exact (Gatehouse.run_performed (Gatehouse.run_snoc.2 ⟨h.run, ha⟩)).1

/-! ### At a connector -/

theorem lines_act : (S.act i m).lines c = some l' ↔ ∃ l, S.lines c = some l ∧
    l' =
      { l with up := l.up ++ if l.client = i then l.link.elim [] ((S.connector i).step m).said
      else [] } := by
  unfold act
  rw [Option.map_eq_some_iff]
  constructor
  · rintro ⟨l, hl, rfl⟩
    refine ⟨l, hl, ?_⟩
    split
    · rfl
    · rw [List.append_nil]
  · rintro ⟨l, hl, rfl⟩
    refine ⟨l, hl, ?_⟩
    split
    · rfl
    · rw [List.append_nil]

/-- Nothing is sent on a line that its connector does not know. -/
theorem unused_act {post : Option Post} {texts : LinkId → List String} (hk : l.link = none)
    (hunused : l.Unused post) :
    Line.Unused { l with up := l.up ++ if l.client = i then l.link.elim [] texts else [] } post :=
  ⟨by simp [hunused.up, hk], hunused.down, hunused.post⟩

theorem connector_act_ne (h : j ≠ i) : (S.act i m).connector j = S.connector j :=
  congrArg Party.connector (parties_act_ne h)

theorem parties_act_self : (S.act i m).parties i = (S.parties i).next ((S.connector i).step m) := by
  simp [act, Party.next]

theorem parties_act {window : Nat} {ops : List Operation} (h : ∀ j, (S.parties j).Sound window ops)
    (hi : ((S.parties i).next ((S.connector i).step m)).Sound window ops) (j : Nat) :
    ((S.act i m).parties j).Sound window ops := by
  by_cases hj : j = i
  · subst hj
    rwa [parties_act_self]
  · rw [parties_act_ne hj]
    exact h j

/-- **An orderly moment of a connector** keeps a system in order. -/
theorem Sound.act (h : S.Sound) (hstep : (S.connector i).step m = C')
    (ho : Word.Orderly S.window S.performed (S.connector i) C') : (S.act i m).Sound := by
  have hself : (S.act i m).connector i = { C' with wishes := [] } := hstep ▸ connector_act_self
  have hcontinues : S.Continues (S.act i m) := by
    refine ⟨fun c l' hl' => ?_, fun c l hl => ⟨_, lines_act.2 ⟨l, hl, rfl⟩, rfl, rfl⟩, fun j => ?_,
      fun j k ha hk => ?_, fun c hgone => .inl hgone, List.Subset.refl _⟩
    · obtain ⟨l, hl, rfl⟩ := lines_act.1 hl'
      exact ⟨l, hl, rfl, rfl, unused_act⟩
    · by_cases hj : j = i
      · subst hj
        rw [hself]
        exact ho.nextLink
      · rw [connector_act_ne hj]
    · by_cases hj : j = i
      · subst hj
        rw [hself] at ha hk
        exact ⟨ho.attached ha, ho.link k hk⟩
      · rw [connector_act_ne hj] at ha hk
        exact ⟨ha, hk⟩
  exact h.continues hcontinues h.run (parties_act h.parties (hstep.symm ▸ (h.parties i).orderly ho))

/-! ### In between -/

theorem lines_change :
    (S.change c f).lines d = some l' ↔ ∃ l, S.lines d = some l ∧ l' = if d = c then f l else l := by
  unfold change
  dsimp only
  split
  · rw [Option.map_eq_some_iff]
    simp only [eq_comm]
  · simp

theorem change_cases {l₀ : Line} (hc : S.lines c = some l₀) (hl : (S.change c f).lines d = some l) :
    (d = c ∧ l = f l₀) ∨ (d ≠ c ∧ S.lines d = some l) := by
  obtain ⟨l₁, hl₁, rfl⟩ := lines_change.1 hl
  by_cases hd : d = c
  · subst hd
    obtain rfl := Option.some.inj (hc.symm.trans hl₁)
    exact .inl ⟨rfl, if_pos rfl⟩
  · rw [if_neg hd]
    exact .inr ⟨hd, hl₁⟩

/-- Texts that are taken from a line, or put on it by the application, leave a system in order. -/
theorem Sound.change (h : S.Sound)
    (hf : ∀ l, S.lines c = some l → (f l).client = l.client ∧ (f l).link = l.link ∧
      (l.link = none → (f l).up = l.up ∧
        (f l).down.filter Phase.isFrame = l.down.filter Phase.isFrame)) :
    (S.change c f).Sound := by
  have hline {d : ChannelId} {l : Line} (hl : S.lines d = some l) :
      l.Continues (if d = c then f l else l) (S.house.posts.find? d) (S.house.posts.find? d) := by
    by_cases hd : d = c
    · subst hd
      obtain ⟨hclient, hlink, htexts⟩ := hf l hl
      rw [if_pos rfl]
      refine ⟨hclient, hlink, fun hk hunused => ?_⟩
      obtain ⟨hup, hdown⟩ := htexts hk
      exact ⟨hup.trans hunused.up, hdown.trans hunused.down, hunused.post⟩
    · rw [if_neg hd]
      exact ⟨rfl, rfl, fun _ hunused => hunused⟩
  refine h.continues ⟨fun d l' hl' => ?_, fun d l hl => ?_, fun _ => rfl, fun _ _ ha hk => ⟨ha, hk⟩,
    fun _ hgone => .inl hgone, List.Subset.refl _⟩ h.run h.parties
  · obtain ⟨l, hl, rfl⟩ := lines_change.1 hl'
    exact ⟨l, hl, hline hl⟩
  · exact ⟨_, lines_change.2 ⟨l, hl, rfl⟩, (hline hl).client, (hline hl).link⟩

theorem connector_settle {link : LinkId} {r : Request} :
    (S.settle i link r).connector j = S.connector j := by
  unfold connector settle
  by_cases hj : j = i
  · subst hj
    simp
  · simp [Function.update_of_ne hj]

theorem asked_settle {link k : LinkId} {r : Request} : ((S.settle i link r).parties j).asked k =
    if j = i ∧ k = link then ((S.parties i).asked link).erase r else (S.parties j).asked k := by
  unfold settle
  by_cases hj : j = i
  · subst hj
    by_cases hk : k = link
    · subst hk
      simp
    · simp [hk]
  · simp [hj]

theorem Sound.settle {link : LinkId} {r : Request} (h : S.Sound) : (S.settle i link r).Sound := by
  have hconnector (j : Nat) : ((S.settle i link r).parties j).connector = (S.parties j).connector :=
    connector_settle
  refine h.continues ⟨fun _ l hl => ⟨l, hl, rfl, rfl, fun _ hunused => hunused⟩,
    fun _ l hl => ⟨l, hl, rfl, rfl⟩, fun j => by rw [connector_settle], fun j k ha hk => ?_,
    fun _ hgone => .inl hgone, List.Subset.refl _⟩ h.run fun j => ?_
  · rw [connector_settle] at ha hk
    exact ⟨ha, hk⟩
  · obtain ⟨hwishes, hpending, hresume, hlink, hasked⟩ := h.parties j
    refine ⟨?_, ?_, ?_, ?_, fun k hk => ?_⟩
    · rwa [hconnector]
    · rwa [hconnector]
    · rwa [hconnector]
    · rwa [hconnector]
    · rw [hconnector] at hk
      rw [asked_settle]
      split
      · next hjk =>
        obtain ⟨rfl, rfl⟩ := hjk
        rw [hasked k hk, List.erase_nil]
      · exact hasked k hk

/-! ### A link is opened -/

section Opened

variable {n : Nat} {l₀ : Line}

theorem opened_cases (hc : S.lines c = some l₀)
    (hl' : ((S.change c fun l => { l with link := some ⟨n⟩ }).act i m).lines d = some l') :
    (d = c ∧ l'.client = l₀.client ∧ l'.link = some ⟨n⟩) ∨
      (d ≠ c ∧ ∃ l, S.lines d = some l ∧ l.Continues l' (S.house.posts.find? d)
        (S.house.posts.find? d)) := by
  obtain ⟨l, hl, rfl⟩ := lines_act.1 hl'
  rcases change_cases hc hl with ⟨hd, rfl⟩ | ⟨hd, hl⟩
  · exact .inl ⟨hd, rfl, rfl⟩
  · exact .inr ⟨hd, l, hl, rfl, rfl, unused_act⟩

theorem Sound.number_lt (h : S.Sound) {k : LinkId} (hl : S.lines d = some l) (hi : l.client = i)
    (hk : l.link = some k) : k.number < (S.connector i).nextLink := by
  rw [← hi]
  exact h.linked d l k hl hk

/-- **A connector that takes up a line** which it did not know keeps a system in order. -/
theorem Sound.opened (h : S.Sound) (hc : S.lines c = some l₀) (hi : l₀.client = i)
    (hn : (S.connector i).nextLink = n) (hstep : (S.connector i).step m = C')
    (ht : (S.connector i).TakesUp C') :
    ((S.change c fun l => { l with link := some ⟨n⟩ }).act i m).Sound := by
  generalize hS' : (S.change c fun l => { l with link := some ⟨n⟩ }).act i m = S'
  have hself : S'.connector i = { C' with wishes := [] } := hS' ▸ hstep ▸ connector_act_self
  have hothers {j : Nat} (hj : j ≠ i) : S'.connector j = S.connector j := hS' ▸ connector_act_ne hj
  have hcases {d : ChannelId} {l' : Line} (hl' : S'.lines d = some l') :=
    opened_cases hc (hS'.symm ▸ hl')
  have hold {d : ChannelId} {l : Line} {k : LinkId} (hl : S.lines d = some l) (hi : l.client = i)
      (hk : l.link = some k) : k.number < n := hn ▸ h.number_lt hl hi hk
  constructor
  case run =>
    subst hS'
    exact h.run
  case parties =>
    subst hS'
    exact parties_act h.parties (hstep ▸ (h.parties i).takesUp ht)
  case linked =>
    intro d l' k hl' hk
    rcases hcases hl' with ⟨rfl, hclient, hlink⟩ | ⟨-, l, hl, hline⟩
    · obtain rfl := Option.some.inj (hlink.symm.trans hk)
      rw [hclient, hi, hself]
      exact ht.nextLink.symm ▸ hn ▸ Nat.lt_succ_self n
    · rw [hline.client]
      have hk : l.link = some k := hline.link.symm.trans hk
      by_cases hclient : l.client = i
      · rw [hclient, hself]
        exact ht.nextLink.symm ▸ Nat.lt_succ_of_lt (h.number_lt hl hclient hk)
      · rw [hothers hclient]
        exact h.linked d l k hl hk
  case unlinked =>
    intro d l' hl' hk
    rcases hcases hl' with ⟨-, -, hlink⟩ | ⟨-, l, hl, hline⟩
    · cases hlink.symm.trans hk
    · have hnone : l.link = none := hline.link.symm.trans hk
      subst hS'
      exact hline.unused hnone (h.unlinked d l hl hnone)
  case gone =>
    intro d l' hl' hgone
    subst hS'
    rcases hcases hl' with ⟨rfl, -, -⟩ | ⟨-, l, hl, -⟩
    · exact h.gone d l₀ hc hgone
    · exact h.gone d l hl hgone
  case alone =>
    intro d d' l₁ l₁' k hl₁ hl₁' hclient hk hk'
    rcases hcases hl₁ with ⟨rfl, hclient₁, hlink⟩ | ⟨-, l, hl, hline⟩
    · obtain rfl := Option.some.inj (hlink.symm.trans hk)
      rcases hcases hl₁' with ⟨rfl, -, -⟩ | ⟨-, l', hl', hline'⟩
      · rfl
      · have hsame : l'.client = i :=
          hline'.client.symm.trans (hclient.symm.trans (hclient₁.trans hi))
        exact absurd (hold hl' hsame (hline'.link.symm.trans hk')) (Nat.lt_irrefl n)
    · rcases hcases hl₁' with ⟨rfl, hclient₁', hlink⟩ | ⟨-, l', hl', hline'⟩
      · obtain rfl := Option.some.inj (hlink.symm.trans hk')
        have hsame : l.client = i := hline.client.symm.trans (hclient.trans (hclient₁'.trans hi))
        exact absurd (hold hl hsame (hline.link.symm.trans hk)) (Nat.lt_irrefl n)
      · rw [hline.client, hline'.client] at hclient
        exact h.alone d d' l l' k hl hl' hclient (hline.link.symm.trans hk)
          (hline'.link.symm.trans hk')
  case found =>
    intro j k ha hk
    by_cases hj : j = i
    · subst hj
      rw [hself] at hk
      obtain rfl : (⟨n⟩ : LinkId) = k := Option.some.inj ((hn ▸ ht.link).symm.trans hk)
      subst hS'
      exact ⟨c, _, lines_act.2 ⟨_, lines_change.2 ⟨l₀, hc, (if_pos rfl).symm⟩, rfl⟩, hi, rfl⟩
    · rw [hothers hj] at ha hk
      obtain ⟨d, l, hl, hclient, hlink⟩ := h.found j k ha hk
      have hd : d ≠ c := by
        rintro rfl
        obtain rfl := Option.some.inj (hc.symm.trans hl)
        exact hj (hclient.symm.trans hi)
      subst hS'
      exact ⟨d, _, lines_act.2 ⟨l, lines_change.2 ⟨l, hl, (if_neg hd).symm⟩, rfl⟩, hclient, hlink⟩

end Opened

end Steps

end System

end DurableSession.Ends
