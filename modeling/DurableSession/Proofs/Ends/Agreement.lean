import DurableSession.Proofs.Ends.Order

/-!
Both ends of a link agree on who is signed in.

A connector never receives a login from its server: it takes the one of the attempt that it believes
to be under way, or that of the session that it remembers. Main statement: `agreement_of_run`, the
gate at the other end carries just the session that the connector has, unless it is closed, and that
session was given out for just that login.
-/

namespace DurableSession.Ends

open Lifecycle (Phase SessionId)
open Client (Connector LinkId DialId Moment Request Supply)
open Server (ChannelId SignonId Gatehouse Post Operation Origin)

namespace System

/-- On the link of the connector `i`, if it is attached, it is somebody's move. -/
def WordedFor (S : System) (i : Nat) : Prop :=
  ∀ c l k, S.lines c = some l → l.client = i → l.link = some k → (S.connector i).link? = some k →
    (S.connector i).snapshot.Attached →
    ∃ w : Word, w.Holds S.window S.performed (S.connector i) ((S.parties i).asked k) l.up l.down
      (S.house.posts.find? c)

/-- **A system in order**, in which it is somebody's move on every link. -/
structure Harmony (S : System) : Prop extends Sound S where
  worded : ∀ i, S.WordedFor i

section Happenings

variable {S : System} {i : Nat} {c d : ChannelId} {l l' : Line} {m : Moment} {e : Server.Event}
  {C' : Connector}

/-- Whatever happens at the server on a line that nobody reads, it is somebody's move. -/
theorem serve_of_worded (h : S.Sound) (ha : S.Allows e) (hv : visited? e ≠ some c) {w : Word}
    {C : Connector} {asked : List Request} {up down : List String}
    (hw : w.Holds S.window S.performed C asked up down (S.house.posts.find? c)) :
    ∃ w' : Word, w'.Holds S.window (S.happen e).performed C asked up
      (if e.channel? = some c then down ++ (S.house.answer? e).toList.map Phase.encode else down)
      ((S.happen e).house.posts.find? c) := by
  rw [performed_happen, house_happen]
  exact hw.serve h.state (h.run_happen ha) hv

/-- It is somebody's move after a moment of the connector `i`: nothing changes for the others. -/
theorem worded_act (hstep : (S.connector i).step m = C') (hothers : ∀ j, j ≠ i → S.WordedFor j)
    (hself : ∀ c l k, S.lines c = some l → l.client = i → l.link = some k → C'.link? = some k →
      C'.snapshot.Attached → ∃ w : Word, w.Holds S.window S.performed C'
      ((S.parties i).asked k ++ C'.questions k) (l.up ++ C'.said k) l.down (S.house.posts.find? c))
    (j : Nat) : (S.act i m).WordedFor j := by
  intro c l' k hl' hj hk hlink hattached
  obtain ⟨l, hl, rfl⟩ := lines_act.1 hl'
  dsimp only at hj hk ⊢
  by_cases hi : j = i
  · subst hi
    rw [connector_act_self, hstep] at hlink hattached ⊢
    rw [asked_act_self, if_pos hj, hk, hstep]
    obtain ⟨w, hw⟩ := hself c l k hl hj hk hlink hattached
    exact ⟨w, hw.asked, hw.up, hw.down, hw.suits, hw.concerns, hw.guards⟩
  · rw [connector_act_ne hi] at hlink hattached ⊢
    rw [parties_act_ne hi, if_neg (hj ▸ hi), List.append_nil]
    exact hothers j hi c l k hl hj hk hlink hattached

/-! ### Happenings -/

theorem Harmony.client (h : S.Harmony) (hm : (S.connector i).Free m) : (S.act i m).Harmony := by
  have hw : (S.connector i).wishes = [] := (h.parties i).wishes
  have hp := (h.parties i).pending
  have hconduct : (S.connector i).Conduct ((S.connector i).step m) :=
    Connector.conduct_of_free hp hm
  refine ⟨h.act rfl (Word.orderly_of_conduct hw hp hconduct),
    worded_act rfl (fun j _ => h.worded j) fun c l k hl hi hk hlink hattached => ?_⟩
  cases hconduct with
  | withdrawn hgone => exact absurd hattached hgone.away
  | steady hsteady =>
    obtain ⟨w, hholds⟩ := h.worded i c l k hl hi hk (hsteady.link ▸ hlink)
      (hsteady.attached_iff.1 hattached)
    exact ⟨w, hholds.steady hw hsteady rfl⟩

theorem Harmony.idle (h : S.Harmony) (hstep : (S.connector i).step m = S.connector i) :
    (S.act i m).Harmony := by
  have hw : (S.connector i).wishes = [] := (h.parties i).wishes
  refine ⟨h.act hstep (Word.orderly_of_conduct hw (h.parties i).pending (.steady (.refl _))),
    worded_act hstep (fun j _ => h.worded j) fun c l k hl hi hk hlink hattached => ?_⟩
  obtain ⟨w, hholds⟩ := h.worded i c l k hl hi hk hlink hattached
  exact ⟨w, hholds.steady hw (.refl _) rfl⟩

/-- A question is answered that nobody waits for any more. -/
theorem Harmony.settle {link : LinkId} {r : Request} (h : S.Harmony)
    (hlate : ¬ ((S.connector i).link? = some link ∧ (S.connector i).snapshot.Attached)) :
    (S.settle i link r).Harmony := by
  refine ⟨h.toSound.settle, fun j c l k hl hj hk hlink hattached => ?_⟩
  rw [connector_settle] at hlink hattached ⊢
  have hne : ¬ (j = i ∧ k = link) := by
    rintro ⟨rfl, rfl⟩
    exact hlate ⟨hlink, hattached⟩
  rw [asked_settle, if_neg hne]
  exact h.worded j c l k hl hj hk hlink hattached

theorem Harmony.supplied {link : LinkId} {r : Request} {answer : Supply} {e : Client.Event}
    (h : S.Harmony) (hr : r ∈ (S.parties i).asked link) (he : event? link r answer = some e) :
    ((S.settle i link r).act i (.event e)).Harmony := by
  have hw : (S.connector i).wishes = [] := (h.parties i).wishes
  have hstep : ((S.settle i link r).connector i).step (.event e) = (S.connector i).handle e := by
    rw [connector_settle]
    rfl
  by_cases hcurrent : (S.connector i).link? = some link ∧ (S.connector i).snapshot.Attached
  · obtain ⟨hlink, hattached⟩ := hcurrent
    have hsupply {c : ChannelId} {l : Line} (hl : S.lines c = some l) (hi : l.client = i)
      (hk : l.link = some link) :
        Word.Orderly S.window S.performed (S.connector i) ((S.connector i).handle e) ∧
          ∃ w : Word, w.Holds S.window S.performed ((S.connector i).handle e)
            (((S.parties i).asked link).erase r ++ ((S.connector i).handle e).questions link)
            (l.up ++ ((S.connector i).handle e).said link) l.down (S.house.posts.find? c) := by
      obtain ⟨w, hholds⟩ := h.worded i c l link hl hi hk hlink hattached
      exact hholds.supply hr he hlink hw
    obtain ⟨c₀, l₀, hl₀, hi₀, hk₀⟩ := h.found i link hattached hlink
    have horderly := (hsupply hl₀ hi₀ hk₀).1
    refine ⟨h.toSound.settle.act hstep (by rwa [connector_settle]),
      worded_act hstep (fun j hj c l k hl hclient hk => ?_) fun c l k hl hi hk hlink' _ => ?_⟩
    · rw [connector_settle, asked_settle, if_neg fun h => hj h.1]
      exact h.worded j c l k hl hclient hk
    · obtain rfl : link = k := Option.some.inj (hlink.symm.trans (horderly.link k hlink'))
      rw [asked_settle, if_pos ⟨rfl, rfl⟩]
      exact (hsupply hl hi hk).2
  · -- the connector has moved on, and the answer comes too late
    refine (h.settle hcurrent).idle ?_
    rw [hstep, connector_settle]
    refine Word.handle_of_late he ?_
    by_cases hlink : (S.connector i).link? = some link
    · exact .inr fun hs => hcurrent ⟨hlink, .inl hs⟩
    · exact .inl hlink

theorem Harmony.down {k : LinkId} {text : String} {up rest : List String} (h : S.Harmony)
    (hc : S.lines c = some ⟨i, some k, up, text :: rest⟩) :
    ((S.change c fun l => { l with down := rest }).act i (.event (.text k text))).Harmony := by
  have hw : (S.connector i).wishes = [] := (h.parties i).wishes
  have hp := (h.parties i).pending
  have hsound : (S.change c fun l => { l with down := rest }).Sound := by
    refine h.change fun l hl => ⟨rfl, rfl, fun hlink => ?_⟩
    obtain rfl := Option.some.inj (hc.symm.trans hl)
    cases hlink
  have hothers (j : Nat) (hj : j ≠ i) :
      (S.change c fun l => { l with down := rest }).WordedFor j := by
    intro d l k' hl hclient
    rcases change_cases hc hl with ⟨rfl, rfl⟩ | ⟨-, hl⟩
    · exact absurd hclient.symm hj
    · exact h.worded j d l k' hl hclient
  by_cases hlink : (S.connector i).link? = some k
  · by_cases hattached : (S.connector i).snapshot.Attached
    · obtain ⟨w, hholds⟩ := h.worded i c _ k hc rfl rfl hlink hattached
      obtain ⟨horderly, hword⟩ := hholds.hear hlink hw hp
      refine ⟨hsound.act rfl horderly,
        worded_act rfl hothers fun d l k' hl hi hk' hlink' hattached' => ?_⟩
      obtain rfl : k = k' := Option.some.inj (hlink.symm.trans (horderly.link k' hlink'))
      rcases change_cases hc hl with ⟨rfl, rfl⟩ | ⟨hd, hl⟩
      · exact hword.resolve_left (not_not.2 hattached')
      · exact absurd (h.alone d c l _ k hl hc hi hk' rfl) hd
    · have horderly : Word.Orderly S.window S.performed (S.connector i)
          ((S.connector i).handle (.text k text)) :=
        Word.orderly_of_conduct hw hp
          (Connector.conduct_of_detached hattached (hp fun hs => hattached (.inl hs)))
      exact ⟨hsound.act rfl horderly, worded_act rfl hothers fun d l k' _ _ _ _ hattached' =>
        absurd (horderly.attached hattached') hattached⟩
  · -- a text of a link that was given up
    have hsame : (S.change c fun l => { l with down := rest }).Harmony := by
      refine ⟨hsound, fun j d l k' hl hclient hk' hlink' hattached' => ?_⟩
      rcases change_cases hc hl with ⟨rfl, rfl⟩ | ⟨-, hl⟩
      · obtain rfl : i = j := hclient
        exact absurd (hlink'.trans hk'.symm) hlink
      · exact h.worded j d l k' hl hclient hk' hlink' hattached'
    exact hsame.idle (Connector.text_of_other hlink)

theorem Harmony.up {link : Option LinkId} {fresh : SignonId} {text : String}
    {rest down : List String} (h : S.Harmony) (hc : S.lines c = some ⟨i, link, text :: rest, down⟩)
    (hf : S.house.state.signons.find? fresh = none) :
    ((S.change c fun l => { l with up := rest }).happen (.text c fresh text)).Harmony := by
  have hlinked : link ≠ none := by
    rintro rfl
    simpa using (h.unlinked c _ hc rfl).up
  have hsound : (S.change c fun l => { l with up := rest }).Sound := by
    refine h.change fun l hl => ⟨rfl, rfl, fun hlink => ?_⟩
    obtain rfl := Option.some.inj (hc.symm.trans hl)
    exact absurd hlink hlinked
  have hallows : (S.change c fun l => { l with up := rest }).Allows (.text c fresh text) := hf
  have hrun : Server.Run S.window (S.performed ++ S.house.deeds (.text c fresh text)) :=
    hsound.run_happen hallows
  constructor
  · refine hsound.happen hallows fun d l hd hl => ?_
    obtain rfl := Option.some.inj hd
    obtain ⟨-, rfl⟩ := (change_cases hc hl).resolve_right fun h => h.1 rfl
    exact hlinked
  · intro j d l' k hl' hclient hk hlink hattached
    obtain ⟨l, hl, rfl⟩ := lines_happen.1 hl'
    rcases change_cases hc hl with ⟨rfl, rfl⟩ | ⟨hd, hl⟩
    · obtain ⟨w, hholds⟩ := h.worded j d _ k hc hclient hk hlink hattached
      have hchannel : (Server.Event.text d fresh text).channel? = some d := rfl
      rw [performed_happen, house_happen, if_pos hchannel]
      exact hholds.read hrun
    · obtain ⟨w, hholds⟩ := h.worded j d l k hl hclient hk hlink hattached
      exact serve_of_worded hsound hallows (fun he => hd (Option.some.inj he).symm) hholds

theorem Harmony.emit {text : String} (h : S.Harmony) (hplain : Phase.isFrame text = false) :
    (S.change c fun l => { l with down := l.down ++ [text] }).Harmony := by
  have hdown (l : Line) : (l.down ++ [text]).filter Phase.isFrame =
      l.down.filter Phase.isFrame := by
    simp [hplain]
  refine ⟨h.change fun l _ => ⟨rfl, rfl, fun _ => ⟨rfl, hdown l⟩⟩,
    fun j d l' k hl' hclient hk hlink hattached => ?_⟩
  obtain ⟨l, hl, rfl⟩ := lines_change.1 hl'
  by_cases hd : d = c
  · simp only [if_pos hd] at hclient hk ⊢
    obtain ⟨w, hholds⟩ := h.worded j d l k hl hclient hk hlink hattached
    exact ⟨w, hholds.alike (Connector.Steady.refl _).toAlike rfl (hdown l)⟩
  · simp only [if_neg hd] at hclient hk ⊢
    exact h.worded j d l k hl hclient hk hlink hattached

/-- Anything happens at the server that is not about the lines. -/
theorem Harmony.happen (h : S.Harmony) (ha : S.Allows e) (hv : ∀ c ∈ visited? e, S.lines c = none) :
    (S.happen e).Harmony := by
  refine ⟨h.toSound.happen ha fun c l hc hl => ?_,
    fun j c l' k hl' hclient hk hlink hattached => ?_⟩
  · simp [hv c hc] at hl
  · obtain ⟨l, hl, rfl⟩ := lines_happen.1 hl'
    obtain ⟨w, hholds⟩ := h.worded j c l k hl hclient hk hlink hattached
    refine serve_of_worded h.toSound ha (fun he => ?_) hholds
    simp [hv c he] at hl

theorem Harmony.join (h : S.Harmony) (hc : S.lines c = none)
    (hpost : ∃ q, S.house.posts.find? c = some q ∧ q.gate.awaits = true ∧ q.awaited = none) :
    (S.join c { client := i }).Harmony := by
  obtain ⟨q, hq, hawaits, hidle⟩ := hpost
  have hline {d : ChannelId} {l : Line} (hl : (S.join c { client := i }).lines d = some l) :
      (d = c ∧ l = { client := i }) ∨ S.lines d = some l := by
    by_cases hd : d = c
    · exact .inl ⟨hd, (Option.some.inj ((if_pos hd).symm.trans hl)).symm⟩
    · exact .inr ((if_neg hd).symm.trans hl)
  refine ⟨⟨h.run, h.parties, fun d l k hl hk => ?_, fun d l hl hk => ?_, fun d l hl hgone => ?_,
    fun d d' l l' k hl hl' hclient hk hk' => ?_, fun j k ha hk => ?_⟩,
    fun j d l k hl hclient hk => ?_⟩
  · rcases hline hl with ⟨rfl, rfl⟩ | hl
    · cases hk
    · exact h.linked d l k hl hk
  · rcases hline hl with ⟨rfl, rfl⟩ | hl
    · refine ⟨rfl, rfl, fun q' hq' => ?_⟩
      obtain rfl := Option.some.inj (hq.symm.trans hq')
      exact ⟨hawaits, hidle⟩
    · exact h.unlinked d l hl hk
  · rcases hline hl with ⟨rfl, rfl⟩ | hl
    · exact absurd (hq.symm.trans hgone) (by simp)
    · exact h.gone d l hl hgone
  · rcases hline hl with ⟨rfl, rfl⟩ | hl
    · cases hk
    · rcases hline hl' with ⟨rfl, rfl⟩ | hl'
      · cases hk'
      · exact h.alone d d' l l' k hl hl' hclient hk hk'
  · obtain ⟨d, l, hl, hclient, hlink⟩ := h.found j k ha hk
    have hd : d ≠ c := by
      rintro rfl
      simp [hc] at hl
    exact ⟨d, l, (if_neg hd).trans hl, hclient, hlink⟩
  · rcases hline hl with ⟨rfl, rfl⟩ | hl
    · cases hk
    · exact h.worded j d l k hl hclient hk

theorem Harmony.opened {attempt : DialId} {l₀ : Line} (h : S.Harmony)
    (hd : (S.connector i).dial = some attempt) (hs : (S.connector i).snapshot.status = .connecting)
    (hc : S.lines c = some l₀) (hi : l₀.client = i) (hnone : l₀.link = none) :
    ((S.change c fun l => { l with link := some ⟨(S.connector i).nextLink⟩ }).act i
      (.event (.dialed attempt (some S.server)))).Harmony := by
  have htakes := Connector.takesUp_of_dialed hd hs S.server
  refine ⟨h.toSound.opened hc hi rfl rfl htakes,
    worded_act rfl (fun j hj d l k hl hclient => ?_) fun d l k hl hclient hk hlink _ => ?_⟩
  · rcases change_cases hc hl with ⟨rfl, rfl⟩ | ⟨-, hl⟩
    · exact absurd (hclient.symm.trans hi) hj
    · exact h.worded j d l k hl hclient
  · obtain rfl : ⟨(S.connector i).nextLink⟩ = k := Option.some.inj (htakes.link.symm.trans hlink)
    rcases change_cases hc hl with ⟨rfl, rfl⟩ | ⟨-, hl⟩
    · have hunused := h.unlinked d l₀ hc hnone
      have hfresh : (S.parties i).asked ⟨(S.connector i).nextLink⟩ = [] :=
        (h.parties i).asked _ (Nat.le_refl _)
      have hwaits : (S.connector i).snapshot.status ≠ .connected := by simp [hs]
      have hp : (S.connector i).pendingLogin = none := (h.parties i).pending hwaits
      obtain ⟨w, hholds⟩ := Word.holds_of_takesUp htakes (h.parties i).wishes hp
        (h.parties i).resume hunused.down hunused.post
      refine ⟨w, ?_⟩
      dsimp only
      rw [hunused.up, List.nil_append,
        show ((S.change d _).parties i).asked _ = [] from hfresh, List.nil_append]
      exact hholds
    · exact absurd (h.number_lt hl hclient hk) (Nat.lt_irrefl _)

/-- **One happening.** -/
theorem Harmony.step (h : S.Harmony) {a : Happening} (ha : S.Admissible a) :
    (S.step a).Harmony := by
  cases a with
  | client i m => exact h.client ha
  | supplied i link r answer =>
    obtain ⟨hr, hanswer⟩ := ha
    obtain ⟨e, he⟩ := Option.isSome_iff_exists.1 hanswer
    unfold System.step
    dsimp only
    rw [he]
    exact h.supplied hr he
  | arrive i c remote capacity =>
    obtain ⟨hc, hallows⟩ := ha
    have hhappens := h.happen hallows (by simp [visited?, hc])
    refine hhappens.join ?_
      ⟨{ gate := { channel := c, authenticationRequired := S.server.authenticationRequired } },
      ?_, rfl, rfl⟩
    · simp [System.happen, hc]
    · rw [house_happen]
      simp [Gatehouse.step]
  | opened i attempt c =>
    obtain ⟨hd, hs, l, hl, hi, hnone⟩ := ha
    exact h.opened hd hs hl hi hnone
  | up c fresh =>
    unfold System.step
    dsimp only
    split
    · next i link text rest down hc => exact h.up hc ha
    · exact h
  | down c =>
    unfold System.step
    dsimp only
    split
    · next i k up text rest hc => exact h.down hc
    · exact h
  | emit c text =>
    unfold System.step
    dsimp only
    split
    · exact h.emit ha
    · exact h
  | server e => exact h.happen ha.1 ha.2

end Happenings

/-! ### Agreement -/

/-- **Both ends agree**: the connector is signed in under a login, with a session that it remembers
for that login, and on the channel at the other end of its link the gate carries just that session,
or is closed. The session comes from one signon, which was one of that login. -/
structure Agreement (S : System) (i : Nat) (c : ChannelId) (x : SessionId) (name : String) :
    Prop where
  login : (S.connector i).snapshot.parts.login = some name
  session : (S.connector i).session = some x
  resume : (S.connector i).resume = some ⟨x, name⟩
  joined : ∃ l k, S.lines c = some l ∧ l.client = i ∧ l.link = some k ∧
    (S.connector i).link? = some k
  alone : ∀ c' l', S.lines c' = some l' → l'.client = i → l'.link = (S.connector i).link? → c' = c
  gate : S.house.carried? c = some x ∨ (S.house.posts.find? c = none ∧ .depart c ∈ S.log)
  minted : ∃ o : Origin, o.Mints S.window S.performed x ∧ o.login = name ∧
    ∀ o' : Origin, o'.Mints S.window S.performed x → o' = o

theorem Harmony.agreement {S : System} {i : Nat} (h : S.Harmony)
    (hs : (S.connector i).snapshot.status = .signedIn) :
    ∃ c x login, S.Agreement i c x login := by
  have hattached : (S.connector i).snapshot.Attached := .inr hs
  obtain ⟨k, hk⟩ : ∃ k, (S.connector i).link? = some k :=
    Option.ne_none_iff_exists'.1 (Client.Snapshot.attached_parts hattached).2.2.1
  obtain ⟨c, l, hl, rfl, hlink⟩ := h.found i k hattached hk
  obtain ⟨w, hw⟩ := h.worded l.client c l k hl rfl hlink hk hattached
  obtain ⟨x, rfl⟩ : ∃ x, w = .settled x := by
    have hsuits := hw.suits
    cases w with
    | settled x => exact ⟨x, rfl⟩
    | _ => exact absurd (hs.symm.trans hsuits) (by simp)
  obtain ⟨-, login, hlogin, hsession, hresume⟩ := hw.suits
  obtain ⟨o, hmints, ho⟩ := (h.parties l.client).resume ⟨x, login⟩ hresume
  refine ⟨c, x, login, hlogin, hsession, hresume, ⟨l, k, hl, rfl, hlink, hk⟩,
    fun c' l' hl' hclient hsame => ?_,
    ?_, o, hmints, ho, fun o' ho' => hmints.unique (Gatehouse.run_performed h.run).1 ho'⟩
  · exact h.alone c' c l' l k hl' hl hclient (hsame.trans hk) hlink
  · cases hp : S.house.posts.find? c with
    | none => exact .inr ⟨rfl, h.gone c l hl hp⟩
    | some q => exact .inl (Gatehouse.carried?_eq_some.2 ⟨q, hp, (hw.guards q hp).1⟩)

end System

theorem Setting.harmony (u : Setting) : u.system.Harmony where
  run := trivial
  parties i := ⟨rfl, fun _ => rfl, by simp [Setting.system, Client.Setup.connector],
    by simp [Setting.system, Client.Setup.connector, Connector.link?,
      Client.Snapshot.initial], fun _ _ => rfl⟩
  linked c l k hl := by cases hl
  unlinked c l hl := by cases hl
  gone c l hl := by cases hl
  alone c c' l l' k hl := by cases hl
  found i k ha := by
    rcases ha with ha | ha <;> cases ha
  worded i c l k hl := by cases hl

theorem harmony_of_run {u : Setting} {past : List Happening} (hr : u.Run past) :
    (u.after past).Harmony := by
  induction past using List.reverseRecOn with
  | nil => exact u.harmony
  | append_singleton past a ih =>
    obtain ⟨hpast, ha⟩ := Setting.run_snoc.1 hr
    rw [Setting.after_snoc]
    exact (ih hpast).step ha

/-- **Both ends agree on who is signed in**, in every run of any number of connectors and a
server. -/
theorem agreement_of_run {u : Setting} {past : List Happening} (hr : u.Run past) {i : Nat}
    (hs : ((u.after past).connector i).snapshot.status = .signedIn) :
    ∃ c x name, (u.after past).Agreement i c x name :=
  (harmony_of_run hr).agreement hs

/-! ### A short course -/

namespace Sample

open Server.Sample (client otherClient address token)
open Client.Sample (setup)

def setting : Setting :=
  { window := 10000, server := Client.Sample.server, setups := fun _ => setup }

/-- Carol signs on with a second factor, while a message of the server's application is on its
way. -/
def signon : List Happening :=
  [.client 0 (.command .start), .arrive 0 client address 8, .opened 0 ⟨1⟩ client,
    .supplied 0 ⟨1⟩ .credentials (.credentials (some ⟨"carol", ⟨"secret"⟩⟩)), .up client ⟨0⟩,
    .server (.elsewhere (.start ⟨0⟩ Server.Sample.session)),
    .server (.elsewhere (.answerPrimary ⟨0⟩ .needsSecondary token)), .server (.outcome client),
    .down client,
    .supplied 0 ⟨1⟩ (.secondaryCode token) (.code (some ⟨"123456"⟩)), .up client ⟨1⟩,
    .server (.elsewhere (.start ⟨1⟩ Server.Sample.otherSession)),
    .server (.elsewhere (.answerSecondary ⟨1⟩ true)),
    .server (.outcome client), .emit client "hello", .down client, .down client,
    .client 0 (.send "hello")]

/-- The channel breaks, and she comes back on another one. -/
def comeback : List Happening :=
  signon ++ [.client 0 (.event (.linkClosed ⟨1⟩)), .server (.depart client),
    .client 0 (.event (.timerFired ⟨1⟩ .reconnect)), .arrive 0 otherClient address 8,
    .opened 0 ⟨2⟩ otherClient,
    .up otherClient ⟨2⟩, .down otherClient]

end Sample

set_option maxRecDepth 20000 in
/-- When Carol has come back, both ends agree that she carries her session on her other channel. -/
theorem carol_agreed : Sample.setting.Run Sample.comeback ∧
    (Sample.setting.after Sample.comeback).Agreement 0 Server.Sample.otherClient
      Server.Sample.session "carol" := by
  obtain ⟨hr, hs, hresume, l, hl, hclient, hlink⟩ : Sample.setting.Run Sample.comeback ∧
      ((Sample.setting.after Sample.comeback).connector 0).snapshot.status = .signedIn ∧
      ((Sample.setting.after Sample.comeback).connector 0).resume =
        some ⟨Server.Sample.session, "carol"⟩ ∧
      ∃ l ∈ (Sample.setting.after Sample.comeback).lines Server.Sample.otherClient,
        l.client = 0 ∧ l.link = ((Sample.setting.after Sample.comeback).connector 0).link? := by
          decide +kernel
  obtain ⟨c, x, name, hagree⟩ := agreement_of_run hr hs
  obtain ⟨rfl, rfl⟩ := Client.Resume.mk.inj (Option.some.inj (hagree.resume.symm.trans hresume))
  obtain rfl := hagree.alone _ l hl hclient hlink
  exact ⟨hr, hagree⟩

end DurableSession.Ends
