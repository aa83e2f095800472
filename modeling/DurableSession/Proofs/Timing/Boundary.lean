import DurableSession.Timing.Flat
import DurableSession.Proofs.Document.Json

/-!
One boundary, whichever way it is built.

`Intervals.faults` lists all that is wrong with six intervals. The check tells the first of them and
accepts what has none, and every way to a boundary ends in it: the steps of a plan, a source that
answers key by key, and a document that gives some of the fields and leaves the others to the
lenient boundary. A boundary is therefore read back from its view and from its text. Main
statements: `check_eq_error_iff`, `readIntervals_record` and `ways`.
-/

namespace DurableSession

theorem Text.toNat_le_maxWord (w : UInt64) :
    w.toNat ≤ Text.maxWord := Nat.le_sub_one_of_lt w.toNat_lt

namespace Timing

open Json (Draft)

namespace Intervals

/-! ### The check -/

def above (v : Intervals) : List Key := Key.all.filter fun k => never < v.get k

/-- All that is wrong with the intervals: the ping interval first, then the ceiling key by key, then
the delays. -/
def faults (v : Intervals) : List BoundaryFault :=
  (if v.pingInterval = 0 then [.zeroPingInterval] else []) ++
    v.above.map (fun k => .aboveCeiling k (v.get k)) ++
    (if v.reconnectLower ≤ v.reconnectUpper then []
      else [.invertedDelay v.reconnectLower v.reconnectUpper])

theorem ofFunction_get (v : Intervals) : ofFunction v.get = v := rfl

theorem head?_above (v : Intervals) : v.above.head? = v.firstAbove? := by
  rw [above, List.head?_filter, firstAbove?]

/-- Intervals that make sense together pass the check. -/
theorem check_of_sound {v : Intervals} (h : v.Sound) : v.check = .ok ⟨v, h⟩ := by
  have habove : v.firstAbove? = none := by
    refine List.find?_eq_none.2 fun k _ => ?_
    simpa using h.le_never k
  unfold check
  split
  · next hzero => exact absurd hzero h.pingInterval_ne_zero
  · split
    · next hk => simp [habove] at hk
    · exact dif_pos h.lower_le_upper

/-- The check tells the first thing that is wrong. -/
theorem check_eq_error_iff (v : Intervals) (f : BoundaryFault) :
    v.check = .error f ↔ v.faults.head? = some f := by
  have hhead := v.head?_above
  unfold check faults
  split
  · simp
  · split
    · next k hk =>
      rw [hk] at hhead
      obtain ⟨ks, hks⟩ := List.head?_eq_some_iff.1 hhead
      simp [hks]
    · next hk =>
      rw [hk, List.head?_eq_none_iff] at hhead
      by_cases horder : v.reconnectLower ≤ v.reconnectUpper <;> simp [hhead, horder]

theorem check_eq_ok_iff (v : Intervals) (b : Boundary) : v.check = .ok b ↔ b.intervals = v := by
  constructor
  · intro h
    unfold check at h
    split at h
    · cases h
    · split at h
      · cases h
      · split at h <;> cases h
        rfl
  · rintro rfl
    exact check_of_sound b.sound

theorem exists_check_eq_ok_iff (v : Intervals) :
    (∃ b, v.check = .ok b) ↔
      1 ≤ v.pingInterval ∧ (∀ k, v.get k ≤ never) ∧ v.reconnectLower ≤ v.reconnectUpper := by
  have hpos : 1 ≤ v.pingInterval ↔ v.pingInterval ≠ 0 := by
    rw [UInt64.le_iff_toNat_le, ne_eq, ← UInt64.toNat_inj]
    exact Nat.pos_iff_ne_zero
  rw [hpos]
  constructor
  · rintro ⟨b, hb⟩
    obtain rfl := (check_eq_ok_iff v b).1 hb
    exact ⟨b.sound.pingInterval_ne_zero, b.sound.le_never, b.sound.lower_le_upper⟩
  · rintro ⟨hzero, hnever, horder⟩
    exact ⟨_, check_of_sound ⟨hzero, hnever, horder⟩⟩

theorem check_ne_invertedDelay {v : Intervals} (h : v.reconnectLower ≤ v.reconnectUpper)
    (l u : UInt64) :
    v.check ≠ .error (.invertedDelay l u) := by
  rw [ne_eq, check_eq_error_iff]
  intro hhead
  have hmem := List.mem_of_head? hhead
  simp [faults, h] at hmem

end Intervals

namespace Plan

theorem toNat_twice (ms : UInt64) : (twice ms).toNat = min (2 * ms.toNat) (Nat.pow 2 64 - 1) := by
  rw [twice, UInt64.toNat_ofNat']
  exact Nat.mod_eq_of_lt (by simp only [Nat.pow_eq]; omega)

/-- A delay up to its double is in order, also where the double is no word. -/
theorem le_twice (ms : UInt64) : ms ≤ twice ms := by
  have := ms.toNat_lt
  rw [UInt64.le_iff_toNat_le, toNat_twice]
  simp only [Nat.pow_eq]
  omega

end Plan

namespace Boundary

/-! ### A source of answers -/

/-- Every key is asked for once, in the order of the keys. -/
theorem parse_eq {m : Type → Type} [Monad m] [LawfulMonad m] (v : Intervals) (ask : Key → m PUnit) :
    parse (fun k => do ask k; return v.get k) = do Key.all.forM ask; return v.check := by
  simp [parse, Key.all, Plan.build]
  rfl

theorem parse_pure {m : Type → Type} [Monad m] [LawfulMonad m] (v : Intervals) :
    parse (fun k => (pure (v.get k) : m UInt64)) = pure v.check := by
  simp [parse, Plan.build]
  rfl

/-! ### The flat form -/

/-- Some of the fields, each with the value given for its key. -/
abbrev Entries := List (Key × UInt64)

namespace Entries

def toDocument (es : Entries) : Document := .record (es.map fun e => (e.1.field, .nat e.2.toNat))

/-- No key is given twice. -/
def Distinct (es : Entries) : Prop := (es.map Prod.fst).Nodup

/-- What is given, and the lenient boundary elsewhere. -/
def completed (es : Entries) : Intervals := .ofFunction fun k => (es.lookup k).getD (lenient.get k)

def all (v : Intervals) : Entries := Key.all.map fun k => (k, v.get k)

theorem lookup_eq_none {es : Entries} {k : Key} (h : k ∉ es.map Prod.fst) : es.lookup k = none := by
  rw [List.lookup_eq_none_iff]
  intro e he
  have hne : k ≠ e.1 := by
    rintro rfl
    exact h (List.mem_map_of_mem he)
  exact bne_iff_ne.2 hne

theorem lookup_all (v : Intervals) (k : Key) : (all v).lookup k = some (v.get k) := by
  cases k <;> rfl

theorem completed_all (v : Intervals) : (all v).completed = v := by
  simp only [completed, lookup_all, Option.getD_some, Intervals.ofFunction_get]

theorem distinct_all (v : Intervals) : (all v).Distinct := by
  have hkeys : (all v).map Prod.fst = Key.all := rfl
  rw [Distinct, hkeys]
  decide

theorem readsBack_toDocument (es : Entries) : Json.ReadsBack Json.maxDepth es.toDocument := by
  refine Json.readsBack_record fun m hm => ?_
  obtain ⟨e, -, rfl⟩ := List.mem_map.1 hm
  exact Json.readsBack_nat _ (Text.toNat_le_maxWord e.2)

end Entries

theorem readMs_nat (ms : UInt64) : readMs (.whole (.nat ms.toNat)) = .ok ms := by
  have hword := Text.toNat_le_maxWord ms
  simp only [readMs, Draft.plain, Document.nat, Document.asUnsigned, if_pos hword, bind,
    Except.bind, pure, Except.pure, UInt64.ofNat_toNat]

/-- The members are taken up one by one, on top of what was given before them. -/
theorem readMembers_entries {es : Entries} (hes : es.Distinct) {g : Given}
    (hg : ∀ k ∈ es.map Prod.fst, g k = none) :
    readMembers g (es.map fun e => (e.1.field, .whole (.nat e.2.toNat))) =
      .ok fun k => (es.lookup k).or (g k) := by
  induction es generalizing g with
  | nil => rfl
  | cons e es ih =>
    obtain ⟨k, ms⟩ := e
    obtain ⟨hk, hes⟩ : k ∉ es.map Prod.fst ∧ Entries.Distinct es := List.nodup_cons.1 hes
    have hfree : g k = none := hg k (List.mem_cons_self ..)
    have hset : ∀ k' ∈ es.map Prod.fst, g.set k ms k' = none := by
      intro k' hk'
      have hne : k' ≠ k := fun h => hk (h ▸ hk')
      simp only [Given.set, if_neg hne]
      exact hg k' (List.mem_cons_of_mem _ hk')
    simp only [List.map_cons, readMembers, Key.ofField?_field, hfree, Option.isSome_none,
      readMs_nat]
    rw [if_neg (by decide), ih hes hset]
    congr 1
    funext k'
    by_cases hkey : k' = k
    · subst hkey
      simp [Entries.lookup_eq_none hk, Given.set]
    · simp [List.lookup_cons, beq_false_of_ne hkey, Given.set, hkey]

theorem readItems_values (v : Intervals) (n : Nat) {ks : List Key} (hks : ks.Nodup) (g : Given) :
    readItems g ks ((ks.take n).map fun k => .whole (.nat (v.get k).toNat)) =
      .ok (fun k => if k ∈ ks.take n then some (v.get k) else g k, []) := by
  induction ks generalizing n g with
  | nil => simp [readItems]
  | cons k ks ih =>
    cases n with
    | zero => simp [readItems]
    | succ n =>
      obtain ⟨hk, hks⟩ := List.nodup_cons.1 hks
      simp only [List.take_succ_cons, List.map_cons, readItems, readMs_nat]
      rw [ih n hks]
      congr 2
      funext k'
      by_cases hkey : k' = k
      · subst hkey
        simp [Given.set]
      · simp [Given.set, hkey]

theorem readIntervals_record (surplus : Bool) {es : Entries} (hes : es.Distinct) :
    readIntervals surplus (.whole es.toDocument) = .ok es.completed := by
  have hmembers := readMembers_entries hes (g := fun _ => none) fun _ _ => rfl
  simp only [readIntervals, Entries.toDocument, Draft.members?, List.map_map, Function.comp_def,
    hmembers, bind, Except.bind, Option.or_none]
  rfl

theorem readIntervals_list (surplus : Bool) (v : Intervals) (n : Nat) :
    readIntervals surplus (.whole (.list ((Key.all.take n).map fun k => .nat (v.get k).toNat))) =
      .ok (.ofFunction fun k => if k ∈ Key.all.take n then v.get k else lenient.get k) := by
  have hkeys : Key.all.Nodup := by decide
  have hitems := readItems_values v n hkeys fun _ => none
  simp only [readIntervals, Draft.members?, Draft.items?, List.map_map, Function.comp_def, hitems,
    bind, Except.bind, List.isEmpty_nil, Bool.not_true, Bool.false_and, pure, Except.pure,
    Given.complete]
  rw [if_neg (by decide)]
  congr 2
  funext k
  split <;> rfl

/-- What the reader of a document answers where the check answers `answer`. -/
def told (answer : Except BoundaryFault Boundary) : Except Json.Error Boundary :=
  answer.mapError fun f => .mismatch (.refused (faultText f))

theorem ofDraft_eq {surplus : Bool} {d : Draft} {v : Intervals}
    (h : readIntervals surplus d = .ok v) :
    ofDraft surplus d = told v.check := by
  simp only [ofDraft, h, bind, Except.bind]
  cases v.check <;> rfl

theorem toDocument_eq (b : Boundary) : b.toDocument = (Entries.all b.intervals).toDocument := rfl

theorem decode_entries (surplus : Bool) {es : Entries} {text : String} (hes : es.Distinct)
    (ht : Json.Spells text es.toDocument) :
    Json.decode (ofDraft surplus) text = told es.completed.check := by
  rw [Json.decode_of_spells _ ht, ofDraft_eq (readIntervals_record surplus hes)]

theorem check_intervals (b : Boundary) :
    b.intervals.check = .ok b := Intervals.check_of_sound b.sound

theorem ofDraft_toDocument (surplus : Bool) (b : Boundary) :
    ofDraft surplus (.whole b.toDocument) = .ok b := by
  rw [toDocument_eq, ofDraft_eq (readIntervals_record surplus (Entries.distinct_all _)),
    Entries.completed_all, check_intervals]
  rfl

/-! ### All ways -/

/-- All ways to a boundary come to the same. -/
structure Ways : Prop where
  /-- Exactly the intervals that make sense together are accepted. -/
  accepted (v : Intervals) : (∃ b, v.check = .ok b) ↔
    1 ≤ v.pingInterval ∧ (∀ k, v.get k ≤ never) ∧ v.reconnectLower ≤ v.reconnectUpper
  /-- What is accepted is the boundary of these intervals. -/
  intervals (v : Intervals) (b : Boundary) : v.check = .ok b ↔ b.intervals = v
  /-- What is refused is refused for the first thing that is wrong. -/
  refused (v : Intervals) (f : BoundaryFault) : v.check = .error f ↔ v.faults.head? = some f
  /-- Step by step. -/
  steps (v : Intervals) :
    (Plan.start.pingInterval v.pingInterval |>.pongTimeout v.pongTimeout
      |>.reconnectDelay v.reconnectLower v.reconnectUpper |>.pingTimeout v.pingTimeout
      |>.inactivity v.inactivity |>.build) = v.check
  /-- From a source that yields the values, whatever else it does when it is asked. -/
  source {m : Type → Type} [Monad m] [LawfulMonad m] (v : Intervals) (ask : Key → m PUnit) :
    parse (fun k => do ask k; return v.get k) = do Key.all.forM ask; return v.check
  /-- From any text that gives some of the fields, in any order. -/
  text (surplus : Bool) (es : Entries) (text : String) : es.Distinct →
    Json.Spells text es.toDocument → Json.decode (ofDraft surplus) text = told es.completed.check
  /-- There are such texts for all fields. -/
  spelled (es : Entries) : Json.Spells (Json.render es.toDocument) es.toDocument
  /-- From a list of the first values. -/
  list (surplus : Bool) (v : Intervals) (n : Nat) :
    ofDraft surplus (.whole (.list ((Key.all.take n).map fun k => .nat (v.get k).toNat))) =
      told (Intervals.ofFunction fun k => if k ∈ Key.all.take n then v.get k
        else lenient.get k).check
  /-- Nothing is lenient where all values are given. -/
  all (v : Intervals) : (Entries.all v).Distinct ∧ (Entries.all v).completed = v
  /-- A delay up to its double is never out of order, and where it is accepted the double is
  exact. -/
  doubled (p : Plan .reconnect) (ms t i : UInt64) :
    (∀ l u, (p.reconnectUpToDouble ms |>.pingTimeout t |>.inactivity i |>.build) ≠ .error
      (.invertedDelay l u)) ∧
      ∀ b, (p.reconnectUpToDouble ms |>.pingTimeout t |>.inactivity i |>.build) = .ok b →
        b.intervals.reconnectLower = ms ∧ b.intervals.reconnectUpper.toNat = 2 * ms.toNat
  /-- A boundary is read back from its own view. -/
  view (b : Boundary) : parse (m := Option) (fun k => b.asMap.lookup k) = some (.ok b)
  /-- A boundary is read back from its own text, and from its own document. -/
  back (surplus : Bool) (b : Boundary) :
    Json.decode (ofDraft surplus) (Json.render b.toDocument) = .ok b ∧
      ofDocument b.toDocument = .ok b

theorem ways : Ways where
  accepted := Intervals.exists_check_eq_ok_iff
  intervals := Intervals.check_eq_ok_iff
  refused := Intervals.check_eq_error_iff
  steps _ := rfl
  source := parse_eq
  text surplus es text hes ht := decode_entries surplus hes ht
  spelled es := Json.spells_render es.readsBack_toDocument
  list surplus v n := ofDraft_eq (readIntervals_list surplus v n)
  all v := ⟨Entries.distinct_all v, Entries.completed_all v⟩
  doubled p ms t i := by
    refine ⟨Intervals.check_ne_invertedDelay (Plan.le_twice ms), fun b hb => ?_⟩
    have hvalues := (Intervals.check_eq_ok_iff _ b).1 hb
    have hupper : b.intervals.reconnectUpper = Plan.twice ms := by rw [hvalues]; rfl
    have hlower : b.intervals.reconnectLower = ms := by rw [hvalues]; rfl
    refine ⟨hlower, ?_⟩
    have hnever : (Plan.twice ms).toNat ≤ never.toNat :=
      UInt64.le_iff_toNat_le.1 (hupper ▸ b.sound.le_never .reconnectUpper)
    rw [hupper, Plan.toNat_twice]
    rw [Plan.toNat_twice] at hnever
    simp only [never, Nat.pow_eq, UInt64.toNat_ofNat] at hnever ⊢
    omega
  view b := by
    have hview : (fun k => b.asMap.lookup k) = fun k => pure (b.intervals.get k) :=
      funext (Entries.lookup_all b.intervals)
    rw [hview, parse_pure, check_intervals]
    rfl
  back surplus b := by
    have hdraft := ofDraft_toDocument true b
    refine ⟨?_, ?_⟩
    · rw [Json.decode_render _ (toDocument_eq b ▸ Entries.readsBack_toDocument _),
        ofDraft_toDocument]
    · simp only [ofDocument, hdraft]

end Boundary

end Timing

end DurableSession
