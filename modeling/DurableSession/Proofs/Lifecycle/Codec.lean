import DurableSession.Lifecycle.Codec
import DurableSession.Proofs.Document.Json

/-!
The frame of a phase is read back as that phase.

Main statements: `ofMembers_contents`, which goes through the members of a phase's record field by
field, and `frame_roundtrip` about the whole codec. Which texts are frames at all is `isFrame_iff`.
-/

namespace DurableSession.Lifecycle

theorem SessionId.ofDocument_text (i : SessionId) :
    SessionId.ofDocument (.string i.text) = .ok i := by
  simp [SessionId.ofDocument, Document.asString, SessionId.ofString?_text]

theorem Token.ofDocument_text (t : Token) : Token.ofDocument (.string t.text) = .ok t := by
  simp [Token.ofDocument, Document.asString, Token.ofString?_text]

theorem Secret.ofDocument_exposed (s : Secret) :
    Secret.ofDocument (.string s.exposed) = .ok s := rfl

theorem Failure.ofDocument_wire (f : Failure) : Failure.ofDocument (.string f.wire) = .ok f := by
  simp [Failure.ofDocument, Failure.ofName, Failure.ofWire?_wire]

theorem PhaseKind.ofDocument_wire (k : PhaseKind) :
    PhaseKind.ofDocument (.string k.wire) = .ok k := by
  simp [PhaseKind.ofDocument, PhaseKind.ofName, PhaseKind.ofWire?_wire]

namespace PhaseKind

theorem nodup_fields (k : PhaseKind) : k.fields.Nodup := by cases k <;> decide

/-- No kind has a field that could be taken for the name of the kind. -/
theorem phase_notMem_fields (k : PhaseKind) : "phase" ∉ k.fields := by cases k <;> decide

end PhaseKind

namespace Phase

open Json (Draft ReadsBack)

/-! ### The members of a record -/

/-- Members of the kind, each named once and each fine by itself, are all met. -/
theorem scanMembers_eq {kind : PhaseKind} {ms seen : List (String × Document)}
    (hknown : ∀ m ∈ ms, m.1 ∈ kind.fields) (hcheck : ∀ m ∈ ms, checkField kind m.1 m.2 = .ok ())
    (hnodup : (ms.map Prod.fst).Nodup) (hnew : ∀ m ∈ ms, ∀ n ∈ seen, n.1 ≠ m.1) :
    scanMembers kind seen ms = .ok (ms.reverse ++ seen) := by
  induction ms generalizing seen with
  | nil => rfl
  | cons m ms ih =>
    obtain ⟨name, d⟩ := m
    simp only [List.map_cons, List.nodup_cons] at hnodup
    have hfresh : seen.any (·.1 = name) = false := by
      rw [List.any_eq_false]
      intro n hn
      simpa using hnew _ (List.mem_cons_self ..) n hn
    have hmore : ∀ m ∈ ms, ∀ n ∈ (name, d) :: seen, n.1 ≠ m.1 := by
      intro m hm n hn
      rcases List.mem_cons.1 hn with rfl | hn
      · rintro rfl
        exact hnodup.1 (List.mem_map_of_mem hm)
      · exact hnew m (List.mem_cons_of_mem _ hm) n hn
    rw [scanMembers, if_pos (hknown _ (List.mem_cons_self ..)), hfresh,
      hcheck _ (List.mem_cons_self ..)]
    simp only [Bool.false_eq_true, if_false]
    rw [ih (fun m hm => hknown m (List.mem_cons_of_mem _ hm))
      (fun m hm => hcheck m (List.mem_cons_of_mem _ hm)) hnodup.2 hmore]
    simp

theorem collectFields_eq {seen : List (String × Document)} {names : List String}
    {ds : List Document} (hlength : names.length = ds.length)
    (hseen : ∀ m ∈ names.zip ds, seen.find? (·.1 = m.1) = some m) :
    collectFields seen names = .ok ds := by
  induction names generalizing ds with
  | nil =>
    obtain rfl : ds = [] := List.length_eq_zero_iff.1 hlength.symm
    rfl
  | cons name names ih =>
    cases ds with
    | nil => simp at hlength
    | cons d ds =>
      rw [collectFields, hseen (name, d) (by simp),
        ih (by simpa using hlength) fun m hm => hseen m (List.mem_cons_of_mem _ hm)]

theorem find?_of_nodup {ms : List (String × Document)} (hnodup : (ms.map Prod.fst).Nodup)
    {m : String × Document} (hm : m ∈ ms) : ms.find? (·.1 = m.1) = some m := by
  induction ms with
  | nil => simp at hm
  | cons n ms ih =>
    simp only [List.map_cons, List.nodup_cons] at hnodup
    rcases List.mem_cons.1 hm with rfl | hm
    · simp
    · have hne : n.1 ≠ m.1 := fun h => hnodup.1 (h ▸ List.mem_map_of_mem hm)
      rw [List.find?_cons_of_neg (by simpa using hne), ih hnodup.2 hm]

/-- The record of a phase, the name of its kind aside. -/
def members (p : Phase) : List (String × Document) := p.kind.fields.zip p.contents

theorem length_contents (p : Phase) : p.kind.fields.length = p.contents.length := by cases p <;> rfl

theorem map_fst_members (p : Phase) : p.members.map Prod.fst = p.kind.fields :=
  List.map_fst_zip (Nat.le_of_eq p.length_contents)

theorem mem_fields_of_mem_members {p : Phase} {m : String × Document} (h : m ∈ p.members) :
    m.1 ∈ p.kind.fields := by
  rw [← p.map_fst_members]
  exact List.mem_map_of_mem h

theorem checkField_members (p : Phase) : ∀ m ∈ p.members, checkField p.kind m.1 m.2 = .ok () := by
  have htoken (t : Token) : (Token.ofDocument (.string t.text)).map (fun _ => ()) = .ok () := by
    rw [Token.ofDocument_text]; rfl
  have hsession (i : SessionId) : (SessionId.ofDocument (.string i.text)).map (fun _ => ()) =
      .ok () := by
    rw [SessionId.ofDocument_text]; rfl
  have hfailure (f : Failure) : (Failure.ofDocument (.string f.wire)).map (fun _ => ()) =
      .ok () := by
    rw [Failure.ofDocument_wire]; rfl
  cases p with
  | signonAttempt login secret =>
    exact List.forall_mem_cons.2 ⟨rfl, List.forall_mem_singleton.2 rfl⟩
  | secondarySignonNeeded token => exact List.forall_mem_singleton.2 (htoken token)
  | secondarySignonAttempt token code =>
    exact List.forall_mem_cons.2 ⟨htoken token, List.forall_mem_singleton.2 rfl⟩
  | resumeSession session | sessionValid session =>
    exact List.forall_mem_singleton.2 (hsession session)
  | signonFailureNotice failure => exact List.forall_mem_singleton.2 (hfailure failure)
  | signoff => exact List.forall_mem_nil _

theorem exists_string_of_mem_contents {p : Phase} {d : Document} (h : d ∈ p.contents) :
    ∃ s, d = .string s := by
  cases p <;> simp only [contents, List.mem_cons, List.not_mem_nil, or_false] at h
  case signonAttempt | secondarySignonAttempt => rcases h with rfl | rfl <;> exact ⟨_, rfl⟩
  all_goals exact ⟨_, h⟩

theorem ofContents_contents (p : Phase) : ofContents p.kind p.contents = .ok p := by
  cases p <;> simp [kind, contents, ofContents, Document.asString, Secret.ofDocument_exposed,
    Token.ofDocument_text, SessionId.ofDocument_text, Failure.ofDocument_wire] <;> rfl

theorem ofMembers_members (p : Phase) : ofMembers p.kind p.members = .ok p := by
  have hnodup : (p.members.map Prod.fst).Nodup := p.map_fst_members ▸ p.kind.nodup_fields
  have hscan : scanMembers p.kind [] p.members = .ok (p.members.reverse ++ []) :=
    scanMembers_eq (fun _ => mem_fields_of_mem_members) p.checkField_members hnodup (by simp)
  have hcollect : collectFields (p.members.reverse ++ []) p.kind.fields = .ok p.contents := by
    refine collectFields_eq p.length_contents fun m hm => ?_
    rw [List.append_nil]
    refine find?_of_nodup ?_ (List.mem_reverse.2 hm)
    exact ((List.reverse_perm _).map _).nodup_iff.2 hnodup
  simp only [ofMembers, hscan, hcollect, bind, Except.bind]
  exact ofContents_contents p

/-! ### The whole record -/

theorem readMembers_others {ms others : List (String × Document)} (kind : Option PhaseKind)
    (h : ∀ m ∈ ms, m.1 ≠ "phase") :
    readMembers kind others (ms.map fun m => (m.1, .whole m.2)) =
      .ok (kind, others.reverse ++ ms) := by
  induction ms generalizing others with
  | nil => simp [readMembers]
  | cons m ms ih =>
    have hm := h m (List.mem_cons_self ..)
    rw [List.map_cons, readMembers, if_neg hm]
    simp only [needed, Draft.complete]
    rw [ih fun m hm => h m (List.mem_cons_of_mem _ hm)]
    simp

theorem ofDraft_toDocument (p : Phase) : ofDraft (.whole p.toDocument) = .ok p := by
  have hother : ∀ m ∈ p.members, m.1 ≠ "phase" := by
    intro m hm hname
    exact p.kind.phase_notMem_fields (hname ▸ mem_fields_of_mem_members hm)
  have hkind : (Draft.whole (.string p.kind.wire)).plain PhaseKind.ofDocument = .ok p.kind := by
    simp [Draft.plain, PhaseKind.ofDocument_wire]
  have hmembers : readMembers none [] (("phase", .whole (.string p.kind.wire)) ::
      p.members.map fun m => (m.1, .whole m.2)) = .ok (some p.kind, p.members) := by
    rw [readMembers, if_pos rfl, hkind]
    exact readMembers_others (some p.kind) hother
  simp only [ofDraft, toDocument, Draft.members?, List.map_cons]
  rw [show p.kind.fields.zip p.contents = p.members from rfl, hmembers]
  simp only [bind, Except.bind, atEnd, ofMembers_members, judged]

theorem readsBack_toDocument (p : Phase) : ReadsBack Json.maxDepth p.toDocument := by
  change ReadsBack (126 + 1) (.record _)
  refine Json.readsBack_record fun m hm => ?_
  have hstring : ∃ s, m.2 = .string s := by
    rcases List.mem_cons.1 hm with rfl | hm
    · exact ⟨_, rfl⟩
    · exact exists_string_of_mem_contents (List.of_mem_zip hm).2
  obtain ⟨s, hs⟩ := hstring
  exact hs ▸ Json.readsBack_string _ s

/-! ### Frames -/

/-- A text is a frame when it starts with the mark. -/
theorem isFrame_iff {text : String} : isFrame text = true ↔ ∃ rest, text = mark ++ rest := by
  rw [isFrame, List.isPrefixOf_iff_prefix]
  constructor
  · rintro ⟨rest, h⟩
    exact ⟨String.ofList rest, by rw [← String.toList_inj]; simp [← h]⟩
  · rintro ⟨rest, rfl⟩
    exact ⟨rest.toList, by simp⟩

theorem isFrame_encode (p : Phase) : isFrame p.encode = true := isFrame_iff.2 ⟨_, rfl⟩

theorem decodeText_eq_none {text : String} : decodeText text = none ↔ isFrame text = false := by
  unfold decodeText
  split
  · next h => simp [h]
  · next h => simpa using h

theorem decodeText_encode (p : Phase) : decodeText p.encode = some (.ok p) := by
  have hrest : String.ofList (p.encode.toList.drop mark.toList.length) =
      Json.render p.toDocument := by
    simp [encode]
  rw [decodeText, if_pos p.isFrame_encode, hrest, Json.decode_render _ p.readsBack_toDocument,
    ofDraft_toDocument]

/-- A phase can be read off its frame. -/
theorem eq_of_encode {p q : Phase} (h : p.encode = q.encode) : p = q := by
  have hread := p.decodeText_encode
  rw [h, decodeText_encode] at hread
  exact (Except.ok.inj (Option.some.inj hread)).symm

/-- The phase that a text is accepted as. -/
def accepted? (text : String) : Option Phase :=
  match decodeText text with
  | some (.ok p) => some p
  | _ => none

theorem accepted?_eq_some {text : String} {p : Phase} :
    accepted? text = some p ↔ decodeText text = some (.ok p) := by
  unfold accepted?
  split <;> simp_all

/-- The tokens and session identifiers that a phase names. -/
def identifiers : Phase → List String
  | secondarySignonNeeded token | secondarySignonAttempt token _ => [token.text]
  | resumeSession session | sessionValid session => [session.text]
  | signonAttempt .. | signonFailureNotice _ | signoff => []

theorem isIdentifier_of_mem {p : Phase} {i : String} (h : i ∈ p.identifiers) :
    isIdentifier i = true := by
  cases p with
  | secondarySignonNeeded token | secondarySignonAttempt token =>
    obtain rfl : i = token.text := List.mem_singleton.1 h
    exact token.valid
  | resumeSession session | sessionValid session =>
    obtain rfl : i = session.text := List.mem_singleton.1 h
    exact session.valid
  | signonAttempt | signonFailureNotice | signoff => cases h

/--
Every phase is read back from its frame, whatever texts it carries. The texts that are no frame are
those without the mark; and whatever else a text that is accepted says, its phase names sound
identifiers only and has a frame that is read as the same phase again.
-/
theorem frame_roundtrip :
    (∀ p : Phase, decodeText p.encode = some (.ok p)) ∧
      (∀ text, decodeText text = none ↔ ¬ ∃ rest, text = mark ++ rest) ∧
      ∀ text p, decodeText text = some (.ok p) →
        (∀ i ∈ p.identifiers, isIdentifier i = true) ∧ decodeText p.encode = some (.ok p) := by
  refine ⟨decodeText_encode, fun text => ?_, fun text p _ => ⟨fun i => isIdentifier_of_mem,
    decodeText_encode p⟩⟩
  rw [decodeText_eq_none, ← isFrame_iff, Bool.not_eq_true]

/-- A record with blanks, with its kind at the end and with a member too many is a frame of its
phase. -/
theorem frame_roundtrip_of_loose_record :
    let text := "Phase \x7b \"session\": \"s-1\", \"more\": [], \"phase\": \"session_valid\" \x7d"
    let p := sessionValid ⟨"s-1", by decide⟩
    decodeText text = some (.ok p) ∧
      (∀ i ∈ p.identifiers, isIdentifier i = true) ∧ decodeText p.encode = some (.ok p) := by
  intro text p
  have h : decodeText text = some (.ok p) := accepted?_eq_some.1 (by decide +kernel)
  exact ⟨h, frame_roundtrip.2.2 text p h⟩

end Phase

end DurableSession.Lifecycle
