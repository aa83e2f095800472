import DurableSession.Handshake.Descriptor
import DurableSession.Proofs.Text.Utf8
import DurableSession.Proofs.Timing.Boundary

/-!
A descriptor written over headers, and what is read from them again.

Main statements: `written_of_writeHeaders`, which says what the headers hold afterwards, and
`fromHeaders_of_writeHeaders`. A version can be written beyond ASCII but is only read within it, so
not every descriptor that can be written is read back: `accented_version_unread`.
-/

namespace DurableSession

namespace Text

/-! ### Texts of ASCII -/

def isAscii (s : String) : Bool := s.toList.all (·.toNat < 128)

theorem digitsValue?_eq {cs : List Char} (h : ∀ c ∈ cs, c.isDigit = true) (acc : Nat) :
    digitsValue? acc cs = some (Nat.ofDigitChars 10 cs acc) := by
  induction cs generalizing acc with
  | nil => rfl
  | cons c cs ih =>
    have hc := h c (List.mem_cons_self ..)
    have hdigit : digitValue? c = some (c.toNat - '0'.toNat) := by
      simp only [Char.isDigit, Bool.and_eq_true, decide_eq_true_eq] at hc
      exact if_pos hc
    simp only [digitsValue?, hdigit]
    rw [ih fun c hc => h c (List.mem_cons_of_mem _ hc)]
    rfl

theorem isDigit_of_mem_toString {n : Nat} {c : Char} (h : c ∈ (toString n).toList) :
    c.isDigit = true := by
  rw [Nat.toString_eq_repr, Nat.toList_repr] at h
  exact Nat.isDigit_of_mem_toDigits (by decide) (by decide) h

theorem unsigned?_toString {max n : Nat} (h : n ≤ max) :
    unsigned? max (toString n).toList = some n := by
  have hvalue : digitsValue? 0 (toString n).toList = some n := by
    rw [digitsValue?_eq fun c => isDigit_of_mem_toString, Nat.toString_eq_repr, Nat.toList_repr,
      Nat.ofDigitChars_ten_toDigits]
  cases hcs : (toString n).toList with
  | nil => simp [Nat.toString_eq_repr, Nat.toList_repr, Nat.toDigits_ne_nil] at hcs
  | cons c cs =>
    have hplus : c ≠ '+' := by
      rintro rfl
      have := isDigit_of_mem_toString (n := n) (hcs ▸ List.mem_cons_self ..)
      exact absurd this (by decide)
    rw [hcs] at hvalue
    unfold unsigned?
    split
    · next heq => exact absurd (List.cons.inj heq).1 hplus
    · simp [natural?, hvalue, h]

theorem isAscii_toString (n : Nat) : isAscii (toString n) = true := by
  rw [isAscii, List.all_eq_true]
  intro c hc
  have hdigit := isDigit_of_mem_toString hc
  simp only [Char.isDigit, Bool.and_eq_true, decide_eq_true_eq, UInt32.le_iff_toNat_le] at hdigit
  have : c.toNat ≤ 57 := hdigit.2
  simp
  omega

end Text

namespace Handshake

open Timing (Boundary Key)
open Text (isAscii utf8)

/-! ### Texts as header values -/

/-- Within ASCII, what can be written can be read. -/
theorem isTextByte_of_isHeaderByte {b : UInt8} (h : isHeaderByte b = true) (hb : b.toNat < 128) :
    isTextByte b = true := by
  have hne : b ≠ 127 → b.toNat ≠ 127 := fun hne h => hne (UInt8.toNat_inj.1 h)
  simp only [isHeaderByte, isTextByte, Bool.or_eq_true, Bool.and_eq_true, decide_eq_true_eq,
    UInt8.lt_iff_toNat_lt, ne_eq] at h ⊢
  rcases h with ⟨hlow, hdel⟩ | htab
  · have := hne hdel
    exact .inl ⟨hlow, by simp; omega⟩
  · exact .inr htab

theorem utf8_ascii {s : String} (h : isAscii s = true) :
    utf8 s = s.toList.map fun c => UInt8.ofNat c.toNat := by
  simp only [isAscii, List.all_eq_true, decide_eq_true_eq] at h
  unfold utf8
  generalize s.toList = cs at h
  induction cs with
  | nil => rfl
  | cons c cs ih =>
    rw [List.flatMap_cons, Text.utf8EncodeChar_ascii (h c (List.mem_cons_self ..)),
      ih fun c hc => h c (List.mem_cons_of_mem _ hc)]
    rfl

theorem headerText?_of_isAscii {s : String} (h : isAscii s = true)
    (hw : (utf8 s).all isHeaderByte = true) :
    headerText? (utf8 s) = some s := by
  have hascii : ∀ c ∈ s.toList, c.toNat < 128 := by simpa [isAscii] using h
  rw [utf8_ascii h] at hw ⊢
  have htext : (s.toList.map fun c => UInt8.ofNat c.toNat).all isTextByte = true := by
    rw [List.all_eq_true] at hw ⊢
    intro b hb
    refine isTextByte_of_isHeaderByte (hw b hb) ?_
    obtain ⟨c, hc, rfl⟩ := List.mem_map.1 hb
    have := hascii c hc
    simp
    omega
  have hchars : (s.toList.map fun c => UInt8.ofNat c.toNat).map (fun b => Char.ofNat b.toNat) =
      s.toList := by
    rw [List.map_map]
    refine (List.map_congr_left fun c hc => ?_).trans (List.map_id _)
    have : c.toNat % 256 = c.toNat := Nat.mod_eq_of_lt (by have := hascii c hc; omega)
    simp [this]
  rw [headerText?, if_pos htext, hchars, String.ofList_toList]

theorem headerText?_of_not_isAscii {s : String} (h : isAscii s = false) :
    headerText? (utf8 s) = none := by
  obtain ⟨c, hc, hbeyond⟩ : ∃ c ∈ s.toList, 128 ≤ c.toNat := by simpa [isAscii] using h
  obtain ⟨b, hb⟩ := List.exists_mem_of_ne_nil _ (Text.utf8EncodeChar_ne_nil c)
  have hlarge := Text.mem_utf8EncodeChar hbeyond hb
  refine if_neg fun hall => ?_
  have htext := List.all_eq_true.1 hall b (List.mem_flatMap.2 ⟨c, hc, hb⟩)
  simp only [isTextByte, Bool.or_eq_true, Bool.and_eq_true, decide_eq_true_eq,
    UInt8.lt_iff_toNat_lt] at htext
  rcases htext with ⟨-, hsmall⟩ | rfl
  · have : b.toNat < 127 := hsmall
    omega
  · exact absurd hlarge (by decide)

namespace Descriptor

/-! ### What is written -/

theorem fieldName_header (k : Key) : fieldName k.header = k.header := by cases k <;> decide +kernel

theorem fieldName_header_inj {k k' : Key} (h : fieldName k.header = fieldName k'.header) :
    k = k' := by
  rw [fieldName_header, fieldName_header] at h
  cases k <;> cases k' <;> simp [Key.header] at h ⊢

theorem fieldName_versionHeader : fieldName versionHeader = versionHeader := by decide +kernel

theorem fieldName_authenticationHeader : fieldName authenticationHeader = authenticationHeader := by
  decide +kernel

theorem fieldName_versionHeader_ne (k : Key) : fieldName versionHeader ≠ fieldName k.header := by
  rw [fieldName_header, fieldName_versionHeader]
  cases k <;> simp [Key.header, versionHeader]

theorem fieldName_authenticationHeader_ne (k : Key) :
    fieldName authenticationHeader ≠ fieldName k.header := by
  rw [fieldName_header, fieldName_authenticationHeader]
  cases k <;> simp [Key.header, authenticationHeader]

section Fold

variable (value : Key → HeaderValue)

theorem first?_foldl_insert_of_ne {ks : List Key} {name : String}
    (hne : ∀ k ∈ ks, fieldName name ≠ fieldName k.header) (h : Headers) :
    (ks.foldl (fun h k => h.insert k.header (value k)) h).first? name = h.first? name := by
  induction ks generalizing h with
  | nil => rfl
  | cons k ks ih =>
    rw [List.foldl_cons, ih fun k hk => hne k (List.mem_cons_of_mem _ hk)]
    exact h.first?_insert_of_ne _ (hne k (List.mem_cons_self ..))

theorem first?_foldl_insert {ks : List Key} {k : Key} (hk : k ∈ ks) (h : Headers) :
    (ks.foldl (fun h k => h.insert k.header (value k)) h).first? k.header = some (value k) := by
  induction ks generalizing h with
  | nil => cases hk
  | cons k' ks ih =>
    by_cases hmem : k ∈ ks
    · exact ih hmem _
    · obtain rfl : k = k' := (List.mem_cons.1 hk).resolve_right hmem
      rw [List.foldl_cons, first?_foldl_insert_of_ne value
        (fun k' hk' h => by rcases fieldName_header_inj h with rfl; exact hmem hk')]
      exact h.first?_insert_self ..

end Fold

/-- What the headers hold once a descriptor was written over them. -/
structure Written (d : Descriptor) (h : Headers) : Prop where
  headerBytes : (utf8 d.version).all isHeaderByte = true
  version : h.first? versionHeader = some (utf8 d.version)
  flag : h.first? authenticationHeader = some (utf8 (flagText d.authenticationRequired))
  number : ∀ k : Key, h.first? k.header = some (utf8 (toString (d.boundary.ms k)))

/-- What the headers said before, under the same names or others, does not show. -/
theorem written_of_writeHeaders {d : Descriptor} {h h' : Headers} (hw : d.writeHeaders h = .ok h') :
    Written d h' := by
  have hne : fieldName versionHeader ≠ fieldName authenticationHeader := by
    rw [fieldName_versionHeader, fieldName_authenticationHeader]
    simp [versionHeader, authenticationHeader]
  by_cases hbytes : (utf8 d.version).all isHeaderByte = true
  · simp only [writeHeaders, hbytes, if_true] at hw
    obtain rfl := Except.ok.inj hw
    refine ⟨hbytes, ?_, ?_, fun k => ?_⟩
    · rw [first?_foldl_insert_of_ne _ fun k _ => fieldName_versionHeader_ne k,
        Headers.first?_insert_of_ne _ _ hne, Headers.first?_insert_self]
    · rw [first?_foldl_insert_of_ne _ fun k _ => fieldName_authenticationHeader_ne k,
        Headers.first?_insert_self]
    · exact first?_foldl_insert (fun k => utf8 (toString (d.boundary.ms k))) (Key.mem_all k) _
  · simp [writeHeaders, hbytes] at hw

/-! ### What is read -/

theorem readText_eq {h : Headers} {name s : String} (hfirst : h.first? name = some (utf8 s))
    (hbytes : (utf8 s).all isHeaderByte = true) :
    readText h name = if isAscii s then .ok s else .error (.invalidHeader name s) := by
  unfold readText
  cases hascii : isAscii s with
  | true => simp [hfirst, headerText?_of_isAscii hascii hbytes]
  | false => simp [hfirst, headerText?_of_not_isAscii hascii, Text.fromUtf8Lossy_utf8]

theorem isHeaderByte_of_isDigit {c : Char} (h : c.isDigit = true) :
    isHeaderByte (UInt8.ofNat c.toNat) = true := by
  simp only [Char.isDigit, Bool.and_eq_true, decide_eq_true_eq, UInt32.le_iff_toNat_le] at h
  obtain ⟨hlow, hhigh⟩ : 48 ≤ c.toNat ∧ c.toNat ≤ 57 := h
  have hmod : c.toNat % 256 = c.toNat := by omega
  simp only [isHeaderByte, Bool.or_eq_true, Bool.and_eq_true, decide_eq_true_eq,
    UInt8.le_iff_toNat_le, ne_eq, ← UInt8.toNat_inj]
  simp [hmod]
  omega

theorem all_isHeaderByte_toString (n : Nat) : (utf8 (toString n)).all isHeaderByte = true := by
  rw [utf8_ascii (Text.isAscii_toString n), List.all_map, List.all_eq_true]
  exact fun c hc => isHeaderByte_of_isDigit (Text.isDigit_of_mem_toString hc)

theorem readFlag_of_written {d : Descriptor} {h : Headers} (hw : Written d h) :
    readFlag h authenticationHeader = .ok d.authenticationRequired := by
  have htext := readText_eq hw.flag (by cases d.authenticationRequired <;> decide +kernel)
  rw [if_pos (by cases d.authenticationRequired <;> decide +kernel)] at htext
  simp only [readFlag, htext, bind, Except.bind]
  cases d.authenticationRequired <;> rfl

theorem readNumber_of_written {d : Descriptor} {h : Headers} (hw : Written d h) (k : Key) :
    readNumber h k = .ok (d.boundary.get k) := by
  have htext := readText_eq (hw.number k) (all_isHeaderByte_toString _)
  rw [if_pos (Text.isAscii_toString _)] at htext
  have hword : d.boundary.ms k ≤ Text.maxWord := Text.toNat_le_maxWord _
  have hback : UInt64.ofNat (d.boundary.ms k) = d.boundary.get k := UInt64.ofNat_toNat
  simp only [readNumber, htext, bind, Except.bind, Text.unsigned?_toString hword, hback]
  rfl

theorem parse_get {resolve : Key → Except ProtocolError UInt64} {b : Boundary}
    (h : ∀ k, resolve k = .ok (b.get k)) : Boundary.parse resolve = .ok (.ok b) := by
  have hget : resolve = fun k => pure (b.get k) := funext h
  rw [hget]
  exact (Boundary.parse_pure b.intervals).trans (by rw [b.check_intervals]; rfl)

theorem fromHeaders_of_written {d : Descriptor} {h : Headers} (hw : Written d h) :
    fromHeaders h = if isAscii d.version then .ok d
      else .error (.invalidHeader versionHeader d.version) := by
  have hversion := readText_eq hw.version hw.headerBytes
  have hparse := parse_get (readNumber_of_written hw)
  cases hascii : isAscii d.version with
  | true =>
    rw [hascii, if_pos rfl] at hversion
    simp only [fromHeaders, hversion, readFlag_of_written hw, hparse, bind, Except.bind]
    rfl
  | false =>
    rw [hascii, if_neg Bool.false_ne_true] at hversion
    simp only [fromHeaders, hversion, bind, Except.bind]
    rfl

/--
Whatever the headers said before, a descriptor that could be written over them is read from them
again if its version is a text of ASCII. Any other version is named as one that cannot be read.
-/
theorem fromHeaders_of_writeHeaders {d : Descriptor} {h h' : Headers}
    (hw : d.writeHeaders h = .ok h') :
    fromHeaders h' = if isAscii d.version then .ok d
      else .error (.invalidHeader versionHeader d.version) :=
  fromHeaders_of_written (written_of_writeHeaders hw)

theorem exists_of_isOk {ε α : Type} {x : Except ε α} (h : x.isOk = true) : ∃ a, x = .ok a := by
  cases x with
  | error e => cases h
  | ok a => exact ⟨a, rfl⟩

/-- Headers with several values under the descriptor's own names, one of them no text. -/
theorem reread_over_old_values :
    let d : Descriptor := ⟨"2.1.0", true, .quiet⟩
    let h : Headers :=
      ⟨[(versionHeader, utf8 "1.0"), ("server", utf8 "tether"), (versionHeader, [0xFF]),
      (Key.pingInterval.header, utf8 "-1"), (Key.pingInterval.header, utf8 "11")]⟩
    ∃ h', d.writeHeaders h = .ok h' ∧ fromHeaders h' = .ok d := by
  intro d h
  obtain ⟨h', hw⟩ : ∃ h', d.writeHeaders h = .ok h' := exists_of_isOk (by decide +kernel)
  exact ⟨h', hw, (fromHeaders_of_writeHeaders hw).trans (if_pos (by decide +kernel))⟩

/-- A version with an accent is written, and then refused by the reader. -/
theorem accented_version_unread :
    let d : Descriptor := ⟨"1.0-é", true, .lenient⟩
    ∃ h', d.writeHeaders .empty = .ok h' ∧
      fromHeaders h' = .error (.invalidHeader versionHeader "1.0-é") := by
  intro d
  obtain ⟨h', hw⟩ : ∃ h', d.writeHeaders .empty = .ok h' := exists_of_isOk (by decide +kernel)
  refine ⟨h', hw, ?_⟩
  rw [fromHeaders_of_written (written_of_writeHeaders hw), if_neg (by decide +kernel)]

end Descriptor

end Handshake

end DurableSession
