import DurableSession.Document.Json.Reader
import DurableSession.Document.Json.Writer
import Mathlib.Tactic.SplitIfs

/-!
What the writer of JSON texts writes, the reader reads back, whatever follows.

Main statements: `readString_escape` for the inside of a string, `readNumber_toDigits` for a number,
`readsBack_string`, `readsBack_nat` and `readsBack_record` for values, and `spells_render` for a
whole text. A record reads back as soon as the values of its members do, one level deeper.
-/

namespace DurableSession.Json

/-! ### Strings -/

theorem hexValue?_hexDigit {n : Nat} (h : n < 16) : hexValue? (hexDigit n) = some n := by
  have h : ∀ n : Fin 16, hexValue? (hexDigit n) = some n.val := by decide
  exact h ⟨n, by assumption⟩

theorem lacksDigits_cons (a b c d : Char) (rest : List Char) :
    lacksDigits (a :: b :: c :: d :: rest) = false := by
  have := a.utf8Size_pos
  have := b.utf8Size_pos
  have := c.utf8Size_pos
  have := d.utf8Size_pos
  have hsum : ¬ 0 + a.utf8Size + b.utf8Size + c.utf8Size + d.utf8Size < 4 := by omega
  exact decide_eq_false hsum

theorem readString_numbered (acc : List Char) {c : Char} (h : c.toNat < 32) (rest : List Char) :
    readString acc .text
        (['\\', 'u', '0', '0', hexDigit (c.toNat / 16), hexDigit (c.toNat % 16)] ++ rest) =
      readString (c :: acc) .text rest := by
  have hzero : hexValue? '0' = some 0 := by decide
  have hhigh : hexValue? (hexDigit (c.toNat / 16)) = some (c.toNat / 16) :=
    hexValue?_hexDigit (by omega)
  have hlow : hexValue? (hexDigit (c.toNat % 16)) = some (c.toNat % 16) :=
    hexValue?_hexDigit (by omega)
  have hvalue : 16 * (c.toNat / 16) + c.toNat % 16 = c.toNat := by omega
  have hlowUnit : isLowSurrogate c.toNat = false := by simp [isLowSurrogate]; omega
  have hhighUnit : isHighSurrogate c.toNat = false := by simp [isHighSurrogate]; omega
  simp [readString, lacksDigits_cons, hzero, hhigh, hlow, hvalue, hlowUnit, hhighUnit,
    Char.ofNat_toNat]

/-- Every character is read back from how it is written. -/
theorem readString_escapeChar (acc : List Char) (c : Char) (rest : List Char) :
    readString acc .text (escapeChar c ++ rest) = readString (c :: acc) .text rest := by
  unfold escapeChar
  split_ifs with hquote hslash hnewline hreturn htab hback hform hcontrol
  · subst hquote; rfl
  · subst hslash; rfl
  · subst hnewline; rfl
  · subst hreturn; rfl
  · subst htab; rfl
  · subst hback; rfl
  · subst hform; rfl
  · exact readString_numbered acc hcontrol rest
  · simp [readString, hquote, hslash, hcontrol]

/-- The inside of a string is read up to its quote. -/
theorem readString_escape (acc cs rest : List Char) :
    readString acc .text (escape cs ++ '"' :: rest) =
      .ok (String.ofList (acc.reverse ++ cs), rest) := by
  induction cs generalizing acc with
  | nil => simp [escape, readString]
  | cons c cs ih =>
    have hsplit : escape (c :: cs) ++ '"' :: rest = escapeChar c ++ (escape cs ++ '"' :: rest) := by
      simp [escape]
    rw [hsplit, readString_escapeChar, ih]
    simp

theorem readString_writeString (s : String) (rest : List Char) :
    ∃ cs, writeString s ++ rest = '"' :: cs ∧ readString [] .text cs = .ok (s, rest) := by
  refine ⟨escape s.toList ++ '"' :: rest, by simp [writeString], ?_⟩
  rw [readString_escape]
  simp

/-! ### Numbers -/

/-- The text does not go on with a number that stands in front of it. -/
def Apart (rest : List Char) : Prop :=
  ∀ c ∈ rest.head?, isDigit c = false ∧ c ≠ '.' ∧ c ≠ 'e' ∧ c ≠ 'E'

def digitValues (n : Nat) : List Nat := (Nat.toDigits 10 n).map fun c => c.toNat - '0'.toNat

theorem digitValues_eq (n : Nat) :
    digitValues n = if n < 10 then [n] else digitValues (n / 10) ++ [n % 10] := by
  have hdigit {d : Nat} (h : d < 10) : d.digitChar.toNat - '0'.toNat = d := by
    rw [Nat.toNat_digitChar_of_lt_ten h]
    exact Nat.add_sub_cancel_left ..
  rw [digitValues, Nat.toDigits_eq_if (by decide)]
  split
  · next h => rw [List.map_singleton, hdigit h]
  · rw [List.map_append, List.map_singleton, hdigit (Nat.mod_lt n (by decide))]
    rfl

theorem digitValues_ne_zero_cons {n : Nat} (h : n ≠ 0) (ds : List Nat) :
    digitValues n ≠ 0 :: ds := by
  induction n using Nat.strongRecOn generalizing ds with
  | ind n ih =>
    rw [digitValues_eq]
    split
    · simpa using fun h' => absurd h' h
    · next hlarge =>
      have hfront := ih (n / 10) (by omega) (by omega)
      cases hds : digitValues (n / 10) with
      | nil => simp [digitValues, Nat.toDigits_ne_nil] at hds
      | cons d ds' =>
        rintro heq
        obtain rfl : d = 0 := (List.cons.inj heq).1
        exact hfront ds' hds

/-- Taken one after the other, the digits make the number, as long as it fits. -/
theorem foldl_whole {n : Nat} (h : n ≤ Text.maxWord) :
    (digitValues n).foldl Significand.whole ⟨0, 0, false⟩ = ⟨n, 0, false⟩ := by
  induction n using Nat.strongRecOn with
  | ind n ih =>
    rw [digitValues_eq]
    split
    · simp [Significand.whole, Nat.not_lt.2 h]
    · have hsum : 10 * (n / 10) + n % 10 = n := Nat.div_add_mod n 10
      rw [List.foldl_append, ih (n / 10) (by omega) (by omega)]
      simp [Significand.whole, hsum, Nat.not_lt.2 h]

theorem isDigit_of_mem_toDigits {n : Nat} {c : Char} (h : c ∈ Nat.toDigits 10 n) :
    isDigit c = true :=
  Nat.isDigit_of_mem_toDigits (by decide) (by decide) h

theorem digitsOf_toDigits {rest : List Char} (n : Nat) (h : Apart rest) :
    digitsOf (Nat.toDigits 10 n ++ rest) = (digitValues n, rest) := by
  have hrest : rest.takeWhile isDigit = [] ∧ rest.dropWhile isDigit = rest := by
    cases rest with
    | nil => exact ⟨rfl, rfl⟩
    | cons c cs =>
      have hc : isDigit c = false := (h c rfl).1
      simp [hc]
  rw [digitsOf, List.takeWhile_append_of_pos fun _ => isDigit_of_mem_toDigits,
    List.dropWhile_append_of_pos fun _ => isDigit_of_mem_toDigits, hrest.1, hrest.2,
    List.append_nil]
  rfl

theorem readNumber_toDigits {n : Nat} {rest : List Char} (h : n ≤ Text.maxWord)
    (hrest : Apart rest) :
    readNumber false (Nat.toDigits 10 n ++ rest) = .ok (.natural n, rest) := by
  have hwhole : readAfterWhole false ⟨n, 0, false⟩ rest = .ok (.natural n, rest) := by
    cases rest with
    | nil => rfl
    | cons c cs =>
      obtain ⟨-, hpoint, hsmall, hlarge⟩ := hrest c rfl
      unfold readAfterWhole
      split <;> simp_all
  unfold readNumber
  rw [digitsOf_toDigits n hrest]
  split
  · next heq => simp [digitValues, Nat.toDigits_ne_nil] at heq
  · next heq => simp [digitValues, Nat.toDigits_ne_nil] at heq
  · next d ds _ heq =>
    have heq : digitValues n = 0 :: d :: ds := (Prod.mk.inj heq).1
    by_cases hzero : n = 0
    · simp [hzero, digitValues_eq] at heq
    · exact absurd heq (digitValues_ne_zero_cons hzero _)
  · next heq =>
    obtain ⟨rfl, rfl⟩ := Prod.mk.inj heq
    rw [foldl_whole h]
    exact hwhole

/-! ### Values -/

/-- With `depth` levels to open, the written document is read back, whatever does not go on with it
follows. -/
def ReadsBack (depth : Nat) (d : Document) : Prop :=
  ∀ fuel rest, Apart rest → (write d).length ≤ fuel → readValue fuel depth (write d ++ rest) =
    .done d rest

theorem skipBlanks_cons {c : Char} (h : isBlank c = false) (cs : List Char) :
    skipBlanks (c :: cs) = c :: cs := by
  simp [skipBlanks, h]

theorem apart_cons {c : Char} {cs : List Char}
    (h : isDigit c = false ∧ c ≠ '.' ∧ c ≠ 'e' ∧ c ≠ 'E') :
    Apart (c :: cs) := by
  rintro c' ⟨⟩
  exact h

theorem readsBack_nat (depth : Nat) {n : Nat} (h : n ≤ Text.maxWord) :
    ReadsBack depth (.nat n) := by
  intro fuel rest hrest hfuel
  have hread := readNumber_toDigits h hrest
  have htext : write (.nat n) = Nat.toDigits 10 n := rfl
  rw [htext] at hfuel ⊢
  cases hcs : Nat.toDigits 10 n with
  | nil => exact absurd hcs Nat.toDigits_ne_nil
  | cons c cs =>
    have hdigit : isDigit c = true := isDigit_of_mem_toDigits (hcs ▸ List.mem_cons_self ..)
    rw [hcs] at hread hfuel
    obtain ⟨fuel, rfl⟩ : ∃ k, fuel = k + 1 := ⟨fuel - 1, by simp at hfuel; omega⟩
    have hblank : isBlank c = false := by
      cases hb : isBlank c with
      | false => rfl
      | true =>
        simp only [isBlank, Bool.or_eq_true, decide_eq_true_eq] at hb
        rcases hb with ((rfl | rfl) | rfl) | rfl <;> simp [isDigit] at hdigit
    rw [List.cons_append, readValue, skipBlanks_cons hblank]
    rw [List.cons_append] at hread
    split <;> simp_all [readNumberValue, Document.nat, isDigit]

theorem readsBack_string (depth : Nat) (s : String) : ReadsBack depth (.string s) := by
  intro fuel rest _ hfuel
  obtain ⟨cs, hcs, hread⟩ := readString_writeString s rest
  obtain ⟨fuel, rfl⟩ : ∃ n, fuel = n + 1 := ⟨fuel - 1, by simp [write, writeString] at hfuel; omega⟩
  rw [write, hcs, readValue, skipBlanks_cons (by decide)]
  simp only [hread]

/-- A member and what follows it up to the end of the record. -/
theorem readMember_write {depth : Nat} {fuel : Nat} {done : List (String × Document)}
    {name : String} {d : Document} {rest : List (String × Document)} (hd : ReadsBack depth d)
    (hrest : ∀ m ∈ rest, ReadsBack depth m.2) (tail : List Char)
    (hfuel : (writeString name ++ ':' :: write d ++ writeMembers rest).length ≤ fuel) :
    readMember fuel depth done (writeString name ++ ':' :: write d ++ writeMembers rest ++ tail) =
      .done (.record (done.reverse ++ (name, d) :: rest)) tail := by
  induction rest generalizing fuel done name d with
  | nil =>
    obtain ⟨fuel, rfl⟩ : ∃ n, fuel = n + 1 := ⟨fuel - 1, by simp [writeString] at hfuel; omega⟩
    obtain ⟨cs, hcs, hread⟩ := readString_writeString name (':' :: (write d ++ ('\x7d' :: tail)))
    have hvalue : readValue fuel depth (write d ++ ('\x7d' :: tail)) = .done d ('\x7d' :: tail) :=
      hd fuel _ (apart_cons (by decide)) (by simp [writeMembers] at hfuel; omega)
    have htext : writeString name ++ ':' :: write d ++ writeMembers [] ++ tail = '"' :: cs := by
      rw [← hcs]
      simp [writeMembers]
    rw [htext, readMember, skipBlanks_cons (by decide)]
    simp only [hread, skipBlanks_cons (show isBlank ':' = false by decide), hvalue,
      skipBlanks_cons (show isBlank '\x7d' = false by decide)]
    simp
  | cons m rest ih =>
    obtain ⟨next, e⟩ := m
    obtain ⟨fuel, rfl⟩ : ∃ n, fuel = n + 1 := ⟨fuel - 1, by simp [writeString] at hfuel; omega⟩
    have hsplit : writeMembers ((next, e) :: rest) =
        ',' :: (writeString next ++ ':' :: write e ++ writeMembers rest) := by simp [writeMembers]
    rw [hsplit] at hfuel ⊢
    generalize hmore : writeString next ++ ':' :: write e ++ writeMembers rest = more at hfuel ⊢
    obtain ⟨cs, hcs, hread⟩ :=
      readString_writeString name (':' :: (write d ++ (',' :: (more ++ tail))))
    have hvalue : readValue fuel depth (write d ++ (',' :: (more ++ tail))) =
        .done d (',' :: (more ++ tail)) :=
      hd fuel _ (apart_cons (by decide)) (by simp at hfuel; omega)
    have htext : writeString name ++ ':' :: write d ++ ',' :: more ++ tail = '"' :: cs := by
      rw [← hcs]
      simp
    rw [htext, readMember, skipBlanks_cons (by decide)]
    simp only [hread, skipBlanks_cons (show isBlank ':' = false by decide), hvalue,
      skipBlanks_cons (show isBlank ',' = false by decide)]
    subst hmore
    rw [ih (hrest _ (List.mem_cons_self ..)) (fun m hm => hrest m (List.mem_cons_of_mem _ hm))
      (by simp at hfuel ⊢; omega)]
    simp

theorem readsBack_record {depth : Nat} {ms : List (String × Document)}
    (h : ∀ m ∈ ms, ReadsBack depth m.2) : ReadsBack (depth + 1) (.record ms) := by
  intro fuel rest _ hfuel
  cases ms with
  | nil =>
    obtain ⟨fuel, rfl⟩ : ∃ n, fuel = n + 1 := ⟨fuel - 1, by simp [write] at hfuel; omega⟩
    rfl
  | cons m ms =>
    obtain ⟨name, d⟩ := m
    have htext : write (.record ((name, d) :: ms)) =
        '\x7b' :: (writeString name ++ ':' :: write d ++ writeMembers ms) := by simp [write]
    rw [htext] at hfuel ⊢
    obtain ⟨fuel, rfl⟩ : ∃ n, fuel = n + 1 := ⟨fuel - 1, by simp at hfuel; omega⟩
    obtain ⟨cs, hcs, -⟩ := readString_writeString name
      (':' :: (write d ++ (writeMembers ms ++ rest)))
    have hquote : writeString name ++ ':' :: write d ++ writeMembers ms ++ rest = '"' :: cs := by
      rw [← hcs]
      simp
    have hmembers : readMember fuel depth []
        (writeString name ++ ':' :: write d ++ writeMembers ms ++ rest) =
        .done (.record ([].reverse ++ (name, d) :: ms)) rest :=
      readMember_write (h _ (List.mem_cons_self ..)) (fun m hm => h m (List.mem_cons_of_mem _ hm))
        rest (by simp at hfuel ⊢; omega)
    rw [hquote] at hmembers
    rw [List.cons_append, hquote, readValue, skipBlanks_cons (by decide)]
    simp only [Nat.add_sub_cancel, Nat.succ_ne_zero, if_false,
      skipBlanks_cons (show isBlank '"' = false by decide)]
    exact hmembers

/-! ### Texts -/

/-- The text is the document, blanks around it aside. -/
def Spells (text : String) (d : Document) : Prop :=
  ∃ rest, readFront text.toList = .done d rest ∧ skipBlanks rest = []

theorem decode_of_spells {α : Type} (judge : Draft → Except Error α) {text : String} {d : Document}
    (h : Spells text d) : decode judge text = judge (.whole d) := by
  obtain ⟨rest, hread, hblank⟩ := h
  simp only [decode, hread, hblank]
  cases judge (.whole d) <;> rfl

theorem spells_render {d : Document} (h : ReadsBack maxDepth d) : Spells (render d) d := by
  refine ⟨[], ?_, rfl⟩
  have := h (enoughFuel (write d)) [] (by simp [Apart]) (by unfold enoughFuel; omega)
  rw [List.append_nil] at this
  simp only [render, String.toList_ofList, readFront, this]

theorem decode_render {α : Type} (judge : Draft → Except Error α) {d : Document}
    (h : ReadsBack maxDepth d) :
    decode judge (render d) = judge (.whole d) :=
  decode_of_spells judge (spells_render h)

end DurableSession.Json
