import DurableSession.Text.Utf8

/-!
Reading the bytes of a text gives the text.

Main statements: `readChar_utf8EncodeChar`, one case for each number of bytes that a character
takes, and `readChars_utf8` for whole texts. `mem_utf8EncodeChar` says which bytes stand for
characters beyond ASCII.
-/

namespace DurableSession.Text

/-! ### The bytes of a character -/

theorem utf8EncodeChar_ascii {c : Char} (h : c.toNat < 128) :
    String.utf8EncodeChar c = [UInt8.ofNat c.toNat] := by
  have hval : c.val.toNat ≤ 127 := Nat.le_of_lt_succ h
  simp only [String.utf8EncodeChar, hval, if_true]
  rfl

/-- Beyond ASCII no byte of a character is a byte of ASCII. -/
theorem mem_utf8EncodeChar {c : Char} (h : 128 ≤ c.toNat) {b : UInt8}
    (hb : b ∈ String.utf8EncodeChar c) :
    128 ≤ b.toNat := by
  have hval : ¬ c.val.toNat ≤ 127 := Nat.not_le.2 h
  simp only [String.utf8EncodeChar, hval, if_false] at hb
  split at hb
  · simp only [List.mem_cons, List.not_mem_nil, or_false] at hb
    rcases hb with rfl | rfl <;> simp <;> omega
  · split at hb
    · simp only [List.mem_cons, List.not_mem_nil, or_false] at hb
      rcases hb with rfl | rfl | rfl <;> simp <;> omega
    · simp only [List.mem_cons, List.not_mem_nil, or_false] at hb
      rcases hb with rfl | rfl | rfl | rfl <;> simp <;> omega

theorem utf8EncodeChar_ne_nil (c : Char) : String.utf8EncodeChar c ≠ [] := by
  unfold String.utf8EncodeChar
  dsimp only
  split
  · simp
  · split
    · simp
    · split <;> simp

/-! ### Reading them -/

theorem toNat_tail {n : Nat} (h : n < 64) : (UInt8.ofNat (n + 128)).toNat = n + 128 := by
  simp
  omega

theorem readContinuation_tail {n : Nat} (h : n < 64) (acc more : Nat) (bs : List UInt8) :
    readContinuation acc (more + 1) (UInt8.ofNat (n + 128) :: bs) =
      readContinuation (64 * acc + n) more bs := by
  have hcontinues : isContinuation (UInt8.ofNat (n + 128)) = true := by
    simp only [isContinuation, UInt8.le_iff_toNat_le, toNat_tail h, Bool.and_eq_true,
      decide_eq_true_eq]
    exact ⟨by simp, by simp; omega⟩
  have hbits : (n + 128) % 64 = n := by omega
  rw [readContinuation, if_pos hcontinues, toNat_tail h, hbits]

/-- A first byte that promises more, and a second byte within its bounds. -/
theorem readChar_tail {lead low high : UInt8} {more bits n : Nat}
    (hlead : leadByte? lead = some (more + 1, low, high)) (hbits : leadBits lead (more + 1) = bits)
    (hn : n < 64) (hlow : low.toNat ≤ n + 128) (hhigh : n + 128 ≤ high.toNat) (bs : List UInt8) :
    readChar lead (UInt8.ofNat (n + 128) :: bs) = readContinuation (64 * bits + n) more bs := by
  have hbound : (low ≤ UInt8.ofNat (n + 128) && UInt8.ofNat (n + 128) ≤ high) = true := by
    simp only [UInt8.le_iff_toNat_le, toNat_tail hn, hlow, hhigh, decide_true, Bool.and_self]
  have hsix : (n + 128) % 64 = n := by omega
  simp only [readChar, hlead, hbound, if_true, hbits, toNat_tail hn, hsix]

theorem readChar_two {n m : Nat} (hn : 2 ≤ n) (hn' : n < 32) (hm : m < 64) (rest : List UInt8) :
    readChar (UInt8.ofNat (n + 192)) (UInt8.ofNat (m + 128) :: rest) =
      ⟨some (Char.ofNat (64 * n + m)), rest⟩ := by
  have hlead : ∀ n : Fin 32, 2 ≤ n.val → leadByte? (UInt8.ofNat (n + 192)) = some (1, 0x80, 0xBF) ∧
      leadBits (UInt8.ofNat (n + 192)) 1 = n := by decide
  obtain ⟨hlead, hbits⟩ := hlead ⟨n, hn'⟩ hn
  rw [readChar_tail hlead hbits hm (by simp) (by simp; omega)]
  rfl

theorem readChar_three {n m k : Nat} (hn : n < 16) (hm : m < 64) (hk : k < 64)
    (hlong : n = 0 → 32 ≤ m) (hsurrogate : n = 13 → m < 32) (rest : List UInt8) :
    readChar (UInt8.ofNat (n + 224)) (UInt8.ofNat (m + 128) :: UInt8.ofNat (k + 128) :: rest) =
      ⟨some (Char.ofNat (64 * (64 * n + m) + k)), rest⟩ := by
  have hlead : ∀ n : Fin 16, leadByte? (UInt8.ofNat (n + 224)) =
        some (2, if n.val = 0 then 0xA0 else 0x80, if n.val = 13 then 0x9F else 0xBF) ∧
      leadBits (UInt8.ofNat (n + 224)) 2 = n := by decide
  obtain ⟨hlead, hbits⟩ := hlead ⟨n, hn⟩
  have hlow : (if n = 0 then (0xA0 : UInt8) else 0x80).toNat ≤ m + 128 := by
    split
    · next hzero => exact Nat.add_le_add_right (hlong hzero) 128
    · exact Nat.le_add_left 128 m
  have hhigh : m + 128 ≤ (if n = 13 then (0x9F : UInt8) else 0xBF).toNat := by
    split
    · next hthirteen => exact Nat.add_le_add_right (Nat.le_of_lt_succ (hsurrogate hthirteen)) 128
    · exact Nat.add_le_add_right (Nat.le_of_lt_succ hm) 128
  rw [readChar_tail hlead hbits hm hlow hhigh, readContinuation_tail hk]
  rfl

theorem readChar_four {n m k l : Nat} (hn : n < 5) (hm : m < 64) (hk : k < 64) (hl : l < 64)
    (hlong : n = 0 → 16 ≤ m) (hpast : n = 4 → m < 16) (rest : List UInt8) :
    readChar (UInt8.ofNat (n + 240))
        (UInt8.ofNat (m + 128) :: UInt8.ofNat (k + 128) :: UInt8.ofNat (l + 128) :: rest) =
      ⟨some (Char.ofNat (64 * (64 * (64 * n + m) + k) + l)), rest⟩ := by
  have hlead : ∀ n : Fin 5, leadByte? (UInt8.ofNat (n + 240)) =
        some (3, if n.val = 0 then 0x90 else 0x80, if n.val = 4 then 0x8F else 0xBF) ∧
      leadBits (UInt8.ofNat (n + 240)) 3 = n := by decide
  obtain ⟨hlead, hbits⟩ := hlead ⟨n, hn⟩
  have hlow : (if n = 0 then (0x90 : UInt8) else 0x80).toNat ≤ m + 128 := by
    split
    · next hzero => exact Nat.add_le_add_right (hlong hzero) 128
    · exact Nat.le_add_left 128 m
  have hhigh : m + 128 ≤ (if n = 4 then (0x8F : UInt8) else 0xBF).toNat := by
    split
    · next hfour => exact Nat.add_le_add_right (Nat.le_of_lt_succ (hpast hfour)) 128
    · exact Nat.add_le_add_right (Nat.le_of_lt_succ hm) 128
  rw [readChar_tail hlead hbits hm hlow hhigh, readContinuation_tail hk, readContinuation_tail hl]
  rfl

theorem readChar_utf8EncodeChar (c : Char) (rest : List UInt8) :
    ∃ b bs, String.utf8EncodeChar c = b :: bs ∧ readChar b (bs ++ rest) = ⟨some c, rest⟩ := by
  have hvalid : c.val.toNat < 0xD800 ∨ 0xDFFF < c.val.toNat ∧ c.val.toNat < 0x110000 := c.valid
  have hchar : Char.ofNat c.val.toNat = c := Char.ofNat_toNat c
  unfold String.utf8EncodeChar
  generalize c.val.toNat = v at hvalid hchar
  subst hchar
  dsimp only
  split
  case isTrue hone =>
    refine ⟨_, _, rfl, ?_⟩
    have hlead : ∀ v : Fin 128, leadByte? (UInt8.ofNat v) = some (0, 0, 0) := by decide
    have hv : v % 256 = v := by omega
    simp [readChar, hlead ⟨v, by omega⟩, hv]
  case isFalse hone =>
    split
    case isTrue htwo =>
      refine ⟨_, _, rfl, (readChar_two (by omega) (by omega) (by omega) rest).trans ?_⟩
      rw [show 64 * (v / 64 % 32) + v % 64 = v by omega]
    case isFalse htwo =>
      split
      case isTrue hthree =>
        refine ⟨_, _, rfl, (readChar_three (by omega) (by omega) (by omega) (by omega) (by omega)
          rest).trans ?_⟩
        rw [show 64 * (64 * (v / 4096 % 16) + v / 64 % 64) + v % 64 = v by omega]
      case isFalse hthree =>
        refine ⟨_, _, rfl, (readChar_four (by omega) (by omega) (by omega) (by omega) (by omega)
          (by omega) rest).trans ?_⟩
        rw [show 64 * (64 * (64 * (v / 262144 % 8) + v / 4096 % 64) + v / 64 % 64) + v % 64 =
          v by omega]

theorem readChars_utf8EncodeChar (c : Char) (rest : List UInt8) :
    readChars (String.utf8EncodeChar c ++ rest) = some c :: readChars rest := by
  obtain ⟨b, bs, hbytes, hread⟩ := readChar_utf8EncodeChar c rest
  rw [hbytes, List.cons_append, readChars, hread]

/-! ### Texts -/

theorem readChars_utf8 (s : String) : readChars (utf8 s) = s.toList.map some := by
  unfold utf8
  induction s.toList with
  | nil => simp [readChars]
  | cons c cs ih => rw [List.flatMap_cons, readChars_utf8EncodeChar, ih, List.map_cons]

theorem fromUtf8Lossy_utf8 (s : String) : fromUtf8Lossy (utf8 s) = s := by
  have hread : (s.toList.map some).map (·.getD '\ufffd') = s.toList := by
    rw [List.map_map]
    exact List.map_id s.toList
  rw [fromUtf8Lossy, readChars_utf8, hread, String.ofList_toList]

end DurableSession.Text
