/-!
UTF-8 over lists of bytes: writing a text, reading bytes strictly, and reading them with a
replacement character for every part that is no text.
-/

namespace DurableSession.Text

/-- The bytes of a text. -/
def utf8 (s : String) : List UInt8 := s.toList.flatMap String.utf8EncodeChar

/-- A byte that continues a character begun before it. -/
def isContinuation (b : UInt8) : Bool := 0x80 ≤ b && b ≤ 0xBF

/--
What the first byte of a character promises: how many bytes follow, and the bounds of the first of
them, which keep out overlong forms, surrogates and numbers past the last code point.
-/
def leadByte? (b : UInt8) : Option (Nat × UInt8 × UInt8) :=
  if b < 0x80 then some (0, 0, 0)
  else if b < 0xC2 then none
  else if b < 0xE0 then some (1, 0x80, 0xBF)
  else if b = 0xE0 then some (2, 0xA0, 0xBF)
  else if b = 0xED then some (2, 0x80, 0x9F)
  else if b < 0xF0 then some (2, 0x80, 0xBF)
  else if b = 0xF0 then some (3, 0x90, 0xBF)
  else if b < 0xF4 then some (3, 0x80, 0xBF)
  else if b = 0xF4 then some (3, 0x80, 0x8F)
  else none

/-- The bits that the first byte of a character of `1 + more` bytes contributes. -/
def leadBits (b : UInt8) (more : Nat) : Nat :=
  if more = 0 then b.toNat else b.toNat % Nat.pow 2 (6 - more)

/-- One read of a character: the character, or nothing for a part that is no text, and the rest. -/
structure CharRead where
  char : Option Char
  rest : List UInt8

/-- Read up to `more` continuation bytes; stop before the first byte that is none. -/
def readContinuation (acc : Nat) : Nat → List UInt8 → CharRead
  | 0, rest => ⟨some (Char.ofNat acc), rest⟩
  | _ + 1, [] => ⟨none, []⟩
  | more + 1, b :: rest =>
    if isContinuation b then readContinuation (64 * acc + b.toNat % 64) more rest
    else ⟨none, b :: rest⟩

/-- Read the character that starts with `b`, or step over the longest part that could start one. -/
def readChar (b : UInt8) (rest : List UInt8) : CharRead :=
  match leadByte? b with
  | none => ⟨none, rest⟩
  | some (0, _, _) => ⟨some (Char.ofNat b.toNat), rest⟩
  | some (more + 1, low, high) =>
    match rest with
    | [] => ⟨none, []⟩
    | second :: rest' =>
      if low ≤ second && second ≤ high then
        readContinuation (64 * leadBits b (more + 1) + second.toNat % 64) more rest'
      else ⟨none, rest⟩

theorem length_readContinuation (acc more : Nat) (bs : List UInt8) :
    (readContinuation acc more bs).rest.length ≤ bs.length := by
  induction bs generalizing acc more with
  | nil => cases more <;> simp [readContinuation]
  | cons b rest ih =>
    cases more with
    | zero => simp [readContinuation]
    | succ more =>
      unfold readContinuation
      split
      · exact Nat.le_succ_of_le (ih _ _)
      · simp

theorem length_readChar (b : UInt8) (bs : List UInt8) :
    (readChar b bs).rest.length ≤ bs.length := by
  unfold readChar
  split
  · simp
  · simp
  · split
    · simp
    · split
      · exact Nat.le_succ_of_le (length_readContinuation _ _ _)
      · simp

/-- The characters in `bs`, with nothing in place of each part that is no text. -/
def readChars : List UInt8 → List (Option Char)
  | [] => []
  | b :: rest => (readChar b rest).char :: readChars (readChar b rest).rest
termination_by bs => bs.length
decreasing_by exact Nat.lt_succ_of_le (length_readChar b rest)

/-- The text that the bytes spell, if they are UTF-8 throughout. -/
def fromUtf8? (bs : List UInt8) : Option String :=
  let chars := readChars bs
  if chars.all Option.isSome then some (String.ofList (chars.filterMap id)) else none

/-- The text of the bytes, with U+FFFD for every part that is no text. -/
def fromUtf8Lossy (bs : List UInt8) : String :=
  String.ofList ((readChars bs).map (·.getD '\ufffd'))

end DurableSession.Text
