import DurableSession.Document.Json.Draft
import DurableSession.Text.Numeral

/-!
Reading JSON text.

The reader is strict: nothing but the four blanks may stand between tokens, strings hold no control
characters and no half surrogate pairs, numbers fit a 64 bit float, and at most 127 lists and
records may lie inside each other. What it met before the first fault is kept as a draft.
-/

namespace DurableSession.Json

/-- Blank between tokens. -/
def isBlank (c : Char) : Bool := c = ' ' || c = '\t' || c = '\n' || c = '\r'

def skipBlanks (cs : List Char) : List Char := cs.dropWhile isBlank

/-! ### Strings -/

/-- The value of a hexadecimal digit of either case. -/
def hexValue? (c : Char) : Option Nat :=
  if '0' ≤ c ∧ c ≤ '9' then some (c.toNat - '0'.toNat)
  else if 'a' ≤ c ∧ c ≤ 'f' then some (c.toNat - 'a'.toNat + 10)
  else if 'A' ≤ c ∧ c ≤ 'F' then some (c.toNat - 'A'.toNat + 10)
  else none

/-- What a backslash and this letter stand for, the numbered form aside. -/
def escaped? (c : Char) : Option Char :=
  match c with
  | '"' => some '"'
  | '\\' => some '\\'
  | '/' => some '/'
  | 'b' => some '\x08'
  | 'f' => some '\x0c'
  | 'n' => some '\n'
  | 'r' => some '\r'
  | 't' => some '\t'
  | _ => none

def isHighSurrogate (n : Nat) : Bool := 0xD800 ≤ n && n ≤ 0xDBFF

def isLowSurrogate (n : Nat) : Bool := 0xDC00 ≤ n && n ≤ 0xDFFF

/-- The character of a surrogate pair. -/
def pairChar (high low : Nat) : Char :=
  Char.ofNat (0x10000 + (high - 0xD800) * 0x400 + (low - 0xDC00))

/-- Where the reader of a string stands. -/
inductive Spot where
  /-- Between characters. -/
  | text
  /-- After a backslash. -/
  | escape
  /-- In a numbered escape: digits still due, their value so far, the opening unit before it. -/
  | digits (due : Nat) (value : Nat) (high : Option Nat)
  /-- After the opening unit of a pair, where a backslash is due. -/
  | pairSlash (high : Nat)
  /-- After that backslash, where a `u` is due. -/
  | pairLetter (high : Nat)

/-- Four digits are due, so a text with fewer than four bytes left is too short. -/
def lacksDigits (rest : List Char) : Bool := (rest.take 4).foldl (· + ·.utf8Size) 0 < 4

/-- Read to the closing quote; `acc` holds the characters so far, last one first. -/
def readString (acc : List Char) (spot : Spot) : List Char → Except Fault (String × List Char)
  | [] => .error .truncated
  | c :: rest =>
    match spot with
    | .text =>
      if c = '"' then .ok (String.ofList acc.reverse, rest)
      else if c = '\\' then readString acc .escape rest
      else if c.toNat < 32 then .error .malformed
      else readString (c :: acc) .text rest
    | .escape =>
      if c = 'u' then
        if lacksDigits rest then .error .truncated else readString acc (.digits 4 0 none) rest
      else
        match escaped? c with
        | some e => readString (e :: acc) .text rest
        | none => .error .malformed
    | .digits due value high =>
      match hexValue? c with
      | none => .error .malformed
      | some d =>
        let n := 16 * value + d
        if due ≠ 1 then readString acc (.digits (due - 1) n high) rest
        else
          match high with
          | none =>
            if isLowSurrogate n then .error .malformed
            else if isHighSurrogate n then readString acc (.pairSlash n) rest
            else readString (Char.ofNat n :: acc) .text rest
          | some h =>
            if isLowSurrogate n then readString (pairChar h n :: acc) .text rest
            else .error .malformed
    | .pairSlash h => if c = '\\' then readString acc (.pairLetter h) rest else .error .malformed
    | .pairLetter h =>
      if c = 'u' then
        if lacksDigits rest then .error .truncated else readString acc (.digits 4 0 (some h)) rest
      else .error .malformed

/-! ### Numbers -/

def isDigit (c : Char) : Bool := '0' ≤ c && c ≤ '9'

def digitsOf (cs : List Char) : List Nat × List Char :=
  ((cs.takeWhile isDigit).map fun c => c.toNat - '0'.toNat, cs.dropWhile isDigit)

/-- A decimal `significand * 10 ^ exponent` under construction; `full` once a digit did not fit. -/
structure Significand where
  value : Nat
  exponent : Int
  full : Bool

/-- Take a digit in front of the point: one that does not fit only raises the exponent. -/
def Significand.whole (s : Significand) (d : Nat) : Significand :=
  if s.full || 10 * s.value + d > Text.maxWord then ⟨s.value, s.exponent + 1, true⟩
  else ⟨10 * s.value + d, s.exponent, false⟩

/-- Take a digit behind the point: one that does not fit is left out, and so are all after it. -/
def Significand.fraction (s : Significand) (d : Nat) : Significand :=
  if s.full || 10 * s.value + d > Text.maxWord then ⟨s.value, s.exponent, true⟩
  else ⟨10 * s.value + d, s.exponent - 1, false⟩

def powerOfTen (n : Nat) : Float := Float.ofScientific 1 false n

/-- Scale by a power of ten, at most 308 places a step; nothing if the result is out of range. -/
def scaleFloat : Nat → Float → Int → Option Float
  | 0, _, _ => some 0
  | steps + 1, f, e =>
    if e.natAbs ≤ 308 then
      if 0 ≤ e then
        let g := f * powerOfTen e.natAbs
        if g.isInf then none else some g
      else some (f / powerOfTen e.natAbs)
    else if f == 0 then some f
    else if 0 ≤ e then none
    else scaleFloat steps (f / powerOfTen 308) (e + 308)

/-- The largest exponent that is still read as a number. -/
def maxExponent : Nat := Nat.pow 2 31 - 1

/-- Sign of a float. -/
def signed (negative : Bool) (x : Float) : Float := if negative then -x else x

def Significand.float (s : Significand) (negative : Bool) : Except Fault Number :=
  match scaleFloat 8 s.value.toUInt64.toFloat s.exponent with
  | some x => .ok (.real (signed negative x))
  | none => .error .malformed

def readExponent (negative : Bool) (s : Significand) (cs : List Char) :
    Except Fault (Number × List Char) :=
  let (down, cs) := match cs with
    | '+' :: rest => (false, rest)
    | '-' :: rest => (true, rest)
    | _ => (false, cs)
  match digitsOf cs with
  | ([], []) => .error .truncated
  | ([], _) => .error .malformed
  | (ds, rest) =>
    let e := ds.foldl (fun n d => 10 * n + d) 0
    if e > maxExponent then
      if s.value ≠ 0 ∧ ¬ down then .error .malformed
      else .ok (.real (signed negative 0), rest)
    else
      let shift : Int := if down then -(e : Int) else e
      match Significand.float { s with exponent := s.exponent + shift } negative with
      | .ok n => .ok (n, rest)
      | .error f => .error f

/-- Read what may follow the fraction. -/
def readTail (negative : Bool) (s : Significand) (cs : List Char) :
    Except Fault (Number × List Char) :=
  match cs with
  | 'e' :: rest => readExponent negative s rest
  | 'E' :: rest => readExponent negative s rest
  | _ =>
    match s.float negative with
    | .ok n => .ok (n, cs)
    | .error f => .error f

/-- Read what follows the digits in front of the point. -/
def readAfterWhole (negative : Bool) (s : Significand) (cs : List Char) :
    Except Fault (Number × List Char) :=
  match cs with
  | '.' :: rest =>
    match digitsOf rest with
    | ([], []) => .error .truncated
    | ([], _) => .error .malformed
    | (ds, rest) => readTail negative (ds.foldl Significand.fraction { s with full := false }) rest
  | 'e' :: rest => readExponent negative s rest
  | 'E' :: rest => readExponent negative s rest
  | _ =>
    if s.full then
      match s.float negative with
      | .ok n => .ok (n, cs)
      | .error f => .error f
    else if ¬ negative then .ok (.natural s.value, cs)
    else if s.value = 0 ∨ Nat.pow 2 63 < s.value then .ok (.real (-s.value.toUInt64.toFloat), cs)
    else .ok (.negative s.value, cs)

/-- Read a number behind its sign. -/
def readNumber (negative : Bool) (cs : List Char) : Except Fault (Number × List Char) :=
  match digitsOf cs with
  | ([], []) => .error .truncated
  | ([], _) => .error .malformed
  | (0 :: _ :: _, _) => .error .malformed
  | (ds, rest) => readAfterWhole negative (ds.foldl Significand.whole ⟨0, 0, false⟩) rest

/-! ### Values -/

/-- What reading a value gives: the document and the text behind it, or the draft of a broken
one. -/
inductive Read where
  | done (d : Document) (rest : List Char)
  | broken (draft : Draft)

/-- The rest of a word such as `null`. -/
def readWord (d : Document) : List Char → List Char → Read
  | [], rest => .done d rest
  | _ :: _, [] => .broken (.lost .truncated)
  | w :: ws, c :: rest => if w = c then readWord d ws rest else .broken (.lost .malformed)

def readNumberValue (negative : Bool) (cs : List Char) : Read :=
  match readNumber negative cs with
  | .ok (n, rest) => .done (.number n) rest
  | .error f => .broken (.lost f)

mutual

/-- Read one value; `depth` lists and records may still be opened. -/
def readValue (fuel depth : Nat) (cs : List Char) : Read :=
  match fuel with
  | 0 => .broken (.lost .truncated)
  | fuel + 1 =>
    match skipBlanks cs with
    | [] => .broken (.lost .truncated)
    | 'n' :: rest => readWord .null ['u', 'l', 'l'] rest
    | 't' :: rest => readWord (.boolean true) ['r', 'u', 'e'] rest
    | 'f' :: rest => readWord (.boolean false) ['a', 'l', 's', 'e'] rest
    | '-' :: rest => readNumberValue true rest
    | '"' :: rest =>
      match readString [] .text rest with
      | .ok (s, rest) => .done (.string s) rest
      | .error f => .broken (.lost f)
    | '[' :: rest =>
      if depth = 0 then .broken (.lost .malformed)
      else
        match skipBlanks rest with
        | [] => .broken (.listEnd [] .truncated)
        | ']' :: rest => .done (.list []) rest
        | rest => readItem fuel (depth - 1) [] rest
    | '\x7b' :: rest =>
      if depth = 0 then .broken (.lost .malformed)
      else
        match skipBlanks rest with
        | '\x7d' :: rest => .done (.record []) rest
        | rest => readMember fuel (depth - 1) [] rest
    | c :: rest =>
      if isDigit c then readNumberValue false (c :: rest) else .broken (.lost .malformed)

/-- Read an item and the rest of its list; `done` holds the items before it, last one first. -/
def readItem (fuel depth : Nat) (done : List Document) (cs : List Char) : Read :=
  match fuel with
  | 0 => .broken (.lost .truncated)
  | fuel + 1 =>
    match readValue fuel depth cs with
    | .broken draft => .broken (.listIn done.reverse draft)
    | .done d rest =>
      match skipBlanks rest with
      | [] => .broken (.listEnd (d :: done).reverse .truncated)
      | ']' :: rest => .done (.list (d :: done).reverse) rest
      | ',' :: rest => readItem fuel depth (d :: done) rest
      | _ => .broken (.listEnd (d :: done).reverse .malformed)

/-- Read a member and the rest of its record; `done` holds the members before it, last one first. -/
def readMember (fuel depth : Nat) (done : List (String × Document)) (cs : List Char) : Read :=
  match fuel with
  | 0 => .broken (.lost .truncated)
  | fuel + 1 =>
    match skipBlanks cs with
    | [] => .broken (.recordEnd done.reverse .truncated)
    | '"' :: rest =>
      match readString [] .text rest with
      | .error f => .broken (.recordEnd done.reverse f)
      | .ok (name, rest) =>
        match skipBlanks rest with
        | [] => .broken (.recordIn done.reverse name (.lost .truncated))
        | ':' :: rest =>
          match readValue fuel depth rest with
          | .broken draft => .broken (.recordIn done.reverse name draft)
          | .done d rest =>
            match skipBlanks rest with
            | [] => .broken (.recordEnd ((name, d) :: done).reverse .truncated)
            | '\x7d' :: rest => .done (.record ((name, d) :: done).reverse) rest
            | ',' :: rest => readMember fuel depth ((name, d) :: done) rest
            | _ => .broken (.recordEnd ((name, d) :: done).reverse .malformed)
        | _ => .broken (.recordIn done.reverse name (.lost .malformed))
    | _ => .broken (.recordEnd done.reverse .malformed)

end

/-- How many lists and records may lie inside each other. -/
def maxDepth : Nat := 127

/-- Steps that suffice for a text: every two of them take a character away. -/
def enoughFuel (cs : List Char) : Nat := 2 * cs.length + 2

/-- Read the value at the front of a text. -/
def readFront (cs : List Char) : Read := readValue (enoughFuel cs) maxDepth cs

/-- Read a text that is one value; the value is judged before what follows it. -/
def decode {α : Type} (judge : Draft → Except Error α) (text : String) : Except Error α :=
  match readFront text.toList with
  | .broken draft =>
    match judge draft with
    | .ok a => .ok a
    | .error e => .error e
  | .done d rest =>
    match judge (.whole d) with
    | .error e => .error e
    | .ok a => if (skipBlanks rest).isEmpty then .ok a else .error (.fault .malformed)

def parse (text : String) : Except Error Document :=
  decode (fun d => match d.complete with | .ok d => .ok d | .error f => .error (.fault f)) text

end DurableSession.Json
