/-!
Base 64 without padding. Decoding accepts only what encoding produces: the bits left over in the
last character have to be nought.
-/

namespace DurableSession.Password

/-- The character of six bits. -/
def base64Char (n : Nat) : Char :=
  if n < 26 then Char.ofNat ('A'.toNat + n)
  else if n < 52 then Char.ofNat ('a'.toNat + n - 26)
  else if n < 62 then Char.ofNat ('0'.toNat + n - 52)
  else if n = 62 then '+'
  else '/'

/-- The characters that spell bytes, four for every three. -/
def base64Chars : List UInt8 → List Char
  | [] => []
  | [a] => [base64Char (a.toNat / 4), base64Char (16 * (a.toNat % 4))]
  | [a, b] =>
    [base64Char (a.toNat / 4), base64Char (16 * (a.toNat % 4) + b.toNat / 16),
      base64Char (4 * (b.toNat % 16))]
  | a :: b :: c :: rest =>
    base64Char (a.toNat / 4) :: base64Char (16 * (a.toNat % 4) + b.toNat / 16) ::
      base64Char (4 * (b.toNat % 16) + c.toNat / 64) :: base64Char (c.toNat % 64) ::
      base64Chars rest

/-- The six bits of a character. -/
def base64Value? (c : Char) : Option Nat :=
  if 'A' ≤ c ∧ c ≤ 'Z' then some (c.toNat - 'A'.toNat)
  else if 'a' ≤ c ∧ c ≤ 'z' then some (c.toNat - 'a'.toNat + 26)
  else if '0' ≤ c ∧ c ≤ '9' then some (c.toNat - '0'.toNat + 52)
  else if c = '+' then some 62
  else if c = '/' then some 63
  else none

/-- The bytes that characters spell, four characters for three bytes. -/
def base64Bytes? : List Nat → Option (List UInt8)
  | [] => some []
  | [_] => none
  | [a, b] => if b % 16 = 0 then some [UInt8.ofNat (4 * a + b / 16)] else none
  | [a, b, c] =>
    if c % 4 = 0 then
      some [UInt8.ofNat (4 * a + b / 16), UInt8.ofNat (16 * (b % 16) + c / 4)]
    else none
  | a :: b :: c :: d :: rest =>
    match base64Bytes? rest with
    | some bytes =>
      some (UInt8.ofNat (4 * a + b / 16) :: UInt8.ofNat (16 * (b % 16) + c / 4) ::
        UInt8.ofNat (64 * (c % 4) + d) :: bytes)
    | none => none

/-- The bytes that a text spells. -/
def base64? (cs : List Char) : Option (List UInt8) :=
  match cs.mapM base64Value? with
  | some values => base64Bytes? values
  | none => none

end DurableSession.Password
