import DurableSession.Document.Json.Reader

/-!
Bytes in hexadecimal digits.
-/

namespace DurableSession.Text

/-- The digit of a number below sixteen. -/
def hexDigit (n : Nat) : Char := Nat.digitChar (n % 16)

/-- Two digits for every byte. -/
def toHex (bytes : List UInt8) : String :=
  String.ofList (bytes.flatMap fun b => [hexDigit (b.toNat / 16), hexDigit b.toNat])

/-- The byte of two digits. -/
def hexByte? (high low : Char) : Option UInt8 :=
  match Json.hexValue? high, Json.hexValue? low with
  | some h, some l => some (UInt8.ofNat (16 * h + l))
  | _, _ => none

/-- The bytes of pairs of digits, as far as they go. -/
def ofHex : List Char → List UInt8
  | high :: low :: rest =>
    match hexByte? high low with
    | some b => b :: ofHex rest
    | none => []
  | _ => []

end DurableSession.Text
