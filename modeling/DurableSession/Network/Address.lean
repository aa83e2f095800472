import DurableSession.Text.Numeral

/-!
Internet addresses and socket addresses: reading them and writing them in their shortest usual form.
-/

namespace DurableSession.Network

/-- An address of version 4 by its four bytes, or of version 6 by its eight groups. -/
inductive Address where
  | v4 (a b c d : Nat)
  | v6 (groups : List Nat)
deriving DecidableEq, Repr

/-- An address and the number of a service there; version 6 may name a scope. -/
structure SocketAddress where
  host : Address
  scope : Nat := 0
  service : Nat
deriving DecidableEq, Repr

/-! ### Reading -/

/-- A reader takes what it wants from the front of a text, or nothing. -/
abbrev Reader (α : Type) := List Char → Option (α × List Char)

/-- The value of a digit in a base of at most sixteen. -/
def digit? (base : Nat) (c : Char) : Option Nat :=
  let n :=
    if '0' ≤ c ∧ c ≤ '9' then c.toNat - '0'.toNat
    else if 'a' ≤ c ∧ c ≤ 'f' then c.toNat - 'a'.toNat + 10
    else if 'A' ≤ c ∧ c ≤ 'F' then c.toNat - 'A'.toNat + 10
    else base
  if n < base then some n else none

def digits (base : Nat) (cs : List Char) : List Nat × List Char :=
  ((cs.takeWhile fun c => (digit? base c).isSome).filterMap (digit? base),
    cs.dropWhile fun c => (digit? base c).isSome)

/-- How a number is written: its base, at most so many digits, at most this value, leading zeros or
not. -/
structure NumberForm where
  base : Nat := 10
  maxDigits : Option Nat := none
  maxValue : Nat
  leadingZero : Bool := true

/-- A number in a given form. -/
def readNumber (form : NumberForm) : Reader Nat := fun cs =>
  let (ds, rest) := digits form.base cs
  let value := ds.foldl (fun n d => form.base * n + d) 0
  if ds.isEmpty || form.maxDigits.any (· < ds.length) || form.maxValue < value then none
  else if !form.leadingZero && ds.head? = some 0 && 1 < ds.length then none
  else some (value, rest)

def readChar (c : Char) : Reader Unit
  | d :: rest => if d = c then some ((), rest) else none
  | [] => none

/-- A byte of an address of version 4. -/
def readByte : Reader Nat :=
  readNumber { maxDigits := some 3, maxValue := 255, leadingZero := false }

/-- Four bytes with dots between them. -/
def readV4 : Reader (Nat × Nat × Nat × Nat) := fun cs => do
  let (a, cs) ← readByte cs
  let (_, cs) ← readChar '.' cs
  let (b, cs) ← readByte cs
  let (_, cs) ← readChar '.' cs
  let (c, cs) ← readByte cs
  let (_, cs) ← readChar '.' cs
  let (d, cs) ← readByte cs
  return ((a, b, c, d), cs)

/-- A reader, after a colon unless it is the first. -/
def separated {α : Type} (first : Bool) (r : Reader α) : Reader α := fun cs =>
  if first then r cs
  else do
    let (_, cs) ← readChar ':' cs
    r cs

/-- Groups read so far, whether the last two were an address of version 4, and the rest. -/
structure Groups where
  groups : List Nat
  endsInV4 : Bool
  rest : List Char

/-- Read at most `limit` groups; the last two may be written as an address of version 4. -/
def readGroups (first : Bool) : Nat → List Char → Groups
  | 0, cs => ⟨[], false, cs⟩
  | limit + 1, cs =>
    let v4 := if 0 < limit then separated first readV4 cs else none
    match v4 with
    | some ((a, b, c, d), rest) => ⟨[256 * a + b, 256 * c + d], true, rest⟩
    | none =>
      match separated first (readNumber { base := 16, maxDigits := some 4, maxValue := 65535 })
        cs with
      | none => ⟨[], false, cs⟩
      | some (g, rest) =>
        let more := readGroups false limit rest
        { more with groups := g :: more.groups }

/-- Eight groups, where one run of zeros may be written as two colons. -/
def readV6 : Reader (List Nat) := fun cs =>
  let front := readGroups true 8 cs
  if front.groups.length = 8 then some (front.groups, front.rest)
  else if front.endsInV4 then none
  else do
    let (_, cs) ← readChar ':' front.rest
    let (_, cs) ← readChar ':' cs
    let back := readGroups true (7 - front.groups.length) cs
    let zeros := 8 - front.groups.length - back.groups.length
    return (front.groups ++ List.replicate zeros 0 ++ back.groups, back.rest)

/-- All of the text. -/
def whole {α : Type} (r : Reader α) (s : String) : Option α :=
  match r s.toList with
  | some (a, []) => some a
  | _ => none

/-- Either version. -/
def Address.parse? (s : String) : Option Address :=
  match whole readV4 s with
  | some (a, b, c, d) => some (.v4 a b c d)
  | none => (whole readV6 s).map .v6

/-- A colon and the number of a service. -/
def readService : Reader Nat := fun cs => do
  let (_, cs) ← readChar ':' cs
  readNumber { maxValue := 65535 } cs

/-- The scope behind an address of version 6, or nought. -/
def readScope (cs : List Char) : Nat × List Char :=
  let scope : Option (Nat × List Char) := do
    let (_, cs) ← readChar '%' cs
    readNumber { maxValue := 4294967295 } cs
  scope.getD (0, cs)

/-- An address of version 4 and a service. -/
def readSocketV4 : Reader SocketAddress := fun cs => do
  let ((a, b, c, d), cs) ← readV4 cs
  let (service, cs) ← readService cs
  return (⟨.v4 a b c d, 0, service⟩, cs)

/-- An address of version 6 in brackets and a service. -/
def readSocketV6 : Reader SocketAddress := fun cs => do
  let (_, cs) ← readChar '[' cs
  let (groups, cs) ← readV6 cs
  let (scope, cs) := readScope cs
  let (_, cs) ← readChar ']' cs
  let (service, cs) ← readService cs
  return (⟨.v6 groups, scope, service⟩, cs)

/-- A socket address of either version. -/
def SocketAddress.parse? (s : String) : Option SocketAddress :=
  match whole readSocketV4 s with
  | some a => some a
  | none => whole readSocketV6 s

/-! ### Writing -/

/-- Length of the run of zeros at the front. -/
def zeroRun : List Nat → Nat
  | 0 :: rest => zeroRun rest + 1
  | _ => 0

/-- Start and length of the first longest run of zeros; `start` is the place of the first group. -/
def longestZeroRun (start : Nat) : List Nat → Nat × Nat
  | [] => (start, 0)
  | g :: rest =>
    let here := zeroRun (g :: rest)
    let later := longestZeroRun (start + 1) rest
    if later.2 ≤ here then (start, here) else later

def groupText (n : Nat) : String := String.ofList (Nat.toDigits 16 n)

def joined (groups : List Nat) : String := ":".intercalate (groups.map groupText)

def v4Text (a b c d : Nat) : String :=
  toString a ++ "." ++ toString b ++ "." ++ toString c ++ "." ++ toString d

/-- The shortest usual form. -/
def Address.text : Address → String
  | .v4 a b c d => v4Text a b c d
  | .v6 [0, 0, 0, 0, 0, 65535, high, low] =>
    "::ffff:" ++ v4Text (high / 256) (high % 256) (low / 256) (low % 256)
  | .v6 groups =>
    let (start, length) := longestZeroRun 0 groups
    if 1 < length then joined (groups.take start) ++ "::" ++ joined (groups.drop (start + length))
    else joined groups

/-- The address and the service; version 6 stands in brackets. -/
def SocketAddress.text (a : SocketAddress) : String :=
  match a.host with
  | .v4 .. => a.host.text ++ ":" ++ toString a.service
  | .v6 _ =>
    let scope := if a.scope = 0 then "" else "%" ++ toString a.scope
    "[" ++ a.host.text ++ scope ++ "]:" ++ toString a.service

end DurableSession.Network
