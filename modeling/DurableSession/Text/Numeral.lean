/-!
Decimal numerals for unsigned numbers of a bounded size.
-/

namespace DurableSession.Text

def digitValue? (c : Char) : Option Nat :=
  if '0' ≤ c ∧ c ≤ '9' then some (c.toNat - '0'.toNat) else none

/-- The number that a run of digits denotes after the digits worth `acc`. -/
def digitsValue? (acc : Nat) : List Char → Option Nat
  | [] => some acc
  | c :: rest =>
    match digitValue? c with
    | some d => digitsValue? (10 * acc + d) rest
    | none => none

/-- At least one digit and nothing else. -/
def natural? : List Char → Option Nat
  | [] => none
  | cs => digitsValue? 0 cs

/-- A numeral of at most `max`; one plus sign may stand in front. -/
def unsigned? (max : Nat) (cs : List Char) : Option Nat :=
  let digits := match cs with
    | '+' :: rest => rest
    | _ => cs
  match natural? digits with
  | some n => if n ≤ max then some n else none
  | none => none

/-- The largest number of 64 bits. -/
def maxWord : Nat := Nat.pow 2 64 - 1

end DurableSession.Text
