/-!
Decimal text of binary floating point numbers: the fewest digits that read back to the same number,
and the layouts in which they are written.

The digits come from exact arithmetic on naturals. A positive number is `m * 2 ^ q`; the reals
nearer to it than to its neighbours form an interval, which holds its ends when `m` is even. On the
grids of one digit, two digits and so on, the number's two neighbours are tried: the first grid with
a neighbour in the interval gives the digits.
-/

namespace DurableSession.Text

/-- A decimal `digits * 10 ^ exponent`. -/
structure Decimal where
  digits : Nat
  exponent : Int
deriving DecidableEq, Repr

namespace Decimal

/-- A fraction of naturals, times a power of ten. -/
structure Scaled where
  num : Nat
  den : Nat

/-- `n * 2 ^ q / 10 ^ k` as a fraction. -/
def scale (n : Nat) (q k : Int) : Scaled where
  num := n * Nat.pow 2 q.toNat * Nat.pow 10 (-k).toNat
  den := Nat.pow 2 (-q).toNat * Nat.pow 10 k.toNat

/-- The reals that round to `m * 2 ^ q`, as multiples of `2 ^ (q - 2)`. -/
structure Interval where
  low : Nat
  mid : Nat
  high : Nat
  closed : Bool

/-- The gap below a power of two is half the gap above it. -/
def interval (m : Nat) (narrowBelow : Bool) : Interval where
  low := if narrowBelow then 4 * m - 1 else 4 * m - 2
  mid := 4 * m
  high := 4 * m + 2
  closed := m % 2 = 0

/-- The grid point `d * 10 ^ k` lies in the interval of `m * 2 ^ (q + 2)`. -/
def Interval.holds (i : Interval) (q k : Int) (d : Nat) : Bool :=
  let low := scale i.low q k
  let high := scale i.high q k
  if i.closed then low.num ≤ d * low.den && d * high.den ≤ high.num
  else low.num < d * low.den && d * high.den < high.num

/-- The nearer of the two neighbours on the grid of `10 ^ k` that lie in the interval. -/
def Interval.pick? (i : Interval) (q k : Int) : Option Nat :=
  let mid := scale i.mid q k
  let d := mid.num / mid.den
  let below := i.holds q k d
  let above := i.holds q k (d + 1)
  if below && above then
    let twice := 2 * (mid.num % mid.den)
    some (if twice < mid.den then d
      else if twice > mid.den then d + 1
      else if d % 2 = 0 then d else d + 1)
  else if below then some d
  else if above then some (d + 1)
  else none

/-- How many decimal digits `n` has. -/
def width (n : Nat) : Nat := (Nat.toDigits 10 n).length

/-- Move zeros at the end of the digits into the exponent. -/
def trim (fuel digits : Nat) (exponent : Int) : Decimal :=
  match fuel with
  | 0 => ⟨digits, exponent⟩
  | fuel + 1 =>
    if digits ≠ 0 ∧ digits % 10 = 0 then trim fuel (digits / 10) (exponent + 1)
    else ⟨digits, exponent⟩

/-- The position of the leading digit: the least `e` with `mid < 10 ^ e`, from a first guess. -/
def leading (mid : Nat) (q : Int) : Int :=
  let s := scale mid q 0
  if s.den ≤ s.num then (width (s.num / s.den) : Int)
  else 1 - (width (s.den / s.num) : Int)

/-- The first of the given grids with a hit. -/
def search (i : Interval) (q top : Int) : List Nat → Decimal
  | [] => ⟨0, 0⟩
  | n :: rest =>
    let k := top - n
    match i.pick? q k with
    | some d => trim (width d) d k
    | none => search i q top rest

/-- The fewest digits that read back to the finite number of 64 bits with the given bits. -/
def shortest (bits : Nat) : Decimal :=
  let fraction := bits % Nat.pow 2 52
  let biased := bits / Nat.pow 2 52 % Nat.pow 2 11
  if fraction = 0 ∧ biased = 0 then ⟨0, 0⟩
  else
    let m := if biased = 0 then fraction else Nat.pow 2 52 + fraction
    let q : Int := (if biased = 0 then 1 else biased : Nat) - 1077
    let i := interval m (fraction = 0 && biased > 1)
    search i q (leading i.mid q) (List.range' 1 17)

/-- Where a layout ends positional notation, by the number of digits in front of the point. -/
structure Layout where
  positional : Int → Bool

/-- Digits in full, however many. -/
def Layout.plain : Layout := ⟨fun _ => true⟩

/-- Positional notation for moderate sizes, an exponent with its sign otherwise. -/
def Layout.scientific : Layout := ⟨fun p => -5 < p && p ≤ 16⟩

/-- The text of a decimal; a point is always followed by at least one digit. -/
def write (layout : Layout) (d : Decimal) : String :=
  let digits := Nat.toDigits 10 d.digits
  let count : Int := digits.length
  let point : Int := if d.digits = 0 then 1 else count + d.exponent
  if d.digits = 0 then "0.0"
  else if layout.positional point then
    if count ≤ point then
      String.ofList (digits ++ List.replicate (point - count).toNat '0' ++ ['.', '0'])
    else if 0 < point then
      String.ofList (digits.take point.toNat ++ ['.'] ++ digits.drop point.toNat)
    else String.ofList (['0', '.'] ++ List.replicate (-point).toNat '0' ++ digits)
  else
    let mantissa := match digits with
      | [] => []
      | [c] => [c]
      | c :: rest => c :: '.' :: rest
    let e := point - 1
    let sign := if e < 0 then '-' else '+'
    String.ofList (mantissa ++ ['e', sign] ++ Nat.toDigits 10 e.natAbs)

end Decimal

/-- The text of a floating point number in a layout. -/
def floatText (layout : Decimal.Layout) (x : Float) : String :=
  let bits := x.toBits.toNat
  let sign := if bits / Nat.pow 2 63 = 1 then "-" else ""
  if x.isNaN then "NaN.0"
  else if x.isInf then sign ++ "inf.0"
  else sign ++ (Decimal.shortest bits).write layout

end DurableSession.Text
