import DurableSession.Document.Toml.Text

/-!
Numbers and times of TOML.

Whole numbers fit 64 bits with sign. Where the text goes on with something that cannot belong to the
value, reading stops in front of it.
-/

namespace DurableSession.Toml

/-! ### Numbers -/

def maxInteger : Nat := Nat.pow 2 63 - 1

/-- A digit of a base of at most sixteen. -/
def isDigitOf (base : Nat) (c : Char) :
    Bool := ((Json.hexValue? c).map fun d => decide (d < base)).getD false

/-- The digits at the front, without the single underscores that may stand between two of them. -/
def digitsOf (base : Nat) : List Char → List Nat × List Char
  | c :: rest =>
    if isDigitOf base c then
      let (ds, rest) := digitsOf base rest
      ((Json.hexValue? c).getD 0 :: ds, rest)
    else if c = '_' && (rest.head?.map (isDigitOf base)).getD false then
      match digitsOf base rest with
      | ([], _) => ([], c :: rest)
      | read => read
    else ([], c :: rest)
  | [] => ([], [])

/-- Read one digit and those behind it. -/
def readDigits (base : Nat) (cs : List Char) : Option (List Nat × List Char) :=
  if (cs.head?.map (isDigitOf base)).getD false then some (digitsOf base cs) else none

/-- The value of digits behind those worth `acc`. -/
def valueOf (base acc : Nat) (ds : List Nat) : Nat := ds.foldl (fun n d => base * n + d) acc

/-- A sign at the front. -/
def readSign : List Char → Bool × List Char
  | '+' :: rest => (false, rest)
  | '-' :: rest => (true, rest)
  | cs => (false, cs)

/-- The digits of a whole number in base ten; a nought in front stands alone. -/
def readWhole : List Char → Option (List Nat × List Char)
  | '0' :: rest => some ([0], rest)
  | cs => readDigits 10 cs

/-- Read a number of another base, behind the letter that names it. -/
def readInBase (base : Nat) (cs : List Char) : Option (Number × List Char) :=
  match readDigits base cs with
  | none => none
  | some (ds, rest) =>
    let n := valueOf base 0 ds
    if n ≤ maxInteger then some (.natural n, rest) else none

/-- A whole number with its sign. -/
def integer? (negative : Bool) (n : Nat) : Option Number :=
  if negative && n ≠ 0 then if n ≤ maxInteger + 1 then some (.negative n) else none
  else if n ≤ maxInteger then some (.natural n) else none

/-- The float of `n * 10 ^ e`. A number too large for one is refused; one too far below zero is
minus infinity. -/
def float? (negative : Bool) (n : Nat) (e : Int) : Option Number :=
  let digits : Int := (Nat.toDigits 10 n).length
  let x : Float :=
    if n = 0 ∨ digits + e < -400 then 0
    else if 400 < digits + e then 1 / 0
    else Float.ofScientific n (e < 0) e.natAbs
  if negative then some (.real (-x))
  else if x.isInf then none
  else some (.real x)

def readExponent (cs : List Char) : Option (Int × List Char) :=
  let (negative, cs) := readSign cs
  match readDigits 10 cs with
  | none => none
  | some (ds, rest) =>
    let e : Int := valueOf 10 0 ds
    some (if negative then -e else e, rest)

/-- Read what may follow the digits of a float: an exponent. -/
def readFloatEnd (negative : Bool) (n : Nat) (places : Nat) (cs : List Char) :
    Option (Number × List Char) :=
  let exponent? := match cs with
    | 'e' :: rest => readExponent rest
    | 'E' :: rest => readExponent rest
    | _ => some (0, cs)
  match exponent? with
  | none => none
  | some (e, rest) => (float? negative n (e - places)).map fun x => (x, rest)

/-- Read a number in base ten behind its sign. -/
def readDecimal (negative : Bool) (cs : List Char) : Option (Number × List Char) :=
  match readWhole cs with
  | none => none
  | some (ds, rest) =>
    let n := valueOf 10 0 ds
    match rest with
    | '.' :: fraction =>
      match readDigits 10 fraction with
      | none => none
      | some (more, rest) => readFloatEnd negative (valueOf 10 n more) more.length rest
    | 'e' :: _ => readFloatEnd negative n 0 rest
    | 'E' :: _ => readFloatEnd negative n 0 rest
    | _ => (integer? negative n).map fun k => (k, rest)

def readNumber (cs : List Char) : Option (Number × List Char) :=
  match cs with
  | '0' :: 'x' :: rest => readInBase 16 rest
  | '0' :: 'o' :: rest => readInBase 8 rest
  | '0' :: 'b' :: rest => readInBase 2 rest
  | _ =>
    let (negative, rest) := readSign cs
    match rest with
    | 'i' :: 'n' :: 'f' :: rest => some (.real (if negative then -(1 / 0) else 1 / 0), rest)
    | 'n' :: 'a' :: 'n' :: rest => some (.real (0 / 0), rest)
    | _ => readDecimal negative rest

/-! ### Times -/

/-- Read so many digits, of a number between the bounds. -/
def readField (width low high : Nat) (cs : List Char) : Option (Nat × List Char) :=
  let ds := (cs.take width).filterMap Text.digitValue?
  let n := valueOf 10 0 ds
  if ds.length = width ∧ low ≤ n ∧ n ≤ high then some (n, cs.drop width) else none

/-- Step over a character that has to be there. -/
def skip? (c : Char) : List Char → Option (List Char)
  | d :: rest => if c = d then some rest else none
  | [] => none

/-- How many days a month has. -/
def daysOf (year month : Nat) : Nat :=
  let leap := year % 4 = 0 ∧ (year % 100 ≠ 0 ∨ year % 400 = 0)
  if month = 2 then if leap then 29 else 28
  else if month ∈ [4, 6, 9, 11] then 30
  else 31

def skipDate (cs : List Char) : Option (List Char) := do
  let (year, cs) ← readField 4 0 9999 cs
  let cs ← skip? '-' cs
  let (month, cs) ← readField 2 1 12 cs
  let cs ← skip? '-' cs
  let (_, cs) ← readField 2 1 (daysOf year month) cs
  return cs

def skipFraction (cs : List Char) : Option (List Char) :=
  match cs with
  | '.' :: rest =>
    if (rest.head?.map (isDigitOf 10)).getD false then some (rest.dropWhile (isDigitOf 10))
      else none
  | _ => some cs

/-- Step over a time of day; a minute may have a leap second. -/
def skipClock (cs : List Char) : Option (List Char) := do
  let (_, cs) ← readField 2 0 23 cs
  let cs ← skip? ':' cs
  let (_, cs) ← readField 2 0 59 cs
  let cs ← skip? ':' cs
  let (_, cs) ← readField 2 0 60 cs
  skipFraction cs

/-- Step over a distance from the common time in hours and minutes. -/
def skipDistance (cs : List Char) : Option (List Char) := do
  let (_, cs) ← readField 2 0 23 cs
  let cs ← skip? ':' cs
  let (_, cs) ← readField 2 0 59 cs
  return cs

/-- Step over what may follow a date with a time of day: where that time is meant. -/
def skipOffset (cs : List Char) : Option (List Char) :=
  match cs with
  | 'Z' :: rest => some rest
  | 'z' :: rest => some rest
  | '+' :: rest => skipDistance rest
  | '-' :: rest => skipDistance rest
  | _ => some cs

def skipTime (cs : List Char) : Option (List Char) :=
  match skipDate cs with
  | none => skipClock cs
  | some rest =>
    match rest with
    | c :: clock =>
      if c = 'T' ∨ c = 't' ∨ c = ' ' then
        match skipClock clock with
        | some rest => skipOffset rest
        | none => some rest
      else some rest
    | [] => some []

/-- The name of the only member of the record that stands for a time. -/
def timeMember : String := "$__toml_private_datetime"

/-- The record that stands for a time. -/
def timeDocument (text : List Char) : Document :=
  .record [(timeMember, .string (String.ofList text))]

/-- Read a time or a number. -/
def readScalar (cs : List Char) : Option (Document × List Char) :=
  match skipTime cs with
  | some rest => some (timeDocument (cs.take (cs.length - rest.length)), rest)
  | none => (readNumber cs).map fun (n, rest) => (.number n, rest)

end DurableSession.Toml
