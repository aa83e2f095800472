import DurableSession.Password.Argon2
import DurableSession.Password.Base64
import DurableSession.Text.Numeral
import DurableSession.Text.Utf8

/-!
Password hashes as text: the algorithm, its version and parameters, the salt and the hash, each
after a dollar sign.

`parse?` judges the form alone. `admits` computes the hash again; what cannot be computed admits no
password.
-/

namespace DurableSession.Password

/-- A password hash taken apart. -/
structure Phc where
  algorithm : List Char
  version : Option Nat
  params : List (List Char × List Char)
  salt : Option (List Char)
  hash : Option (List UInt8)

namespace Phc

/-- Cut a list at every separator. -/
def split (sep : Char) : List Char → List (List Char)
  | [] => [[]]
  | c :: rest =>
    if c = sep then [] :: split sep rest
    else
      match split sep rest with
      | field :: fields => (c :: field) :: fields
      | [] => [[c]]

/-- Lower case letters, digits and hyphens. -/
def isNameChar (c : Char) : Bool := c.isLower || c.isDigit || c = '-'

/-- A name of an algorithm or a parameter. -/
def isName (cs : List Char) : Bool := 1 ≤ cs.length && cs.length ≤ 32 && cs.all isNameChar

/-- What values and salts are made of. -/
def isValueChar (c : Char) : Bool :=
  c.isAlphanum || c = '/' || c = '+' || c = '.' || c = '-'

def isValue (cs : List Char) : Bool := cs.length ≤ 64 && cs.all isValueChar

/-- A number of 32 bits without leading zeros. -/
def decimal? (cs : List Char) : Option Nat :=
  if isValue cs && !(cs.head? = some '0' && 1 < cs.length) then
    match Text.natural? cs with
    | some n => if n < Nat.pow 2 32 then some n else none
    | none => none
  else none

/-- A parameter: a name and a value with one sign between them. -/
def parameter? (cs : List Char) : Option (List Char × List Char) :=
  match split '=' cs with
  | [name, value] => if isName name && isValue value then some (name, value) else none
  | _ => none

/-- Parameters with commas between them. -/
def parameters? (cs : List Char) : Option (List (List Char × List Char)) :=
  if (cs.foldl (fun n c => n + c.utf8Size) 0) ≤ 127 then (split ',' cs).mapM parameter? else none

def salt? (cs : List Char) : Option (List Char) :=
  if 4 ≤ cs.length && isValue cs then some cs else none

/-- A hash of ten to sixty-four bytes. -/
def hash? (cs : List Char) : Option (List UInt8) :=
  match base64? cs with
  | some bytes => if 10 ≤ bytes.length && bytes.length ≤ 64 then some bytes else none
  | none => none

/-- The version, if the next field gives one. -/
def takeVersion : List (List Char) → Option (Option Nat × List (List Char))
  | ('v' :: '=' :: digits) :: rest =>
    if ',' ∈ digits then some (none, ('v' :: '=' :: digits) :: rest)
    else
      match decimal? digits with
      | some n => some (some n, rest)
      | none => none
  | fields => some (none, fields)

/-- The parameters, if the next field gives some. -/
def takeParameters : List (List Char) → Option (List (List Char × List Char) × List (List Char))
  | field :: rest =>
    if '=' ∈ field then
      match parameters? field with
      | some params => some (params, rest)
      | none => none
    else some ([], field :: rest)
  | [] => some ([], [])

/-- The salt and the hash; nothing may follow them. -/
def takeSaltAndHash : List (List Char) → Option (Option (List Char) × Option (List UInt8))
  | [] => some (none, none)
  | [salt] => (salt? salt).map fun s => (some s, none)
  | [salt, hash] =>
    match salt? salt, hash? hash with
    | some s, some h => some (some s, some h)
    | _, _ => none
  | _ => none

/-- Take a password hash apart. -/
def parse? (s : String) : Option Phc :=
  match split '$' s.toList with
  | [] :: algorithm :: fields =>
    if isName algorithm then
      match takeVersion fields with
      | none => none
      | some (version, fields) =>
        match takeParameters fields with
        | none => none
        | some (params, fields) =>
          match takeSaltAndHash fields with
          | none => none
          | some (salt, hash) => some ⟨algorithm, version, params, salt, hash⟩
    else none
  | _ => none

def isPhc (s : String) : Bool := (parse? s).isSome

/-! ### Verifying -/

/-- The variant that an algorithm's name stands for. -/
def variant? (name : List Char) : Option Variant :=
  if name = "argon2d".toList then some .dependent
  else if name = "argon2i".toList then some .independent
  else if name = "argon2id".toList then some .hybrid
  else none

/-- The settings in use when no parameter says otherwise. -/
def defaults (variant : Variant) (version : Nat) : Argon2 :=
  { variant, version, memory := 19456, passes := 2, lanes := 1 }

/-- Bytes in base 64, at most so many. -/
def bounded? (max : Nat) (cs : List Char) : Option (List UInt8) :=
  match base64? cs with
  | some bytes => if bytes.length ≤ max then some bytes else none
  | none => none

/-- Take one parameter into the settings; an unknown one is an error. -/
def configure (a : Argon2) (param : List Char × List Char) : Option Argon2 :=
  match param.1 with
  | ['m'] => (decimal? param.2).map fun n => { a with memory := n }
  | ['t'] => (decimal? param.2).map fun n => { a with passes := n }
  | ['p'] => (decimal? param.2).map fun n => { a with lanes := n }
  | ['k', 'e', 'y', 'i', 'd'] => (bounded? 8 param.2).map fun _ => a
  | ['d', 'a', 't', 'a'] => (bounded? 32 param.2).map fun bytes => { a with data := bytes }
  | _ => none

/-- The settings make sense together. -/
def isUsable (a : Argon2) : Bool :=
  8 ≤ a.memory && 8 * a.lanes ≤ a.memory && 1 ≤ a.passes && 1 ≤ a.lanes && a.lanes < Nat.pow 2 24

/-- The settings that a password hash asks for. -/
def settings? (p : Phc) : Option Argon2 := do
  let variant ← variant? p.algorithm
  let version := p.version.getD 19
  if version = 16 ∨ version = 19 then
    let a ← p.params.foldlM configure (defaults variant version)
    if isUsable a then return a else none
  else none

/-- The password gives the hash; nothing does if the hash cannot be computed. -/
def admits (p : Phc) (password : String) : Bool :=
  match p.settings?, p.salt.bind base64?, p.hash with
  | some a, some salt, some hash =>
    8 ≤ salt.length && a.hash hash.length (Text.utf8 password) salt == hash
  | _, _, _ => false

end Phc

/-- A new hash of a password: the hybrid variant with the default settings, of 32 bytes. -/
def protect (salt : List UInt8) (password : String) : String :=
  let a := Phc.defaults .hybrid 19
  let parameter (name : String) (n : Nat) : String := name ++ "=" ++ toString n
  let settings := ",".intercalate
    [parameter "m" a.memory, parameter "t" a.passes, parameter "p" a.lanes]
  let hash := a.hash 32 (Text.utf8 password) salt
  "$argon2id$v=19$" ++ settings ++ "$" ++ String.ofList (base64Chars salt) ++ "$" ++
    String.ofList (base64Chars hash)

/-- What comes of holding a password against a stored hash. -/
inductive Verification where
  | matching
  | differing
  /-- The stored text is no password hash. -/
  | malformed
deriving DecidableEq, Repr

/-- Hold a password against a stored hash. -/
def check (phc password : String) : Verification :=
  match Phc.parse? phc with
  | none => .malformed
  | some p => if p.admits password then .matching else .differing

end DurableSession.Password
