import DurableSession.Document.Json.Reader

/-!
Blanks, comments, line ends, strings and keys of TOML. Every reader takes the text to be read and
gives what it read and the text behind it, or nothing if the text is not well formed.
-/

namespace DurableSession.Toml

/-- Blank within a line. -/
def isBlank (c : Char) : Bool := c = ' ' || c = '\t'

def skipBlanks (cs : List Char) : List Char := cs.dropWhile isBlank

/-- May stand as it is in a comment or a string: no control character but the tab. -/
def isPlain (c : Char) : Bool := c = '\t' || (32 ≤ c.toNat && c.toNat ≠ 127)

def lineEnd? : List Char → Option (List Char)
  | '\n' :: rest => some rest
  | '\r' :: '\n' :: rest => some rest
  | _ => none

/-- Step over what may stand behind a statement: blanks and a comment, up to the end of the line. -/
def endOfLine? (cs : List Char) : Option (List Char) :=
  let rest := match skipBlanks cs with
    | '#' :: comment => comment.dropWhile isPlain
    | cs => cs
  if rest.isEmpty then some [] else lineEnd? rest

/-- Step over blanks, line ends and comments between the items of a list. -/
def skipGap (inComment : Bool) : List Char → List Char
  | '\r' :: '\n' :: rest => skipGap false rest
  | c :: rest =>
    if c = '\n' then skipGap false rest
    else if inComment then if isPlain c then skipGap true rest else c :: rest
    else if c = '#' then skipGap true rest
    else if isBlank c then skipGap false rest
    else c :: rest
  | [] => []

/-! ### Strings -/

/-- What a backslash and this letter stand for, the numbered forms aside. -/
def escaped? (c : Char) : Option Char :=
  if c = '/' then none else Json.escaped? c

/-- Where the reader of a string with escapes stands. -/
inductive Spot where
  /-- Between characters; `folded` behind a line end that a backslash has taken away. -/
  | text (folded : Bool)
  /-- Behind a backslash. -/
  | escape
  /-- In a numbered escape: digits still due, and their value so far. -/
  | digits (due value : Nat)
  /-- Behind a backslash and blanks, where a line end is due. -/
  | fold

/-- A line end of two characters begins with this one. -/
def opensLineEnd (c : Char) (rest : List Char) : Bool := c = '\r' && rest.head? = some '\n'

/-- How a string of several lines ends: up to two quotes more than the closing three belong to
it. -/
def closeLines (quote : Char) (acc : List Char) (rest : List Char) : Option (String × List Char) :=
  let more := (rest.takeWhile (· = quote)).length
  if more ≤ 4 then
    some (String.ofList (List.replicate (more - 2) quote ++ acc).reverse, rest.drop more)
  else none

/-- Three quotes or more begin with the one in front of this text. -/
def closesLines (quote : Char) (rest : List Char) : Bool :=
  2 ≤ (rest.takeWhile (· = quote)).length

/-- Read a string with escapes to its end; `lines` if it may have several lines. -/
def readEscaped (lines : Bool) (acc : List Char) (spot : Spot) :
    List Char → Option (String × List Char)
  | [] => none
  | c :: rest =>
    match spot with
    | .text folded =>
      if folded && (isBlank c || c = '\n') then readEscaped lines acc (.text true) rest
      else if c = '"' then
        if !lines then some (String.ofList acc.reverse, rest)
        else if closesLines '"' rest then closeLines '"' acc rest
        else readEscaped lines (c :: acc) (.text false) rest
      else if c = '\\' then readEscaped lines acc .escape rest
      else if lines && c = '\n' then readEscaped lines (c :: acc) (.text false) rest
      else if lines && opensLineEnd c rest then readEscaped lines acc (.text folded) rest
      else if isPlain c then readEscaped lines (c :: acc) (.text false) rest
      else none
    | .escape =>
      if c = 'u' then readEscaped lines acc (.digits 4 0) rest
      else if c = 'U' then readEscaped lines acc (.digits 8 0) rest
      else if lines && c = '\n' then readEscaped lines acc (.text true) rest
      else if lines && (isBlank c || opensLineEnd c rest) then readEscaped lines acc .fold rest
      else
        match escaped? c with
        | some e => readEscaped lines (e :: acc) (.text false) rest
        | none => none
    | .digits due value =>
      match Json.hexValue? c with
      | none => none
      | some d =>
        let n := 16 * value + d
        if due ≠ 1 then readEscaped lines acc (.digits (due - 1) n) rest
        else if n.isValidChar then readEscaped lines (Char.ofNat n :: acc) (.text false) rest
        else none
    | .fold =>
      if c = '\n' then readEscaped lines acc (.text true) rest
      else if isBlank c || opensLineEnd c rest then readEscaped lines acc .fold rest
      else none

/-- Read a string without escapes to its end. -/
def readLiteral (lines : Bool) (acc : List Char) : List Char → Option (String × List Char)
  | [] => none
  | c :: rest =>
    if c = '\'' then
      if !lines then some (String.ofList acc.reverse, rest)
      else if closesLines '\'' rest then closeLines '\'' acc rest
      else readLiteral lines (c :: acc) rest
    else if lines && c = '\n' then readLiteral lines (c :: acc) rest
    else if lines && opensLineEnd c rest then readLiteral lines acc rest
    else if isPlain c then readLiteral lines (c :: acc) rest
    else none

/-- A line end at the very front of a string of several lines does not belong to it. -/
def dropFirstLineEnd (cs : List Char) : List Char := (lineEnd? cs).getD cs

/-- Read a string, from its opening quotes. -/
def readString : List Char → Option (String × List Char)
  | '"' :: '"' :: '"' :: rest => readEscaped true [] (.text false) (dropFirstLineEnd rest)
  | '"' :: rest => readEscaped false [] (.text false) rest
  | '\'' :: '\'' :: '\'' :: rest => readLiteral true [] (dropFirstLineEnd rest)
  | '\'' :: rest => readLiteral false [] rest
  | _ => none

/-! ### Keys -/

/-- May stand in a key without quotes. -/
def isKeyChar (c : Char) : Bool := c.isAlphanum || c = '_' || c = '-'

def readKeyPart : List Char → Option (String × List Char)
  | '"' :: rest => readEscaped false [] (.text false) rest
  | '\'' :: rest => readLiteral false [] rest
  | cs =>
    match cs.takeWhile isKeyChar with
    | [] => none
    | key => some (String.ofList key, cs.dropWhile isKeyChar)

/-- How many parts a key can have, and how many lists and records may lie inside each other. -/
def maxDepth : Nat := 79

/-- Read a key of at most so many parts, with the blanks around each; the last part comes apart. -/
def readKey : Nat → List Char → Option (List String × String × List Char)
  | 0, _ => none
  | more + 1, cs =>
    match readKeyPart (skipBlanks cs) with
    | none => none
    | some (part, rest) =>
      match skipBlanks rest with
      | '.' :: rest => (readKey more rest).map fun (path, key, rest) => (part :: path, key, rest)
      | rest => some ([], part, rest)

end DurableSession.Toml
