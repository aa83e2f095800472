/-!
The hash function BLAKE2b without a key, for digests of one to sixty-four bytes.
-/

namespace DurableSession.Password

/-- A list of words of 64 bits. -/
abbrev Words := Array UInt64

/-- A word of a list; nought behind its end. -/
def word (ws : Words) (i : Nat) : UInt64 := ws.getD i 0

/-- Rotate to the right. -/
def rotateRight (w : UInt64) (n : UInt64) : UInt64 := (w >>> n) ||| (w <<< (64 - n))

/-- The bytes of a number, lowest first. -/
def littleEndian (n : Nat) : Nat → List UInt8
  | 0 => []
  | count + 1 => UInt8.ofNat (n % 256) :: littleEndian (n / 256) count

/-- The number that bytes spell, lowest first. -/
def ofLittleEndian (bs : List UInt8) : Nat := bs.foldr (fun b n => b.toNat + 256 * n) 0

/-- The first `count` words of eight bytes each; bytes that are missing are nought. -/
def wordsOf : Nat → List UInt8 → Words → Words
  | 0, _, acc => acc
  | count + 1, bs, acc =>
    wordsOf count (bs.drop 8) (acc.push (UInt64.ofNat (ofLittleEndian (bs.take 8))))

def bytesOf (ws : Words) : List UInt8 := ws.toList.flatMap fun w => littleEndian w.toNat 8

namespace Blake2b

/-- The initial chaining value. -/
def initial : Words := #[0x6a09e667f3bcc908, 0xbb67ae8584caa73b, 0x3c6ef372fe94f82b,
  0xa54ff53a5f1d36f1, 0x510e527fade682d1, 0x9b05688c2b3e6c1f, 0x1f83d9abfb41bd6b,
  0x5be0cd19137e2179]

/-- The order in which each round takes the words of the message. -/
def schedule : List (List Nat) := [
  [0, 1, 2, 3, 4, 5, 6, 7, 8, 9, 10, 11, 12, 13, 14, 15],
  [14, 10, 4, 8, 9, 15, 13, 6, 1, 12, 0, 2, 11, 7, 5, 3],
  [11, 8, 12, 0, 5, 2, 15, 13, 10, 14, 3, 6, 7, 1, 9, 4],
  [7, 9, 3, 1, 13, 12, 11, 14, 2, 6, 5, 10, 4, 0, 15, 8],
  [9, 0, 5, 7, 2, 4, 10, 15, 14, 1, 11, 12, 6, 8, 3, 13],
  [2, 12, 6, 10, 0, 11, 8, 3, 4, 13, 7, 5, 15, 14, 1, 9],
  [12, 5, 1, 15, 14, 13, 4, 10, 0, 7, 6, 3, 9, 2, 8, 11],
  [13, 11, 7, 14, 12, 1, 3, 9, 5, 0, 15, 4, 8, 6, 2, 10],
  [6, 15, 14, 9, 11, 3, 0, 8, 12, 2, 13, 7, 1, 4, 10, 5],
  [10, 2, 8, 4, 7, 6, 1, 5, 15, 11, 9, 14, 3, 12, 13, 0],
  [0, 1, 2, 3, 4, 5, 6, 7, 8, 9, 10, 11, 12, 13, 14, 15],
  [14, 10, 4, 8, 9, 15, 13, 6, 1, 12, 0, 2, 11, 7, 5, 3]]

/-- The columns and diagonals of the working state, in the order in which they are mixed. -/
def quarters : List (Nat × Nat × Nat × Nat) :=
  [(0, 4, 8, 12), (1, 5, 9, 13), (2, 6, 10, 14), (3, 7, 11, 15),
    (0, 5, 10, 15), (1, 6, 11, 12), (2, 7, 8, 13), (3, 4, 9, 14)]

/-- Mix two words of the message into four words of the working state. -/
def mix (v : Words) (q : Nat × Nat × Nat × Nat) (x y : UInt64) : Words :=
  let (ia, ib, ic, id) := q
  let a := word v ia + word v ib + x
  let d := rotateRight (word v id ^^^ a) 32
  let c := word v ic + d
  let b := rotateRight (word v ib ^^^ c) 24
  let a := a + b + y
  let d := rotateRight (d ^^^ a) 16
  let c := c + d
  let b := rotateRight (b ^^^ c) 63
  (((v.setIfInBounds ia a).setIfInBounds ib b).setIfInBounds ic c).setIfInBounds id d

/-- One round: every quarter takes two words of the message. -/
def round (m v : Words) : List (Nat × Nat × Nat × Nat) → List Nat → Words
  | q :: qs, i :: j :: rest => round m (mix v q (word m i) (word m j)) qs rest
  | _, _ => v

/-- Fold a block of the message into the chaining value; `count` bytes were read up to its end. -/
def compress (h : Words) (block : List UInt8) (count : Nat) (last : Bool) : Words :=
  let m := wordsOf 16 block #[]
  let v := h ++ initial
  let v := v.setIfInBounds 12 (word v 12 ^^^ UInt64.ofNat (count % Nat.pow 2 64))
  let v := v.setIfInBounds 13 (word v 13 ^^^ UInt64.ofNat (count / Nat.pow 2 64))
  let v := if last then v.setIfInBounds 14 (~~~ word v 14) else v
  let v := schedule.foldl (fun v order => round m v quarters order) v
  Array.ofFn fun i : Fin 8 => word h i ^^^ word v i ^^^ word v (i + 8)

/-- Fold a message into the chaining value block by block; the last block is marked. -/
def absorb (h : Words) (count : Nat) (message : List UInt8) : Words :=
  if message.length ≤ 128 then compress h message (count + message.length) true
  else absorb (compress h (message.take 128) (count + 128) false) (count + 128) (message.drop 128)
termination_by message.length
decreasing_by
  simp only [List.length_drop]
  omega

/-- The digest of a message in `size` bytes. -/
def digest (size : Nat) (message : List UInt8) : List UInt8 :=
  let h := initial.setIfInBounds 0 (word initial 0 ^^^ 0x01010000 ^^^ UInt64.ofNat size)
  (bytesOf (absorb h 0 message)).take size

end Blake2b

end DurableSession.Password
