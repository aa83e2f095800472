import DurableSession.Password.Blake2b

/-!
The password hash Argon2 in its three variants and two versions.

The memory is a matrix of blocks, one row a lane, cut into four slices. Every block comes from its
predecessor and from a block chosen among those that are ready; how it is chosen depends on the
variant.
-/

namespace DurableSession.Password

/-- How the blocks to look back at are chosen. -/
inductive Variant where
  /-- By the contents of the memory. -/
  | dependent
  /-- By counters alone. -/
  | independent
  /-- By counters in the first half of the first pass, by contents after it. -/
  | hybrid
deriving DecidableEq, Repr

/-- The number of a variant in the first digest. -/
def Variant.number : Variant → Nat
  | dependent => 0
  | independent => 1
  | hybrid => 2

/-- What a hash is made with. -/
structure Argon2 where
  variant : Variant
  /-- In versions before the nineteenth later passes overwrite blocks in place of mixing into
  them. -/
  version : Nat
  /-- Blocks of memory. -/
  memory : Nat
  passes : Nat
  lanes : Nat
  /-- Data that goes into the hash beside password and salt. -/
  data : List UInt8 := []

namespace Argon2

/-- Words of a block. -/
def blockWords : Nat := 128

/-- A digest of any size, made of digests of at most 64 bytes; `pieces` more than one are due. -/
def longTail : Nat → Nat → List UInt8 → List UInt8
  | 0, size, previous => Blake2b.digest size previous
  | pieces + 1, size, previous =>
    let next := Blake2b.digest 64 previous
    next.take 32 ++ longTail pieces (size - 32) next

/-- A digest of any size. -/
def longDigest (size : Nat) (message : List UInt8) : List UInt8 :=
  let message := littleEndian size 4 ++ message
  if size ≤ 64 then Blake2b.digest size message
  else
    let first := Blake2b.digest 64 message
    let pieces := (size + 31) / 32 - 3
    first.take 32 ++ longTail pieces (size - 32) first

/-- A list with its length in front. -/
def sized (bs : List UInt8) : List UInt8 := littleEndian bs.length 4 ++ bs

/-- The digest of all that goes into the hash. -/
def firstDigest (a : Argon2) (size : Nat) (password salt : List UInt8) : List UInt8 :=
  let numbers := [a.lanes, size, a.memory, a.passes, a.version, a.variant.number]
  Blake2b.digest 64 (numbers.flatMap (littleEndian · 4) ++ sized password ++ sized salt ++
    sized [] ++ sized a.data)

/-- A product of the lower halves is added, so that no multiplier is idle. -/
def addProduct (x y : UInt64) : UInt64 := x + y + 2 * (x &&& 0xFFFFFFFF) * (y &&& 0xFFFFFFFF)

/-- Mix four words of a block. -/
def mix (b : Words) (i j k l : Nat) : Words :=
  let x := addProduct (word b i) (word b j)
  let w := rotateRight (word b l ^^^ x) 32
  let z := addProduct (word b k) w
  let y := rotateRight (word b j ^^^ z) 24
  let x := addProduct x y
  let w := rotateRight (w ^^^ x) 16
  let z := addProduct z w
  let y := rotateRight (y ^^^ z) 63
  (((b.setIfInBounds i x).setIfInBounds j y).setIfInBounds k z).setIfInBounds l w

/-- Mix sixteen words: the `n`th of them stands at `start + n / 2 * step + n % 2`. -/
def permute (start step : Nat) (b : Words) : Words :=
  Blake2b.quarters.foldl
    (fun b q =>
      let place (n : Nat) := start + n / 2 * step + n % 2
      mix b (place q.1) (place q.2.1) (place q.2.2.1) (place q.2.2.2)) b

/-- Two blocks, word by word. -/
def xorBlocks (a b : Words) : Words := Array.zipWith (· ^^^ ·) a b

/-- Compress two blocks into one: mix the rows, then the columns. -/
def compress (a b : Words) : Words :=
  let r := xorBlocks a b
  let z := (List.range 8).foldl (fun z i => permute (16 * i) 2 z) r
  let z := (List.range 8).foldl (fun z i => permute (2 * i) 16 z) z
  xorBlocks r z

/-- Blocks of a slice of a lane. -/
def segmentLength (a : Argon2) : Nat := a.memory / (4 * a.lanes)

/-- Blocks of a lane. -/
def laneLength (a : Argon2) : Nat := 4 * a.segmentLength

/-- The memory, lane after lane. -/
abbrev Memory := Array Words

def blockAt (a : Argon2) (m : Memory) (lane column : Nat) : Words :=
  m.getD (lane * a.laneLength + column) #[]

/-- The first two blocks of every lane. -/
def initialMemory (a : Argon2) (seed : List UInt8) : Memory :=
  let empty : Memory := Array.replicate (a.lanes * a.laneLength) (Array.replicate blockWords 0)
  (List.range a.lanes).foldl
    (fun m lane =>
      [0, 1].foldl
        (fun m column =>
          let bytes := longDigest 1024 (seed ++ littleEndian column 4 ++ littleEndian lane 4)
          m.setIfInBounds (lane * a.laneLength + column) (wordsOf blockWords bytes #[])) m) empty

/-- A slice of a lane in a pass. -/
structure Segment where
  pass : Nat
  slice : Nat
  lane : Nat

/-- The blocks to look back at are chosen by counters. -/
def Segment.byCounters (s : Segment) (v : Variant) : Bool :=
  match v with
  | .dependent => false
  | .independent => true
  | .hybrid => s.pass = 0 && s.slice < 2

/-- The `n`th block of pseudo-random words, counted from one, for choosing by counters. -/
def counterBlock (a : Argon2) (s : Segment) (n : Nat) : Words :=
  let zero : Words := Array.replicate blockWords 0
  let numbers := [s.pass, s.lane, s.slice, a.lanes * a.laneLength, a.passes, a.variant.number, n]
  let input : Words :=
    (numbers.map UInt64.ofNat).toArray ++ Array.replicate (blockWords - numbers.length) (0 : UInt64)
  compress zero (compress zero input)

/-- The block that a pseudo-random word chooses for the block at `index` of a segment. -/
def choose (a : Argon2) (s : Segment) (index : Nat) (random : UInt64) : Nat × Nat :=
  let low := (random &&& 0xFFFFFFFF).toNat
  let high := (random >>> 32).toNat
  let lane := if s.pass = 0 ∧ s.slice = 0 then s.lane else high % a.lanes
  let own := lane = s.lane
  let back := if index = 0 then 1 else 0
  let area :=
    if s.pass = 0 then
      if own then s.slice * a.segmentLength + index - 1 else s.slice * a.segmentLength - back
    else if own then a.laneLength - a.segmentLength + index - 1
    else a.laneLength - a.segmentLength - back
  let square := low * low / Nat.pow 2 32
  let offset := area - 1 - area * square / Nat.pow 2 32
  let start := if s.pass = 0 ∨ s.slice = 3 then 0 else (s.slice + 1) * a.segmentLength
  (lane, (start + offset) % a.laneLength)

/-- Fill the block at `index` of a segment; `counters` is the block of words in use for choosing. -/
def fillBlock (a : Argon2) (s : Segment) (counters : Words) (m : Memory) (index : Nat) : Memory :=
  let column := s.slice * a.segmentLength + index
  let previous := a.blockAt m s.lane (if column = 0 then a.laneLength - 1 else column - 1)
  let random :=
    if s.byCounters a.variant then word counters (index % blockWords) else word previous 0
  let (lane, place) := a.choose s index random
  let fresh := compress previous (a.blockAt m lane place)
  let block :=
    if s.pass = 0 ∨ a.version < 19 then fresh else xorBlocks fresh (a.blockAt m s.lane column)
  m.setIfInBounds (s.lane * a.laneLength + column) block

/-- Fill the blocks of a segment from `index` on. -/
def fillFrom (a : Argon2) (s : Segment) : Nat → Nat → Words → Memory → Memory
  | 0, _, _, m => m
  | left + 1, index, counters, m =>
    let counters :=
      if s.byCounters a.variant && (index % blockWords = 0 || counters.isEmpty) then
        a.counterBlock s (index / blockWords + 1)
      else counters
    fillFrom a s left (index + 1) counters (a.fillBlock s counters m index)

/-- Fill a segment; the first two blocks of a lane are there from the beginning. -/
def fillSegment (a : Argon2) (m : Memory) (s : Segment) : Memory :=
  let first := if s.pass = 0 ∧ s.slice = 0 then 2 else 0
  a.fillFrom s (a.segmentLength - first) first #[] m

/-- All segments in the order in which they are filled. -/
def segments (a : Argon2) : List Segment :=
  (List.range a.passes).flatMap fun pass =>
    (List.range 4).flatMap fun slice =>
      (List.range a.lanes).map fun lane => ⟨pass, slice, lane⟩

/-- The hash of a password and a salt in `size` bytes. -/
def hash (a : Argon2) (size : Nat) (password salt : List UInt8) : List UInt8 :=
  let m := a.initialMemory (a.firstDigest size password salt)
  let m := a.segments.foldl a.fillSegment m
  let last := (List.range a.lanes).foldl
    (fun b lane => xorBlocks b (a.blockAt m lane (a.laneLength - 1)))
    (Array.replicate blockWords 0)
  longDigest size (bytesOf last)

end Argon2

end DurableSession.Password
