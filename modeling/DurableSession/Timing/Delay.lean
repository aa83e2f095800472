/-!
Ranges of delays, and drawing a delay from a source of random words.

A word is stretched over the range by a product of double width, whose upper half is the place in
the range. Words whose lower half lies past the last whole copy of the range are passed over, so
that every place is hit by equally many words.
-/

namespace DurableSession.Timing

/-- Delays from `lower` to `upper` milliseconds, both included. -/
structure DelayRange where
  lower : UInt64
  upper : UInt64
  ordered : lower ≤ upper

namespace DelayRange

/-- A range with the given ends, if they are in order. -/
def ofBounds? (lower upper : UInt64) : Option DelayRange :=
  if h : lower ≤ upper then some ⟨lower, upper, h⟩ else none

/-- How many delays there are; nought stands for all words. -/
def span (r : DelayRange) : Nat := (r.upper.toNat - r.lower.toNat + 1) % Nat.pow 2 64

/-- The largest lower half that is accepted: the span, doubled while it fits a word, less one. -/
def zone (r : DelayRange) : Nat := r.span * Nat.pow 2 (63 - r.span.log2) - 1

/-- The delay that a word stands for, unless the word is passed over. -/
def accept? (r : DelayRange) (word : UInt64) : Option UInt64 :=
  if r.span = 0 then some word
  else
    let product := word.toNat * r.span
    if product % Nat.pow 2 64 ≤ r.zone then some (r.lower + UInt64.ofNat (product / Nat.pow 2 64))
      else none

end DelayRange

/-- A source of words: those at hand first, then counting up from `next`. -/
structure WordSource where
  ready : List UInt64 := []
  next : Nat := 0

namespace WordSource

/-- Take a word. -/
def take (s : WordSource) : UInt64 × WordSource :=
  match s.ready with
  | w :: rest => (w, { s with ready := rest })
  | [] => (UInt64.ofNat s.next, { s with next := s.next + 1 })

end WordSource

namespace DelayRange

/-- The first delay accepted among at most `fuel` words. -/
def draw (r : DelayRange) : Nat → WordSource → UInt64 × WordSource
  | 0, s => (r.lower, s)
  | fuel + 1, s =>
    let (word, rest) := s.take
    match r.accept? word with
    | some delay => (delay, rest)
    | none => draw r fuel rest

theorem accept?_zero (r : DelayRange) : (r.accept? 0).isSome := by
  unfold accept?
  split
  · rfl
  · simp

/--
Draw a delay. After the words at hand, any `2 ^ 64` words counted up hold nought, which every range
accepts, so the fuel is never used up.
-/
def sample (r : DelayRange) (s : WordSource) : UInt64 × WordSource :=
  r.draw (s.ready.length + Nat.pow 2 64) s

end DelayRange

end DurableSession.Timing
