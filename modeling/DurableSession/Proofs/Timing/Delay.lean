import Mathlib.Algebra.Order.Floor.Div
import Mathlib.Data.FinEnum
import Mathlib.Data.Finset.Card
import Mathlib.Algebra.BigOperators.Group.Finset.Basic
import Mathlib.Order.Interval.Finset.Nat
import DurableSession.Timing.Delay

/-!
Drawing a delay: every delay of a range is as likely as any other.

A word `w` stands for the place `w * span / 2 ^ 64` in the range, and it is accepted if the
remainder of that division is below `span * share`, where `share` is a power of two. The words that
are accepted for one place are then those whose multiples of the span fall in a window of length
`span * share`, and there are `share` of them wherever the window lies. Main statement:
`DelayRange.fair`.
-/

namespace DurableSession.Timing

/-! ### Words of a source -/

namespace WordSource

def word (s : WordSource) : Nat → UInt64
  | 0 => s.take.1
  | n + 1 => s.take.2.word n

def skip (s : WordSource) : Nat → WordSource
  | 0 => s
  | n + 1 => s.take.2.skip n

variable {n : Nat}

theorem word_of_ready {l : List UInt64} {next : Nat} (h : n < l.length) :
    word ⟨l, next⟩ n = l[n] := by
  induction n generalizing l with
  | zero =>
    cases l with
    | nil => simp at h
    | cons w l => rfl
  | succ n ih =>
    cases l with
    | nil => simp at h
    | cons w l => exact ih (Nat.lt_of_succ_lt_succ h)

theorem skip_ready (l : List UInt64) (next : Nat) : skip ⟨l, next⟩ l.length = ⟨[], next⟩ := by
  induction l with
  | nil => rfl
  | cons w l ih => exact ih

theorem word_nil (next n : Nat) : word ⟨[], next⟩ n = UInt64.ofNat (next + n) := by
  induction n generalizing next with
  | zero => rfl
  | succ n ih =>
    calc word ⟨[], next⟩ (n + 1) = word ⟨[], next + 1⟩ n := rfl
      _ = UInt64.ofNat (next + 1 + n) := ih (next + 1)
      _ = UInt64.ofNat (next + (n + 1)) := by rw [Nat.add_right_comm, Nat.add_assoc]

theorem word_ready_add (l : List UInt64) (next n : Nat) :
    word ⟨l, next⟩ (l.length + n) = UInt64.ofNat (next + n) := by
  induction l with
  | nil =>
    rw [List.length_nil, Nat.zero_add]
    exact word_nil next n
  | cons w l ih =>
    rw [List.length_cons, Nat.add_right_comm]
    exact ih

/-- The word nought comes up before the fuel of a draw is used up. -/
theorem exists_word_eq_zero (s : WordSource) :
    ∃ n < s.ready.length + UInt64.size, s.word n = 0 := by
  obtain ⟨l, next⟩ := s
  have hpos : 0 < UInt64.size := by decide
  have hlt : next % UInt64.size < UInt64.size := Nat.mod_lt next hpos
  refine ⟨l.length + (UInt64.size - next % UInt64.size) % UInt64.size,
    Nat.add_lt_add_left (Nat.mod_lt _ hpos) _, ?_⟩
  rw [word_ready_add]
  apply UInt64.toNat_inj.1
  have hmod : (next + (UInt64.size - next % UInt64.size) % UInt64.size) % UInt64.size = 0 := by
    rw [Nat.add_mod_mod, ← Nat.mod_add_mod, Nat.add_sub_cancel' hlt.le, Nat.mod_self]
  exact (UInt64.toNat_ofNat' ..).trans hmod

end WordSource

namespace DelayRange

variable {r : DelayRange} {w d : UInt64} {n : Nat}

/-! ### What a word stands for -/

/-- How many words stand for each delay. -/
def share (r : DelayRange) : Nat := if r.span = 0 then 1 else Nat.pow 2 (63 - r.span.log2)

/-- How many delays there are. -/
def size (r : DelayRange) : Nat := r.upper.toNat - r.lower.toNat + 1

theorem size_le (r : DelayRange) : r.size ≤ UInt64.size := by
  have hlt := r.upper.toNat_lt_size
  unfold size
  omega

theorem span_eq (r : DelayRange) : r.span = r.size % UInt64.size := rfl

/-- The span counts the delays, unless they are all the words. -/
theorem span_of_ne_zero (h : r.span ≠ 0) : r.span = r.size := by
  rcases r.size_le.lt_or_eq with hlt | heq
  · exact Nat.mod_eq_of_lt hlt
  · exact absurd ((span_eq r).trans (by rw [heq, Nat.mod_self])) h

theorem size_of_span_eq_zero (h : r.span = 0) : r.size = UInt64.size := by
  rcases r.size_le.lt_or_eq with hlt | heq
  · have hpos : 0 < r.size := Nat.succ_pos _
    rw [span_eq, Nat.mod_eq_of_lt hlt] at h
    omega
  · exact heq

theorem zone_add_one (h : r.span ≠ 0) : r.zone + 1 = r.span * r.share := by
  have hpos : 0 < r.span * Nat.pow 2 (63 - r.span.log2) :=
    Nat.mul_pos (Nat.pos_of_ne_zero h) (Nat.pow_pos (by decide))
  rw [zone, share, if_neg h]
  omega

/-- The whole range has at least half of the words, and at most all. -/
theorem share_bounds (r : DelayRange) :
    UInt64.size ≤ 2 * (r.size * r.share) ∧ r.size * r.share ≤ UInt64.size := by
  by_cases h : r.span = 0
  · rw [size_of_span_eq_zero h, share, if_pos h]
    decide
  · have hlt : r.span < Nat.pow 2 64 := Nat.mod_lt _ (by decide)
    have hlog : r.span.log2 < 64 := (Nat.log2_lt h).2 hlt
    have hlower : 2 ^ r.span.log2 ≤ r.span := Nat.log2_self_le h
    have hupper : r.span < 2 ^ (r.span.log2 + 1) := Nat.lt_log2_self
    have hhalf : 2 ^ r.span.log2 * 2 ^ (63 - r.span.log2) = 2 ^ 63 := by
      rw [← Nat.pow_add]
      congr 1
      omega
    have hfull : 2 ^ (r.span.log2 + 1) * 2 ^ (63 - r.span.log2) = 2 ^ 64 := by
      rw [← Nat.pow_add]
      congr 1
      omega
    rw [← span_of_ne_zero h, share, if_neg h]
    constructor
    · calc UInt64.size = 2 * (2 ^ r.span.log2 * 2 ^ (63 - r.span.log2)) := by rw [hhalf]; rfl
        _ ≤ 2 * (r.span * 2 ^ (63 - r.span.log2)) :=
          Nat.mul_le_mul_left 2 (Nat.mul_le_mul_right _ hlower)
    · calc r.span * 2 ^ (63 - r.span.log2) ≤ 2 ^ (r.span.log2 + 1) * 2 ^ (63 - r.span.log2) :=
          Nat.mul_le_mul_right _ hupper.le
        _ = UInt64.size := hfull

/-- The place in the range that a word stands for. -/
def place (r : DelayRange) (w : UInt64) : Nat := w.toNat * r.size / UInt64.size

theorem place_lt (r : DelayRange) (w : UInt64) : r.place w < r.size := by
  have hpos : 0 < r.size := Nat.succ_pos _
  exact Nat.div_lt_of_lt_mul (Nat.mul_lt_mul_of_pos_right w.toNat_lt_size hpos)

theorem toNat_lower_le (r : DelayRange) :
    r.lower.toNat ≤ r.upper.toNat := UInt64.le_iff_toNat_le.1 r.ordered

/-- A place in the range is added to its lower end without wrapping. -/
theorem toNat_lower_add {j : Nat} (h : j < r.size) :
    (r.lower + UInt64.ofNat j).toNat = r.lower.toNat + j := by
  have hordered := r.toNat_lower_le
  have hupper := r.upper.toNat_lt_size
  have hle : r.lower.toNat + j < UInt64.size := by
    unfold size at h
    omega
  have hj : j < UInt64.size := by omega
  rw [UInt64.toNat_add, UInt64.toNat_ofNat', Nat.mod_eq_of_lt hj, Nat.mod_eq_of_lt hle]

/-- **What a word stands for**, and when it is accepted. -/
theorem accept?_eq_some_iff : r.accept? w = some d ↔
    w.toNat * r.size % UInt64.size < r.size * r.share ∧ d.toNat = r.lower.toNat + r.place w := by
  by_cases h : r.span = 0
  · have hsize := size_of_span_eq_zero h
    have hlower : r.lower.toNat = 0 := by
      have hordered := r.toNat_lower_le
      have hupper := r.upper.toNat_lt_size
      unfold size at hsize
      omega
    have hpos : 0 < UInt64.size := by decide
    rw [accept?, if_pos h, share, if_pos h, place, hsize, hlower, Nat.mul_mod_left,
      Nat.mul_div_cancel _ hpos, Nat.zero_add, Option.some_inj, eq_comm, UInt64.toNat_inj]
    simp [hpos]
  · have hspan := span_of_ne_zero h
    have hzone : ∀ m, m ≤ r.zone ↔ m < r.size * r.share := by
      intro m
      rw [← hspan, ← zone_add_one h, Nat.lt_succ_iff]
    have hplace : w.toNat * r.span / Nat.pow 2 64 = r.place w := by rw [hspan]; rfl
    rw [accept?, if_neg h]
    dsimp only
    rw [hplace, hspan, ← toNat_lower_add (r.place_lt w), UInt64.toNat_inj]
    by_cases hm : w.toNat * r.size % UInt64.size < r.size * r.share
    · rw [if_pos ((hzone _).2 hm)]
      simp [hm, eq_comm]
    · rw [if_neg (mt (hzone _).1 hm)]
      simp [hm]

theorem mem_of_accept? (h : r.accept? w = some d) : r.lower ≤ d ∧ d ≤ r.upper := by
  have hordered := r.toNat_lower_le
  have hplace := r.place_lt w
  have hd := (accept?_eq_some_iff.1 h).2
  rw [UInt64.le_iff_toNat_le, UInt64.le_iff_toNat_le]
  unfold size at hplace
  omega

/-! ### How many words stand for a delay -/

def wordsFor (r : DelayRange) (d : UInt64) :
    Finset UInt64 := Finset.univ.filter fun w => r.accept? w = some d

def accepted (r : DelayRange) : Finset UInt64 := Finset.univ.filter fun w => (r.accept? w).isSome

/-- The multiples of `m` in a window of length `m * k` are those of `k` numbers in a row. -/
theorem multiple_mem_window {m k a v : Nat} (hm : 0 < m) :
    a ≤ m * v ∧ m * v < a + m * k ↔ v ∈ Finset.Ico (a ⌈/⌉ m) (a ⌈/⌉ m + k) := by
  have hceil : (a + m * k) ⌈/⌉ m = a ⌈/⌉ m + k := by
    have hcomm : a + m * k + m - 1 = a + m - 1 + m * k := by omega
    rw [Nat.ceilDiv_eq_add_pred_div, Nat.ceilDiv_eq_add_pred_div, hcomm,
      Nat.add_mul_div_left _ _ hm]
  rw [Finset.mem_Ico, ceilDiv_le_iff_le_mul hm, ← hceil, ← not_le, ← not_le,
    ceilDiv_le_iff_le_mul hm]

/-- The words for a place are as many numbers in a row as the share says. -/
theorem mem_wordsFor {j : Nat} (hj : j < r.size) (hd : d.toNat = r.lower.toNat + j) :
    w ∈ r.wordsFor d ↔
      w.toNat ∈ Finset.Ico ((j * UInt64.size) ⌈/⌉ r.size)
        ((j * UInt64.size) ⌈/⌉ r.size + r.share) := by
  have hpos : 0 < r.size := Nat.succ_pos _
  have hfit := (share_bounds r).2
  rw [wordsFor, Finset.mem_filter_univ, accept?_eq_some_iff, hd, Nat.add_left_cancel_iff, place,
    ← multiple_mem_window hpos, Nat.mul_comm r.size w.toNat]
  generalize w.toNat * r.size = m
  generalize r.size * r.share = k at hfit ⊢
  constructor
  · rintro ⟨hm, rfl⟩
    have hdiv := Nat.div_add_mod' m UInt64.size
    omega
  · rintro ⟨hle, hlt⟩
    have hdiv : m / UInt64.size = j := Nat.div_eq_of_lt_le hle (by rw [Nat.succ_mul]; omega)
    have hmod := Nat.div_add_mod' m UInt64.size
    rw [hdiv] at hmod
    exact ⟨by omega, hdiv.symm⟩

/-- **Every delay has its share** of the words. -/
theorem card_wordsFor (hlower : r.lower ≤ d) (hupper : d ≤ r.upper) :
    (r.wordsFor d).card = r.share := by
  rw [UInt64.le_iff_toNat_le] at hlower hupper
  obtain ⟨j, hd⟩ := Nat.exists_eq_add_of_le hlower
  have hj : j < r.size := by
    unfold size
    omega
  have hpos : 0 < r.size := Nat.succ_pos _
  -- no number in the row is too large for a word
  have hword {v : Nat} (hv : v ∈ Finset.Ico ((j * UInt64.size) ⌈/⌉ r.size)
    ((j * UInt64.size) ⌈/⌉ r.size + r.share)) :
      v < UInt64.size := by
    have hlt := ((multiple_mem_window hpos).2 hv).2
    have hfit := (share_bounds r).2
    apply Nat.lt_of_mul_lt_mul_left (a := r.size)
    calc r.size * v < j * UInt64.size + r.size * r.share := hlt
      _ ≤ j * UInt64.size + UInt64.size := Nat.add_le_add_left hfit _
      _ = (j + 1) * UInt64.size := (Nat.succ_mul _ _).symm
      _ ≤ r.size * UInt64.size := Nat.mul_le_mul_right _ hj
  have hcard : (r.wordsFor d).card =
      (Finset.Ico ((j * UInt64.size) ⌈/⌉ r.size) ((j * UInt64.size) ⌈/⌉ r.size + r.share)).card :=
        by
    refine Finset.card_nbij UInt64.toNat ?_ ?_ ?_
    · intro w hw
      exact (mem_wordsFor hj hd).1 hw
    · intro w _ w' _ h
      exact UInt64.toNat_inj.1 h
    · intro v hv
      have htoNat : (UInt64.ofNat v).toNat = v :=
        (UInt64.toNat_ofNat' ..).trans (Nat.mod_eq_of_lt (hword hv))
      exact ⟨UInt64.ofNat v, (mem_wordsFor hj hd).2 (htoNat.symm ▸ hv), htoNat⟩
  rw [hcard, Nat.card_Ico, Nat.add_sub_cancel_left]

/-- The words that are accepted are those for the delays, place by place. -/
theorem card_accepted (r : DelayRange) : r.accepted.card = r.size * r.share := by
  have hfiber : ∀ j ∈ Finset.range r.size, (r.accepted.filter fun w => r.place w = j).card =
      r.share := by
    intro j hj
    have hj := Finset.mem_range.1 hj
    have hd := toNat_lower_add hj
    have hmem : r.lower ≤ r.lower + UInt64.ofNat j ∧ r.lower + UInt64.ofNat j ≤ r.upper := by
      have hordered := r.toNat_lower_le
      rw [UInt64.le_iff_toNat_le, UInt64.le_iff_toNat_le, hd]
      unfold size at hj
      omega
    rw [← card_wordsFor hmem.1 hmem.2]
    refine congrArg Finset.card (Finset.ext fun w => ?_)
    simp only [accepted, wordsFor, Finset.mem_filter, Finset.mem_univ, true_and,
      Option.isSome_iff_exists, accept?_eq_some_iff, hd, Nat.add_left_cancel_iff]
    constructor
    · rintro ⟨⟨d, hm, -⟩, hplace⟩
      exact ⟨hm, hplace.symm⟩
    · rintro ⟨hm, hplace⟩
      exact ⟨⟨r.lower + UInt64.ofNat (r.place w), hm, toNat_lower_add (r.place_lt w)⟩, hplace.symm⟩
  have hmaps : Set.MapsTo r.place (r.accepted : Set UInt64) (Finset.range r.size : Set Nat) := by
    intro w _
    exact Finset.mem_coe.2 (Finset.mem_range.2 (r.place_lt w))
  rw [Finset.card_eq_sum_card_fiberwise hmaps, Finset.sum_congr rfl hfiber, Finset.sum_const,
    Finset.card_range, smul_eq_mul]

/-! ### Computing in words -/

/-- How many leading zeros a word has. -/
def leadingZeros (w : UInt64) : UInt64 := .ofBitVec w.toBitVec.clz

def upperHalf (a b : UInt64) : UInt64 := .ofNat (a.toNat * b.toNat / UInt64.size)

/-- How a word is judged by computing in words, where everything is taken modulo `2 ^ 64`. -/
def judge (lower upper w : UInt64) : Option UInt64 :=
  let range := upper - lower + 1
  let zone := (range <<< leadingZeros range) - 1
  if range = 0 then some w
  else if w * range ≤ zone then some (lower + upperHalf w range) else none

theorem toNat_width (r : DelayRange) : (r.upper - r.lower + 1).toNat = r.span := by
  rw [UInt64.toNat_add, UInt64.toNat_sub_of_le _ _ r.ordered]
  rfl

theorem toNat_leadingZeros (h : w ≠ 0) : (leadingZeros w).toNat = 63 - w.toNat.log2 := by
  have hne : w.toBitVec ≠ 0#64 := fun he => h (UInt64.toBitVec_inj.1 he)
  have hlt : w.toBitVec.clz.toNat < 64 := BitVec.lt_def.1 (BitVec.clz_lt_iff_ne_zero.2 hne)
  have hlower : 2 ^ (64 - 1 - w.toBitVec.clz.toNat) ≤ w.toNat :=
    BitVec.two_pow_sub_clz_le_toNat_of_ne_zero (by decide) hne
  have hupper : w.toNat < 2 ^ (64 - w.toBitVec.clz.toNat) := BitVec.toNat_lt_two_pow_sub_clz
  have hzero : w.toNat ≠ 0 := fun he => h (UInt64.toNat_inj.1 he)
  have hlog : w.toNat.log2 = 63 - w.toBitVec.clz.toNat := by
    refine (Nat.log2_eq_iff hzero).2 ⟨hlower, ?_⟩
    rwa [← Nat.sub_add_comm (Nat.le_of_lt_succ hlt)]
  have htoNat : (leadingZeros w).toNat = w.toBitVec.clz.toNat := rfl
  omega

/-- **The judgement in words** agrees. -/
theorem accept?_eq_judge (r : DelayRange) (w : UInt64) : r.accept? w = judge r.lower r.upper w := by
  have hwidth := toNat_width r
  unfold judge
  dsimp only
  generalize r.upper - r.lower + 1 = range at hwidth
  have hzero : range = 0 ↔ r.span = 0 := by rw [← hwidth, ← UInt64.toNat_inj]; rfl
  by_cases h : r.span = 0
  · rw [accept?, if_pos h, if_pos (hzero.2 h)]
  · have hzone : ((range <<< leadingZeros range) - 1).toNat = r.zone := by
      have hlt : r.zone < UInt64.size := by
        have hfit := (share_bounds r).2
        rw [← span_of_ne_zero h, ← zone_add_one h] at hfit
        omega
      have hshift : (range <<< leadingZeros range).toNat = (r.zone + 1) % UInt64.size := by
        rw [UInt64.toNat_shiftLeft, toNat_leadingZeros (mt hzero.1 h), hwidth, zone_add_one h,
          share, if_neg h, Nat.mod_eq_of_lt (b := 64) (by omega), Nat.shiftLeft_eq]
        rfl
      rw [UInt64.toNat_sub, hshift, Nat.add_mod_mod]
      show (UInt64.size - 1 + (r.zone + 1)) % UInt64.size = r.zone
      rw [← Nat.add_assoc, Nat.add_right_comm, Nat.sub_add_cancel (by decide), Nat.add_mod_left,
        Nat.mod_eq_of_lt hlt]
    have hle : w * range ≤ (range <<< leadingZeros range) - 1 ↔
        w.toNat * r.span % Nat.pow 2 64 ≤ r.zone := by
      rw [UInt64.le_iff_toNat_le, hzone, UInt64.toNat_mul, hwidth]
    rw [accept?, if_neg h, if_neg (mt hzero.1 h)]
    simp only [hle, upperHalf, hwidth]

/-! ### Drawing from a source -/

/-- A draw takes the first word that is accepted. -/
theorem draw_eq {s : WordSource} {fuel : Nat} (hfirst : ∀ i < n, r.accept? (s.word i) = none)
    (h : r.accept? (s.word n) = some d) (hfuel : n < fuel) :
    r.draw fuel s = (d, s.skip (n + 1)) := by
  induction n generalizing s fuel with
  | zero =>
    obtain ⟨fuel, rfl⟩ := Nat.exists_eq_add_one_of_ne_zero hfuel.ne'
    have h : r.accept? s.take.1 = some d := h
    simp only [draw, h]
    rfl
  | succ n ih =>
    obtain ⟨fuel, rfl⟩ := Nat.exists_eq_add_one_of_ne_zero (Nat.ne_zero_of_lt hfuel)
    have hnone : r.accept? s.take.1 = none := hfirst 0 (Nat.succ_pos n)
    simp only [draw, hnone]
    exact ih (fun i hi => hfirst (i + 1) (Nat.succ_lt_succ hi)) h (Nat.lt_of_succ_lt_succ hfuel)

/-- A word that is accepted comes before the fuel is used up. -/
theorem sample_eq {s : WordSource} (hfirst : ∀ i < n, r.accept? (s.word i) = none)
    (h : r.accept? (s.word n) = some d) : r.sample s = (d, s.skip (n + 1)) := by
  refine draw_eq hfirst h ?_
  obtain ⟨k, hk, hzero⟩ := s.exists_word_eq_zero
  refine lt_of_le_of_lt (Nat.le_of_not_lt fun hlt => ?_) hk
  have hnone := hfirst k hlt
  have hsome := accept?_zero r
  rw [hzero] at hnone
  simp [hnone] at hsome

/-- **A draw from any source** gives what its first accepted word stands for. -/
theorem exists_sample (r : DelayRange) (s : WordSource) :
    ∃ n, (∀ i < n, r.accept? (s.word i) = none) ∧
      r.accept? (s.word n) = some (r.sample s).1 ∧ (r.sample s).2 = s.skip (n + 1) := by
  have hsome : ∃ n, (r.accept? (s.word n)).isSome := by
    obtain ⟨k, -, hzero⟩ := s.exists_word_eq_zero
    exact ⟨k, hzero ▸ accept?_zero r⟩
  have hfirst : ∀ i < Nat.find hsome, r.accept? (s.word i) = none := by
    intro i hi
    simpa using Nat.find_min hsome hi
  obtain ⟨d, hd⟩ := Option.isSome_iff_exists.1 (Nat.find_spec hsome)
  have heq := sample_eq hfirst hd
  exact ⟨Nat.find hsome, hfirst, by rw [hd, heq], by rw [heq]⟩

theorem sample_of_words {words : Nat → UInt64} (hfirst : ∀ i < n, r.accept? (words i) = none)
    (h : r.accept? (words n) = some d) (next : Nat) :
    r.sample ⟨(List.range (n + 1)).map words, next⟩ = (d, ⟨[], next⟩) := by
  have hlength : ((List.range (n + 1)).map words).length = n + 1 := by simp
  have hword : ∀ i ≤ n, WordSource.word ⟨(List.range (n + 1)).map words, next⟩ i = words i := by
    intro i hi
    rw [WordSource.word_of_ready (by omega), List.getElem_map, List.getElem_range]
  have hskip := WordSource.skip_ready ((List.range (n + 1)).map words) next
  rw [hlength] at hskip
  rw [← hskip]
  refine sample_eq (fun i hi => ?_) ?_
  · rw [hword i hi.le]
    exact hfirst i hi
  · rw [hword n le_rfl]
    exact h

/-! ### Fairness -/

/-- **A fair draw** from a range. -/
structure Fair (r : DelayRange) : Prop where
  /-- A word is judged by computing in words. -/
  judged : ∀ w, r.accept? w = judge r.lower r.upper w
  /-- From any source the first word is taken that is accepted, and nothing behind it. -/
  first : ∀ s, ∃ n, (∀ i < n, r.accept? (s.word i) = none) ∧ r.accept? (s.word n) =
    some (r.sample s).1 ∧ (r.sample s).2 = s.skip (n + 1)
  /-- So it is with words of whatever origin. -/
  anyWords : ∀ (words : Nat → UInt64) (n : Nat) (d : UInt64),
    (∀ i < n, r.accept? (words i) = none) →
    r.accept? (words n) = some d → ∀ next, r.sample ⟨(List.range (n + 1)).map words, next⟩ =
      (d, ⟨[], next⟩)
  /-- What is drawn lies in the range. -/
  within : ∀ s, r.lower ≤ (r.sample s).1 ∧ (r.sample s).1 ≤ r.upper
  /-- Adding the lower end never wraps. -/
  unwrapped : ∀ w d, r.accept? w = some d → d.toNat = r.lower.toNat + r.place w
  /-- At least half of all words are accepted. -/
  often : UInt64.size ≤ 2 * r.accepted.card
  /-- Every delay of the range is what equally many words stand for. -/
  even : ∀ d, r.lower ≤ d → d ≤ r.upper → (r.wordsFor d).card = r.share

/-- **Every range** is drawn from fairly. -/
theorem fair (r : DelayRange) : r.Fair where
  judged := accept?_eq_judge r
  first := exists_sample r
  anyWords _ _ _ hfirst h := sample_of_words hfirst h
  within s := by
    obtain ⟨n, -, h, -⟩ := exists_sample r s
    exact mem_of_accept? h
  unwrapped _ _ h := (accept?_eq_some_iff.1 h).2
  often := by
    rw [card_accepted]
    exact (share_bounds r).1
  even _ := card_wordsFor

/-- Three delays share three quarters of all words. -/
example : (DelayRange.mk 5 7 (by decide)).share = Nat.pow 2 62 := by decide

end DelayRange

end DurableSession.Timing
