import AndroidArt.Lib.WordBits
import Mathlib.Data.List.Sort

/-!
# The set bits of a word, lowest first

The loop `do { shift = CTZ(w); visit(shift); w ^= 1 << shift; } while (w != 0)` takes the set bits
of a word from the lowest up.  `lowestBits fuel x` is that loop with at most `fuel` rounds, as the
list of the bits it takes.

* `getLsbD_clearLowest` — the `xor` clears the lowest set bit and keeps the others;
* `pairwise_lowestBits` — the loop takes its bits in increasing order;
* `lowestBits_eq_filter` — with `w` rounds it takes exactly the set bits:
  `(List.range w).filter x.getLsbD`.

A loop over words `lo` to `lo + n - 1` that takes the set bits of each, numbered from bit 0 of
word 0, takes the bits of `[lo * w, (lo + n) * w)` in increasing order (`flatMap_range'_filter`);
masks restrict that to a window (`filter_range'_window`, `getLsbD_lowMask`), and a test of one
bit with `1 << k` reads that bit (`and_one_shiftLeft_eq_zero_iff`).
-/

set_option autoImplicit false

namespace SetBits

variable {w : Nat}

/-- The loop over the set bits of `x`, lowest first, with at most `fuel` rounds. -/
def lowestBits : Nat → BitVec w → List Nat
  | 0, _ => []
  | fuel + 1, x =>
    if x = 0 then [] else x.ctz.toNat :: lowestBits fuel (x ^^^ 1#w <<< x.ctz.toNat)

theorem toNat_ctz_lt {x : BitVec w} (hx : x ≠ 0) : x.ctz.toNat < w := by
  have h := BitVec.ctz_lt_iff_ne_zero.2 hx
  rw [BitVec.lt_def] at h
  simpa using h

/-- The `xor` with the lowest set bit clears it and keeps the others. -/
theorem getLsbD_clearLowest {x : BitVec w} (hx : x ≠ 0) (i : Nat) :
    (x ^^^ 1#w <<< x.ctz.toNat).getLsbD i = (x.getLsbD i && decide (i ≠ x.ctz.toNat)) := by
  rw [BitVec.getLsbD_xor, WordBits.getLsbD_one_shiftLeft (toNat_ctz_lt hx)]
  by_cases hi : i = x.ctz.toNat
  · subst hi
    simp [BitVec.getLsbD_true_ctz_of_ne_zero hx]
  · simp [hi]

theorem lowestBits_succ_of_ne_zero {fuel : Nat} {x : BitVec w} (hx : x ≠ 0) :
    lowestBits (fuel + 1) x = x.ctz.toNat :: lowestBits fuel (x ^^^ 1#w <<< x.ctz.toNat) := by
  rw [lowestBits, if_neg hx]

/-- Every bit the loop takes is set. -/
theorem getLsbD_of_mem_lowestBits {fuel : Nat} {x : BitVec w} {i : Nat}
    (h : i ∈ lowestBits fuel x) : x.getLsbD i = true := by
  induction fuel generalizing x with
  | zero => cases h
  | succ fuel ih =>
    by_cases hx : x = 0
    · simp [lowestBits, hx] at h
    rw [lowestBits_succ_of_ne_zero hx] at h
    rcases List.mem_cons.mp h with rfl | h
    · exact BitVec.getLsbD_true_ctz_of_ne_zero hx
    · have hi := ih h
      rw [getLsbD_clearLowest hx, Bool.and_eq_true] at hi
      exact hi.1

/-- The loop takes its bits in increasing order. -/
theorem pairwise_lowestBits (fuel : Nat) (x : BitVec w) :
    (lowestBits fuel x).Pairwise (· < ·) := by
  induction fuel generalizing x with
  | zero => exact List.Pairwise.nil
  | succ fuel ih =>
    by_cases hx : x = 0
    · simp [lowestBits, hx]
    rw [lowestBits_succ_of_ne_zero hx]
    refine List.Pairwise.cons (fun j hj => ?_) (ih _)
    have hj' := getLsbD_of_mem_lowestBits hj
    rw [getLsbD_clearLowest hx, Bool.and_eq_true, decide_eq_true_eq] at hj'
    have hge : ¬ j < x.ctz.toNat := fun hlt => by
      rw [BitVec.getLsbD_false_of_lt_ctz hlt] at hj'
      exact Bool.false_ne_true hj'.1
    omega

/-- With the bits below `lo` clear, `w - lo` rounds take every set bit. -/
theorem mem_lowestBits_of_getLsbD {fuel lo : Nat} {x : BitVec w}
    (hlo : ∀ j < lo, x.getLsbD j = false) (hfuel : w ≤ fuel + lo) {i : Nat}
    (hi : x.getLsbD i = true) : i ∈ lowestBits fuel x := by
  induction fuel generalizing lo x with
  | zero =>
    have := BitVec.lt_of_getLsbD hi
    rw [hlo i (by omega)] at hi
    cases hi
  | succ fuel ih =>
    have hx : x ≠ 0 := fun h0 => by simp [h0] at hi
    rw [lowestBits_succ_of_ne_zero hx]
    by_cases hic : i = x.ctz.toNat
    · exact hic ▸ List.mem_cons_self
    have hlc : lo ≤ x.ctz.toNat := by
      by_contra hlt
      have := hlo x.ctz.toNat (by omega)
      rw [BitVec.getLsbD_true_ctz_of_ne_zero hx] at this
      cases this
    refine List.mem_cons_of_mem _
      (@ih (x.ctz.toNat + 1) (x ^^^ 1#w <<< x.ctz.toNat) (fun j hj => ?_) (by omega) ?_)
    · rw [getLsbD_clearLowest hx]
      by_cases hjc : j = x.ctz.toNat
      · simp [hjc]
      · simp [BitVec.getLsbD_false_of_lt_ctz (show j < x.ctz.toNat by omega)]
    · rw [getLsbD_clearLowest hx, hi, Bool.true_and, decide_eq_true_eq]
      exact hic

/-- With `w` rounds the loop takes exactly the set bits of the word, in increasing order. -/
theorem lowestBits_eq_filter (x : BitVec w) :
    lowestBits w x = (List.range w).filter fun i => x.getLsbD i := by
  refine (pairwise_lowestBits w x).eq_of_mem_iff
    ((List.pairwise_lt_range).filter _) fun i => ?_
  rw [List.mem_filter, List.mem_range]
  constructor
  · intro h
    have hi := getLsbD_of_mem_lowestBits h
    exact ⟨BitVec.lt_of_getLsbD hi, hi⟩
  · rintro ⟨-, hi⟩
    exact @mem_lowestBits_of_getLsbD w w 0 x (fun _ h => absurd h (Nat.not_lt_zero _)) (by omega)
      i hi

/-! ## Words and bit indices -/

/-- Two adjacent ranges are one. -/
theorem range'_append_of_le {a b c : Nat} (hab : a ≤ b) (hbc : b ≤ c) :
    List.range' a (b - a) ++ List.range' b (c - b) = List.range' a (c - a) := by
  have h := @List.range'_append a (b - a) (c - b) 1
  rwa [show a + 1 * (b - a) = b by omega, show b - a + (c - b) = c - a by omega] at h

/-- Word by word, the bits of `p` in each word are the bits of `p` in the range of the words. -/
theorem flatMap_range'_filter (p : Nat → Bool) (lo n : Nat) :
    ((List.range' lo n).flatMap fun k =>
        ((List.range w).filter fun j => p (k * w + j)).map (k * w + ·)) =
      (List.range' (lo * w) (n * w)).filter p := by
  induction n generalizing lo with
  | zero => simp
  | succ n ih =>
    have hsplit : List.range' (lo * w) ((n + 1) * w) =
        List.range' (lo * w) w ++ List.range' ((lo + 1) * w) (n * w) := by
      have h := range'_append_of_le (Nat.le_add_right (lo * w) w)
        (Nat.le_add_right (lo * w + w) (n * w))
      rw [Nat.add_sub_cancel_left, Nat.add_sub_cancel_left, Nat.add_assoc,
        Nat.add_sub_cancel_left] at h
      rw [Nat.add_one_mul, Nat.add_one_mul, Nat.add_comm (n * w) w, ← h]
    rw [List.range'_succ, List.flatMap_cons, ih, hsplit, List.filter_append,
      List.range'_eq_map_range (s := lo * w), List.filter_map]
    rfl

/-- Filtering a range by a window `[lo, hi)` inside it is filtering the window. -/
theorem filter_range'_window (p : Nat → Bool) {a n lo hi : Nat} (ha : a ≤ lo) (hlo : lo ≤ hi)
    (hhi : hi ≤ a + n) :
    (List.range' a n).filter (fun j => p j && decide (lo ≤ j ∧ j < hi)) =
      (List.range' lo (hi - lo)).filter p := by
  have hsplit : List.range' a n =
      List.range' a (lo - a) ++ List.range' lo (hi - lo) ++ List.range' hi (a + n - hi) := by
    rw [range'_append_of_le ha hlo, range'_append_of_le (Nat.le_trans ha hlo) hhi,
      Nat.add_sub_cancel_left]
  have hbelow :
      (List.range' a (lo - a)).filter (fun j => p j && decide (lo ≤ j ∧ j < hi)) = [] := by
    refine List.filter_eq_nil_iff.2 fun j hj => ?_
    rw [List.mem_range'_1] at hj
    simp only [Bool.and_eq_true, decide_eq_true_eq, not_and]
    omega
  have habove :
      (List.range' hi (a + n - hi)).filter (fun j => p j && decide (lo ≤ j ∧ j < hi)) = [] := by
    refine List.filter_eq_nil_iff.2 fun j hj => ?_
    rw [List.mem_range'_1] at hj
    simp only [Bool.and_eq_true, decide_eq_true_eq, not_and]
    omega
  rw [hsplit, List.filter_append, List.filter_append, hbelow, habove, List.nil_append,
    List.append_nil]
  refine List.filter_congr fun j hj => ?_
  rw [List.mem_range'_1] at hj
  have hjhi : j < hi := by omega
  simp [hj.1, hjhi]

/-! ## Masks -/

/-- `(1 << k) - 1` has the bits below `k` set. -/
theorem getLsbD_lowMask {k : Nat} (hk : k < w) (j : Nat) :
    ((1#w <<< k) - 1).getLsbD j = decide (j < k) := by
  have hpow : 2 ^ k < 2 ^ w := Nat.pow_lt_pow_right (by decide) hk
  have hone : 1 ≤ 2 ^ k := Nat.one_le_two_pow
  have htoNat : ((1#w <<< k) - 1#w).toNat = 2 ^ k - 1 := by
    rw [← BitVec.twoPow_eq, BitVec.toNat_sub, BitVec.toNat_twoPow_of_lt hk,
      BitVec.toNat_one (by omega), show 2 ^ w - 1 + 2 ^ k = (2 ^ k - 1) + 2 ^ w by omega,
      Nat.add_mod_right, Nat.mod_eq_of_lt (by omega)]
  show ((1#w <<< k) - 1#w).getLsbD j = _
  rw [← BitVec.testBit_toNat, htoNat, Nat.testBit_two_pow_sub_one]

/-- The test of bit `k` with the mask `1 << k` finds nothing exactly when the bit is clear. -/
theorem and_one_shiftLeft_eq_zero_iff {k : Nat} (hk : k < w) (x : BitVec w) :
    x &&& 1#w <<< k = 0#w ↔ x.getLsbD k = false := by
  constructor
  · intro h
    have hk' := congrArg (BitVec.getLsbD · k) h
    simpa [BitVec.getLsbD_and, WordBits.getLsbD_one_shiftLeft hk] using hk'
  · intro h
    apply BitVec.eq_of_getLsbD_eq
    intro j hj
    rw [BitVec.getLsbD_and, WordBits.getLsbD_one_shiftLeft hk, BitVec.getLsbD_zero]
    by_cases hjk : j = k
    · subst hjk
      rw [h, Bool.false_and]
    · simp [hjk]

end SetBits
