import Mathlib.Data.Nat.Size
import Mathlib.Algebra.Ring.Parity
import AndroidArt.Lib.Word

/-!
# Bit lengths and the lowest set bit

`Nat.size x` is the number of binary digits of `x`, so a `w`-bit word `x` has `w - size x`
leading zeros.  C code that counts them without a builtin halves a shift and moves the count
into the length (`size_div_two_pow`); code that counts trailing zeros through `~x & (x - 1)`
uses that this mask is the ones below the lowest set bit of `x` (`not_and_sub_one_lowest`).

A number whose odd part has fewer than `n` digits is an `n`-digit number with its top digit
set, shifted (`exists_top_mul_two_pow`).
-/

set_option autoImplicit false

namespace BitLength

/-! ## The number of binary digits -/

theorem size_eq_of_bounds {x n : Nat} (hlo : 2 ^ n ≤ x) (hhi : x < 2 ^ (n + 1)) :
    x.size = n + 1 :=
  le_antisymm (Nat.size_le.2 hhi) (Nat.lt_size.2 hlo)

/-- The digits of a positive number lie between its top one and the next power of two. -/
theorem bounds_of_pos {x : Nat} (hx : 0 < x) : 2 ^ (x.size - 1) ≤ x ∧ x < 2 ^ x.size := by
  have hpos : 0 < x.size := Nat.size_pos.2 hx
  exact ⟨Nat.lt_size.1 (by omega), Nat.lt_size_self x⟩

theorem size_of_lt_two {x : Nat} (h : x < 2) : x.size = x := by
  match x, h with
  | 0, _ => exact Nat.size_zero
  | 1, _ => exact Nat.size_one

/-- A shift by `c` that leaves a digit moves `c` digits out of the length. -/
theorem size_div_two_pow {x c : Nat} (h : 2 ^ c ≤ x) : x.size = (x / 2 ^ c).size + c := by
  have hq : 0 < x / 2 ^ c := Nat.div_pos h (Nat.two_pow_pos c)
  obtain ⟨hlo, hhi⟩ := bounds_of_pos hq
  have hs : 0 < (x / 2 ^ c).size := Nat.size_pos.2 hq
  have hlo' : 2 ^ ((x / 2 ^ c).size - 1 + c) ≤ x := by
    rw [Nat.pow_add]
    exact (Nat.le_div_iff_mul_le (Nat.two_pow_pos c)).1 hlo
  have hhi' : x < 2 ^ ((x / 2 ^ c).size - 1 + c + 1) := by
    rw [show (x / 2 ^ c).size - 1 + c + 1 = (x / 2 ^ c).size + c by omega, Nat.pow_add]
    exact (Nat.div_lt_iff_lt_mul (Nat.two_pow_pos c)).1 hhi
  rw [size_eq_of_bounds hlo' hhi']
  omega

theorem size_mul_two_pow {y : Nat} (hy : 0 < y) (s : Nat) : (y * 2 ^ s).size = y.size + s := by
  rw [← Nat.shiftLeft_eq]
  exact Nat.size_shiftLeft (Nat.pos_iff_ne_zero.1 hy) s

theorem size_two_pow_sub_one (f : Nat) : (2 ^ f - 1).size = f := by
  cases f with
  | zero => exact Nat.size_zero
  | succ g =>
    have : 2 ^ g < 2 ^ (g + 1) := Nat.pow_lt_pow_right (by decide) (by omega)
    exact size_eq_of_bounds (by omega) (by omega)

/-! ## The lowest set bit -/

/-- In `w` bits, `~x & (x - 1)` keeps the ones below the lowest set bit of `x = 2^f * (2k + 1)`. -/
theorem not_and_sub_one_lowest {w : Nat} (f k : Nat) (h : 2 ^ (f + 1) * k + 2 ^ f < 2 ^ w) :
    (2 ^ w - 1 - (2 ^ (f + 1) * k + 2 ^ f)) &&& (2 ^ (f + 1) * k + 2 ^ f - 1) = 2 ^ f - 1 := by
  have hsub : 2 ^ (f + 1) * k + 2 ^ f - 1 = 2 ^ (f + 1) * k + (2 ^ f - 1) := by
    have := Nat.one_le_two_pow (n := f)
    omega
  have hf : 2 ^ f < 2 ^ (f + 1) := Nat.pow_lt_pow_right (by decide) (by omega)
  have hnot : 2 ^ w - 1 - (2 ^ (f + 1) * k + 2 ^ f) = 2 ^ w - (2 ^ (f + 1) * k + 2 ^ f + 1) := by
    omega
  apply Nat.eq_of_testBit_eq
  intro j
  rw [hnot, hsub, Nat.testBit_and, Nat.testBit_two_pow_sub_succ h,
    Nat.testBit_two_pow_mul_add k hf, Nat.testBit_two_pow_mul_add k (by omega),
    Nat.testBit_two_pow_sub_one]
  by_cases hj : j < f + 1
  · rw [if_pos hj, if_pos hj, Nat.testBit_two_pow]
    by_cases hjf : j < f
    · have hjw : j < w := by
        have : 2 ^ f ≤ 2 ^ w := by omega
        have := (Nat.pow_le_pow_iff_right (by decide : 1 < 2)).1 this
        omega
      simp [hjf, hjw, show f ≠ j by omega]
    · simp [show f = j by omega]
  · rw [if_neg hj, if_neg hj, decide_eq_false (by omega : ¬ j < f)]
    cases (k.testBit (j - (f + 1))) <;> simp

/-! ## Odd parts -/

/-- An odd part below `2^n`, times a power of two of at least `n` digits, is an `n`-digit number
with its top digit set shifted by at least one place. -/
theorem exists_top_mul_two_pow {n t m : Nat} (hn : 0 < n) (hm : Odd m) (hmn : m < 2 ^ n)
    (hx : 2 ^ n ≤ 2 ^ t * m) :
    ∃ y s, 2 ^ (n - 1) ≤ y ∧ y < 2 ^ n ∧ 0 < s ∧ 2 ^ t * m = y * 2 ^ s := by
  have hm0 : 0 < m := by
    obtain ⟨j, rfl⟩ := hm
    omega
  obtain ⟨hlo, hhi⟩ := bounds_of_pos hm0
  have hsn : m.size ≤ n := Nat.size_le.2 hmn
  have hsize : (2 ^ t * m).size = m.size + t := by
    rw [Nat.mul_comm]
    exact size_mul_two_pow hm0 t
  have hlen : n < (2 ^ t * m).size := Nat.lt_size.2 hx
  refine ⟨2 ^ (n - m.size) * m, m.size + t - n, ?_, ?_, by omega, ?_⟩
  · calc 2 ^ (n - 1) = 2 ^ (n - m.size) * 2 ^ (m.size - 1) := by
          rw [← Nat.pow_add]; congr 1; have := Nat.size_pos.2 hm0; omega
      _ ≤ 2 ^ (n - m.size) * m := Nat.mul_le_mul_left _ hlo
  · calc 2 ^ (n - m.size) * m < 2 ^ (n - m.size) * 2 ^ m.size :=
          Nat.mul_lt_mul_of_pos_left hhi (Nat.two_pow_pos _)
      _ = 2 ^ n := by rw [← Nat.pow_add]; congr 1; omega
  · rw [Nat.mul_assoc, Nat.mul_comm m, ← Nat.mul_assoc, ← Nat.pow_add]
    rw [Nat.mul_comm (2 ^ _) m, Nat.mul_comm (2 ^ _) m]
    congr 2
    omega

/-! ## Masks -/

/-- A mask of `k` ones at bit `a` keeps the field of `n` at that place. -/
theorem and_mask (n a k : Nat) : n &&& (2 ^ k - 1) * 2 ^ a = n / 2 ^ a % 2 ^ k * 2 ^ a := by
  apply Nat.eq_of_testBit_eq
  intro i
  rw [Nat.testBit_and, Nat.testBit_mul_two_pow, Nat.testBit_mul_two_pow, Nat.testBit_mod_two_pow,
    Nat.testBit_div_two_pow, Nat.testBit_two_pow_sub_one]
  by_cases ha : a ≤ i
  · rw [Nat.sub_add_cancel ha]
    cases n.testBit i <;> simp [ha]
  · simp [ha]

/-- Setting bit `k` of a number below `2^(k+1)` adds it to the bits below. -/
theorem or_two_pow_of_lt {m k : Nat} (hm : m < 2 ^ (k + 1)) : m ||| 2 ^ k = 2 ^ k + m % 2 ^ k := by
  have hlow : m % 2 ^ k ||| 2 ^ k = m % 2 ^ k + 2 ^ k := by
    have h := Word.or_shiftLeft_eq_add (a := m % 2 ^ k) (b := 1) (Nat.mod_lt _ (Nat.two_pow_pos k))
    rwa [Nat.one_shiftLeft, Nat.one_mul] at h
  have hsplit : m = m % 2 ^ k ∨ m = m % 2 ^ k + 2 ^ k := by
    have h1 := Nat.mod_add_div m (2 ^ k)
    have h2 : m / 2 ^ k < 2 := by
      rw [Nat.div_lt_iff_lt_mul (Nat.two_pow_pos k)]
      rw [Nat.pow_succ] at hm
      omega
    have h3 : m / 2 ^ k = 0 ∨ m / 2 ^ k = 1 := by
      generalize m / 2 ^ k = q at h2 ⊢
      omega
    rcases h3 with h | h
    · rw [h, Nat.mul_zero, Nat.add_zero] at h1
      exact .inl h1.symm
    · rw [h, Nat.mul_one] at h1
      exact .inr h1.symm
  rcases hsplit with h | h
  · rw [h, Nat.mod_mod, hlow]
    omega
  · rw [h, ← hlow, Nat.or_assoc, Nat.or_self, hlow, Nat.add_mod_right, Nat.mod_mod]
    omega

end BitLength
