import Mathlib.Data.Nat.Bitwise

/-!
# Power-of-two alignment by bit masks

The alignment helpers of a runtime that works on raw addresses compute with masks: a value is
aligned to `n` when `x & (n - 1)` is zero, `RoundDown(x, n)` is `x & -n`, that is `x` with its low
bits cleared, and `RoundUp(x, n)` is `RoundDown(x + n - 1, n)`.  For `n = 2 ^ k` the mask is the
remainder by `n`; this module proves that once and gives the rounded values the facts that
scanning loops need: where they lie, that they are aligned, and that no aligned value lies
strictly between `x` and either rounding.
-/

set_option autoImplicit false

namespace Align

/-- `IsAligned<n>(x)`: the low bits `x & (n - 1)` are zero. -/
def isAligned (n x : Nat) : Bool := x &&& (n - 1) == 0

/-- `RoundDown(x, n) = x & -n`: `x` with the bits below `n` cleared. -/
def roundDown (x n : Nat) : Nat := x - (x &&& (n - 1))

/-- `RoundUp(x, n) = RoundDown(x + n - 1, n)`. -/
def roundUp (x n : Nat) : Nat := roundDown (x + n - 1) n

variable {k : Nat}

theorem isAligned_iff {x : Nat} : isAligned (2 ^ k) x = true ↔ x % 2 ^ k = 0 := by
  simp [isAligned, Nat.and_two_pow_sub_one_eq_mod]

theorem roundDown_eq (x : Nat) : roundDown x (2 ^ k) = x - x % 2 ^ k := by
  rw [roundDown, Nat.and_two_pow_sub_one_eq_mod]

/-- `RoundDown` is at most `x`, within one alignment of it, and aligned. -/
theorem roundDown_properties (x : Nat) :
    roundDown x (2 ^ k) ≤ x ∧ x < roundDown x (2 ^ k) + 2 ^ k ∧ roundDown x (2 ^ k) % 2 ^ k = 0 := by
  have hlt : x % 2 ^ k < 2 ^ k := Nat.mod_lt x (Nat.two_pow_pos k)
  have hle : x % 2 ^ k ≤ x := Nat.mod_le x _
  rw [roundDown_eq]
  refine ⟨by omega, by omega, ?_⟩
  exact Nat.sub_mod_eq_zero_of_mod_eq (Nat.mod_mod x _).symm

/-- Two aligned values that differ are a whole alignment apart. -/
theorem add_le_of_lt {y w : Nat} (hy : y % 2 ^ k = 0) (hw : w % 2 ^ k = 0) (h : y < w) :
    y + 2 ^ k ≤ w := by
  obtain ⟨b, rfl⟩ := Nat.dvd_of_mod_eq_zero hy
  obtain ⟨a, rfl⟩ := Nat.dvd_of_mod_eq_zero hw
  have hba : b < a := Nat.lt_of_mul_lt_mul_left h
  calc 2 ^ k * b + 2 ^ k = 2 ^ k * (b + 1) := by rw [Nat.mul_add, Nat.mul_one]
    _ ≤ 2 ^ k * a := Nat.mul_le_mul_left _ hba

/-- Every aligned value up to `x` is at most `RoundDown(x)`. -/
theorem le_roundDown {x y : Nat} (hy : y % 2 ^ k = 0) (hyx : y ≤ x) : y ≤ roundDown x (2 ^ k) := by
  obtain ⟨-, hlt, hal⟩ := roundDown_properties (k := k) x
  by_contra hgt
  have h := add_le_of_lt hal hy (Nat.lt_of_not_le hgt)
  omega

/-- `RoundUp` is at least `x`, within one alignment of it, and aligned. -/
theorem roundUp_properties (x : Nat) :
    x ≤ roundUp x (2 ^ k) ∧ roundUp x (2 ^ k) < x + 2 ^ k ∧ roundUp x (2 ^ k) % 2 ^ k = 0 := by
  have hpos := Nat.two_pow_pos k
  obtain ⟨hle, hlt, hal⟩ := roundDown_properties (k := k) (x + 2 ^ k - 1)
  exact ⟨by rw [roundUp]; omega, by rw [roundUp]; omega, hal⟩

/-- Every aligned value from `x` on is at least `RoundUp(x)`. -/
theorem roundUp_le {x y : Nat} (hy : y % 2 ^ k = 0) (hxy : x ≤ y) : roundUp x (2 ^ k) ≤ y := by
  have hpos := Nat.two_pow_pos k
  obtain ⟨hle, -, hal⟩ := roundDown_properties (k := k) (x + 2 ^ k - 1)
  by_contra hgt
  rw [roundUp] at hgt
  have h := add_le_of_lt hy hal (Nat.lt_of_not_le hgt)
  omega

/-- Between `x` and `RoundUp(x)` no value is aligned. -/
theorem mod_ne_zero_of_lt_roundUp {x y : Nat} (hxy : x ≤ y) (hy : y < roundUp x (2 ^ k)) :
    y % 2 ^ k ≠ 0 :=
  fun hal => Nat.lt_irrefl y (Nat.lt_of_lt_of_le hy (roundUp_le hal hxy))

end Align
