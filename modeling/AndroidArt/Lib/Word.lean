import Mathlib.Tactic.Ring

/-!
# Fixed-width machine words over `Nat` and `Int`

C and C++ code computes in `uint16_t`, `uint32_t`, `int32_t` and so on, with the usual
conversions between them.  A model keeps its values in `Nat` and `Int` and states each
conversion explicitly:

* `toUnsigned w x` — the value of `x` seen as a `w`-bit unsigned word (`x mod 2^w`);
* `toSigned w x` — the value of `x` seen as a `w`-bit two's-complement word, which is the
  balanced remainder `Int.bmod x (2^w)` of the core library.

The lemmas say when a conversion is the identity and how the two views relate, which is all
that the arithmetic of a model needs once the range of a value is known.
-/

set_option autoImplicit false

namespace Word

/-- `x` as a `w`-bit unsigned word. -/
def toUnsigned (w : Nat) (x : Int) : Nat := (x % ((2 ^ w : Nat) : Int)).toNat

/-- `x` as a `w`-bit two's-complement word. -/
def toSigned (w : Nat) (x : Int) : Int := Int.bmod x (2 ^ w)

theorem toUnsigned_lt (w : Nat) (x : Int) : toUnsigned w x < 2 ^ w := by
  have hp : (0 : Int) < ((2 ^ w : Nat) : Int) := by exact_mod_cast Nat.two_pow_pos w
  have h0 := Int.emod_nonneg x (ne_of_gt hp)
  have h1 := Int.emod_lt_of_pos x hp
  unfold toUnsigned
  omega

@[simp] theorem toUnsigned_natCast (w n : Nat) : toUnsigned w n = n % 2 ^ w := by
  unfold toUnsigned
  rw [← Int.natCast_emod, Int.toNat_natCast]

theorem toUnsigned_of_lt {w n : Nat} (h : n < 2 ^ w) : toUnsigned w n = n := by
  rw [toUnsigned_natCast, Nat.mod_eq_of_lt h]

/-- The two views of a word agree modulo `2^w`. -/
@[simp] theorem toUnsigned_toSigned (w : Nat) (x : Int) : toUnsigned w (toSigned w x) = toUnsigned w x := by
  unfold toUnsigned toSigned
  rw [Int.bmod_emod]

/-- Narrowing a wider unsigned word keeps its low bits. -/
theorem toUnsigned_toUnsigned_of_le {w v : Nat} (h : w ≤ v) (x : Int) :
    toUnsigned w (toUnsigned v x) = toUnsigned w x := by
  have hv : (0 : Int) < ((2 ^ v : Nat) : Int) := by exact_mod_cast Nat.two_pow_pos v
  have hw : (0 : Int) < ((2 ^ w : Nat) : Int) := by exact_mod_cast Nat.two_pow_pos w
  have hdvd : ((2 ^ w : Nat) : Int) ∣ ((2 ^ v : Nat) : Int) := by
    exact_mod_cast Nat.pow_dvd_pow 2 h
  rw [toUnsigned_natCast]
  unfold toUnsigned
  have h₁ := Int.toNat_of_nonneg (Int.emod_nonneg x hv.ne')
  have h₂ := Int.toNat_of_nonneg (Int.emod_nonneg x hw.ne')
  have key : (((x % ((2 ^ v : Nat) : Int)).toNat % 2 ^ w : Nat) : Int) =
      ((x % ((2 ^ w : Nat) : Int)).toNat : Int) := by
    rw [Int.natCast_mod, h₁, h₂, Int.emod_emod_of_dvd x hdvd]
  exact_mod_cast key

/-- A two's-complement word that is not negative is its unsigned value. -/
theorem toSigned_eq_toUnsigned_of_nonneg {w : Nat} {x : Int} (h : 0 ≤ toSigned w x) :
    toSigned w x = toUnsigned w x := by
  have hb : toSigned w x < (((2 ^ w : Nat) : Int) + 1) / 2 := Int.bmod_lt (Nat.two_pow_pos w)
  have hlt : toSigned w x < ((2 ^ w : Nat) : Int) := by
    generalize ((2 ^ w : Nat) : Int) = N at hb ⊢
    omega
  rw [← toUnsigned_toSigned]
  unfold toUnsigned
  rw [Int.emod_eq_of_lt h hlt, Int.toNat_of_nonneg h]

/-- A value already inside `[0, 2^w)` is its own unsigned word. -/
theorem toUnsigned_eq_self {w : Nat} {x : Int} (h0 : 0 ≤ x) (h1 : x < ((2 ^ w : Nat) : Int)) :
    (toUnsigned w x : Int) = x := by
  unfold toUnsigned
  rw [Int.emod_eq_of_lt h0 h1, Int.toNat_of_nonneg h0]

/-- The signed view of a word depends only on its residue: a value congruent to `x` modulo `2^w`
reads back as `x` when `x` lies in the signed range. -/
theorem toSigned_eq_of_emod_eq {w : Nat} {y x : Int}
    (h : y % ((2 ^ w : Nat) : Int) = x % ((2 ^ w : Nat) : Int))
    (hlo : -((2 ^ w : Nat) : Int) ≤ x * 2) (hhi : x * 2 < ((2 ^ w : Nat) : Int)) :
    toSigned w y = x := by
  unfold toSigned
  rw [Int.bmod_def, h, ← Int.bmod_def, Int.bmod_eq_of_le_mul_two hlo hhi]

/-! ### `int32_t`

The code mixes `int32_t` offsets with `uint32_t` positions below `2^31`, so its sums lie in
`[-2^31, 2^32)`; on that range a non-negative `int32_t` view is the sum itself. -/

theorem toSigned_32_of_lt {x : Int} (hlo : -2 ^ 31 ≤ x) (hhi : x < 2 ^ 31) : toSigned 32 x = x := by
  unfold toSigned
  rw [Int.bmod_def]
  split_ifs <;> omega

theorem lt_of_toSigned_32_nonneg {x : Int} (hlo : -2 ^ 31 ≤ x) (hhi : x < 2 ^ 32)
    (h : 0 ≤ toSigned 32 x) : 0 ≤ x ∧ x < 2 ^ 31 := by
  unfold toSigned at h
  rw [Int.bmod_def] at h
  split_ifs at h <;> omega

theorem toSigned_32_bounds (x : Int) : -2 ^ 31 ≤ toSigned 32 x ∧ toSigned 32 x < 2 ^ 31 := by
  unfold toSigned
  rw [Int.bmod_def]
  split_ifs <;> omega

/-- `int32_t` increment where it does not overflow. -/
theorem int32_toInt_add_one {k : Int32} (h : k.toInt < 2 ^ 31 - 1) : (k + 1).toInt = k.toInt + 1 := by
  have hlo := k.le_toInt
  rw [Int32.toInt_add]
  exact toSigned_32_of_lt (by simp; omega) (by simp; omega)

/-- `int32_t` decrement of a positive value. -/
theorem int32_toInt_sub_one {k : Int32} (h : 0 < k.toInt) : (k - 1).toInt = k.toInt - 1 := by
  have hhi := k.toInt_lt
  rw [Int32.toInt_sub]
  exact toSigned_32_of_lt (by simp; omega) (by simp; omega)

/-! ### Packing fields with shifts and or -/

/-- A field below bit `k` and a field shifted to bit `k` do not overlap: their `|` is a sum. -/
theorem or_shiftLeft_eq_add {a b k : Nat} (h : a < 2 ^ k) : a ||| b <<< k = a + b * 2 ^ k := by
  rw [Nat.or_comm, ← Nat.shiftLeft_add_eq_or_of_lt h, Nat.shiftLeft_eq, Nat.add_comm]

/-- A field below bit `k` and a constant with no bits below `k` do not overlap. -/
theorem or_eq_add_of_lt {x c k : Nat} (hx : x < 2 ^ k) (hc : c % 2 ^ k = 0) : x ||| c = x + c := by
  obtain ⟨m, rfl⟩ := Nat.dvd_of_mod_eq_zero hc
  rw [Nat.mul_comm, ← Nat.shiftLeft_eq, or_shiftLeft_eq_add hx, Nat.shiftLeft_eq]

/-! ### The lowest set bit -/

/-- Flipping the lowest set bit of `2^f * (2k + 1)` clears it. -/
theorem xor_two_pow_lowest (f k : Nat) : (2 ^ (f + 1) * k + 2 ^ f) ^^^ 2 ^ f = 2 ^ (f + 1) * k := by
  apply Nat.eq_of_testBit_eq
  intro j
  rw [Nat.testBit_xor, Nat.testBit_two_pow_mul_add k (Nat.pow_lt_pow_right (by decide) (by omega)),
    Nat.testBit_two_pow, Nat.testBit_two_pow_mul]
  by_cases hj : j < f + 1
  · rw [if_pos hj, Bool.xor_self, decide_eq_false (by omega), Bool.false_and]
  · rw [if_neg hj, decide_eq_false (by omega), Bool.xor_false, decide_eq_true (by omega),
      Bool.true_and]

/-- `x & (x - 1)` clears the lowest set bit of `x = 2^f * (2k + 1)`. -/
theorem and_sub_one_lowest (f k : Nat) :
    (2 ^ (f + 1) * k + 2 ^ f) &&& (2 ^ (f + 1) * k + 2 ^ f - 1) = 2 ^ (f + 1) * k := by
  have hsub : 2 ^ (f + 1) * k + 2 ^ f - 1 = 2 ^ (f + 1) * k + (2 ^ f - 1) := by
    have := Nat.one_le_two_pow (n := f)
    omega
  have hlt : 2 ^ f - 1 < 2 ^ (f + 1) := by
    have : 2 ^ f < 2 ^ (f + 1) := Nat.pow_lt_pow_right (by decide) (by omega)
    omega
  apply Nat.eq_of_testBit_eq
  intro j
  rw [hsub, Nat.testBit_and, Nat.testBit_two_pow_mul_add k (Nat.pow_lt_pow_right (by decide) (by omega)),
    Nat.testBit_two_pow_mul_add k hlt, Nat.testBit_two_pow_mul]
  by_cases hj : j < f + 1
  · rw [if_pos hj, if_pos hj, Nat.testBit_two_pow, Nat.testBit_two_pow_sub_one,
      decide_eq_false (by omega : ¬ j ≥ f + 1), Bool.false_and]
    by_cases hjf : f = j
    · rw [decide_eq_true hjf, decide_eq_false (by omega), Bool.true_and]
    · rw [decide_eq_false hjf, Bool.false_and]
  · rw [if_neg hj, if_neg hj, Bool.and_self, decide_eq_true (by omega), Bool.true_and]

end Word
