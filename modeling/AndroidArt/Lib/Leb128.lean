import Mathlib.Tactic.Ring
import Mathlib.Order.Basic

/-!
# The LEB128 number format

A number in LEB128 is the list of its base-128 digits, lowest first, one byte each, every byte
but the last with its high bit set.  The unsigned form stops at the highest nonzero digit; the
signed form takes the digits of the number in two's complement and stops once the rest of the
number is the sign extension of bit 6 of the last byte.

* `uleb`, `sleb` — the bytes of a natural number and of an integer.
* `length_uleb_le_iff`, `length_sleb_le_iff` — an encoding has at most `n` bytes exactly when the
  number fits in `7 n` bits, unsigned or in two's complement;
* `length_uleb_eq`, `length_sleb_eq` — the length from the position of the highest bit;
* `decodeMany` — a decoder applied to consecutive values, each read where the last one ended.
-/

set_option autoImplicit false

namespace Leb128Format

/-- The unsigned LEB128 bytes of `v`. -/
def uleb (v : Nat) : List Nat :=
  if v < 128 then [v] else (v % 128 + 128) :: uleb (v / 128)
termination_by v
decreasing_by omega

/-- The signed LEB128 bytes of `x`. -/
def sleb (x : Int) : List Nat :=
  if -64 ≤ x ∧ x < 64 then [(x % 128).toNat] else ((x % 128).toNat + 128) :: sleb (x / 128)
termination_by x.toNat + (-x).toNat
decreasing_by omega

variable {v : Nat} {x : Int}

theorem uleb_of_lt (h : v < 128) : uleb v = [v] := by
  rw [uleb, if_pos h]

theorem uleb_of_ge (h : 128 ≤ v) : uleb v = (v % 128 + 128) :: uleb (v / 128) := by
  rw [uleb, if_neg (by omega)]

theorem sleb_of_small (hlo : -64 ≤ x) (hhi : x < 64) : sleb x = [(x % 128).toNat] := by
  rw [sleb, if_pos ⟨hlo, hhi⟩]

theorem sleb_of_large (h : ¬(-64 ≤ x ∧ x < 64)) :
    sleb x = ((x % 128).toNat + 128) :: sleb (x / 128) := by
  rw [sleb, if_neg h]

theorem length_uleb_pos (v : Nat) : 0 < (uleb v).length := by
  by_cases h : v < 128
  · simp [uleb_of_lt h]
  · simp [uleb_of_ge (Nat.le_of_not_lt h)]

theorem length_sleb_pos (x : Int) : 0 < (sleb x).length := by
  by_cases h : -64 ≤ x ∧ x < 64
  · simp [sleb_of_small h.1 h.2]
  · simp [sleb_of_large h]

/-- The encoding of `v` has at most `n` bytes exactly when `v` has at most `7 n` bits. -/
theorem length_uleb_le_iff {n : Nat} (hn : 0 < n) : (uleb v).length ≤ n ↔ v < 2 ^ (7 * n) := by
  induction n generalizing v with
  | zero => omega
  | succ n ih =>
    have hpow : 2 ^ (7 * (n + 1)) = 2 ^ (7 * n) * 128 := by rw [Nat.mul_succ, Nat.pow_add]
    have h1 : 1 ≤ 2 ^ (7 * n) := Nat.one_le_two_pow
    rw [hpow]
    by_cases hv : v < 128
    · rw [uleb_of_lt hv, List.length_singleton]
      constructor <;> intro <;> omega
    · rw [uleb_of_ge (Nat.le_of_not_lt hv), List.length_cons]
      rcases Nat.eq_zero_or_pos n with rfl | hn'
      · have := length_uleb_pos (v / 128)
        constructor <;> intro <;> omega
      · rw [Nat.add_le_add_iff_right, ih hn']
        omega

/-- The encoding of `x` has at most `n` bytes exactly when `x` fits in `7 n` bits of two's
complement. -/
theorem length_sleb_le_iff {n : Nat} (hn : 0 < n) :
    (sleb x).length ≤ n ↔ -2 ^ (7 * n - 1) ≤ x ∧ x < 2 ^ (7 * n - 1) := by
  induction n generalizing x with
  | zero => omega
  | succ n ih =>
    by_cases hx : -64 ≤ x ∧ x < 64
    · have hpow : (2 : Int) ^ (7 * (n + 1) - 1) = 2 ^ (7 * n) * 64 := by
        rw [show 7 * (n + 1) - 1 = 7 * n + 6 by omega, pow_add]; rfl
      have h1 : (1 : Int) ≤ 2 ^ (7 * n) := by exact_mod_cast Nat.one_le_two_pow
      rw [sleb_of_small hx.1 hx.2, List.length_singleton, hpow]
      constructor <;> intro <;> omega
    · rw [sleb_of_large hx, List.length_cons]
      rcases Nat.eq_zero_or_pos n with rfl | hn'
      · have := length_sleb_pos (x / 128)
        have h64 : (2 : Int) ^ (7 * (0 + 1) - 1) = 64 := by norm_num
        rw [h64]
        constructor <;> intro <;> omega
      · have hpow : (2 : Int) ^ (7 * (n + 1) - 1) = 2 ^ (7 * n - 1) * 128 := by
          rw [show 7 * (n + 1) - 1 = 7 * n - 1 + 7 by omega, pow_add]; rfl
        rw [Nat.add_le_add_iff_right, ih hn', hpow]
        omega

/-- The bits of `x` that differ from its sign: `x` itself if it is not negative, its complement
`-x - 1` if it is. -/
def signMag (x : Int) : Nat := if 0 ≤ x then x.toNat else (-x - 1).toNat

theorem signMag_lt_iff {x : Int} {k : Nat} : signMag x < 2 ^ k ↔ -2 ^ k ≤ x ∧ x < 2 ^ k := by
  have hcast : ((2 ^ k : Nat) : Int) = 2 ^ k := Nat.cast_pow 2 k
  unfold signMag
  split_ifs <;> omega

/-- Dropping the low seven bits, as a shift of the value does, drops them from `signMag`. -/
theorem signMag_ediv_128 (x : Int) : signMag (x / 128) = signMag x / 128 := by
  unfold signMag
  split_ifs <;> omega

theorem length_uleb_eq (v : Nat) : (uleb v).length = Nat.log2 v / 7 + 1 := by
  refine eq_of_forall_ge_iff fun n => ?_
  rcases Nat.eq_zero_or_pos n with rfl | hn
  · have := length_uleb_pos v
    omega
  rw [length_uleb_le_iff hn]
  rcases Nat.eq_zero_or_pos v with rfl | hv
  · have := Nat.two_pow_pos (7 * n)
    simp only [Nat.log2_zero]
    omega
  · rw [← Nat.log2_lt (Nat.pos_iff_ne_zero.mp hv)]
    omega

theorem length_sleb_eq (x : Int) : (sleb x).length = (Nat.log2 (signMag x) + 1) / 7 + 1 := by
  refine eq_of_forall_ge_iff fun n => ?_
  rcases Nat.eq_zero_or_pos n with rfl | hn
  · have := length_sleb_pos x
    omega
  rw [length_sleb_le_iff hn, ← signMag_lt_iff]
  rcases Nat.eq_zero_or_pos (signMag x) with h0 | hm
  · have := Nat.one_le_two_pow (n := 7 * n - 1)
    rw [h0, Nat.log2_zero]
    omega
  · rw [← Nat.log2_lt (Nat.pos_iff_ne_zero.mp hm)]
    omega

/-- `decode` applied `n` times, each value read where the previous one ended. -/
def decodeMany {α β : Type} (decode : β → Nat → α × Nat) : Nat → β → Nat → List α × Nat
  | 0, _, p => ([], p)
  | n + 1, d, p =>
    let first := decode d p
    let rest := decodeMany decode n d first.2
    (first.1 :: rest.1, rest.2)

end Leb128Format
