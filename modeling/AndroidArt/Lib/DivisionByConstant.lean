import Mathlib.Data.BitVec
import Mathlib.Tactic.LinearCombination
import Mathlib.Tactic.Linarith
import Mathlib.Tactic.Positivity
import Mathlib.Tactic.Ring

/-!
# Division by a constant through shifts and multiplications

A code generator that knows the divisor replaces a division with cheaper operations on the
two's complement words.  This module states what the usual replacements compute, first on the
integers and then on `BitVec w`, where `sdiv` and `srem` are the truncating division and the
remainder whose sign follows the dividend:

* `tdiv_eq_ediv_bias`, `tmod_eq_emod_bias` — truncated division by `d > 0` is floored division
  of the dividend with a bias of `d - 1` added to a negative dividend;
* `ediv_magic_add_sign` — multiplying by a rounded-up reciprocal `M` of `d` (with
  `M * d = P + e`), dividing by `P` with flooring and adding one to a negative dividend's result
  is truncated division, when the error `e` times the dividends stays below `P`;
* `sshiftRight_add_bias`, `and_add_bias_sub` — with `d = 2^k` the bias is a shifted copy of the
  sign, and the sequence `(x + bias) >>s k`, resp. `((x + bias) &&& (2^k - 1)) - bias`, is
  `sdiv`, resp. `srem`;
* `toInt_signMask`, `toNat_signMask_ushiftRight`, `toNat_ushiftRight_sign` — the sign of a
  word spread over all its bits, and the bias made from it;
* `toInt_signExtend_mul`, `toInt_mulHigh` — the double-width signed product does not overflow,
  and its upper half is the floor of the product over `2^w`, the multiplication by a reciprocal
  that `ediv_magic_add_sign` rounds.
-/

set_option autoImplicit false

namespace Int

variable {d : Int}

/-- Truncated division by a positive divisor is floored division of the dividend moved up by
`d - 1` when it is negative. -/
theorem tdiv_eq_ediv_bias (hd : 0 < d) (x : Int) :
    x.tdiv d = (x + if x < 0 then d - 1 else 0) / d := by
  by_cases hx : x < 0
  · rw [if_pos hx, Int.tdiv_eq_ediv, Int.sign_eq_one_of_pos hd]
    have hq := Int.mul_ediv_add_emod x d
    have hr0 := Int.emod_nonneg x hd.ne'
    have hr1 := Int.emod_lt_of_pos x hd
    symm
    rw [Int.ediv_eq_iff_of_pos hd]
    by_cases hdvd : d ∣ x
    · have hr : x % d = 0 := Int.emod_eq_zero_of_dvd hdvd
      simp only [hdvd, or_true, if_true, add_zero]
      constructor <;> linarith
    · have hr : 0 < x % d := lt_of_le_of_ne hr0 fun h => hdvd (Int.dvd_of_emod_eq_zero h.symm)
      simp only [not_le.mpr hx, hdvd, or_self, if_false]
      constructor <;> linarith
  · rw [if_neg hx, add_zero, Int.tdiv_eq_ediv_of_nonneg (not_lt.mp hx)]

/-- The remainder that goes with `tdiv_eq_ediv_bias`. -/
theorem tmod_eq_emod_bias (hd : 0 < d) (x : Int) :
    x.tmod d = (x + if x < 0 then d - 1 else 0) % d - if x < 0 then d - 1 else 0 := by
  rw [Int.tmod_def, tdiv_eq_ediv_bias hd, Int.emod_def]
  ring

variable {M P e n : Int}

/-- The multiply-and-shift of a nonnegative dividend: `M * d = P + e`, and the error `e * n`
leaves the remainder below `d`. -/
theorem ediv_magic_of_nonneg (hd : 0 < d) (hP : 0 < P) (hM : M * d = P + e) (he : 0 ≤ e)
    (hn : 0 ≤ n) (hbound : P * (n % d) + e * n < d * P) : M * n / P = n / d := by
  have hqr := Int.mul_ediv_add_emod n d
  have hr0 := Int.emod_nonneg n hd.ne'
  have key : d * (M * n - P * (n / d)) = P * (n % d) + e * n := by
    linear_combination n * hM - P * hqr
  have hlo : 0 ≤ M * n - P * (n / d) := by
    refine (mul_nonneg_iff_of_pos_left hd).mp ?_
    rw [key]
    positivity
  have hhi : M * n - P * (n / d) < P := by
    refine lt_of_mul_lt_mul_left ?_ hd.le
    rw [key]
    exact hbound
  rw [Int.ediv_eq_iff_of_pos hP]
  constructor <;> linarith

/-- The multiply-and-shift of a negative dividend: flooring is one below truncation, as long as
the error `e * (-n)` leaves the remainder at most `d`. -/
theorem ediv_magic_of_neg (hd : 0 < d) (hP : 0 < P) (hM : M * d = P + e) (he : 0 < e)
    (hn : n < 0) (hbound : P * ((-n) % d) + e * (-n) ≤ d * P) : M * n / P + 1 = n.tdiv d := by
  have hqr := Int.mul_ediv_add_emod (-n) d
  have hr0 := Int.emod_nonneg (-n) hd.ne'
  have key : d * (M * (-n) - P * ((-n) / d)) = P * ((-n) % d) + e * (-n) := by
    linear_combination (-n) * hM - P * hqr
  have hlo : 0 < M * (-n) - P * ((-n) / d) := by
    refine pos_of_mul_pos_right (a := d) ?_ hd.le
    rw [key]
    have : 0 < e * (-n) := mul_pos he (by omega)
    positivity
  have hhi : M * (-n) - P * ((-n) / d) ≤ P := by
    refine le_of_mul_le_mul_left ?_ hd
    rw [key]
    exact hbound
  have hq : M * n / P = -((-n) / d) - 1 := by
    rw [Int.ediv_eq_iff_of_pos hP]
    constructor <;> linarith
  rw [hq, ← Int.neg_neg n, Int.neg_tdiv, Int.tdiv_eq_ediv_of_nonneg (by omega), Int.neg_neg]
  ring

/-- **Division by a rounded-up reciprocal.**  With `M * d = P + e` and `0 < e`, every dividend
in `[-B, B)` with `e * B ≤ P` is divided by `d`, truncating, by `M * n / P` plus one on a
negative dividend. -/
theorem ediv_magic_add_sign {B : Int} (hd : 0 < d) (hP : 0 < P) (hM : M * d = P + e)
    (he : 0 < e) (hB : e * B ≤ P) (hlo : -B ≤ n) (hhi : n < B) :
    M * n / P + (if n < 0 then 1 else 0) = n.tdiv d := by
  by_cases hn : n < 0
  · rw [if_pos hn]
    refine ediv_magic_of_neg hd hP hM he hn ?_
    have hr : P * ((-n) % d) ≤ P * (d - 1) :=
      mul_le_mul_of_nonneg_left (by have := Int.emod_lt_of_pos (-n) hd; omega) hP.le
    have he' : e * (-n) ≤ e * B := mul_le_mul_of_nonneg_left (by omega) he.le
    linarith
  · rw [if_neg hn, add_zero, Int.tdiv_eq_ediv_of_nonneg (not_lt.mp hn)]
    refine ediv_magic_of_nonneg hd hP hM he.le (not_lt.mp hn) ?_
    have hr : P * (n % d) ≤ P * (d - 1) :=
      mul_le_mul_of_nonneg_left (by have := Int.emod_lt_of_pos n hd; omega) hP.le
    have he' : e * n < e * B := mul_lt_mul_of_pos_left hhi he
    linarith

end Int

namespace BitVec

variable {w : Nat}

theorem toInt_sshiftRight_eq_ediv (x : BitVec w) (k : Nat) :
    (x.sshiftRight k).toInt = x.toInt / 2 ^ k := by
  rw [toInt_sshiftRight, Int.shiftRight_eq_div_pow]
  push_cast
  rfl

/-- The arithmetic shift by `w - 1` spreads the sign over the word: `-1` or `0`. -/
theorem toInt_signMask (x : BitVec w) (hw : 0 < w) :
    (x.sshiftRight (w - 1)).toInt = if x.toInt < 0 then -1 else 0 := by
  have h2 : (2 : Int) ^ w = 2 * 2 ^ (w - 1) := by
    rw [← pow_succ', Nat.sub_add_cancel hw]
  have hlo := x.le_two_mul_toInt
  have hhi := x.two_mul_toInt_lt
  rw [toInt_sshiftRight_eq_ediv, Int.ediv_eq_iff_of_pos (by positivity)]
  split_ifs <;> constructor <;> linarith

theorem signMask_eq (x : BitVec w) (hw : 0 < w) :
    x.sshiftRight (w - 1) = if x.toInt < 0 then allOnes w else 0 := by
  apply eq_of_toInt_eq
  rw [toInt_signMask x hw]
  split_ifs
  · rw [toInt_allOnes, if_pos hw]
  · simp

/-- The sign, spread and shifted right logically by `w - k`: the bias `2^k - 1` of a negative
word. -/
theorem toNat_signMask_ushiftRight (x : BitVec w) {k : Nat} (hk : k ≤ w) (hw : 0 < w) :
    ((x.sshiftRight (w - 1)) >>> (w - k)).toNat = if x.toInt < 0 then 2 ^ k - 1 else 0 := by
  rw [signMask_eq x hw]
  split_ifs
  · rw [toNat_ushiftRight, toNat_allOnes, Nat.shiftRight_eq_div_pow]
    have hpow : 2 ^ w = 2 ^ k * 2 ^ (w - k) := by rw [← pow_add, Nat.add_sub_cancel' hk]
    have hB : 0 < 2 ^ (w - k) := Nat.two_pow_pos _
    have hA : 1 ≤ 2 ^ k := Nat.one_le_two_pow
    rw [hpow]
    apply Nat.div_eq_of_lt_le
    · rw [Nat.sub_mul, Nat.one_mul]
      have : 2 ^ (w - k) ≤ 2 ^ k * 2 ^ (w - k) := Nat.le_mul_of_pos_left _ hA
      omega
    · rw [Nat.sub_add_cancel hA]
      have : 1 ≤ 2 ^ k * 2 ^ (w - k) := Nat.mul_pos hA hB
      omega
  · simp

/-- The logical shift by `w - 1`: the sign bit as a number, the bias of `d = 2`. -/
theorem toNat_ushiftRight_sign (x : BitVec w) (hw : 0 < w) :
    (x >>> (w - 1)).toNat = if x.toInt < 0 then 2 ^ 1 - 1 else 0 := by
  have h2 : 2 ^ w = 2 * 2 ^ (w - 1) := by rw [← pow_succ', Nat.sub_add_cancel hw]
  have hlt := x.isLt
  rw [toNat_ushiftRight, Nat.shiftRight_eq_div_pow]
  split_ifs with hx
  · rw [toInt_neg_iff] at hx
    apply Nat.div_eq_of_lt_le <;> omega
  · rw [toInt_neg_iff] at hx
    apply Nat.div_eq_of_lt_le <;> omega

theorem toInt_add_of_bounds {x y : BitVec w} (hlo : -2 ^ (w - 1) ≤ x.toInt + y.toInt)
    (hhi : x.toInt + y.toInt < 2 ^ (w - 1)) : (x + y).toInt = x.toInt + y.toInt := by
  apply toInt_add_of_not_saddOverflow
  simp only [saddOverflow, Bool.or_eq_true, decide_eq_true_eq]
  omega

theorem toInt_sub_of_bounds {x y : BitVec w} (hlo : -2 ^ (w - 1) ≤ x.toInt - y.toInt)
    (hhi : x.toInt - y.toInt < 2 ^ (w - 1)) : (x - y).toInt = x.toInt - y.toInt := by
  apply toInt_sub_of_not_ssubOverflow
  simp only [ssubOverflow, Bool.or_eq_true, decide_eq_true_eq]
  omega

/-- A word below `2^(w-1)` as a natural number has the same signed value. -/
theorem toInt_eq_toNat_of_lt_half {b : BitVec w} (h : b.toNat < 2 ^ (w - 1)) (hw : 0 < w) :
    b.toInt = b.toNat := by
  apply toInt_eq_toNat_of_lt
  have h2 : 2 ^ w = 2 * 2 ^ (w - 1) := by rw [← pow_succ', Nat.sub_add_cancel hw]
  omega

theorem toInt_twoPow_of_lt {k : Nat} (hk : k + 1 < w) : (twoPow w k).toInt = 2 ^ k := by
  rw [toInt_twoPow, if_neg (by omega), if_neg (by omega)]

theorem twoPow_ne_neg_one {k : Nat} (hk : k + 1 < w) : twoPow w k ≠ -1#w := by
  intro h
  have h' := congrArg BitVec.toInt h
  rw [toInt_twoPow_of_lt hk, neg_one_eq_allOnes, toInt_allOnes, if_pos (by omega)] at h'
  have : (0 : Int) < 2 ^ k := by positivity
  omega

/-- The low `k` bits of a word, read from its signed value. -/
theorem toInt_emod_two_pow (x : BitVec w) {k : Nat} (hk : k ≤ w) :
    x.toInt % 2 ^ k = ((x.toNat % 2 ^ k : Nat) : Int) := by
  have hdvd : (2 : Int) ^ k ∣ ((2 ^ w : Nat) : Int) := by
    rw [Int.natCast_pow]
    exact pow_dvd_pow 2 hk
  rw [toInt_eq_toNat_bmod, ← Int.emod_emod_of_dvd _ hdvd, Int.bmod_emod,
    Int.emod_emod_of_dvd _ hdvd]
  push_cast
  rfl

/-- Narrowing keeps the signed value of a word that fits in the narrower width. -/
theorem toInt_setWidth_of_bounds {v : Nat} (x : BitVec w) (hv : v ≤ w)
    (hlo : -2 ^ (v - 1) ≤ x.toInt) (hhi : x.toInt < 2 ^ (v - 1)) (hv0 : 0 < v) :
    (x.setWidth v).toInt = x.toInt := by
  have hpow : ((2 ^ v : Nat) : Int) = 2 * 2 ^ (v - 1) := by
    rw [Nat.cast_pow, Nat.cast_ofNat, ← pow_succ', Nat.sub_add_cancel hv0]
  rw [toInt_setWidth, ← Int.bmod_bmod_of_dvd (Nat.pow_dvd_pow 2 hv), ← toInt_eq_toNat_bmod]
  apply Int.bmod_eq_of_le_mul_two <;> omega

/-- The double-width product of two sign-extended words does not overflow. -/
theorem toInt_signExtend_mul (a b : BitVec w) (hw : 0 < w) :
    (a.signExtend (2 * w) * b.signExtend (2 * w)).toInt = a.toInt * b.toInt := by
  have hle : w ≤ 2 * w := by omega
  rw [toInt_mul, toInt_signExtend_of_le hle, toInt_signExtend_of_le hle]
  have h1 := toInt_mul_toInt_le (x := a) (y := b)
  have h2 := le_toInt_mul_toInt (x := a) (y := b)
  have hp : (2 : Int) ^ (2 * w) = 4 * 2 ^ (w * 2 - 2) := by
    rw [show 2 * w = w * 2 - 2 + 2 by omega, pow_add]
    ring
  have hq : (0 : Int) < 2 ^ (w * 2 - 2) := by positivity
  apply Int.bmod_eq_of_le_mul_two
  · push_cast
    rw [hp]
    nlinarith
  · push_cast
    rw [hp]
    nlinarith

/-- The double-width product shifted right by at least `w` fits in `w` bits again: narrowed, it
is the floor of the signed product over `2^k`. -/
theorem toInt_setWidth_sshiftRight_mul (a b : BitVec w) (hw : 0 < w) {k : Nat} (hk : w ≤ k) :
    (((a.signExtend (2 * w) * b.signExtend (2 * w)).sshiftRight k).setWidth w).toInt =
      a.toInt * b.toInt / 2 ^ k := by
  have hle : w ≤ 2 * w := by omega
  have h1 := toInt_mul_toInt_le (x := a) (y := b)
  have h2 := le_toInt_mul_toInt (x := a) (y := b)
  have hpos : (0 : Int) < 2 ^ k := by positivity
  have hp : 2 * 2 ^ (w * 2 - 2) ≤ (2 : Int) ^ (w - 1) * 2 ^ k := by
    rw [← pow_succ', ← pow_add]
    exact pow_le_pow_right₀ (by norm_num) (by omega)
  have hq : (0 : Int) < 2 ^ (w * 2 - 2) := by positivity
  have hprod := toInt_signExtend_mul a b hw
  rw [toInt_setWidth_of_bounds _ hle, toInt_sshiftRight_eq_ediv, hprod]
  · rw [toInt_sshiftRight_eq_ediv, hprod, Int.le_ediv_iff_mul_le hpos]
    linarith
  · rw [toInt_sshiftRight_eq_ediv, hprod, Int.ediv_lt_iff_lt_mul hpos]
    linarith
  · exact hw

/-- **The signed high product.**  The upper half of the double-width product of two words is the
floor of their signed product over `2^w`. -/
theorem toInt_mulHigh (a b : BitVec w) (hw : 0 < w) :
    (((a.signExtend (2 * w) * b.signExtend (2 * w)).sshiftRight w).setWidth w).toInt =
      a.toInt * b.toInt / 2 ^ w :=
  toInt_setWidth_sshiftRight_mul a b hw le_rfl

/-- The low `v` bits of a logical and of an arithmetic shift by `k` agree while `k + v ≤ w`:
neither reaches the bits shifted in. -/
theorem setWidth_ushiftRight_eq_sshiftRight (x : BitVec w) {k v : Nat} (h : k + v ≤ w) :
    (x >>> k).setWidth v = (x.sshiftRight k).setWidth v := by
  apply eq_of_getLsbD_eq
  intro i hi
  rw [getLsbD_setWidth, getLsbD_setWidth, getLsbD_ushiftRight, getLsbD_sshiftRight]
  simp [hi, show ¬ w ≤ i by omega, show k + i < w by omega]

section Bias

variable {x b : BitVec w} {k : Nat}

/-- The bias of a division by `2^k`: `2^k - 1` on a negative word, `0` otherwise. -/
def IsBias (x b : BitVec w) (k : Nat) : Prop := b.toNat = if x.toInt < 0 then 2 ^ k - 1 else 0

theorem toInt_bias (hk : k + 1 < w) (hb : IsBias x b k) :
    b.toInt = if x.toInt < 0 then 2 ^ k - 1 else 0 := by
  have hkw : 2 ^ k < 2 ^ (w - 1) := Nat.pow_lt_pow_right (by decide) (by omega)
  have hw1 := Nat.two_pow_pos (w - 1)
  have hb' : b.toNat < 2 ^ (w - 1) := by rw [hb]; split_ifs <;> omega
  rw [toInt_eq_toNat_of_lt_half hb' (by omega), hb]
  split_ifs <;> simp [Nat.one_le_two_pow]

/-- The biased dividend does not overflow. -/
theorem toInt_add_bias (hk : k + 1 < w) (hb : IsBias x b k) :
    (x + b).toInt = x.toInt + if x.toInt < 0 then 2 ^ k - 1 else 0 := by
  have hkw : (2 : Int) ^ k < 2 ^ (w - 1) := pow_lt_pow_right₀ (by norm_num) (by omega)
  have hk1 : (1 : Int) ≤ 2 ^ k := one_le_pow₀ (by norm_num)
  have hlo := x.le_two_mul_toInt
  have hhi := x.toInt_lt
  have h2 : (2 : Int) ^ w = 2 * 2 ^ (w - 1) := by
    rw [← pow_succ', Nat.sub_add_cancel (by omega : 0 < w)]
  have hb' := toInt_bias hk hb
  rw [toInt_add_of_bounds, hb'] <;> rw [hb'] <;> split_ifs <;> linarith

/-- **Division by `2^k` by shifting.**  The biased dividend shifted right arithmetically by `k`
is `sdiv`. -/
theorem sshiftRight_add_bias (hk : k + 1 < w) (hb : IsBias x b k) :
    (x + b).sshiftRight k = x.sdiv (twoPow w k) := by
  apply eq_of_toInt_eq
  have hpos : (twoPow w k).toInt = 2 ^ k := toInt_twoPow_of_lt hk
  rw [toInt_sshiftRight_eq_ediv, toInt_add_bias hk hb,
    toInt_sdiv_of_ne_or_ne _ _ (Or.inr (twoPow_ne_neg_one hk)), hpos,
    Int.tdiv_eq_ediv_bias (by positivity)]

/-- **The remainder by `2^k` by masking.**  The low `k` bits of the biased dividend, less the
bias, are `srem`. -/
theorem and_add_bias_sub (hk : k + 1 < w) (hb : IsBias x b k) :
    ((x + b) &&& BitVec.ofNat w (2 ^ k - 1)) - b = x.srem (twoPow w k) := by
  have hk0 := Nat.two_pow_pos k
  have hkw : 2 ^ k < 2 ^ (w - 1) := Nat.pow_lt_pow_right (by decide) (by omega)
  have hw : 2 ^ (w - 1) < 2 ^ w := Nat.pow_lt_pow_right (by decide) (by omega)
  have hmask : ((x + b) &&& BitVec.ofNat w (2 ^ k - 1)).toNat = (x + b).toNat % 2 ^ k := by
    rw [toNat_and, toNat_ofNat, Nat.mod_eq_of_lt (by omega), Nat.and_two_pow_sub_one_eq_mod]
  have hlow : ((x + b) &&& BitVec.ofNat w (2 ^ k - 1)).toInt =
      (x.toInt + if x.toInt < 0 then 2 ^ k - 1 else 0) % 2 ^ k := by
    have hsmall : ((x + b) &&& BitVec.ofNat w (2 ^ k - 1)).toNat < 2 ^ (w - 1) := by
      rw [hmask]
      exact lt_trans (Nat.mod_lt _ hk0) hkw
    rw [toInt_eq_toNat_of_lt_half hsmall (by omega), hmask, ← toInt_emod_two_pow _ (by omega),
      toInt_add_bias hk hb]
  have hkw' : (2 : Int) ^ k < 2 ^ (w - 1) := by exact_mod_cast hkw
  have hr0 := Int.emod_nonneg (x.toInt + if x.toInt < 0 then 2 ^ k - 1 else 0)
    (by positivity : (2 : Int) ^ k ≠ 0)
  have hr1 := Int.emod_lt_of_pos (x.toInt + if x.toInt < 0 then 2 ^ k - 1 else 0)
    (by positivity : (0 : Int) < 2 ^ k)
  have hb' := toInt_bias hk hb
  apply eq_of_toInt_eq
  rw [toInt_srem, toInt_twoPow_of_lt hk, Int.tmod_eq_emod_bias (by positivity)]
  generalize hB : (if x.toInt < 0 then (2 : Int) ^ k - 1 else 0) = B at hlow hb' hr0 hr1 ⊢
  have hB0 : 0 ≤ B ∧ B < 2 ^ k := by
    rw [← hB]
    split_ifs <;> constructor <;> linarith
  rw [toInt_sub_of_bounds] <;> rw [hlow, hb'] <;> linarith [hB0.1, hB0.2]

end Bias

end BitVec
