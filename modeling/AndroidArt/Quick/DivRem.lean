import AndroidArt.Quick.EasyMultiply

/-!
# Division and remainder by a literal

Model of `Mir2Lir::HandleEasyDivRem` of `compiler/dex/quick/gen_common.cc`, and of the
`magic_table` and `ArmMir2Lir::SmallLiteralDivRem` of `compiler/dex/quick/arm/int_arm.cc` that
it calls on Thumb2 for a literal that is not a power of two, against the `div-int` and
`rem-int` of Java.

* `javaDiv`, `javaRem` — Java's `/` and `%` on `w`-bit ints: the quotient rounded toward zero
  and wrapped, and the remainder with the sign of the dividend.
* `sub_signMask_eq_javaDiv` — subtracting the spread sign from a floored quotient rounds it
  toward zero: the last instruction of every reciprocal-multiply sequence.
* `run_handleEasyDivRem_twoPow` — by `2^k` with `1 ≤ k ≤ 29`, `HandleEasyDivRem` emits its
  shift-and-mask sequences, and they compute `javaDiv` and `javaRem`.
* `Arm.MagicTable.exact`, `Arm.magicTable_exact` — what makes an entry of `magic_table` right
  for its divisor, checked for every entry with a pattern.
* `Arm.run_smallLiteralDivRem` — for every divisor of the table, the emitted sequence computes
  `javaDiv` and `javaRem`.

A failed `DCHECK` is `none`, as in a debug build.
-/

set_option autoImplicit false

namespace Art.Quick

variable {w : Nat}

/-! ## Java's division -/

/-- Java's `n / d` on `w`-bit ints (JLS 15.17.2): the quotient rounded toward zero, wrapped, so
that `MIN_VALUE / -1` is `MIN_VALUE`. -/
def javaDiv (n d : BitVec w) : BitVec w := BitVec.ofInt w (n.toInt.tdiv d.toInt)

/-- Java's `n % d` (JLS 15.17.3): the remainder of the truncating division, with the sign of
the dividend. -/
def javaRem (n d : BitVec w) : BitVec w := BitVec.ofInt w (n.toInt.tmod d.toInt)

theorem javaDiv_of_toInt {n d q : BitVec w} (h : q.toInt = n.toInt.tdiv d.toInt) :
    q = javaDiv n d := by
  rw [javaDiv, ← h, BitVec.ofInt_toInt]

theorem sdiv_eq_javaDiv {n d : BitVec w} (h : n ≠ BitVec.intMin w ∨ d ≠ -1#w) :
    n.sdiv d = javaDiv n d :=
  javaDiv_of_toInt (BitVec.toInt_sdiv_of_ne_or_ne _ _ h)

theorem srem_eq_javaRem (n d : BitVec w) : n.srem d = javaRem n d := by
  rw [javaRem, ← BitVec.toInt_srem, BitVec.ofInt_toInt]

/-- Java's remainder is the dividend less the divisor times Java's quotient, wrapped. -/
theorem javaRem_eq_sub_mul_javaDiv (n d : BitVec w) : javaRem n d = n - d * javaDiv n d := by
  have hc : ∀ z : Int, BitVec.ofInt w z = (z : BitVec w) := fun _ => rfl
  rw [javaRem, javaDiv, Int.tmod_def, hc, hc]
  push_cast
  rw [← hc, ← hc, BitVec.ofInt_toInt, BitVec.ofInt_toInt]

/-- A quotient by a positive divisor rounded toward zero lies between zero and the dividend,
so it fits in the dividend's width. -/
theorem tdiv_bounds (n : BitVec w) {d : Int} (hd : 0 < d) :
    -2 ^ (w - 1) ≤ n.toInt.tdiv d ∧ n.toInt.tdiv d < 2 ^ (w - 1) := by
  have hlo := n.le_toInt
  have hhi := n.toInt_lt
  by_cases hn : 0 ≤ n.toInt
  · have h0 := Int.tdiv_nonneg hn hd.le
    have h1 := Int.tdiv_le_self d hn
    omega
  · -- a negative dividend: the quotient is minus that of its negation
    have h0 := Int.tdiv_nonneg (a := -n.toInt) (by omega) hd.le
    have h1 := Int.tdiv_le_self d (a := -n.toInt) (by omega)
    rw [Int.neg_tdiv] at h0 h1
    omega

/-- **The sign correction.**  A quotient floored toward minus infinity, less the dividend's sign
spread over the word (`-1` for a negative dividend), is Java's quotient. -/
theorem sub_signMask_eq_javaDiv {n d q : BitVec w} (hw : 0 < w) (hd : 0 < d.toInt)
    (hq : q.toInt + (if n.toInt < 0 then 1 else 0) = n.toInt.tdiv d.toInt) :
    q - n.sshiftRight (w - 1) = javaDiv n d := by
  apply javaDiv_of_toInt
  have hs := BitVec.toInt_signMask n hw
  have hb := tdiv_bounds n hd
  rw [BitVec.toInt_sub_of_bounds] <;> rw [hs] <;> split_ifs at hq ⊢ <;> omega

/-! ## The Thumb2 reciprocal multiplication -/

/-- `DividePattern` of `compiler_enums.h`: how the high half of the product with a magic number
becomes the quotient. -/
inductive DividePattern
  | divideNone | divide3 | divide5 | divide7
  deriving DecidableEq, Repr

namespace Arm

/-- An entry of the `magic_table` of `int_arm.cc`. -/
structure MagicTable where
  magic : Nat
  shift : Nat
  pattern : DividePattern
  deriving DecidableEq, Repr

/-- `magic_table`, indexed by the divisor. -/
def magicTable : List MagicTable :=
  [⟨0, 0, .divideNone⟩,
   ⟨0, 0, .divideNone⟩,
   ⟨0, 0, .divideNone⟩,
   ⟨0x55555556, 0, .divide3⟩,
   ⟨0, 0, .divideNone⟩,
   ⟨0x66666667, 1, .divide5⟩,
   ⟨0x2AAAAAAB, 0, .divide3⟩,
   ⟨0x92492493, 2, .divide7⟩,
   ⟨0, 0, .divideNone⟩,
   ⟨0x38E38E39, 1, .divide5⟩,
   ⟨0x66666667, 2, .divide5⟩,
   ⟨0x2E8BA2E9, 1, .divide5⟩,
   ⟨0x2AAAAAAB, 1, .divide5⟩,
   ⟨0x4EC4EC4F, 2, .divide5⟩,
   ⟨0x92492493, 3, .divide7⟩,
   ⟨0x88888889, 3, .divide7⟩]

/-- The division part of `ArmMir2Lir::SmallLiteralDivRem` for an entry, into `r_div_result`:
the magic number into `r_magic`, the double-width product with the dividend into `r_lo` and
`r_hi`, then the pattern's shift and correction by the dividend's sign. -/
def genDivideByMagic (entry : MagicTable) (ra : RegAlloc) (rDivResult : Nat) : List Lir :=
  let rMagic := ra.temp 0
  let rHi := ra.temp 1
  let rLo := ra.temp 2
  [.loadConstant rMagic entry.magic, .smull rLo rHi rMagic ra.src] ++
    match entry.pattern with
    | .divide3 => [.opRegRegRegShift .sub rDivResult rHi ra.src ⟨.asr, 31⟩]
    | .divide5 =>
      [.opRegRegImm .asr rLo ra.src 31,
       .opRegRegRegShift .rsub rDivResult rLo rHi ⟨.asr, entry.shift⟩]
    | .divide7 =>
      -- `OpRegReg(kOpAdd, r_hi, rl_src.reg)`
      [.opRegRegReg .add rHi rHi ra.src, .opRegRegImm .asr rLo ra.src 31,
       .opRegRegRegShift .rsub rDivResult rLo rHi ⟨.asr, entry.shift⟩]
    | .divideNone => []

/-- `ArmMir2Lir::SmallLiteralDivRem`: a literal below the size of `magic_table` whose entry has a
pattern.  The quotient goes to the result, or for the remainder to `r_hi`, from which
`GenEasyMultiplyTwoOps` multiplies it by the literal into `r_lo`, subtracted from the dividend.
The temporaries are `r_magic`, `r_hi`, `r_lo` and the one `GenEasyMultiplyTwoOps` would take.
A remainder by a literal that `GetEasyMultiplyTwoOps` rejects fails its `DCHECK` (`none`). -/
def smallLiteralDivRem (isDiv : Bool) (ra : RegAlloc) (lit : BitVec 32) :
    Option (Option (List Lir)) :=
  if lit.toInt < 0 ∨ (magicTable.length : Int) ≤ lit.toInt then some none
  else
    let entry := magicTable.getD lit.toNat ⟨0, 0, .divideNone⟩
    if entry.pattern = .divideNone then some none
    else
      let rHi := ra.temp 1
      let rLo := ra.temp 2
      let rDivResult := if isDiv then ra.result else rHi
      let divide := genDivideByMagic entry ra rDivResult
      if isDiv then some (some divide)
      else
        (getEasyMultiplyTwoOps lit).bind fun r =>
          r.map fun ops =>
            some (divide ++ genEasyMultiplyTwoOps rLo rDivResult (ra.temp 3) ops ++
              [.opRegRegReg .sub ra.result ra.src rLo])

end Arm

/-- `Mir2Lir::HandleEasyDivRem`: a literal of at least `2`; on Thumb2 one that is not a power
of two goes to `SmallLiteralDivRem`, elsewhere it is refused; a power of two `2^k` below
`2^30` is divided by adding the bias `2^k - 1` to a negative dividend and shifting, and its
remainder is the biased dividend's low `k` bits less the bias. -/
def handleEasyDivRem (isa : InstructionSet) (isDiv : Bool) (ra : RegAlloc) (lit : BitVec 32) :
    Option (Option (List Lir)) :=
  if lit.toInt < 2 ∨ (isa ≠ .thumb2 ∧ isPowerOfTwo (lit.signExtend 64) = false) then some none
  else if isa = .thumb2 ∧ isPowerOfTwo (lit.signExtend 64) = false then
    Arm.smallLiteralDivRem isDiv ra lit
  else
    (lowestSetBit (lit.signExtend 64)).map fun (k : Nat) =>
      if 30 ≤ k then none
      else if isDiv then
        let tReg := ra.temp 0
        if lit = 2 then
          some [.opRegRegImm .lsr tReg ra.src (32 - k), .opRegRegReg .add tReg tReg ra.src,
            .opRegRegImm .asr ra.result tReg k]
        else
          some [.opRegRegImm .asr tReg ra.src 31, .opRegRegImm .lsr tReg tReg (32 - k),
            .opRegRegReg .add tReg tReg ra.src, .opRegRegImm .asr ra.result tReg k]
      else
        let tReg1 := ra.temp 0
        let tReg2 := ra.temp 1
        if lit = 2 then
          some [.opRegRegImm .lsr tReg1 ra.src (32 - k), .opRegRegReg .add tReg2 tReg1 ra.src,
            .opRegRegImm .and tReg2 tReg2 (lit.toInt - 1),
            .opRegRegReg .sub ra.result tReg2 tReg1]
        else
          some [.opRegRegImm .asr tReg1 ra.src 31, .opRegRegImm .lsr tReg1 tReg1 (32 - k),
            .opRegRegReg .add tReg2 tReg1 ra.src, .opRegRegImm .and tReg2 tReg2 (lit.toInt - 1),
            .opRegRegReg .sub ra.result tReg2 tReg1]

/-! ## Division by a power of two -/

theorem signExtend_twoPow {k : Nat} (hk : k < 31) :
    (BitVec.twoPow 32 k).signExtend 64 = BitVec.twoPow 64 k := by
  have hpos : 0 ≤ (BitVec.twoPow 32 k).toInt := by
    rw [BitVec.toInt_twoPow_of_lt (by omega)]
    positivity
  apply BitVec.eq_of_toNat_eq
  rw [toNat_signExtend_of_nonneg hpos, BitVec.toNat_twoPow, BitVec.toNat_twoPow,
    Nat.mod_eq_of_lt (Nat.pow_lt_pow_right (by decide) (by omega)),
    Nat.mod_eq_of_lt (Nat.pow_lt_pow_right (by decide) (by omega))]

theorem run_divTwoPow (ra : RegAlloc) {k : Nat} (hk : k ≤ 29) (regs : Nat → BitVec 32) :
    run [.opRegRegImm .asr (ra.temp 0) ra.src 31, .opRegRegImm .lsr (ra.temp 0) (ra.temp 0) (32 - k),
      .opRegRegReg .add (ra.temp 0) (ra.temp 0) ra.src, .opRegRegImm .asr ra.result (ra.temp 0) k]
      regs ra.result = javaDiv (regs ra.src) (BitVec.twoPow 32 k) := by
  have h0 := ra.temp_ne_src 0
  have hsh : ((32 : Int) - k).toNat = 32 - k := by omega
  simp only [run_cons, run_nil, Lir.exec, Function.update_apply, OpKind.evalImm, OpKind.eval,
    Ne.symm h0, ↓reduceIte, hsh, Int.toNat_natCast, Int.reduceToNat]
  have hb : BitVec.IsBias (regs ra.src) ((regs ra.src).sshiftRight 31 >>> (32 - k)) k :=
    BitVec.toNat_signMask_ushiftRight _ (by omega) (by decide)
  rw [BitVec.add_comm, BitVec.sshiftRight_add_bias (by omega) hb,
    sdiv_eq_javaDiv (Or.inr (BitVec.twoPow_ne_neg_one (by omega)))]

theorem run_divTwo (ra : RegAlloc) {k : Nat} (hk : k = 1) (regs : Nat → BitVec 32) :
    run [.opRegRegImm .lsr (ra.temp 0) ra.src (32 - k), .opRegRegReg .add (ra.temp 0) (ra.temp 0) ra.src,
      .opRegRegImm .asr ra.result (ra.temp 0) k]
      regs ra.result = javaDiv (regs ra.src) (BitVec.twoPow 32 k) := by
  subst hk
  have h0 := ra.temp_ne_src 0
  simp only [run_cons, run_nil, Lir.exec, Function.update_apply, OpKind.evalImm, OpKind.eval,
    Ne.symm h0, ↓reduceIte, Int.reduceToNat, Nat.cast_one, Int.reduceSub]
  have hb : BitVec.IsBias (regs ra.src) (regs ra.src >>> 31) 1 :=
    BitVec.toNat_ushiftRight_sign _ (by decide)
  rw [BitVec.add_comm, BitVec.sshiftRight_add_bias (by omega) hb,
    sdiv_eq_javaDiv (Or.inr (BitVec.twoPow_ne_neg_one (by omega)))]

/-- The mask `lit - 1` of a power of two as the emitted immediate. -/
theorem ofInt_two_pow_sub_one (k : Nat) :
    BitVec.ofInt w ((2 : Int) ^ k - 1) = BitVec.ofNat w (2 ^ k - 1) := by
  rw [← BitVec.ofInt_natCast]
  congr 1
  have := Nat.one_le_two_pow (n := k)
  push_cast [this]
  rfl

theorem ofInt_twoPow_sub_one {k : Nat} (hk : k + 1 < w) :
    BitVec.ofInt w ((BitVec.twoPow w k).toInt - 1) = BitVec.ofNat w (2 ^ k - 1) := by
  rw [BitVec.toInt_twoPow_of_lt hk, ofInt_two_pow_sub_one]

theorem run_remTwoPow (ra : RegAlloc) {k : Nat} (hk : k ≤ 29) (regs : Nat → BitVec 32) :
    run [.opRegRegImm .asr (ra.temp 0) ra.src 31, .opRegRegImm .lsr (ra.temp 0) (ra.temp 0) (32 - k),
      .opRegRegReg .add (ra.temp 1) (ra.temp 0) ra.src,
      .opRegRegImm .and (ra.temp 1) (ra.temp 1) ((BitVec.twoPow 32 k).toInt - 1),
      .opRegRegReg .sub ra.result (ra.temp 1) (ra.temp 0)]
      regs ra.result = javaRem (regs ra.src) (BitVec.twoPow 32 k) := by
  have h0 := ra.temp_ne_src 0
  have h01 : ra.temp 0 ≠ ra.temp 1 := ra.temp_injective.ne (by decide)
  have hsh : ((32 : Int) - k).toNat = 32 - k := by omega
  simp only [run_cons, run_nil, Lir.exec, Function.update_apply, OpKind.evalImm, OpKind.eval,
    Ne.symm h0, h01, ↓reduceIte, hsh, Int.reduceToNat, ofInt_twoPow_sub_one (by omega : k + 1 < 32)]
  have hb : BitVec.IsBias (regs ra.src) ((regs ra.src).sshiftRight 31 >>> (32 - k)) k :=
    BitVec.toNat_signMask_ushiftRight _ (by omega) (by decide)
  rw [BitVec.add_comm, BitVec.and_add_bias_sub (by omega) hb, srem_eq_javaRem]

theorem run_remTwo (ra : RegAlloc) {k : Nat} (hk : k = 1) (regs : Nat → BitVec 32) :
    run [.opRegRegImm .lsr (ra.temp 0) ra.src (32 - k), .opRegRegReg .add (ra.temp 1) (ra.temp 0) ra.src,
      .opRegRegImm .and (ra.temp 1) (ra.temp 1) ((BitVec.twoPow 32 k).toInt - 1),
      .opRegRegReg .sub ra.result (ra.temp 1) (ra.temp 0)]
      regs ra.result = javaRem (regs ra.src) (BitVec.twoPow 32 k) := by
  subst hk
  have h0 := ra.temp_ne_src 0
  have h01 : ra.temp 0 ≠ ra.temp 1 := ra.temp_injective.ne (by decide)
  simp only [run_cons, run_nil, Lir.exec, Function.update_apply, OpKind.evalImm, OpKind.eval,
    Ne.symm h0, h01, ↓reduceIte, Int.reduceToNat, Nat.cast_one, Int.reduceSub,
    ofInt_twoPow_sub_one (by omega : 1 + 1 < 32)]
  have hb : BitVec.IsBias (regs ra.src) (regs ra.src >>> 31) 1 :=
    BitVec.toNat_ushiftRight_sign _ (by decide)
  rw [BitVec.add_comm, BitVec.and_add_bias_sub (by omega) hb, srem_eq_javaRem]

theorem twoPow_eq_two_iff {k : Nat} (hw : 1 < w) (hk : k < w) :
    BitVec.twoPow w k = 2 ↔ k = 1 := by
  have h2 : 2 < 2 ^ w := by
    calc 2 = 2 ^ 1 := rfl
      _ < 2 ^ w := Nat.pow_lt_pow_right (by decide) hw
  rw [← BitVec.toNat_inj, BitVec.toNat_twoPow, Nat.mod_eq_of_lt (Nat.pow_lt_pow_right (by decide) hk),
    show (2 : BitVec w).toNat = 2 % 2 ^ w from rfl, Nat.mod_eq_of_lt h2]
  constructor
  · intro h
    exact Nat.pow_right_injective (le_refl 2) (h.trans (by rfl : 2 = 2 ^ 1))
  · rintro rfl
    rfl

theorem run_handleEasyDivRem_twoPow (isa : InstructionSet) (isDiv : Bool) (ra : RegAlloc)
    {k : Nat} (hk1 : 1 ≤ k) (hk : k ≤ 29) :
    ∃ code, handleEasyDivRem isa isDiv ra (BitVec.twoPow 32 k) = some (some code) ∧
      ∀ regs : Nat → BitVec 32, run code regs ra.result =
        if isDiv then javaDiv (regs ra.src) (BitVec.twoPow 32 k)
        else javaRem (regs ra.src) (BitVec.twoPow 32 k) := by
  have hse := signExtend_twoPow (k := k) (by omega)
  have hpow : isPowerOfTwo ((BitVec.twoPow 32 k).signExtend 64) = true := by
    rw [hse]
    exact isPowerOfTwo_twoPow (by omega)
  have hlow : lowestSetBit ((BitVec.twoPow 32 k).signExtend 64) = some k := by
    rw [hse]
    exact lowestSetBit_twoPow (by omega)
  have h2 : ¬ (BitVec.twoPow 32 k).toInt < 2 := by
    rw [BitVec.toInt_twoPow_of_lt (by omega)]
    have : (2 : Int) ^ 1 ≤ 2 ^ k := pow_le_pow_right₀ (by norm_num) hk1
    omega
  have h30 : ¬ 30 ≤ k := by omega
  simp only [handleEasyDivRem, h2, hpow, hlow, h30, false_or, Bool.true_eq_false, and_false,
    ↓reduceIte, Option.map_some, Option.some.injEq]
  simp only [twoPow_eq_two_iff (by decide : 1 < 32) (by omega : k < 32)]
  cases isDiv <;> by_cases h1 : k = 1 <;>
    simp only [h1, Bool.false_eq_true, ↓reduceIte, Option.some.injEq, exists_eq_left']
  · exact run_remTwo ra rfl
  · exact run_remTwoPow ra hk
  · exact run_divTwo ra rfl
  · exact run_divTwoPow ra hk

/-! ## Division by a reciprocal -/

section Magic

variable {w : Nat}

/-- A magic number is right for the divisor `d` on `w`-bit registers when it is
`2^(w + shift) / d` rounded up by an error `e` with `e * 2^(w-1) ≤ 2^(w + shift)`, and the
pattern reads it with the sign it has as a signed word: `Divide3` (which does not shift) and
`Divide5` a positive one, `Divide7` a negative one, to which it adds the dividend back. -/
def magicExact (w magic shift : Nat) (pattern : DividePattern) (d : Nat) : Bool :=
  decide (2 ^ (w + shift) < magic * d) &&
    decide ((magic * d - 2 ^ (w + shift)) * 2 ^ (w - 1) ≤ 2 ^ (w + shift)) &&
    match pattern with
    | .divide3 => shift == 0 && decide (magic < 2 ^ (w - 1))
    | .divide5 => decide (magic < 2 ^ (w - 1))
    | .divide7 => decide (2 ^ (w - 1) ≤ magic) && decide (magic < 2 ^ w)
    | .divideNone => false

/-- The rounding of a right magic number: the floored product over `2^(w + s)`, plus one for a
negative dividend, is the truncated quotient of every word. -/
theorem magic_add_sign {M d s : Nat} (hd : 0 < d) (h1 : 2 ^ (w + s) < M * d)
    (h2 : (M * d - 2 ^ (w + s)) * 2 ^ (w - 1) ≤ 2 ^ (w + s)) (n : BitVec w) :
    (M : Int) * n.toInt / 2 ^ (w + s) + (if n.toInt < 0 then 1 else 0) = n.toInt.tdiv d := by
  have h1' : (2 : Int) ^ (w + s) < M * d := by exact_mod_cast h1
  have h2' : ((M * d - 2 ^ (w + s) : Nat) : Int) * 2 ^ (w - 1) ≤ 2 ^ (w + s) := by
    exact_mod_cast h2
  rw [Nat.cast_sub h1.le] at h2'
  push_cast at h2'
  exact Int.ediv_magic_add_sign (e := (M : Int) * d - 2 ^ (w + s)) (B := 2 ^ (w - 1))
    (by exact_mod_cast hd) (by positivity) (by ring) (by linarith) h2' n.le_toInt n.toInt_lt

/-- `2^w` is twice `2^(w-1)`, the bound of a signed word. -/
theorem two_pow_eq_two_mul (hw : 0 < w) : (2 : Int) ^ w = 2 * 2 ^ (w - 1) := by
  rw [← pow_succ', Nat.sub_add_cancel hw]

theorem toInt_ofInt_of_lt_half (hw : 0 < w) {M : Nat} (h : M < 2 ^ (w - 1)) :
    (BitVec.ofInt w (M : Int)).toInt = M := by
  have h' : (M : Int) < 2 ^ (w - 1) := by exact_mod_cast h
  have := two_pow_eq_two_mul hw
  rw [BitVec.toInt_ofInt]
  apply Int.bmod_eq_of_le_mul_two <;> push_cast <;> omega

theorem toInt_ofInt_of_ge_half (hw : 0 < w) {M : Nat} (h1 : 2 ^ (w - 1) ≤ M) (h2 : M < 2 ^ w) :
    (BitVec.ofInt w (M : Int)).toInt = M - 2 ^ w := by
  have h1' : (2 : Int) ^ (w - 1) ≤ M := by exact_mod_cast h1
  have h2' : (M : Int) < 2 ^ w := by exact_mod_cast h2
  have := two_pow_eq_two_mul hw
  rw [BitVec.toInt_ofInt, Int.bmod_def, Int.emod_eq_of_lt (by omega) (by push_cast; omega),
    if_neg (by push_cast; omega)]
  push_cast
  rfl

/-- The high half of the product with a positive magic number, shifted: `M * n / 2^(w + s)`. -/
theorem toInt_mulHigh_sshiftRight (hw : 0 < w) {M : Nat} (hM : M < 2 ^ (w - 1)) (x : BitVec w)
    (s : Nat) :
    ((mulHigh (BitVec.ofInt w (M : Int)) x).sshiftRight s).toInt = M * x.toInt / 2 ^ (w + s) := by
  rw [BitVec.toInt_sshiftRight_eq_ediv, toInt_mulHigh _ _ hw, toInt_ofInt_of_lt_half hw hM,
    Int.ediv_ediv_of_nonneg (by positivity), ← pow_add]

/-- With a negative magic number, `M - 2^w` as a signed word, the dividend added back to the
high half makes up for the missing `2^w * n`, and the sum does not overflow. -/
theorem toInt_mulHigh_add_sshiftRight (hw : 0 < w) {M : Nat} (h1 : 2 ^ (w - 1) ≤ M)
    (h2 : M < 2 ^ w) (x : BitVec w) (s : Nat) :
    ((mulHigh (BitVec.ofInt w (M : Int)) x + x).sshiftRight s).toInt =
      M * x.toInt / 2 ^ (w + s) := by
  have hlo : -2 ^ (w - 1) ≤ x.toInt := x.le_toInt
  have hhi : x.toInt < 2 ^ (w - 1) := x.toInt_lt
  have hM1 : (2 : Int) ^ (w - 1) ≤ M := by exact_mod_cast h1
  have hM2 : (M : Int) < 2 ^ w := by exact_mod_cast h2
  have hpow := two_pow_eq_two_mul hw
  have hpos : (0 : Int) < 2 ^ (w - 1) := by positivity
  have hsum : (mulHigh (BitVec.ofInt w (M : Int)) x).toInt + x.toInt = M * x.toInt / 2 ^ w := by
    rw [toInt_mulHigh _ _ hw, toInt_ofInt_of_ge_half hw h1 h2, ← Int.add_mul_ediv_right _ _
      (by positivity)]
    congr 1
    ring
  have hb1 : -2 ^ (w - 1) ≤ (M : Int) * x.toInt / 2 ^ w := by
    rw [Int.le_ediv_iff_mul_le (by positivity)]
    by_cases hx : 0 ≤ x.toInt
    · nlinarith
    · nlinarith
  have hb2 : (M : Int) * x.toInt / 2 ^ w < 2 ^ (w - 1) := by
    rw [Int.ediv_lt_iff_lt_mul (by positivity)]
    by_cases hx : 0 ≤ x.toInt
    · nlinarith
    · nlinarith
  rw [BitVec.toInt_sshiftRight_eq_ediv, BitVec.toInt_add_of_bounds (by rw [hsum]; exact hb1)
    (by rw [hsum]; exact hb2), hsum, Int.ediv_ediv_of_nonneg (by positivity), ← pow_add]

theorem natCast_toNat_of_nonneg {d : BitVec w} (h : 0 ≤ d.toInt) : (d.toNat : Int) = d.toInt := by
  rw [BitVec.toInt_eq_toNat_of_msb]
  rw [BitVec.msb_eq_toInt]
  simp only [decide_eq_false_iff_not, not_lt]
  exact h

/-- **Division by a magic number.**  A floored quotient `M * n / 2^(w + s)` of a right magic
number, less the dividend's spread sign, is Java's quotient. -/
theorem sub_signMask_eq_javaDiv_of_magic (hw : 0 < w) {M s : Nat} {d : BitVec w}
    (hpos : 0 < d.toInt) (h1 : 2 ^ (w + s) < M * d.toNat)
    (h2 : (M * d.toNat - 2 ^ (w + s)) * 2 ^ (w - 1) ≤ 2 ^ (w + s)) {q x : BitVec w}
    (hq : q.toInt = M * x.toInt / 2 ^ (w + s)) :
    q - x.sshiftRight (w - 1) = javaDiv x d := by
  have hn := natCast_toNat_of_nonneg hpos.le
  have hmagic := magic_add_sign (by omega) h1 h2 x
  rw [hn] at hmagic
  exact sub_signMask_eq_javaDiv hw hpos (by rw [hq]; exact hmagic)

end Magic

/-! ## Division by a reciprocal on Thumb2 -/

namespace Arm

/-- An entry of `magic_table` is right for the divisor `d` on the 32-bit registers. -/
def MagicTable.exact (m : MagicTable) (d : Nat) : Bool :=
  magicExact 32 m.magic m.shift m.pattern d

/-- Every entry of `magic_table` with a pattern is right for its index. -/
theorem magicTable_exact :
    ∀ d < 16, (magicTable.getD d ⟨0, 0, .divideNone⟩).pattern ≠ .divideNone →
      (magicTable.getD d ⟨0, 0, .divideNone⟩).exact d = true := by
  decide

/-- The registers of the division part: the three temporaries hold neither the operand nor
each other. -/
theorem temps_ne (ra : RegAlloc) :
    ra.temp 0 ≠ ra.src ∧ ra.temp 1 ≠ ra.src ∧ ra.temp 2 ≠ ra.src ∧ ra.temp 0 ≠ ra.temp 1 ∧
      ra.temp 0 ≠ ra.temp 2 ∧ ra.temp 1 ≠ ra.temp 2 :=
  ⟨ra.temp_ne_src 0, ra.temp_ne_src 1, ra.temp_ne_src 2, ra.temp_injective.ne (by decide),
    ra.temp_injective.ne (by decide), ra.temp_injective.ne (by decide)⟩

/-- **The division part divides.**  For an entry that is right for a positive literal, the
sequence leaves Java's quotient in `r_div_result`, whichever register that is. -/
theorem run_genDivideByMagic (ra : RegAlloc) {entry : MagicTable} {lit : BitVec 32}
    (hpos : 0 < lit.toInt) (hex : entry.exact lit.toNat = true) (rd : Nat)
    (regs : Nat → BitVec 32) :
    run (genDivideByMagic entry ra rd) regs rd = javaDiv (regs ra.src) lit := by
  obtain ⟨h0, h1, h2, -, -, h12⟩ := temps_ne ra
  simp only [MagicTable.exact, magicExact, Bool.and_eq_true, decide_eq_true_eq] at hex
  obtain ⟨⟨hlo, hhi⟩, hp⟩ := hex
  cases hpat : entry.pattern <;> rw [hpat] at hp <;>
    simp only [genDivideByMagic, hpat, List.cons_append, List.nil_append, run_cons, run_nil,
      Lir.exec, Function.update_apply, OpKind.evalImm, OpKind.eval, Shift.apply, Ne.symm h0,
      Ne.symm h1, Ne.symm h2, h12, ↓reduceIte, Int.reduceToNat]
  · simp at hp
  · -- `Divide3`: the high half, not shifted
    simp only [Bool.and_eq_true, beq_iff_eq, decide_eq_true_eq] at hp
    obtain ⟨hs, hM⟩ := hp
    rw [hs] at hlo hhi
    refine sub_signMask_eq_javaDiv_of_magic (by decide) hpos hlo hhi ?_
    rw [toInt_mulHigh _ _ (by decide), toInt_ofInt_of_lt_half (by decide) hM]
  · -- `Divide5`: a positive magic number, shifted
    simp only [decide_eq_true_eq] at hp
    exact sub_signMask_eq_javaDiv_of_magic (by decide) hpos hlo hhi
      (toInt_mulHigh_sshiftRight (by decide) hp _ _)
  · -- `Divide7`: a negative magic number, the dividend added back
    simp only [Bool.and_eq_true, decide_eq_true_eq] at hp
    exact sub_signMask_eq_javaDiv_of_magic (by decide) hpos hlo hhi
      (toInt_mulHigh_add_sshiftRight (by decide) hp.1 hp.2 _ _)

/-- The division part writes the three temporaries and `r_div_result` only. -/
theorem not_mem_writes_genDivideByMagic (ra : RegAlloc) (entry : MagicTable) {rd r : Nat}
    (hr : r ∉ [ra.temp 0, ra.temp 1, ra.temp 2, rd]) :
    ∀ l ∈ genDivideByMagic entry ra rd, r ∉ l.writes := by
  simp only [List.mem_cons, List.not_mem_nil, or_false, not_or] at hr
  intro l hl
  cases hpat : entry.pattern <;>
    simp only [genDivideByMagic, hpat, List.cons_append, List.nil_append, List.mem_cons,
      List.not_mem_nil, or_false] at hl <;>
    rcases hl with rfl | rfl | rfl | rfl | rfl <;> simp_all [Lir.writes]

/-- **The remainder part.**  With Java's quotient in `r_hi`, the easy multiplication by the
literal into `r_lo` and the subtraction from the dividend leave Java's remainder. -/
theorem run_remainder (ra : RegAlloc) {lit : BitVec 32} {ops : EasyMultiplyOp × EasyMultiplyOp}
    (hpos : 0 < lit.toInt) (hops : getEasyMultiplyTwoOps lit = some (some ops))
    (regs : Nat → BitVec 32) (hq : regs (ra.temp 1) = javaDiv (regs ra.src) lit) :
    run (genEasyMultiplyTwoOps (ra.temp 2) (ra.temp 1) (ra.temp 3) ops ++
      [.opRegRegReg .sub ra.result ra.src (ra.temp 2)]) regs ra.result =
      javaRem (regs ra.src) lit := by
  have hz : lit ≠ 0 := by
    rintro rfl
    simp at hpos
  obtain ⟨hm, h₁, h₂⟩ := getEasyMultiplyTwoOps_multiplier hops hz
  have h31 : ra.temp 3 ≠ ra.temp 1 := ra.temp_injective.ne (by decide)
  have hsrc : run (genEasyMultiplyTwoOps (ra.temp 2) (ra.temp 1) (ra.temp 3) ops) regs ra.src =
      regs ra.src :=
    run_of_not_mem_writes (not_mem_writes_genEasyMultiplyTwoOps (ra.temp_ne_src 2).symm
      (ra.temp_ne_src 3).symm) regs
  rw [run_append, run_cons, run_nil, Lir.exec, Function.update_apply, if_pos rfl, OpKind.eval,
    run_genEasyMultiplyTwoOps regs h₁ h₂ h31, hsrc, hm, hq, javaRem_eq_sub_mul_javaDiv, mul_comm]

/-- The literals of the table with a pattern are ones `GetEasyMultiplyTwoOps` accepts. -/
theorem getEasyMultiplyTwoOps_magicTable :
    ∀ d < 16, (magicTable.getD d ⟨0, 0, .divideNone⟩).pattern ≠ .divideNone →
      getEasyMultiplyTwoOps (BitVec.ofNat 32 d) ≠ some none := by
  decide

/-- **Reciprocal-multiply division on Thumb2 is exact**: for every divisor of `magic_table` with
a pattern, `SmallLiteralDivRem` emits code, and the code leaves Java's quotient, or Java's
remainder, of every `int` in the result register. -/
theorem run_smallLiteralDivRem (isDiv : Bool) (ra : RegAlloc) {lit : BitVec 32}
    (h3 : 3 ≤ lit.toInt) (h15 : lit.toInt ≤ 15)
    (hpat : (magicTable.getD lit.toNat ⟨0, 0, .divideNone⟩).pattern ≠ .divideNone) :
    ∃ code, smallLiteralDivRem isDiv ra lit = some (some code) ∧
      ∀ regs : Nat → BitVec 32, run code regs ra.result =
        if isDiv then javaDiv (regs ra.src) lit else javaRem (regs ra.src) lit := by
  have hpos : 0 < lit.toInt := by omega
  have hlit := natCast_toNat_of_nonneg hpos.le
  have hn : lit.toNat < 16 := by omega
  have hex := magicTable_exact lit.toNat hn hpat
  have hrange : ¬ (lit.toInt < 0 ∨ (magicTable.length : Int) ≤ lit.toInt) := by
    simp only [magicTable, List.length_cons, List.length_nil]
    omega
  simp only [smallLiteralDivRem, hrange, hpat, ↓reduceIte]
  cases isDiv
  · -- the remainder: `GetEasyMultiplyTwoOps` accepts every literal of the table
    have hne := getEasyMultiplyTwoOps_terminates (by omega : 2 ≤ lit.toInt)
    have hns := getEasyMultiplyTwoOps_magicTable lit.toNat hn hpat
    rw [BitVec.ofNat_toNat, BitVec.setWidth_eq] at hns
    obtain ⟨r, hr⟩ := Option.ne_none_iff_exists'.mp hne
    obtain ⟨ops, rfl⟩ := Option.ne_none_iff_exists'.mp fun h => hns (h ▸ hr)
    simp only [Bool.false_eq_true, ↓reduceIte, hr, Option.bind_some, Option.map_some,
      Option.some.injEq, exists_eq_left']
    intro regs
    have hsrc : run (genDivideByMagic (magicTable.getD lit.toNat ⟨0, 0, .divideNone⟩) ra
        (ra.temp 1)) regs ra.src = regs ra.src :=
      run_of_not_mem_writes (not_mem_writes_genDivideByMagic ra _
        (by simp [Ne.symm (ra.temp_ne_src 0), Ne.symm (ra.temp_ne_src 1),
          Ne.symm (ra.temp_ne_src 2)])) regs
    rw [List.append_assoc, run_append, run_remainder ra hpos hr _
      (by rw [hsrc]; exact run_genDivideByMagic ra hpos hex _ regs), hsrc]
  · simp only [↓reduceIte, Option.some.injEq, exists_eq_left']
    exact run_genDivideByMagic ra hpos hex _

end Arm

end Art.Quick
