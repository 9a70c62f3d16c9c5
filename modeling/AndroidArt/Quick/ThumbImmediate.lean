import AndroidArt.Lib.BitLength
import AndroidArt.Lib.Word
import Mathlib.Data.Nat.Factorization.Basic

/-!
# Thumb2 modified immediates

The data-processing instructions of Thumb2 take a 12-bit immediate `i:imm3:imm8` that stands for
a 32-bit value: a byte, a byte repeated in a fixed pattern, or a byte with its top bit set rotated
right by `8` to `31` places (`thumbExpandImm`, the architecture's `ThumbExpandImm`).  The quick
compiler's ARM back end finds the encoding of a constant and places it in the instruction word.

## The model

* `leadingZeros` — the static `LeadingZeros` of `utility_arm.cc`: a binary search that halves
  its shift count from `16` down to `1`.
* `modifiedImmediate` — `ArmMir2Lir::ModifiedImmediate`: the four replicated-byte patterns, then
  the rotation (`rotatedImmediate`), or `-1`.
* `expandImmediate` — the static `ExpandImmediate` of `target_arm.cc`, which the disassembler
  uses to print the operand.
* `Encoding`, `ArmLir.assemble` — the entries of `EncodingMap` for the instructions
  `LoadConstantNoClobber` emits, and the operand placement of `EncodeLIRs` (`kFmtBitBlt`,
  `kFmtModImm`, `kFmtImm16`).
* `ArmLir.exec` — what the assembled instruction does, read from its fields as the architecture
  reads them.
* `loadConstantNoClobber` — `ArmMir2Lir::LoadConstantNoClobber` for a core register.

## Results

* `leadingZeros_eq` — `LeadingZeros(v)` is `32 - size v`.
* `rotatedImmediate_of_eq_mul`, `rotatedImmediate_of_odd_wide` — the rotation case finds the
  rotation of a byte with its top bit set, and gives `-1` when the odd part is wider.
* `thumbExpandImm_modifiedImmediate`, `modifiedImmediate_nonneg`, `modifiedImmediate_eq_neg_one` —
  `ModifiedImmediate` returns a 12-bit encoding of the value exactly on the values of
  `IsModifiedImmediate`, and `-1` on the others.
* `expandImmediate_of_thumbExpandImm` — `ExpandImmediate` agrees with `ThumbExpandImm`.
* `exec_movI8M`, `exec_mvnI8M`, `exec_movImm16`, `exec_movImm16H`, `exec_movImm` — the assembled
  words do what their mnemonics say, with the operands read back from the fields.
* `loadConstantNoClobber_loads` — every sequence `LoadConstantNoClobber` emits loads the constant
  and leaves the other registers alone.

The model is the release build: the `DCHECK`s of `EncodeLIRs` on register operands and on the
size of a 16-bit encoding are left out.
-/

set_option autoImplicit false

namespace Art.Quick.Arm

/-! ## `LeadingZeros` -/

/-- One pass of the loop of `LeadingZeros` with shift count `count`, on `(n, val)`. -/
def leadingZerosStep (count : Nat) (s : Int × BitVec 32) : Int × BitVec 32 :=
  let alt := s.2 >>> count
  if alt ≠ 0 then (s.1 - count, alt) else s

/-- The `do`-`while` loop of `LeadingZeros` from `count = 2^k` down: `count >>= 1` halves the
count, and the loop stops after the pass with `count = 1`. -/
def leadingZerosLoop : Nat → Int × BitVec 32 → Int × BitVec 32
  | 0, s => leadingZerosStep 1 s
  | k + 1, s => leadingZerosLoop k (leadingZerosStep (2 ^ (k + 1)) s)

/-- `LeadingZeros(val)`: the loop starts with `count = 16` and `n = 32`, and returns `n - val`.
The `int32_t` minus `uint32_t` is computed unsigned and converted back, which gives the integer
difference since both are small. -/
def leadingZeros (val : BitVec 32) : Int :=
  let s := leadingZerosLoop 4 (32, val)
  s.1 - s.2.toNat

section LeadingZeros

open BitLength

/-- A pass with count `c` on a value of at most `2c` digits keeps `n - size val` and leaves at
most `c` digits. -/
theorem leadingZerosStep_spec {c : Nat} {s : Int × BitVec 32} (hs : s.2.toNat < 2 ^ (2 * c)) :
    (leadingZerosStep c s).1 - (leadingZerosStep c s).2.toNat.size = s.1 - s.2.toNat.size ∧
      (leadingZerosStep c s).2.toNat < 2 ^ c := by
  have hshift : (s.2 >>> c).toNat = s.2.toNat / 2 ^ c := by
    rw [BitVec.toNat_ushiftRight, Nat.shiftRight_eq_div_pow]
  by_cases hc : 2 ^ c ≤ s.2.toNat
  · have halt : s.2 >>> c ≠ 0 := by
      intro h0
      have : s.2.toNat / 2 ^ c = 0 := by rw [← hshift, h0]; rfl
      exact absurd this (Nat.pos_iff_ne_zero.1 (Nat.div_pos hc (Nat.two_pow_pos c)))
    simp only [leadingZerosStep, if_pos halt, hshift]
    refine ⟨?_, ?_⟩
    · rw [size_div_two_pow hc]
      push_cast
      omega
    · rw [Nat.div_lt_iff_lt_mul (Nat.two_pow_pos c), ← Nat.pow_add]
      rwa [show c + c = 2 * c by omega]
  · have halt : ¬ s.2 >>> c ≠ 0 := by
      intro h
      apply h
      apply BitVec.eq_of_toNat_eq
      rw [hshift, Nat.div_eq_of_lt (by omega)]
      rfl
    simp only [leadingZerosStep, if_neg halt, true_and]
    omega

/-- The loop from `count = 2^k` on a value of at most `2^(k+1)` digits returns `n - size val`. -/
theorem leadingZerosLoop_spec (k : Nat) (s : Int × BitVec 32) (hs : s.2.toNat < 2 ^ 2 ^ (k + 1)) :
    (leadingZerosLoop k s).1 - (leadingZerosLoop k s).2.toNat = s.1 - s.2.toNat.size := by
  induction k generalizing s with
  | zero =>
    obtain ⟨hkeep, hlt⟩ := leadingZerosStep_spec (c := 1) (s := s) (by simpa using hs)
    rw [leadingZerosLoop, ← hkeep, size_of_lt_two (by simpa using hlt)]
  | succ k ih =>
    have hs' : s.2.toNat < 2 ^ (2 * 2 ^ (k + 1)) := by
      rwa [← Nat.pow_succ']
    obtain ⟨hkeep, hlt⟩ := leadingZerosStep_spec hs'
    rw [leadingZerosLoop, ih _ hlt, hkeep]

/-- `LeadingZeros(val)` is the number of leading zeros of the 32-bit `val`. -/
theorem leadingZeros_eq (val : BitVec 32) : leadingZeros val = 32 - (val.toNat.size : Int) := by
  have h := leadingZerosLoop_spec 4 (32, val) val.isLt
  simpa [leadingZeros] using h

end LeadingZeros

/-! ## `ModifiedImmediate` -/

/-- The rotation case of `ModifiedImmediate`: the value's leading zeros, and its trailing zeros as
`32 - LeadingZeros(~value & (value - 1))`.  A run of more than eight bits is refused with `-1`;
otherwise the value is shifted left past its leading one and the seven bits after it are kept as
`bcdefgh`, with the rotation `8 + z_leading` in the five bits above. -/
def rotatedImmediate (value : BitVec 32) : Int :=
  let zLeading := leadingZeros value
  let zTrailing := 32 - leadingZeros (~~~value &&& (value - 1))
  if zLeading + zTrailing < 24 then -1
  else
    let value := value <<< (zLeading + 1).toNat
    let value := value >>> 25
    (value ||| BitVec.ofInt 32 (8 + zLeading) <<< 7).toInt

/-- `ModifiedImmediate(value)`: the `i:imm3:a:bcdefgh` encoding of `value`, or `-1`.  The four
replicated-byte patterns are tried first (`value = 0` takes the encoding `0`), then the
rotation. -/
def modifiedImmediate (value : BitVec 32) : Int :=
  let b0 := value &&& 0xff
  if value ≤ 0xff then b0.toInt
  else if value = (b0 <<< 16 ||| b0) then ((0x1 : BitVec 32) <<< 8 ||| b0).toInt
  else if value = (b0 <<< 24 ||| b0 <<< 16 ||| b0 <<< 8 ||| b0) then
    ((0x3 : BitVec 32) <<< 8 ||| b0).toInt
  else
    let b0 := (value >>> 8) &&& 0xff
    if value = (b0 <<< 24 ||| b0 <<< 8) then ((0x2 : BitVec 32) <<< 8 ||| b0).toInt
    else rotatedImmediate value

section Rotation

open BitLength

/-- `32 - LeadingZeros(~v & (v - 1))` is the number of trailing zeros of `v = 2^f * (2k + 1)`. -/
theorem trailingZeros_eq {v : BitVec 32} {f k : Nat} (hv : v.toNat = 2 ^ (f + 1) * k + 2 ^ f) :
    32 - leadingZeros (~~~v &&& (v - 1)) = f := by
  have hone : (1 : BitVec 32) ≤ v := by
    rw [BitVec.le_def, hv]
    have := Nat.one_le_two_pow (n := f)
    show 1 % 2 ^ 32 ≤ _
    omega
  have hmask : (~~~v &&& (v - 1)).toNat = 2 ^ f - 1 := by
    rw [BitVec.toNat_and, BitVec.toNat_not, BitVec.toNat_sub_of_le hone, hv]
    exact not_and_sub_one_lowest f k (hv ▸ v.isLt)
  rw [leadingZeros_eq, hmask, size_two_pow_sub_one]
  omega

/-- The leading and trailing counts of `v = 2^t * m` with `m` odd: their sum is `32 - size m`. -/
theorem leadingZeros_add_trailingZeros {v : BitVec 32} {t m : Nat} (hm : Odd m)
    (hv : v.toNat = 2 ^ t * m) :
    leadingZeros v = 32 - ((m.size + t : Nat) : Int) ∧
      32 - leadingZeros (~~~v &&& (v - 1)) = t := by
  obtain ⟨k, rfl⟩ := hm
  have hm0 : 0 < 2 * k + 1 := by omega
  refine ⟨?_, trailingZeros_eq (k := k) ?_⟩
  · rw [leadingZeros_eq, hv, Nat.mul_comm, size_mul_two_pow hm0]
  · rw [hv, Nat.mul_add, Nat.pow_succ, Nat.mul_assoc, Nat.mul_one, Nat.mul_comm 2 k]

/-- Past the run test, `rotatedImmediate` keeps the seven bits after the leading one and puts the
rotation `8 + z_leading` above them. -/
theorem rotatedImmediate_of_run {v : BitVec 32} {zl : Nat} (hzl : leadingZeros v = zl)
    (hzl23 : zl ≤ 23) (hrun : ¬ leadingZeros v + (32 - leadingZeros (~~~v &&& (v - 1))) < 24) :
    rotatedImmediate v = ((v.toNat * 2 ^ (zl + 1) % 2 ^ 32 / 2 ^ 25 + (8 + zl) * 128 : Nat) : Int) := by
  have hlow : ((v <<< (zl + 1)) >>> 25).toNat = v.toNat * 2 ^ (zl + 1) % 2 ^ 32 / 2 ^ 25 := by
    rw [BitVec.toNat_ushiftRight, BitVec.toNat_shiftLeft, Nat.shiftLeft_eq, Nat.shiftRight_eq_div_pow]
  have hlow7 : v.toNat * 2 ^ (zl + 1) % 2 ^ 32 / 2 ^ 25 < 2 ^ 7 := by
    rw [Nat.div_lt_iff_lt_mul (Nat.two_pow_pos 25)]
    exact Nat.mod_lt _ (Nat.two_pow_pos 32)
  have hrot : (BitVec.ofInt 32 (8 + (zl : Int)) <<< 7).toNat = (8 + zl) <<< 7 := by
    rw [BitVec.toNat_shiftLeft, show (8 + (zl : Int)) = ((8 + zl : Nat) : Int) by push_cast; rfl,
      BitVec.ofInt_natCast, BitVec.toNat_ofNat, Nat.shiftLeft_eq, Nat.shiftLeft_eq]
    rw [Nat.mod_eq_of_lt (by omega), Nat.mod_eq_of_lt (by omega)]
  have hor : ((v <<< (zl + 1)) >>> 25 ||| BitVec.ofInt 32 (8 + (zl : Int)) <<< 7).toNat =
      v.toNat * 2 ^ (zl + 1) % 2 ^ 32 / 2 ^ 25 + (8 + zl) * 128 := by
    rw [BitVec.toNat_or, hlow, hrot, Word.or_shiftLeft_eq_add hlow7]
    rfl
  simp only [rotatedImmediate]
  rw [if_neg hrun]
  simp only [hzl]
  rw [show ((zl : Int) + 1).toNat = zl + 1 by omega, BitVec.toInt_eq_toNat_of_lt (by omega), hor]

/-- A word `y * 2^s` with `y` a byte with its top bit set is shifted by at most `24`. -/
theorem shift_le_of_eq_mul {v : BitVec 32} {y s : Nat} (hy : 128 ≤ y) (hv : v.toNat = y * 2 ^ s) :
    s ≤ 24 := by
  have h : 2 ^ (7 + s) < 2 ^ 32 :=
    calc 2 ^ (7 + s) = 2 ^ 7 * 2 ^ s := Nat.pow_add 2 7 s
      _ ≤ y * 2 ^ s := Nat.mul_le_mul_right _ hy
      _ = v.toNat := hv.symm
      _ < 2 ^ 32 := v.isLt
  have := (Nat.pow_lt_pow_iff_right (by decide : 1 < 2)).1 h
  omega

/-- A byte `y` with its top bit set, shifted left by `s > 0`, is encoded as `bcdefgh` from `y`
under the rotation `32 - s`. -/
theorem rotatedImmediate_of_eq_mul {v : BitVec 32} {y s : Nat} (hy : 128 ≤ y) (hy' : y < 256)
    (hs : 0 < s) (hv : v.toNat = y * 2 ^ s) :
    rotatedImmediate v = ((y + (31 - s) * 128 : Nat) : Int) := by
  have hs24 : s ≤ 24 := shift_le_of_eq_mul hy hv
  obtain ⟨a, m, hm, hym⟩ := Nat.exists_eq_two_pow_mul_odd (n := y) (by omega : y ≠ 0)
  have hsize : m.size + a = 8 := by
    have hm0 : 0 < m := by obtain ⟨j, rfl⟩ := hm; omega
    rw [← size_mul_two_pow hm0, Nat.mul_comm, ← hym]
    exact size_eq_of_bounds (n := 7) (by omega) (by omega)
  obtain ⟨hzl, hzt⟩ := leadingZeros_add_trailingZeros hm
    (show v.toNat = 2 ^ (a + s) * m by rw [hv, hym, Nat.pow_add]; ac_rfl)
  have hzl' : leadingZeros v = ((24 - s : Nat) : Int) := by rw [hzl]; omega
  rw [rotatedImmediate_of_run hzl' (by omega) (by rw [hzt, hzl]; omega)]
  have hshift : v.toNat * 2 ^ (24 - s + 1) = y * 2 ^ 25 := by
    rw [hv, Nat.mul_assoc, ← Nat.pow_add]
    congr 2
    omega
  have hbyte : y * 2 ^ 25 % 2 ^ 32 / 2 ^ 25 = y % 2 ^ 7 := by
    rw [show 2 ^ 32 = 2 ^ 7 * 2 ^ 25 by norm_num, Nat.mul_mod_mul_right,
      Nat.mul_div_cancel _ (Nat.two_pow_pos 25)]
  rw [hshift, hbyte]
  omega

/-- A value whose odd part has more than eight digits is refused. -/
theorem rotatedImmediate_of_odd_wide {v : BitVec 32} {t m : Nat} (hm : Odd m)
    (hv : v.toNat = 2 ^ t * m) (hwide : 256 ≤ m) : rotatedImmediate v = -1 := by
  obtain ⟨hzl, hzt⟩ := leadingZeros_add_trailingZeros hm hv
  have hm9 : 8 < m.size := Nat.lt_size.2 hwide
  have hm0 : 0 < m := by omega
  have hv32 : m.size + t ≤ 32 := by
    rw [← size_mul_two_pow hm0, Nat.mul_comm, ← hv]
    exact Nat.size_le.2 v.isLt
  simp only [rotatedImmediate]
  rw [if_pos (by rw [hzl, hzt]; omega)]

/-- A word above a byte whose rotation is not refused is a byte with its top bit set, shifted
left by `1` to `24` places. -/
theorem exists_eq_mul_of_rotatedImmediate {v : BitVec 32} (hv : 0xff < v.toNat)
    (h : 0 ≤ rotatedImmediate v) :
    ∃ y s, 0x80 ≤ y ∧ y < 0x100 ∧ 0 < s ∧ s ≤ 24 ∧ v.toNat = y * 2 ^ s := by
  obtain ⟨t, m, hm, hvm⟩ := Nat.exists_eq_two_pow_mul_odd (n := v.toNat) (by omega)
  have hmn : m < 2 ^ 8 := by
    refine Classical.byContradiction fun hwide => ?_
    rw [rotatedImmediate_of_odd_wide hm hvm (by omega)] at h
    omega
  obtain ⟨y, s, hy, hy', hs, hys⟩ := exists_top_mul_two_pow (n := 8) (t := t) (by decide) hm hmn (by omega)
  exact ⟨y, s, hy, hy', hs, shift_le_of_eq_mul hy (hvm.trans hys), hvm.trans hys⟩

end Rotation

/-! ## The values of a modified immediate -/

/-- The values a Thumb2 modified immediate stands for: a byte; `0x00XY00XY`, `0xXY00XY00` or
`0xXYXYXYXY` for a byte `XY ≠ 0`; or a byte with its top bit set rotated right by `8` to `31`
places. -/
def IsModifiedImmediate (v : BitVec 32) : Prop :=
  v ≤ 0xff ∨
    (∃ n < 0x100, 0 < n ∧
      (v = BitVec.ofNat 32 n <<< 16 ||| BitVec.ofNat 32 n ∨
        v = BitVec.ofNat 32 n <<< 24 ||| BitVec.ofNat 32 n <<< 8 ∨
        v = BitVec.ofNat 32 n <<< 24 ||| BitVec.ofNat 32 n <<< 16 ||| BitVec.ofNat 32 n <<< 8 |||
          BitVec.ofNat 32 n)) ∨
    ∃ n < 0x100, 0x80 ≤ n ∧ ∃ r < 32, 8 ≤ r ∧ v = (BitVec.ofNat 32 n).rotateRight r

instance : DecidablePred IsModifiedImmediate := fun _ =>
  inferInstanceAs (Decidable (_ ∨ _ ∨ _))

/-- The replicated-byte forms of `ThumbExpandImm` for `imm12<9:8> = mode`: the byte, then
`0x00XY00XY`, `0xXY00XY00` and `0xXYXYXYXY`, which are UNPREDICTABLE (`none`) for `XY = 0`. -/
def replicatedByte (mode : Nat) (imm8 : BitVec 32) : Option (BitVec 32) :=
  match mode with
  | 0 => some imm8
  | 1 => if imm8 = 0 then none else some (imm8 <<< 16 ||| imm8)
  | 2 => if imm8 = 0 then none else some (imm8 <<< 24 ||| imm8 <<< 8)
  | _ => if imm8 = 0 then none else some (imm8 <<< 24 ||| imm8 <<< 16 ||| imm8 <<< 8 ||| imm8)

/-- `ThumbExpandImm(imm12)` of the architecture: a replicated byte when `imm12<11:10> = 00`,
otherwise `'1':imm12<6:0>` rotated right by `imm12<11:7>`. -/
def thumbExpandImm (imm12 : BitVec 12) : Option (BitVec 32) :=
  if imm12.extractLsb 11 10 = 0 then
    replicatedByte (imm12.extractLsb 9 8).toNat ((imm12.extractLsb 7 0).setWidth 32)
  else
    some (((1#1 ++ imm12.extractLsb 6 0).setWidth 32).rotateRight (imm12.extractLsb 11 7).toNat)

/-- A value below `2^r` rotated right by `r < 32` is shifted left by `32 - r`. -/
theorem toNat_rotateRight_of_lt {u : BitVec 32} {r : Nat} (hu : u.toNat < 2 ^ r) (hr : r < 32) :
    (u.rotateRight r).toNat = u.toNat * 2 ^ (32 - r) := by
  rw [BitVec.toNat_rotateRight, Nat.mod_eq_of_lt hr, Nat.shiftRight_eq_div_pow,
    Nat.div_eq_of_lt hu, Nat.zero_or, Nat.shiftLeft_eq, Nat.mod_eq_of_lt]
  calc u.toNat * 2 ^ (32 - r) < 2 ^ r * 2 ^ (32 - r) :=
        Nat.mul_lt_mul_of_pos_right hu (Nat.two_pow_pos _)
    _ = 2 ^ 32 := by rw [← Nat.pow_add]; congr 1; omega

/-- An encoding below `0x400` is a replicated byte: `imm12<9:8>` picks the form of `imm12<7:0>`. -/
theorem thumbExpandImm_of_lt {e : BitVec 12} (he : e.toNat < 0x400) :
    thumbExpandImm e = replicatedByte (e.toNat / 0x100) (BitVec.ofNat 32 (e.toNat % 0x100)) := by
  have htop : e.extractLsb 11 10 = 0 := by
    apply BitVec.eq_of_toNat_eq
    rw [BitVec.extractLsb_toNat, Nat.shiftRight_eq_div_pow]
    show e.toNat / 2 ^ 10 % 2 ^ 2 = 0
    omega
  have hmode : (e.extractLsb 9 8).toNat = e.toNat / 0x100 := by
    simp only [BitVec.extractLsb_toNat, Nat.shiftRight_eq_div_pow]
    omega
  have himm8 : (e.extractLsb 7 0).setWidth 32 = BitVec.ofNat 32 (e.toNat % 0x100) := by
    apply BitVec.eq_of_toNat_eq
    simp only [BitVec.toNat_setWidth, BitVec.extractLsb_toNat, Nat.shiftRight_eq_div_pow,
      BitVec.toNat_ofNat]
    omega
  rw [thumbExpandImm, if_pos htop, hmode, himm8]

/-- An encoding from `0x400` on is `1:imm12<6:0>` rotated right by `imm12<11:7>`, which is `8` to
`31`. -/
theorem thumbExpandImm_of_ge {e : BitVec 12} (he : 0x400 ≤ e.toNat) :
    thumbExpandImm e =
      some ((BitVec.ofNat 32 (0x80 + e.toNat % 0x80)).rotateRight (e.toNat / 0x80)) := by
  have htop : ¬ e.extractLsb 11 10 = 0 := by
    intro h
    have h' := congrArg BitVec.toNat h
    rw [BitVec.extractLsb_toNat, Nat.shiftRight_eq_div_pow] at h'
    change e.toNat / 2 ^ 10 % 2 ^ 2 = 0 at h'
    have := e.isLt
    omega
  have hrot : (e.extractLsb 11 7).toNat = e.toNat / 0x80 := by
    simp only [BitVec.extractLsb_toNat, Nat.shiftRight_eq_div_pow]
    have := e.isLt
    omega
  have hunrot : (1#1 ++ e.extractLsb 6 0).setWidth 32 = BitVec.ofNat 32 (0x80 + e.toNat % 0x80) := by
    apply BitVec.eq_of_toNat_eq
    rw [BitVec.toNat_setWidth, BitVec.toNat_append, BitVec.extractLsb_toNat, Nat.shiftRight_zero,
      Nat.or_comm, Word.or_shiftLeft_eq_add (Nat.mod_lt _ (Nat.two_pow_pos _)), BitVec.toNat_ofNat]
    simp only [BitVec.toNat_ofNat]
    omega
  rw [thumbExpandImm, if_neg htop, hrot, hunrot]

/-! ## The encoding stands for the value -/

section Encodings

open BitLength

theorem toNat_and_0xff (v : BitVec 32) : (v &&& 0xff).toNat = v.toNat % 0x100 := by
  rw [BitVec.toNat_and]
  exact Nat.and_two_pow_sub_one_eq_mod v.toNat 8

/-- `(k << 8) | b` for a byte `b` and `k < 4`: the encoding with `imm12<9:8> = k` and `imm8 = b`. -/
theorem toInt_mode_or {k b : BitVec 32} (hk : k.toNat < 4) (hb : b.toNat < 0x100) :
    (k <<< 8 ||| b).toInt = ((k.toNat * 0x100 + b.toNat : Nat) : Int) := by
  have hs : k.toNat <<< 8 % 2 ^ 32 = k.toNat <<< 8 :=
    Nat.mod_eq_of_lt (by rw [Nat.shiftLeft_eq]; omega)
  have h : (k <<< 8 ||| b).toNat = k.toNat * 0x100 + b.toNat := by
    rw [BitVec.toNat_or, BitVec.toNat_shiftLeft, hs, Nat.or_comm, Word.or_shiftLeft_eq_add hb]
    omega
  rw [BitVec.toInt_eq_toNat_of_lt (by omega), h]

/-- The encoding `k * 0x100 + b` for `k < 4` is the replicated-byte form `k` of `b`. -/
theorem thumbExpandImm_mode {k : Nat} (hk : k < 4) {b : BitVec 32} (hb : b.toNat < 0x100) :
    thumbExpandImm (BitVec.ofInt 12 ((k * 0x100 + b.toNat : Nat) : Int)) = replicatedByte k b := by
  have hn : (BitVec.ofInt 12 ((k * 0x100 + b.toNat : Nat) : Int)).toNat = k * 0x100 + b.toNat := by
    rw [BitVec.ofInt_natCast, BitVec.toNat_ofNat]
    omega
  have hb' : BitVec.ofNat 32 ((k * 0x100 + b.toNat) % 0x100) = b := by
    apply BitVec.eq_of_toNat_eq
    rw [BitVec.toNat_ofNat]
    omega
  rw [thumbExpandImm_of_lt (by omega), hn, hb', show (k * 0x100 + b.toNat) / 0x100 = k by omega]

/-- The encoding `y + (31 - s) * 0x80` of a byte `y` with its top bit set is `y` rotated right by
`32 - s`. -/
theorem thumbExpandImm_rotated {y s : Nat} (hy : 0x80 ≤ y) (hy' : y < 0x100) (hs : 0 < s)
    (hs24 : s ≤ 24) :
    thumbExpandImm (BitVec.ofInt 12 ((y + (31 - s) * 0x80 : Nat) : Int)) =
      some ((BitVec.ofNat 32 y).rotateRight (32 - s)) := by
  have hn : (BitVec.ofInt 12 ((y + (31 - s) * 0x80 : Nat) : Int)).toNat = y + (31 - s) * 0x80 := by
    rw [BitVec.ofInt_natCast, BitVec.toNat_ofNat]
    omega
  rw [thumbExpandImm_of_ge (by omega), hn, show 0x80 + (y + (31 - s) * 0x80) % 0x80 = y by omega,
    show (y + (31 - s) * 0x80) / 0x80 = 32 - s by omega]

/-- A byte `y` with its top bit set rotated right by `32 - s` is `y * 2^s`. -/
theorem toNat_rotateRight_byte {y s : Nat} (hy' : y < 0x100) (hs : 0 < s) (hs24 : s ≤ 24) :
    ((BitVec.ofNat 32 y).rotateRight (32 - s)).toNat = y * 2 ^ s := by
  have hy32 : (BitVec.ofNat 32 y).toNat = y := by
    rw [BitVec.toNat_ofNat]
    omega
  have hlt : y < 2 ^ (32 - s) :=
    calc y < 2 ^ 8 := hy'
      _ ≤ 2 ^ (32 - s) := Nat.pow_le_pow_right (by decide) (by omega)
  rw [toNat_rotateRight_of_lt (u := BitVec.ofNat 32 y) (r := 32 - s) (by rw [hy32]; exact hlt)
    (by omega), hy32, show 32 - (32 - s) = s by omega]

/-- A replicated-byte branch of `ModifiedImmediate` is taken only for a nonzero byte: the value
`0` is a byte. -/
theorem ne_zero_of_pattern {v b : BitVec 32} (hv : ¬ v ≤ 0xff) (hb : v = b <<< 16 ||| b ∨
    v = b <<< 24 ||| b <<< 16 ||| b <<< 8 ||| b ∨ v = b <<< 24 ||| b <<< 8) : b ≠ 0 := by
  rintro rfl
  have hzero : v = 0 := by rcases hb with h | h | h <;> rw [h] <;> decide
  exact hv (hzero ▸ by decide)

/-- The replicated-byte branches return `(k << 8) | b`, which stands for the form `k` of `b`. -/
theorem thumbExpandImm_mode_or {k b v : BitVec 32} (hk : k.toNat < 4) (hb : b.toNat < 0x100)
    (hv : replicatedByte k.toNat b = some v) :
    (k <<< 8 ||| b).toInt < 0x1000 ∧ thumbExpandImm (BitVec.ofInt 12 (k <<< 8 ||| b).toInt) = some v := by
  rw [toInt_mode_or hk hb, thumbExpandImm_mode hk hb]
  exact ⟨by omega, hv⟩

/-- **Soundness.** A non-negative result of `ModifiedImmediate(v)` is a 12-bit encoding, and
`ThumbExpandImm` of it is `v`. -/
theorem thumbExpandImm_modifiedImmediate {v : BitVec 32} (h : 0 ≤ modifiedImmediate v) :
    modifiedImmediate v < 0x1000 ∧
      thumbExpandImm (BitVec.ofInt 12 (modifiedImmediate v)) = some v := by
  have hb0 : (v &&& 0xff).toNat < 0x100 := by rw [toNat_and_0xff]; omega
  have hb1 : ((v >>> 8) &&& 0xff).toNat < 0x100 := by rw [toNat_and_0xff]; omega
  simp only [modifiedImmediate] at h ⊢
  split_ifs at h ⊢ with h1 h2 h3 h4
  · -- a byte is its own encoding
    have hbyte : (v &&& 0xff) = v := by
      apply BitVec.eq_of_toNat_eq
      rw [toNat_and_0xff]
      exact Nat.mod_eq_of_lt (BitVec.le_def.1 h1 |>.trans_lt (by decide))
    have hv : v.toNat < 0x100 := by rw [← hbyte]; exact hb0
    rw [hbyte, BitVec.toInt_eq_toNat_of_lt (by omega)]
    have := thumbExpandImm_mode (k := 0) (by decide) hv
    rw [Nat.zero_mul, Nat.zero_add] at this
    exact ⟨by omega, this⟩
  · have hne := ne_zero_of_pattern h1 (.inl h2)
    refine thumbExpandImm_mode_or (by decide) hb0 ?_
    show replicatedByte 1 _ = _
    simp only [replicatedByte, if_neg hne, ← h2]
  · have hne := ne_zero_of_pattern h1 (.inr (.inl h3))
    refine thumbExpandImm_mode_or (by decide) hb0 ?_
    show replicatedByte 3 _ = _
    simp only [replicatedByte, if_neg hne, ← h3]
  · have hne := ne_zero_of_pattern h1 (.inr (.inr h4))
    refine thumbExpandImm_mode_or (by decide) hb1 ?_
    show replicatedByte 2 _ = _
    simp only [replicatedByte, if_neg hne, ← h4]
  · -- the rotation: `v = y * 2^s` for a byte `y` with its top bit set
    have hv : 0xff < v.toNat := by
      have := BitVec.le_def.not.1 h1
      simpa using this
    obtain ⟨y, s, hy, hy', hs, hs24, hys⟩ := exists_eq_mul_of_rotatedImmediate hv h
    rw [rotatedImmediate_of_eq_mul hy hy' hs hys, thumbExpandImm_rotated hy hy' hs hs24]
    refine ⟨by omega, congrArg some (BitVec.eq_of_toNat_eq ?_)⟩
    rw [toNat_rotateRight_byte hy' hs hs24, hys]

/-- The values `ThumbExpandImm` yields are those of `IsModifiedImmediate`. -/
theorem isModifiedImmediate_of_thumbExpandImm {e : BitVec 12} {v : BitVec 32}
    (h : thumbExpandImm e = some v) : IsModifiedImmediate v := by
  have he4096 := e.isLt
  by_cases he : e.toNat < 0x400
  · rw [thumbExpandImm_of_lt he] at h
    have hn : e.toNat % 0x100 < 0x100 := Nat.mod_lt _ (by decide)
    have hpos : BitVec.ofNat 32 (e.toNat % 0x100) ≠ 0 → 0 < e.toNat % 0x100 := fun hz =>
      Nat.pos_of_ne_zero fun h0 => hz (by rw [h0]; rfl)
    rcases (by omega : e.toNat / 0x100 = 0 ∨ e.toNat / 0x100 = 1 ∨ e.toNat / 0x100 = 2 ∨
        e.toNat / 0x100 = 3) with hk | hk | hk | hk <;>
      simp only [hk, replicatedByte, Option.some.injEq] at h
    · -- mode `0`: the byte itself
      left
      rw [← h, BitVec.le_def, BitVec.toNat_ofNat]
      show _ ≤ 0xff
      omega
    all_goals
      split_ifs at h with hz
      simp only [Option.some.injEq] at h
      right; left
      refine ⟨e.toNat % 0x100, hn, hpos hz, ?_⟩
    · exact .inl h.symm
    · exact .inr (.inl h.symm)
    · exact .inr (.inr h.symm)
  · -- a byte with its top bit set, rotated
    rw [thumbExpandImm_of_ge (by omega), Option.some.injEq] at h
    right; right
    exact ⟨0x80 + e.toNat % 0x80, by omega, by omega, e.toNat / 0x80, by omega, by omega, h.symm⟩

end Encodings

/-! ## Every modified immediate is found -/

section Completeness

theorem and_0xff_of_lt {b : BitVec 32} (hb : b.toNat < 0x100) : b &&& 0xff = b := by
  apply BitVec.eq_of_toNat_eq
  rw [toNat_and_0xff, Nat.mod_eq_of_lt hb]

theorem shiftLeft_and_0xff (b : BitVec 32) {k : Nat} (hk : 8 ≤ k) : b <<< k &&& 0xff = 0#32 := by
  apply BitVec.eq_of_toNat_eq
  rw [toNat_and_0xff, BitVec.toNat_shiftLeft, Nat.shiftLeft_eq,
    Nat.mod_mod_of_dvd _ (Nat.pow_dvd_pow 2 (by decide : 8 ≤ 32))]
  exact Nat.mod_eq_zero_of_dvd (Nat.dvd_trans (Nat.pow_dvd_pow 2 hk) (Nat.dvd_mul_left _ _))

/-- The low byte of a byte repeated at bits `16` and `0` is the byte. -/
theorem pattern16_and_0xff {b : BitVec 32} (hb : b.toNat < 0x100) : (b <<< 16 ||| b) &&& 0xff = b := by
  rw [BitVec.and_or_distrib_right, shiftLeft_and_0xff b (by decide), and_0xff_of_lt hb,
    BitVec.zero_or]

/-- The low byte of a byte repeated in all four bytes is the byte. -/
theorem pattern32_and_0xff {b : BitVec 32} (hb : b.toNat < 0x100) :
    (b <<< 24 ||| b <<< 16 ||| b <<< 8 ||| b) &&& 0xff = b := by
  rw [BitVec.and_or_distrib_right, BitVec.and_or_distrib_right, BitVec.and_or_distrib_right,
    shiftLeft_and_0xff b (by decide), shiftLeft_and_0xff b (by decide),
    shiftLeft_and_0xff b (by decide), and_0xff_of_lt hb, BitVec.zero_or, BitVec.zero_or,
    BitVec.zero_or]

/-- The second byte of a byte repeated at bits `24` and `8` is the byte. -/
theorem pattern24_shift_and_0xff {b : BitVec 32} (hb : b.toNat < 0x100) :
    ((b <<< 24 ||| b <<< 8) >>> 8) &&& 0xff = b := by
  have hhigh : b <<< 24 >>> 8 &&& 0xff = 0#32 := by
    apply BitVec.eq_of_toNat_eq
    rw [toNat_and_0xff, BitVec.toNat_ushiftRight, BitVec.toNat_shiftLeft, Nat.shiftLeft_eq,
      Nat.shiftRight_eq_div_pow]
    show _ = 0
    omega
  have hlow : b <<< 8 >>> 8 = b := by
    apply BitVec.eq_of_toNat_eq
    rw [BitVec.toNat_ushiftRight, BitVec.toNat_shiftLeft, Nat.shiftLeft_eq,
      Nat.shiftRight_eq_div_pow]
    omega
  rw [BitVec.ushiftRight_or_distrib, BitVec.and_or_distrib_right, hhigh, hlow, and_0xff_of_lt hb,
    BitVec.zero_or]

/-- The values of the replicated-byte branches are non-negative. -/
theorem toInt_nonneg_of_lt {x : BitVec 32} (hx : x.toNat < 0x1000) : 0 ≤ x.toInt := by
  rw [BitVec.toInt_eq_toNat_of_lt (by omega)]
  exact Int.natCast_nonneg _

/-- `ModifiedImmediate(v)` is non-negative, or `v` is past the four byte patterns and the result
is that of the rotation case. -/
theorem modifiedImmediate_nonneg_or_rotated (v : BitVec 32) :
    0 ≤ modifiedImmediate v ∨
      (¬ v ≤ 0xff ∧ ¬ v = (v &&& 0xff) <<< 16 ||| (v &&& 0xff) ∧
        ¬ v = (v &&& 0xff) <<< 24 ||| (v &&& 0xff) <<< 16 ||| (v &&& 0xff) <<< 8 ||| (v &&& 0xff) ∧
        ¬ v = ((v >>> 8) &&& 0xff) <<< 24 ||| ((v >>> 8) &&& 0xff) <<< 8 ∧
        modifiedImmediate v = rotatedImmediate v) := by
  have hb0 : (v &&& 0xff).toNat < 0x100 := by rw [toNat_and_0xff]; omega
  have hb1 : ((v >>> 8) &&& 0xff).toNat < 0x100 := by rw [toNat_and_0xff]; omega
  simp only [modifiedImmediate]
  split_ifs with h1 h2 h3 h4
  · exact .inl (toInt_nonneg_of_lt (by omega))
  · rw [toInt_mode_or (by decide) hb0]; exact .inl (Int.natCast_nonneg _)
  · rw [toInt_mode_or (by decide) hb0]; exact .inl (Int.natCast_nonneg _)
  · rw [toInt_mode_or (by decide) hb1]; exact .inl (Int.natCast_nonneg _)
  · exact .inr ⟨h1, h2, h3, h4, rfl⟩

/-- Past the run test the rotation case is non-negative: it refuses only with `-1`. -/
theorem rotatedImmediate_eq_neg_one_or_nonneg {v : BitVec 32} (hv : 0xff < v.toNat) :
    rotatedImmediate v = -1 ∨ 0 ≤ rotatedImmediate v := by
  by_cases hrun : leadingZeros v + (32 - leadingZeros (~~~v &&& (v - 1))) < 24
  · simp only [rotatedImmediate]
    exact .inl (if_pos hrun)
  · have hsize : 8 < v.toNat.size := Nat.lt_size.2 (by omega)
    have hzl : leadingZeros v = ((32 - v.toNat.size : Nat) : Int) := by
      rw [leadingZeros_eq]
      have := Nat.size_le.2 v.isLt
      omega
    rw [rotatedImmediate_of_run hzl (by omega) hrun]
    exact .inr (Int.natCast_nonneg _)

/-- **Completeness.** `ModifiedImmediate` finds an encoding for every modified immediate. -/
theorem modifiedImmediate_nonneg {v : BitVec 32} (h : IsModifiedImmediate v) :
    0 ≤ modifiedImmediate v := by
  rcases modifiedImmediate_nonneg_or_rotated v with h0 | ⟨h1, h2, h3, h4, hrot⟩
  · exact h0
  have hnb : ∀ {n : Nat}, n < 0x100 → (BitVec.ofNat 32 n).toNat < 0x100 := fun hn => by
    rw [BitVec.toNat_ofNat]; omega
  rcases h with h | ⟨n, hn, -, h | h | h⟩ | ⟨n, hn, hn80, r, hr, hr8, h⟩
  · exact absurd h h1
  · have hb : v &&& 0xff = BitVec.ofNat 32 n := by rw [h]; exact pattern16_and_0xff (hnb hn)
    exact absurd (by rw [hb]; exact h) h2
  · have hb : (v >>> 8) &&& 0xff = BitVec.ofNat 32 n := by
      rw [h]; exact pattern24_shift_and_0xff (hnb hn)
    exact absurd (by rw [hb]; exact h) h4
  · have hb : v &&& 0xff = BitVec.ofNat 32 n := by rw [h]; exact pattern32_and_0xff (hnb hn)
    exact absurd (by rw [hb]; exact h) h3
  · have hv : v.toNat = n * 2 ^ (32 - r) := by
      rw [h, show r = 32 - (32 - r) by omega, toNat_rotateRight_byte hn (by omega) (by omega),
        show 32 - (32 - (32 - r)) = 32 - r by omega]
    rw [hrot, rotatedImmediate_of_eq_mul hn80 hn (by omega) hv]
    exact Int.natCast_nonneg _

/-- On a value that is no modified immediate `ModifiedImmediate` returns `-1`. -/
theorem modifiedImmediate_eq_neg_one {v : BitVec 32} (h : ¬ IsModifiedImmediate v) :
    modifiedImmediate v = -1 := by
  have hneg : ¬ 0 ≤ modifiedImmediate v := fun h0 =>
    h (isModifiedImmediate_of_thumbExpandImm (thumbExpandImm_modifiedImmediate h0).2)
  rcases modifiedImmediate_nonneg_or_rotated v with h0 | ⟨h1, -, -, -, hrot⟩
  · exact absurd h0 hneg
  have hv : 0xff < v.toNat := by
    have := BitVec.le_def.not.1 h1
    simpa using this
  rw [hrot] at hneg ⊢
  exact (rotatedImmediate_eq_neg_one_or_nonneg hv).resolve_right hneg

end Completeness

/-! ## `ExpandImmediate` -/

/-- `ExpandImmediate(value)` of `target_arm.cc`, with which the disassembler prints a
`kFmtModImm` operand.  In the rotated forms `((value & 0xf80) >> 7) - 8` is a shift of `0` to
`23`; the `int32_t` result is given by its 32 bits. -/
def expandImmediate (value : BitVec 32) : BitVec 32 :=
  let mode := ((value &&& 0xf00) >>> 8).toNat
  let bits := value &&& 0xff
  match mode with
  | 0 => bits
  | 1 => bits <<< 16 ||| bits
  | 2 => bits <<< 24 ||| bits <<< 8
  | 3 => bits <<< 24 ||| bits <<< 16 ||| bits <<< 8 ||| bits
  | _ =>
    let bits := (bits ||| 0x80) <<< 24
    bits >>> (((value &&& 0xf80) >>> 7).toNat - 8)

section Expand

open BitLength

/-- A mask of `k` ones at bit `a`, shifted down by `a`, reads that field. -/
theorem toNat_and_shiftRight {x c : BitVec 32} {a k : Nat} (hc : c.toNat = (2 ^ k - 1) * 2 ^ a) :
    ((x &&& c) >>> a).toNat = x.toNat / 2 ^ a % 2 ^ k := by
  rw [BitVec.toNat_ushiftRight, BitVec.toNat_and, hc, and_mask, Nat.shiftRight_eq_div_pow,
    Nat.mul_div_cancel _ (Nat.two_pow_pos a)]

/-- The disassembler's `ExpandImmediate` reads an encoding as the processor does. -/
theorem expandImmediate_of_thumbExpandImm {e : BitVec 12} {x : BitVec 32}
    (h : thumbExpandImm e = some x) : expandImmediate (e.setWidth 32) = x := by
  have hn : (e.setWidth 32).toNat = e.toNat := by
    rw [BitVec.toNat_setWidth]
    exact Nat.mod_eq_of_lt (e.isLt.trans (by decide))
  have he := e.isLt
  have hmode : ((e.setWidth 32 &&& 0xf00) >>> 8).toNat = e.toNat / 0x100 := by
    rw [toNat_and_shiftRight (a := 8) (k := 4) rfl, hn]
    omega
  have hbits : e.setWidth 32 &&& 0xff = BitVec.ofNat 32 (e.toNat % 0x100) := by
    apply BitVec.eq_of_toNat_eq
    rw [toNat_and_0xff, hn, BitVec.toNat_ofNat]
    omega
  by_cases hlt : e.toNat < 0x400
  · -- the replicated bytes: the same four forms, read from the same fields
    rw [thumbExpandImm_of_lt hlt] at h
    simp only [expandImmediate, hmode, hbits]
    rcases (by omega : e.toNat / 0x100 = 0 ∨ e.toNat / 0x100 = 1 ∨ e.toNat / 0x100 = 2 ∨
        e.toNat / 0x100 = 3) with hk | hk | hk | hk <;>
      simp only [hk, replicatedByte] at h ⊢ <;>
      first
        | exact Option.some.inj h
        | (split_ifs at h; exact Option.some.inj h)
  · -- a rotation by `r = e / 0x80` is the shift right of the byte at the top by `r - 8`
    rw [thumbExpandImm_of_ge (by omega), Option.some.injEq] at h
    have hrot : ((e.setWidth 32 &&& 0xf80) >>> 7).toNat = e.toNat / 0x80 := by
      rw [toNat_and_shiftRight (a := 7) (k := 5) rfl, hn]
      omega
    have hmode4 : ∃ j, e.toNat / 0x100 = j + 4 := ⟨e.toNat / 0x100 - 4, by omega⟩
    obtain ⟨j, hj⟩ := hmode4
    simp only [expandImmediate, hmode, hbits, hj, hrot]
    rw [← h]
    apply BitVec.eq_of_toNat_eq
    have htop : (BitVec.ofNat 32 (e.toNat % 0x100) ||| 0x80).toNat = 0x80 + e.toNat % 0x80 := by
      rw [BitVec.toNat_or, BitVec.toNat_ofNat, Nat.mod_eq_of_lt (by omega)]
      have := or_two_pow_of_lt (m := e.toNat % 0x100) (k := 7) (by omega)
      rw [show (0x80 : BitVec 32).toNat = 2 ^ 7 from rfl, this]
      omega
    have hu : (0x80 + e.toNat % 0x80) < 2 ^ (e.toNat / 0x80) :=
      calc 0x80 + e.toNat % 0x80 < 2 ^ 8 := by omega
        _ ≤ 2 ^ (e.toNat / 0x80) := Nat.pow_le_pow_right (by decide) (by omega)
    rw [toNat_rotateRight_of_lt (by rw [BitVec.toNat_ofNat, Nat.mod_eq_of_lt (by omega)]; exact hu)
      (by omega), BitVec.toNat_ofNat, Nat.mod_eq_of_lt (a := 0x80 + e.toNat % 0x80) (by omega),
      BitVec.toNat_ushiftRight, BitVec.toNat_shiftLeft, htop, Nat.shiftLeft_eq,
      Nat.mod_eq_of_lt (by omega), Nat.shiftRight_eq_div_pow]
    rw [show 2 ^ 24 = 2 ^ (32 - e.toNat / 0x80) * 2 ^ (e.toNat / 0x80 - 8) by
        rw [← Nat.pow_add]; congr 1; omega,
      ← Nat.mul_assoc, Nat.mul_div_cancel _ (Nat.two_pow_pos _)]

end Expand

/-! ## The assembled instruction -/

/-- The instructions `LoadConstantNoClobber` emits for a core register. -/
inductive Opcode
  /-- `kThumbMovImm`: `movs rd, #imm8`. -/
  | thumbMovImm
  /-- `kThumb2MovI8M`: `mov rd, #modimm`. -/
  | thumb2MovI8M
  /-- `kThumb2MvnI8M`: `mvn rd, #modimm`. -/
  | thumb2MvnI8M
  /-- `kThumb2MovImm16`: `movw rd, #imm16`. -/
  | thumb2MovImm16
  /-- `kThumb2MovImm16H`: `movt rd, #imm16`. -/
  | thumb2MovImm16H
  deriving DecidableEq, Repr

/-- The operand kinds of these entries of `EncodingMap`. -/
inductive FieldKind
  /-- `kFmtBitBlt` from bit `lo` (`start`) to bit `hi` (`end`). -/
  | bitBlt (hi lo : Nat)
  /-- `kFmtModImm`, placed as `kFmtImm12`. -/
  | modImm
  /-- `kFmtImm16`. -/
  | imm16
  deriving DecidableEq, Repr

/-- The bits `EncodeLIRs` ors into the instruction for an operand of this kind. -/
def FieldKind.place : FieldKind → BitVec 32 → BitVec 32
  | .bitBlt hi lo, operand => (operand <<< lo) &&& ((1 : BitVec 32) <<< (hi + 1) - 1)
  | .modImm, operand =>
    ((operand &&& 0x800) >>> 11) <<< 26 ||| ((operand &&& 0x700) >>> 8) <<< 12 |||
      (operand &&& 0x0ff)
  | .imm16, operand =>
    ((operand &&& 0x0800) >>> 11) <<< 26 ||| ((operand &&& 0xf000) >>> 12) <<< 16 |||
      ((operand &&& 0x0700) >>> 8) <<< 12 ||| (operand &&& 0x0ff)

/-- An entry of `EncodingMap`: the skeleton and the kinds of the first two operands; the third is
`kFmtUnused`, which ends the placement loop. -/
structure Encoding where
  skeleton : BitVec 32
  field0 : FieldKind
  field1 : FieldKind

/-- The entries of `EncodingMap` for the opcodes of `Opcode`. -/
def encodingMap : Opcode → Encoding
  | .thumbMovImm => ⟨0x2000, .bitBlt 10 8, .bitBlt 7 0⟩
  | .thumb2MovI8M => ⟨0xf04f0000, .bitBlt 11 8, .modImm⟩
  | .thumb2MvnI8M => ⟨0xf06f0000, .bitBlt 11 8, .modImm⟩
  | .thumb2MovImm16 => ⟨0xf2400000, .bitBlt 11 8, .imm16⟩
  | .thumb2MovImm16H => ⟨0xf2c00000, .bitBlt 11 8, .imm16⟩

/-- A LIR of `NewLIR2(opcode, operand0, operand1)`. -/
structure ArmLir where
  opcode : Opcode
  operand0 : BitVec 32
  operand1 : BitVec 32
  deriving DecidableEq, Repr

/-- The instruction bits `EncodeLIRs` builds for a LIR: the skeleton, then each operand placed. -/
def ArmLir.assemble (lir : ArmLir) : BitVec 32 :=
  let encoder := encodingMap lir.opcode
  encoder.skeleton ||| encoder.field0.place lir.operand0 ||| encoder.field1.place lir.operand1

/-- `i:imm3:imm8` of a Thumb2 data-processing instruction: bits 26, 14:12 and 7:0. -/
def imm12Of (insn : BitVec 32) : BitVec 12 :=
  insn.extractLsb 26 26 ++ insn.extractLsb 14 12 ++ insn.extractLsb 7 0

/-- `imm4:i:imm3:imm8` of `MOVW` and `MOVT`: bits 19:16, 26, 14:12 and 7:0. -/
def imm16Of (insn : BitVec 32) : BitVec 16 :=
  insn.extractLsb 19 16 ++ insn.extractLsb 26 26 ++ insn.extractLsb 14 12 ++ insn.extractLsb 7 0

/-- `Rd` of a 32-bit Thumb2 instruction, bits 11:8. -/
def rdOf (insn : BitVec 32) : Nat := (insn.extractLsb 11 8).toNat

/-- What the assembled instruction does to the core registers, read from its fields as the
architecture reads them: `MOVS` (T1) writes `imm8` to the `Rd` of bits 10:8, `MOV` and `MVN` (T2)
write `ThumbExpandImm(i:imm3:imm8)` and its complement, `MOVW` writes `imm16`, and `MOVT` writes
it to the upper half and keeps the lower.  An UNPREDICTABLE immediate gives `none`. -/
def ArmLir.exec (lir : ArmLir) (regs : Nat → BitVec 32) : Option (Nat → BitVec 32) :=
  let insn := lir.assemble
  match lir.opcode with
  | .thumbMovImm =>
    some (Function.update regs (insn.extractLsb 10 8).toNat ((insn.extractLsb 7 0).setWidth 32))
  | .thumb2MovI8M => (thumbExpandImm (imm12Of insn)).map (Function.update regs (rdOf insn))
  | .thumb2MvnI8M =>
    (thumbExpandImm (imm12Of insn)).map fun x => Function.update regs (rdOf insn) (~~~x)
  | .thumb2MovImm16 => some (Function.update regs (rdOf insn) ((imm16Of insn).setWidth 32))
  | .thumb2MovImm16H =>
    some (Function.update regs (rdOf insn)
      ((imm16Of insn).setWidth 32 <<< 16 ||| (regs (rdOf insn) &&& 0xffff)))

/-- A sequence of LIRs, executed in order. -/
def runLirs : List ArmLir → (Nat → BitVec 32) → Option (Nat → BitVec 32)
  | [], regs => some regs
  | lir :: lirs, regs => (lir.exec regs).bind (runLirs lirs)

/-- `LoadConstantNoClobber(r_dest, value)` for a core register whose `GetReg()` is `reg`;
`Low8()` tests its number `reg & 0x3f`.  (A floating-point `r_dest` goes to
`LoadFPConstantValue` instead, which is not modelled.) -/
def loadConstantNoClobber (reg value : BitVec 32) : List ArmLir :=
  if (reg &&& 0x3f) < 8 ∧ 0 ≤ value.toInt ∧ value.toInt ≤ 255 then [⟨.thumbMovImm, reg, value⟩]
  else
    let modImm := modifiedImmediate value
    if 0 ≤ modImm then [⟨.thumb2MovI8M, reg, BitVec.ofInt 32 modImm⟩]
    else
      let modImm := modifiedImmediate (~~~value)
      if 0 ≤ modImm then [⟨.thumb2MvnI8M, reg, BitVec.ofInt 32 modImm⟩]
      else if (value &&& 0xffff) = value then [⟨.thumb2MovImm16, reg, value⟩]
      else [⟨.thumb2MovImm16, reg, value &&& 0xffff⟩, ⟨.thumb2MovImm16H, reg, value >>> 16⟩]

section Assemble

open BitLength

/-! ### Reading the fields back -/

theorem imm12Of_or (a b : BitVec 32) : imm12Of (a ||| b) = imm12Of a ||| imm12Of b := by
  apply BitVec.eq_of_getLsbD_eq
  intro i hi
  simp only [imm12Of, BitVec.getLsbD_append, BitVec.getLsbD_or, BitVec.getLsbD_extractLsb,
    Bool.and_or_distrib_left]
  split <;> (try split) <;> rfl

theorem imm16Of_or (a b : BitVec 32) : imm16Of (a ||| b) = imm16Of a ||| imm16Of b := by
  apply BitVec.eq_of_getLsbD_eq
  intro i hi
  simp only [imm16Of, BitVec.getLsbD_append, BitVec.getLsbD_or, BitVec.getLsbD_extractLsb,
    Bool.and_or_distrib_left]
  split <;> (try split) <;> (try split) <;> rfl

theorem toNat_imm12Of (x : BitVec 32) :
    (imm12Of x).toNat =
      x.toNat / 2 ^ 26 % 2 * 2 ^ 11 + x.toNat / 2 ^ 12 % 2 ^ 3 * 2 ^ 8 + x.toNat % 2 ^ 8 := by
  have h : (imm12Of x).toNat =
      (x.extractLsb 26 26 ++ x.extractLsb 14 12 ++ x.extractLsb 7 0).toNat := rfl
  rw [h, BitVec.toNat_append, BitVec.toNat_append]
  simp only [BitVec.extractLsb_toNat, Nat.shiftRight_eq_div_pow, Nat.reduceSub, Nat.reduceAdd]
  rw [Nat.or_comm, Word.or_shiftLeft_eq_add (by omega), Nat.or_comm,
    Word.or_shiftLeft_eq_add (by omega)]
  omega

theorem toNat_imm16Of (x : BitVec 32) :
    (imm16Of x).toNat = x.toNat / 2 ^ 16 % 2 ^ 4 * 2 ^ 12 + x.toNat / 2 ^ 26 % 2 * 2 ^ 11 +
      x.toNat / 2 ^ 12 % 2 ^ 3 * 2 ^ 8 + x.toNat % 2 ^ 8 := by
  have h : (imm16Of x).toNat =
      (x.extractLsb 19 16 ++ x.extractLsb 26 26 ++ x.extractLsb 14 12 ++ x.extractLsb 7 0).toNat :=
    rfl
  rw [h, BitVec.toNat_append, BitVec.toNat_append, BitVec.toNat_append]
  simp only [BitVec.extractLsb_toNat, Nat.shiftRight_eq_div_pow, Nat.reduceSub, Nat.reduceAdd]
  rw [Nat.or_comm, Word.or_shiftLeft_eq_add (by omega), Nat.or_comm,
    Word.or_shiftLeft_eq_add (by omega), Nat.or_comm, Word.or_shiftLeft_eq_add (by omega)]
  omega

theorem toNat_extractLsb_11_8 (x : BitVec 32) : (x.extractLsb 11 8).toNat = x.toNat / 2 ^ 8 % 2 ^ 4 := by
  rw [BitVec.extractLsb_toNat, Nat.shiftRight_eq_div_pow]

/-! ### Placing the operands -/

theorem toNat_place_bitBlt (x : BitVec 32) {hi lo : Nat} (hhi : hi < 31) :
    ((FieldKind.bitBlt hi lo).place x).toNat = x.toNat * 2 ^ lo % 2 ^ 32 % 2 ^ (hi + 1) := by
  have hp : 2 ^ (hi + 1) < 2 ^ 32 := Nat.pow_lt_pow_right (by decide) (by omega)
  have hp1 : 1 ≤ 2 ^ (hi + 1) := Nat.one_le_two_pow
  have hshift : ((1 : BitVec 32) <<< (hi + 1)).toNat = 2 ^ (hi + 1) := by
    rw [BitVec.toNat_shiftLeft, Nat.shiftLeft_eq]
    change 1 * 2 ^ (hi + 1) % 2 ^ 32 = _
    rw [Nat.one_mul, Nat.mod_eq_of_lt hp]
  have hmask : ((1 : BitVec 32) <<< (hi + 1) - 1).toNat = 2 ^ (hi + 1) - 1 := by
    rw [BitVec.toNat_sub, hshift]
    change (2 ^ 32 - 1 + 2 ^ (hi + 1)) % 2 ^ 32 = _
    omega
  rw [FieldKind.place, BitVec.toNat_and, hmask, Nat.and_two_pow_sub_one_eq_mod,
    BitVec.toNat_shiftLeft, Nat.shiftLeft_eq]

/-- A field of `x` moved from bit `a` to bit `b` by `((x & mask) >> a) << b`, with no overflow. -/
theorem toNat_and_shiftRight_shiftLeft {x c : BitVec 32} {a k b : Nat}
    (hc : c.toNat = (2 ^ k - 1) * 2 ^ a) (hb : k + b ≤ 32) :
    (((x &&& c) >>> a) <<< b).toNat = x.toNat / 2 ^ a % 2 ^ k * 2 ^ b := by
  have hlt : x.toNat / 2 ^ a % 2 ^ k * 2 ^ b < 2 ^ 32 :=
    calc x.toNat / 2 ^ a % 2 ^ k * 2 ^ b < 2 ^ k * 2 ^ b :=
          Nat.mul_lt_mul_of_pos_right (Nat.mod_lt _ (Nat.two_pow_pos k)) (Nat.two_pow_pos b)
      _ ≤ 2 ^ 32 := by rw [← Nat.pow_add]; exact Nat.pow_le_pow_right (by decide) hb
  rw [BitVec.toNat_shiftLeft, toNat_and_shiftRight hc, Nat.shiftLeft_eq, Nat.mod_eq_of_lt hlt]

theorem toNat_place_modImm (x : BitVec 32) :
    (FieldKind.modImm.place x).toNat =
      x.toNat / 2 ^ 11 % 2 * 2 ^ 26 + x.toNat / 2 ^ 8 % 2 ^ 3 * 2 ^ 12 + x.toNat % 2 ^ 8 := by
  rw [FieldKind.place, BitVec.toNat_or, BitVec.toNat_or,
    toNat_and_shiftRight_shiftLeft (a := 11) (k := 1) rfl (by decide),
    toNat_and_shiftRight_shiftLeft (a := 8) (k := 3) rfl (by decide), toNat_and_0xff]
  simp only [Nat.reducePow]
  have himm3 : x.toNat / 256 % 8 * 4096 ||| x.toNat / 2048 % 2 * 67108864 =
      x.toNat / 256 % 8 * 4096 + x.toNat / 2048 % 2 * 67108864 :=
    Word.or_eq_add_of_lt (k := 26) (by omega) (by omega)
  rw [Nat.or_comm (x.toNat / 2048 % 2 * 67108864), himm3, Nat.or_comm,
    Word.or_eq_add_of_lt (k := 8) (by omega) (by omega)]
  omega

theorem toNat_place_imm16 (x : BitVec 32) :
    (FieldKind.imm16.place x).toNat = x.toNat / 2 ^ 11 % 2 * 2 ^ 26 +
      x.toNat / 2 ^ 12 % 2 ^ 4 * 2 ^ 16 + x.toNat / 2 ^ 8 % 2 ^ 3 * 2 ^ 12 + x.toNat % 2 ^ 8 := by
  rw [FieldKind.place, BitVec.toNat_or, BitVec.toNat_or, BitVec.toNat_or,
    toNat_and_shiftRight_shiftLeft (a := 11) (k := 1) rfl (by decide),
    toNat_and_shiftRight_shiftLeft (a := 12) (k := 4) rfl (by decide),
    toNat_and_shiftRight_shiftLeft (a := 8) (k := 3) rfl (by decide), toNat_and_0xff]
  simp only [Nat.reducePow]
  have himm4 : x.toNat / 4096 % 16 * 65536 ||| x.toNat / 2048 % 2 * 67108864 =
      x.toNat / 4096 % 16 * 65536 + x.toNat / 2048 % 2 * 67108864 :=
    Word.or_eq_add_of_lt (k := 26) (by omega) (by omega)
  have himm3 : x.toNat / 256 % 8 * 4096 |||
      (x.toNat / 4096 % 16 * 65536 + x.toNat / 2048 % 2 * 67108864) =
      x.toNat / 256 % 8 * 4096 + (x.toNat / 4096 % 16 * 65536 + x.toNat / 2048 % 2 * 67108864) :=
    Word.or_eq_add_of_lt (k := 16) (by omega) (by omega)
  rw [Nat.or_comm (x.toNat / 2048 % 2 * 67108864), himm4, Nat.or_comm _ (x.toNat / 256 % 8 * 4096),
    himm3, Nat.or_comm, Word.or_eq_add_of_lt (k := 8) (by omega) (by omega)]
  omega

/-! ### The fields of the assembled word -/

theorem imm12Of_bitBlt (reg : BitVec 32) : imm12Of ((FieldKind.bitBlt 11 8).place reg) = 0#12 := by
  apply BitVec.eq_of_toNat_eq
  rw [toNat_imm12Of, toNat_place_bitBlt reg (by decide)]
  simp only [Nat.reducePow, Nat.reduceAdd, BitVec.toNat_ofNat]
  omega

theorem imm12Of_modImm (e : BitVec 32) : imm12Of (FieldKind.modImm.place e) = e.setWidth 12 := by
  apply BitVec.eq_of_toNat_eq
  rw [toNat_imm12Of, toNat_place_modImm, BitVec.toNat_setWidth]
  simp only [Nat.reducePow]
  have hsplit : e.toNat % 4096 = e.toNat / 2048 % 2 * 2048 + e.toNat / 256 % 8 * 256 +
      e.toNat % 256 := by omega
  have hp : e.toNat / 2048 % 2 < 2 := Nat.mod_lt _ (by decide)
  have hq : e.toNat / 256 % 8 < 8 := Nat.mod_lt _ (by decide)
  have hr : e.toNat % 256 < 256 := Nat.mod_lt _ (by decide)
  rw [hsplit]
  generalize e.toNat / 2048 % 2 = p at hp ⊢
  generalize e.toNat / 256 % 8 = q at hq ⊢
  generalize e.toNat % 256 = r at hr ⊢
  omega

theorem imm16Of_bitBlt (reg : BitVec 32) : imm16Of ((FieldKind.bitBlt 11 8).place reg) = 0#16 := by
  apply BitVec.eq_of_toNat_eq
  rw [toNat_imm16Of, toNat_place_bitBlt reg (by decide)]
  simp only [Nat.reducePow, Nat.reduceAdd, BitVec.toNat_ofNat]
  omega

theorem imm16Of_imm16 (x : BitVec 32) : imm16Of (FieldKind.imm16.place x) = x.setWidth 16 := by
  apply BitVec.eq_of_toNat_eq
  rw [toNat_imm16Of, toNat_place_imm16, BitVec.toNat_setWidth]
  simp only [Nat.reducePow]
  have hsplit : x.toNat % 65536 = x.toNat / 4096 % 16 * 4096 + x.toNat / 2048 % 2 * 2048 +
      x.toNat / 256 % 8 * 256 + x.toNat % 256 := by omega
  have hp : x.toNat / 2048 % 2 < 2 := Nat.mod_lt _ (by decide)
  have ho : x.toNat / 4096 % 16 < 16 := Nat.mod_lt _ (by decide)
  have hq : x.toNat / 256 % 8 < 8 := Nat.mod_lt _ (by decide)
  have hr : x.toNat % 256 < 256 := Nat.mod_lt _ (by decide)
  rw [hsplit]
  generalize x.toNat / 2048 % 2 = p at hp ⊢
  generalize x.toNat / 4096 % 16 = o at ho ⊢
  generalize x.toNat / 256 % 8 = q at hq ⊢
  generalize x.toNat % 256 = r at hr ⊢
  omega

/-- The register operand lands in bits 11:8; the immediates leave them clear. -/
theorem toNat_rd_bitBlt (reg : BitVec 32) :
    (((FieldKind.bitBlt 11 8).place reg).extractLsb 11 8).toNat = reg.toNat % 16 := by
  rw [toNat_extractLsb_11_8, toNat_place_bitBlt reg (by decide)]
  simp only [Nat.reducePow, Nat.reduceAdd]
  omega

theorem toNat_rd_modImm (e : BitVec 32) : ((FieldKind.modImm.place e).extractLsb 11 8).toNat = 0 := by
  rw [toNat_extractLsb_11_8, toNat_place_modImm]
  simp only [Nat.reducePow]
  omega

theorem toNat_rd_imm16 (x : BitVec 32) : ((FieldKind.imm16.place x).extractLsb 11 8).toNat = 0 := by
  rw [toNat_extractLsb_11_8, toNat_place_imm16]
  simp only [Nat.reducePow]
  omega

/-- The skeletons of the 32-bit forms leave `Rd` clear. -/
theorem skeleton_rd {op : Opcode} (hop : op ≠ .thumbMovImm) :
    ((encodingMap op).skeleton.extractLsb 11 8).toNat = 0 := by
  cases op with
  | thumbMovImm => exact absurd rfl hop
  | _ => decide

/-- The `Rd` of a 32-bit form is the register operand modulo `16`. -/
theorem rdOf_assemble {op : Opcode} (hop : op ≠ .thumbMovImm) (reg x : BitVec 32) :
    rdOf (ArmLir.assemble ⟨op, reg, x⟩) = reg.toNat % 16 := by
  have hfield0 : (encodingMap op).field0 = .bitBlt 11 8 := by
    cases op with
    | thumbMovImm => exact absurd rfl hop
    | _ => rfl
  have hfield1 : (((encodingMap op).field1.place x).extractLsb 11 8).toNat = 0 := by
    cases op with
    | thumbMovImm => exact absurd rfl hop
    | thumb2MovI8M | thumb2MvnI8M => exact toNat_rd_modImm x
    | thumb2MovImm16 | thumb2MovImm16H => exact toNat_rd_imm16 x
  simp only [rdOf, ArmLir.assemble, BitVec.extractLsb_or, BitVec.toNat_or,
    skeleton_rd hop, hfield0, hfield1, toNat_rd_bitBlt, Nat.zero_or, Nat.or_zero]

/-! ### What each instruction does -/

/-- `i:imm3:imm8` of a `MOV` or `MVN` is the low twelve bits of the operand. -/
theorem imm12Of_assemble {op : Opcode} (hop : op = .thumb2MovI8M ∨ op = .thumb2MvnI8M)
    (reg e : BitVec 32) : imm12Of (ArmLir.assemble ⟨op, reg, e⟩) = e.setWidth 12 := by
  have hskel : imm12Of (encodingMap op).skeleton = 0#12 := by
    rcases hop with rfl | rfl <;> decide
  have hfields : (encodingMap op).field0 = .bitBlt 11 8 ∧ (encodingMap op).field1 = .modImm := by
    rcases hop with rfl | rfl <;> exact ⟨rfl, rfl⟩
  simp only [ArmLir.assemble, imm12Of_or, hskel, hfields.1, hfields.2, imm12Of_bitBlt,
    imm12Of_modImm, BitVec.zero_or]

/-- `mov rd, #e`: `Rd` gets `ThumbExpandImm` of the twelve bits `kFmtModImm` placed. -/
theorem exec_movI8M (reg e : BitVec 32) (regs : Nat → BitVec 32) :
    ArmLir.exec ⟨.thumb2MovI8M, reg, e⟩ regs =
      (thumbExpandImm (e.setWidth 12)).map (Function.update regs (reg.toNat % 16)) := by
  simp only [ArmLir.exec, imm12Of_assemble (.inl rfl),
    rdOf_assemble (show Opcode.thumb2MovI8M ≠ .thumbMovImm from nofun)]

/-- `mvn rd, #e`: `Rd` gets the complement of `ThumbExpandImm` of the placed twelve bits. -/
theorem exec_mvnI8M (reg e : BitVec 32) (regs : Nat → BitVec 32) :
    ArmLir.exec ⟨.thumb2MvnI8M, reg, e⟩ regs =
      (thumbExpandImm (e.setWidth 12)).map
        (fun x => Function.update regs (reg.toNat % 16) (~~~x)) := by
  simp only [ArmLir.exec, imm12Of_assemble (.inr rfl),
    rdOf_assemble (show Opcode.thumb2MvnI8M ≠ .thumbMovImm from nofun)]

theorem toNat_and_0xffff (v : BitVec 32) : (v &&& 0xffff).toNat = v.toNat % 0x10000 := by
  rw [BitVec.toNat_and]
  exact Nat.and_two_pow_sub_one_eq_mod v.toNat 16

/-- `imm16` of a `MOVW` or `MOVT` is the low half of the operand. -/
theorem imm16Of_assemble {op : Opcode} (hop : op = .thumb2MovImm16 ∨ op = .thumb2MovImm16H)
    (reg x : BitVec 32) : (imm16Of (ArmLir.assemble ⟨op, reg, x⟩)).setWidth 32 = x &&& 0xffff := by
  have hskel : imm16Of (encodingMap op).skeleton = 0#16 := by
    rcases hop with rfl | rfl <;> decide
  have hfields : (encodingMap op).field0 = .bitBlt 11 8 ∧ (encodingMap op).field1 = .imm16 := by
    rcases hop with rfl | rfl <;> exact ⟨rfl, rfl⟩
  simp only [ArmLir.assemble, imm16Of_or, hskel, hfields.1, hfields.2, imm16Of_bitBlt,
    imm16Of_imm16, BitVec.zero_or]
  apply BitVec.eq_of_toNat_eq
  rw [BitVec.toNat_setWidth, BitVec.toNat_setWidth, toNat_and_0xffff]
  omega

/-- `movw rd, #x`: `Rd` gets the low half of `x`. -/
theorem exec_movImm16 (reg x : BitVec 32) (regs : Nat → BitVec 32) :
    ArmLir.exec ⟨.thumb2MovImm16, reg, x⟩ regs =
      some (Function.update regs (reg.toNat % 16) (x &&& 0xffff)) := by
  simp only [ArmLir.exec, imm16Of_assemble (.inl rfl),
    rdOf_assemble (show Opcode.thumb2MovImm16 ≠ .thumbMovImm from nofun)]

/-- `movt rd, #x`: the upper half of `Rd` gets the low half of `x`, the lower half stays. -/
theorem exec_movImm16H (reg x : BitVec 32) (regs : Nat → BitVec 32) :
    ArmLir.exec ⟨.thumb2MovImm16H, reg, x⟩ regs =
      some (Function.update regs (reg.toNat % 16)
        ((x &&& 0xffff) <<< 16 ||| (regs (reg.toNat % 16) &&& 0xffff))) := by
  simp only [ArmLir.exec, imm16Of_assemble (.inr rfl),
    rdOf_assemble (show Opcode.thumb2MovImm16H ≠ .thumbMovImm from nofun)]

/-- `movs rd, #x` (16 bits): the `Rd` of bits 10:8 gets the low byte of `x`. -/
theorem exec_movImm (reg x : BitVec 32) (regs : Nat → BitVec 32) :
    ArmLir.exec ⟨.thumbMovImm, reg, x⟩ regs =
      some (Function.update regs (reg.toNat % 8) (x &&& 0xff)) := by
  have hword : (ArmLir.assemble ⟨.thumbMovImm, reg, x⟩).toNat =
      0x2000 + reg.toNat * 0x100 % 0x100000000 % 0x800 + x.toNat % 0x100 := by
    have hskel : (0x2000 : BitVec 32).toNat = 0x2000 := rfl
    simp only [ArmLir.assemble, encodingMap, BitVec.toNat_or, hskel,
      toNat_place_bitBlt _ (by decide : 10 < 31), toNat_place_bitBlt _ (by decide : 7 < 31),
      Nat.reducePow, Nat.reduceAdd, Nat.mul_one]
    have hreg : reg.toNat * 256 % 4294967296 % 2048 ||| 0x2000 =
        reg.toNat * 256 % 4294967296 % 2048 + 0x2000 :=
      Word.or_eq_add_of_lt (k := 13) (by omega) (by omega)
    rw [Nat.or_comm 0x2000, hreg, Nat.or_comm, Word.or_eq_add_of_lt (k := 8) (by omega) (by omega)]
    omega
  have hrd : ((ArmLir.assemble ⟨.thumbMovImm, reg, x⟩).extractLsb 10 8).toNat = reg.toNat % 8 := by
    rw [BitVec.extractLsb_toNat, hword, Nat.shiftRight_eq_div_pow]
    simp only [Nat.reducePow, Nat.reduceAdd, Nat.reduceSub]
    omega
  have himm : ((ArmLir.assemble ⟨.thumbMovImm, reg, x⟩).extractLsb 7 0).setWidth 32 =
      x &&& 0xff := by
    apply BitVec.eq_of_toNat_eq
    rw [BitVec.toNat_setWidth, BitVec.extractLsb_toNat, hword, toNat_and_0xff, Nat.shiftRight_zero]
    simp only [Nat.reducePow, Nat.reduceAdd, Nat.reduceSub]
    omega
  simp only [ArmLir.exec, hrd, himm]

end Assemble

/-! ## `LoadConstantNoClobber` -/

section Load

/-- A 12-bit encoding as the `int` operand of a LIR and back. -/
theorem setWidth_ofInt_encoding {e : Int} (h0 : 0 ≤ e) (h1 : e < 0x1000) :
    (BitVec.ofInt 32 e).setWidth 12 = BitVec.ofInt 12 e ∧
      (BitVec.ofInt 12 e).setWidth 32 = BitVec.ofInt 32 e := by
  obtain ⟨n, rfl⟩ := Int.eq_ofNat_of_zero_le h0
  simp only [BitVec.ofInt_natCast]
  constructor <;> apply BitVec.eq_of_toNat_eq <;>
    simp only [BitVec.toNat_setWidth, BitVec.toNat_ofNat] <;> omega

/-- `movt` puts the high half back over the low half `movw` loaded. -/
theorem high_or_low (v : BitVec 32) : ((v >>> 16) &&& 0xffff) <<< 16 ||| (v &&& 0xffff) = v := by
  apply BitVec.eq_of_toNat_eq
  have hv := v.isLt
  rw [BitVec.toNat_or, BitVec.toNat_shiftLeft, toNat_and_0xffff, toNat_and_0xffff,
    BitVec.toNat_ushiftRight, Nat.shiftRight_eq_div_pow, Nat.shiftLeft_eq]
  simp only [Nat.reducePow] at hv ⊢
  rw [Nat.mod_eq_of_lt (by omega), Nat.or_comm, Word.or_eq_add_of_lt (k := 16) (by omega) (by omega)]
  omega

/-- `ModifiedImmediate`'s non-negative result, as the operand of `kThumb2MovI8M`, loads the
value. -/
theorem exec_movI8M_modifiedImmediate {v : BitVec 32} (h : 0 ≤ modifiedImmediate v)
    (reg : BitVec 32) (regs : Nat → BitVec 32) :
    ArmLir.exec ⟨.thumb2MovI8M, reg, BitVec.ofInt 32 (modifiedImmediate v)⟩ regs =
      some (Function.update regs (reg.toNat % 16) v) := by
  obtain ⟨hlt, hexp⟩ := thumbExpandImm_modifiedImmediate h
  rw [exec_movI8M, (setWidth_ofInt_encoding h hlt).1, hexp, Option.map_some]

/-- **`LoadConstantNoClobber` loads the constant.**  Every sequence it emits for a core register
runs, writes `value` to the register numbered `reg` (modulo `16`) and leaves the others. -/
theorem loadConstantNoClobber_loads (reg value : BitVec 32) (regs : Nat → BitVec 32) :
    ∃ regs', runLirs (loadConstantNoClobber reg value) regs = some regs' ∧
      regs' (reg.toNat % 16) = value ∧ ∀ j, j ≠ reg.toNat % 16 → regs' j = regs j := by
  have hupdate : ∀ v, (Function.update regs (reg.toNat % 16) v) (reg.toNat % 16) = v ∧
      ∀ j, j ≠ reg.toNat % 16 → Function.update regs (reg.toNat % 16) v j = regs j :=
    fun v => ⟨Function.update_self _ _ _, fun j hj => Function.update_of_ne hj _ _⟩
  simp only [loadConstantNoClobber]
  split_ifs with hmov hmod hmvn hlow
  · -- `movs`: a low register and a byte
    obtain ⟨hreg, h0, h255⟩ := hmov
    have hr : reg.toNat % 8 = reg.toNat % 16 := by
      have := BitVec.lt_def.1 hreg
      rw [BitVec.toNat_and, show (0x3f : BitVec 32).toNat = 2 ^ 6 - 1 from rfl,
        Nat.and_two_pow_sub_one_eq_mod] at this
      change reg.toNat % 64 < 8 at this
      omega
    have hbyte : value &&& 0xff = value := by
      rw [BitVec.toInt_eq_toNat_cond] at h0 h255
      split_ifs at h0 h255 with hhalf
      · exact and_0xff_of_lt (by omega)
      · omega
    exact ⟨_, by rw [runLirs, exec_movImm, hr, hbyte]; rfl, hupdate value⟩
  · -- `mov` of the modified immediate
    exact ⟨_, by rw [runLirs, exec_movI8M_modifiedImmediate hmod]; rfl, hupdate value⟩
  · -- `mvn` of the modified immediate of the complement
    obtain ⟨hlt, hexp⟩ := thumbExpandImm_modifiedImmediate hmvn
    refine ⟨_, ?_, hupdate value⟩
    rw [runLirs, exec_mvnI8M, (setWidth_ofInt_encoding hmvn hlt).1, hexp, Option.map_some,
      BitVec.not_not]
    rfl
  · -- `movw` of a 16-bit value
    exact ⟨_, by rw [runLirs, exec_movImm16, hlow]; rfl, hupdate value⟩
  · -- `movw` of the low half, then `movt` of the high half
    refine ⟨_, ?_, hupdate value⟩
    simp only [runLirs, exec_movImm16, exec_movImm16H, Option.bind_some, Function.update_self,
      Function.update_idem, BitVec.and_assoc, BitVec.and_self, high_or_low]

/-- The modified immediates are exactly the values of `ThumbExpandImm`. -/
theorem isModifiedImmediate_iff_thumbExpandImm (v : BitVec 32) :
    IsModifiedImmediate v ↔ ∃ e, thumbExpandImm e = some v :=
  ⟨fun h => ⟨_, (thumbExpandImm_modifiedImmediate (modifiedImmediate_nonneg h)).2⟩,
    fun ⟨_, h⟩ => isModifiedImmediate_of_thumbExpandImm h⟩

/-- Thumb2 modified immediates are encoded exactly: `ModifiedImmediate(v)` returns a 12-bit
encoding if and only if `v` is a modified immediate; the encoding expands back to `v` through
`ExpandImmediate` and, placed by `kFmtModImm` in a `mov`, through the processor's
`ThumbExpandImm`; and whatever `LoadConstantNoClobber` emits loads the constant. -/
theorem modifiedImmediate_exact (v : BitVec 32) :
    ((0 ≤ modifiedImmediate v ∧ modifiedImmediate v < 0x1000) ↔ IsModifiedImmediate v) ∧
      (0 ≤ modifiedImmediate v →
        expandImmediate (BitVec.ofInt 32 (modifiedImmediate v)) = v ∧
          ∀ reg : BitVec 32, thumbExpandImm (imm12Of (ArmLir.assemble
            ⟨.thumb2MovI8M, reg, BitVec.ofInt 32 (modifiedImmediate v)⟩)) = some v) ∧
      ∀ (reg value : BitVec 32) (regs : Nat → BitVec 32), ∃ regs',
        runLirs (loadConstantNoClobber reg value) regs = some regs' ∧
          regs' (reg.toNat % 16) = value := by
  refine ⟨⟨fun h => ?_, fun h => ?_⟩, fun h0 => ⟨?_, fun reg => ?_⟩, fun reg value regs => ?_⟩
  · exact isModifiedImmediate_of_thumbExpandImm (thumbExpandImm_modifiedImmediate h.1).2
  · have h0 := modifiedImmediate_nonneg h
    exact ⟨h0, (thumbExpandImm_modifiedImmediate h0).1⟩
  · obtain ⟨hlt, hexp⟩ := thumbExpandImm_modifiedImmediate h0
    rw [← (setWidth_ofInt_encoding h0 hlt).2]
    exact expandImmediate_of_thumbExpandImm hexp
  · obtain ⟨hlt, hexp⟩ := thumbExpandImm_modifiedImmediate h0
    rw [imm12Of_assemble (.inl rfl), (setWidth_ofInt_encoding h0 hlt).1, hexp]
  · obtain ⟨regs', hrun, hrd, -⟩ := loadConstantNoClobber_loads reg value regs
    exact ⟨regs', hrun, hrd⟩

end Load

end Art.Quick.Arm
