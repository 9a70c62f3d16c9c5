import AndroidArt.Quick.DivRem
import AndroidArt.Quick.LogicalImmediate

/-!
# Division by a literal on ARM64

Model of `Arm64Mir2Lir::HandleEasyDivRem64`, `SmallLiteralDivRem` and `SmallLiteralDivRem64` with
their `magic_table` (`compiler/dex/quick/arm64/int_arm64.cc`), on the X registers of A64 and
their W views.

* `A64` — the instructions these generators emit: the generic operations on W or X registers
  (a W write clears the upper half), `smaddl`, `smulh`, and `orr`, `eor` and `add` with an
  immediate.
* `run_map_w`, `run_map_x` — a sequence of W operations acts on the W view as the LIR does on
  32-bit registers, a sequence of X operations as on 64-bit registers.
* `run_genEasyDivRem` — the shift sequences of `HandleEasyDivRem64` compute Java's quotient and
  remainder by `2^k` on registers of any width with `k + 2 < width`; `run_handleEasyDivRem64_w`
  and `run_handleEasyDivRem64_x` put them on W registers for `k ≤ 29` and on X registers for
  `k ≤ 61`.
* `magicTable_exact`, `magicTable_loaded` — the table's 32-bit and 64-bit magic numbers are right
  for their divisors, and the `orr` with `eor` or `add` that loads a 64-bit one loads it.
* `run_smallLiteralDivRem`, `run_smallLiteralDivRem64` — the reciprocal multiplications compute
  Java's quotient on W and on X registers.
* `divRemByPowerOfTwo_exact`, `smallLiteralDivRem_exact` — division by a literal on Thumb2 and
  ARM64, the shift sequences and the reciprocal multiplications together, is Java's.
-/

set_option autoImplicit false

namespace Art.Quick.Arm64

/-- The W view of the X registers: their low halves. -/
def wView (regs : Nat → BitVec 64) : Nat → BitVec 32 := fun r => (regs r).setWidth 32

/-- An instruction of the ARM64 backend.  `w l` is the generic operation `l` on W registers: it
reads their low halves and zero-extends what it writes; `x l` is `l` on X registers.  `smaddl`
is `kA64Smaddl4xwwx` with the zero register as addend, `smulh` is `kA64Smulh3xxx`, and `orr`,
`eor` and `addImm` are the wide `kA64Orr3Rrl` from the zero register, `kA64Eor3Rrl` and
`kA64Add4RRdT` (unshifted) with their immediate operand. -/
inductive A64
  | w (l : Lir)
  | x (l : Lir)
  | smaddl (rd rn rm : Nat)
  | smulh (rd rn rm : Nat)
  | orr (rd imm : Nat)
  | eor (rd rn imm : Nat)
  | addImm (rd rn imm : Nat)
  deriving DecidableEq, Repr

/-- One instruction on the X registers; a reserved logical immediate is undefined (`none`). -/
def A64.exec (regs : Nat → BitVec 64) : A64 → Option (Nat → BitVec 64)
  | .w l => some fun r => if r ∈ l.writes then (l.exec (wView regs) r).setWidth 64 else regs r
  | .x l => some (l.exec regs)
  | .smaddl rd rn rm =>
    some (Function.update regs rd
      (((regs rn).setWidth 32).signExtend 64 * ((regs rm).setWidth 32).signExtend 64))
  | .smulh rd rn rm => some (Function.update regs rd (mulHigh (regs rn) (regs rm)))
  | .orr rd imm => (decodeBitMasks 64 imm).map fun v => Function.update regs rd (BitVec.ofNat 64 v)
  | .eor rd rn imm =>
    (decodeBitMasks 64 imm).map fun v => Function.update regs rd (regs rn ^^^ BitVec.ofNat 64 v)
  | .addImm rd rn imm => some (Function.update regs rd (regs rn + BitVec.ofNat 64 imm))

/-- A straight-line sequence of instructions. -/
def run (code : List A64) (regs : Nat → BitVec 64) : Option (Nat → BitVec 64) :=
  code.foldlM A64.exec regs

@[simp] theorem run_nil (regs : Nat → BitVec 64) : run [] regs = some regs := rfl

@[simp] theorem run_cons (i : A64) (code : List A64) (regs : Nat → BitVec 64) :
    run (i :: code) regs = (i.exec regs).bind (run code) := rfl

/-- A W operation acts on the W view as the LIR on 32-bit registers. -/
theorem wView_exec_w (regs : Nat → BitVec 64) (l : Lir) :
    (A64.w l).exec regs = some fun r =>
      if r ∈ l.writes then (l.exec (wView regs) r).setWidth 64 else regs r := rfl

theorem wView_of_exec_w (regs : Nat → BitVec 64) (l : Lir) :
    wView (fun r => if r ∈ l.writes then (l.exec (wView regs) r).setWidth 64 else regs r) =
      l.exec (wView regs) := by
  funext r
  by_cases h : r ∈ l.writes
  · simp only [wView, h, ↓reduceIte, BitVec.setWidth_setWidth_of_le _ (by decide : 32 ≤ 64),
      BitVec.setWidth_eq]
  · simp only [wView, h, ↓reduceIte]
    rw [Lir.exec_of_not_mem_writes h]
    rfl

/-- **W simulation.**  A sequence of W operations runs, and leaves the W view where the LIR
leaves 32-bit registers. -/
theorem run_map_w : ∀ (code : List Lir) (regs : Nat → BitVec 64),
    ∃ regs', run (code.map A64.w) regs = some regs' ∧ wView regs' = Quick.run code (wView regs)
  | [], regs => ⟨regs, rfl, rfl⟩
  | l :: code, regs => by
    obtain ⟨regs', h, hw⟩ := run_map_w code
      (fun r => if r ∈ l.writes then (l.exec (wView regs) r).setWidth 64 else regs r)
    refine ⟨regs', ?_, ?_⟩
    · rw [List.map_cons, run_cons, wView_exec_w, Option.bind_some, h]
    · rw [hw, wView_of_exec_w, Quick.run_cons]

/-- **X simulation.**  A sequence of X operations is the LIR on 64-bit registers. -/
theorem run_map_x : ∀ (code : List Lir) (regs : Nat → BitVec 64),
    run (code.map A64.x) regs = some (Quick.run code regs)
  | [], _ => rfl
  | l :: code, regs => by
    rw [List.map_cons, run_cons, A64.exec, Option.bind_some, run_map_x code, Quick.run_cons]

/-! ## The generators -/

/-- An entry of the `magic_table` of `int_arm64.cc`: the 64-bit magic number as a logical
immediate `magic64_base` followed by an `eor` with `magic64_eor` or, for a negative
`magic64_eor`, an `add` of one, or loaded whole when `magic64_base` is negative. -/
structure MagicTable where
  magic64Base : Int
  magic64Eor : Int
  magic64 : Nat
  magic32 : Nat
  shift : Nat
  pattern : DividePattern
  deriving DecidableEq, Repr

/-- `magic_table`, indexed by the divisor. -/
def magicTable : List MagicTable :=
  [⟨0, 0, 0, 0, 0, .divideNone⟩,
   ⟨0, 0, 0, 0, 0, .divideNone⟩,
   ⟨0, 0, 0, 0, 0, .divideNone⟩,
   ⟨0x3c, -1, 0x5555555555555556, 0x55555556, 0, .divide3⟩,
   ⟨0, 0, 0, 0, 0, .divideNone⟩,
   ⟨0xf9, -1, 0x6666666666666667, 0x66666667, 1, .divide5⟩,
   ⟨0x7c, 0x1041, 0x2AAAAAAAAAAAAAAB, 0x2AAAAAAB, 0, .divide3⟩,
   ⟨-1, -1, 0x924924924924924A, 0x92492493, 2, .divide7⟩,
   ⟨0, 0, 0, 0, 0, .divideNone⟩,
   ⟨-1, -1, 0x38E38E38E38E38E4, 0x38E38E39, 1, .divide5⟩,
   ⟨0xf9, -1, 0x6666666666666667, 0x66666667, 2, .divide5⟩,
   ⟨-1, -1, 0x2E8BA2E8BA2E8BA3, 0x2E8BA2E9, 1, .divide5⟩,
   ⟨0x7c, 0x1041, 0x2AAAAAAAAAAAAAAB, 0x2AAAAAAB, 1, .divide5⟩,
   ⟨-1, -1, 0x4EC4EC4EC4EC4EC5, 0x4EC4EC4F, 2, .divide5⟩,
   ⟨-1, -1, 0x924924924924924A, 0x92492493, 3, .divide7⟩,
   ⟨0x78, -1, 0x8888888888888889, 0x88888889, 3, .divide7⟩]

/-- The entry of a divisor, and an entry without a pattern past the end. -/
def MagicTable.get (d : Nat) : MagicTable := magicTable.getD d ⟨0, 0, 0, 0, 0, .divideNone⟩

/-- `Arm64Mir2Lir::SmallLiteralDivRem` on W registers, for the quotient only: the signed
product of the dividend with the 32-bit magic number into the X register `r_long_mul`
(`smaddl`), its high half by a logical shift, or an arithmetic shift by `32 + shift`, or added to
the dividend and shifted on the W register, then the correction by the dividend's sign. -/
def smallLiteralDivRem (isDiv : Bool) (ra : RegAlloc) (lit : BitVec 32) :
    Option (Option (List A64)) :=
  if lit.toInt < 0 ∨ (magicTable.length : Int) ≤ lit.toInt then some none
  else
    let entry := MagicTable.get lit.toNat
    if entry.pattern = .divideNone then some none
    else if !isDiv then some none
    else
      let rMagic := ra.temp 0
      let rLongMul := ra.temp 1
      let pattern : List A64 :=
        match entry.pattern with
        | .divide3 =>
          [.x (.opRegRegImm .lsr rLongMul rLongMul 32),
           .w (.opRegRegRegShift .sub ra.result rLongMul ra.src ⟨.asr, 31⟩)]
        | .divide5 =>
          [.x (.opRegRegImm .asr rLongMul rLongMul (32 + entry.shift)),
           .w (.opRegRegRegShift .sub ra.result rLongMul ra.src ⟨.asr, 31⟩)]
        | .divide7 =>
          [.x (.opRegRegRegShift .add rLongMul ra.src rLongMul ⟨.lsr, 32⟩),
           .w (.opRegRegImm .asr rLongMul rLongMul entry.shift),
           .w (.opRegRegRegShift .sub ra.result rLongMul ra.src ⟨.asr, 31⟩)]
        | .divideNone => []
      some (.w (.loadConstant rMagic entry.magic32) :: .smaddl rLongMul rMagic ra.src :: pattern)

/-- The instructions that load the 64-bit magic number of an entry into `r_magic`.  The debug
build's reconstruction of the value from the two immediates is computed and never checked. -/
def loadMagic64 (entry : MagicTable) (rMagic : Nat) : List A64 :=
  if 0 ≤ entry.magic64Base then
    .orr rMagic entry.magic64Base.toNat ::
      if 0 ≤ entry.magic64Eor then [.eor rMagic rMagic entry.magic64Eor.toNat]
      else [.addImm rMagic rMagic 1]
  else [.x (.loadConstant rMagic entry.magic64)]

/-- `Arm64Mir2Lir::SmallLiteralDivRem64`, for the quotient only: the high half of the 128-bit
product with the 64-bit magic number (`smulh`), shifted or added to the dividend by the entry's
pattern, then the correction by the dividend's sign. -/
def smallLiteralDivRem64 (isDiv : Bool) (ra : RegAlloc) (lit : BitVec 64) :
    Option (Option (List A64)) :=
  if lit.toInt < 0 ∨ (magicTable.length : Int) ≤ lit.toInt then some none
  else
    let entry := MagicTable.get lit.toNat
    if entry.pattern = .divideNone then some none
    else if !isDiv then some none
    else
      let rMagic := ra.temp 0
      let rLongMul := ra.temp 1
      let pattern : List A64 :=
        match entry.pattern with
        | .divide3 => [.x (.opRegRegRegShift .sub ra.result rLongMul ra.src ⟨.asr, 63⟩)]
        | .divide5 =>
          [.x (.opRegRegImm .asr rLongMul rLongMul entry.shift),
           .x (.opRegRegRegShift .sub ra.result rLongMul ra.src ⟨.asr, 63⟩)]
        | .divide7 =>
          [.x (.opRegRegReg .add rLongMul ra.src rLongMul),
           .x (.opRegRegImm .asr rLongMul rLongMul entry.shift),
           .x (.opRegRegRegShift .sub ra.result rLongMul ra.src ⟨.asr, 63⟩)]
        | .divideNone => []
      some (loadMagic64 entry rMagic ++ .smulh rLongMul rMagic ra.src :: pattern)

/-- The operations of `HandleEasyDivRem64` for `lit = 2^k` on `nbits`-bit registers: the bias
`2^k - 1` of a negative dividend as the sign shifted right logically by `nbits - k`, added to the
dividend as a shifted operand. -/
def genEasyDivRem (isDiv : Bool) (nbits : Nat) (ra : RegAlloc) (lit : BitVec 64) (k : Nat) :
    List Lir :=
  let tReg := ra.temp 0
  let shift : Shift := ⟨.lsr, nbits - k⟩
  if isDiv then
    if lit = 2 then
      [.opRegRegRegShift .add tReg ra.src ra.src shift, .opRegRegImm .asr ra.result tReg k]
    else
      [.opRegRegImm .asr tReg ra.src (nbits - 1), .opRegRegRegShift .add tReg ra.src tReg shift,
       .opRegRegImm .asr ra.result tReg k]
  else if lit = 2 then
    [.opRegRegRegShift .add tReg ra.src ra.src shift, .opRegRegImm .and tReg tReg (lit.toInt - 1),
     .opRegRegRegShift .sub ra.result tReg ra.src shift]
  else
    let tReg2 := ra.temp 1
    [.opRegRegImm .asr tReg ra.src (nbits - 1), .opRegRegRegShift .add tReg2 ra.src tReg shift,
     .opRegRegImm .and tReg2 tReg2 (lit.toInt - 1),
     .opRegRegRegShift .sub ra.result tReg2 tReg shift]

/-- `Arm64Mir2Lir::HandleEasyDivRem64`: a literal of at least `2`; one that is not a power of two
goes to `SmallLiteralDivRem64` on X registers and to `SmallLiteralDivRem` on W registers, with
its low 32 bits; a power `2^k` with `k < nbits - 2` gets the shift sequences, on W or X
registers. -/
def handleEasyDivRem64 (isDiv is64Bit : Bool) (ra : RegAlloc) (lit : BitVec 64) :
    Option (Option (List A64)) :=
  let nbits := if is64Bit then 64 else 32
  if lit.toInt < 2 then some none
  else if isPowerOfTwo lit = false then
    if is64Bit then smallLiteralDivRem64 isDiv ra lit
    else smallLiteralDivRem isDiv ra (lit.setWidth 32)
  else
    (lowestSetBit lit).map fun (k : Nat) =>
      if nbits - 2 ≤ k then none
      else some ((genEasyDivRem isDiv nbits ra lit k).map (if is64Bit then A64.x else A64.w))

/-- `Arm64Mir2Lir::HandleEasyDivRem`: the `int` literal, sign-extended, on W registers. -/
def handleEasyDivRem (isDiv : Bool) (ra : RegAlloc) (lit : BitVec 32) :
    Option (Option (List A64)) :=
  handleEasyDivRem64 isDiv false ra (lit.signExtend 64)

/-! ## Division by a power of two -/

section EasyDivRem

variable {w : Nat}

/-- The literal of the shift sequences: `2^k` as an `int64_t`, with `k + 2 < w ≤ 64`. -/
theorem toInt_twoPow_sub_one_imm {k : Nat} (hk : k + 2 < w) (hw : w ≤ 64) :
    BitVec.ofInt w ((BitVec.twoPow 64 k).toInt - 1) = BitVec.ofNat w (2 ^ k - 1) := by
  rw [BitVec.toInt_twoPow_of_lt (by omega), ofInt_two_pow_sub_one]

theorem run_genEasyDivRem (ra : RegAlloc) (isDiv : Bool) {k : Nat} (hk1 : 1 ≤ k) (hk : k + 2 < w)
    (hw : w ≤ 64) (regs : Nat → BitVec w) :
    Quick.run (genEasyDivRem isDiv w ra (BitVec.twoPow 64 k) k) regs ra.result =
      if isDiv then javaDiv (regs ra.src) (BitVec.twoPow w k)
      else javaRem (regs ra.src) (BitVec.twoPow w k) := by
  have h0 := ra.temp_ne_src 0
  have h01 : ra.temp 0 ≠ ra.temp 1 := ra.temp_injective.ne (by decide)
  have hsh : ((w : Int) - 1).toNat = w - 1 := by omega
  have hdiv := sdiv_eq_javaDiv (n := regs ra.src) (Or.inr (BitVec.twoPow_ne_neg_one (k := k) (by omega)))
  have hb1 : BitVec.IsBias (regs ra.src) (regs ra.src >>> (w - 1)) 1 :=
    BitVec.toNat_ushiftRight_sign _ (by omega)
  have hb : BitVec.IsBias (regs ra.src) ((regs ra.src).sshiftRight (w - 1) >>> (w - k)) k :=
    BitVec.toNat_signMask_ushiftRight _ (by omega) (by omega)
  simp only [genEasyDivRem, twoPow_eq_two_iff (by decide : 1 < 64) (by omega : k < 64)]
  cases isDiv <;> by_cases hk2 : k = 1
  · subst hk2
    simp only [Bool.false_eq_true, ↓reduceIte, Quick.run_cons, Quick.run_nil, Lir.exec, Function.update_apply,
      OpKind.evalImm, OpKind.eval, Shift.apply, Ne.symm h0, toInt_twoPow_sub_one_imm hk hw]
    rw [BitVec.and_add_bias_sub (by omega) hb1, srem_eq_javaRem]
  · simp only [hk2, Bool.false_eq_true, ↓reduceIte, Quick.run_cons, Quick.run_nil, Lir.exec,
      Function.update_apply, OpKind.evalImm, OpKind.eval, Shift.apply, Ne.symm h0, h01, hsh,
      toInt_twoPow_sub_one_imm hk hw]
    rw [BitVec.and_add_bias_sub (by omega) hb, srem_eq_javaRem]
  · subst hk2
    simp only [↓reduceIte, Quick.run_cons, Quick.run_nil, Lir.exec, Function.update_apply,
      OpKind.evalImm, OpKind.eval, Shift.apply, Nat.cast_one, Int.reduceToNat]
    rw [BitVec.sshiftRight_add_bias (by omega) hb1, hdiv]
  · simp only [hk2, ↓reduceIte, Quick.run_cons, Quick.run_nil, Lir.exec, Function.update_apply,
      OpKind.evalImm, OpKind.eval, Shift.apply, Ne.symm h0, hsh, Int.toNat_natCast]
    rw [BitVec.sshiftRight_add_bias (by omega) hb, hdiv]

end EasyDivRem

/-- A power `2^k` of at least `2` passes the guards of `HandleEasyDivRem64`. -/
theorem not_toInt_twoPow_lt_two {k : Nat} (hk1 : 1 ≤ k) (hk : k ≤ 62) :
    ¬ (BitVec.twoPow 64 k).toInt < 2 := by
  rw [BitVec.toInt_twoPow_of_lt (by omega)]
  have : (2 : Int) ^ 1 ≤ 2 ^ k := pow_le_pow_right₀ (by norm_num) hk1
  omega

/-- **Division by `2^k` on W registers**: for `1 ≤ k ≤ 29` `HandleEasyDivRem64` emits W
operations that leave Java's quotient or remainder of the W view of every dividend. -/
theorem run_handleEasyDivRem64_w (isDiv : Bool) (ra : RegAlloc) {k : Nat} (hk1 : 1 ≤ k)
    (hk : k ≤ 29) :
    ∃ code, handleEasyDivRem64 isDiv false ra (BitVec.twoPow 64 k) = some (some code) ∧
      ∀ regs : Nat → BitVec 64, ∃ regs', run code regs = some regs' ∧
        wView regs' ra.result =
          if isDiv then javaDiv (wView regs ra.src) (BitVec.twoPow 32 k)
          else javaRem (wView regs ra.src) (BitVec.twoPow 32 k) := by
  have hk30 : ¬ 32 - 2 ≤ k := by omega
  simp only [handleEasyDivRem64, not_toInt_twoPow_lt_two hk1 (by omega),
    isPowerOfTwo_twoPow (by omega : k < 64), lowestSetBit_twoPow (by omega : k < 64),
    Bool.false_eq_true, Bool.true_eq_false, ↓reduceIte, hk30, Option.map_some, Option.some.injEq,
    exists_eq_left']
  intro regs
  obtain ⟨regs', hrun, hw⟩ := run_map_w (genEasyDivRem isDiv 32 ra (BitVec.twoPow 64 k) k) regs
  exact ⟨regs', hrun, by rw [hw]; exact run_genEasyDivRem ra isDiv hk1 (by omega) (by decide) _⟩

/-- **Division by `2^k` on X registers**: for `1 ≤ k ≤ 61` `HandleEasyDivRem64` emits X
operations that leave Java's 64-bit quotient or remainder of every dividend. -/
theorem run_handleEasyDivRem64_x (isDiv : Bool) (ra : RegAlloc) {k : Nat} (hk1 : 1 ≤ k)
    (hk : k ≤ 61) :
    ∃ code, handleEasyDivRem64 isDiv true ra (BitVec.twoPow 64 k) = some (some code) ∧
      ∀ regs : Nat → BitVec 64, ∃ regs', run code regs = some regs' ∧
        regs' ra.result =
          if isDiv then javaDiv (regs ra.src) (BitVec.twoPow 64 k)
          else javaRem (regs ra.src) (BitVec.twoPow 64 k) := by
  have hk62 : ¬ 64 - 2 ≤ k := by omega
  simp only [handleEasyDivRem64, not_toInt_twoPow_lt_two hk1 (by omega),
    isPowerOfTwo_twoPow (by omega : k < 64), lowestSetBit_twoPow (by omega : k < 64),
    Bool.true_eq_false, ↓reduceIte, hk62, Option.map_some, Option.some.injEq, exists_eq_left']
  intro regs
  rw [run_map_x]
  exact ⟨_, rfl, run_genEasyDivRem ra isDiv hk1 (by omega) (by decide) regs⟩

/-! ## Division by a reciprocal -/

theorem run_append (c₁ c₂ : List A64) (regs : Nat → BitVec 64) :
    run (c₁ ++ c₂) regs = (run c₁ regs).bind (run c₂) := by
  simp only [run, List.foldlM_append]
  rfl

theorem setWidth_setWidth_64 (x : BitVec 32) : (x.setWidth 64).setWidth 32 = x := by
  rw [BitVec.setWidth_setWidth_of_le _ (by decide), BitVec.setWidth_eq]

/-- The high half of `smaddl`'s product, read through a logical shift and the W view, is the
signed high product of the two words. -/
theorem setWidth_ushiftRight_mul (a b : BitVec 32) :
    ((a.signExtend 64 * b.signExtend 64) >>> 32).setWidth 32 = mulHigh a b := by
  rw [BitVec.setWidth_ushiftRight_eq_sshiftRight _ (by decide)]
  rfl

/-- What `loadMagic64` leaves in `r_magic` when its immediates are logical immediates. -/
def MagicTable.loaded (e : MagicTable) : Option (BitVec 64) :=
  if 0 ≤ e.magic64Base then
    (decodeBitMasks 64 e.magic64Base.toNat).bind fun base =>
      if 0 ≤ e.magic64Eor then
        (decodeBitMasks 64 e.magic64Eor.toNat).map fun eor =>
          BitVec.ofNat 64 base ^^^ BitVec.ofNat 64 eor
      else some (BitVec.ofNat 64 base + BitVec.ofNat 64 1)
  else some (BitVec.ofInt 64 e.magic64)

theorem run_loadMagic64 {e : MagicTable} {v : BitVec 64} (h : e.loaded = some v) (r : Nat)
    (regs : Nat → BitVec 64) :
    run (loadMagic64 e r) regs = some (Function.update regs r v) := by
  unfold MagicTable.loaded at h
  unfold loadMagic64
  split_ifs at h ⊢ with hb he
  · obtain ⟨base, hbase, h⟩ := Option.bind_eq_some_iff.mp h
    obtain ⟨eor, heor, rfl⟩ := Option.map_eq_some_iff.mp h
    simp [A64.exec, hbase, heor]
  · obtain ⟨base, hbase, h⟩ := Option.bind_eq_some_iff.mp h
    cases h
    simp [A64.exec, hbase]
  · cases h
    simp [A64.exec, Lir.exec]

/-- Every entry of `magic_table` with a pattern is right for its divisor on W and on X
registers. -/
theorem magicTable_exact :
    ∀ d < 16, (MagicTable.get d).pattern ≠ .divideNone →
      magicExact 32 (MagicTable.get d).magic32 (MagicTable.get d).shift
          (MagicTable.get d).pattern d = true ∧
        magicExact 64 (MagicTable.get d).magic64 (MagicTable.get d).shift
          (MagicTable.get d).pattern d = true := by
  decide

/-- The instructions that load the 64-bit magic number of an entry with a pattern load it. -/
theorem magicTable_loaded :
    ∀ d < 16, (MagicTable.get d).pattern ≠ .divideNone →
      (MagicTable.get d).loaded = some (BitVec.ofNat 64 (MagicTable.get d).magic64) := by
  decide

/-- **Reciprocal-multiply division on W registers is exact**: for every divisor of the table with
a pattern, `SmallLiteralDivRem` emits code for the quotient, and the code leaves Java's quotient
of the W view of every dividend in the result's W view, whatever the upper halves hold. -/
theorem run_smallLiteralDivRem (ra : RegAlloc) {lit : BitVec 32} (h3 : 3 ≤ lit.toInt)
    (h15 : lit.toInt ≤ 15) (hpat : (MagicTable.get lit.toNat).pattern ≠ .divideNone) :
    ∃ code, smallLiteralDivRem true ra lit = some (some code) ∧
      ∀ regs : Nat → BitVec 64, ∃ regs', run code regs = some regs' ∧
        wView regs' ra.result = javaDiv (wView regs ra.src) lit := by
  have hpos : 0 < lit.toInt := by omega
  have hlit := natCast_toNat_of_nonneg hpos.le
  have hn : lit.toNat < 16 := by omega
  obtain ⟨hex, -⟩ := magicTable_exact lit.toNat hn hpat
  simp only [magicExact, Bool.and_eq_true, decide_eq_true_eq] at hex
  obtain ⟨⟨hlo, hhi⟩, hp⟩ := hex
  have hrange : ¬ (lit.toInt < 0 ∨ (magicTable.length : Int) ≤ lit.toInt) := by
    simp only [magicTable, List.length_cons, List.length_nil]
    omega
  have h0 := ra.temp_ne_src 0
  have h1 := ra.temp_ne_src 1
  simp only [smallLiteralDivRem, hrange, hpat, ↓reduceIte, Bool.not_true, Bool.false_eq_true,
    Option.some.injEq, exists_eq_left']
  intro regs
  -- the instructions run one by one; the membership tests of the W writes are split off, since
  -- reducing them in the same call sends the kernel into a deep recursion
  cases hpattern : (MagicTable.get lit.toNat).pattern <;> rw [hpattern] at hp <;>
    simp only [run_cons, run_nil, A64.exec, Option.bind_some] <;>
    simp only [Lir.writes] <;>
    simp only [List.mem_singleton, Lir.exec, Function.update_apply, OpKind.evalImm, OpKind.eval,
      Shift.apply, Ne.symm h0, Ne.symm h1, ↓reduceIte, Option.some.injEq, exists_eq_left', wView,
      Int.toNat_natCast, Int.reduceToNat, setWidth_setWidth_64]
  · simp at hp
  · -- `Divide3`: the high half through a logical shift of the X register
    simp only [Bool.and_eq_true, beq_iff_eq, decide_eq_true_eq] at hp
    obtain ⟨hs, hM⟩ := hp
    rw [hs] at hlo hhi
    rw [setWidth_ushiftRight_mul]
    refine sub_signMask_eq_javaDiv_of_magic (by decide) hpos hlo hhi ?_
    rw [toInt_mulHigh _ _ (by decide), toInt_ofInt_of_lt_half (by decide) hM]
  · -- `Divide5`: an arithmetic shift of the X register by `32 + shift`
    simp only [decide_eq_true_eq] at hp
    have hsh : ((32 : Int) + (MagicTable.get lit.toNat).shift).toNat =
        32 + (MagicTable.get lit.toNat).shift := by omega
    rw [hsh]
    refine sub_signMask_eq_javaDiv_of_magic (by decide) hpos hlo hhi ?_
    have := BitVec.toInt_setWidth_sshiftRight_mul (BitVec.ofInt 32 ((MagicTable.get lit.toNat).magic32 : Int))
      (BitVec.setWidth 32 (regs ra.src)) (by decide) (k := 32 + (MagicTable.get lit.toNat).shift)
      (by omega)
    rw [toInt_ofInt_of_lt_half (by decide) hp] at this
    exact this
  · -- `Divide7`: the dividend added to the high half on the X register, shifted on the W one
    simp only [Bool.and_eq_true, decide_eq_true_eq] at hp
    rw [BitVec.setWidth_add _ _ (by decide), setWidth_ushiftRight_mul, BitVec.add_comm]
    exact sub_signMask_eq_javaDiv_of_magic (by decide) hpos hlo hhi
      (toInt_mulHigh_add_sshiftRight (by decide) hp.1 hp.2 _ _)

/-- **Reciprocal-multiply division on X registers is exact**: for every divisor of the table with
a pattern, `SmallLiteralDivRem64` emits code that loads the 64-bit magic number and leaves Java's
quotient of every dividend in the result. -/
theorem run_smallLiteralDivRem64 (ra : RegAlloc) {lit : BitVec 64} (h3 : 3 ≤ lit.toInt)
    (h15 : lit.toInt ≤ 15) (hpat : (MagicTable.get lit.toNat).pattern ≠ .divideNone) :
    ∃ code, smallLiteralDivRem64 true ra lit = some (some code) ∧
      ∀ regs : Nat → BitVec 64, ∃ regs', run code regs = some regs' ∧
        regs' ra.result = javaDiv (regs ra.src) lit := by
  have hpos : 0 < lit.toInt := by omega
  have hlit := natCast_toNat_of_nonneg hpos.le
  have hn : lit.toNat < 16 := by omega
  obtain ⟨-, hex⟩ := magicTable_exact lit.toNat hn hpat
  simp only [magicExact, Bool.and_eq_true, decide_eq_true_eq] at hex
  obtain ⟨⟨hlo, hhi⟩, hp⟩ := hex
  have hrange : ¬ (lit.toInt < 0 ∨ (magicTable.length : Int) ≤ lit.toInt) := by
    simp only [magicTable, List.length_cons, List.length_nil]
    omega
  have h0 := ra.temp_ne_src 0
  have h1 := ra.temp_ne_src 1
  have h01 : ra.temp 0 ≠ ra.temp 1 := ra.temp_injective.ne (by decide)
  simp only [smallLiteralDivRem64, hrange, hpat, ↓reduceIte, Bool.not_true, Bool.false_eq_true,
    Option.some.injEq, exists_eq_left']
  intro regs
  have hmagic : BitVec.ofNat 64 (MagicTable.get lit.toNat).magic64 =
      BitVec.ofInt 64 ((MagicTable.get lit.toNat).magic64 : Int) := (BitVec.ofInt_natCast _ _).symm
  rw [run_append, run_loadMagic64 (magicTable_loaded _ hn hpat), Option.bind_some, run_cons]
  cases hpattern : (MagicTable.get lit.toNat).pattern <;> rw [hpattern] at hp
  · simp at hp
  -- the instructions run one by one; one call for all of them sends the kernel into a deep
  -- recursion
  all_goals
    simp only [A64.exec, Option.bind_some, run_cons, run_nil]
    simp only [Lir.exec, Function.update_apply, OpKind.evalImm, OpKind.eval, Shift.apply,
      Ne.symm h0, Ne.symm h1, ↓reduceIte, Int.toNat_natCast, Option.some.injEq, exists_eq_left',
      hmagic]
  · -- `Divide3`: the high half itself
    simp only [Bool.and_eq_true, beq_iff_eq, decide_eq_true_eq] at hp
    obtain ⟨hs, hM⟩ := hp
    rw [hs] at hlo hhi
    refine sub_signMask_eq_javaDiv_of_magic (by decide) hpos hlo hhi ?_
    rw [toInt_mulHigh _ _ (by decide), toInt_ofInt_of_lt_half (by decide) hM]
  · -- `Divide5`: the high half shifted
    simp only [decide_eq_true_eq] at hp
    exact sub_signMask_eq_javaDiv_of_magic (by decide) hpos hlo hhi
      (toInt_mulHigh_sshiftRight (by decide) hp _ _)
  · -- `Divide7`: the dividend added to the high half, then shifted
    simp only [Bool.and_eq_true, decide_eq_true_eq] at hp
    rw [BitVec.add_comm]
    exact sub_signMask_eq_javaDiv_of_magic (by decide) hpos hlo hhi
      (toInt_mulHigh_add_sshiftRight (by decide) hp.1 hp.2 _ _)

/-! ## Division by a literal -/

/-- **Division by a power of two is Java's.**  For `2^k` with `1 ≤ k ≤ 29` the shift sequences of
`HandleEasyDivRem` compute Java's quotient and remainder of every `int`; so do those of
`HandleEasyDivRem64` on W registers, and on X registers for every `long` with `k ≤ 61`. -/
theorem divRemByPowerOfTwo_exact :
    (∀ (isa : InstructionSet) (isDiv : Bool) (ra : RegAlloc) (k : Nat), 1 ≤ k → k ≤ 29 →
      ∃ code, Quick.handleEasyDivRem isa isDiv ra (BitVec.twoPow 32 k) = some (some code) ∧
        ∀ regs : Nat → BitVec 32, Quick.run code regs ra.result =
          if isDiv then javaDiv (regs ra.src) (BitVec.twoPow 32 k)
          else javaRem (regs ra.src) (BitVec.twoPow 32 k)) ∧
    (∀ (isDiv : Bool) (ra : RegAlloc) (k : Nat), 1 ≤ k → k ≤ 29 →
      ∃ code, handleEasyDivRem64 isDiv false ra (BitVec.twoPow 64 k) = some (some code) ∧
        ∀ regs : Nat → BitVec 64, ∃ regs', run code regs = some regs' ∧
          wView regs' ra.result =
            if isDiv then javaDiv (wView regs ra.src) (BitVec.twoPow 32 k)
            else javaRem (wView regs ra.src) (BitVec.twoPow 32 k)) ∧
    (∀ (isDiv : Bool) (ra : RegAlloc) (k : Nat), 1 ≤ k → k ≤ 61 →
      ∃ code, handleEasyDivRem64 isDiv true ra (BitVec.twoPow 64 k) = some (some code) ∧
        ∀ regs : Nat → BitVec 64, ∃ regs', run code regs = some regs' ∧
          regs' ra.result =
            if isDiv then javaDiv (regs ra.src) (BitVec.twoPow 64 k)
            else javaRem (regs ra.src) (BitVec.twoPow 64 k)) :=
  ⟨fun isa isDiv ra _ hk1 hk => run_handleEasyDivRem_twoPow isa isDiv ra hk1 hk,
    fun isDiv ra _ hk1 hk => run_handleEasyDivRem64_w isDiv ra hk1 hk,
    fun isDiv ra _ hk1 hk => run_handleEasyDivRem64_x isDiv ra hk1 hk⟩

theorem divRemByPowerOfTwo_exact_top : ∀ ra : RegAlloc,
    ∃ code, handleEasyDivRem64 true true ra (BitVec.twoPow 64 61) = some (some code) ∧
      ∀ regs : Nat → BitVec 64, ∃ regs', run code regs = some regs' ∧
        regs' ra.result = javaDiv (regs ra.src) (BitVec.twoPow 64 61) := fun ra => by
  simpa only [↓reduceIte] using divRemByPowerOfTwo_exact.2.2 true ra 61 (by decide) (by decide)

/-- **Division by a small literal is Java's.**  For every divisor from `3` to `15` with a pattern,
the `smull` sequence of the Thumb2 `SmallLiteralDivRem` computes Java's quotient and, through
the easy multiplication, its remainder of every `int`; the `smaddl` sequence of the ARM64 one
computes the quotient of every `int` on W registers, and the `smulh` sequence of
`SmallLiteralDivRem64` that of every `long`. -/
theorem smallLiteralDivRem_exact :
    (∀ (isDiv : Bool) (ra : RegAlloc) (lit : BitVec 32), 3 ≤ lit.toInt → lit.toInt ≤ 15 →
      (Arm.magicTable.getD lit.toNat ⟨0, 0, .divideNone⟩).pattern ≠ .divideNone →
      ∃ code, Arm.smallLiteralDivRem isDiv ra lit = some (some code) ∧
        ∀ regs : Nat → BitVec 32, Quick.run code regs ra.result =
          if isDiv then javaDiv (regs ra.src) lit else javaRem (regs ra.src) lit) ∧
    (∀ (ra : RegAlloc) (lit : BitVec 32), 3 ≤ lit.toInt → lit.toInt ≤ 15 →
      (MagicTable.get lit.toNat).pattern ≠ .divideNone →
      ∃ code, smallLiteralDivRem true ra lit = some (some code) ∧
        ∀ regs : Nat → BitVec 64, ∃ regs', run code regs = some regs' ∧
          wView regs' ra.result = javaDiv (wView regs ra.src) lit) ∧
    (∀ (ra : RegAlloc) (lit : BitVec 64), 3 ≤ lit.toInt → lit.toInt ≤ 15 →
      (MagicTable.get lit.toNat).pattern ≠ .divideNone →
      ∃ code, smallLiteralDivRem64 true ra lit = some (some code) ∧
        ∀ regs : Nat → BitVec 64, ∃ regs', run code regs = some regs' ∧
          regs' ra.result = javaDiv (regs ra.src) lit) :=
  ⟨fun isDiv ra _ h3 h15 hpat => Arm.run_smallLiteralDivRem isDiv ra h3 h15 hpat,
    fun ra _ h3 h15 hpat => run_smallLiteralDivRem ra h3 h15 hpat,
    fun ra _ h3 h15 hpat => run_smallLiteralDivRem64 ra h3 h15 hpat⟩

theorem smallLiteralDivRem_exact_seven :
    (∀ ra : RegAlloc, ∃ code, Arm.smallLiteralDivRem false ra 7#32 = some (some code) ∧
      ∀ regs : Nat → BitVec 32, Quick.run code regs ra.result = javaRem (regs ra.src) 7#32) ∧
    (∀ ra : RegAlloc, ∃ code, smallLiteralDivRem64 true ra 7#64 = some (some code) ∧
      ∀ regs : Nat → BitVec 64, ∃ regs', run code regs = some regs' ∧
        regs' ra.result = javaDiv (regs ra.src) 7#64) :=
  ⟨fun ra => by
    simpa only [Bool.false_eq_true, ↓reduceIte] using
      smallLiteralDivRem_exact.1 false ra 7#32 (by decide) (by decide) (by decide),
   fun ra => smallLiteralDivRem_exact.2.2 ra 7#64 (by decide) (by decide) (by decide)⟩

end Art.Quick.Arm64
