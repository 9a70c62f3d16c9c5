import AndroidArt.Quick.Lir
import AndroidArt.Lib.Word

/-!
# Multiplication by a literal through shifts and adds

Model of `Mir2Lir::HandleEasyMultiply` and `IsPopCountLE2` of `compiler/dex/quick/gen_common.cc`,
of the `GenMultiplyByTwoBitMultiplier` of each backend, and of the Thumb2 path of
`compiler/dex/quick/arm/int_arm.cc`: `GetEasyMultiplyOp`, `GetEasyMultiplyTwoOps`,
`GenEasyMultiplyTwoOps` and `EasyMultiply`.

A C++ `int` is a `BitVec 32`, converted to the `uint64_t` of `IsPowerOfTwo` and `LowestSetBit`
by sign extension, and `lit + 1`, `lit - 1` wrap.  A generator that calls `LowestSetBit` returns
`Option (Option _)`: `none` when `LowestSetBit` is applied to `0` and does not return, `some none`
when the generator returns `false`, and `some (some code)` when it returns `true` having emitted
`code`.

* `EasyMultiplyOp.factor`, `multiplier` — the multiplier an operation, and a pair of them,
  stands for.
* `getEasyMultiplyTwoOps_multiplier` — the pair that `GetEasyMultiplyTwoOps` finds for a
  nonzero literal stands for it; `getEasyMultiplyTwoOps_terminates` — it returns for every
  literal of at least `2`.
* `run_genEasyMultiplyTwoOps` — the two emitted instructions multiply by what the pair stands
  for, and write nothing but `r_dest` and the temporary.
* `run_handleEasyMultiply` — whenever `HandleEasyMultiply` emits code, the code multiplies by
  the literal modulo `2^32`.

The model is the release build: the `DCHECK`s of `HandleEasyMultiply` and
`GenEasyMultiplyTwoOps` on the operations they are given are left out.
-/

set_option autoImplicit false

namespace Art.Quick

/-- `cu_->instruction_set`, for the backends of the quick compiler. -/
inductive InstructionSet
  | thumb2 | arm64 | x86 | x86_64 | mips
  deriving DecidableEq, Repr

/-- `IsPopCountLE2`: at most two bits are set. -/
def isPopCountLE2 (x : BitVec 32) : Bool :=
  let x := x &&& (x - 1)
  x &&& (x - 1) == 0

/-- `GenMultiplyByTwoBitMultiplier` of each backend: `src + (src << (second - first))`, shifted
left by `first`.  Thumb2 and ARM64 add a shifted operand; x86 and MIPS shift into a
temporary first. -/
def genMultiplyByTwoBitMultiplier (isa : InstructionSet) (ra : RegAlloc)
    (firstBit secondBit : Nat) : List Lir :=
  let sum :=
    match isa with
    | .thumb2 | .arm64 =>
      [.opRegRegRegShift .add ra.result ra.src ra.src ⟨.lsl, secondBit - firstBit⟩]
    | .x86 | .x86_64 | .mips =>
      [.opRegRegImm .lsl (ra.temp 0) ra.src (secondBit - firstBit),
       .opRegRegReg .add ra.result ra.src (ra.temp 0)]
  if firstBit ≠ 0 then sum ++ [.opRegRegImm .lsl ra.result ra.result firstBit] else sum

/-- `ArmMir2Lir::EasyMultiplyOp`. -/
structure EasyMultiplyOp where
  op : OpKind
  shift : Nat
  deriving DecidableEq, Repr

/-- `ArmMir2Lir::GetEasyMultiplyOp`: `lit` as one shift, shift-and-add or
shift-and-reverse-subtract.  A zero literal gets `kOpInvalid` (the division by zero that
never uses it). -/
def getEasyMultiplyOp (lit : BitVec 32) : Option (Option EasyMultiplyOp) :=
  if lit = 0 then some (some ⟨.invalid, 0⟩)
  else if isPowerOfTwo (lit.signExtend 64) then
    (lowestSetBit (lit.signExtend 64)).map fun k => some ⟨.lsl, k⟩
  else if isPowerOfTwo ((lit - 1).signExtend 64) then
    (lowestSetBit ((lit - 1).signExtend 64)).map fun k => some ⟨.add, k⟩
  else if isPowerOfTwo ((lit + 1).signExtend 64) then
    (lowestSetBit ((lit + 1).signExtend 64)).map fun k => some ⟨.rsub, k⟩
  else some none

/-- One attempt of `GetEasyMultiplyTwoOps`: `lit1` without its trailing zeros as one operation,
and `second` of the number of those zeros to put them back. -/
def tryStripped (lit1 : BitVec 32) (second : Nat → EasyMultiplyOp) :
    Option (Option (EasyMultiplyOp × EasyMultiplyOp)) :=
  (lowestSetBit (lit1.signExtend 64)).bind fun shift =>
    (getEasyMultiplyOp (lit1.sshiftRight shift)).map fun r => r.map fun op => (op, second shift)

/-- The next attempt when one returns `false`. -/
def orElse {α : Type} (first : Option (Option α)) (next : Unit → Option (Option α)) :
    Option (Option α) :=
  match first with
  | some none => next ()
  | r => r

/-- `ArmMir2Lir::GetEasyMultiplyTwoOps`.  Its first call of `GetEasyMultiplyOp` is made twice,
the first result discarded. -/
def getEasyMultiplyTwoOps (lit : BitVec 32) : Option (Option (EasyMultiplyOp × EasyMultiplyOp)) :=
  (getEasyMultiplyOp lit).bind fun _ =>
    orElse ((getEasyMultiplyOp lit).map fun r => r.map fun op => (op, ⟨.invalid, 0⟩)) fun _ =>
    orElse (tryStripped lit fun shift => ⟨.lsl, shift⟩) fun _ =>
    orElse (tryStripped (lit - 1) fun shift => ⟨.add, shift⟩) fun _ =>
    tryStripped (lit + 1) fun shift => ⟨.rsub, shift⟩

/-- `ArmMir2Lir::GenEasyMultiplyTwoOps(r_dest, r_src, ops)`: the first operation into `r_dest`,
or into the temporary `allocTemp` when a second operation follows and `r_dest` is `r_src`, then
the second into `r_dest`. -/
def genEasyMultiplyTwoOps (rDest rSrc allocTemp : Nat) (ops : EasyMultiplyOp × EasyMultiplyOp) :
    List Lir :=
  let rTmp1 :=
    if ops.2.op = .invalid then rDest else if rDest ≠ rSrc then rDest else allocTemp
  let first :=
    match ops.1.op with
    | .lsl => [.opRegRegImm .lsl rTmp1 rSrc ops.1.shift]
    | .add => [.opRegRegRegShift .add rTmp1 rSrc rSrc ⟨.lsl, ops.1.shift⟩]
    | .rsub => [.opRegRegRegShift .rsub rTmp1 rSrc rSrc ⟨.lsl, ops.1.shift⟩]
    | _ => []
  let second :=
    match ops.2.op with
    | .lsl => [.opRegRegImm .lsl rDest rTmp1 ops.2.shift]
    | .add => [.opRegRegRegShift .add rDest rSrc rTmp1 ⟨.lsl, ops.2.shift⟩]
    | .rsub => [.opRegRegRegShift .rsub rDest rSrc rTmp1 ⟨.lsl, ops.2.shift⟩]
    | _ => []
  first ++ second

/-- `ArmMir2Lir::EasyMultiply`. -/
def easyMultiply (ra : RegAlloc) (lit : BitVec 32) : Option (Option (List Lir)) :=
  (getEasyMultiplyTwoOps lit).map fun r =>
    r.map fun ops => genEasyMultiplyTwoOps ra.result ra.src (ra.temp 0) ops

/-- `Mir2Lir::HandleEasyMultiply`. -/
def handleEasyMultiply (isa : InstructionSet) (ra : RegAlloc) (lit : BitVec 32) :
    Option (Option (List Lir)) :=
  if lit.toInt < 0 then some none
  else if lit = 0 then some (some [.loadConstant ra.result 0])
  else if lit = 1 then some (some [.opRegCopy ra.result ra.src])
  else if isa = .thumb2 then easyMultiply ra lit
  else if isPowerOfTwo (lit.signExtend 64) then
    (lowestSetBit (lit.signExtend 64)).map fun (k : Nat) =>
      some [.opRegRegImm .lsl ra.result ra.src k]
  else if isPopCountLE2 lit then
    (lowestSetBit (lit.signExtend 64)).bind fun (firstBit : Nat) =>
      (lowestSetBit ((lit ^^^ 1#32 <<< firstBit).signExtend 64)).map fun (secondBit : Nat) =>
        some (genMultiplyByTwoBitMultiplier isa ra firstBit secondBit)
  else if isPowerOfTwo ((lit + 1).signExtend 64) then
    (lowestSetBit ((lit + 1).signExtend 64)).map fun (k : Nat) =>
      some [.opRegRegImm .lsl (ra.temp 0) ra.src k, .opRegRegReg .sub ra.result (ra.temp 0) ra.src]
  else some none

/-! ## What the generators compute -/

/-- A power of two whose lowest set bit is `k` is `2^k`. -/
theorem eq_twoPow_of_isPowerOfTwo {y : BitVec 64} {k : Nat} (hp : isPowerOfTwo y = true)
    (hl : lowestSetBit y = some k) : y = BitVec.twoPow 64 k := by
  have hy : y ≠ 0 := by
    rintro rfl
    rw [lowestSetBit_zero] at hl
    cases hl
  obtain ⟨j, m, hm, hjm, hj⟩ := lowestSetBit_spec hy
  rw [hl, Option.some.injEq] at hj
  subst hj
  have hm1 : m = 1 := by
    rcases (isPowerOfTwo_iff y).mp hp with h0 | ⟨i, hi⟩
    · exact absurd (BitVec.eq_of_toNat_eq (by simpa using h0)) hy
    · obtain ⟨t, -, ht⟩ := (Nat.dvd_prime_pow Nat.prime_two).mp
        (Dvd.intro_left _ (hjm.symm.trans hi))
      cases t with
      | zero => simpa using ht
      | succ t => rw [ht, pow_succ, Nat.mul_mod_left] at hm; cases hm
  have hk : k < 64 := by
    have := y.isLt
    have : 2 ^ k < 2 ^ 64 := by rw [hjm, hm1, Nat.mul_one] at this; exact this
    exact (Nat.pow_lt_pow_iff_right (by decide)).mp this
  apply BitVec.eq_of_toNat_eq
  rw [hjm, hm1, Nat.mul_one, BitVec.toNat_twoPow, Nat.mod_eq_of_lt
    (Nat.pow_lt_pow_right (by decide) hk)]

theorem setWidth_signExtend (v : BitVec 32) : (v.signExtend 64).setWidth 32 = v := by
  apply BitVec.eq_of_getLsbD_eq
  intro i hi
  rw [BitVec.getLsbD_setWidth, BitVec.getLsbD_signExtend, if_pos hi]
  simp [hi, show i < 64 by omega]

theorem setWidth_twoPow (k : Nat) : (BitVec.twoPow 64 k).setWidth 32 = BitVec.twoPow 32 k := by
  apply BitVec.eq_of_toNat_eq
  rw [BitVec.toNat_setWidth, BitVec.toNat_twoPow, BitVec.toNat_twoPow,
    Nat.mod_mod_of_dvd _ (Nat.pow_dvd_pow 2 (by decide))]

/-- An `int` seen as a `uint64_t` power of two with lowest set bit `k` is `2^k` modulo `2^32`. -/
theorem eq_twoPow_of_signExtend {v : BitVec 32} {k : Nat}
    (hp : isPowerOfTwo (v.signExtend 64) = true) (hl : lowestSetBit (v.signExtend 64) = some k) :
    v = BitVec.twoPow 32 k := by
  rw [← setWidth_signExtend v, eq_twoPow_of_isPowerOfTwo hp hl, setWidth_twoPow]

theorem signExtend_ne_zero {v : BitVec 32} (hv : v ≠ 0) : v.signExtend 64 ≠ 0 := by
  intro h
  apply hv
  rw [← setWidth_signExtend v, h]
  rfl

theorem ofInt_two_pow {w : Nat} (k : Nat) : BitVec.ofInt w ((2 : Int) ^ k) = BitVec.twoPow w k := by
  rw [← BitVec.toNat_inj, BitVec.toNat_twoPow, BitVec.toNat_ofInt]
  norm_cast

/-- Stripping the trailing zeros that `LowestSetBit` counts and shifting them back in is the
identity. -/
theorem sshiftRight_mul_twoPow {v : BitVec 32} {s : Nat} (hv : v ≠ 0)
    (hl : lowestSetBit (v.signExtend 64) = some s) :
    v.sshiftRight s * BitVec.twoPow 32 s = v := by
  obtain ⟨j, m, hm, hjm, hj⟩ := lowestSetBit_spec (signExtend_ne_zero hv)
  rw [hl, Option.some.injEq] at hj
  subst hj
  have hs : s < 64 := by
    have h1 : 2 ^ s ≤ (v.signExtend 64).toNat := by
      rw [hjm]
      exact Nat.le_mul_of_pos_right _ (by omega)
    exact (Nat.pow_lt_pow_iff_right (by decide)).mp (lt_of_le_of_lt h1 (v.signExtend 64).isLt)
  have hdvd : (2 : Int) ^ s ∣ v.toInt := by
    have h := BitVec.toInt_emod_two_pow (v.signExtend 64) hs.le
    rw [BitVec.toInt_signExtend_of_le (by decide), hjm, Nat.mul_mod_right] at h
    exact Int.dvd_of_emod_eq_zero (by simpa using h)
  obtain ⟨q, hq⟩ := hdvd
  have hshift : (v.sshiftRight s).toInt = q := by
    rw [BitVec.toInt_sshiftRight_eq_ediv, hq, Int.mul_ediv_cancel_left _ (by positivity)]
  rw [← BitVec.ofInt_toInt (x := v.sshiftRight s), hshift, ← BitVec.ofInt_toInt (x := v), hq,
    mul_comm _ q, BitVec.ofInt_mul, ofInt_two_pow]

theorem lowestSetBit_ne_none {y : BitVec 64} (hy : y ≠ 0) : lowestSetBit y ≠ none := by
  obtain ⟨j, m, -, -, hj⟩ := lowestSetBit_spec hy
  rw [hj]
  exact Option.some_ne_none j

/-- The multiplier one operation stands for. -/
def EasyMultiplyOp.factor (op : EasyMultiplyOp) : BitVec 32 :=
  match op.op with
  | .lsl => BitVec.twoPow 32 op.shift
  | .add => BitVec.twoPow 32 op.shift + 1
  | .rsub => BitVec.twoPow 32 op.shift - 1
  | _ => 0

/-- The operations `GenEasyMultiplyTwoOps` emits something for. -/
def EasyMultiplyOp.Emits (op : EasyMultiplyOp) : Prop :=
  op.op = .lsl ∨ op.op = .add ∨ op.op = .rsub

theorem getEasyMultiplyOp_factor {v : BitVec 32} {op : EasyMultiplyOp}
    (h : getEasyMultiplyOp v = some (some op)) (hv : v ≠ 0) :
    op.factor = v ∧ op.Emits := by
  unfold getEasyMultiplyOp at h
  rw [if_neg hv] at h
  split_ifs at h with h1 h2 h3
  · obtain ⟨k, hk, hop⟩ := Option.map_eq_some_iff.mp h
    cases hop
    exact ⟨(eq_twoPow_of_signExtend h1 hk).symm, Or.inl rfl⟩
  · obtain ⟨k, hk, hop⟩ := Option.map_eq_some_iff.mp h
    cases hop
    refine ⟨?_, Or.inr (Or.inl rfl)⟩
    rw [EasyMultiplyOp.factor, ← eq_twoPow_of_signExtend h2 hk, BitVec.sub_add_cancel]
  · obtain ⟨k, hk, hop⟩ := Option.map_eq_some_iff.mp h
    cases hop
    refine ⟨?_, Or.inr (Or.inr rfl)⟩
    rw [EasyMultiplyOp.factor, ← eq_twoPow_of_signExtend h3 hk, BitVec.add_sub_cancel]
  · cases h

/-- `GetEasyMultiplyOp` returns on every literal but `-1`, where it calls `LowestSetBit(0)`. -/
theorem getEasyMultiplyOp_ne_none {v : BitVec 32} (hv : v ≠ -1) : getEasyMultiplyOp v ≠ none := by
  unfold getEasyMultiplyOp
  split_ifs with h0 h1 h2 h3
  · exact Option.some_ne_none _
  · exact fun h => lowestSetBit_ne_none (signExtend_ne_zero h0) (Option.map_eq_none_iff.mp h)
  · have h1' : v - 1 ≠ 0 := by
      intro h
      rw [sub_eq_zero] at h
      subst h
      exact h1 (by decide)
    exact fun h => lowestSetBit_ne_none (signExtend_ne_zero h1') (Option.map_eq_none_iff.mp h)
  · have h3' : v + 1 ≠ 0 := by
      intro h
      exact hv (eq_neg_of_add_eq_zero_left h)
    exact fun h => lowestSetBit_ne_none (signExtend_ne_zero h3') (Option.map_eq_none_iff.mp h)
  · exact Option.some_ne_none _


theorem orElse_eq_some_some {α : Type} {first : Option (Option α)}
    {next : Unit → Option (Option α)} {x : α} :
    orElse first next = some (some x) ↔
      first = some (some x) ∨ (first = some none ∧ next () = some (some x)) := by
  unfold orElse
  split <;> simp_all

theorem orElse_ne_none {α : Type} {first : Option (Option α)} {next : Unit → Option (Option α)}
    (h₁ : first ≠ none) (h₂ : first = some none → next () ≠ none) : orElse first next ≠ none := by
  unfold orElse
  split
  · exact h₂ rfl
  · assumption

/-- What one attempt of `GetEasyMultiplyTwoOps` finds: an easy operation for `lit1` stripped of
its trailing zeros, which `second` shifts back in. -/
theorem tryStripped_eq_some {lit1 : BitVec 32} {second : Nat → EasyMultiplyOp}
    {ops : EasyMultiplyOp × EasyMultiplyOp} (h : tryStripped lit1 second = some (some ops)) :
    ∃ s, ops.2 = second s ∧ ops.1.factor * BitVec.twoPow 32 s = lit1 ∧ ops.1.Emits := by
  unfold tryStripped at h
  obtain ⟨s, hs, h⟩ := Option.bind_eq_some_iff.mp h
  obtain ⟨r, hr, h⟩ := Option.map_eq_some_iff.mp h
  obtain ⟨op, rfl, rfl⟩ := Option.map_eq_some_iff.mp h
  have h0 : lit1 ≠ 0 := by
    rintro rfl
    rw [show (0 : BitVec 32).signExtend 64 = 0 from rfl, lowestSetBit_zero] at hs
    cases hs
  have hstrip := sshiftRight_mul_twoPow h0 hs
  have hne : lit1.sshiftRight s ≠ 0 := fun hz => h0 (by rw [← hstrip, hz, zero_mul])
  obtain ⟨hf, hinv⟩ := getEasyMultiplyOp_factor hr hne
  exact ⟨s, rfl, by rw [hf, hstrip], hinv⟩

/-- An attempt on a positive literal returns: what it strips is positive, never `-1`. -/
theorem tryStripped_ne_none_of_pos {lit1 : BitVec 32} (second : Nat → EasyMultiplyOp)
    (h : 0 < lit1.toInt) : tryStripped lit1 second ≠ none := by
  have h0 : lit1 ≠ 0 := by
    rintro rfl
    simp at h
  obtain ⟨s, -, -, -, hs⟩ := lowestSetBit_spec (signExtend_ne_zero h0)
  have hpos : 0 ≤ (lit1.sshiftRight s).toInt := by
    rw [BitVec.toInt_sshiftRight_eq_ediv]
    exact Int.ediv_nonneg h.le (by positivity)
  have hne : lit1.sshiftRight s ≠ -1 := by
    intro he
    rw [he] at hpos
    have : (-1 : BitVec 32).toInt = -1 := by decide
    omega
  unfold tryStripped
  rw [hs, Option.bind_some, Ne, Option.map_eq_none_iff]
  exact getEasyMultiplyOp_ne_none hne


/-- The multiplier a pair of operations stands for: the second applied to the first's
product. -/
def multiplier (ops : EasyMultiplyOp × EasyMultiplyOp) : BitVec 32 :=
  match ops.2.op with
  | .lsl => ops.1.factor * BitVec.twoPow 32 ops.2.shift
  | .add => ops.1.factor * BitVec.twoPow 32 ops.2.shift + 1
  | .rsub => ops.1.factor * BitVec.twoPow 32 ops.2.shift - 1
  | _ => ops.1.factor

/-- The pair that `GetEasyMultiplyTwoOps` finds for a nonzero literal stands for the literal,
and its first operation is emitted. -/
theorem getEasyMultiplyTwoOps_multiplier {lit : BitVec 32} {ops : EasyMultiplyOp × EasyMultiplyOp}
    (h : getEasyMultiplyTwoOps lit = some (some ops)) (hlit : lit ≠ 0) :
    multiplier ops = lit ∧ ops.1.Emits ∧ (ops.2.op = .invalid ∨ ops.2.Emits) := by
  unfold getEasyMultiplyTwoOps at h
  obtain ⟨_, -, h⟩ := Option.bind_eq_some_iff.mp h
  rcases orElse_eq_some_some.mp h with h | ⟨-, h⟩
  · -- one operation
    obtain ⟨r, hr, h⟩ := Option.map_eq_some_iff.mp h
    obtain ⟨op, rfl, rfl⟩ := Option.map_eq_some_iff.mp h
    obtain ⟨hf, he⟩ := getEasyMultiplyOp_factor hr hlit
    exact ⟨hf, he, Or.inl rfl⟩
  rcases orElse_eq_some_some.mp h with h | ⟨-, h⟩
  · -- `lit = a << shift`
    obtain ⟨s, h2, hf, hinv⟩ := tryStripped_eq_some h
    simp only [multiplier, h2]
    exact ⟨hf, hinv, Or.inr (Or.inl rfl)⟩
  rcases orElse_eq_some_some.mp h with h | ⟨-, h⟩
  · -- `lit = (a << shift) + 1`
    obtain ⟨s, h2, hf, hinv⟩ := tryStripped_eq_some h
    simp only [multiplier, h2]
    exact ⟨by rw [hf, BitVec.sub_add_cancel], hinv, Or.inr (Or.inr (Or.inl rfl))⟩
  · -- `lit = (a << shift) - 1`
    obtain ⟨s, h2, hf, hinv⟩ := tryStripped_eq_some h
    simp only [multiplier, h2]
    exact ⟨by rw [hf, BitVec.add_sub_cancel], hinv, Or.inr (Or.inr (Or.inr rfl))⟩

/-- `GetEasyMultiplyTwoOps(INT_MAX)` finds `((x << 30) - x) << 1) + x` before its last attempt,
whose `INT_MAX + 1` would strip to `-1` and call `LowestSetBit(0)`. -/
theorem getEasyMultiplyTwoOps_intMax :
    getEasyMultiplyTwoOps 0x7fffffff#32 = some (some (⟨.rsub, 30⟩, ⟨.add, 1⟩)) := by
  decide

/-- **`GetEasyMultiplyTwoOps` terminates** on every literal of at least `2`: `LowestSetBit` is
never applied to `0`. -/
theorem getEasyMultiplyTwoOps_terminates {lit : BitVec 32} (h : 2 ≤ lit.toInt) :
    getEasyMultiplyTwoOps lit ≠ none := by
  have hne : lit ≠ -1 := by
    rintro rfl
    have : (-1 : BitVec 32).toInt = -1 := by decide
    omega
  have hsub : (lit - 1).toInt = lit.toInt - 1 :=
    BitVec.toInt_sub_of_bounds (by have := lit.le_two_mul_toInt; simp at *; omega) (by
      have := lit.toInt_lt; simp at *; omega)
  unfold getEasyMultiplyTwoOps
  obtain ⟨r, hr⟩ := Option.ne_none_iff_exists'.mp (getEasyMultiplyOp_ne_none hne)
  rw [hr, Option.bind_some]
  refine orElse_ne_none (by simp) fun _ => ?_
  refine orElse_ne_none (tryStripped_ne_none_of_pos _ (by omega)) fun _ => ?_
  refine orElse_ne_none (tryStripped_ne_none_of_pos _ (by omega)) fun h2 => ?_
  by_cases hmax : lit = 0x7fffffff#32
  · -- the second attempt has found `INT_MAX`
    subst hmax
    exact absurd h2 (by decide)
  · have hlt : lit.toInt < 2 ^ 31 - 1 := by
      have := lit.toInt_lt
      have : lit.toInt ≠ 2 ^ 31 - 1 := fun he => hmax (BitVec.eq_of_toInt_eq (by rw [he]; decide))
      simp at *
      omega
    have hadd : (lit + 1).toInt = lit.toInt + 1 :=
      BitVec.toInt_add_of_bounds (by have := lit.le_two_mul_toInt; simp at *; omega) (by
        simp at *; omega)
    exact tryStripped_ne_none_of_pos _ (by omega)

@[simp] theorem Shift.apply_lsl {w : Nat} (s : Nat) (x : BitVec w) :
    Shift.apply ⟨.lsl, s⟩ x = x * BitVec.twoPow w s := by
  rw [Shift.apply, BitVec.shiftLeft_eq_mul_twoPow]

@[simp] theorem OpKind.evalImm_lsl {w : Nat} (x : BitVec w) (i : Int) :
    OpKind.evalImm .lsl x i = x * BitVec.twoPow w i.toNat := by
  rw [OpKind.evalImm, BitVec.shiftLeft_eq_mul_twoPow]

/-- **The two instructions multiply by what the pair stands for**, into `r_dest`, when the
temporary is not the source; `r_dest` may be `r_src`. -/
theorem run_genEasyMultiplyTwoOps {rDest rSrc allocTemp : Nat}
    {ops : EasyMultiplyOp × EasyMultiplyOp} (regs : Nat → BitVec 32) (h₁ : ops.1.Emits)
    (h₂ : ops.2.op = .invalid ∨ ops.2.Emits) (htemp : allocTemp ≠ rSrc) :
    run (genEasyMultiplyTwoOps rDest rSrc allocTemp ops) regs rDest = regs rSrc * multiplier ops := by
  obtain ⟨⟨o₁, s₁⟩, ⟨o₂, s₂⟩⟩ := ops
  simp only [EasyMultiplyOp.Emits] at h₁ h₂
  by_cases hd : rDest = rSrc
  · subst hd
    rcases h₁ with rfl | rfl | rfl <;> rcases h₂ with rfl | rfl | rfl | rfl <;>
      simp only [genEasyMultiplyTwoOps, run, List.cons_append, List.nil_append, List.foldl_cons,
        List.foldl_nil, Lir.exec, Function.update_apply, OpKind.eval, Shift.apply_lsl,
        OpKind.evalImm_lsl, Int.toNat_natCast, multiplier, EasyMultiplyOp.factor, Ne.symm htemp,
        ↓reduceIte, ne_eq, not_true_eq_false, reduceCtorEq] <;> ring
  · rcases h₁ with rfl | rfl | rfl <;> rcases h₂ with rfl | rfl | rfl | rfl <;>
      simp only [genEasyMultiplyTwoOps, run, List.cons_append, List.nil_append, List.foldl_cons,
        List.foldl_nil, Lir.exec, Function.update_apply, OpKind.eval, Shift.apply_lsl,
        OpKind.evalImm_lsl, Int.toNat_natCast, multiplier, EasyMultiplyOp.factor, hd, Ne.symm hd,
        ↓reduceIte,
        ne_eq, not_false_eq_true, reduceCtorEq] <;> ring

/-- `GenEasyMultiplyTwoOps` writes only `r_dest` and the temporary. -/
theorem not_mem_writes_genEasyMultiplyTwoOps {rDest rSrc allocTemp r : Nat}
    {ops : EasyMultiplyOp × EasyMultiplyOp} (hd : r ≠ rDest) (ht : r ≠ allocTemp) :
    ∀ l ∈ genEasyMultiplyTwoOps rDest rSrc allocTemp ops, r ∉ l.writes := by
  intro l hl
  have htmp : r ≠ if ops.2.op = .invalid then rDest else if rDest ≠ rSrc then rDest else allocTemp := by
    split_ifs <;> assumption
  simp only [genEasyMultiplyTwoOps, List.mem_append] at hl
  rcases hl with hl | hl <;> split at hl <;> simp_all [Lir.writes]

theorem toNat_signExtend_of_nonneg {v : BitVec 32} (h : 0 ≤ v.toInt) :
    (v.signExtend 64).toNat = v.toNat := by
  have hmsb : v.msb = false := by
    rw [BitVec.msb_eq_toInt]
    simpa using h
  rw [BitVec.signExtend_eq_setWidth_of_msb_false hmsb, BitVec.toNat_setWidth_of_le (by decide)]

/-- A literal with two bits set, `2^f + 2^s`: what `IsPopCountLE2` and the two `LowestSetBit`s of
`HandleEasyMultiply` find in a positive literal that is not a power of two. -/
theorem twoBits_of_isPopCountLE2 {lit : BitVec 32} {f s : Nat} (hpos : 0 ≤ lit.toInt)
    (hz : lit ≠ 0) (hpow : ¬ isPowerOfTwo (lit.signExtend 64) = true)
    (hpop : isPopCountLE2 lit = true) (hf : lowestSetBit (lit.signExtend 64) = some f)
    (hs : lowestSetBit ((lit ^^^ 1#32 <<< f).signExtend 64) = some s) :
    f < s ∧ lit = BitVec.twoPow 32 f + BitVec.twoPow 32 s := by
  have hnn := toNat_signExtend_of_nonneg hpos
  obtain ⟨j, m, hm, hjm, hj⟩ := lowestSetBit_spec (signExtend_ne_zero hz)
  rw [hf, Option.some.injEq] at hj
  subst hj
  obtain ⟨c, rfl⟩ : ∃ c, m = 2 * c + 1 := ⟨m / 2, by omega⟩
  have hlit : lit.toNat = 2 ^ (f + 1) * c + 2 ^ f := by rw [← hnn, hjm]; ring
  have hlt : lit.toNat < 2 ^ 31 := by
    have h2 := lit.two_mul_toInt_lt
    rw [BitVec.toInt_eq_toNat_of_msb (by rw [BitVec.msb_eq_toInt]; simpa using hpos)] at h2
    omega
  have hf31 : 2 ^ f < 2 ^ 31 := by omega
  have hf32 : f < 32 := by
    have := (Nat.pow_lt_pow_iff_right (by decide)).mp hf31
    omega
  have hc : c ≠ 0 := by
    rintro rfl
    apply hpow
    rw [isPowerOfTwo_iff, hnn, hlit]
    exact Or.inr ⟨f, by simp⟩
  have hone : (1#32 <<< f).toNat = 2 ^ f := by
    rw [BitVec.toNat_shiftLeft, Nat.shiftLeft_eq, BitVec.toNat_ofNat, Nat.one_mul,
      Nat.mod_eq_of_lt (Nat.pow_lt_pow_right (by decide) hf32)]
  have hz' : (lit ^^^ 1#32 <<< f).toNat = 2 ^ (f + 1) * c := by
    rw [BitVec.toNat_xor, hone, hlit, Word.xor_two_pow_lowest]
  have hy : (lit &&& (lit - 1)).toNat = 2 ^ (f + 1) * c := by
    have hsub : (lit - 1).toNat = lit.toNat - 1 := by
      rw [BitVec.toNat_sub, show (1 : BitVec 32).toNat = 1 from rfl]
      have : lit.toNat ≠ 0 := fun h => hz (BitVec.eq_of_toNat_eq (by simpa using h))
      omega
    rw [BitVec.toNat_and, hsub, hlit, Word.and_sub_one_lowest]
  have hpos' : 0 < 2 ^ (f + 1) * c := Nat.mul_pos (Nat.two_pow_pos _) (by omega)
  obtain ⟨t, ht⟩ : (2 ^ (f + 1) * c).isPowerOfTwo := by
    rw [← Nat.and_sub_one_eq_zero_iff_isPowerOfTwo (by omega), ← hy]
    have hsub : ((lit &&& (lit - 1)) - 1).toNat = (lit &&& (lit - 1)).toNat - 1 := by
      rw [BitVec.toNat_sub, show (1 : BitVec 32).toNat = 1 from rfl]
      have := (lit &&& (lit - 1)).isLt
      omega
    rw [← hsub, ← BitVec.toNat_and]
    simp only [isPopCountLE2, beq_iff_eq] at hpop
    rw [hpop]
    rfl
  have hzs : ((lit ^^^ 1#32 <<< f).signExtend 64).toNat = 2 ^ t := by
    rw [toNat_signExtend_of_nonneg, hz', ht]
    rw [BitVec.toInt_eq_toNat_of_lt_half (by rw [hz']; omega) (by decide)]
    omega
  have hst : s = t := by
    have := lowestSetBit_eq (m := 1) (by rw [hzs, Nat.mul_one]) rfl
    rw [hs, Option.some.injEq] at this
    exact this
  subst hst
  have hfs : f < s := by
    have : 2 ^ (f + 1) ≤ 2 ^ s := by rw [← ht]; exact Nat.le_mul_of_pos_right _ (by omega)
    have := (Nat.pow_le_pow_iff_right (by decide)).mp this
    omega
  refine ⟨hfs, BitVec.eq_of_toNat_eq ?_⟩
  rw [BitVec.toNat_add, BitVec.toNat_twoPow, BitVec.toNat_twoPow, hlit, ht,
    Nat.mod_eq_of_lt (Nat.pow_lt_pow_right (by decide) hf32)]
  have hs32 : 2 ^ s < 2 ^ 31 := by omega
  rw [Nat.mod_eq_of_lt (by omega : 2 ^ s < 2 ^ 32), Nat.mod_eq_of_lt (by omega)]
  omega

theorem twoPow_mul_twoPow {w : Nat} (a b : Nat) :
    BitVec.twoPow w a * BitVec.twoPow w b = BitVec.twoPow w (a + b) := by
  rw [← ofInt_two_pow, ← ofInt_two_pow, ← ofInt_two_pow, ← BitVec.ofInt_mul, pow_add]

/-- Every backend's `GenMultiplyByTwoBitMultiplier` multiplies by `2^first + 2^second`. -/
theorem run_genMultiplyByTwoBitMultiplier {isa : InstructionSet} {ra : RegAlloc} {f s : Nat}
    (hfs : f < s) (regs : Nat → BitVec 32) :
    run (genMultiplyByTwoBitMultiplier isa ra f s) regs ra.result =
      regs ra.src * (BitVec.twoPow 32 f + BitVec.twoPow 32 s) := by
  have h0 := ra.temp_ne_src 0
  have hmul : BitVec.twoPow 32 (s - f) * BitVec.twoPow 32 f = BitVec.twoPow 32 s := by
    rw [twoPow_mul_twoPow, Nat.sub_add_cancel hfs.le]
  by_cases hf : f = 0
  · subst hf
    have hone : BitVec.twoPow 32 0 = 1 := rfl
    cases isa <;>
      simp only [genMultiplyByTwoBitMultiplier, run, ne_eq, not_true_eq_false, ↓reduceIte,
        List.foldl_cons, List.foldl_nil, Lir.exec, Function.update_apply, OpKind.eval,
        Shift.apply_lsl, OpKind.evalImm_lsl, Nat.sub_zero, Ne.symm h0, hone,
        Int.toNat_natCast, Nat.cast_zero, Int.sub_zero] <;> ring
  · have hsf : ((s : Int) - f).toNat = s - f := by omega
    cases isa <;>
      simp only [genMultiplyByTwoBitMultiplier, run, ne_eq, hf, not_false_eq_true, ↓reduceIte,
        List.cons_append, List.nil_append, List.foldl_cons, List.foldl_nil, Lir.exec,
        Function.update_apply, OpKind.eval, Shift.apply_lsl, OpKind.evalImm_lsl, Ne.symm h0,
        Int.toNat_natCast, hsf] <;> linear_combination regs ra.src * hmul

/-- **`HandleEasyMultiply` multiplies modulo `2^32`**: on every backend, whenever it emits code,
the code leaves the operand times the literal in the result register. -/
theorem run_handleEasyMultiply {isa : InstructionSet} {ra : RegAlloc} {lit : BitVec 32}
    {code : List Lir} (h : handleEasyMultiply isa ra lit = some (some code))
    (regs : Nat → BitVec 32) : run code regs ra.result = regs ra.src * lit := by
  have h0 := ra.temp_ne_src 0
  unfold handleEasyMultiply at h
  split_ifs at h with hneg hz hone hthumb hpow hpop hpow1
  · cases h
  · cases h
    simp [run, Lir.exec, hz]
  · cases h
    simp [run, Lir.exec, hone]
  · -- Thumb2: `EasyMultiply`
    obtain ⟨r, hr, h⟩ := Option.map_eq_some_iff.mp h
    obtain ⟨ops, rfl, rfl⟩ := Option.map_eq_some_iff.mp h
    obtain ⟨hm, h₁, h₂⟩ := getEasyMultiplyTwoOps_multiplier hr hz
    rw [run_genEasyMultiplyTwoOps regs h₁ h₂ h0, hm]
  · -- a power of two: one shift
    obtain ⟨k, hk, h⟩ := Option.map_eq_some_iff.mp h
    cases h
    simp [run, Lir.exec, OpKind.evalImm_lsl, eq_twoPow_of_signExtend hpow hk]
  · -- two bits set
    obtain ⟨f, hf, h⟩ := Option.bind_eq_some_iff.mp h
    obtain ⟨s, hs, h⟩ := Option.map_eq_some_iff.mp h
    cases h
    obtain ⟨hfs, hlit⟩ := twoBits_of_isPopCountLE2 (not_lt.mp hneg) hz hpow hpop hf hs
    rw [run_genMultiplyByTwoBitMultiplier hfs, hlit]
  · -- `2^k - 1`: a shift and a subtraction
    obtain ⟨k, hk, h⟩ := Option.map_eq_some_iff.mp h
    cases h
    have hk' := eq_twoPow_of_signExtend hpow1 hk
    simp only [run, List.foldl_cons, List.foldl_nil, Lir.exec, Function.update_apply,
      OpKind.eval, OpKind.evalImm_lsl, Int.toNat_natCast, Ne.symm h0, ↓reduceIte]
    rw [← hk']
    ring
  · cases h

/-- `GetEasyMultiplyTwoOps(0)` returns `true` with two `kOpInvalid` operations, for which
`GenEasyMultiplyTwoOps` emits nothing: the destination keeps what it held instead of `x * 0`. -/
theorem getEasyMultiplyTwoOps_zero_emits_nothing :
    getEasyMultiplyTwoOps 0 = some (some (⟨.invalid, 0⟩, ⟨.invalid, 0⟩)) ∧
      run (genEasyMultiplyTwoOps 0 1 2 (⟨.invalid, 0⟩, ⟨.invalid, 0⟩)) (fun _ => 1#32) 0 ≠
        (fun _ => 1#32) 1 * 0 := by
  decide

/-- **Strength-reduced multiplication is exact modulo `2^32`**: the code `HandleEasyMultiply`
emits, and on Thumb2 the pair of operations `GetEasyMultiplyTwoOps` finds for a positive
literal, multiply by the literal; `GetEasyMultiplyTwoOps` returns for every literal of at
least `2`. -/
theorem easyMultiply_exact :
    (∀ (isa : InstructionSet) (ra : RegAlloc) (lit : BitVec 32) (code : List Lir),
        handleEasyMultiply isa ra lit = some (some code) →
        ∀ regs, run code regs ra.result = regs ra.src * lit) ∧
      (∀ (lit : BitVec 32) (ops : EasyMultiplyOp × EasyMultiplyOp) (rDest rSrc allocTemp : Nat),
        1 ≤ lit.toInt → getEasyMultiplyTwoOps lit = some (some ops) → allocTemp ≠ rSrc →
        ∀ regs, run (genEasyMultiplyTwoOps rDest rSrc allocTemp ops) regs rDest =
          regs rSrc * lit) ∧
      (∀ lit : BitVec 32, 2 ≤ lit.toInt → getEasyMultiplyTwoOps lit ≠ none) := by
  refine ⟨fun _ _ _ _ h regs => run_handleEasyMultiply h regs, ?_,
    fun _ h => getEasyMultiplyTwoOps_terminates h⟩
  intro lit ops rDest rSrc allocTemp hlit h htemp regs
  have hz : lit ≠ 0 := by
    rintro rfl
    simp at hlit
  obtain ⟨hm, h₁, h₂⟩ := getEasyMultiplyTwoOps_multiplier h hz
  rw [run_genEasyMultiplyTwoOps regs h₁ h₂ htemp, hm]

/-- `10 = ((x << 2) + x) << 1`, into the source register itself through the temporary. -/
theorem easyMultiply_exact_ten :
    getEasyMultiplyTwoOps 10#32 = some (some (⟨.add, 2⟩, ⟨.lsl, 1⟩)) ∧
      ∀ regs : Nat → BitVec 32,
        run (genEasyMultiplyTwoOps 0 0 1 (⟨.add, 2⟩, ⟨.lsl, 1⟩)) regs 0 = regs 0 * 10#32 :=
  ⟨by decide, easyMultiply_exact.2.1 10#32 _ 0 0 1 (by decide) (by decide) (by decide)⟩

end Art.Quick
