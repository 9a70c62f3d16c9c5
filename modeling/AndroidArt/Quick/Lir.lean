import AndroidArt.Lib.DivisionByConstant
import Mathlib.Data.Nat.Factorization.Basic

/-!
# The low-level IR of the quick compiler

Model of the `LIR` that the code generators of `compiler/dex/quick` emit through the virtual
`OpRegRegImm`, `OpRegRegReg`, `OpRegRegRegShift`, `OpRegCopy` and `LoadConstant` of `Mir2Lir`,
and of what an instruction does to the registers.

* `OpKind` — the operations of `compiler_enums.h` that the modelled generators use.
* `Shift` — the shifted operand of `OpRegRegRegShift`, `EncodeShift(kind, amount)`.
* `Lir` — one instruction, and `Lir.exec` what it does to registers of `w` bits (`smull`
  writes two of them); `run` executes a straight-line sequence, and `run_of_not_mem_writes` is
  its frame rule.
* `RegAlloc` — the registers a generator works with: the source value's, the result's (which
  `EvalLoc` may make the source's own), and the temporaries of `AllocTemp`, fresh and distinct
  from both.
* `isPowerOfTwo`, `lowestSetBit` — `Mir2Lir::IsPowerOfTwo` and `Mir2Lir::LowestSetBit` of
  `codegen_util.cc` on a `uint64_t`.  The two loops of `LowestSetBit` are given fuel: they do
  not end on `0`, and `none` stands for that.
-/

set_option autoImplicit false

namespace Art.Quick

/-- `OpKind`: the operations the modelled generators emit.  `invalid` (`kOpInvalid`) marks an
unused slot of an `EasyMultiplyOp` and is never emitted. -/
inductive OpKind
  | lsl | lsr | asr | and | add | sub | rsub | mul | invalid
  deriving DecidableEq, Repr

/-- The shift kinds of `EncodeShift`. -/
inductive ShiftKind
  | lsl | lsr | asr
  deriving DecidableEq, Repr

/-- `EncodeShift(kind, amount)`. -/
structure Shift where
  kind : ShiftKind
  amount : Nat
  deriving DecidableEq, Repr

variable {w : Nat}

/-- A shifted operand. -/
def Shift.apply (s : Shift) (x : BitVec w) : BitVec w :=
  match s.kind with
  | .lsl => x <<< s.amount
  | .lsr => x >>> s.amount
  | .asr => x.sshiftRight s.amount

/-- `op` on two register values; a shift shifts by the second. -/
def OpKind.eval : OpKind → BitVec w → BitVec w → BitVec w
  | .lsl, a, b => a <<< b.toNat
  | .lsr, a, b => a >>> b.toNat
  | .asr, a, b => a.sshiftRight b.toNat
  | .and, a, b => a &&& b
  | .add, a, b => a + b
  | .sub, a, b => a - b
  | .rsub, a, b => b - a
  | .mul, a, b => a * b
  | .invalid, a, _ => a

/-- `op` on a register value and an immediate: a shift's immediate is its amount. -/
def OpKind.evalImm (op : OpKind) (a : BitVec w) (imm : Int) : BitVec w :=
  match op with
  | .lsl => a <<< imm.toNat
  | .lsr => a >>> imm.toNat
  | .asr => a.sshiftRight imm.toNat
  | op => op.eval a (BitVec.ofInt w imm)

/-- An emitted instruction.  `opRegRegRegShift op rd rs1 rs2 s` computes `rs1 op (s rs2)`, so
that `kOpRsub` there is `(s rs2) - rs1`, ARM's `rsb`.  `smull` is Thumb2's `kThumb2Smull`: the
double-width signed product of `rn` and `rm`, its low half in `rdLo` and its high half in
`rdHi`. -/
inductive Lir
  | opRegRegImm (op : OpKind) (rd rs : Nat) (imm : Int)
  | opRegRegReg (op : OpKind) (rd rs1 rs2 : Nat)
  | opRegRegRegShift (op : OpKind) (rd rs1 rs2 : Nat) (shift : Shift)
  | opRegCopy (rd rs : Nat)
  | loadConstant (rd : Nat) (value : Int)
  | smull (rdLo rdHi rn rm : Nat)
  deriving DecidableEq, Repr

/-- The high half of the double-width signed product. -/
def mulHigh (a b : BitVec w) : BitVec w :=
  ((a.signExtend (2 * w) * b.signExtend (2 * w)).sshiftRight w).setWidth w

theorem toInt_mulHigh (a b : BitVec w) (hw : 0 < w) :
    (mulHigh a b).toInt = a.toInt * b.toInt / 2 ^ w :=
  BitVec.toInt_mulHigh a b hw

/-- One instruction on the registers. -/
def Lir.exec (regs : Nat → BitVec w) : Lir → Nat → BitVec w
  | opRegRegImm op rd rs imm => Function.update regs rd (op.evalImm (regs rs) imm)
  | opRegRegReg op rd rs1 rs2 => Function.update regs rd (op.eval (regs rs1) (regs rs2))
  | opRegRegRegShift op rd rs1 rs2 s =>
    Function.update regs rd (op.eval (regs rs1) (s.apply (regs rs2)))
  | opRegCopy rd rs => Function.update regs rd (regs rs)
  | loadConstant rd v => Function.update regs rd (BitVec.ofInt w v)
  | smull rdLo rdHi rn rm =>
    Function.update (Function.update regs rdLo (regs rn * regs rm)) rdHi
      (mulHigh (regs rn) (regs rm))

/-- A straight-line sequence of instructions, executed in order. -/
def run (code : List Lir) (regs : Nat → BitVec w) : Nat → BitVec w :=
  code.foldl Lir.exec regs

@[simp] theorem run_nil (regs : Nat → BitVec w) : run [] regs = regs := rfl

@[simp] theorem run_cons (i : Lir) (code : List Lir) (regs : Nat → BitVec w) :
    run (i :: code) regs = run code (i.exec regs) := rfl

theorem run_append (c₁ c₂ : List Lir) (regs : Nat → BitVec w) :
    run (c₁ ++ c₂) regs = run c₂ (run c₁ regs) := by
  simp [run, List.foldl_append]

/-- The registers an instruction writes. -/
def Lir.writes : Lir → List Nat
  | opRegRegImm _ rd _ _ => [rd]
  | opRegRegReg _ rd _ _ => [rd]
  | opRegRegRegShift _ rd _ _ _ => [rd]
  | opRegCopy rd _ => [rd]
  | loadConstant rd _ => [rd]
  | smull rdLo rdHi _ _ => [rdLo, rdHi]

/-- An instruction leaves every register it does not write as it was. -/
theorem Lir.exec_of_not_mem_writes {l : Lir} {r : Nat} (h : r ∉ l.writes)
    (regs : Nat → BitVec w) : l.exec regs r = regs r := by
  cases l <;> simp_all [Lir.writes, Lir.exec]

/-- The frame rule of a sequence: a register no instruction writes keeps its value. -/
theorem run_of_not_mem_writes {r : Nat} :
    ∀ {code : List Lir}, (∀ l ∈ code, r ∉ l.writes) → ∀ regs : Nat → BitVec w,
      run code regs r = regs r
  | [], _, _ => rfl
  | l :: code, h, regs => by
    rw [run_cons, run_of_not_mem_writes (fun l' hl' => h l' (List.mem_cons_of_mem l hl')),
      Lir.exec_of_not_mem_writes (h l List.mem_cons_self)]

/-- The registers of a code generator: `src` holds the operand, `result` receives the result
and may be `src` itself (`EvalLoc` of a destination that shares the operand's register), and the
`i`-th `AllocTemp` gives `temp i`, which holds neither. -/
structure RegAlloc where
  src : Nat
  result : Nat
  temp : Nat → Nat
  temp_injective : Function.Injective temp
  temp_ne_src : ∀ i, temp i ≠ src
  temp_ne_result : ∀ i, temp i ≠ result

/-- `Mir2Lir::IsPowerOfTwo`; it holds of `0`. -/
def isPowerOfTwo (x : BitVec 64) : Bool := x &&& (x - 1) == 0

/-- The second loop of `LowestSetBit`, one bit at a time, on the value of the `uint64_t`. -/
def lowestSetBitBits : Nat → Nat → Nat → Option Nat
  | 0, _, _ => none
  | fuel + 1, x, pos => if x % 2 = 0 then lowestSetBitBits fuel (x / 2) (pos + 1) else some pos

/-- The first loop of `LowestSetBit`, four bits at a time, then the second. -/
def lowestSetBitNibbles : Nat → Nat → Nat → Option Nat
  | 0, _, _ => none
  | fuel + 1, x, pos =>
    if x % 16 = 0 then lowestSetBitNibbles fuel (x / 16) (pos + 4) else lowestSetBitBits 4 x pos

/-- `Mir2Lir::LowestSetBit`.  On a nonzero word the first loop runs at most fifteen times and
the second at most three; on `0` they run forever, which is `none` whatever the fuel. -/
def lowestSetBit (x : BitVec 64) : Option Nat := lowestSetBitNibbles 16 x.toNat 0

theorem lowestSetBitBits_eq {m : Nat} (hm : m % 2 = 1) :
    ∀ {j fuel pos : Nat}, j < fuel → lowestSetBitBits fuel (2 ^ j * m) pos = some (pos + j)
  | 0, fuel + 1, pos, _ => by simp [lowestSetBitBits, hm]
  | j + 1, fuel + 1, pos, h => by
    have hdiv : 2 ^ (j + 1) * m / 2 = 2 ^ j * m := by
      rw [pow_succ, Nat.mul_right_comm, Nat.mul_div_cancel _ (by decide)]
    have heven : 2 ^ (j + 1) * m % 2 = 0 := by
      rw [pow_succ, Nat.mul_right_comm, Nat.mul_mod_left]
    rw [lowestSetBitBits, if_pos heven, hdiv, lowestSetBitBits_eq hm (by omega)]
    congr 1
    omega

/-- Four low bits of `2^j * m`, `m` odd, are zero exactly when `j ≥ 4`. -/
theorem two_pow_mul_odd_mod_sixteen {j m : Nat} (hm : m % 2 = 1) :
    2 ^ j * m % 16 = 0 ↔ 4 ≤ j := by
  constructor
  · intro h
    by_contra hj
    have h16 : 2 ^ (j + 1) ∣ 16 := Nat.pow_dvd_pow 2 (by omega : j + 1 ≤ 4)
    have hdvd : 2 ^ j * 2 ∣ 2 ^ j * m := by
      rw [← pow_succ]
      exact Nat.dvd_trans h16 (Nat.dvd_of_mod_eq_zero h)
    have := Nat.dvd_of_mul_dvd_mul_left (Nat.two_pow_pos j) hdvd
    omega
  · intro hj
    rw [show j = 4 + (j - 4) by omega, pow_add, Nat.mul_assoc]
    exact Nat.mul_mod_right _ _

theorem lowestSetBitNibbles_eq {m : Nat} (hm : m % 2 = 1) :
    ∀ {fuel j pos : Nat}, j < 4 * fuel → lowestSetBitNibbles fuel (2 ^ j * m) pos = some (pos + j)
  | fuel + 1, j, pos, h => by
    by_cases hj : 4 ≤ j
    · have hdiv : 2 ^ j * m / 16 = 2 ^ (j - 4) * m := by
        rw [show j = 4 + (j - 4) by omega, pow_add, Nat.mul_assoc, Nat.add_sub_cancel_left]
        exact Nat.mul_div_cancel_left _ (by decide)
      rw [lowestSetBitNibbles, if_pos ((two_pow_mul_odd_mod_sixteen hm).mpr hj), hdiv,
        lowestSetBitNibbles_eq hm (by omega)]
      congr 1
      omega
    · rw [lowestSetBitNibbles, if_neg (mt (two_pow_mul_odd_mod_sixteen hm).mp hj),
        lowestSetBitBits_eq hm (by omega)]

/-- `LowestSetBit` returns the exponent of the largest power of two dividing the word. -/
theorem lowestSetBit_eq {x : BitVec 64} {j m : Nat} (hx : x.toNat = 2 ^ j * m)
    (hm : m % 2 = 1) : lowestSetBit x = some j := by
  have hlt : 2 ^ j < 2 ^ 64 := by
    have := x.isLt
    have : 2 ^ j ≤ 2 ^ j * m := Nat.le_mul_of_pos_right _ (by omega)
    omega
  have hj : j < 64 := (Nat.pow_lt_pow_iff_right (by decide)).mp hlt
  rw [lowestSetBit, hx, lowestSetBitNibbles_eq hm (by omega), Nat.zero_add]

/-- On a nonzero word `LowestSetBit` returns, and the bit it finds is set. -/
theorem lowestSetBit_spec {x : BitVec 64} (hx : x ≠ 0) :
    ∃ j m, m % 2 = 1 ∧ x.toNat = 2 ^ j * m ∧ lowestSetBit x = some j := by
  have hx' : x.toNat ≠ 0 := fun h => hx (BitVec.eq_of_toNat_eq (by simpa using h))
  obtain ⟨j, m, hodd, hjm⟩ := Nat.exists_eq_two_pow_mul_odd hx'
  have hm : m % 2 = 1 := Nat.odd_iff.mp hodd
  exact ⟨j, m, hm, hjm, lowestSetBit_eq hjm hm⟩

theorem lowestSetBit_zero : lowestSetBit 0 = none := by decide

/-- `IsPowerOfTwo` holds of `0` and of the powers of two. -/
theorem isPowerOfTwo_iff (x : BitVec 64) :
    isPowerOfTwo x = true ↔ x.toNat = 0 ∨ x.toNat.isPowerOfTwo := by
  by_cases hx : x.toNat = 0
  · have : x = 0 := BitVec.eq_of_toNat_eq (by simpa using hx)
    subst this
    simp only [hx, true_or, iff_true]
    decide
  · have hsub : (x - 1).toNat = x.toNat - 1 := by
      rw [BitVec.toNat_sub, show (1 : BitVec 64).toNat = 1 from rfl]
      have := x.isLt
      omega
    have hand : (x &&& (x - 1) = 0) ↔ x.toNat &&& (x.toNat - 1) = 0 := by
      rw [← BitVec.toNat_inj, BitVec.toNat_and, hsub]
      simp
    simp only [isPowerOfTwo, beq_iff_eq, hand, Nat.and_sub_one_eq_zero_iff_isPowerOfTwo hx, hx,
      false_or]

theorem isPowerOfTwo_twoPow {k : Nat} (hk : k < 64) : isPowerOfTwo (BitVec.twoPow 64 k) = true := by
  rw [isPowerOfTwo_iff, BitVec.toNat_twoPow, Nat.mod_eq_of_lt (Nat.pow_lt_pow_right (by decide) hk)]
  exact Or.inr ⟨k, rfl⟩

theorem lowestSetBit_twoPow {k : Nat} (hk : k < 64) : lowestSetBit (BitVec.twoPow 64 k) = some k := by
  apply lowestSetBit_eq (m := 1) _ rfl
  rw [BitVec.toNat_twoPow, Nat.mod_eq_of_lt (Nat.pow_lt_pow_right (by decide) hk), Nat.mul_one]

end Art.Quick
