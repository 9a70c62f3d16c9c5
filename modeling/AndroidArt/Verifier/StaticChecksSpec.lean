import AndroidArt.Verifier.StaticChecks
import Mathlib.Order.Monotone.Basic
import Mathlib.Logic.Function.Iterate
import Mathlib.Order.WellFounded

/-!
# What a successful static pass guarantees

The width walk of `ComputeWidthsAndCountOps` visits the positions `walkPos m k`, the iterates
of `pc ↦ pc + SizeInCodeUnits(pc)` from `0`; an instruction boundary (`IsBoundary`) is such a
position inside the code.  For a method that `staticChecks` accepts:

* `staticChecks_walk_inside` — the walk ends exactly at `insns_size` and reads no code unit at
  or past it;
* `staticChecks_branch_target`, `staticChecks_switch_targets`, `staticChecks_handlers` — every
  branch, switch and exception-handler target is an instruction boundary, because `IsOpcode()`
  holds exactly at boundaries (`lengths_isOpcode_boundary`);
* `staticChecks_array_data` — a fill-array-data table lies inside the code as measured by its
  `uint32_t` size.

Each rests on a lemma about one check (`checkBranchTarget_ok`, `checkSwitchTargets_ok`,
`checkArrayData_ok`, `scanTryCatchBlocks_handlers`) and on the run lemma of the instruction loop
(`verifyWalk_ok`).  The array-data size is computed in `uint32_t`, the same size the walk uses for
the payload (`arrayDataTableSize_eq_sizeInCodeUnits`); `staticChecks_accepts_wrapping_payload`
is a method the whole pass accepts although its payload, counted in unbounded integers, extends
far past the code.
-/

set_option autoImplicit false

namespace Art

namespace Verifier

open Instruction

/-! ## The instruction walk -/

section Walk

variable (m : CodeItem)

/-- Where the instruction walk goes from `pc`. -/
def nextInsn (pc : Nat) : Nat := pc + sizeInCodeUnits m.insns pc

/-- The `k`-th position of the instruction walk from `0`. -/
def walkPos (k : Nat) : Nat := (nextInsn m)^[k] 0

@[simp] theorem walkPos_zero : walkPos m 0 = 0 := rfl

theorem walkPos_succ (k : Nat) :
    walkPos m (k + 1) = walkPos m k + sizeInCodeUnits m.insns (walkPos m k) := by
  unfold walkPos
  rw [Function.iterate_succ_apply']
  rfl

theorem walkPos_strictMono : StrictMono (walkPos m) :=
  strictMono_nat_of_lt_succ fun k => by
    have := sizeInCodeUnits_pos m.insns (walkPos m k)
    rw [walkPos_succ]
    omega

/-- An instruction boundary: a position of the walk inside the code. -/
def IsBoundary (pc : Nat) : Prop := pc < m.insnsSizeInCodeUnits ∧ ∃ k, walkPos m k = pc

@[simp] theorem countOp_lengths (op : Nat) (w : Widths) : (countOp op w).lengths = w.lengths := by
  unfold countOp
  split_ifs <;> rfl

/-- One step of the width walk inside the code. -/
theorem widthsWalk_succ_of_lt {fuel dexPc : Nat} {w : Widths} (h : dexPc < m.insnsSizeInCodeUnits) :
    widthsWalk m (fuel + 1) dexPc w =
      widthsWalk m fuel (nextInsn m dexPc) { countOp (opcode m.insns dexPc) w with
        lengths := Function.update w.lengths dexPc (sizeInCodeUnits m.insns dexPc % 2 ^ 16) } := by
  simp only [widthsWalk, if_pos h, countOp_lengths, nextInsn]

theorem widthsWalk_succ_of_ge {fuel dexPc : Nat} {w : Widths} (h : m.insnsSizeInCodeUnits ≤ dexPc) :
    widthsWalk m (fuel + 1) dexPc w = (dexPc, w) := by
  simp only [widthsWalk, if_neg (Nat.not_lt.mpr h)]

/-- A run of the width walk from the `k`-th position stops at a later position `j`; every
position before `j` lies inside the code, and the walk stops inside the code only when its
fuel runs out. -/
theorem widthsWalk_pos (fuel k : Nat) (w : Widths) :
    ∃ j, k ≤ j ∧ (widthsWalk m fuel (walkPos m k) w).1 = walkPos m j ∧
      (∀ i, k ≤ i → i < j → walkPos m i < m.insnsSizeInCodeUnits) ∧
      (m.insnsSizeInCodeUnits ≤ walkPos m j ∨ j = k + fuel) := by
  induction fuel generalizing k w with
  | zero => exact ⟨k, le_refl k, rfl, fun i h1 h2 => by omega, Or.inr rfl⟩
  | succ fuel ih =>
    by_cases hlt : walkPos m k < m.insnsSizeInCodeUnits
    · rw [widthsWalk_succ_of_lt m hlt, nextInsn, ← walkPos_succ]
      obtain ⟨j, hkj, he, hin, hex⟩ := ih (k + 1) _
      refine ⟨j, by omega, he, fun i h1 h2 => ?_, by omega⟩
      rcases Nat.eq_or_lt_of_le h1 with rfl | h1
      · exact hlt
      · exact hin i h1 h2
    · rw [widthsWalk_succ_of_ge m (by omega)]
      exact ⟨k, le_refl k, rfl, fun i h1 h2 => by omega, Or.inl (by omega)⟩

/-- The walk records a length only at the positions it visits inside the code. -/
theorem widthsWalk_lengths (fuel k : Nat) (w : Widths) (pc : Nat)
    (h : (widthsWalk m fuel (walkPos m k) w).2.lengths pc ≠ 0) :
    w.lengths pc ≠ 0 ∨ IsBoundary m pc := by
  induction fuel generalizing k w with
  | zero => exact Or.inl h
  | succ fuel ih =>
    by_cases hlt : walkPos m k < m.insnsSizeInCodeUnits
    · rw [widthsWalk_succ_of_lt m hlt, nextInsn, ← walkPos_succ] at h
      rcases ih (k + 1) _ h with h' | h'
      · by_cases hpc : pc = walkPos m k
        · exact Or.inr ⟨hpc ▸ hlt, k, hpc.symm⟩
        · left
          simpa [Function.update_of_ne hpc] using h'
      · exact Or.inr h'
    · rw [widthsWalk_succ_of_ge m (by omega)] at h
      exact Or.inl h

/-- What a successful width walk establishes: it ends exactly at `insns_size`, every earlier
position lies inside the code, and a length is recorded only at a boundary. -/
structure WalkOk (m : CodeItem) (w : Widths) : Prop where
  ends : ∃ j, walkPos m j = m.insnsSizeInCodeUnits ∧ ∀ i < j, walkPos m i < m.insnsSizeInCodeUnits
  lengths_boundary : ∀ pc, w.lengths pc ≠ 0 → IsBoundary m pc

/-- **`ComputeWidthsAndCountOps` succeeds only on a walk that ends at `insns_size`.** -/
theorem computeWidthsAndCountOps_walk {s s' : VerifierState} {w : Widths}
    (h : computeWidthsAndCountOps m s = (true, w, s')) : WalkOk m w := by
  obtain ⟨j, -, hj, hin, hex⟩ := widthsWalk_pos m m.insnsSizeInCodeUnits 0 ⟨fun _ => 0, false, false, 0, 0⟩
  have hlen := widthsWalk_lengths m m.insnsSizeInCodeUnits 0 ⟨fun _ => 0, false, false, 0, 0⟩
  unfold computeWidthsAndCountOps at h
  rcases hw : widthsWalk m m.insnsSizeInCodeUnits 0 ⟨fun _ => 0, false, false, 0, 0⟩ with ⟨e, w'⟩
  rw [walkPos_zero] at hj hlen
  rw [hw] at h hj hlen
  simp only at h hj hlen
  split at h
  · cases h
  · rename_i heq
    cases h
    refine ⟨⟨j, ?_, fun i hi => hin i (Nat.zero_le i) hi⟩, fun pc hpc => ?_⟩
    · rw [← hj]; exact Decidable.of_not_not heq
    · rcases hlen pc hpc with h0 | hb
      · exact absurd rfl h0
      · exact hb

variable {m}

/-- **Every instruction of a successful walk lies inside the code.** -/
theorem boundary_end_le {w : Widths} (hw : WalkOk m w) {pc : Nat} (hb : IsBoundary m pc) :
    pc + sizeInCodeUnits m.insns pc ≤ m.insnsSizeInCodeUnits := by
  obtain ⟨hlt, k, rfl⟩ := hb
  obtain ⟨j, hj, hin⟩ := hw.ends
  have hkj : k < j := by
    by_contra hge
    have := (walkPos_strictMono m).monotone (Nat.le_of_not_lt hge)
    omega
  rw [← walkPos_succ, ← hj]
  exact (walkPos_strictMono m).monotone hkj

/-- **The width walk reads no code unit at or past `insns_size`.** -/
theorem sizeUnitsRead_lt_insnsSize {w : Widths} (hw : WalkOk m w) {pc i : Nat}
    (hb : IsBoundary m pc) (hi : i ∈ sizeUnitsRead m.insns pc) : i < m.insnsSizeInCodeUnits := by
  have := sizeUnitsRead_lt hi
  have := boundary_end_le hw hb
  omega

/-- `IsOpcode()` holds only at a boundary. -/
theorem lengths_isOpcode_boundary {w : Widths} (hw : WalkOk m w) {pc : Nat}
    (h : InstructionFlags.isOpcode w.lengths pc = true) : IsBoundary m pc := by
  unfold InstructionFlags.isOpcode at h
  exact hw.lengths_boundary pc (by simpa using h)

end Walk

/-! ## The per-instruction checks -/

section Checks

variable {env : DexContext} {m : CodeItem} {lengths : Nat → Nat} {pc : Nat} {s s' : VerifierState}

/-- **A passing `VerifyInstruction` ran its extra check, and that check passed.** -/
theorem verifyInstruction_extra (h : verifyInstruction env m lengths pc s = (true, s')) :
    ∃ s₀ s₁, verifyExtraFlags m lengths pc s₀ = some (true, s₁) := by
  unfold verifyInstruction at h
  rcases hA : verifyArgumentA m pc s with ⟨_ | _, sA⟩ <;>
    simp only [hA, Bool.false_eq_true, ↓reduceIte] at h
  · split at h <;> simp at h
  rcases hB : verifyArgumentB env m pc sA with ⟨_ | _, sB⟩ <;>
    simp only [hB, Bool.false_eq_true, ↓reduceIte] at h
  · split at h <;> simp at h
  rcases hC : verifyArgumentC env m pc sB with ⟨_ | _, sC⟩ <;>
    simp only [hC, Bool.false_eq_true, ↓reduceIte] at h
  · split at h <;> simp at h
  rcases hX : verifyExtraFlags m lengths pc sC with _ | ⟨_ | _, sX⟩ <;> simp only [hX] at h
  · simp at h
  · split at h <;> simp at h
  · exact ⟨sC, sX, hX⟩

theorem verifyExtraFlags_arrayData (hx : getVerifyExtraFlags (opcode m.insns pc) = kVerifyArrayData) :
    verifyExtraFlags m lengths pc s = some (checkArrayData m pc s) := by
  simp [verifyExtraFlags, hx]

theorem verifyExtraFlags_branchTarget
    (hx : getVerifyExtraFlags (opcode m.insns pc) = kVerifyBranchTarget) :
    verifyExtraFlags m lengths pc s = some (checkBranchTarget m lengths pc s) := by
  simp [verifyExtraFlags, hx, kVerifyArrayData, kVerifyBranchTarget]

theorem verifyExtraFlags_switchTargets
    (hx : getVerifyExtraFlags (opcode m.insns pc) = kVerifySwitchTargets) :
    verifyExtraFlags m lengths pc s = some (checkSwitchTargets m lengths pc s) := by
  simp [verifyExtraFlags, hx, kVerifyArrayData, kVerifyBranchTarget, kVerifySwitchTargets]

/-- **A branch that `CheckBranchTarget` accepts lands, in unbounded arithmetic, on an opcode
inside the code**: the overflow test makes the `uint32_t` sum exact, and a non-negative
`int32_t` view of it is the sum itself. -/
theorem checkBranchTarget_ok (h : (checkBranchTarget m lengths pc s).1 = true) :
    ∃ off c z, getBranchOffset m pc = some (off, c, z) ∧ 0 ≤ (pc + off : Int) ∧
      (pc + off : Int) < m.insnsSizeInCodeUnits ∧
      InstructionFlags.isOpcode lengths (pc + off : Int).toNat = true := by
  unfold checkBranchTarget at h
  rcases hb : getBranchOffset m pc with _ | ⟨off, c, z⟩
  · simp [hb] at h
  simp only [hb] at h
  split_ifs at h with h0 hov hbad
  refine ⟨off, c, z, rfl, ?_⟩
  simp only [not_or, not_lt, not_le, Bool.not_eq_true', Bool.not_eq_false] at hbad
  obtain ⟨hnn, hlt, hop⟩ := hbad
  have hov : (pc + off : Int) = Word.toUnsigned 32 (pc + off) := not_not.mp hov
  have habs : Word.toSigned 32 (pc + off) = (pc + off : Int) := by
    rw [Word.toSigned_eq_toUnsigned_of_nonneg hnn, ← hov]
  rw [habs] at hlt hop hnn
  rw [← Int.ofNat_lt, ← hov] at hlt
  exact ⟨hnn, hlt, hop⟩

/-- The absolute target of entry `t` of a switch table at `switchStart`, its targets starting
`targetsOffset` units in: `cur_offset + offset` in `int32_t`. -/
def switchEntryTarget (m : CodeItem) (curOffset switchStart targetsOffset t : Nat) : Int :=
  Word.toSigned 32 (curOffset + Word.toSigned 32 (fetch32 m.insns switchStart (targetsOffset + t * 2)))

/-- **The target loop of `CheckSwitchTargets` passes only if every entry it visits is an opcode
inside the code.** -/
theorem checkSwitchTargetList_ok {curOffset switchStart targetsOffset : Nat} :
    ∀ (n targ : Nat) (s : VerifierState),
      (checkSwitchTargetList m lengths curOffset switchStart targetsOffset n targ s).1 = true →
      ∀ t, targ ≤ t → t < targ + n →
        0 ≤ switchEntryTarget m curOffset switchStart targetsOffset t ∧
        switchEntryTarget m curOffset switchStart targetsOffset t < m.insnsSizeInCodeUnits ∧
        InstructionFlags.isOpcode lengths
          (switchEntryTarget m curOffset switchStart targetsOffset t).toNat = true := by
  intro n
  induction n with
  | zero => intro targ s _ t h1 h2; omega
  | succ n ih =>
    intro targ s h t h1 h2
    rw [checkSwitchTargetList] at h
    split at h
    · exact absurd h Bool.false_ne_true
    · rename_i hbad
      simp only [not_or, not_lt, not_le, Bool.not_eq_true', Bool.not_eq_false] at hbad
      rcases Nat.eq_or_lt_of_le h1 with rfl | h1
      · exact hbad
      · exact ih (targ + 1) _ h t h1 (by omega)

/-- **A table start that passes the range test of `CheckArrayData` and `CheckSwitchTargets` is a
position whose first two units lie inside the code.**  The instruction itself lies below
`insns_size < 2^31`, so none of the test's conversions wraps. -/
theorem payloadStart_ok (hpc : pc < m.insnsSizeInCodeUnits)
    (h : ¬(Word.toSigned 32 (payloadStart m pc) < 0 ∨
      Word.toUnsigned 32 (Word.toUnsigned 32 (payloadStart m pc) + 2) ≥ m.insnsSizeInCodeUnits)) :
    0 ≤ payloadStart m pc ∧ payloadStart m pc + 2 < m.insnsSizeInCodeUnits := by
  have hn := m.insns_lt
  obtain ⟨lo, hi⟩ := Word.toSigned_32_bounds (fetch32 m.insns pc 1)
  have hlo : -2 ^ 31 ≤ payloadStart m pc := by unfold payloadStart; omega
  have hhi : payloadStart m pc < 2 ^ 32 := by unfold payloadStart; omega
  simp only [not_or, not_lt, not_le] at h
  obtain ⟨h1, h2⟩ := h
  obtain ⟨h0, h31⟩ := Word.lt_of_toSigned_32_nonneg hlo hhi h1
  have e1 : (Word.toUnsigned 32 (payloadStart m pc) : Int) = payloadStart m pc :=
    Word.toUnsigned_eq_self h0 (by omega)
  have e2 : (Word.toUnsigned 32 (Word.toUnsigned 32 (payloadStart m pc) + 2) : Int) =
      payloadStart m pc + 2 := by
    rw [Word.toUnsigned_eq_self (by omega) (by omega), e1]
  omega

theorem switchTargetsOffset_le (m : CodeItem) (pc switchStart : Nat) :
    switchTargetsOffset m pc switchStart ≤ 4 + 2 * fetch16 m.insns switchStart 1 := by
  unfold switchTargetsOffset
  split <;> omega

/-- What `CheckSwitchTargets` establishes about the switch instruction at `pc`: its table starts
inside the code and ends by `insns_size`, and each of its targets is an opcode inside the
code. -/
structure SwitchTableOk (m : CodeItem) (lengths : Nat → Nat) (pc : Nat) : Prop where
  start_nonneg : 0 ≤ payloadStart m pc
  table_le : (payloadStart m pc).toNat + switchTargetsOffset m pc (payloadStart m pc).toNat +
    fetch16 m.insns (payloadStart m pc).toNat 1 * 2 ≤ m.insnsSizeInCodeUnits
  targets : ∀ t < fetch16 m.insns (payloadStart m pc).toNat 1,
    0 ≤ switchEntryTarget m pc (payloadStart m pc).toNat
        (switchTargetsOffset m pc (payloadStart m pc).toNat) t ∧
      switchEntryTarget m pc (payloadStart m pc).toNat
        (switchTargetsOffset m pc (payloadStart m pc).toNat) t < m.insnsSizeInCodeUnits ∧
      InstructionFlags.isOpcode lengths (switchEntryTarget m pc (payloadStart m pc).toNat
        (switchTargetsOffset m pc (payloadStart m pc).toNat) t).toNat = true

/-- **`CheckSwitchTargets` passes only on a switch whose table lies inside the code and whose
targets are opcodes.**  The table is at most `4 + 4 * 0xffff` units long, so its end is computed
without wrapping. -/
theorem checkSwitchTargets_ok (hpc : pc < m.insnsSizeInCodeUnits)
    (h : (checkSwitchTargets m lengths pc s).1 = true) : SwitchTableOk m lengths pc := by
  rw [checkSwitchTargets] at h
  split at h
  · exact absurd h Bool.false_ne_true
  rename_i hstart
  obtain ⟨h0, h2⟩ := payloadStart_ok hpc hstart
  split at h
  · exact absurd h Bool.false_ne_true
  simp only [] at h
  split at h
  · exact absurd h Bool.false_ne_true
  split at h
  · exact absurd h Bool.false_ne_true
  rename_i hend
  split at h
  · exact absurd h Bool.false_ne_true
  refine ⟨h0, ?_, fun t ht => checkSwitchTargetList_ok _ 0 _ h t (Nat.zero_le t) (by omega)⟩
  have hoff := switchTargetsOffset_le m pc (payloadStart m pc).toNat
  have hcount := fetch16_lt m.insns (payloadStart m pc).toNat 1
  have hn := m.insns_lt
  rw [gt_iff_lt, not_lt, ← Int.ofNat_le, Word.toUnsigned_eq_self (by omega) (by omega)] at hend
  omega

/-- What `CheckArrayData` establishes about the fill-array-data instruction at `pc`: its table
starts inside the code and, measured by the `uint32_t` table size, ends by `insns_size`. -/
structure ArrayDataOk (m : CodeItem) (pc : Nat) : Prop where
  start_nonneg : 0 ≤ payloadStart m pc
  header_lt : (payloadStart m pc).toNat + 2 < m.insnsSizeInCodeUnits
  table_le : (payloadStart m pc).toNat + arrayDataTableSize m (payloadStart m pc).toNat ≤
    m.insnsSizeInCodeUnits

/-- The table size `CheckArrayData` bounds is the size the width walk steps over, when the table
carries the array-data signature: both wrap the same way. -/
theorem arrayDataTableSize_eq_sizeInCodeUnits {start : Nat}
    (h : fetch16 m.insns start 0 = kArrayDataSignature) :
    arrayDataTableSize m start = sizeInCodeUnitsComplexOpcode m.insns start := by
  simp [arrayDataTableSize, sizeInCodeUnitsComplexOpcode, h, kArrayDataSignature,
    kPackedSwitchSignature, kSparseSwitchSignature]

theorem arrayDataTableSize_lt (m : CodeItem) (start : Nat) : arrayDataTableSize m start < 4 + 2 ^ 31 := by
  have := Word.toUnsigned_lt 32 (Word.toUnsigned 32 (fetch16 m.insns start 1 * fetch32 m.insns start 2) + 1)
  unfold arrayDataTableSize
  omega

/-- **`CheckArrayData` passes only on a table that ends, by its `uint32_t` size, inside the
code.**  The start is below `2^31 - 3` and the size below `2^31 + 4`, so the end test does not wrap;
the size itself may. -/
theorem checkArrayData_ok (hpc : pc < m.insnsSizeInCodeUnits)
    (h : (checkArrayData m pc s).1 = true) : ArrayDataOk m pc := by
  rw [checkArrayData] at h
  split at h
  · exact absurd h Bool.false_ne_true
  rename_i hstart
  obtain ⟨h0, h2⟩ := payloadStart_ok hpc hstart
  split at h
  · exact absurd h Bool.false_ne_true
  split at h
  · exact absurd h Bool.false_ne_true
  rename_i hend
  have hsize := arrayDataTableSize_lt m (payloadStart m pc).toNat
  have hn := m.insns_lt
  rw [gt_iff_lt, not_lt, ← Int.ofNat_le, Word.toUnsigned_eq_self (by omega) (by omega)] at hend
  exact ⟨h0, by omega, by omega⟩

end Checks

/-! ## Exception handlers -/

section Handlers

variable {m : CodeItem} {lengths : Nat → Nat}

open Leb128

/-- The handler addresses a `CatchHandlerIterator` yields from `p`: `n` typed entries, each a type
index and an address, then the catch-all address when there is one. -/
def handlerAddresses (d : Bytes) (catchAll : Bool) : Nat → Nat → List Nat
  | 0, p => if catchAll then [(decodeUnsignedLeb128 d p).1] else []
  | n + 1, p =>
    let p := (decodeUnsignedLeb128 d p).2
    (decodeUnsignedLeb128 d p).1 :: handlerAddresses d catchAll n (decodeUnsignedLeb128 d p).2

/-- `EndDataPointer()` of the same iterator. -/
def handlerEntriesEnd (d : Bytes) (catchAll : Bool) : Nat → Nat → Nat
  | 0, p => if catchAll then (decodeUnsignedLeb128 d p).2 else p
  | n + 1, p => handlerEntriesEnd d catchAll n (decodeUnsignedLeb128 d (decodeUnsignedLeb128 d p).2).2

/-- The shape of one `encoded_catch_handler` from its leading signed size: whether it ends with a
catch-all entry, and how many typed entries it has. -/
def handlerShape (size : Int) : Bool × Nat :=
  (decide (size ≤ 0), (if size ≤ 0 then Word.toSigned 32 (-size) else size).toNat)

/-- The handler addresses of `n` consecutive `encoded_catch_handler`s from `p`. -/
def handlerListAddresses (d : Bytes) : Nat → Nat → List Nat
  | 0, _ => []
  | n + 1, p =>
    let (size, p) := decodeSignedLeb128 d p
    let (catchAll, count) := handlerShape size
    handlerAddresses d catchAll count p ++
      handlerListAddresses d n (handlerEntriesEnd d catchAll count p)

/-- **The handler loop of one iterator passes only if every address it yields is an opcode, and
it leaves the pointer at `EndDataPointer()`.** -/
theorem scanHandlerEntries_ok (catchAll : Bool) :
    ∀ (n p : Nat) (s : VerifierState), (scanHandlerEntries m lengths catchAll n p s).1 = true →
      (∀ a ∈ handlerAddresses m.catchHandlerData catchAll n p,
        InstructionFlags.isOpcode lengths a = true) ∧
      (scanHandlerEntries m lengths catchAll n p s).2.1 =
        handlerEntriesEnd m.catchHandlerData catchAll n p := by
  intro n
  induction n with
  | zero =>
    intro p s h
    cases catchAll with
    | false => simp [handlerAddresses, handlerEntriesEnd, scanHandlerEntries]
    | true =>
      simp only [scanHandlerEntries, checkHandlerAddress, if_true] at h ⊢
      split at h
      · exact absurd h Bool.false_ne_true
      rename_i hop
      simp only [Bool.not_eq_true', Bool.not_eq_false] at hop
      simp [handlerAddresses, handlerEntriesEnd, hop]
  | succ n ih =>
    intro p s h
    simp only [scanHandlerEntries] at h ⊢
    split at h
    · exact absurd h Bool.false_ne_true
    rename_i s1 hck
    have hop : InstructionFlags.isOpcode lengths
        (decodeUnsignedLeb128 m.catchHandlerData (decodeUnsignedLeb128 m.catchHandlerData p).2).1 = true := by
      unfold checkHandlerAddress at hck
      split at hck
      · simp at hck
      · rename_i hop
        simpa using hop
    obtain ⟨hall, hend⟩ := ih _ s1 h
    refine ⟨?_, hend⟩
    intro a ha
    simp only [handlerAddresses, List.mem_cons] at ha
    rcases ha with rfl | ha
    · exact hop
    · exact hall a ha

/-- **The handler-list loop passes only if every handler address of its lists is an opcode.** -/
theorem scanHandlerLists_ok :
    ∀ (n p : Nat) (s : VerifierState), (scanHandlerLists m lengths n p s).1 = true →
      ∀ a ∈ handlerListAddresses m.catchHandlerData n p, InstructionFlags.isOpcode lengths a = true := by
  intro n
  induction n with
  | zero => simp [handlerListAddresses]
  | succ n ih =>
    intro p s h a ha
    simp only [scanHandlerLists] at h
    split at h
    · exact absurd h Bool.false_ne_true
    rename_i p1 s1 hent
    have hok := @scanHandlerEntries_ok m lengths _ _ _ _ (by rw [hent])
    rw [hent] at hok
    obtain ⟨hall, hend⟩ := hok
    simp only [handlerListAddresses, handlerShape, List.mem_append] at ha
    rcases ha with ha | ha
    · exact hall a ha
    · have hend : p1 = _ := hend
      exact ih p1 s1 h a (hend ▸ ha)

/-- The handler addresses of a code item: those of the `handlers_size` lists that follow the
leading count of its handler data. -/
def CodeItem.handlerAddrs (m : CodeItem) : List Nat :=
  let (handlersSize, p) := decodeUnsignedLeb128 m.catchHandlerData 0
  handlerListAddresses m.catchHandlerData handlersSize p

/-- **`ScanTryCatchBlocks` passes only if every handler address of a method with try items is an
opcode.** -/
theorem scanTryCatchBlocks_handlers {s s' : VerifierState}
    (h : scanTryCatchBlocks m lengths s = some (true, s')) (ht : m.triesSize ≠ 0) :
    ∀ a ∈ m.handlerAddrs, InstructionFlags.isOpcode lengths a = true := by
  unfold scanTryCatchBlocks at h
  rw [if_neg ht] at h
  split at h
  · cases h
  · cases h
  · rename_i s1 _
    unfold CodeItem.handlerAddrs
    rcases hd : decodeUnsignedLeb128 m.catchHandlerData 0 with ⟨handlersSize, p⟩
    simp only [hd, Option.some.injEq] at h
    exact scanHandlerLists_ok handlersSize p s1 (by rw [h])

end Handlers

/-! ## The instruction loop and the whole pass -/

section Pass

variable {env : DexContext} {m : CodeItem} {lengths : Nat → Nat}

/-- One passing step of the `VerifyInstructions` loop inside the code: the instruction passed, and
the loop goes on from the next one. -/
theorem verifyWalk_succ_inv {fuel dexPc : Nat} {s s' : VerifierState}
    (hlt : dexPc < m.insnsSizeInCodeUnits) (h : verifyWalk env m lengths (fuel + 1) dexPc s = (true, s')) :
    ∃ s₁, verifyInstruction env m lengths dexPc s = (true, s₁) ∧
      verifyWalk env m lengths fuel (nextInsn m dexPc) (markInfoPoint m dexPc s₁) = (true, s') := by
  simp only [verifyWalk, if_pos hlt] at h
  split at h
  · cases h
  rename_i s₁ hv
  exact ⟨s₁, hv, h⟩

/-- **A passing `VerifyInstructions` loop from the `k`-th position passed `VerifyInstruction` at
every position it reached inside the code.** -/
theorem verifyWalk_ok :
    ∀ (fuel k : Nat) (s s' : VerifierState),
      verifyWalk env m lengths fuel (walkPos m k) s = (true, s') →
      ∀ i, k ≤ i → i < k + fuel → walkPos m i < m.insnsSizeInCodeUnits →
        ∃ s₀ s₁, verifyInstruction env m lengths (walkPos m i) s₀ = (true, s₁) := by
  intro fuel
  induction fuel with
  | zero => intro k s s' _ i h1 h2; omega
  | succ fuel ih =>
    intro k s s' h i h1 h2 hi
    by_cases hk : walkPos m k < m.insnsSizeInCodeUnits
    · obtain ⟨s₁, hv, h⟩ := verifyWalk_succ_inv hk h
      rcases Nat.eq_or_lt_of_le h1 with rfl | h1
      · exact ⟨s, s₁, hv⟩
      · rw [nextInsn, ← walkPos_succ] at h
        exact ih (k + 1) _ s' h i h1 (by omega) hi
    · have := (walkPos_strictMono m).monotone h1
      omega

/-- **A passing static pass passed each of its three passes.** -/
theorem staticChecks_passes {s' : VerifierState} (h : staticChecks env m = some (true, s')) :
    ∃ w s₁ s₂, computeWidthsAndCountOps m VerifierState.init = (true, w, s₁) ∧
      scanTryCatchBlocks m w.lengths s₁ = some (true, s₂) ∧
      verifyInstructions env m w.lengths s₂ = (true, s') := by
  unfold staticChecks at h
  split at h
  · cases h
  rename_i w s₁ hc
  split at h
  · cases h
  · cases h
  rename_i s₂ hs
  exact ⟨w, s₁, s₂, hc, hs, Option.some.inj h⟩

/-- **Every instruction of a method the static pass accepts passed `VerifyInstruction`.** -/
theorem staticChecks_verifyInstruction {s' : VerifierState} (h : staticChecks env m = some (true, s'))
    {pc : Nat} (hb : IsBoundary m pc) :
    ∃ w s₁ s₀ s₂, computeWidthsAndCountOps m VerifierState.init = (true, w, s₁) ∧
      verifyInstruction env m w.lengths pc s₀ = (true, s₂) := by
  obtain ⟨w, s₁, s₂, hc, -, hv⟩ := staticChecks_passes h
  obtain ⟨hlt, k, rfl⟩ := hb
  have hk : k < m.insnsSizeInCodeUnits :=
    lt_of_le_of_lt (StrictMono.le_apply (walkPos_strictMono m)) hlt
  unfold verifyInstructions at hv
  obtain ⟨s₀, s₃, hv⟩ := verifyWalk_ok _ 0 _ _ hv k (Nat.zero_le k) (by omega) hlt
  exact ⟨w, s₁, s₀, s₃, hc, hv⟩

/-- The width walk of a method the static pass accepts. -/
theorem staticChecks_walkOk {s' : VerifierState} (h : staticChecks env m = some (true, s')) :
    ∃ w s₁, computeWidthsAndCountOps m VerifierState.init = (true, w, s₁) ∧ WalkOk m w := by
  obtain ⟨w, s₁, -, hc, -, -⟩ := staticChecks_passes h
  exact ⟨w, s₁, hc, computeWidthsAndCountOps_walk m hc⟩

/-- **The instruction walk of an accepted method ends exactly at `insns_size`, and reads no code
unit at or past it.** -/
theorem staticChecks_walk_inside {s' : VerifierState} (h : staticChecks env m = some (true, s')) :
    (∃ j, walkPos m j = m.insnsSizeInCodeUnits ∧ ∀ i < j, walkPos m i < m.insnsSizeInCodeUnits) ∧
    ∀ pc, IsBoundary m pc → ∀ i ∈ sizeUnitsRead m.insns pc, i < m.insnsSizeInCodeUnits := by
  obtain ⟨w, -, -, hw⟩ := staticChecks_walkOk h
  exact ⟨hw.ends, fun pc hb i hi => sizeUnitsRead_lt_insnsSize hw hb hi⟩

/-- **Every branch of an accepted method lands on an instruction boundary.** -/
theorem staticChecks_branch_target {s' : VerifierState} (h : staticChecks env m = some (true, s'))
    {pc : Nat} (hb : IsBoundary m pc)
    (hx : getVerifyExtraFlags (opcode m.insns pc) = kVerifyBranchTarget) :
    ∃ off c z, getBranchOffset m pc = some (off, c, z) ∧ 0 ≤ (pc + off : Int) ∧
      IsBoundary m (pc + off : Int).toNat := by
  obtain ⟨w, s₁, s₀, s₂, hc, hv⟩ := staticChecks_verifyInstruction h hb
  have hw := computeWidthsAndCountOps_walk m hc
  obtain ⟨s₃, s₄, hx'⟩ := verifyInstruction_extra hv
  rw [verifyExtraFlags_branchTarget hx, Option.some.injEq] at hx'
  obtain ⟨off, c, z, hoff, h0, -, hop⟩ := checkBranchTarget_ok (congrArg Prod.fst hx')
  exact ⟨off, c, z, hoff, h0, lengths_isOpcode_boundary hw hop⟩

/-- **Every switch of an accepted method has its table inside the code, and each of its targets
is an instruction boundary.** -/
theorem staticChecks_switch_targets {s' : VerifierState} (h : staticChecks env m = some (true, s'))
    {pc : Nat} (hb : IsBoundary m pc)
    (hx : getVerifyExtraFlags (opcode m.insns pc) = kVerifySwitchTargets) :
    0 ≤ payloadStart m pc ∧
    (payloadStart m pc).toNat + switchTargetsOffset m pc (payloadStart m pc).toNat +
      fetch16 m.insns (payloadStart m pc).toNat 1 * 2 ≤ m.insnsSizeInCodeUnits ∧
    ∀ t < fetch16 m.insns (payloadStart m pc).toNat 1,
      0 ≤ switchEntryTarget m pc (payloadStart m pc).toNat
        (switchTargetsOffset m pc (payloadStart m pc).toNat) t ∧
      IsBoundary m (switchEntryTarget m pc (payloadStart m pc).toNat
        (switchTargetsOffset m pc (payloadStart m pc).toNat) t).toNat := by
  obtain ⟨w, s₁, s₀, s₂, hc, hv⟩ := staticChecks_verifyInstruction h hb
  have hw := computeWidthsAndCountOps_walk m hc
  obtain ⟨s₃, s₄, hx'⟩ := verifyInstruction_extra hv
  rw [verifyExtraFlags_switchTargets hx, Option.some.injEq] at hx'
  have hok := checkSwitchTargets_ok hb.1 (congrArg Prod.fst hx')
  refine ⟨hok.start_nonneg, hok.table_le, fun t ht => ?_⟩
  obtain ⟨h0, -, hop⟩ := hok.targets t ht
  exact ⟨h0, lengths_isOpcode_boundary hw hop⟩

/-- **Every fill-array-data table of an accepted method starts inside the code and ends, by its
`uint32_t` size, by `insns_size`.** -/
theorem staticChecks_array_data {s' : VerifierState} (h : staticChecks env m = some (true, s'))
    {pc : Nat} (hb : IsBoundary m pc)
    (hx : getVerifyExtraFlags (opcode m.insns pc) = kVerifyArrayData) : ArrayDataOk m pc := by
  obtain ⟨w, s₁, s₀, s₂, hc, hv⟩ := staticChecks_verifyInstruction h hb
  obtain ⟨s₃, s₄, hx'⟩ := verifyInstruction_extra hv
  rw [verifyExtraFlags_arrayData hx, Option.some.injEq] at hx'
  exact checkArrayData_ok hb.1 (congrArg Prod.fst hx')

/-- **Every exception handler of an accepted method with try items starts at an instruction
boundary.** -/
theorem staticChecks_handlers {s' : VerifierState} (h : staticChecks env m = some (true, s'))
    (ht : m.triesSize ≠ 0) : ∀ a ∈ m.handlerAddrs, IsBoundary m a := by
  obtain ⟨w, s₁, s₂, hc, hs, -⟩ := staticChecks_passes h
  have hw := computeWidthsAndCountOps_walk m hc
  intro a ha
  exact lengths_isOpcode_boundary hw (scanTryCatchBlocks_handlers hs ht a ha)

end Pass

/-! ## A payload whose size wraps

`ArrayDataOk` bounds the table by its `uint32_t` size.  The true extent of an array-data payload
is `4 + ⌈width * count / 2⌉` units, and the product wraps in `uint32_t`: with width 2 and count
`2^31` the size both `CheckArrayData` and `SizeInCodeUnitsComplexOpcode` compute is 4. -/

/-- Where the payload of the fill-array-data instruction at `pc` ends, counted in unbounded
integers: `start + 4 + ⌈width * count / 2⌉`. -/
def arrayDataPayloadEnd (m : CodeItem) (pc : Nat) : Int :=
  let start := (payloadStart m pc).toNat
  payloadStart m pc + 4 + ((fetch16 m.insns start 1 * fetch32 m.insns start 2 + 1) / 2 : Nat)

/-- A method of eight code units: `fill-array-data v0, +4` at 0, `return-void` at 3, and at 4 an
array-data payload of width 2 and count `2^31`. -/
def wrappingArrayDataItem : CodeItem where
  registersSize := 1
  triesSize := 0
  insnsSizeInCodeUnits := 8
  insns := fun i => [0x0026, 0x0004, 0x0000, 0x000e, 0x0300, 0x0002, 0x0000, 0x8000].getD i 0
  insnsAddress := 0
  tries := fun _ => ⟨0, 0, 0⟩
  catchHandlerData := fun _ => 0
  insns_lt := by decide

/-- A dex file with no ids, seen from the runtime. -/
def noIdsContext : DexContext := ⟨0, 0, 0, 0, fun _ => "", false, false⟩

theorem staticChecks_accepts_wrapping_payload :
    (staticChecks noIdsContext wrappingArrayDataItem).map Prod.fst = some true ∧
    IsBoundary wrappingArrayDataItem 0 ∧
    getVerifyExtraFlags (opcode wrappingArrayDataItem.insns 0) = kVerifyArrayData ∧
    (wrappingArrayDataItem.insnsSizeInCodeUnits : Int) < arrayDataPayloadEnd wrappingArrayDataItem 0 := by
  refine ⟨by decide +kernel, ⟨by decide, 0, rfl⟩, by decide +kernel, by decide +kernel⟩

end Verifier

end Art
