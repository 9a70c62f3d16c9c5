import AndroidArt.Dex.Instruction
import AndroidArt.Dex.Leb128

/-!
# The method verifier's static pass

Model of the static half of `MethodVerifier::Verify` (`runtime/verifier/method_verifier.cc`):

* `computeWidthsAndCountOps` — the instruction walk that records each instruction's length in
  `insn_flags_` and must end exactly at `insns_size`;
* `scanTryCatchBlocks` — the try ranges (marked "in try" by stepping through the recorded
  lengths) and the exception handlers, decoded with `CatchHandlerIterator`;
* `verifyInstructions` / `verifyInstruction` — the per-instruction operand checks, among them
  `checkBranchTarget` (with `getBranchOffset`), `checkSwitchTargets` and `checkArrayData`.

Every check returns its `bool` and the updated verifier state: the instruction flags and the
hard-failure messages that `Fail(VERIFY_ERROR_BAD_CLASS_HARD)` appends.  Arithmetic follows the
C++ types: offsets are `int32_t`, sums with the `uint32_t` code offset are `uint32_t`, and the
table sizes of `CheckArrayData` and `CheckSwitchTargets` are `uint32_t`.

`InstructionFlags.length` is a `uint16_t`: an instruction longer than `2^16 - 1` code units is
recorded modulo `2^16`.  Stepping through a try range by recorded lengths can therefore meet a
zero length and never end; `scanTryCatchBlocks` returns `none` for that run.

The model is the release build: the `DCHECK`s of `CheckArrayData`, `CheckSwitchTargets`,
`ScanTryCatchBlocks` and `VerifyInstructions` are left out.
-/

set_option autoImplicit false

namespace Art

namespace Verifier

open Instruction

/-! ## `InstructionFlags`

`insn_flags_` holds one `InstructionFlags` per code unit: a `uint16_t` length, written by the
width walk only, and a `uint8_t` of flag bits, which the later passes set.  The model keeps the
two fields as two tables, the lengths being passed read-only to the passes that test
`IsOpcode()`. -/

namespace InstructionFlags

def kVisited : Nat := 0
def kChanged : Nat := 1
def kInTry : Nat := 2
def kBranchTarget : Nat := 3
def kCompileTimeInfoPoint : Nat := 4
def kReturn : Nat := 5

/-- `IsOpcode()` of the unit at `pc`. -/
def isOpcode (lengths : Nat → Nat) (pc : Nat) : Bool := lengths pc != 0

end InstructionFlags

/-- `DexFile::TryItem`. -/
structure TryItem where
  startAddr : Nat
  insnCount : Nat
  handlerOff : Nat

/-- The code item as the static pass reads it.  `insns` is the memory from `insns_` on;
`insnsAddress` is the address of `insns_`, which the alignment tests of the payload checks
read.  The code units lie in a mapped dex file, so there are fewer than `2^31` of them. -/
structure CodeItem where
  registersSize : Nat
  triesSize : Nat
  insnsSizeInCodeUnits : Nat
  insns : CodeUnits
  insnsAddress : Nat
  tries : Nat → TryItem
  catchHandlerData : Bytes
  insns_lt : insnsSizeInCodeUnits < 2 ^ 31

/-- What the static pass reads from the dex file and the runtime. -/
structure DexContext where
  stringIdsSize : Nat
  typeIdsSize : Nat
  fieldIdsSize : Nat
  methodIdsSize : Nat
  stringByTypeIdx : Nat → String
  isCompiler : Bool
  verifyToDump : Bool

/-- What `ComputeWidthsAndCountOps` records: the lengths, stored in `uint16_t`, and the
opcode counts. -/
structure Widths where
  lengths : Nat → Nat
  hasCheckCasts : Bool
  hasVirtualOrInterfaceInvokes : Bool
  newInstanceCount : Nat
  monitorEnterCount : Nat

/-- The flag bits of `insn_flags_` and the failure messages. -/
structure VerifierState where
  insnFlags : Nat → Nat
  failures : List String

namespace VerifierState

/-- A fresh verifier: `insn_flags_` value-initialised. -/
def init : VerifierState := ⟨fun _ => 0, []⟩

/-- `Fail(VERIFY_ERROR_BAD_CLASS_HARD) << msg`. -/
def fail (s : VerifierState) (msg : String) : VerifierState :=
  { s with failures := s.failures ++ [msg] }

/-- Set flag `bit` of the unit at `pc` in the `uint8_t` flag byte. -/
def setFlag (s : VerifierState) (pc bit : Nat) : VerifierState :=
  { s with insnFlags := Function.update s.insnFlags pc ((s.insnFlags pc ||| (1 <<< bit)) % 2 ^ 8) }

def setInTry (s : VerifierState) (pc : Nat) : VerifierState :=
  s.setFlag pc InstructionFlags.kInTry

def setBranchTarget (s : VerifierState) (pc : Nat) : VerifierState :=
  s.setFlag pc InstructionFlags.kBranchTarget

def setCompileTimeInfoPoint (s : VerifierState) (pc : Nat) : VerifierState :=
  s.setFlag pc InstructionFlags.kCompileTimeInfoPoint

def setCompileTimeInfoPointAndReturn (s : VerifierState) (pc : Nat) : VerifierState :=
  (s.setFlag pc InstructionFlags.kCompileTimeInfoPoint).setFlag pc InstructionFlags.kReturn

end VerifierState

section Checks

variable (env : DexContext) (m : CodeItem)

/-! ## Register, index and vararg checks -/

def checkRegisterIndex (idx : Nat) (s : VerifierState) : Bool × VerifierState :=
  if idx ≥ m.registersSize then
    (false, s.fail ("register index out of range (" ++ toString idx ++ " >= " ++
      toString m.registersSize ++ ")"))
  else (true, s)

/-- `CheckWideRegisterIndex`: `idx + 1` is computed in `uint32_t`. -/
def checkWideRegisterIndex (idx : Nat) (s : VerifierState) : Bool × VerifierState :=
  if Word.toUnsigned 32 (idx + 1) ≥ m.registersSize then
    (false, s.fail ("wide register index out of range (" ++ toString idx ++ "+1 >= " ++
      toString m.registersSize ++ ")"))
  else (true, s)

/-- The common shape of `CheckFieldIndex`, `CheckMethodIndex`, `CheckStringIndex` and
`CheckTypeIndex`: an index below a count of the dex header. -/
def checkIndexBelow (what : String) (limit idx : Nat) (s : VerifierState) : Bool × VerifierState :=
  if idx ≥ limit then
    (false, s.fail ("bad " ++ what ++ " index " ++ toString idx ++ " (max " ++ toString limit ++ ")"))
  else (true, s)

def checkFieldIndex (idx : Nat) (s : VerifierState) : Bool × VerifierState :=
  checkIndexBelow "field" env.fieldIdsSize idx s

def checkMethodIndex (idx : Nat) (s : VerifierState) : Bool × VerifierState :=
  checkIndexBelow "method" env.methodIdsSize idx s

def checkStringIndex (idx : Nat) (s : VerifierState) : Bool × VerifierState :=
  checkIndexBelow "string" env.stringIdsSize idx s

def checkTypeIndex (idx : Nat) (s : VerifierState) : Bool × VerifierState :=
  checkIndexBelow "type" env.typeIdsSize idx s

/-- `CheckNewInstance`: a type index whose descriptor names a class. -/
def checkNewInstance (idx : Nat) (s : VerifierState) : Bool × VerifierState :=
  if idx ≥ env.typeIdsSize then
    (false, s.fail ("bad type index " ++ toString idx ++ " (max " ++ toString env.typeIdsSize ++ ")"))
  else if (env.stringByTypeIdx idx).toList.head? != some 'L' then
    (false, s.fail ("can't call new-instance on type '" ++ env.stringByTypeIdx idx ++ "'"))
  else (true, s)

/-- `CheckNewArray`: an array descriptor of at most 255 dimensions. -/
def checkNewArray (idx : Nat) (s : VerifierState) : Bool × VerifierState :=
  if idx ≥ env.typeIdsSize then
    (false, s.fail ("bad type index " ++ toString idx ++ " (max " ++ toString env.typeIdsSize ++ ")"))
  else
    let descriptor := env.stringByTypeIdx idx
    let bracketCount := (descriptor.toList.takeWhile (· == '[')).length
    if bracketCount = 0 then
      (false, s.fail ("can't new-array class '" ++ descriptor ++ "' (not an array)"))
    else if bracketCount > 255 then
      (false, s.fail ("can't new-array class '" ++ descriptor ++ "' (exceeds limit)"))
    else (true, s)

/-- `CheckVarArgRegs`. -/
def checkVarArgRegs (vA : Nat) (args : List Nat) (s : VerifierState) : Bool × VerifierState :=
  if vA > kMaxVarArgRegs then
    (false, s.fail ("invalid arg count (" ++ toString vA ++ ") in non-range invoke)"))
  else
    match (args.take vA).find? (· ≥ m.registersSize) with
    | some a => (false, s.fail ("invalid reg index (" ++ toString a ++
        ") in non-range invoke (>= " ++ toString m.registersSize ++ ")"))
    | none => (true, s)

/-- `CheckVarArgRangeRegs`: `vA + vC` cannot overflow, both being at most 16 bits. -/
def checkVarArgRangeRegs (vA vC : Nat) (s : VerifierState) : Bool × VerifierState :=
  if vA + vC > m.registersSize then
    (false, s.fail ("invalid reg index " ++ toString vA ++ "+" ++ toString vC ++
      " in range invoke (> " ++ toString m.registersSize ++ ")"))
  else (true, s)

/-! ## Branch, switch and array-data checks -/

/-- `cur_offset + offset`, the offset being `insns[1] | (((int32_t) insns[2]) << 16)`: where the
fill-array-data or switch instruction at `curOffset` finds its table. -/
def payloadStart (curOffset : Nat) : Int :=
  curOffset + Word.toSigned 32 (fetch32 m.insns curOffset 1)

/-- `table_size` of `CheckArrayData` for a table at `start`:
`4 + (value_width * value_count + 1) / 2`, all in `uint32_t`. -/
def arrayDataTableSize (start : Nat) : Nat :=
  4 + Word.toUnsigned 32 (Word.toUnsigned 32 (fetch16 m.insns start 1 * fetch32 m.insns start 2) + 1) / 2

/-- `CheckArrayData` for the fill-array-data instruction at `curOffset`. -/
def checkArrayData (curOffset : Nat) (s : VerifierState) : Bool × VerifierState :=
  let insnCount := m.insnsSizeInCodeUnits
  let arrayDataOffset := Word.toSigned 32 (fetch32 m.insns curOffset 1)
  let start := payloadStart m curOffset
  if Word.toSigned 32 start < 0 ∨ Word.toUnsigned 32 (Word.toUnsigned 32 start + 2) ≥ insnCount then
    (false, s.fail ("invalid array data start: at " ++ toString curOffset ++ ", data offset " ++
      toString arrayDataOffset ++ ", count " ++ toString insnCount))
  else if (m.insnsAddress + 2 * start.toNat) % 4 ≠ 0 then
    (false, s.fail ("unaligned array data table: at " ++ toString curOffset ++ ", data offset " ++
      toString arrayDataOffset))
  else if Word.toUnsigned 32 (start + arrayDataTableSize m start.toNat) > insnCount then
    (false, s.fail ("invalid array data end: at " ++ toString curOffset ++ ", data offset " ++
      toString arrayDataOffset ++ ", end " ++
      toString (Word.toUnsigned 32 (start + arrayDataTableSize m start.toNat)) ++
      ", count " ++ toString insnCount))
  else (true, s)

/-- `GetBranchOffset`: the offset, whether the branch is conditional, and whether a zero
offset is allowed; `none` for an instruction that is not a branch. -/
def getBranchOffset (curOffset : Nat) : Option (Int × Bool × Bool) :=
  let insn := fetch16 m.insns curOffset 0
  let op := insn &&& 0xff
  if op = GOTO then some (Word.toSigned 16 insn >>> (8 : Nat), false, false)
  else if op = GOTO_32 then some (Word.toSigned 32 (fetch32 m.insns curOffset 1), false, true)
  else if op = GOTO_16 then some (Word.toSigned 16 (fetch16 m.insns curOffset 1), false, false)
  else if op ∈ [IF_EQ, IF_NE, IF_LT, IF_GE, IF_GT, IF_LE, IF_EQZ, IF_NEZ, IF_LTZ, IF_GEZ, IF_GTZ,
      IF_LEZ] then
    some (Word.toSigned 16 (fetch16 m.insns curOffset 1), true, false)
  else none

/-- `CheckBranchTarget`. -/
def checkBranchTarget (lengths : Nat → Nat) (curOffset : Nat) (s : VerifierState) :
    Bool × VerifierState :=
  match getBranchOffset m curOffset with
  | none => (false, s)
  | some (offset, _, selfOkay) =>
    if !selfOkay ∧ offset = 0 then
      (false, s.fail ("branch offset of zero not allowed at " ++ toString curOffset))
    -- the 64-bit sum differs from the `uint32_t` one exactly when the latter wrapped
    else if (curOffset + offset : Int) ≠ Word.toUnsigned 32 (curOffset + offset) then
      (false, s.fail ("branch target overflow " ++ toString curOffset ++ " +" ++ toString offset))
    else
      let absOffset := Word.toSigned 32 (curOffset + offset)
      if absOffset < 0 ∨ Word.toUnsigned 32 absOffset ≥ m.insnsSizeInCodeUnits ∨
          !InstructionFlags.isOpcode lengths absOffset.toNat then
        (false, s.fail ("invalid branch target " ++ toString offset ++ " (-> " ++
          toString absOffset ++ ") at " ++ toString curOffset))
      else (true, s.setBranchTarget absOffset.toNat)

/-- The key check of a sparse switch: the `count - 1` keys after the first ascend strictly. -/
def checkSparseKeys (switchStart keysOffset : Nat) :
    Nat → Int → Nat → VerifierState → Bool × VerifierState
  | 0, _, _, s => (true, s)
  | n + 1, lastKey, targ, s =>
    let key := Word.toSigned 32 (fetch32 m.insns switchStart (keysOffset + targ * 2))
    if key ≤ lastKey then
      (false, s.fail ("invalid packed switch: last key=" ++ toString lastKey ++ ", this=" ++
        toString key))
    else checkSparseKeys switchStart keysOffset n key (targ + 1) s

/-- The target loop of `CheckSwitchTargets`, from target `targ` for `n` more targets. -/
def checkSwitchTargetList (lengths : Nat → Nat) (curOffset switchStart targetsOffset : Nat) :
    Nat → Nat → VerifierState → Bool × VerifierState
  | 0, _, s => (true, s)
  | n + 1, targ, s =>
    let offset := Word.toSigned 32 (fetch32 m.insns switchStart (targetsOffset + targ * 2))
    let absOffset := Word.toSigned 32 (curOffset + offset)
    if absOffset < 0 ∨ absOffset ≥ m.insnsSizeInCodeUnits ∨
        !InstructionFlags.isOpcode lengths absOffset.toNat then
      (false, s.fail ("invalid switch target " ++ toString offset ++ " (-> " ++
        toString absOffset ++ ") at " ++ toString curOffset ++ "[" ++ toString targ ++ "]"))
    else
      checkSwitchTargetList lengths curOffset switchStart targetsOffset n (targ + 1)
        (s.setBranchTarget absOffset.toNat)

/-- `targets_offset` of `CheckSwitchTargets`.  Packed: 0=sig, 1=count, 2/3=firstKey; sparse:
0=sig, 1=count, 2..count*2 = keys. -/
def switchTargetsOffset (curOffset switchStart : Nat) : Nat :=
  if opcode m.insns curOffset = PACKED_SWITCH then 4 else 2 + 2 * fetch16 m.insns switchStart 1

/-- `expected_signature` of `CheckSwitchTargets`. -/
def switchExpectedSignature (curOffset : Nat) : Nat :=
  if opcode m.insns curOffset = PACKED_SWITCH then kPackedSwitchSignature else kSparseSwitchSignature

/-- The key check of `CheckSwitchTargets`, made for a sparse switch of more than one entry. -/
def checkSwitchKeys (curOffset switchStart : Nat) (s : VerifierState) : Bool × VerifierState :=
  let switchCount := fetch16 m.insns switchStart 1
  if opcode m.insns curOffset ≠ PACKED_SWITCH ∧ switchCount > 1 then
    checkSparseKeys m switchStart 2 (switchCount - 1) (Word.toSigned 32 (fetch32 m.insns switchStart 2)) 1 s
  else (true, s)

/-- `CheckSwitchTargets` for the packed- or sparse-switch instruction at `curOffset`. -/
def checkSwitchTargets (lengths : Nat → Nat) (curOffset : Nat) (s : VerifierState) :
    Bool × VerifierState :=
  let insnCount := m.insnsSizeInCodeUnits
  let switchOffset := Word.toSigned 32 (fetch32 m.insns curOffset 1)
  let start := payloadStart m curOffset
  if Word.toSigned 32 start < 0 ∨ Word.toUnsigned 32 (Word.toUnsigned 32 start + 2) ≥ insnCount then
    (false, s.fail ("invalid switch start: at " ++ toString curOffset ++ ", switch offset " ++
      toString switchOffset ++ ", count " ++ toString insnCount))
  else if (m.insnsAddress + 2 * start.toNat) % 4 ≠ 0 then
    (false, s.fail ("unaligned switch table: at " ++ toString curOffset ++ ", switch offset " ++
      toString switchOffset))
  else
    let switchStart := start.toNat
    let switchCount := fetch16 m.insns switchStart 1
    let targetsOffset := switchTargetsOffset m curOffset switchStart
    let expectedSignature := switchExpectedSignature m curOffset
    let tableSize := targetsOffset + switchCount * 2
    if fetch16 m.insns switchStart 0 ≠ expectedSignature then
      (false, s.fail ("wrong signature for switch table (" ++ toString (fetch16 m.insns switchStart 0) ++
        ", wanted " ++ toString expectedSignature ++ ")"))
    else if Word.toUnsigned 32 (start + tableSize) > insnCount then
      (false, s.fail ("invalid switch end: at " ++ toString curOffset ++ ", switch offset " ++
        toString switchOffset ++ ", end " ++ toString (Word.toUnsigned 32 (start + tableSize)) ++
        ", count " ++ toString insnCount))
    else
      match checkSwitchKeys m curOffset switchStart s with
      | (false, s) => (false, s)
      | (true, s) => checkSwitchTargetList m lengths curOffset switchStart targetsOffset switchCount 0 s

/-! ## `VerifyInstruction` -/

/-- The check selected by `GetVerifyTypeArgumentA`. -/
def verifyArgumentA (pc : Nat) (s : VerifierState) : Bool × VerifierState :=
  let a := getVerifyTypeArgumentA (opcode m.insns pc)
  let vA := Word.toUnsigned 32 (vRegA m.insns pc)
  if a = kVerifyRegA then checkRegisterIndex m vA s
  else if a = kVerifyRegAWide then checkWideRegisterIndex m vA s
  else (true, s)

/-- The check selected by `GetVerifyTypeArgumentB`. -/
def verifyArgumentB (pc : Nat) (s : VerifierState) : Bool × VerifierState :=
  let b := getVerifyTypeArgumentB (opcode m.insns pc)
  let vB := Word.toUnsigned 32 (vRegB m.insns pc)
  if b = kVerifyRegB then checkRegisterIndex m vB s
  else if b = kVerifyRegBField then checkFieldIndex env vB s
  else if b = kVerifyRegBMethod then checkMethodIndex env vB s
  else if b = kVerifyRegBNewInstance then checkNewInstance env vB s
  else if b = kVerifyRegBString then checkStringIndex env vB s
  else if b = kVerifyRegBType then checkTypeIndex env vB s
  else if b = kVerifyRegBWide then checkWideRegisterIndex m vB s
  else (true, s)

/-- The check selected by `GetVerifyTypeArgumentC`. -/
def verifyArgumentC (pc : Nat) (s : VerifierState) : Bool × VerifierState :=
  let c := getVerifyTypeArgumentC (opcode m.insns pc)
  let vC := Word.toUnsigned 32 (vRegC m.insns pc)
  if c = kVerifyRegC then checkRegisterIndex m vC s
  else if c = kVerifyRegCField then checkFieldIndex env vC s
  else if c = kVerifyRegCNewArray then checkNewArray env vC s
  else if c = kVerifyRegCType then checkTypeIndex env vC s
  else if c = kVerifyRegCWide then checkWideRegisterIndex m vC s
  else (true, s)

/-- The check selected by `GetVerifyExtraFlags`.  A non-zero vararg count with a zero `vA`
returns at once, before the runtime-only test. -/
def verifyExtraFlags (lengths : Nat → Nat) (pc : Nat) (s : VerifierState) :
    Option (Bool × VerifierState) :=
  let op := opcode m.insns pc
  let x := getVerifyExtraFlags op
  if x = kVerifyArrayData then some (checkArrayData m pc s)
  else if x = kVerifyBranchTarget then some (checkBranchTarget m lengths pc s)
  else if x = kVerifySwitchTargets then some (checkSwitchTargets m lengths pc s)
  else if x = kVerifyVarArg ∨ x = kVerifyVarArgNonZero then
    if x = kVerifyVarArgNonZero ∧ vRegA m.insns pc ≤ 0 then none
    else some (checkVarArgRegs m (Word.toUnsigned 32 (vRegA m.insns pc)) (getVarArgs m.insns pc) s)
  else if x = kVerifyVarArgRange ∨ x = kVerifyVarArgRangeNonZero then
    if x = kVerifyVarArgRangeNonZero ∧ vRegA m.insns pc ≤ 0 then none
    else some (checkVarArgRangeRegs m (Word.toUnsigned 32 (vRegA m.insns pc))
      (Word.toUnsigned 32 (vRegC m.insns pc)) s)
  else if x = kVerifyError then
    some (false, s.fail ("unexpected opcode " ++ name op))
  else some (true, s)

/-- `VerifyInstruction` for the instruction at `pc`: the A, B, C and extra checks in turn, each
run only while the previous ones passed (`result = result && Check...`), then the runtime-only
test, which fails the instruction whatever the result so far. -/
def verifyInstruction (lengths : Nat → Nat) (pc : Nat) (s : VerifierState) :
    Bool × VerifierState :=
  let (r, s) := verifyArgumentA m pc s
  let (r, s) := if r then verifyArgumentB env m pc s else (r, s)
  let (r, s) := if r then verifyArgumentC env m pc s else (r, s)
  match (if r then verifyExtraFlags m lengths pc s else some (r, s)) with
  | none =>
    let arg := if getVerifyExtraFlags (opcode m.insns pc) = kVerifyVarArgNonZero then "non-range"
      else "range"
    (false, s.fail ("invalid arg count (" ++ toString (vRegA m.insns pc) ++ ") in " ++ arg ++
      " invoke"))
  | some (r, s) =>
    if getVerifyIsRuntimeOnly (opcode m.insns pc) ∧ env.isCompiler ∧ !env.verifyToDump then
      (false, s.fail ("opcode only expected at runtime " ++ name (opcode m.insns pc)))
    else (r, s)

/-! ## The three passes -/

/-- Record the opcodes `ComputeWidthsAndCountOps` counts. -/
def countOp (op : Nat) (w : Widths) : Widths :=
  if op = APUT_OBJECT ∨ op = CHECK_CAST then { w with hasCheckCasts := true }
  else if op = INVOKE_VIRTUAL ∨ op = INVOKE_VIRTUAL_RANGE ∨ op = INVOKE_INTERFACE ∨
      op = INVOKE_INTERFACE_RANGE then
    { w with hasVirtualOrInterfaceInvokes := true }
  else if op = MONITOR_ENTER then { w with monitorEnterCount := w.monitorEnterCount + 1 }
  else if op = NEW_INSTANCE then { w with newInstanceCount := w.newInstanceCount + 1 }
  else w

/-- The `while (dex_pc < insns_size)` walk of `ComputeWidthsAndCountOps`, for at most `fuel`
steps: the final `dex_pc` and what was recorded.  Each step advances by at least one unit, so
`insns_size` steps reach the end. -/
def widthsWalk : Nat → Nat → Widths → Nat × Widths
  | 0, dexPc, w => (dexPc, w)
  | fuel + 1, dexPc, w =>
    if dexPc < m.insnsSizeInCodeUnits then
      let instSize := sizeInCodeUnits m.insns dexPc
      let w := countOp (opcode m.insns dexPc) w
      -- `SetLengthInCodeUnits`: `length_` is a `uint16_t`
      let w := { w with lengths := Function.update w.lengths dexPc (instSize % 2 ^ 16) }
      widthsWalk fuel (dexPc + instSize) w
    else (dexPc, w)

/-- `ComputeWidthsAndCountOps`, from a fresh `insn_flags_`. -/
def computeWidthsAndCountOps (s : VerifierState) : Bool × Widths × VerifierState :=
  let (dexPc, w) := widthsWalk m m.insnsSizeInCodeUnits 0 ⟨fun _ => 0, false, false, 0, 0⟩
  if dexPc ≠ m.insnsSizeInCodeUnits then
    (false, w, s.fail ("code did not end where expected (" ++ toString dexPc ++ " vs. " ++
      toString m.insnsSizeInCodeUnits ++ ")"))
  else (true, w, s)

/-- The `SetInTry` loop over one try range, stepping by the recorded lengths, for at most
`fuel` steps; `none` when a recorded length is zero, where the C++ loop never ends. -/
def markInTry (lengths : Nat → Nat) (endAddr : Nat) : Nat → Nat → VerifierState → Option VerifierState
  | 0, dexPc, s => if dexPc < endAddr then none else some s
  | fuel + 1, dexPc, s =>
    if dexPc < endAddr then
      if lengths dexPc = 0 then none
      else markInTry lengths endAddr fuel (dexPc + lengths dexPc) (s.setInTry dexPc)
    else some s

/-- The try-item loop of `ScanTryCatchBlocks`, from try item `idx` for `n` more items. -/
def scanTries (lengths : Nat → Nat) : Nat → Nat → VerifierState → Option (Bool × VerifierState)
  | 0, _, s => some (true, s)
  | n + 1, idx, s =>
    let insnsSize := m.insnsSizeInCodeUnits
    let tryItem := m.tries idx
    let start := tryItem.startAddr
    let endAddr := Word.toUnsigned 32 (start + tryItem.insnCount)
    if start ≥ endAddr ∨ start ≥ insnsSize ∨ endAddr > insnsSize then
      some (false, s.fail ("bad exception entry: startAddr=" ++ toString start ++ " endAddr=" ++
        toString endAddr ++ " (size=" ++ toString insnsSize ++ ")"))
    else if !InstructionFlags.isOpcode lengths start then
      some (false, s.fail ("'try' block starts inside an instruction (" ++ toString start ++ ")"))
    else
      match markInTry lengths endAddr endAddr start s with
      | none => none
      | some s => scanTries lengths n (idx + 1) s

/-- Check and mark one exception handler address. -/
def checkHandlerAddress (lengths : Nat → Nat) (addr : Nat) (s : VerifierState) :
    Bool × VerifierState :=
  if !InstructionFlags.isOpcode lengths addr then
    (false, s.fail ("exception handler starts at bad address (" ++ toString addr ++ ")"))
  else (true, s.setBranchTarget addr)

/-- The handlers of one `CatchHandlerIterator`, from the entry at `p`: `n` typed entries, then
the catch-all entry when there is one.  The type index is consumed; resolving it has no effect
on the static pass. -/
def scanHandlerEntries (lengths : Nat → Nat) (catchAll : Bool) :
    Nat → Nat → VerifierState → Bool × Nat × VerifierState
  | 0, p, s =>
    if catchAll then
      let (addr, p) := Leb128.decodeUnsignedLeb128 m.catchHandlerData p
      let (ok, s) := checkHandlerAddress lengths addr s
      (ok, p, s)
    else (true, p, s)
  | n + 1, p, s =>
    let (_, p) := Leb128.decodeUnsignedLeb128 m.catchHandlerData p
    let (addr, p) := Leb128.decodeUnsignedLeb128 m.catchHandlerData p
    match checkHandlerAddress lengths addr s with
    | (false, s) => (false, p, s)
    | (true, s) => scanHandlerEntries lengths catchAll n p s

/-- The handler-list loop of `ScanTryCatchBlocks`: `n` more lists from the pointer `p`.  A list
starts with a signed count: non-positive means `-count` typed entries and a catch-all entry
(the negation is `int32_t`, so `INT32_MIN` stays negative and counts no typed entry). -/
def scanHandlerLists (lengths : Nat → Nat) : Nat → Nat → VerifierState → Bool × VerifierState
  | 0, _, s => (true, s)
  | n + 1, p, s =>
    let (size, p) := Leb128.decodeSignedLeb128 m.catchHandlerData p
    let catchAll := decide (size ≤ 0)
    let remaining := if size ≤ 0 then Word.toSigned 32 (-size) else size
    match scanHandlerEntries m lengths catchAll remaining.toNat p s with
    | (false, _, s) => (false, s)
    | (true, p, s) => scanHandlerLists lengths n p s

/-- `ScanTryCatchBlocks`; `none` when marking a try range never ends. -/
def scanTryCatchBlocks (lengths : Nat → Nat) (s : VerifierState) : Option (Bool × VerifierState) :=
  if m.triesSize = 0 then some (true, s) else
  match scanTries m lengths m.triesSize 0 s with
  | none => none
  | some (false, s) => some (false, s)
  | some (true, s) =>
    let (handlersSize, p) := Leb128.decodeUnsignedLeb128 m.catchHandlerData 0
    some (scanHandlerLists m lengths handlersSize p s)

/-- The flags `VerifyInstructions` sets on an instruction that passed. -/
def markInfoPoint (pc : Nat) (s : VerifierState) : VerifierState :=
  if isBranch m.insns pc ∨ isSwitch m.insns pc ∨ isThrow m.insns pc then s.setCompileTimeInfoPoint pc
  else if isReturn m.insns pc then s.setCompileTimeInfoPointAndReturn pc
  else s

/-- The loop of `VerifyInstructions` from `dexPc`, for at most `fuel` instructions. -/
def verifyWalk (lengths : Nat → Nat) : Nat → Nat → VerifierState → Bool × VerifierState
  | 0, _, s => (true, s)
  | fuel + 1, dexPc, s =>
    if dexPc < m.insnsSizeInCodeUnits then
      match verifyInstruction env m lengths dexPc s with
      | (false, s) => (false, s)
      | (true, s) => verifyWalk lengths fuel (dexPc + sizeInCodeUnits m.insns dexPc) (markInfoPoint m dexPc s)
    else (true, s)

/-- `VerifyInstructions`. -/
def verifyInstructions (lengths : Nat → Nat) (s : VerifierState) : Bool × VerifierState :=
  verifyWalk env m lengths m.insnsSizeInCodeUnits 0 ((s.setBranchTarget 0).setCompileTimeInfoPoint 0)

/-- The static pass of `MethodVerifier::Verify`:
`ComputeWidthsAndCountOps() && ScanTryCatchBlocks() && VerifyInstructions()`, from a fresh
verifier.  `none` is a run that does not terminate. -/
def staticChecks : Option (Bool × VerifierState) :=
  match computeWidthsAndCountOps m VerifierState.init with
  | (false, _, s) => some (false, s)
  | (true, w, s) =>
    match scanTryCatchBlocks m w.lengths s with
    | none => none
    | some (false, s) => some (false, s)
    | some (true, s) => some (verifyInstructions env m w.lengths s)

end Checks

end Verifier

end Art
