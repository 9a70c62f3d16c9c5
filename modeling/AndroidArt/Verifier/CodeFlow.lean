import AndroidArt.Verifier.StaticChecks
import AndroidArt.Verifier.RegisterLine
import AndroidArt.Dex.Lookup

/-!
# The code-flow pass of the method verifier

Model of `MethodVerifier::VerifyCodeFlow` (`runtime/verifier/method_verifier.cc`) and of what it
runs: `CodeFlowVerifyMethod`, the loop over the instructions whose "changed" flag is set;
`CodeFlowVerifyInstruction`, which applies one instruction to the work line and hands the result
to its successors; and `UpdateRegisters`, which copies a line into an instruction reached for the
first time and merges it into the line already there otherwise.  `verify` is
`MethodVerifier::Verify`: the static pass of `AndroidArt.Verifier.StaticChecks`, then this one.

`reg_table_` is built by `Init(kTrackCompilerInterestPoints, ...)`: an instruction has a line
when it is a branch target or a compile-time info point (a branch, switch, throwing instruction
or return).  At any other instruction the pass works on the line carried over from the
instruction before.

The instructions modelled are the moves of one and two registers, the constants, `monitor-enter`,
`monitor-exit`, the gotos, the switches, the compares and the conditional branches, the unary,
binary and literal arithmetic, the unused opcodes and `return-void` outside constructors.  The
instructions on primitive values ask the register types for their primitive part
(`RegTypes.primitives`) and are not modelled without one.  Control goes to the branch target, to
the targets of a switch (`updateSwitchTargets`), to the exception handlers of an instruction that
can throw in a try block (`handleExceptionEdges`, with the line from before the instruction, the
source's `saved_line_`) and to the next instruction.

The pass throws `unmodelled` at the instructions that resolve classes, fields or methods or read
the result register, at the returns of a value (they need the method's return type), at
`return-void` in a constructor, at the instance-of peephole of `if-eqz`, and where a typed
handler would have to be resolved to tell whether it catches everything.  The result register
(`SetResultTypeToUnknown`) and `have_pending_runtime_throw_failure_` play no part for the modelled
instructions and are left out.  Messages are the source's without the `PrettyMethod` prefix; an
instruction is dumped by its name.  The loop runs on fuel: `noResult` is a run that used it up.

The model is the release build: the `DCHECK_NE(failures_.size(), 0U)`s of `VerifyCodeFlow` are
left out.
-/

set_option autoImplicit false

namespace Art

namespace Verifier

open Instruction

namespace InstructionFlags

/-- `(flags_ & (1 << bit)) != 0`. -/
def test (flags bit : Nat) : Bool := flags &&& 1 <<< bit != 0

def isVisited (flags : Nat) : Bool := test flags kVisited
def isChanged (flags : Nat) : Bool := test flags kChanged
def isInTry (flags : Nat) : Bool := test flags kInTry
def isBranchTarget (flags : Nat) : Bool := test flags kBranchTarget
def isCompileTimeInfoPoint (flags : Nat) : Bool := test flags kCompileTimeInfoPoint
def isReturn (flags : Nat) : Bool := test flags kReturn

/-- `IsVisitedOrChanged()`. -/
def isVisitedOrChanged (flags : Nat) : Bool := isVisited flags || isChanged flags

/-- `flags & ~mask`. -/
def clearBits (flags mask : Nat) : Nat := flags - (flags &&& mask)

end InstructionFlags

/-- What the code-flow pass knows of the method besides its code. -/
structure MethodEnv (τ : Type) where
  types : RegTypes τ
  /-- The types `SetTypesFromSignature` gives the ins, which are the last registers. -/
  argTypes : List τ
  /-- `IsConstructor()`. -/
  isConstructor : Bool
  /-- `GetMethodReturnType().IsConflict()`, which holds of a `void` method. -/
  returnsVoid : Bool
  /-- `allow_soft_failures_`. -/
  allowSoftFailures : Bool
  /-- `DexFileVersion()`. -/
  dexFileVersion : Nat

/-- The verifier during the code-flow pass. -/
structure FlowState (τ : Type) where
  /-- The flag bytes of `insn_flags_`. -/
  insnFlags : Nat → Nat
  /-- `reg_table_`: the line of each instruction that has one. -/
  regTable : Nat → Option (RegisterLine τ)
  /-- `work_line_`. -/
  workLine : RegisterLine τ
  /-- `work_insn_idx_`. -/
  workInsnIdx : Nat
  log : Log

/-- Why the model gives no verdict. -/
inductive FlowError where
  | unmodelled (what : String)
  /-- The source runs without end, or the model's fuel ran out. -/
  | noResult
  deriving DecidableEq, Repr

abbrev FlowM (τ : Type) := StateT (FlowState τ) (Except FlowError)

namespace FlowState

variable {τ : Type}

def fail (kind : FailureKind) (msg : String) (s : FlowState τ) : FlowState τ :=
  { s with log := s.log.fail kind msg }

/-- Set the flag bit `bit` of the instruction at `pc`. -/
def setFlag (pc bit : Nat) (s : FlowState τ) : FlowState τ :=
  { s with insnFlags := Function.update s.insnFlags pc ((s.insnFlags pc ||| 1 <<< bit) % 2 ^ 8) }

def setChanged (pc : Nat) (s : FlowState τ) : FlowState τ := s.setFlag pc InstructionFlags.kChanged

def setVisited (pc : Nat) (s : FlowState τ) : FlowState τ := s.setFlag pc InstructionFlags.kVisited

def clearChanged (pc : Nat) (s : FlowState τ) : FlowState τ :=
  { s with
    insnFlags := Function.update s.insnFlags pc
      (InstructionFlags.clearBits (s.insnFlags pc) (1 <<< InstructionFlags.kChanged)) }

/-- Write the line of the instruction at `pc`. -/
def setLine (pc : Nat) (line : RegisterLine τ) (s : FlowState τ) : FlowState τ :=
  { s with regTable := Function.update s.regTable pc (some line) }

end FlowState

section CodeFlow

variable {τ : Type} [DecidableEq τ] (env : MethodEnv τ) (m : CodeItem) (lengths : Nat → Nat)

/-- `CheckNotMoveException(insns, insn_idx)`: only an exception edge may lead to a
`move-exception`. -/
def checkNotMoveException (insnIdx : Nat) : FlowM τ Bool := do
  if fetch16 m.insns insnIdx 0 &&& 0xff = MOVE_EXCEPTION then
    modify (·.fail .hard "invalid use of move-exception")
    return false
  return true

/-- The line a return at `pc` is reached with, made of `l`: the registers it does not return are
dead and become conflicts. -/
def returnLine (pc : Nat) (l : RegisterLine τ) : RegisterLine τ :=
  let op := opcode m.insns pc
  if op = RETURN_VOID ∨ op = RETURN_VOID_BARRIER then l.markAllRegistersAsConflicts env.types
  else if op = RETURN_WIDE then
    l.markAllRegistersAsConflictsExceptWide env.types (instAA m.insns pc)
  else l.markAllRegistersAsConflictsExcept env.types (instAA m.insns pc)

/-- `UpdateRegisters(next_insn, merge_line, update_merge_line)`: whether verification goes on,
and the merge line, which becomes the target's merged line when `update_merge_line` is set and a
register type changed.  Only an instruction reached for the first time has its monitor stack
checked, and only when it is a return. -/
def updateRegisters (nextInsn : Nat) (mergeLine : RegisterLine τ) (updateMergeLine : Bool) :
    FlowM τ (Bool × RegisterLine τ) := do
  let s ← get
  let some targetLine := s.regTable nextInsn
    | throw (.unmodelled "an instruction without a register line as a target")
  if !InstructionFlags.isVisitedOrChanged (s.insnFlags nextInsn) then
    -- nothing to merge: the line is copied, which is how a register leaves "undefined"
    if !InstructionFlags.isReturn (s.insnFlags nextInsn) then
      set (s.setLine nextInsn mergeLine)
    else
      let (ok, log) := mergeLine.verifyMonitorStackEmpty s.log
      if !ok then
        set { s with log := log }
        return (false, mergeLine)
      let op := opcode m.insns nextInsn
      let target :=
        if op = RETURN_VOID ∨ op = RETURN_VOID_BARRIER then
          targetLine.markAllRegistersAsConflicts env.types
        else if op = RETURN_WIDE then
          mergeLine.markAllRegistersAsConflictsExceptWide env.types (instAA m.insns nextInsn)
        else mergeLine.markAllRegistersAsConflictsExcept env.types (instAA m.insns nextInsn)
      set (s.setLine nextInsn target)
    modify (·.setChanged nextInsn)
    return (true, mergeLine)
  else
    let (changed, target, log) := targetLine.mergeRegisters env.types mergeLine s.log
    set { s.setLine nextInsn target with log := log }
    if log.havePendingHardFailure then return (false, mergeLine)
    if changed then modify (·.setChanged nextInsn)
    return (true, if updateMergeLine && changed then target else mergeLine)

/-- The search of `if-eqz` for the instruction before it: down from `idx`, the first position
holding an opcode, or `0`. -/
def findPrevOpcode : Nat → Nat
  | 0 => 0
  | idx + 1 => if InstructionFlags.isOpcode lengths (idx + 1) then idx + 1 else findPrevOpcode idx

/-- The `if-eqz` / `if-nez` case of the `switch`: the operand must be a reference or integral,
and the instance-of peephole is looked for. -/
def ifEqzNez (flags : Nat → Nat) (pc : Nat) (l : RegisterLine τ) (log : Log) :
    Except FlowError (RegisterLine τ × Log) := do
  let regType := l.getRegisterType env.types (instAA m.insns pc)
  let log := if !env.types.isReferenceTypes regType && !env.types.isIntegralTypes regType then
      log.fail .hard ("type " ++ env.types.dump regType ++ " unexpected as arg to if-eqz/if-nez")
    else log
  if pc = 0 then return (l, log)
  let instanceOfIdx := findPrevOpcode lengths (pc - 1)
  if !InstructionFlags.isOpcode lengths instanceOfIdx then
    return (l, log.fail .hard ("Unable to get previous instruction of if-eqz/if-nez for work index " ++
      toString pc))
  if !InstructionFlags.isBranchTarget (flags pc) && opcode m.insns instanceOfIdx = INSTANCE_OF &&
      instAA m.insns pc = instA m.insns instanceOfIdx &&
      instA m.insns instanceOfIdx != instB m.insns instanceOfIdx then
    throw (.unmodelled "the instance-of peephole")
  return (l, log)

/-! ### Instructions on primitive values -/

/-- `DetermineCat1Constant(value, precise)`: a precise constant, or the imprecise constant of the
smallest range that holds the value. -/
def determineCat1Constant (P : PrimitiveTypes τ) (value : Int32) (precise : Bool) : τ :=
  if precise then P.fromCat1Const value true
  else if value < -32768 then P.intConstant
  else if value < -128 then P.shortConstant
  else if value < 0 then P.byteConstant
  else if value = 0 then P.zero
  else if value = 1 then P.one
  else if value < 128 then P.posByteConstant
  else if value < 32768 then P.posShortConstant
  else if value < 65536 then P.charConstant
  else P.intConstant

/-- The value `const/4`, `const/16`, `const` or `const/high16` at `pc` loads, as an `int32_t`:
`const/high16` shifts its unit into the top half. -/
def cat1ConstantValue (pc : Nat) : Int :=
  if opcode m.insns pc = CONST_HIGH16 then Word.toSigned 32 (vRegB m.insns pc * 2 ^ 16)
  else vRegB m.insns pc

/-- The value `const-wide/16`, `const-wide/32`, `const-wide` or `const-wide/high16` at `pc` loads,
as an `int64_t`. -/
def cat2ConstantValue (pc : Nat) : Int :=
  let op := opcode m.insns pc
  if op = CONST_WIDE then vRegB_51l m.insns pc
  else if op = CONST_WIDE_HIGH16 then Word.toSigned 64 (vRegB m.insns pc * 2 ^ 48)
  else vRegB m.insns pc

/-- The constants and the wide moves. -/
def applyConstOpcode (P : PrimitiveTypes τ) (pc : Nat) (l : RegisterLine τ) (log : Log) :
    Option (RegisterLine τ × Log) :=
  let op := opcode m.insns pc
  let vA := (vRegA m.insns pc).toNat
  let vB := (vRegB m.insns pc).toNat
  if op = MOVE_WIDE ∨ op = MOVE_WIDE_FROM16 ∨ op = MOVE_WIDE_16 then
    some (l.copyRegister2 env.types P vA vB log)
  else if op ∈ [CONST_4, CONST_16, CONST, CONST_HIGH16] then
    let type := determineCat1Constant P (Int32.ofInt (cat1ConstantValue m pc)) P.needPreciseConstants
    some (l.setRegisterType env.types vA type log).2
  else if op ∈ [CONST_WIDE_16, CONST_WIDE_32, CONST_WIDE, CONST_WIDE_HIGH16] then
    let val := cat2ConstantValue m pc
    let lo := P.fromCat2ConstLo (Int32.ofInt val) true
    -- `val >> 32` shifts arithmetically, as the division rounding down does
    let hi := P.fromCat2ConstHi (Int32.ofInt (val / 2 ^ 32)) true
    some (l.setRegisterTypeWide env.types P vA lo hi log).2
  else none

/-- The compares, the operand of a switch and of `if-eq` / `if-ne`.  The source writes the
compares out; each is `CheckBinaryOp` with an integer result. -/
def applyCompareOpcode (P : PrimitiveTypes τ) (pc : Nat) (l : RegisterLine τ) (log : Log) :
    Option (RegisterLine τ × Log) :=
  let T := env.types
  let op := opcode m.insns pc
  let vA := (vRegA m.insns pc).toNat
  let vB := (vRegB m.insns pc).toNat
  let vC := (vRegC m.insns pc).toNat
  if op = CMPL_FLOAT ∨ op = CMPG_FLOAT then
    some (l.checkBinary T P vA vB vC (.cat1 .integer) (.cat1 .float) (.cat1 .float) false log)
  else if op = CMPL_DOUBLE ∨ op = CMPG_DOUBLE then
    some (l.checkBinary T P vA vB vC (.cat1 .integer) (.cat2 .double) (.cat2 .double) false log)
  else if op = CMP_LONG then
    some (l.checkBinary T P vA vB vC (.cat1 .integer) (.cat2 .long) (.cat2 .long) false log)
  else if op = PACKED_SWITCH ∨ op = SPARSE_SWITCH then
    some (l, (l.verifyRegisterType T P vA (.cat1 .integer) log).2)
  else if op = IF_EQ ∨ op = IF_NE then
    let regType1 := l.getRegisterType T vA
    let regType2 := l.getRegisterType T vB
    -- zero compares with an integral or a reference; otherwise both references or both integral
    let mismatch :=
      if P.isZero regType1 then !T.isReferenceTypes regType2 && !T.isIntegralTypes regType2
      else if T.isReferenceTypes regType1 then !T.isReferenceTypes regType2
      else !T.isIntegralTypes regType1 || !T.isIntegralTypes regType2
    if mismatch then
      some (l, log.fail .hard ("args to if-eq/if-ne (" ++ T.dump regType1 ++ "," ++
        T.dump regType2 ++ ") must both be references or integral"))
    else some (l, log)
  else none

/-- The check function of `RegisterLine` that an arithmetic instruction calls, with the types the
source passes it. -/
inductive ArithmeticCheck where
  | unaryOp (dstType srcType : Cat1Primitive)
  | unaryOpWide (dstType srcType : Cat2Primitive)
  | unaryOpToWide (dstType : Cat2Primitive) (srcType : Cat1Primitive)
  | unaryOpFromWide (dstType : Cat1Primitive) (srcType : Cat2Primitive)
  | binaryOp (dstType srcType1 srcType2 : Cat1Primitive) (checkBooleanOp : Bool)
  | binaryOpWide (dstType srcType1 srcType2 : Cat2Primitive)
  | binaryOpWideShift (longType : Cat2Primitive) (intType : Cat1Primitive)
  | binaryOp2addr (dstType srcType1 srcType2 : Cat1Primitive) (checkBooleanOp : Bool)
  | binaryOp2addrWide (dstType srcType1 srcType2 : Cat2Primitive)
  | binaryOp2addrWideShift (longType : Cat2Primitive) (intType : Cat1Primitive)
  | literalOp (dstType srcType : Cat1Primitive) (checkBooleanOp : Bool)
  deriving DecidableEq, Repr

/-- The arithmetic cases of the `switch`: the check each opcode calls. -/
def arithmeticCheck (op : Nat) : Option ArithmeticCheck :=
  if op = NEG_INT ∨ op = NOT_INT then some (.unaryOp .integer .integer)
  else if op = NEG_LONG ∨ op = NOT_LONG then some (.unaryOpWide .long .long)
  else if op = NEG_FLOAT then some (.unaryOp .float .float)
  else if op = NEG_DOUBLE then some (.unaryOpWide .double .double)
  else if op = INT_TO_LONG then some (.unaryOpToWide .long .integer)
  else if op = INT_TO_FLOAT then some (.unaryOp .float .integer)
  else if op = INT_TO_DOUBLE then some (.unaryOpToWide .double .integer)
  else if op = LONG_TO_INT then some (.unaryOpFromWide .integer .long)
  else if op = LONG_TO_FLOAT then some (.unaryOpFromWide .float .long)
  else if op = LONG_TO_DOUBLE then some (.unaryOpWide .double .long)
  else if op = FLOAT_TO_INT then some (.unaryOp .integer .float)
  else if op = FLOAT_TO_LONG then some (.unaryOpToWide .long .float)
  else if op = FLOAT_TO_DOUBLE then some (.unaryOpToWide .double .float)
  else if op = DOUBLE_TO_INT then some (.unaryOpFromWide .integer .double)
  else if op = DOUBLE_TO_LONG then some (.unaryOpWide .long .double)
  else if op = DOUBLE_TO_FLOAT then some (.unaryOpFromWide .float .double)
  else if op = INT_TO_BYTE then some (.unaryOp .byte .integer)
  else if op = INT_TO_CHAR then some (.unaryOp .char .integer)
  else if op = INT_TO_SHORT then some (.unaryOp .short .integer)
  else if op ∈ [ADD_INT, SUB_INT, MUL_INT, REM_INT, DIV_INT, SHL_INT, SHR_INT, USHR_INT] then
    some (.binaryOp .integer .integer .integer false)
  else if op ∈ [AND_INT, OR_INT, XOR_INT] then some (.binaryOp .integer .integer .integer true)
  else if op ∈ [ADD_LONG, SUB_LONG, MUL_LONG, DIV_LONG, REM_LONG, AND_LONG, OR_LONG, XOR_LONG] then
    some (.binaryOpWide .long .long .long)
  else if op ∈ [SHL_LONG, SHR_LONG, USHR_LONG] then some (.binaryOpWideShift .long .integer)
  else if op ∈ [ADD_FLOAT, SUB_FLOAT, MUL_FLOAT, DIV_FLOAT, REM_FLOAT] then
    some (.binaryOp .float .float .float false)
  else if op ∈ [ADD_DOUBLE, SUB_DOUBLE, MUL_DOUBLE, DIV_DOUBLE, REM_DOUBLE] then
    some (.binaryOpWide .double .double .double)
  else if op ∈ [ADD_INT_2ADDR, SUB_INT_2ADDR, MUL_INT_2ADDR, REM_INT_2ADDR, SHL_INT_2ADDR,
      SHR_INT_2ADDR, USHR_INT_2ADDR] then
    some (.binaryOp2addr .integer .integer .integer false)
  else if op ∈ [AND_INT_2ADDR, OR_INT_2ADDR, XOR_INT_2ADDR] then
    some (.binaryOp2addr .integer .integer .integer true)
  else if op = DIV_INT_2ADDR then some (.binaryOp2addr .integer .integer .integer false)
  else if op ∈ [ADD_LONG_2ADDR, SUB_LONG_2ADDR, MUL_LONG_2ADDR, DIV_LONG_2ADDR, REM_LONG_2ADDR,
      AND_LONG_2ADDR, OR_LONG_2ADDR, XOR_LONG_2ADDR] then
    some (.binaryOp2addrWide .long .long .long)
  else if op ∈ [SHL_LONG_2ADDR, SHR_LONG_2ADDR, USHR_LONG_2ADDR] then
    some (.binaryOp2addrWideShift .long .integer)
  else if op ∈ [ADD_FLOAT_2ADDR, SUB_FLOAT_2ADDR, MUL_FLOAT_2ADDR, DIV_FLOAT_2ADDR,
      REM_FLOAT_2ADDR] then
    some (.binaryOp2addr .float .float .float false)
  else if op ∈ [ADD_DOUBLE_2ADDR, SUB_DOUBLE_2ADDR, MUL_DOUBLE_2ADDR, DIV_DOUBLE_2ADDR,
      REM_DOUBLE_2ADDR] then
    some (.binaryOp2addrWide .double .double .double)
  else if op ∈ [ADD_INT_LIT16, RSUB_INT, MUL_INT_LIT16, DIV_INT_LIT16, REM_INT_LIT16] then
    some (.literalOp .integer .integer false)
  else if op ∈ [AND_INT_LIT16, OR_INT_LIT16, XOR_INT_LIT16] then
    some (.literalOp .integer .integer true)
  else if op ∈ [ADD_INT_LIT8, RSUB_INT_LIT8, MUL_INT_LIT8, DIV_INT_LIT8, REM_INT_LIT8,
      SHL_INT_LIT8, SHR_INT_LIT8, USHR_INT_LIT8] then
    some (.literalOp .integer .integer false)
  else if op ∈ [AND_INT_LIT8, OR_INT_LIT8, XOR_INT_LIT8] then
    some (.literalOp .integer .integer true)
  else none

/-- Run an arithmetic check on the registers `vA`, `vB`, `vC` and the literal `vC` of the
instruction at `pc`, which a `lit16` and a `lit8` format decode from their own fields. -/
def runArithmeticCheck (P : PrimitiveTypes τ) (pc : Nat) (l : RegisterLine τ) (log : Log)
    (c : ArithmeticCheck) : RegisterLine τ × Log :=
  let T := env.types
  let vA := (vRegA m.insns pc).toNat
  let vB := (vRegB m.insns pc).toNat
  let vC := (vRegC m.insns pc).toNat
  match c with
  | .unaryOp d s => l.checkUnaryOp T P vA vB d s log
  | .unaryOpWide d s => l.checkUnaryOpWide T P vA vB d s log
  | .unaryOpToWide d s => l.checkUnaryOpToWide T P vA vB d s log
  | .unaryOpFromWide d s => l.checkUnaryOpFromWide T P vA vB d s log
  | .binaryOp d s1 s2 b => l.checkBinaryOp T P vA vB vC d s1 s2 b log
  | .binaryOpWide d s1 s2 => l.checkBinaryOpWide T P vA vB vC d s1 s2 log
  | .binaryOpWideShift d s => l.checkBinaryOpWideShift T P vA vB vC d s log
  | .binaryOp2addr d s1 s2 b => l.checkBinaryOp2addr T P vA vB d s1 s2 b log
  | .binaryOp2addrWide d s1 s2 => l.checkBinaryOp2addrWide T P vA vB d s1 s2 log
  | .binaryOp2addrWideShift d s => l.checkBinaryOp2addrWideShift T P vA vB d s log
  | .literalOp d s b => l.checkLiteralOp T P vA vB (vRegC m.insns pc) d s b log

/-- The unary, binary and literal arithmetic. -/
def applyArithmeticOpcode (P : PrimitiveTypes τ) (pc : Nat) (l : RegisterLine τ) (log : Log) :
    Option (RegisterLine τ × Log) :=
  (arithmeticCheck (opcode m.insns pc)).map (runArithmeticCheck env m P pc l log)

/-- The cases of the `switch` on primitive values; `none` for any other opcode. -/
def applyPrimitiveOpcode (P : PrimitiveTypes τ) (pc : Nat) (l : RegisterLine τ) (log : Log) :
    Option (RegisterLine τ × Log) :=
  match applyConstOpcode env m P pc l log with
  | some r => some r
  | none =>
    match applyCompareOpcode env m P pc l log with
    | some r => some r
    | none => applyArithmeticOpcode env m P pc l log

/-- The `switch` of `CodeFlowVerifyInstruction` on the opcode at `pc`: the work line and the log
after the instruction. -/
def applyOpcode (flags : Nat → Nat) (pc : Nat) (l : RegisterLine τ) (log : Log) :
    Except FlowError (RegisterLine τ × Log) :=
  let op := opcode m.insns pc
  let vA := (vRegA m.insns pc).toNat
  let vB := (vRegB m.insns pc).toNat
  if op = NOP then
    -- a data table starts with a signature that looks like a NOP
    if instAA m.insns pc ≠ 0 then pure (l, log.fail .hard "encountered data table in instruction stream")
    else pure (l, log)
  else if op = MOVE ∨ op = MOVE_FROM16 ∨ op = MOVE_16 then
    pure (l.copyRegister1 env.types vA vB .cat1nr log)
  else if op = MOVE_OBJECT ∨ op = MOVE_OBJECT_FROM16 ∨ op = MOVE_OBJECT_16 then
    pure (l.copyRegister1 env.types vA vB .ref log)
  else if op = RETURN_VOID then
    if env.isConstructor then throw (.unmodelled "CheckConstructorReturn")
    else if !env.returnsVoid then pure (l, log.fail .hard "return-void not expected")
    else pure (l, log)
  else if op = MONITOR_ENTER then pure (l.pushMonitor env.types (instAA m.insns pc) pc log)
  else if op = MONITOR_EXIT then
    pure (l.popMonitor env.types env.dexFileVersion (instAA m.insns pc) log)
  else if op = GOTO ∨ op = GOTO_16 ∨ op = GOTO_32 then pure (l, log)
  else if op = IF_LT ∨ op = IF_GE ∨ op = IF_GT ∨ op = IF_LE then
    let regType1 := l.getRegisterType env.types vA
    let regType2 := l.getRegisterType env.types vB
    if !env.types.isIntegralTypes regType1 || !env.types.isIntegralTypes regType2 then
      pure (l, log.fail .hard ("args to 'if' (" ++ env.types.dump regType1 ++ "," ++
        env.types.dump regType2 ++ ") must be integral"))
    else pure (l, log)
  else if op = IF_EQZ ∨ op = IF_NEZ then ifEqzNez env m lengths flags pc l log
  else if op = IF_LTZ ∨ op = IF_GEZ ∨ op = IF_GTZ ∨ op = IF_LEZ then
    let regType := l.getRegisterType env.types vA
    if !env.types.isIntegralTypes regType then
      pure (l, log.fail .hard ("type " ++ env.types.dump regType ++
        " unexpected as arg to if-ltz/if-gez/if-gtz/if-lez"))
    else pure (l, log)
  else if op ∈ unusedOpcodes then pure (l, log.fail .hard ("Unexpected opcode " ++ name op))
  else
    match env.types.primitives.bind fun P => applyPrimitiveOpcode env m P pc l log with
    | some r => pure r
    | none => throw (.unmodelled (name op))

/-! ### Successors -/

/-- `abs_offset`: the instruction target `targ` of the switch at `pc` goes to, its offset read
from the table at `switchInsns` as an `int32_t` and added to `pc` as a `uint32_t`. -/
def switchTarget (pc switchInsns offsetToTargets targ : Nat) : Nat :=
  let offset := Word.toSigned 32 (fetch32 m.insns switchInsns (offsetToTargets + targ * 2))
  Word.toUnsigned 32 (pc + offset)

/-- The loop over the targets of a switch at `pc` whose table is at `switchInsns`, from target
`targ` for `n` more: no target may be a `move-exception`, and each gets the work line. -/
def updateSwitchTargets (pc switchInsns offsetToTargets : Nat) : Nat → Nat → FlowM τ Bool
  | 0, _ => return true
  | n + 1, targ => do
    let absOffset := switchTarget m pc switchInsns offsetToTargets targ
    if !(← checkNotMoveException m absOffset) then return false
    let (ok, _) ← updateRegisters env m absOffset (← get).workLine false
    if !ok then return false
    updateSwitchTargets pc switchInsns offsetToTargets n (targ + 1)

/-- The binary search of `DexFile::FindTryItem(code_item, address)` over `[min, max]`: the try
item that covers `address`.  Each round narrows the range, so `tries_size` rounds decide it. -/
def findTryItem (address : Nat) : Nat → Int → Int → Option Nat
  | 0, _, _ => none
  | fuel + 1, min, max =>
    if min ≤ max then
      let mid := min + (max - min) / 2
      let ti := m.tries mid.toNat
      let start := ti.startAddr
      let endAddr := Word.toUnsigned 32 (start + ti.insnCount)
      if address < start then findTryItem address fuel min (mid - 1)
      else if address ≥ endAddr then findTryItem address fuel (mid + 1) max
      else some mid.toNat
    else none

/-- Where in the handler data `CatchHandlerIterator(code_item, address)` starts: at the handlers
of the try item that covers `address`, the case of one try item tested directly. -/
def catchHandlerOffset (address : Nat) : Option Nat :=
  if m.triesSize = 0 then none
  else if m.triesSize = 1 then
    let tries := m.tries 0
    if address ≥ tries.startAddr ∧
        address < Word.toUnsigned 32 (tries.startAddr + tries.insnCount) then
      some tries.handlerOff
    else none
  else
    (findTryItem m address m.triesSize 0 (m.triesSize - 1 : Int)).map fun i => (m.tries i).handlerOff

/-- The entries a `CatchHandlerIterator` visits from the handler data at `p`: `n` typed entries,
then the catch-all entry when there is one; each as its `uint16_t` type index and its
address. -/
def handlerEntries (catchAll : Bool) : Nat → Nat → List (Nat × Nat)
  | 0, p =>
    if catchAll then
      [(DexFile.kDexNoIndex16, (Leb128.decodeUnsignedLeb128 m.catchHandlerData p).1)]
    else []
  | n + 1, p =>
    let (typeIdx, p) := Leb128.decodeUnsignedLeb128 m.catchHandlerData p
    let (address, p) := Leb128.decodeUnsignedLeb128 m.catchHandlerData p
    (typeIdx % 2 ^ 16, address) :: handlerEntries catchAll n p

/-- The handlers of `CatchHandlerIterator(code_item, address)`, in the order it visits them.  A
non-positive count is `-count` typed entries and a catch-all; the negation is `int32_t`. -/
def catchHandlers (address : Nat) : List (Nat × Nat) :=
  match catchHandlerOffset m address with
  | none => []
  | some offset =>
    let (size, p) := Leb128.decodeSignedLeb128 m.catchHandlerData offset
    let remaining := if size ≤ 0 then Word.toSigned 32 (-size) else size
    handlerEntries m (decide (size ≤ 0)) remaining.toNat p

/-- The loop over the handlers: each gets `savedLine`; `false` as soon as one merge fails. -/
def updateHandlers (savedLine : RegisterLine τ) : List (Nat × Nat) → FlowM τ Bool
  | [] => return true
  | (_, address) :: rest => do
    let (ok, _) ← updateRegisters env m address savedLine false
    if !ok then return false
    updateHandlers savedLine rest

/-- The exception edges of the instruction `op` at `pc` in a try block: every handler gets the line
from before the instruction, and an instruction after which a monitor is held must have a
catch-all handler, unless it is the `monitor-enter` that took the first one.  A typed handler
catches everything when its class is `java.lang.Throwable`, which the model does not resolve: it
gives no verdict where that decides. -/
def handleExceptionEdges (pc op : Nat) (savedLine : RegisterLine τ) : FlowM τ Bool := do
  let handlers := catchHandlers m pc
  if !(← updateHandlers env m savedLine handlers) then return false
  let depth := (← get).workLine.monitorStackDepth
  if depth > 0 ∧ !handlers.any (·.1 == DexFile.kDexNoIndex16) then
    if op ≠ MONITOR_ENTER ∨ depth ≠ 1 then
      if handlers ≠ [] then throw (.unmodelled "resolution of the class of an exception handler")
      modify (·.fail .hard
        "expected to be within a catch-all for an instruction where a monitor is held")
      return false
  return true

/-- The flags of opcode `op` as `CodeFlowVerifyInstruction` acts on them: a `monitor-exit` that
throws acts as if it succeeded, so its exception edges are not followed. -/
def opcodeFlagsOf (op : Nat) : Nat :=
  if op = MONITOR_EXIT then InstructionFlags.clearBits (flagsOf op) kThrow else flagsOf op

/-- The "branch" handling of the instruction at `pc`: the target must not be a `move-exception`,
and gets the work line. -/
def followBranch (pc : Nat) : FlowM τ Bool := do
  match getBranchOffset m pc with
  | none =>
    modify (·.fail .hard "bad branch")
    return false
  | some (offset, _, _) =>
    let target := (pc + offset).toNat
    if !(← checkNotMoveException m target) then return false
    let (ok, _) ← updateRegisters env m target (← get).workLine false
    return ok

/-- The "switch" handling of the switch at `pc`, whose table is at `insns + offset_to_switch`. -/
def followSwitch (pc : Nat) : FlowM τ Bool :=
  let switchInsns := (payloadStart m pc).toNat
  updateSwitchTargets env m pc switchInsns (switchTargetsOffset m pc switchInsns)
    (fetch16 m.insns switchInsns 1) 0

/-- The "continue" handling of the instruction at `pc`: the next instruction must be inside the
code and not a `move-exception`; it gets the work line, which a merge may replace, or is marked
changed when it has no line. -/
def followContinue (pc : Nat) : FlowM τ Bool := do
  let next := pc + lengths pc
  if next ≥ m.insnsSizeInCodeUnits then
    modify (·.fail .hard "Execution can walk off end of code area")
    return false
  if !(← checkNotMoveException m next) then return false
  -- at a return only the returned registers stay live
  if InstructionFlags.isReturn ((← get).insnFlags next) then
    modify fun s => { s with workLine := returnLine env m next s.workLine }
  let s ← get
  if (s.regTable next).isSome then
    let (ok, workLine) ← updateRegisters env m next s.workLine true
    modify fun s => { s with workLine := workLine }
    return ok
  else
    modify (·.setChanged next)
    return true

/-- `CodeFlowVerifyInstruction(&start_guess)` at `work_insn_idx_`: whether verification goes on,
and the new `start_guess`. -/
def codeFlowVerifyInstruction (startGuess : Nat) : FlowM τ (Bool × Nat) := do
  let s ← get
  let pc := s.workInsnIdx
  let op := opcode m.insns pc
  let opcodeFlags := opcodeFlagsOf op
  let (workLine, log) ← liftM (applyOpcode env m lengths s.insnFlags pc s.workLine s.log)
  set { s with workLine := workLine, log := log }
  if log.havePendingHardFailure then
    modify fun s => { s with log := s.log.info ("Rejecting opcode " ++ name op) }
    return (false, startGuess)
  if opcodeFlags &&& kBranch != 0 then
    if !(← followBranch env m pc) then return (false, startGuess)
  if opcodeFlags &&& kSwitch != 0 then
    if !(← followSwitch env m pc) then return (false, startGuess)
  -- `saved_line_`: the handlers get the line from before the instruction
  if opcodeFlags &&& kThrow != 0 && InstructionFlags.isInTry (s.insnFlags pc) then
    if !(← handleExceptionEdges env m pc op s.workLine) then return (false, startGuess)
  if opcodeFlags &&& kContinue != 0 then
    if !(← followContinue env m lengths pc) then return (false, startGuess)
  if opcodeFlags &&& kReturn != 0 then
    let s ← get
    let (ok, log) := s.workLine.verifyMonitorStackEmpty s.log
    set { s with log := log }
    if !ok then return (false, startGuess)
  if opcodeFlags &&& kContinue != 0 then return (true, pc + lengths pc)
  -- `branch_target` stays `0` unless `GetBranchOffset` set it
  if opcodeFlags &&& kBranch != 0 then
    let branchTarget : Int := match getBranchOffset m pc with
      | some (offset, _, _) => offset
      | none => 0
    return (true, (pc + branchTarget).toNat)
  return (true, startGuess)

/-- The search of `CodeFlowVerifyMethod` for the first instruction from `idx` whose "changed"
flag is set, `insns_size` when there is none; `fuel` bounds the positions left. -/
def findChanged (flags : Nat → Nat) : Nat → Nat → Nat
  | 0, idx => idx
  | fuel + 1, idx =>
    if idx < m.insnsSizeInCodeUnits then
      if InstructionFlags.isChanged (flags idx) then idx else findChanged flags fuel (idx + 1)
    else idx

/-- The loop of `CodeFlowVerifyMethod` from `start_guess`, for at most `fuel` passes. -/
def codeFlowLoop : Nat → Nat → FlowM τ Bool
  | 0, _ => throw .noResult
  | fuel + 1, startGuess => do
    let s ← get
    let insnsSize := m.insnsSizeInCodeUnits
    let insnIdx := findChanged m s.insnFlags (insnsSize - startGuess) startGuess
    if insnIdx = insnsSize then
      if startGuess ≠ 0 then codeFlowLoop fuel 0 else return true
    else
      modify fun s => { s with workInsnIdx := insnIdx }
      if InstructionFlags.isBranchTarget (s.insnFlags insnIdx) then
        let some line := s.regTable insnIdx
          | throw (.unmodelled "a branch target without a register line")
        modify fun s => { s with workLine := line }
      let (ok, startGuess) ← codeFlowVerifyInstruction env m lengths startGuess
      if !ok then return false
      modify fun s => (s.setVisited insnIdx).clearChanged insnIdx
      codeFlowLoop fuel startGuess

/-- `CodeFlowVerifyMethod()`. -/
def codeFlowVerifyMethod (fuel : Nat) : FlowM τ Bool := do
  modify (·.setChanged 0)
  codeFlowLoop env m lengths fuel 0

/-- The lines of `reg_table_.Init(kTrackCompilerInterestPoints, ...)` with the types
`SetTypesFromSignature` gives the ins at instruction `0`. -/
def initialRegTable (flags : Nat → Nat) (pc : Nat) : Option (RegisterLine τ) :=
  let fresh := RegisterLine.create env.types m.registersSize
  if pc < m.insnsSizeInCodeUnits ∧
      (InstructionFlags.isCompileTimeInfoPoint (flags pc) ∨ InstructionFlags.isBranchTarget (flags pc)) then
    if pc = 0 then
      some { fresh with
        line := List.replicate (m.registersSize - env.argTypes.length) env.types.undefined ++ env.argTypes }
    else some fresh
  else none

/-- `VerifyCodeFlow()`, after a static pass that ended in state `s`: the verdict and the final
state. -/
def verifyCodeFlow (fuel : Nat) (s : VerifierState) : Except FlowError (Bool × FlowState τ) :=
  let log : Log := ⟨env.allowSoftFailures, [], false, [], []⟩
  let log := if m.registersSize * m.insnsSizeInCodeUnits > 4 * 1024 * 1024 then
      log.warn ("warning: method is huge (regs=" ++ toString m.registersSize ++ " insns_size=" ++
        toString m.insnsSizeInCodeUnits ++ ")")
    else log
  (codeFlowVerifyMethod env m lengths fuel).run
    ⟨s.insnFlags, initialRegTable env m s.insnFlags, RegisterLine.create env.types m.registersSize, 0,
      log⟩

end CodeFlow

/-- `MethodVerifier::Verify()` for a method with code and sane register counts: the static pass,
then the code-flow pass; the verdict and what verification reported. -/
def verify {τ : Type} [DecidableEq τ] (ctx : DexContext) (env : MethodEnv τ) (m : CodeItem)
    (fuel : Nat) : Except FlowError (Bool × Log) :=
  match staticChecks ctx m with
  | none => .error .noResult
  | some (false, s) =>
    .ok (false, ⟨env.allowSoftFailures, s.failures.map fun msg => (.hard, msg), true, [], []⟩)
  | some (true, s) =>
    let lengths := (computeWidthsAndCountOps m VerifierState.init).2.1.lengths
    (verifyCodeFlow env m lengths fuel s).map fun r => (r.1, r.2.log)

end Verifier

end Art
