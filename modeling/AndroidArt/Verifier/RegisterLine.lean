import Mathlib.Data.List.Basic

/-!
# Register lines: what the verifier knows at one instruction

Model of `RegisterLine` (`runtime/verifier/register_line.h`, `register_line.cc`): the type of
every register (`line_`), the stack of held monitors (`monitors_`, the dex pc of each
`monitor-enter`, outermost first) and `reg_to_lock_depths_`, which records for a register the
set of monitor-stack depths at which its object was locked, as a bit set.

The pass compares, merges and classifies register types but never looks inside one, so the
types are a parameter: `RegTypes` is what the code asks of `RegType` and `RegTypeCache`.

A method that calls `verifier_->Fail(...)` or logs takes the verifier's `Log` and returns it
updated.  `mergeRegisters` is `MergeRegisters`.  It merges the register types, and when the two
monitor stacks have different depths it logs a warning and nothing else: the target keeps its
own stack (`mergeRegisters_monitors`) and no failure is recorded
(`mergeRegisters_havePendingHardFailure`).

The model is the release build: `PushMonitor` stops at 32 monitors, so the `CHECK_LT(depth, 32u)`s
hold, and the `DCHECK`s of `SetRegToLockDepth` and `ClearRegToLockDepth` on the bits they change
are left out.
-/

set_option autoImplicit false

namespace Art

namespace Verifier

/-- The category-1 primitive types that the instructions name. -/
inductive Cat1Primitive where
  | boolean
  | byte
  | short
  | char
  | integer
  | float
  deriving DecidableEq, Repr

/-- The category-2 primitive types, each held in a pair of registers. -/
inductive Cat2Primitive where
  | long
  | double
  deriving DecidableEq, Repr

/-- A primitive type that an instruction checks an operand against or gives its result: the
`RegType&` arguments of the `Check...Op` functions, a category-2 type standing for the pair of
its halves. -/
inductive PrimitiveType where
  | cat1 (t : Cat1Primitive)
  | cat2 (t : Cat2Primitive)
  deriving DecidableEq, Repr

/-- What the instructions on primitive values ask of `RegType` and `RegTypeCache`, with the
verifier's `need_precise_constants_`, which decides the types of the constants. -/
structure PrimitiveTypes (τ : Type) where
  /-- `Boolean()`, `Byte()`, `Short()`, `Char()`, `Integer()` and `Float()` of the cache. -/
  boolean : τ
  byte : τ
  short : τ
  char : τ
  integer : τ
  float : τ
  /-- `LongLo()`, `LongHi()`, `DoubleLo()` and `DoubleHi()`. -/
  longLo : τ
  longHi : τ
  doubleLo : τ
  doubleHi : τ
  /-- `FromCat1Const(value, precise)`, `FromCat2ConstLo` and `FromCat2ConstHi`. -/
  fromCat1Const : Int32 → Bool → τ
  fromCat2ConstLo : Int32 → Bool → τ
  fromCat2ConstHi : Int32 → Bool → τ
  isZero : τ → Bool
  isBooleanTypes : τ → Bool
  isByteTypes : τ → Bool
  isShortTypes : τ → Bool
  isCharTypes : τ → Bool
  isFloatTypes : τ → Bool
  isLongTypes : τ → Bool
  isDoubleTypes : τ → Bool
  /-- `CheckWidePair(type_h)` of a type: it is a low half and `type_h` its high half. -/
  checkWidePair : τ → τ → Bool
  needPreciseConstants : Bool

/-- What the code-flow pass asks of `RegType` and `RegTypeCache`. -/
structure RegTypes (τ : Type) where
  /-- The type of id `0`, which a fresh line holds in every register. -/
  undefined : τ
  /-- `RegTypeCache::Conflict()`. -/
  conflict : τ
  /-- `RegType::Merge`, which the pass calls on two different types only. -/
  merge : τ → τ → τ
  isReferenceTypes : τ → Bool
  isIntegralTypes : τ → Bool
  isCategory1Types : τ → Bool
  isLowHalf : τ → Bool
  isHighHalf : τ → Bool
  /-- `operator<<`, for the messages. -/
  dump : τ → String
  /-- The primitive part, which the instructions on primitive values need; `none` for a type
  model without one, under which those instructions are not modelled. -/
  primitives : Option (PrimitiveTypes τ) := none

namespace PrimitiveTypes

variable {τ : Type} (P : PrimitiveTypes τ)

/-- The cache's entry of a primitive type; a category-2 type by its low half. -/
def type : PrimitiveType → τ
  | .cat1 .boolean => P.boolean
  | .cat1 .byte => P.byte
  | .cat1 .short => P.short
  | .cat1 .char => P.char
  | .cat1 .integer => P.integer
  | .cat1 .float => P.float
  | .cat2 .long => P.longLo
  | .cat2 .double => P.doubleLo

/-- The high half of a category-2 type. -/
def highHalf : Cat2Primitive → τ
  | .long => P.longHi
  | .double => P.doubleHi

/-- `Zero()` and `One()`: precise constants. -/
def zero : τ := P.fromCat1Const 0 true

def one : τ := P.fromCat1Const 1 true

/-- `ByteConstant()`, `CharConstant()`, `ShortConstant()`, `IntConstant()`, `PosByteConstant()`
and `PosShortConstant()`: the imprecise constants at the ends of the ranges. -/
def byteConstant : τ := P.fromCat1Const (-128) false

def charConstant : τ := P.fromCat1Const 65535 false

def shortConstant : τ := P.fromCat1Const (-32768) false

def intConstant : τ := P.fromCat1Const 2147483647 false

def posByteConstant : τ := P.fromCat1Const 127 false

def posShortConstant : τ := P.fromCat1Const 32767 false

/-- `lhs.IsAssignableFrom(rhs)` for a primitive `lhs`: the same type, or one the primitive's
test accepts. -/
def isAssignableFrom [DecidableEq τ] (T : RegTypes τ) (lhs : PrimitiveType) (rhs : τ) : Bool :=
  P.type lhs == rhs ||
    match lhs with
    | .cat1 .boolean => P.isBooleanTypes rhs
    | .cat1 .byte => P.isByteTypes rhs
    | .cat1 .short => P.isShortTypes rhs
    | .cat1 .char => P.isCharTypes rhs
    | .cat1 .integer => T.isIntegralTypes rhs
    | .cat1 .float => P.isFloatTypes rhs
    | .cat2 .long => P.isLongTypes rhs
    | .cat2 .double => P.isDoubleTypes rhs

end PrimitiveTypes

/-- `VERIFY_ERROR_BAD_CLASS_HARD` and `VERIFY_ERROR_BAD_CLASS_SOFT`. -/
inductive FailureKind where
  | hard
  | soft
  deriving DecidableEq, Repr

/-- What verification has reported: `failures_` with their messages,
`have_pending_hard_failure_`, the `LOG(WARNING)` lines and `info_messages_`; with
`allow_soft_failures_`, which says what a soft failure counts as. -/
structure Log where
  allowSoftFailures : Bool
  failures : List (FailureKind × String)
  havePendingHardFailure : Bool
  warnings : List String
  infoMessages : List String
  deriving DecidableEq, Repr

namespace Log

/-- `Fail(kind) << msg`: a soft failure counts as hard unless soft failures are allowed. -/
def fail (kind : FailureKind) (msg : String) (log : Log) : Log :=
  { log with
    failures := log.failures ++ [(kind, msg)]
    havePendingHardFailure := log.havePendingHardFailure ||
      match kind with
      | .hard => true
      | .soft => !log.allowSoftFailures }

/-- `LOG(WARNING) << msg`. -/
def warn (msg : String) (log : Log) : Log := { log with warnings := log.warnings ++ [msg] }

/-- `LogVerifyInfo() << msg`. -/
def info (msg : String) (log : Log) : Log := { log with infoMessages := log.infoMessages ++ [msg] }

@[simp] theorem fail_hard (msg : String) (log : Log) :
    (log.fail .hard msg).havePendingHardFailure = true := by
  simp [fail]

@[simp] theorem warn_havePendingHardFailure (msg : String) (log : Log) :
    (log.warn msg).havePendingHardFailure = log.havePendingHardFailure := rfl

@[simp] theorem warn_failures (msg : String) (log : Log) : (log.warn msg).failures = log.failures :=
  rfl

end Log

/-- `TypeCategory`. -/
inductive TypeCategory where
  | unknown
  | cat1nr
  | cat2
  | ref
  deriving DecidableEq, Repr

/-- The value of a `TypeCategory`, as `static_cast<int>` prints it. -/
def TypeCategory.toNat : TypeCategory → Nat
  | unknown => 0
  | cat1nr => 1
  | cat2 => 2
  | ref => 3

/-- A `RegisterLine`. -/
structure RegisterLine (τ : Type) where
  /-- `line_`: the type of each register. -/
  line : List τ
  /-- `monitors_`: the dex pc of the `monitor-enter` of each held monitor, outermost first. -/
  monitors : List Nat
  /-- `reg_to_lock_depths_`, indexed by register: the bit set of the monitor-stack depths at which
  the register's object was locked, `0` standing for no entry (the map never holds `0`). -/
  regToLockDepths : List Nat
  deriving DecidableEq, Repr

namespace RegisterLine

variable {τ : Type} [DecidableEq τ] (T : RegTypes τ)

/-- `RegisterLine::Create(num_regs, verifier)`: every register of type id `0`, no monitor
held. -/
def create (numRegs : Nat) : RegisterLine τ :=
  ⟨List.replicate numRegs T.undefined, [], List.replicate numRegs 0⟩

/-- `GetRegisterType(vsrc)`; the static pass has checked `vsrc < num_regs_`. -/
def getRegisterType (l : RegisterLine τ) (vsrc : Nat) : τ := l.line.getD vsrc T.undefined

/-- `MonitorStackDepth()`. -/
def monitorStackDepth (l : RegisterLine τ) : Nat := l.monitors.length

/-! ### `reg_to_lock_depths_` -/

/-- `IsSetLockDepth(reg, depth)`. -/
def isSetLockDepth (l : RegisterLine τ) (reg depth : Nat) : Bool :=
  l.regToLockDepths.getD reg 0 &&& 1 <<< depth != 0

/-- `SetRegToLockDepth(reg, depth)`: `Put` of a new entry, or `|=` into the one there. -/
def setRegToLockDepth (l : RegisterLine τ) (reg depth : Nat) : RegisterLine τ :=
  { l with
    regToLockDepths := l.regToLockDepths.set reg (l.regToLockDepths.getD reg 0 ||| 1 <<< depth) }

/-- `ClearRegToLockDepth(reg, depth)`: the entry loses the bit, and goes when it is empty. -/
def clearRegToLockDepth (l : RegisterLine τ) (reg depth : Nat) : RegisterLine τ :=
  { l with
    regToLockDepths := l.regToLockDepths.set reg (l.regToLockDepths.getD reg 0 ^^^ 1 <<< depth) }

/-- `ClearAllRegToLockDepths(reg)`. -/
def clearAllRegToLockDepths (l : RegisterLine τ) (reg : Nat) : RegisterLine τ :=
  { l with regToLockDepths := l.regToLockDepths.set reg 0 }

/-- `CopyRegToLockDepth(dst, src)`.  `SafeMap::Put` is an `emplace`, which leaves an entry
already at `dst` in place. -/
def copyRegToLockDepth (l : RegisterLine τ) (dst src : Nat) : RegisterLine τ :=
  let depths := l.regToLockDepths.getD src 0
  if depths ≠ 0 ∧ l.regToLockDepths.getD dst 0 = 0 then
    { l with regToLockDepths := l.regToLockDepths.set dst depths }
  else l

/-! ### Register types -/

/-- `SetRegisterType(vdst, new_type)`. -/
def setRegisterType (l : RegisterLine τ) (vdst : Nat) (newType : τ) (log : Log) :
    Bool × RegisterLine τ × Log :=
  if T.isLowHalf newType || T.isHighHalf newType then
    (false, l, log.fail .hard ("Expected category1 register type not '" ++ T.dump newType ++ "'"))
  else if newType = T.conflict then
    (false, l, log.fail .soft ("Set register to unknown type " ++ T.dump newType))
  else
    -- the monitor entry bits of the register are cleared
    (true, ({ l with line := l.line.set vdst newType }).clearAllRegToLockDepths vdst, log)

/-- `CopyRegister1(vdst, vsrc, cat)`, for `cat` one of `kTypeCategory1nr` and
`kTypeCategoryRef`. -/
def copyRegister1 (l : RegisterLine τ) (vdst vsrc : Nat) (cat : TypeCategory) (log : Log) :
    RegisterLine τ × Log :=
  let type := l.getRegisterType T vsrc
  match setRegisterType T l vdst type log with
  | (false, l, log) => (l, log)
  | (true, l, log) =>
    if (cat = .cat1nr ∧ !T.isCategory1Types type) ∨ (cat = .ref ∧ !T.isReferenceTypes type) then
      (l, log.fail .hard ("copy1 v" ++ toString vdst ++ "<-v" ++ toString vsrc ++ " type=" ++
        T.dump type ++ " cat=" ++ toString cat.toNat))
    else if cat = .ref then (l.copyRegToLockDepth vdst vsrc, log)
    else (l, log)

/-- `MarkAllRegistersAsConflicts()`. -/
def markAllRegistersAsConflicts (l : RegisterLine τ) : RegisterLine τ :=
  { l with line := l.line.map fun _ => T.conflict }

/-- `MarkAllRegistersAsConflictsExcept(vsrc)`. -/
def markAllRegistersAsConflictsExcept (l : RegisterLine τ) (vsrc : Nat) : RegisterLine τ :=
  { l with line := l.line.mapIdx fun i t => if i ≠ vsrc then T.conflict else t }

/-- `MarkAllRegistersAsConflictsExceptWide(vsrc)`. -/
def markAllRegistersAsConflictsExceptWide (l : RegisterLine τ) (vsrc : Nat) : RegisterLine τ :=
  { l with
    line := l.line.mapIdx fun i t => if i ≠ vsrc ∧ i ≠ vsrc + 1 then T.conflict else t }

/-! ### Wide registers and the operand checks of the instructions on primitive values -/

section Primitive

variable (P : PrimitiveTypes τ)

/-- `SetRegisterTypeWide(vdst, new_type1, new_type2)`. -/
def setRegisterTypeWide (l : RegisterLine τ) (vdst : Nat) (newType1 newType2 : τ) (log : Log) :
    Bool × RegisterLine τ × Log :=
  if !P.checkWidePair newType1 newType2 then
    (false, l, log.fail .soft ("Invalid wide pair '" ++ T.dump newType1 ++ "' '" ++
      T.dump newType2 ++ "'"))
  else
    let l := { l with line := (l.line.set vdst newType1).set (vdst + 1) newType2 }
    (true, (l.clearAllRegToLockDepths vdst).clearAllRegToLockDepths (vdst + 1), log)

/-- `VerifyRegisterType(vsrc, check_type)` for a primitive check type.  A primitive is not a
non-zero reference, so a failed check is hard; a category-2 check type is a low half, and the
register pair is checked next. -/
def verifyRegisterType (l : RegisterLine τ) (vsrc : Nat) (checkType : PrimitiveType) (log : Log) :
    Bool × Log :=
  let srcType := l.getRegisterType T vsrc
  if !P.isAssignableFrom T checkType srcType then
    (false, log.fail .hard ("register v" ++ toString vsrc ++ " has type " ++ T.dump srcType ++
      " but expected " ++ T.dump (P.type checkType)))
  else
    match checkType with
    | .cat1 _ => (true, log)
    | .cat2 _ =>
      let srcTypeH := l.getRegisterType T (vsrc + 1)
      if !P.checkWidePair srcType srcTypeH then
        (false, log.fail .hard ("wide register v" ++ toString vsrc ++ " has type " ++
          T.dump srcType ++ "/" ++ T.dump srcTypeH))
      else (true, log)

/-- `VerifyRegisterTypeWide(vsrc, check_type1, check_type2)`: the low half against the check
type, then the pair, every failure hard. -/
def verifyRegisterTypeWide (l : RegisterLine τ) (vsrc : Nat) (checkType : Cat2Primitive)
    (log : Log) : Bool × Log :=
  let srcType := l.getRegisterType T vsrc
  if !P.isAssignableFrom T (.cat2 checkType) srcType then
    (false, log.fail .hard ("register v" ++ toString vsrc ++ " has type " ++ T.dump srcType ++
      " but expected " ++ T.dump (P.type (.cat2 checkType))))
  else
    let srcTypeH := l.getRegisterType T (vsrc + 1)
    if !P.checkWidePair srcType srcTypeH then
      (false, log.fail .hard ("wide register v" ++ toString vsrc ++ " has type " ++
        T.dump srcType ++ "/" ++ T.dump srcTypeH))
    else (true, log)

/-- On a primitive check type the two checks agree: `VerifyRegisterType` fails softly only when
both types are references. -/
theorem verifyRegisterType_cat2 (l : RegisterLine τ) (vsrc : Nat) (checkType : Cat2Primitive)
    (log : Log) :
    l.verifyRegisterType T P vsrc (.cat2 checkType) log =
      l.verifyRegisterTypeWide T P vsrc checkType log := by
  simp only [verifyRegisterType, verifyRegisterTypeWide]

/-- `CopyRegister2(vdst, vsrc)`. -/
def copyRegister2 (l : RegisterLine τ) (vdst vsrc : Nat) (log : Log) : RegisterLine τ × Log :=
  let typeL := l.getRegisterType T vsrc
  let typeH := l.getRegisterType T (vsrc + 1)
  if !P.checkWidePair typeL typeH then
    (l, log.fail .hard ("copy2 v" ++ toString vdst ++ "<-v" ++ toString vsrc ++ " type=" ++
      T.dump typeL ++ "/" ++ T.dump typeH))
  else
    let (_, l, log) := l.setRegisterTypeWide T P vdst typeL typeH log
    (l, log)

/-- How the `Check...Op` functions check a source operand: `VerifyRegisterType` of a category-1
type, `VerifyRegisterTypeWide` of a pair. -/
def verifyOperand (l : RegisterLine τ) (vsrc : Nat) : PrimitiveType → Log → Bool × Log
  | .cat1 t, log => l.verifyRegisterType T P vsrc (.cat1 t) log
  | .cat2 t, log => l.verifyRegisterTypeWide T P vsrc t log

/-- How the `Check...Op` functions write their result: `SetRegisterType` of a category-1 type,
`SetRegisterTypeWide` of a pair. -/
def setOperand (l : RegisterLine τ) (vdst : Nat) :
    PrimitiveType → Log → Bool × RegisterLine τ × Log
  | .cat1 t, log => l.setRegisterType T vdst (P.type (.cat1 t)) log
  | .cat2 t, log => l.setRegisterTypeWide T P vdst (P.type (.cat2 t)) (P.highHalf t) log

/-- The unary checks: the operand `vsrc` against `srcType`, then `dstType` into `vdst`. -/
def checkUnary (l : RegisterLine τ) (vdst vsrc : Nat) (dstType srcType : PrimitiveType)
    (log : Log) : RegisterLine τ × Log :=
  match l.verifyOperand T P vsrc srcType log with
  | (false, log) => (l, log)
  | (true, log) =>
    let (_, l, log) := l.setOperand T P vdst dstType log
    (l, log)

/-- `CheckUnaryOp(inst, dst_type, src_type)`, on the registers `vA` and `vB` of `inst`. -/
def checkUnaryOp (l : RegisterLine τ) (vA vB : Nat) (dstType srcType : Cat1Primitive)
    (log : Log) : RegisterLine τ × Log :=
  l.checkUnary T P vA vB (.cat1 dstType) (.cat1 srcType) log

/-- `CheckUnaryOpWide(inst, dst_type1, dst_type2, src_type1, src_type2)`. -/
def checkUnaryOpWide (l : RegisterLine τ) (vA vB : Nat) (dstType srcType : Cat2Primitive)
    (log : Log) : RegisterLine τ × Log :=
  l.checkUnary T P vA vB (.cat2 dstType) (.cat2 srcType) log

/-- `CheckUnaryOpToWide(inst, dst_type1, dst_type2, src_type)`. -/
def checkUnaryOpToWide (l : RegisterLine τ) (vA vB : Nat) (dstType : Cat2Primitive)
    (srcType : Cat1Primitive) (log : Log) : RegisterLine τ × Log :=
  l.checkUnary T P vA vB (.cat2 dstType) (.cat1 srcType) log

/-- `CheckUnaryOpFromWide(inst, dst_type, src_type1, src_type2)`. -/
def checkUnaryOpFromWide (l : RegisterLine τ) (vA vB : Nat) (dstType : Cat1Primitive)
    (srcType : Cat2Primitive) (log : Log) : RegisterLine τ × Log :=
  l.checkUnary T P vA vB (.cat1 dstType) (.cat2 srcType) log

/-- The binary checks: `vsrc1` against `srcType1`, then `vsrc2` against `srcType2`, then the
result into `vdst`.  With `check_boolean_op`, two boolean operands give a boolean. -/
def checkBinary (l : RegisterLine τ) (vdst vsrc1 vsrc2 : Nat)
    (dstType srcType1 srcType2 : PrimitiveType) (checkBooleanOp : Bool) (log : Log) :
    RegisterLine τ × Log :=
  match l.verifyOperand T P vsrc1 srcType1 log with
  | (false, log) => (l, log)
  | (true, log) =>
    match l.verifyOperand T P vsrc2 srcType2 log with
    | (false, log) => (l, log)
    | (true, log) =>
      let dstType := if checkBooleanOp && P.isBooleanTypes (l.getRegisterType T vsrc1) &&
          P.isBooleanTypes (l.getRegisterType T vsrc2) then .cat1 .boolean else dstType
      let (_, l, log) := l.setOperand T P vdst dstType log
      (l, log)

/-- `CheckBinaryOp(inst, dst_type, src_type1, src_type2, check_boolean_op)`, on the registers
`vA`, `vB` and `vC` of `inst`. -/
def checkBinaryOp (l : RegisterLine τ) (vA vB vC : Nat) (dstType srcType1 srcType2 : Cat1Primitive)
    (checkBooleanOp : Bool) (log : Log) : RegisterLine τ × Log :=
  l.checkBinary T P vA vB vC (.cat1 dstType) (.cat1 srcType1) (.cat1 srcType2) checkBooleanOp log

/-- `CheckBinaryOpWide(inst, dst_type1, dst_type2, src_type1_1, ...)`. -/
def checkBinaryOpWide (l : RegisterLine τ) (vA vB vC : Nat)
    (dstType srcType1 srcType2 : Cat2Primitive) (log : Log) : RegisterLine τ × Log :=
  l.checkBinary T P vA vB vC (.cat2 dstType) (.cat2 srcType1) (.cat2 srcType2) false log

/-- `CheckBinaryOpWideShift(inst, long_lo_type, long_hi_type, int_type)`: the shift distance is a
category-1 operand. -/
def checkBinaryOpWideShift (l : RegisterLine τ) (vA vB vC : Nat) (longType : Cat2Primitive)
    (intType : Cat1Primitive) (log : Log) : RegisterLine τ × Log :=
  l.checkBinary T P vA vB vC (.cat2 longType) (.cat2 longType) (.cat1 intType) false log

/-- `CheckBinaryOp2addr(inst, dst_type, src_type1, src_type2, check_boolean_op)`, on the
registers `vA` and `vB` of `inst`: `vA` is the first operand and the destination. -/
def checkBinaryOp2addr (l : RegisterLine τ) (vA vB : Nat)
    (dstType srcType1 srcType2 : Cat1Primitive) (checkBooleanOp : Bool) (log : Log) :
    RegisterLine τ × Log :=
  l.checkBinary T P vA vA vB (.cat1 dstType) (.cat1 srcType1) (.cat1 srcType2) checkBooleanOp log

/-- `CheckBinaryOp2addrWide(inst, dst_type1, dst_type2, src_type1_1, ...)`. -/
def checkBinaryOp2addrWide (l : RegisterLine τ) (vA vB : Nat)
    (dstType srcType1 srcType2 : Cat2Primitive) (log : Log) : RegisterLine τ × Log :=
  l.checkBinary T P vA vA vB (.cat2 dstType) (.cat2 srcType1) (.cat2 srcType2) false log

/-- `CheckBinaryOp2addrWideShift(inst, long_lo_type, long_hi_type, int_type)`. -/
def checkBinaryOp2addrWideShift (l : RegisterLine τ) (vA vB : Nat) (longType : Cat2Primitive)
    (intType : Cat1Primitive) (log : Log) : RegisterLine τ × Log :=
  l.checkBinary T P vA vA vB (.cat2 longType) (.cat2 longType) (.cat1 intType) false log

/-- `CheckLiteralOp(inst, dst_type, src_type, check_boolean_op, is_lit16)`, on the registers `vA`
and `vB` and the literal `val` of `inst`, which `is_lit16` decodes.  With `check_boolean_op`, a
boolean operand and a literal `0` or `1` give a boolean. -/
def checkLiteralOp (l : RegisterLine τ) (vA vB : Nat) (val : Int)
    (dstType srcType : Cat1Primitive) (checkBooleanOp : Bool) (log : Log) : RegisterLine τ × Log :=
  match l.verifyRegisterType T P vB (.cat1 srcType) log with
  | (false, log) => (l, log)
  | (true, log) =>
    let dstType := if checkBooleanOp && P.isBooleanTypes (l.getRegisterType T vB) &&
        (val == 0 || val == 1) then Cat1Primitive.boolean else dstType
    let (_, l, log) := l.setRegisterType T vA (P.type (.cat1 dstType)) log
    (l, log)

end Primitive

/-! ### The register checks keep the monitor stack -/

omit [DecidableEq τ] in
@[simp] theorem clearAllRegToLockDepths_monitors (l : RegisterLine τ) (reg : Nat) :
    (l.clearAllRegToLockDepths reg).monitors = l.monitors := rfl

omit [DecidableEq τ] in
@[simp] theorem copyRegToLockDepth_monitors (l : RegisterLine τ) (dst src : Nat) :
    (l.copyRegToLockDepth dst src).monitors = l.monitors := by
  unfold copyRegToLockDepth
  dsimp only
  split_ifs <;> rfl

@[simp] theorem setRegisterType_monitors (l : RegisterLine τ) (vdst : Nat) (newType : τ)
    (log : Log) : (l.setRegisterType T vdst newType log).2.1.monitors = l.monitors := by
  unfold setRegisterType
  split_ifs <;> rfl

@[simp] theorem copyRegister1_monitors (l : RegisterLine τ) (vdst vsrc : Nat) (cat : TypeCategory)
    (log : Log) : (l.copyRegister1 T vdst vsrc cat log).1.monitors = l.monitors := by
  have hset := setRegisterType_monitors T l vdst (l.getRegisterType T vsrc) log
  unfold copyRegister1
  dsimp only
  split
  · next l' log' h => simpa [h] using hset
  · next l' log' h =>
    have hmon : l'.monitors = l.monitors := by simpa [h] using hset
    split_ifs <;> simp [hmon]

section Primitive

variable (P : PrimitiveTypes τ)

omit [DecidableEq τ] in
@[simp] theorem setRegisterTypeWide_monitors (l : RegisterLine τ) (vdst : Nat)
    (newType1 newType2 : τ) (log : Log) :
    (l.setRegisterTypeWide T P vdst newType1 newType2 log).2.1.monitors = l.monitors := by
  unfold setRegisterTypeWide
  split_ifs <;> rfl

omit [DecidableEq τ] in
@[simp] theorem copyRegister2_monitors (l : RegisterLine τ) (vdst vsrc : Nat) (log : Log) :
    (l.copyRegister2 T P vdst vsrc log).1.monitors = l.monitors := by
  unfold copyRegister2
  dsimp only
  split_ifs <;> simp

@[simp] theorem setOperand_monitors (l : RegisterLine τ) (vdst : Nat) (t : PrimitiveType)
    (log : Log) : (l.setOperand T P vdst t log).2.1.monitors = l.monitors := by
  cases t <;> simp [setOperand]

@[simp] theorem checkUnary_monitors (l : RegisterLine τ) (vdst vsrc : Nat)
    (dstType srcType : PrimitiveType) (log : Log) :
    (l.checkUnary T P vdst vsrc dstType srcType log).1.monitors = l.monitors := by
  unfold checkUnary
  split <;> simp

@[simp] theorem checkBinary_monitors (l : RegisterLine τ) (vdst vsrc1 vsrc2 : Nat)
    (dstType srcType1 srcType2 : PrimitiveType) (checkBooleanOp : Bool) (log : Log) :
    (l.checkBinary T P vdst vsrc1 vsrc2 dstType srcType1 srcType2 checkBooleanOp log).1.monitors =
      l.monitors := by
  unfold checkBinary
  split
  · rfl
  · split <;> simp

@[simp] theorem checkLiteralOp_monitors (l : RegisterLine τ) (vA vB : Nat) (val : Int)
    (dstType srcType : Cat1Primitive) (checkBooleanOp : Bool) (log : Log) :
    (l.checkLiteralOp T P vA vB val dstType srcType checkBooleanOp log).1.monitors =
      l.monitors := by
  unfold checkLiteralOp
  split <;> simp

end Primitive

/-! ### Monitors -/

/-- `PushMonitor(reg_idx, insn_idx)`. -/
def pushMonitor (l : RegisterLine τ) (regIdx insnIdx : Nat) (log : Log) : RegisterLine τ × Log :=
  let regType := l.getRegisterType T regIdx
  if !T.isReferenceTypes regType then
    (l, log.fail .hard ("monitor-enter on non-object (" ++ T.dump regType ++ ")"))
  else if l.monitors.length ≥ 32 then
    (l, log.fail .hard ("monitor-enter stack overflow: " ++ toString l.monitors.length))
  else
    ({ l.setRegToLockDepth regIdx l.monitors.length with monitors := l.monitors ++ [insnIdx] }, log)

/-- `PopMonitor(reg_idx)`.  A pop of a monitor that the register did not lock is a soft failure
from dex file version 36 on, and a line of verifier information before. -/
def popMonitor (dexFileVersion : Nat) (l : RegisterLine τ) (regIdx : Nat) (log : Log) :
    RegisterLine τ × Log :=
  let regType := l.getRegisterType T regIdx
  if !T.isReferenceTypes regType then
    (l, log.fail .hard ("monitor-exit on non-object (" ++ T.dump regType ++ ")"))
  else if l.monitors = [] then
    (l, log.fail .hard "monitor-exit stack underflow")
  else
    let l := { l with monitors := l.monitors.dropLast }
    if !l.isSetLockDepth regIdx l.monitors.length then
      let msg := "monitor-exit not unlocking the top of the monitor stack"
      (l, if dexFileVersion ≥ 36 then log.fail .soft msg else log.info msg)
    else
      (l.clearRegToLockDepth regIdx l.monitors.length, log)

/-- `VerifyMonitorStackEmpty()`. -/
def verifyMonitorStackEmpty (l : RegisterLine τ) (log : Log) : Bool × Log :=
  if l.monitorStackDepth ≠ 0 then (false, log.fail .hard "expected empty monitor stack")
  else (true, log)

omit [DecidableEq τ] in
/-- **A `monitor-enter` that passes pushes its dex pc.** -/
theorem pushMonitor_monitors {l : RegisterLine τ} {regIdx insnIdx : Nat} {log : Log}
    (h : (l.pushMonitor T regIdx insnIdx log).2.havePendingHardFailure = false) :
    (l.pushMonitor T regIdx insnIdx log).1.monitors = l.monitors ++ [insnIdx] := by
  unfold pushMonitor at h ⊢
  dsimp only at h ⊢
  split_ifs at h ⊢
  · simp at h
  · simp at h
  · rfl

omit [DecidableEq τ] in
/-- **A `monitor-exit` that passes pops the monitor stack**, which held a monitor. -/
theorem popMonitor_monitors {dexFileVersion : Nat} {l : RegisterLine τ} {regIdx : Nat} {log : Log}
    (h : (l.popMonitor T dexFileVersion regIdx log).2.havePendingHardFailure = false) :
    l.monitors ≠ [] ∧
      (l.popMonitor T dexFileVersion regIdx log).1.monitors = l.monitors.dropLast := by
  unfold popMonitor at h ⊢
  dsimp only at h ⊢
  split_ifs at h ⊢ with hobj hempty
  · simp at h
  · simp at h
  all_goals exact ⟨hempty, rfl⟩

/-! ### Merging -/

/-- The register loop of `MergeRegisters`: each register whose type differs from the incoming
one takes `Merge` of the two; the flag says whether one changed. -/
def mergeLine : List τ → List τ → Bool × List τ
  | cur :: curs, inc :: incs =>
    let rest := mergeLine curs incs
    if cur ≠ inc then
      let newType := T.merge cur inc
      (rest.1 || newType ≠ cur, newType :: rest.2)
    else (rest.1, cur :: rest.2)
  | curs, _ => (false, curs)

/-- The `reg_to_lock_depths_` loop of `MergeRegisters`, from register `idx`, for `fuel` more
registers: an entry that only one of the lines has is erased.  The loop compares the counts of
the entries, `0` or `1`, so its warning and `break` are never reached. -/
def mergeLockDepths (incoming : List Nat) : Nat → Nat → List Nat → List Nat × Option String
  | 0, _, depthsMap => (depthsMap, none)
  | fuel + 1, idx, depthsMap =>
    let depths := if depthsMap.getD idx 0 ≠ 0 then 1 else 0
    let incomingDepths := if incoming.getD idx 0 ≠ 0 then 1 else 0
    if depths ≠ incomingDepths then
      if depths = 0 ∨ incomingDepths = 0 then
        mergeLockDepths incoming fuel (idx + 1) (depthsMap.set idx 0)
      else
        (depthsMap, some ("mismatched stack depths for register v" ++ toString idx ++ ": " ++
          toString depths ++ " != " ++ toString incomingDepths))
    else mergeLockDepths incoming fuel (idx + 1) depthsMap

/-- `MergeRegisters(incoming_line)`: whether a register type changed, the merged line, and the
log.  Monitor stacks of different depths are only warned about. -/
def mergeRegisters (l incoming : RegisterLine τ) (log : Log) : Bool × RegisterLine τ × Log :=
  let merged := mergeLine T l.line incoming.line
  let changed := merged.1
  let l := { l with line := merged.2 }
  if l.monitors.length ≠ incoming.monitors.length then
    (changed, l, log.warn ("mismatched stack depths (depth=" ++ toString l.monitorStackDepth ++
      ", incoming depth=" ++ toString incoming.monitorStackDepth ++ ")"))
  else if l.regToLockDepths ≠ incoming.regToLockDepths then
    match mergeLockDepths incoming.regToLockDepths l.line.length 0 l.regToLockDepths with
    | (depthsMap, none) => (changed, { l with regToLockDepths := depthsMap }, log)
    | (depthsMap, some msg) => (changed, { l with regToLockDepths := depthsMap }, log.warn msg)
  else (changed, l, log)

/-- **The merge keeps the target's monitor stack**, whatever the incoming line holds. -/
theorem mergeRegisters_monitors (l incoming : RegisterLine τ) (log : Log) :
    (mergeRegisters T l incoming log).2.1.monitors = l.monitors := by
  simp only [mergeRegisters]
  split_ifs
  · rfl
  · split <;> rfl
  · rfl

/-- The merge records no failure. -/
theorem mergeRegisters_havePendingHardFailure (l incoming : RegisterLine τ) (log : Log) :
    (mergeRegisters T l incoming log).2.2.havePendingHardFailure = log.havePendingHardFailure := by
  simp only [mergeRegisters]
  split_ifs
  · rfl
  · split <;> rfl
  · rfl

theorem mergeRegisters_failures (l incoming : RegisterLine τ) (log : Log) :
    (mergeRegisters T l incoming log).2.2.failures = log.failures := by
  simp only [mergeRegisters]
  split_ifs
  · rfl
  · split <;> rfl
  · rfl

end RegisterLine

end Verifier

end Art
