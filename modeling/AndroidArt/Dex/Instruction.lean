import AndroidArt.Lib.Word

/-!
# Dalvik instructions: opcode table, sizes and operand decoders

Model of `runtime/dex_instruction.h`, `dex_instruction-inl.h`, `dex_instruction.cc` and the
`DEX_INSTRUCTION_LIST` of `dex_instruction_list.h`.

An instruction is read in place from the method's code units.  `CodeUnits` is the memory at
and after `insns_`, one 16-bit unit per index: it is total because the C++ code reads through a
raw pointer, so a model of a read past the end of an `insns` array still returns the unit that
is stored there (the code item's padding, try items or handler data).

* `kInstructionTable` — the 256 rows of `DEX_INSTRUCTION_LIST` (name, format, flags, verify
  flags); `kInstructionSizeInCodeUnits` is computed from the format exactly as the
  `INSTRUCTION_SIZE` macro does.
* `sizeInCodeUnits` — `Instruction::SizeInCodeUnits`, with the variable-length NOP payloads of
  `SizeInCodeUnitsComplexOpcode` computed in the `int` and `uint32_t` arithmetic of the source:
  the size of a fill-array-data payload wraps modulo `2^32`.
* `vRegA`, `vRegB`, `vRegC`, `getVarArgs` — the operand decoders, each format's case as in
  `dex_instruction-inl.h`, with signed fields sign-extended from their width.

Principal results: `sizeInCodeUnits_pos` (every instruction advances the walk) and
`sizeInCodeUnits_complex` (the size of a payload read from its header).

The model reads `inst_data` as `Fetch16(0)`, so the `DCHECK_EQ` of `Opcode` holds and a debug and
a release build decode alike.
-/

set_option autoImplicit false

namespace Art

/-- The 16-bit code units at and after `insns_`. -/
abbrev CodeUnits := Nat → UInt16

namespace Instruction

/-- `Instruction::Format`, in the order of the enum (the size table compares formats). -/
inductive Format where
  | k10x | k12x | k11n | k11x | k10t | k20t | k22x | k21t | k21s | k21h | k21c | k23x
  | k22b | k22t | k22s | k22c | k32x | k30t | k31t | k31i | k31c | k35c | k3rc | k51l
  deriving DecidableEq, Repr, Inhabited

/-! ## `enum Flags` and `enum VerifyFlag` -/

def kBranch : Nat := 0x000001
def kContinue : Nat := 0x000002
def kSwitch : Nat := 0x000004
def kThrow : Nat := 0x000008
def kReturn : Nat := 0x000010
def kInvoke : Nat := 0x000020
def kUnconditional : Nat := 0x000040
def kAdd : Nat := 0x000080
def kSubtract : Nat := 0x000100
def kMultiply : Nat := 0x000200
def kDivide : Nat := 0x000400
def kRemainder : Nat := 0x000800
def kAnd : Nat := 0x001000
def kOr : Nat := 0x002000
def kXor : Nat := 0x004000
def kShl : Nat := 0x008000
def kShr : Nat := 0x010000
def kUshr : Nat := 0x020000
def kCast : Nat := 0x040000
def kStore : Nat := 0x080000
def kLoad : Nat := 0x100000
def kClobber : Nat := 0x200000
def kRegCFieldOrConstant : Nat := 0x400000
def kRegBFieldOrConstant : Nat := 0x800000

def kVerifyNone : Nat := 0x000000
def kVerifyRegA : Nat := 0x000001
def kVerifyRegAWide : Nat := 0x000002
def kVerifyRegB : Nat := 0x000004
def kVerifyRegBField : Nat := 0x000008
def kVerifyRegBMethod : Nat := 0x000010
def kVerifyRegBNewInstance : Nat := 0x000020
def kVerifyRegBString : Nat := 0x000040
def kVerifyRegBType : Nat := 0x000080
def kVerifyRegBWide : Nat := 0x000100
def kVerifyRegC : Nat := 0x000200
def kVerifyRegCField : Nat := 0x000400
def kVerifyRegCNewArray : Nat := 0x000800
def kVerifyRegCType : Nat := 0x001000
def kVerifyRegCWide : Nat := 0x002000
def kVerifyArrayData : Nat := 0x004000
def kVerifyBranchTarget : Nat := 0x008000
def kVerifySwitchTargets : Nat := 0x010000
def kVerifyVarArg : Nat := 0x020000
def kVerifyVarArgNonZero : Nat := 0x040000
def kVerifyVarArgRange : Nat := 0x080000
def kVerifyVarArgRangeNonZero : Nat := 0x100000
def kVerifyRuntimeOnly : Nat := 0x200000
def kVerifyError : Nat := 0x400000

/-- NOP-encoded payload signatures. -/
def kPackedSwitchSignature : Nat := 0x0100
def kSparseSwitchSignature : Nat := 0x0200
def kArrayDataSignature : Nat := 0x0300

def kMaxVarArgRegs : Nat := 5

/-! ## `DEX_INSTRUCTION_LIST` -/

/-- One row of `DEX_INSTRUCTION_LIST`: name, format, flags and verify flags (the reference
type and the "writes vA" column are read by nothing modelled here). -/
structure OpInfo where
  name : String
  format : Format
  flags : Nat
  verifyFlags : Nat
  deriving Inhabited

/-- The instruction list, indexed by opcode. -/
def kInstructionTable : Array OpInfo := #[
  ⟨"nop", .k10x, kContinue, kVerifyNone⟩,  -- 0x00
  ⟨"move", .k12x, kContinue, kVerifyRegA ||| kVerifyRegB⟩,  -- 0x01
  ⟨"move/from16", .k22x, kContinue, kVerifyRegA ||| kVerifyRegB⟩,  -- 0x02
  ⟨"move/16", .k32x, kContinue, kVerifyRegA ||| kVerifyRegB⟩,  -- 0x03
  ⟨"move-wide", .k12x, kContinue, kVerifyRegAWide ||| kVerifyRegBWide⟩,  -- 0x04
  ⟨"move-wide/from16", .k22x, kContinue, kVerifyRegAWide ||| kVerifyRegBWide⟩,  -- 0x05
  ⟨"move-wide/16", .k32x, kContinue, kVerifyRegAWide ||| kVerifyRegBWide⟩,  -- 0x06
  ⟨"move-object", .k12x, kContinue, kVerifyRegA ||| kVerifyRegB⟩,  -- 0x07
  ⟨"move-object/from16", .k22x, kContinue, kVerifyRegA ||| kVerifyRegB⟩,  -- 0x08
  ⟨"move-object/16", .k32x, kContinue, kVerifyRegA ||| kVerifyRegB⟩,  -- 0x09
  ⟨"move-result", .k11x, kContinue, kVerifyRegA⟩,  -- 0x0A
  ⟨"move-result-wide", .k11x, kContinue, kVerifyRegAWide⟩,  -- 0x0B
  ⟨"move-result-object", .k11x, kContinue, kVerifyRegA⟩,  -- 0x0C
  ⟨"move-exception", .k11x, kContinue, kVerifyRegA⟩,  -- 0x0D
  ⟨"return-void", .k10x, kReturn, kVerifyNone⟩,  -- 0x0E
  ⟨"return", .k11x, kReturn, kVerifyRegA⟩,  -- 0x0F
  ⟨"return-wide", .k11x, kReturn, kVerifyRegAWide⟩,  -- 0x10
  ⟨"return-object", .k11x, kReturn, kVerifyRegA⟩,  -- 0x11
  ⟨"const/4", .k11n, kContinue ||| kRegBFieldOrConstant, kVerifyRegA⟩,  -- 0x12
  ⟨"const/16", .k21s, kContinue ||| kRegBFieldOrConstant, kVerifyRegA⟩,  -- 0x13
  ⟨"const", .k31i, kContinue ||| kRegBFieldOrConstant, kVerifyRegA⟩,  -- 0x14
  ⟨"const/high16", .k21h, kContinue ||| kRegBFieldOrConstant, kVerifyRegA⟩,  -- 0x15
  ⟨"const-wide/16", .k21s, kContinue ||| kRegBFieldOrConstant, kVerifyRegAWide⟩,  -- 0x16
  ⟨"const-wide/32", .k31i, kContinue ||| kRegBFieldOrConstant, kVerifyRegAWide⟩,  -- 0x17
  ⟨"const-wide", .k51l, kContinue ||| kRegBFieldOrConstant, kVerifyRegAWide⟩,  -- 0x18
  ⟨"const-wide/high16", .k21h, kContinue ||| kRegBFieldOrConstant, kVerifyRegAWide⟩,  -- 0x19
  ⟨"const-string", .k21c, kContinue ||| kThrow, kVerifyRegA ||| kVerifyRegBString⟩,  -- 0x1A
  ⟨"const-string/jumbo", .k31c, kContinue ||| kThrow, kVerifyRegA ||| kVerifyRegBString⟩,  -- 0x1B
  ⟨"const-class", .k21c, kContinue ||| kThrow, kVerifyRegA ||| kVerifyRegBType⟩,  -- 0x1C
  ⟨"monitor-enter", .k11x, kContinue ||| kThrow ||| kClobber, kVerifyRegA⟩,  -- 0x1D
  ⟨"monitor-exit", .k11x, kContinue ||| kThrow ||| kClobber, kVerifyRegA⟩,  -- 0x1E
  ⟨"check-cast", .k21c, kContinue ||| kThrow, kVerifyRegA ||| kVerifyRegBType⟩,  -- 0x1F
  ⟨"instance-of", .k22c, kContinue ||| kThrow,
    kVerifyRegA ||| kVerifyRegB ||| kVerifyRegCType⟩,  -- 0x20
  ⟨"array-length", .k12x, kContinue ||| kThrow, kVerifyRegA ||| kVerifyRegB⟩,  -- 0x21
  ⟨"new-instance", .k21c, kContinue ||| kThrow ||| kClobber,
    kVerifyRegA ||| kVerifyRegBNewInstance⟩,  -- 0x22
  ⟨"new-array", .k22c, kContinue ||| kThrow ||| kClobber,
    kVerifyRegA ||| kVerifyRegB ||| kVerifyRegCNewArray⟩,  -- 0x23
  ⟨"filled-new-array", .k35c, kContinue ||| kThrow ||| kClobber,
    kVerifyRegBType ||| kVerifyVarArg⟩,  -- 0x24
  ⟨"filled-new-array/range", .k3rc, kContinue ||| kThrow ||| kClobber,
    kVerifyRegBType ||| kVerifyVarArgRange⟩,  -- 0x25
  ⟨"fill-array-data", .k31t, kContinue ||| kThrow ||| kClobber,
    kVerifyRegA ||| kVerifyArrayData⟩,  -- 0x26
  ⟨"throw", .k11x, kThrow, kVerifyRegA⟩,  -- 0x27
  ⟨"goto", .k10t, kBranch ||| kUnconditional, kVerifyBranchTarget⟩,  -- 0x28
  ⟨"goto/16", .k20t, kBranch ||| kUnconditional, kVerifyBranchTarget⟩,  -- 0x29
  ⟨"goto/32", .k30t, kBranch ||| kUnconditional, kVerifyBranchTarget⟩,  -- 0x2A
  ⟨"packed-switch", .k31t, kContinue ||| kSwitch, kVerifyRegA ||| kVerifySwitchTargets⟩,  -- 0x2B
  ⟨"sparse-switch", .k31t, kContinue ||| kSwitch, kVerifyRegA ||| kVerifySwitchTargets⟩,  -- 0x2C
  ⟨"cmpl-float", .k23x, kContinue, kVerifyRegA ||| kVerifyRegB ||| kVerifyRegC⟩,  -- 0x2D
  ⟨"cmpg-float", .k23x, kContinue, kVerifyRegA ||| kVerifyRegB ||| kVerifyRegC⟩,  -- 0x2E
  ⟨"cmpl-double", .k23x, kContinue, kVerifyRegA ||| kVerifyRegBWide ||| kVerifyRegCWide⟩,  -- 0x2F
  ⟨"cmpg-double", .k23x, kContinue, kVerifyRegA ||| kVerifyRegBWide ||| kVerifyRegCWide⟩,  -- 0x30
  ⟨"cmp-long", .k23x, kContinue, kVerifyRegA ||| kVerifyRegBWide ||| kVerifyRegCWide⟩,  -- 0x31
  ⟨"if-eq", .k22t, kContinue ||| kBranch,
    kVerifyRegA ||| kVerifyRegB ||| kVerifyBranchTarget⟩,  -- 0x32
  ⟨"if-ne", .k22t, kContinue ||| kBranch,
    kVerifyRegA ||| kVerifyRegB ||| kVerifyBranchTarget⟩,  -- 0x33
  ⟨"if-lt", .k22t, kContinue ||| kBranch,
    kVerifyRegA ||| kVerifyRegB ||| kVerifyBranchTarget⟩,  -- 0x34
  ⟨"if-ge", .k22t, kContinue ||| kBranch,
    kVerifyRegA ||| kVerifyRegB ||| kVerifyBranchTarget⟩,  -- 0x35
  ⟨"if-gt", .k22t, kContinue ||| kBranch,
    kVerifyRegA ||| kVerifyRegB ||| kVerifyBranchTarget⟩,  -- 0x36
  ⟨"if-le", .k22t, kContinue ||| kBranch,
    kVerifyRegA ||| kVerifyRegB ||| kVerifyBranchTarget⟩,  -- 0x37
  ⟨"if-eqz", .k21t, kContinue ||| kBranch, kVerifyRegA ||| kVerifyBranchTarget⟩,  -- 0x38
  ⟨"if-nez", .k21t, kContinue ||| kBranch, kVerifyRegA ||| kVerifyBranchTarget⟩,  -- 0x39
  ⟨"if-ltz", .k21t, kContinue ||| kBranch, kVerifyRegA ||| kVerifyBranchTarget⟩,  -- 0x3A
  ⟨"if-gez", .k21t, kContinue ||| kBranch, kVerifyRegA ||| kVerifyBranchTarget⟩,  -- 0x3B
  ⟨"if-gtz", .k21t, kContinue ||| kBranch, kVerifyRegA ||| kVerifyBranchTarget⟩,  -- 0x3C
  ⟨"if-lez", .k21t, kContinue ||| kBranch, kVerifyRegA ||| kVerifyBranchTarget⟩,  -- 0x3D
  ⟨"unused-3e", .k10x, 0, kVerifyError⟩,  -- 0x3E
  ⟨"unused-3f", .k10x, 0, kVerifyError⟩,  -- 0x3F
  ⟨"unused-40", .k10x, 0, kVerifyError⟩,  -- 0x40
  ⟨"unused-41", .k10x, 0, kVerifyError⟩,  -- 0x41
  ⟨"unused-42", .k10x, 0, kVerifyError⟩,  -- 0x42
  ⟨"unused-43", .k10x, 0, kVerifyError⟩,  -- 0x43
  ⟨"aget", .k23x, kContinue ||| kThrow ||| kLoad,
    kVerifyRegA ||| kVerifyRegB ||| kVerifyRegC⟩,  -- 0x44
  ⟨"aget-wide", .k23x, kContinue ||| kThrow ||| kLoad,
    kVerifyRegAWide ||| kVerifyRegB ||| kVerifyRegC⟩,  -- 0x45
  ⟨"aget-object", .k23x, kContinue ||| kThrow ||| kLoad,
    kVerifyRegA ||| kVerifyRegB ||| kVerifyRegC⟩,  -- 0x46
  ⟨"aget-boolean", .k23x, kContinue ||| kThrow ||| kLoad,
    kVerifyRegA ||| kVerifyRegB ||| kVerifyRegC⟩,  -- 0x47
  ⟨"aget-byte", .k23x, kContinue ||| kThrow ||| kLoad,
    kVerifyRegA ||| kVerifyRegB ||| kVerifyRegC⟩,  -- 0x48
  ⟨"aget-char", .k23x, kContinue ||| kThrow ||| kLoad,
    kVerifyRegA ||| kVerifyRegB ||| kVerifyRegC⟩,  -- 0x49
  ⟨"aget-short", .k23x, kContinue ||| kThrow ||| kLoad,
    kVerifyRegA ||| kVerifyRegB ||| kVerifyRegC⟩,  -- 0x4A
  ⟨"aput", .k23x, kContinue ||| kThrow ||| kStore,
    kVerifyRegA ||| kVerifyRegB ||| kVerifyRegC⟩,  -- 0x4B
  ⟨"aput-wide", .k23x, kContinue ||| kThrow ||| kStore,
    kVerifyRegAWide ||| kVerifyRegB ||| kVerifyRegC⟩,  -- 0x4C
  ⟨"aput-object", .k23x, kContinue ||| kThrow ||| kStore,
    kVerifyRegA ||| kVerifyRegB ||| kVerifyRegC⟩,  -- 0x4D
  ⟨"aput-boolean", .k23x, kContinue ||| kThrow ||| kStore,
    kVerifyRegA ||| kVerifyRegB ||| kVerifyRegC⟩,  -- 0x4E
  ⟨"aput-byte", .k23x, kContinue ||| kThrow ||| kStore,
    kVerifyRegA ||| kVerifyRegB ||| kVerifyRegC⟩,  -- 0x4F
  ⟨"aput-char", .k23x, kContinue ||| kThrow ||| kStore,
    kVerifyRegA ||| kVerifyRegB ||| kVerifyRegC⟩,  -- 0x50
  ⟨"aput-short", .k23x, kContinue ||| kThrow ||| kStore,
    kVerifyRegA ||| kVerifyRegB ||| kVerifyRegC⟩,  -- 0x51
  ⟨"iget", .k22c, kContinue ||| kThrow ||| kLoad ||| kRegCFieldOrConstant,
    kVerifyRegA ||| kVerifyRegB ||| kVerifyRegCField⟩,  -- 0x52
  ⟨"iget-wide", .k22c, kContinue ||| kThrow ||| kLoad ||| kRegCFieldOrConstant,
    kVerifyRegAWide ||| kVerifyRegB ||| kVerifyRegCField⟩,  -- 0x53
  ⟨"iget-object", .k22c, kContinue ||| kThrow ||| kLoad ||| kRegCFieldOrConstant,
    kVerifyRegA ||| kVerifyRegB ||| kVerifyRegCField⟩,  -- 0x54
  ⟨"iget-boolean", .k22c, kContinue ||| kThrow ||| kLoad ||| kRegCFieldOrConstant,
    kVerifyRegA ||| kVerifyRegB ||| kVerifyRegCField⟩,  -- 0x55
  ⟨"iget-byte", .k22c, kContinue ||| kThrow ||| kLoad ||| kRegCFieldOrConstant,
    kVerifyRegA ||| kVerifyRegB ||| kVerifyRegCField⟩,  -- 0x56
  ⟨"iget-char", .k22c, kContinue ||| kThrow ||| kLoad ||| kRegCFieldOrConstant,
    kVerifyRegA ||| kVerifyRegB ||| kVerifyRegCField⟩,  -- 0x57
  ⟨"iget-short", .k22c, kContinue ||| kThrow ||| kLoad ||| kRegCFieldOrConstant,
    kVerifyRegA ||| kVerifyRegB ||| kVerifyRegCField⟩,  -- 0x58
  ⟨"iput", .k22c, kContinue ||| kThrow ||| kStore ||| kRegCFieldOrConstant,
    kVerifyRegA ||| kVerifyRegB ||| kVerifyRegCField⟩,  -- 0x59
  ⟨"iput-wide", .k22c, kContinue ||| kThrow ||| kStore ||| kRegCFieldOrConstant,
    kVerifyRegAWide ||| kVerifyRegB ||| kVerifyRegCField⟩,  -- 0x5A
  ⟨"iput-object", .k22c, kContinue ||| kThrow ||| kStore ||| kRegCFieldOrConstant,
    kVerifyRegA ||| kVerifyRegB ||| kVerifyRegCField⟩,  -- 0x5B
  ⟨"iput-boolean", .k22c, kContinue ||| kThrow ||| kStore ||| kRegCFieldOrConstant,
    kVerifyRegA ||| kVerifyRegB ||| kVerifyRegCField⟩,  -- 0x5C
  ⟨"iput-byte", .k22c, kContinue ||| kThrow ||| kStore ||| kRegCFieldOrConstant,
    kVerifyRegA ||| kVerifyRegB ||| kVerifyRegCField⟩,  -- 0x5D
  ⟨"iput-char", .k22c, kContinue ||| kThrow ||| kStore ||| kRegCFieldOrConstant,
    kVerifyRegA ||| kVerifyRegB ||| kVerifyRegCField⟩,  -- 0x5E
  ⟨"iput-short", .k22c, kContinue ||| kThrow ||| kStore ||| kRegCFieldOrConstant,
    kVerifyRegA ||| kVerifyRegB ||| kVerifyRegCField⟩,  -- 0x5F
  ⟨"sget", .k21c, kContinue ||| kThrow ||| kLoad ||| kRegBFieldOrConstant,
    kVerifyRegA ||| kVerifyRegBField⟩,  -- 0x60
  ⟨"sget-wide", .k21c, kContinue ||| kThrow ||| kLoad ||| kRegBFieldOrConstant,
    kVerifyRegAWide ||| kVerifyRegBField⟩,  -- 0x61
  ⟨"sget-object", .k21c, kContinue ||| kThrow ||| kLoad ||| kRegBFieldOrConstant,
    kVerifyRegA ||| kVerifyRegBField⟩,  -- 0x62
  ⟨"sget-boolean", .k21c, kContinue ||| kThrow ||| kLoad ||| kRegBFieldOrConstant,
    kVerifyRegA ||| kVerifyRegBField⟩,  -- 0x63
  ⟨"sget-byte", .k21c, kContinue ||| kThrow ||| kLoad ||| kRegBFieldOrConstant,
    kVerifyRegA ||| kVerifyRegBField⟩,  -- 0x64
  ⟨"sget-char", .k21c, kContinue ||| kThrow ||| kLoad ||| kRegBFieldOrConstant,
    kVerifyRegA ||| kVerifyRegBField⟩,  -- 0x65
  ⟨"sget-short", .k21c, kContinue ||| kThrow ||| kLoad ||| kRegBFieldOrConstant,
    kVerifyRegA ||| kVerifyRegBField⟩,  -- 0x66
  ⟨"sput", .k21c, kContinue ||| kThrow ||| kStore ||| kRegBFieldOrConstant,
    kVerifyRegA ||| kVerifyRegBField⟩,  -- 0x67
  ⟨"sput-wide", .k21c, kContinue ||| kThrow ||| kStore ||| kRegBFieldOrConstant,
    kVerifyRegAWide ||| kVerifyRegBField⟩,  -- 0x68
  ⟨"sput-object", .k21c, kContinue ||| kThrow ||| kStore ||| kRegBFieldOrConstant,
    kVerifyRegA ||| kVerifyRegBField⟩,  -- 0x69
  ⟨"sput-boolean", .k21c, kContinue ||| kThrow ||| kStore ||| kRegBFieldOrConstant,
    kVerifyRegA ||| kVerifyRegBField⟩,  -- 0x6A
  ⟨"sput-byte", .k21c, kContinue ||| kThrow ||| kStore ||| kRegBFieldOrConstant,
    kVerifyRegA ||| kVerifyRegBField⟩,  -- 0x6B
  ⟨"sput-char", .k21c, kContinue ||| kThrow ||| kStore ||| kRegBFieldOrConstant,
    kVerifyRegA ||| kVerifyRegBField⟩,  -- 0x6C
  ⟨"sput-short", .k21c, kContinue ||| kThrow ||| kStore ||| kRegBFieldOrConstant,
    kVerifyRegA ||| kVerifyRegBField⟩,  -- 0x6D
  ⟨"invoke-virtual", .k35c, kContinue ||| kThrow ||| kInvoke,
    kVerifyRegBMethod ||| kVerifyVarArgNonZero⟩,  -- 0x6E
  ⟨"invoke-super", .k35c, kContinue ||| kThrow ||| kInvoke,
    kVerifyRegBMethod ||| kVerifyVarArgNonZero⟩,  -- 0x6F
  ⟨"invoke-direct", .k35c, kContinue ||| kThrow ||| kInvoke,
    kVerifyRegBMethod ||| kVerifyVarArgNonZero⟩,  -- 0x70
  ⟨"invoke-static", .k35c, kContinue ||| kThrow ||| kInvoke,
    kVerifyRegBMethod ||| kVerifyVarArg⟩,  -- 0x71
  ⟨"invoke-interface", .k35c, kContinue ||| kThrow ||| kInvoke,
    kVerifyRegBMethod ||| kVerifyVarArgNonZero⟩,  -- 0x72
  ⟨"return-void-barrier", .k10x, kReturn, kVerifyNone⟩,  -- 0x73
  ⟨"invoke-virtual/range", .k3rc, kContinue ||| kThrow ||| kInvoke,
    kVerifyRegBMethod ||| kVerifyVarArgRangeNonZero⟩,  -- 0x74
  ⟨"invoke-super/range", .k3rc, kContinue ||| kThrow ||| kInvoke,
    kVerifyRegBMethod ||| kVerifyVarArgRangeNonZero⟩,  -- 0x75
  ⟨"invoke-direct/range", .k3rc, kContinue ||| kThrow ||| kInvoke,
    kVerifyRegBMethod ||| kVerifyVarArgRangeNonZero⟩,  -- 0x76
  ⟨"invoke-static/range", .k3rc, kContinue ||| kThrow ||| kInvoke,
    kVerifyRegBMethod ||| kVerifyVarArgRange⟩,  -- 0x77
  ⟨"invoke-interface/range", .k3rc, kContinue ||| kThrow ||| kInvoke,
    kVerifyRegBMethod ||| kVerifyVarArgRangeNonZero⟩,  -- 0x78
  ⟨"unused-79", .k10x, 0, kVerifyError⟩,  -- 0x79
  ⟨"unused-7a", .k10x, 0, kVerifyError⟩,  -- 0x7A
  ⟨"neg-int", .k12x, kContinue, kVerifyRegA ||| kVerifyRegB⟩,  -- 0x7B
  ⟨"not-int", .k12x, kContinue, kVerifyRegA ||| kVerifyRegB⟩,  -- 0x7C
  ⟨"neg-long", .k12x, kContinue, kVerifyRegAWide ||| kVerifyRegBWide⟩,  -- 0x7D
  ⟨"not-long", .k12x, kContinue, kVerifyRegAWide ||| kVerifyRegBWide⟩,  -- 0x7E
  ⟨"neg-float", .k12x, kContinue, kVerifyRegA ||| kVerifyRegB⟩,  -- 0x7F
  ⟨"neg-double", .k12x, kContinue, kVerifyRegAWide ||| kVerifyRegBWide⟩,  -- 0x80
  ⟨"int-to-long", .k12x, kContinue ||| kCast, kVerifyRegAWide ||| kVerifyRegB⟩,  -- 0x81
  ⟨"int-to-float", .k12x, kContinue ||| kCast, kVerifyRegA ||| kVerifyRegB⟩,  -- 0x82
  ⟨"int-to-double", .k12x, kContinue ||| kCast, kVerifyRegAWide ||| kVerifyRegB⟩,  -- 0x83
  ⟨"long-to-int", .k12x, kContinue ||| kCast, kVerifyRegA ||| kVerifyRegBWide⟩,  -- 0x84
  ⟨"long-to-float", .k12x, kContinue ||| kCast, kVerifyRegA ||| kVerifyRegBWide⟩,  -- 0x85
  ⟨"long-to-double", .k12x, kContinue ||| kCast, kVerifyRegAWide ||| kVerifyRegBWide⟩,  -- 0x86
  ⟨"float-to-int", .k12x, kContinue ||| kCast, kVerifyRegA ||| kVerifyRegB⟩,  -- 0x87
  ⟨"float-to-long", .k12x, kContinue ||| kCast, kVerifyRegAWide ||| kVerifyRegB⟩,  -- 0x88
  ⟨"float-to-double", .k12x, kContinue ||| kCast, kVerifyRegAWide ||| kVerifyRegB⟩,  -- 0x89
  ⟨"double-to-int", .k12x, kContinue ||| kCast, kVerifyRegA ||| kVerifyRegBWide⟩,  -- 0x8A
  ⟨"double-to-long", .k12x, kContinue ||| kCast, kVerifyRegAWide ||| kVerifyRegBWide⟩,  -- 0x8B
  ⟨"double-to-float", .k12x, kContinue ||| kCast, kVerifyRegA ||| kVerifyRegBWide⟩,  -- 0x8C
  ⟨"int-to-byte", .k12x, kContinue ||| kCast, kVerifyRegA ||| kVerifyRegB⟩,  -- 0x8D
  ⟨"int-to-char", .k12x, kContinue ||| kCast, kVerifyRegA ||| kVerifyRegB⟩,  -- 0x8E
  ⟨"int-to-short", .k12x, kContinue ||| kCast, kVerifyRegA ||| kVerifyRegB⟩,  -- 0x8F
  ⟨"add-int", .k23x, kContinue ||| kAdd, kVerifyRegA ||| kVerifyRegB ||| kVerifyRegC⟩,  -- 0x90
  ⟨"sub-int", .k23x, kContinue ||| kSubtract, kVerifyRegA ||| kVerifyRegB ||| kVerifyRegC⟩,  -- 0x91
  ⟨"mul-int", .k23x, kContinue ||| kMultiply, kVerifyRegA ||| kVerifyRegB ||| kVerifyRegC⟩,  -- 0x92
  ⟨"div-int", .k23x, kContinue ||| kThrow ||| kDivide,
    kVerifyRegA ||| kVerifyRegB ||| kVerifyRegC⟩,  -- 0x93
  ⟨"rem-int", .k23x, kContinue ||| kThrow ||| kRemainder,
    kVerifyRegA ||| kVerifyRegB ||| kVerifyRegC⟩,  -- 0x94
  ⟨"and-int", .k23x, kContinue ||| kAnd, kVerifyRegA ||| kVerifyRegB ||| kVerifyRegC⟩,  -- 0x95
  ⟨"or-int", .k23x, kContinue ||| kOr, kVerifyRegA ||| kVerifyRegB ||| kVerifyRegC⟩,  -- 0x96
  ⟨"xor-int", .k23x, kContinue ||| kXor, kVerifyRegA ||| kVerifyRegB ||| kVerifyRegC⟩,  -- 0x97
  ⟨"shl-int", .k23x, kContinue ||| kShl, kVerifyRegA ||| kVerifyRegB ||| kVerifyRegC⟩,  -- 0x98
  ⟨"shr-int", .k23x, kContinue ||| kShr, kVerifyRegA ||| kVerifyRegB ||| kVerifyRegC⟩,  -- 0x99
  ⟨"ushr-int", .k23x, kContinue ||| kUshr, kVerifyRegA ||| kVerifyRegB ||| kVerifyRegC⟩,  -- 0x9A
  ⟨"add-long", .k23x, kContinue ||| kAdd,
    kVerifyRegAWide ||| kVerifyRegBWide ||| kVerifyRegCWide⟩,  -- 0x9B
  ⟨"sub-long", .k23x, kContinue ||| kSubtract,
    kVerifyRegAWide ||| kVerifyRegBWide ||| kVerifyRegCWide⟩,  -- 0x9C
  ⟨"mul-long", .k23x, kContinue ||| kMultiply,
    kVerifyRegAWide ||| kVerifyRegBWide ||| kVerifyRegCWide⟩,  -- 0x9D
  ⟨"div-long", .k23x, kContinue ||| kThrow ||| kDivide,
    kVerifyRegAWide ||| kVerifyRegBWide ||| kVerifyRegCWide⟩,  -- 0x9E
  ⟨"rem-long", .k23x, kContinue ||| kThrow ||| kRemainder,
    kVerifyRegAWide ||| kVerifyRegBWide ||| kVerifyRegCWide⟩,  -- 0x9F
  ⟨"and-long", .k23x, kContinue ||| kAnd,
    kVerifyRegAWide ||| kVerifyRegBWide ||| kVerifyRegCWide⟩,  -- 0xA0
  ⟨"or-long", .k23x, kContinue ||| kOr,
    kVerifyRegAWide ||| kVerifyRegBWide ||| kVerifyRegCWide⟩,  -- 0xA1
  ⟨"xor-long", .k23x, kContinue ||| kXor,
    kVerifyRegAWide ||| kVerifyRegBWide ||| kVerifyRegCWide⟩,  -- 0xA2
  ⟨"shl-long", .k23x, kContinue ||| kShl,
    kVerifyRegAWide ||| kVerifyRegBWide ||| kVerifyRegC⟩,  -- 0xA3
  ⟨"shr-long", .k23x, kContinue ||| kShr,
    kVerifyRegAWide ||| kVerifyRegBWide ||| kVerifyRegC⟩,  -- 0xA4
  ⟨"ushr-long", .k23x, kContinue ||| kUshr,
    kVerifyRegAWide ||| kVerifyRegBWide ||| kVerifyRegC⟩,  -- 0xA5
  ⟨"add-float", .k23x, kContinue ||| kAdd, kVerifyRegA ||| kVerifyRegB ||| kVerifyRegC⟩,  -- 0xA6
  ⟨"sub-float", .k23x, kContinue ||| kSubtract,
    kVerifyRegA ||| kVerifyRegB ||| kVerifyRegC⟩,  -- 0xA7
  ⟨"mul-float", .k23x, kContinue ||| kMultiply,
    kVerifyRegA ||| kVerifyRegB ||| kVerifyRegC⟩,  -- 0xA8
  ⟨"div-float", .k23x, kContinue ||| kDivide, kVerifyRegA ||| kVerifyRegB ||| kVerifyRegC⟩,  -- 0xA9
  ⟨"rem-float", .k23x, kContinue ||| kRemainder,
    kVerifyRegA ||| kVerifyRegB ||| kVerifyRegC⟩,  -- 0xAA
  ⟨"add-double", .k23x, kContinue ||| kAdd,
    kVerifyRegAWide ||| kVerifyRegBWide ||| kVerifyRegCWide⟩,  -- 0xAB
  ⟨"sub-double", .k23x, kContinue ||| kSubtract,
    kVerifyRegAWide ||| kVerifyRegBWide ||| kVerifyRegCWide⟩,  -- 0xAC
  ⟨"mul-double", .k23x, kContinue ||| kMultiply,
    kVerifyRegAWide ||| kVerifyRegBWide ||| kVerifyRegCWide⟩,  -- 0xAD
  ⟨"div-double", .k23x, kContinue ||| kDivide,
    kVerifyRegAWide ||| kVerifyRegBWide ||| kVerifyRegCWide⟩,  -- 0xAE
  ⟨"rem-double", .k23x, kContinue ||| kRemainder,
    kVerifyRegAWide ||| kVerifyRegBWide ||| kVerifyRegCWide⟩,  -- 0xAF
  ⟨"add-int/2addr", .k12x, kContinue ||| kAdd, kVerifyRegA ||| kVerifyRegB⟩,  -- 0xB0
  ⟨"sub-int/2addr", .k12x, kContinue ||| kSubtract, kVerifyRegA ||| kVerifyRegB⟩,  -- 0xB1
  ⟨"mul-int/2addr", .k12x, kContinue ||| kMultiply, kVerifyRegA ||| kVerifyRegB⟩,  -- 0xB2
  ⟨"div-int/2addr", .k12x, kContinue ||| kThrow ||| kDivide, kVerifyRegA ||| kVerifyRegB⟩,  -- 0xB3
  ⟨"rem-int/2addr", .k12x, kContinue ||| kThrow ||| kRemainder,
    kVerifyRegA ||| kVerifyRegB⟩,  -- 0xB4
  ⟨"and-int/2addr", .k12x, kContinue ||| kAnd, kVerifyRegA ||| kVerifyRegB⟩,  -- 0xB5
  ⟨"or-int/2addr", .k12x, kContinue ||| kOr, kVerifyRegA ||| kVerifyRegB⟩,  -- 0xB6
  ⟨"xor-int/2addr", .k12x, kContinue ||| kXor, kVerifyRegA ||| kVerifyRegB⟩,  -- 0xB7
  ⟨"shl-int/2addr", .k12x, kContinue ||| kShl, kVerifyRegA ||| kVerifyRegB⟩,  -- 0xB8
  ⟨"shr-int/2addr", .k12x, kContinue ||| kShr, kVerifyRegA ||| kVerifyRegB⟩,  -- 0xB9
  ⟨"ushr-int/2addr", .k12x, kContinue ||| kUshr, kVerifyRegA ||| kVerifyRegB⟩,  -- 0xBA
  ⟨"add-long/2addr", .k12x, kContinue ||| kAdd, kVerifyRegAWide ||| kVerifyRegBWide⟩,  -- 0xBB
  ⟨"sub-long/2addr", .k12x, kContinue ||| kSubtract, kVerifyRegAWide ||| kVerifyRegBWide⟩,  -- 0xBC
  ⟨"mul-long/2addr", .k12x, kContinue ||| kMultiply, kVerifyRegAWide ||| kVerifyRegBWide⟩,  -- 0xBD
  ⟨"div-long/2addr", .k12x, kContinue ||| kThrow ||| kDivide,
    kVerifyRegAWide ||| kVerifyRegBWide⟩,  -- 0xBE
  ⟨"rem-long/2addr", .k12x, kContinue ||| kThrow ||| kRemainder,
    kVerifyRegAWide ||| kVerifyRegBWide⟩,  -- 0xBF
  ⟨"and-long/2addr", .k12x, kContinue ||| kAnd, kVerifyRegAWide ||| kVerifyRegBWide⟩,  -- 0xC0
  ⟨"or-long/2addr", .k12x, kContinue ||| kOr, kVerifyRegAWide ||| kVerifyRegBWide⟩,  -- 0xC1
  ⟨"xor-long/2addr", .k12x, kContinue ||| kXor, kVerifyRegAWide ||| kVerifyRegBWide⟩,  -- 0xC2
  ⟨"shl-long/2addr", .k12x, kContinue ||| kShl, kVerifyRegAWide ||| kVerifyRegB⟩,  -- 0xC3
  ⟨"shr-long/2addr", .k12x, kContinue ||| kShr, kVerifyRegAWide ||| kVerifyRegB⟩,  -- 0xC4
  ⟨"ushr-long/2addr", .k12x, kContinue ||| kUshr, kVerifyRegAWide ||| kVerifyRegB⟩,  -- 0xC5
  ⟨"add-float/2addr", .k12x, kContinue ||| kAdd, kVerifyRegA ||| kVerifyRegB⟩,  -- 0xC6
  ⟨"sub-float/2addr", .k12x, kContinue ||| kSubtract, kVerifyRegA ||| kVerifyRegB⟩,  -- 0xC7
  ⟨"mul-float/2addr", .k12x, kContinue ||| kMultiply, kVerifyRegA ||| kVerifyRegB⟩,  -- 0xC8
  ⟨"div-float/2addr", .k12x, kContinue ||| kDivide, kVerifyRegA ||| kVerifyRegB⟩,  -- 0xC9
  ⟨"rem-float/2addr", .k12x, kContinue ||| kRemainder, kVerifyRegA ||| kVerifyRegB⟩,  -- 0xCA
  ⟨"add-double/2addr", .k12x, kContinue ||| kAdd, kVerifyRegAWide ||| kVerifyRegBWide⟩,  -- 0xCB
  ⟨"sub-double/2addr", .k12x, kContinue ||| kSubtract,
    kVerifyRegAWide ||| kVerifyRegBWide⟩,  -- 0xCC
  ⟨"mul-double/2addr", .k12x, kContinue ||| kMultiply,
    kVerifyRegAWide ||| kVerifyRegBWide⟩,  -- 0xCD
  ⟨"div-double/2addr", .k12x, kContinue ||| kDivide, kVerifyRegAWide ||| kVerifyRegBWide⟩,  -- 0xCE
  ⟨"rem-double/2addr", .k12x, kContinue ||| kRemainder,
    kVerifyRegAWide ||| kVerifyRegBWide⟩,  -- 0xCF
  ⟨"add-int/lit16", .k22s, kContinue ||| kAdd ||| kRegCFieldOrConstant,
    kVerifyRegA ||| kVerifyRegB⟩,  -- 0xD0
  ⟨"rsub-int", .k22s, kContinue ||| kSubtract ||| kRegCFieldOrConstant,
    kVerifyRegA ||| kVerifyRegB⟩,  -- 0xD1
  ⟨"mul-int/lit16", .k22s, kContinue ||| kMultiply ||| kRegCFieldOrConstant,
    kVerifyRegA ||| kVerifyRegB⟩,  -- 0xD2
  ⟨"div-int/lit16", .k22s, kContinue ||| kThrow ||| kDivide ||| kRegCFieldOrConstant,
    kVerifyRegA ||| kVerifyRegB⟩,  -- 0xD3
  ⟨"rem-int/lit16", .k22s, kContinue ||| kThrow ||| kRemainder ||| kRegCFieldOrConstant,
    kVerifyRegA ||| kVerifyRegB⟩,  -- 0xD4
  ⟨"and-int/lit16", .k22s, kContinue ||| kAnd ||| kRegCFieldOrConstant,
    kVerifyRegA ||| kVerifyRegB⟩,  -- 0xD5
  ⟨"or-int/lit16", .k22s, kContinue ||| kOr ||| kRegCFieldOrConstant,
    kVerifyRegA ||| kVerifyRegB⟩,  -- 0xD6
  ⟨"xor-int/lit16", .k22s, kContinue ||| kXor ||| kRegCFieldOrConstant,
    kVerifyRegA ||| kVerifyRegB⟩,  -- 0xD7
  ⟨"add-int/lit8", .k22b, kContinue ||| kAdd ||| kRegCFieldOrConstant,
    kVerifyRegA ||| kVerifyRegB⟩,  -- 0xD8
  ⟨"rsub-int/lit8", .k22b, kContinue ||| kSubtract ||| kRegCFieldOrConstant,
    kVerifyRegA ||| kVerifyRegB⟩,  -- 0xD9
  ⟨"mul-int/lit8", .k22b, kContinue ||| kMultiply ||| kRegCFieldOrConstant,
    kVerifyRegA ||| kVerifyRegB⟩,  -- 0xDA
  ⟨"div-int/lit8", .k22b, kContinue ||| kThrow ||| kDivide ||| kRegCFieldOrConstant,
    kVerifyRegA ||| kVerifyRegB⟩,  -- 0xDB
  ⟨"rem-int/lit8", .k22b, kContinue ||| kThrow ||| kRemainder ||| kRegCFieldOrConstant,
    kVerifyRegA ||| kVerifyRegB⟩,  -- 0xDC
  ⟨"and-int/lit8", .k22b, kContinue ||| kAnd ||| kRegCFieldOrConstant,
    kVerifyRegA ||| kVerifyRegB⟩,  -- 0xDD
  ⟨"or-int/lit8", .k22b, kContinue ||| kOr ||| kRegCFieldOrConstant,
    kVerifyRegA ||| kVerifyRegB⟩,  -- 0xDE
  ⟨"xor-int/lit8", .k22b, kContinue ||| kXor ||| kRegCFieldOrConstant,
    kVerifyRegA ||| kVerifyRegB⟩,  -- 0xDF
  ⟨"shl-int/lit8", .k22b, kContinue ||| kShl ||| kRegCFieldOrConstant,
    kVerifyRegA ||| kVerifyRegB⟩,  -- 0xE0
  ⟨"shr-int/lit8", .k22b, kContinue ||| kShr ||| kRegCFieldOrConstant,
    kVerifyRegA ||| kVerifyRegB⟩,  -- 0xE1
  ⟨"ushr-int/lit8", .k22b, kContinue ||| kUshr ||| kRegCFieldOrConstant,
    kVerifyRegA ||| kVerifyRegB⟩,  -- 0xE2
  ⟨"iget-quick", .k22c, kContinue ||| kThrow ||| kLoad ||| kRegCFieldOrConstant,
    kVerifyRegA ||| kVerifyRegB ||| kVerifyRuntimeOnly⟩,  -- 0xE3
  ⟨"iget-wide-quick", .k22c, kContinue ||| kThrow ||| kLoad ||| kRegCFieldOrConstant,
    kVerifyRegAWide ||| kVerifyRegB ||| kVerifyRuntimeOnly⟩,  -- 0xE4
  ⟨"iget-object-quick", .k22c, kContinue ||| kThrow ||| kLoad ||| kRegCFieldOrConstant,
    kVerifyRegA ||| kVerifyRegB ||| kVerifyRuntimeOnly⟩,  -- 0xE5
  ⟨"iput-quick", .k22c, kContinue ||| kThrow ||| kStore ||| kRegCFieldOrConstant,
    kVerifyRegA ||| kVerifyRegB ||| kVerifyRuntimeOnly⟩,  -- 0xE6
  ⟨"iput-wide-quick", .k22c, kContinue ||| kThrow ||| kStore ||| kRegCFieldOrConstant,
    kVerifyRegAWide ||| kVerifyRegB ||| kVerifyRuntimeOnly⟩,  -- 0xE7
  ⟨"iput-object-quick", .k22c, kContinue ||| kThrow ||| kStore ||| kRegCFieldOrConstant,
    kVerifyRegA ||| kVerifyRegB ||| kVerifyRuntimeOnly⟩,  -- 0xE8
  ⟨"invoke-virtual-quick", .k35c, kContinue ||| kThrow ||| kInvoke,
    kVerifyVarArgNonZero ||| kVerifyRuntimeOnly⟩,  -- 0xE9
  ⟨"invoke-virtual/range-quick", .k3rc, kContinue ||| kThrow ||| kInvoke,
    kVerifyVarArgRangeNonZero ||| kVerifyRuntimeOnly⟩,  -- 0xEA
  ⟨"unused-eb", .k10x, 0, kVerifyError⟩,  -- 0xEB
  ⟨"unused-ec", .k10x, 0, kVerifyError⟩,  -- 0xEC
  ⟨"unused-ed", .k10x, 0, kVerifyError⟩,  -- 0xED
  ⟨"unused-ee", .k10x, 0, kVerifyError⟩,  -- 0xEE
  ⟨"unused-ef", .k10x, 0, kVerifyError⟩,  -- 0xEF
  ⟨"unused-f0", .k10x, 0, kVerifyError⟩,  -- 0xF0
  ⟨"unused-f1", .k10x, 0, kVerifyError⟩,  -- 0xF1
  ⟨"unused-f2", .k10x, 0, kVerifyError⟩,  -- 0xF2
  ⟨"unused-f3", .k10x, 0, kVerifyError⟩,  -- 0xF3
  ⟨"unused-f4", .k10x, 0, kVerifyError⟩,  -- 0xF4
  ⟨"unused-f5", .k10x, 0, kVerifyError⟩,  -- 0xF5
  ⟨"unused-f6", .k10x, 0, kVerifyError⟩,  -- 0xF6
  ⟨"unused-f7", .k10x, 0, kVerifyError⟩,  -- 0xF7
  ⟨"unused-f8", .k10x, 0, kVerifyError⟩,  -- 0xF8
  ⟨"unused-f9", .k10x, 0, kVerifyError⟩,  -- 0xF9
  ⟨"unused-fa", .k10x, 0, kVerifyError⟩,  -- 0xFA
  ⟨"unused-fb", .k10x, 0, kVerifyError⟩,  -- 0xFB
  ⟨"unused-fc", .k10x, 0, kVerifyError⟩,  -- 0xFC
  ⟨"unused-fd", .k10x, 0, kVerifyError⟩,  -- 0xFD
  ⟨"unused-fe", .k10x, 0, kVerifyError⟩,  -- 0xFE
  ⟨"unused-ff", .k10x, 0, kVerifyError⟩  -- 0xFF
]

def name (op : Nat) : String := (kInstructionTable.getD op default).name
def formatOf (op : Nat) : Format := (kInstructionTable.getD op default).format
def flagsOf (op : Nat) : Nat := (kInstructionTable.getD op default).flags
def verifyFlagsOf (op : Nat) : Nat := (kInstructionTable.getD op default).verifyFlags

/-! ### Opcodes the modelled code names -/

def NOP : Nat := 0x00
def MOVE : Nat := 0x01
def MOVE_FROM16 : Nat := 0x02
def MOVE_16 : Nat := 0x03
def MOVE_WIDE : Nat := 0x04
def MOVE_WIDE_FROM16 : Nat := 0x05
def MOVE_WIDE_16 : Nat := 0x06
def MOVE_OBJECT : Nat := 0x07
def MOVE_OBJECT_FROM16 : Nat := 0x08
def MOVE_OBJECT_16 : Nat := 0x09
def MOVE_EXCEPTION : Nat := 0x0D
def RETURN_VOID : Nat := 0x0E
def RETURN : Nat := 0x0F
def RETURN_WIDE : Nat := 0x10
def RETURN_OBJECT : Nat := 0x11
def CONST_4 : Nat := 0x12
def CONST_16 : Nat := 0x13
def CONST : Nat := 0x14
def CONST_HIGH16 : Nat := 0x15
def CONST_WIDE_16 : Nat := 0x16
def CONST_WIDE_32 : Nat := 0x17
def CONST_WIDE : Nat := 0x18
def CONST_WIDE_HIGH16 : Nat := 0x19
def MONITOR_ENTER : Nat := 0x1D
def MONITOR_EXIT : Nat := 0x1E
def CHECK_CAST : Nat := 0x1F
def INSTANCE_OF : Nat := 0x20
def NEW_INSTANCE : Nat := 0x22
def FILL_ARRAY_DATA : Nat := 0x26
def GOTO : Nat := 0x28
def GOTO_16 : Nat := 0x29
def GOTO_32 : Nat := 0x2A
def PACKED_SWITCH : Nat := 0x2B
def SPARSE_SWITCH : Nat := 0x2C
def CMPL_FLOAT : Nat := 0x2D
def CMPG_FLOAT : Nat := 0x2E
def CMPL_DOUBLE : Nat := 0x2F
def CMPG_DOUBLE : Nat := 0x30
def CMP_LONG : Nat := 0x31
def IF_EQ : Nat := 0x32
def IF_NE : Nat := 0x33
def IF_LT : Nat := 0x34
def IF_GE : Nat := 0x35
def IF_GT : Nat := 0x36
def IF_LE : Nat := 0x37
def IF_EQZ : Nat := 0x38
def IF_NEZ : Nat := 0x39
def IF_LTZ : Nat := 0x3A
def IF_GEZ : Nat := 0x3B
def IF_GTZ : Nat := 0x3C
def IF_LEZ : Nat := 0x3D
def APUT_OBJECT : Nat := 0x4D
def INVOKE_VIRTUAL : Nat := 0x6E
def INVOKE_INTERFACE : Nat := 0x72
def RETURN_VOID_BARRIER : Nat := 0x73
def INVOKE_VIRTUAL_RANGE : Nat := 0x74
def INVOKE_INTERFACE_RANGE : Nat := 0x78
def NEG_INT : Nat := 0x7B
def NOT_INT : Nat := 0x7C
def NEG_LONG : Nat := 0x7D
def NOT_LONG : Nat := 0x7E
def NEG_FLOAT : Nat := 0x7F
def NEG_DOUBLE : Nat := 0x80
def INT_TO_LONG : Nat := 0x81
def INT_TO_FLOAT : Nat := 0x82
def INT_TO_DOUBLE : Nat := 0x83
def LONG_TO_INT : Nat := 0x84
def LONG_TO_FLOAT : Nat := 0x85
def LONG_TO_DOUBLE : Nat := 0x86
def FLOAT_TO_INT : Nat := 0x87
def FLOAT_TO_LONG : Nat := 0x88
def FLOAT_TO_DOUBLE : Nat := 0x89
def DOUBLE_TO_INT : Nat := 0x8A
def DOUBLE_TO_LONG : Nat := 0x8B
def DOUBLE_TO_FLOAT : Nat := 0x8C
def INT_TO_BYTE : Nat := 0x8D
def INT_TO_CHAR : Nat := 0x8E
def INT_TO_SHORT : Nat := 0x8F
def ADD_INT : Nat := 0x90
def SUB_INT : Nat := 0x91
def MUL_INT : Nat := 0x92
def DIV_INT : Nat := 0x93
def REM_INT : Nat := 0x94
def AND_INT : Nat := 0x95
def OR_INT : Nat := 0x96
def XOR_INT : Nat := 0x97
def SHL_INT : Nat := 0x98
def SHR_INT : Nat := 0x99
def USHR_INT : Nat := 0x9A
def ADD_LONG : Nat := 0x9B
def SUB_LONG : Nat := 0x9C
def MUL_LONG : Nat := 0x9D
def DIV_LONG : Nat := 0x9E
def REM_LONG : Nat := 0x9F
def AND_LONG : Nat := 0xA0
def OR_LONG : Nat := 0xA1
def XOR_LONG : Nat := 0xA2
def SHL_LONG : Nat := 0xA3
def SHR_LONG : Nat := 0xA4
def USHR_LONG : Nat := 0xA5
def ADD_FLOAT : Nat := 0xA6
def SUB_FLOAT : Nat := 0xA7
def MUL_FLOAT : Nat := 0xA8
def DIV_FLOAT : Nat := 0xA9
def REM_FLOAT : Nat := 0xAA
def ADD_DOUBLE : Nat := 0xAB
def SUB_DOUBLE : Nat := 0xAC
def MUL_DOUBLE : Nat := 0xAD
def DIV_DOUBLE : Nat := 0xAE
def REM_DOUBLE : Nat := 0xAF
def ADD_INT_2ADDR : Nat := 0xB0
def SUB_INT_2ADDR : Nat := 0xB1
def MUL_INT_2ADDR : Nat := 0xB2
def DIV_INT_2ADDR : Nat := 0xB3
def REM_INT_2ADDR : Nat := 0xB4
def AND_INT_2ADDR : Nat := 0xB5
def OR_INT_2ADDR : Nat := 0xB6
def XOR_INT_2ADDR : Nat := 0xB7
def SHL_INT_2ADDR : Nat := 0xB8
def SHR_INT_2ADDR : Nat := 0xB9
def USHR_INT_2ADDR : Nat := 0xBA
def ADD_LONG_2ADDR : Nat := 0xBB
def SUB_LONG_2ADDR : Nat := 0xBC
def MUL_LONG_2ADDR : Nat := 0xBD
def DIV_LONG_2ADDR : Nat := 0xBE
def REM_LONG_2ADDR : Nat := 0xBF
def AND_LONG_2ADDR : Nat := 0xC0
def OR_LONG_2ADDR : Nat := 0xC1
def XOR_LONG_2ADDR : Nat := 0xC2
def SHL_LONG_2ADDR : Nat := 0xC3
def SHR_LONG_2ADDR : Nat := 0xC4
def USHR_LONG_2ADDR : Nat := 0xC5
def ADD_FLOAT_2ADDR : Nat := 0xC6
def SUB_FLOAT_2ADDR : Nat := 0xC7
def MUL_FLOAT_2ADDR : Nat := 0xC8
def DIV_FLOAT_2ADDR : Nat := 0xC9
def REM_FLOAT_2ADDR : Nat := 0xCA
def ADD_DOUBLE_2ADDR : Nat := 0xCB
def SUB_DOUBLE_2ADDR : Nat := 0xCC
def MUL_DOUBLE_2ADDR : Nat := 0xCD
def DIV_DOUBLE_2ADDR : Nat := 0xCE
def REM_DOUBLE_2ADDR : Nat := 0xCF
def ADD_INT_LIT16 : Nat := 0xD0
def RSUB_INT : Nat := 0xD1
def MUL_INT_LIT16 : Nat := 0xD2
def DIV_INT_LIT16 : Nat := 0xD3
def REM_INT_LIT16 : Nat := 0xD4
def AND_INT_LIT16 : Nat := 0xD5
def OR_INT_LIT16 : Nat := 0xD6
def XOR_INT_LIT16 : Nat := 0xD7
def ADD_INT_LIT8 : Nat := 0xD8
def RSUB_INT_LIT8 : Nat := 0xD9
def MUL_INT_LIT8 : Nat := 0xDA
def DIV_INT_LIT8 : Nat := 0xDB
def REM_INT_LIT8 : Nat := 0xDC
def AND_INT_LIT8 : Nat := 0xDD
def OR_INT_LIT8 : Nat := 0xDE
def XOR_INT_LIT8 : Nat := 0xDF
def SHL_INT_LIT8 : Nat := 0xE0
def SHR_INT_LIT8 : Nat := 0xE1
def USHR_INT_LIT8 : Nat := 0xE2

/-- `UNUSED_3E` to `UNUSED_43`, `UNUSED_79`, `UNUSED_7A` and `UNUSED_EB` to `UNUSED_FF`: the
opcodes of no instruction. -/
def unusedOpcodes : List Nat :=
  (List.range 6).map (0x3E + ·) ++ [0x79, 0x7A] ++ (List.range 21).map (0xEB + ·)

/-- `kInstructionSizeInCodeUnits`, generated from the format by the `INSTRUCTION_SIZE` macro:
`-1` marks the NOP, whose size is read from the code. -/
def kInstructionSizeInCodeUnits (op : Nat) : Int :=
  let f := (formatOf op).ctorIdx
  if op = NOP then -1
  else if Format.k10x.ctorIdx ≤ f ∧ f ≤ Format.k10t.ctorIdx then 1
  else if Format.k20t.ctorIdx ≤ f ∧ f ≤ Format.k22c.ctorIdx then 2
  else if Format.k32x.ctorIdx ≤ f ∧ f ≤ Format.k3rc.ctorIdx then 3
  else if f = Format.k51l.ctorIdx then 5
  else -1

/-! ## Reading an instruction -/

/-- `Fetch16(offset)` of the instruction at `pc`. -/
def fetch16 (c : CodeUnits) (pc offset : Nat) : Nat := (c (pc + offset)).toNat

theorem fetch16_lt (c : CodeUnits) (pc offset : Nat) : fetch16 c pc offset < 2 ^ 16 :=
  (c (pc + offset)).toNat_lt

/-- `Fetch32(offset)`: two units, low half first. -/
def fetch32 (c : CodeUnits) (pc offset : Nat) : Nat :=
  fetch16 c pc offset ||| (fetch16 c pc (offset + 1) <<< 16)

/-- `Opcode()`: the low byte of the first unit. -/
def opcode (c : CodeUnits) (pc : Nat) : Nat := fetch16 c pc 0 &&& 0xFF

def instA (c : CodeUnits) (pc : Nat) : Nat := (fetch16 c pc 0 >>> 8) &&& 0x0f
def instB (c : CodeUnits) (pc : Nat) : Nat := fetch16 c pc 0 >>> 12
def instAA (c : CodeUnits) (pc : Nat) : Nat := fetch16 c pc 0 >>> 8

/-- `SizeInCodeUnitsComplexOpcode`.  The packed and sparse sizes are computed in `int` and
cannot overflow; the array-data size multiplies a `uint16_t` width by a `uint32_t` count in
`uint32_t`, so the product and the rounding `+ 1` wrap modulo `2^32`. -/
def sizeInCodeUnitsComplexOpcode (c : CodeUnits) (pc : Nat) : Nat :=
  let insn := fetch16 c pc 0
  if insn = kPackedSwitchSignature then 4 + fetch16 c pc 1 * 2
  else if insn = kSparseSwitchSignature then 2 + fetch16 c pc 1 * 4
  else if insn = kArrayDataSignature then
    let elementSize := fetch16 c pc 1
    let length := fetch32 c pc 2
    4 + Word.toUnsigned 32 (Word.toUnsigned 32 (elementSize * length) + 1) / 2
  -- Any other unit reaching here is a plain NOP (low byte zero): the `LOG(FATAL)` branch is
  -- unreachable, since only the NOP row of the size table is negative.
  else 1

/-- `SizeInCodeUnits`. -/
def sizeInCodeUnits (c : CodeUnits) (pc : Nat) : Nat :=
  let result := kInstructionSizeInCodeUnits (opcode c pc)
  if result < 0 then sizeInCodeUnitsComplexOpcode c pc else result.toNat

/-- `VRegA()`, dispatching on the format to the `VRegA_xx` decoders.  A format without a vA
operand (`LOG(FATAL)` in the source) reads as `0`: no verify flag asks for it. -/
def vRegA (c : CodeUnits) (pc : Nat) : Int :=
  match formatOf (opcode c pc) with
  | .k10t => Word.toSigned 8 (instAA c pc)
  | .k10x | .k11x | .k21c | .k21h | .k21s | .k21t | .k22b | .k22x | .k23x | .k31c | .k31i
  | .k31t | .k3rc | .k51l => instAA c pc
  | .k11n | .k12x | .k22c | .k22s | .k22t => instA c pc
  | .k20t => Word.toSigned 16 (fetch16 c pc 1)
  | .k30t => Word.toSigned 32 (fetch32 c pc 1)
  | .k32x => fetch16 c pc 1
  | .k35c => instB c pc

/-- `VRegB()`.  For `k51l` the 64-bit literal is truncated to the `int32_t` result. -/
def vRegB (c : CodeUnits) (pc : Nat) : Int :=
  match formatOf (opcode c pc) with
  | .k11n => Word.toSigned 4 (instB c pc)
  | .k12x | .k22c | .k22s | .k22t => instB c pc
  | .k21c | .k21h | .k22x | .k35c | .k3rc => fetch16 c pc 1
  | .k21s | .k21t => Word.toSigned 16 (fetch16 c pc 1)
  | .k22b | .k23x => (fetch16 c pc 1 &&& 0xff : Nat)
  | .k31c => fetch32 c pc 1
  | .k31i | .k31t | .k51l => Word.toSigned 32 (fetch32 c pc 1)
  | .k32x => fetch16 c pc 2
  | _ => 0

/-- `VRegC()`. -/
def vRegC (c : CodeUnits) (pc : Nat) : Int :=
  match formatOf (opcode c pc) with
  | .k22b => Word.toSigned 8 (fetch16 c pc 1 >>> 8)
  | .k22c => fetch16 c pc 1
  | .k22s | .k22t => Word.toSigned 16 (fetch16 c pc 1)
  | .k23x => (fetch16 c pc 1 >>> 8 : Nat)
  | .k35c => (fetch16 c pc 2 &&& 0x0f : Nat)
  | .k3rc => fetch16 c pc 2
  | _ => 0

/-- `VRegB_51l()`: the 64-bit literal of a `k51l` instruction, as the `int64_t` it is assigned
to. -/
def vRegB_51l (c : CodeUnits) (pc : Nat) : Int :=
  Word.toSigned 64 (fetch32 c pc 1 ||| fetch32 c pc 3 <<< 32)

/-- `GetVarArgs`: the first `count` argument registers of a `k35c` instruction, `count` being
`InstB`.  A count above five leaves `arg[]` unwritten; the verifier rejects it before reading. -/
def getVarArgs (c : CodeUnits) (pc : Nat) : List Nat :=
  let regList := fetch16 c pc 2
  let all := [regList &&& 0x0f, (regList >>> 4) &&& 0x0f, (regList >>> 8) &&& 0x0f,
    (regList >>> 12) &&& 0x0f, instA c pc]
  if instB c pc ≤ kMaxVarArgRegs then all.take (instB c pc) else []

def isBranch (c : CodeUnits) (pc : Nat) : Bool := flagsOf (opcode c pc) &&& kBranch != 0
def isSwitch (c : CodeUnits) (pc : Nat) : Bool := flagsOf (opcode c pc) &&& kSwitch != 0
def isThrow (c : CodeUnits) (pc : Nat) : Bool := flagsOf (opcode c pc) &&& kThrow != 0
def isReturn (c : CodeUnits) (pc : Nat) : Bool := flagsOf (opcode c pc) &&& kReturn != 0

/-- `GetVerifyTypeArgumentA`. -/
def getVerifyTypeArgumentA (op : Nat) : Nat := verifyFlagsOf op &&& (kVerifyRegA ||| kVerifyRegAWide)

/-- `GetVerifyTypeArgumentB`. -/
def getVerifyTypeArgumentB (op : Nat) : Nat :=
  verifyFlagsOf op &&& (kVerifyRegB ||| kVerifyRegBField ||| kVerifyRegBMethod |||
    kVerifyRegBNewInstance ||| kVerifyRegBString ||| kVerifyRegBType ||| kVerifyRegBWide)

/-- `GetVerifyTypeArgumentC`. -/
def getVerifyTypeArgumentC (op : Nat) : Nat :=
  verifyFlagsOf op &&& (kVerifyRegC ||| kVerifyRegCField ||| kVerifyRegCNewArray |||
    kVerifyRegCType ||| kVerifyRegCWide)

/-- `GetVerifyExtraFlags`. -/
def getVerifyExtraFlags (op : Nat) : Nat :=
  verifyFlagsOf op &&& (kVerifyArrayData ||| kVerifyBranchTarget ||| kVerifySwitchTargets |||
    kVerifyVarArg ||| kVerifyVarArgNonZero ||| kVerifyVarArgRange ||| kVerifyVarArgRangeNonZero |||
    kVerifyError)

/-- `GetVerifyIsRuntimeOnly`. -/
def getVerifyIsRuntimeOnly (op : Nat) : Bool := verifyFlagsOf op &&& kVerifyRuntimeOnly != 0

/-- `GetTargetOffset`: the relative target of a branch instruction, by format. -/
def getTargetOffset (c : CodeUnits) (pc : Nat) : Int :=
  match formatOf (opcode c pc) with
  | .k22t => vRegC c pc
  | .k21t => vRegB c pc
  | .k10t | .k20t | .k30t => vRegA c pc
  | _ => 0

/-! ## Sizes -/

/-- Only the NOP row of the size table is negative; every other row is a positive size. -/
theorem kInstructionSizeInCodeUnits_ne_zero (op : Nat) : kInstructionSizeInCodeUnits op ≠ 0 := by
  unfold kInstructionSizeInCodeUnits
  dsimp only
  split_ifs <;> omega

theorem sizeInCodeUnitsComplexOpcode_pos (c : CodeUnits) (pc : Nat) :
    1 ≤ sizeInCodeUnitsComplexOpcode c pc := by
  unfold sizeInCodeUnitsComplexOpcode
  dsimp only
  split_ifs <;> omega

/-- Every instruction is at least one code unit long, so a walk by sizes always advances. -/
theorem sizeInCodeUnits_pos (c : CodeUnits) (pc : Nat) : 1 ≤ sizeInCodeUnits c pc := by
  have hne := kInstructionSizeInCodeUnits_ne_zero (opcode c pc)
  unfold sizeInCodeUnits
  dsimp only
  split
  · exact sizeInCodeUnitsComplexOpcode_pos c pc
  · omega

/-- The code units `SizeInCodeUnits` reads for the instruction at `pc`: its first unit, and for
a payload the header units its size is read from. -/
def sizeUnitsRead (c : CodeUnits) (pc : Nat) : List Nat :=
  if kInstructionSizeInCodeUnits (opcode c pc) < 0 then
    if fetch16 c pc 0 = kPackedSwitchSignature ∨ fetch16 c pc 0 = kSparseSwitchSignature then
      [pc, pc + 1]
    else if fetch16 c pc 0 = kArrayDataSignature then [pc, pc + 1, pc + 2, pc + 3]
    else [pc]
  else [pc]

theorem sizeInCodeUnits_complex {c : CodeUnits} {pc : Nat}
    (h : kInstructionSizeInCodeUnits (opcode c pc) < 0) :
    sizeInCodeUnits c pc = sizeInCodeUnitsComplexOpcode c pc := by
  simp [sizeInCodeUnits, h]

/-- A switch payload is at least two units long, an array payload at least four. -/
theorem sizeInCodeUnitsComplexOpcode_header (c : CodeUnits) (pc : Nat) :
    (fetch16 c pc 0 = kPackedSwitchSignature → 4 ≤ sizeInCodeUnitsComplexOpcode c pc) ∧
    (fetch16 c pc 0 = kSparseSwitchSignature → 2 ≤ sizeInCodeUnitsComplexOpcode c pc) ∧
    (fetch16 c pc 0 = kArrayDataSignature → 4 ≤ sizeInCodeUnitsComplexOpcode c pc) := by
  refine ⟨fun h => ?_, fun h => ?_, fun h => ?_⟩ <;>
    simp [sizeInCodeUnitsComplexOpcode, h, kPackedSwitchSignature, kSparseSwitchSignature,
      kArrayDataSignature]

/-- `SizeInCodeUnits` reads only units of the instruction it measures. -/
theorem sizeUnitsRead_lt {c : CodeUnits} {pc i : Nat} (h : i ∈ sizeUnitsRead c pc) :
    pc ≤ i ∧ i < pc + sizeInCodeUnits c pc := by
  have hpos := sizeInCodeUnits_pos c pc
  obtain ⟨hp, hs, ha⟩ := sizeInCodeUnitsComplexOpcode_header c pc
  unfold sizeUnitsRead at h
  split_ifs at h with hneg hsw harr
  · rw [sizeInCodeUnits_complex hneg]
    have : 2 ≤ sizeInCodeUnitsComplexOpcode c pc := by
      rcases hsw with hsw | hsw
      · exact le_trans (by decide) (hp hsw)
      · exact hs hsw
    simp only [List.mem_cons, List.not_mem_nil, or_false] at h
    omega
  · rw [sizeInCodeUnits_complex hneg]
    have := ha harr
    simp only [List.mem_cons, List.not_mem_nil, or_false] at h
    omega
  all_goals
    simp only [List.mem_cons, List.not_mem_nil, or_false] at h
    omega

end Instruction

end Art
