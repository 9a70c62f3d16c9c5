import AndroidArt.Verifier.CodeFlow
import AndroidArt.Lib.StateExcept

/-!
# Monitors along the paths of a verified method

What the code-flow pass is meant to ensure of monitors, stated over the control-flow paths of a
method (`successors`, `IsEntryPath`): `depthAlong` is the depth of the monitor stack with which a
path reaches its last instruction, and `StructuredLocking` says that every path from the entry
reaches an instruction with one depth, and a return with no monitor held.

The pass checks a monitor stack in two places: at a return instruction it processes, and in
`UpdateRegisters` at a return reached for the first time.  A merge into an instruction already
reached only warns when the depths differ, and the instruction keeps the stack of the first line
that reached it (`updateRegisters_reached`); a return already reached is not processed again
unless a register type changed.  So a method can pass with a path that reaches a return holding
a monitor: `verify_accepts_return_holding_monitor`.

Each instruction the pass lets through changes the monitor stack of the work line as
`monitorDelta` says (`applyOpcode_monitorStackDepth`): the paths of `depthAlong` are what the pass
follows, instruction by instruction.

The register types of the example are `BasicRegType`: undefined, conflict, the constant zero,
`int` and `java.lang.Object`, with `RegType::Merge` restricted to them.
-/

set_option autoImplicit false

namespace Art

namespace Verifier

open Instruction

/-! ## Paths of a method -/

section Paths

variable (m : CodeItem)

/-- The instructions control passes to from `pc` by the flags of its opcode: the next one unless
the opcode cannot continue, and the target of a branch.  There are no exception edges: this is
the flow of a method without try blocks. -/
def successors (pc : Nat) : List Nat :=
  let op := opcode m.insns pc
  (if flagsOf op &&& kContinue != 0 then [pc + sizeInCodeUnits m.insns pc] else []) ++
    if flagsOf op &&& kBranch != 0 then
      match getBranchOffset m pc with
      | some (offset, _, _) => [(pc + offset).toNat]
      | none => []
    else []

/-- The rest of a path from `pc` goes through the instructions of the list, each a successor of
the one before. -/
def isPathFrom : Nat → List Nat → Bool
  | _, [] => true
  | pc, next :: rest => next ∈ successors m pc && isPathFrom next rest

/-- A path from the entry, given by the instructions after `0` it goes through. -/
def IsEntryPath (path : List Nat) : Prop := isPathFrom m 0 path = true

instance (path : List Nat) : Decidable (IsEntryPath m path) :=
  inferInstanceAs (Decidable (_ = true))

/-- How an instruction changes the monitor stack when it runs: a `monitor-enter` pushes, a
`monitor-exit` pops. -/
def monitorDelta (pc : Nat) : Int :=
  if opcode m.insns pc = MONITOR_ENTER then 1
  else if opcode m.insns pc = MONITOR_EXIT then -1
  else 0

/-- The depth of the monitor stack when the path from `pc` through `path` reaches its last
instruction, every instruction before it having run. -/
def depthAlong : Nat → List Nat → Int
  | _, [] => 0
  | pc, next :: rest => monitorDelta m pc + depthAlong next rest

/-- The last instruction of the path from `pc` through `path`. -/
def lastOf (pc : Nat) (path : List Nat) : Nat := path.getLast?.getD pc

/-- Structured locking: the paths from the entry that reach an instruction reach it with one
depth of the monitor stack, and a path reaches a return with no monitor held. -/
def StructuredLocking : Prop :=
  (∀ p q, IsEntryPath m p → IsEntryPath m q → lastOf 0 p = lastOf 0 q →
      depthAlong m 0 p = depthAlong m 0 q) ∧
    ∀ p, IsEntryPath m p → Instruction.isReturn m.insns (lastOf 0 p) = true → depthAlong m 0 p = 0

end Paths

/-! ## Merges and the monitor stack -/

section Update

variable {τ : Type} [DecidableEq τ] (env : MethodEnv τ) (m : CodeItem)

/-- **A merge never fails on monitors.**  Into an instruction already reached, `UpdateRegisters`
succeeds whatever the monitor stack of the incoming line: the instruction keeps the stack it has,
and no failure is recorded. -/
theorem updateRegisters_reached {s : FlowState τ} {nextInsn : Nat} {target : RegisterLine τ}
    (hreached : InstructionFlags.isVisitedOrChanged (s.insnFlags nextInsn) = true)
    (hline : s.regTable nextInsn = some target) (hpending : s.log.havePendingHardFailure = false)
    (mergeLine : RegisterLine τ) (updateMergeLine : Bool) :
    ∃ line s', (updateRegisters env m nextInsn mergeLine updateMergeLine).run s = .ok ((true, line), s') ∧
      (s'.regTable nextInsn).map RegisterLine.monitors = some target.monitors ∧
      s'.log.failures = s.log.failures := by
  have hmon := RegisterLine.mergeRegisters_monitors env.types target mergeLine s.log
  have hpend := RegisterLine.mergeRegisters_havePendingHardFailure env.types target mergeLine s.log
  have hfail := RegisterLine.mergeRegisters_failures env.types target mergeLine s.log
  rcases hmerge : target.mergeRegisters env.types mergeLine s.log with ⟨changed, merged, log⟩
  rw [hmerge] at hmon hpend hfail
  simp only at hmon hpend hfail
  cases changed <;>
    simp [updateRegisters, hline, hreached, hmerge, hpend, hpending, FlowState.setLine,
      FlowState.setChanged, FlowState.setFlag] <;>
    exact ⟨hmon, hfail⟩

/-- **The first line to reach a return is checked.**  Into a return reached for the first time,
`UpdateRegisters` succeeds exactly when the incoming line holds no monitor. -/
theorem updateRegisters_first_return {s : FlowState τ} {nextInsn : Nat} {target : RegisterLine τ}
    (hnew : InstructionFlags.isVisitedOrChanged (s.insnFlags nextInsn) = false)
    (hreturn : InstructionFlags.isReturn (s.insnFlags nextInsn) = true)
    (hline : s.regTable nextInsn = some target) (mergeLine : RegisterLine τ) (updateMergeLine : Bool) :
    ((updateRegisters env m nextInsn mergeLine updateMergeLine).run s).map (·.1.1) =
      .ok (decide (mergeLine.monitors = [])) := by
  by_cases hempty : mergeLine.monitors = []
  · have hdepth : mergeLine.monitorStackDepth = 0 := by simp [RegisterLine.monitorStackDepth, hempty]
    simp [updateRegisters, hline, hnew, hreturn, RegisterLine.verifyMonitorStackEmpty, hdepth,
      hempty]
  · have hdepth : mergeLine.monitorStackDepth ≠ 0 := by simpa [RegisterLine.monitorStackDepth] using hempty
    simp [updateRegisters, hline, hnew, hreturn, RegisterLine.verifyMonitorStackEmpty, hdepth,
      hempty]

end Update

/-! ## The monitor stack of one instruction -/

section Step

variable {τ : Type} [DecidableEq τ] (env : MethodEnv τ) (m : CodeItem) (lengths : Nat → Nat)

theorem runArithmeticCheck_monitors (P : PrimitiveTypes τ) (pc : Nat) (l : RegisterLine τ)
    (log : Log) (c : ArithmeticCheck) :
    (runArithmeticCheck env m P pc l log c).1.monitors = l.monitors := by
  cases c <;>
    simp only [runArithmeticCheck, RegisterLine.checkUnaryOp, RegisterLine.checkUnaryOpWide,
      RegisterLine.checkUnaryOpToWide, RegisterLine.checkUnaryOpFromWide,
      RegisterLine.checkBinaryOp, RegisterLine.checkBinaryOpWide,
      RegisterLine.checkBinaryOpWideShift, RegisterLine.checkBinaryOp2addr,
      RegisterLine.checkBinaryOp2addrWide, RegisterLine.checkBinaryOp2addrWideShift,
      RegisterLine.checkUnary_monitors, RegisterLine.checkBinary_monitors,
      RegisterLine.checkLiteralOp_monitors]

theorem applyPrimitiveOpcode_monitors {P : PrimitiveTypes τ} {pc : Nat} {l : RegisterLine τ}
    {log : Log} {r : RegisterLine τ × Log} (h : applyPrimitiveOpcode env m P pc l log = some r) :
    r.1.monitors = l.monitors := by
  unfold applyPrimitiveOpcode at h
  split at h
  · next r' hconst =>
    cases h
    unfold applyConstOpcode at hconst
    dsimp only at hconst
    split_ifs at hconst <;> cases hconst <;> simp
  · split at h
    · next r' hcmp =>
      cases h
      unfold applyCompareOpcode at hcmp
      dsimp only at hcmp
      split_ifs at hcmp <;> cases hcmp <;> simp
    · obtain ⟨c, -, rfl⟩ := Option.map_eq_some_iff.mp h
      exact runArithmeticCheck_monitors env m P pc l log c

omit [DecidableEq τ] in
theorem ifEqzNez_monitors {flags : Nat → Nat} {pc : Nat} {l : RegisterLine τ} {log : Log}
    {r : RegisterLine τ × Log} (h : ifEqzNez env m lengths flags pc l log = .ok r) :
    r.1.monitors = l.monitors := by
  unfold ifEqzNez at h
  dsimp only at h
  split_ifs at h <;> cases h <;> rfl

theorem applyOpcode_cases {flags : Nat → Nat} {pc : Nat} {l : RegisterLine τ} {log : Log}
    {r : RegisterLine τ × Log} (h : applyOpcode env m lengths flags pc l log = .ok r) :
    (opcode m.insns pc = MONITOR_ENTER ∧ r = l.pushMonitor env.types (instAA m.insns pc) pc log) ∨
    (opcode m.insns pc = MONITOR_EXIT ∧
      r = l.popMonitor env.types env.dexFileVersion (instAA m.insns pc) log) ∨
    (opcode m.insns pc ≠ MONITOR_ENTER ∧ opcode m.insns pc ≠ MONITOR_EXIT ∧
      r.1.monitors = l.monitors) := by
  simp only [applyOpcode] at h
  by_cases henter : opcode m.insns pc = MONITOR_ENTER
  · refine .inl ⟨henter, ?_⟩
    rw [if_neg (by rw [henter]; decide), if_neg (by rw [henter]; decide),
      if_neg (by rw [henter]; decide), if_neg (by rw [henter]; decide), if_pos henter] at h
    cases h
    rfl
  by_cases hexit : opcode m.insns pc = MONITOR_EXIT
  · refine .inr (.inl ⟨hexit, ?_⟩)
    rw [if_neg (by rw [hexit]; decide), if_neg (by rw [hexit]; decide),
      if_neg (by rw [hexit]; decide), if_neg (by rw [hexit]; decide), if_neg henter,
      if_pos hexit] at h
    cases h
    rfl
  refine .inr (.inr ⟨henter, hexit, ?_⟩)
  -- every other case of the `switch` leaves the monitor stack alone
  by_cases hnop : opcode m.insns pc = NOP
  · rw [if_pos hnop] at h
    split_ifs at h <;> cases h <;> rfl
  rw [if_neg hnop] at h
  by_cases hmove : opcode m.insns pc = MOVE ∨ opcode m.insns pc = MOVE_FROM16 ∨
      opcode m.insns pc = MOVE_16
  · rw [if_pos hmove] at h
    cases h
    simp
  rw [if_neg hmove] at h
  by_cases hobject : opcode m.insns pc = MOVE_OBJECT ∨ opcode m.insns pc = MOVE_OBJECT_FROM16 ∨
      opcode m.insns pc = MOVE_OBJECT_16
  · rw [if_pos hobject] at h
    cases h
    simp
  rw [if_neg hobject] at h
  by_cases hreturn : opcode m.insns pc = RETURN_VOID
  · rw [if_pos hreturn] at h
    split_ifs at h <;> cases h <;> rfl
  rw [if_neg hreturn, if_neg henter, if_neg hexit] at h
  split_ifs at h
  any_goals (cases h; rfl)
  · exact ifEqzNez_monitors env m lengths h
  · split at h
    · next r' hprim =>
      cases h
      obtain ⟨P, -, hP⟩ := Option.bind_eq_some_iff.mp hprim
      exact applyPrimitiveOpcode_monitors env m hP
    · cases h

/-- **At every instruction the pass lets through, the monitor stack changes by
`monitorDelta`**: a `monitor-enter` pushes, a `monitor-exit` pops, any other instruction keeps
it. -/
theorem applyOpcode_monitorStackDepth {flags : Nat → Nat} {pc : Nat} {l l' : RegisterLine τ}
    {log log' : Log} (h : applyOpcode env m lengths flags pc l log = .ok (l', log'))
    (hpass : log'.havePendingHardFailure = false) :
    (l'.monitorStackDepth : Int) = l.monitorStackDepth + monitorDelta m pc := by
  rcases applyOpcode_cases env m lengths h with ⟨hop, hr⟩ | ⟨hop, hr⟩ | ⟨henter, hexit, hkeep⟩
  · have hpush : (l.pushMonitor env.types (instAA m.insns pc) pc log).2.havePendingHardFailure =
        false := by rw [← hr]; exact hpass
    have hmon : l'.monitors = l.monitors ++ [pc] := by
      simpa [← hr] using RegisterLine.pushMonitor_monitors env.types hpush
    simp [RegisterLine.monitorStackDepth, monitorDelta, hop, hmon]
  · have hpop : (l.popMonitor env.types env.dexFileVersion (instAA m.insns pc) log).2.havePendingHardFailure =
        false := by rw [← hr]; exact hpass
    obtain ⟨hne, hmon⟩ := RegisterLine.popMonitor_monitors env.types hpop
    rw [← hr] at hmon
    simp only at hmon
    have hdelta : monitorDelta m pc = -1 := by
      simp [monitorDelta, hop, MONITOR_ENTER, MONITOR_EXIT]
    have hlen := List.length_pos_of_ne_nil hne
    simp only [RegisterLine.monitorStackDepth, hmon, List.length_dropLast, hdelta]
    omega
  · simp only at hkeep
    simp [RegisterLine.monitorStackDepth, monitorDelta, henter, hexit, hkeep]

end Step

/-! ## A method that returns holding a monitor -/

/-- The register types of the example, as `RegTypeCache` has them: `Undefined`, `Conflict`, the
precise constant `0`, `Integer` and the imprecise reference `java.lang.Object`. -/
inductive BasicRegType where
  | undefined
  | conflict
  | zero
  | integer
  | javaLangObject
  deriving DecidableEq, Repr

namespace BasicRegType

/-- `RegType::Merge` on these types: conflict absorbs, undefined merges to conflict, zero merges
into `int` as a constant and into a reference as null, and `int` with a reference is a
conflict. -/
def merge (a b : BasicRegType) : BasicRegType :=
  if a = b then a
  else match a, b with
    | conflict, _ | _, conflict | undefined, _ | _, undefined => conflict
    | zero, integer | integer, zero => integer
    | zero, javaLangObject | javaLangObject, zero => javaLangObject
    | _, _ => conflict

def isReferenceTypes : BasicRegType → Bool
  | zero | javaLangObject => true
  | _ => false

def isIntegralTypes : BasicRegType → Bool
  | zero | integer => true
  | _ => false

/-- `Dump()`. -/
def dump : BasicRegType → String
  | undefined => "Undefined"
  | conflict => "Conflict"
  | zero => "Zero/null"
  | integer => "Integer"
  | javaLangObject => "Reference: java.lang.Object"

end BasicRegType

/-- The `RegTypes` of `BasicRegType`; none is a half of a wide pair, and the category-1 types
are the integral ones. -/
def basicRegTypes : RegTypes BasicRegType where
  undefined := .undefined
  conflict := .conflict
  merge := BasicRegType.merge
  isReferenceTypes := BasicRegType.isReferenceTypes
  isIntegralTypes := BasicRegType.isIntegralTypes
  isCategory1Types := BasicRegType.isIntegralTypes
  isLowHalf _ := false
  isHighHalf _ := false
  dump := BasicRegType.dump

/-- A static method `void f(Object o, int i)` of five code units:
`if-eqz v1, +4` at 0, `monitor-enter v0` at 2, `goto +1` at 3 and `return-void` at 4. -/
def unbalancedMonitorItem : CodeItem where
  registersSize := 2
  triesSize := 0
  insnsSizeInCodeUnits := 5
  insns := fun i => [0x0138, 0x0004, 0x001D, 0x0128, 0x000E].getD i 0
  insnsAddress := 0
  tries := fun _ => ⟨0, 0, 0⟩
  catchHandlerData := fun _ => 0
  insns_lt := by decide

/-- The method's arguments are an `Object` and an `int`; it returns `void`, soft failures are
allowed and the dex file has version 35. -/
def objectIntEnv : MethodEnv BasicRegType :=
  ⟨basicRegTypes, [.javaLangObject, .integer], false, true, true, 35⟩

/-- A dex file with no ids, seen from the runtime. -/
def emptyDexContext : DexContext := ⟨0, 0, 0, 0, fun _ => "", false, false⟩

/-- The verifier accepts `unbalancedMonitorItem` with no failure at all, and only a warning:
the branch taken at 0 reaches the `return-void` first, with no monitor held, and the path through
the `monitor-enter` merges into it later.  That path reaches the return with a monitor held, where
the branch reaches it with none. -/
theorem verify_accepts_return_holding_monitor :
    verify emptyDexContext objectIntEnv unbalancedMonitorItem 20 =
        .ok (true, ⟨true, [], false, ["mismatched stack depths (depth=0, incoming depth=1)"], []⟩) ∧
      IsEntryPath unbalancedMonitorItem [2, 3, 4] ∧ depthAlong unbalancedMonitorItem 0 [2, 3, 4] = 1 ∧
      IsEntryPath unbalancedMonitorItem [4] ∧ depthAlong unbalancedMonitorItem 0 [4] = 0 ∧
      opcode unbalancedMonitorItem.insns 4 = RETURN_VOID ∧
      ¬ StructuredLocking unbalancedMonitorItem := by
  have hpath : IsEntryPath unbalancedMonitorItem [2, 3, 4] := by decide +kernel
  have hdepth : depthAlong unbalancedMonitorItem 0 [2, 3, 4] = 1 := by decide +kernel
  have hbranch : IsEntryPath unbalancedMonitorItem [4] := by decide +kernel
  have hbranchDepth : depthAlong unbalancedMonitorItem 0 [4] = 0 := by decide +kernel
  refine ⟨by decide +kernel, hpath, hdepth, hbranch, hbranchDepth, by decide +kernel, ?_⟩
  rintro ⟨hsame, -⟩
  have := hsame [2, 3, 4] [4] hpath hbranch rfl
  rw [hdepth, hbranchDepth] at this
  exact absurd this (by decide)

end Verifier

end Art
