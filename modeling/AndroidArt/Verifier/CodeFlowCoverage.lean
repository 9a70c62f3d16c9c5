import AndroidArt.Verifier.CodeFlowSpec
import AndroidArt.Lib.StateExcept
import AndroidArt.Lib.Digraph
import Mathlib.Data.Nat.Bitwise

/-!
# Every instruction the code-flow pass can reach is verified

The code-flow pass (`AndroidArt.Verifier.CodeFlow`) is a worklist algorithm: an instruction marked
"changed" is taken, applied to the work line, and hands the line to the instructions control can
go to next, which are marked changed when their line is new or changed.  What it is for is that a
method it accepts has had every instruction control can reach from the entry applied and checked.

`flowSuccessors` states where control goes from an instruction, by the flags of its opcode as
`CodeFlowVerifyInstruction` acts on them: the branch target, the targets of a switch, the
exception handlers of an instruction that can throw in a try block, and the next instruction.

* `codeFlowVerifyInstruction_covers` — one processed instruction: the pass only gains reached
  instructions, and every successor of the instruction is reached and inside the code.
* `codeFlowLoop_covering` — the loop keeps `Covering`: the entry is reached, and the successors of
  every visited instruction are reached and inside the code.
* `codeFlowVerifyMethod_visits` — when the pass accepts a method, every instruction of a walk from
  the entry along `flowSuccessors` is inside the code and visited.
-/

set_option autoImplicit false

namespace Art

namespace Verifier

open Instruction

/-! ## The flag byte -/

namespace InstructionFlags

theorem test_eq_testBit (flags bit : Nat) : test flags bit = flags.testBit bit := by
  rw [test, Nat.one_shiftLeft, Nat.and_two_pow]
  cases flags.testBit bit <;> simp

/-- Setting a flag bit of the `uint8_t` flag byte sets that bit and keeps the others. -/
theorem test_setBit {flags bit i : Nat} (hi : i < 8) :
    test ((flags ||| 1 <<< bit) % 2 ^ 8) i = (test flags i || decide (bit = i)) := by
  rw [test_eq_testBit, test_eq_testBit, Nat.testBit_mod_two_pow, Nat.testBit_or, Nat.one_shiftLeft,
    Nat.testBit_two_pow]
  simp [hi]

/-- Clearing the "changed" bit keeps the others. -/
theorem test_clearChanged {flags i : Nat} (hi : i ≠ kChanged) :
    test (clearBits flags (1 <<< kChanged)) i = test flags i := by
  simp only [kChanged] at hi
  simp only [test_eq_testBit, clearBits, kChanged, Nat.one_shiftLeft, Nat.and_two_pow]
  cases h : flags.testBit 1
  · simp
  -- the bit was set: the flags lose `2`, which touches neither bit `0` nor the bits above `1`
  have hbit : flags / 2 % 2 = 1 := by simpa [Nat.testBit_eq_decide_div_mod_eq] using h
  simp only [Bool.toNat_true, pow_one, one_mul]
  rcases Nat.lt_or_ge i 2 with hlt | hge
  · obtain rfl : i = 0 := by omega
    have hmod : (flags - 2) % 2 = flags % 2 := by omega
    rw [Nat.testBit_zero, Nat.testBit_zero, hmod]
  · obtain ⟨j, rfl⟩ : ∃ j, i = j + 2 := ⟨i - 2, by omega⟩
    have hdiv : (flags - 2) / 2 ^ 2 = flags / 2 ^ 2 := by omega
    rw [Nat.testBit_add, Nat.testBit_add, hdiv]

end InstructionFlags

open InstructionFlags

namespace FlowState

variable {τ : Type}

theorem test_setFlag {s : FlowState τ} {pc bit q i : Nat} (hi : i < 8) :
    test ((s.setFlag pc bit).insnFlags q) i = (test (s.insnFlags q) i || decide (q = pc ∧ bit = i)) := by
  by_cases hq : q = pc
  · subst hq
    show test (Function.update s.insnFlags q _ q) i = _
    rw [Function.update_self, test_setBit hi]
    simp
  · simp [setFlag, hq]

theorem test_clearChanged {s : FlowState τ} {pc q i : Nat} (hi : i ≠ kChanged) :
    test ((s.clearChanged pc).insnFlags q) i = test (s.insnFlags q) i := by
  by_cases hq : q = pc
  · subst hq
    simp [clearChanged, InstructionFlags.test_clearChanged hi]
  · simp [clearChanged, hq]

variable (s : FlowState τ)

@[simp] theorem setFlag_regTable (pc bit : Nat) : (s.setFlag pc bit).regTable = s.regTable := rfl
@[simp] theorem setChanged_regTable (pc : Nat) : (s.setChanged pc).regTable = s.regTable := rfl
@[simp] theorem setVisited_regTable (pc : Nat) : (s.setVisited pc).regTable = s.regTable := rfl
@[simp] theorem clearChanged_regTable (pc : Nat) : (s.clearChanged pc).regTable = s.regTable := rfl
@[simp] theorem setLine_insnFlags (pc : Nat) (l : RegisterLine τ) :
    (s.setLine pc l).insnFlags = s.insnFlags := rfl
@[simp] theorem fail_insnFlags (kind : FailureKind) (msg : String) :
    (s.fail kind msg).insnFlags = s.insnFlags := rfl
@[simp] theorem fail_regTable (kind : FailureKind) (msg : String) :
    (s.fail kind msg).regTable = s.regTable := rfl

theorem visit_insnFlags_of_ne {s : FlowState τ} {pc q : Nat} (hq : q ≠ pc) :
    ((s.setVisited pc).clearChanged pc).insnFlags q = s.insnFlags q := by
  simp [clearChanged, setVisited, setFlag, hq]

theorem isVisited_visit (s : FlowState τ) (pc : Nat) :
    isVisited (((s.setVisited pc).clearChanged pc).insnFlags pc) = true := by
  simp only [isVisited]
  rw [test_clearChanged (by decide), setVisited, test_setFlag (by decide)]
  simp

theorem isInTry_visit (s : FlowState τ) (pc q : Nat) :
    isInTry (((s.setVisited pc).clearChanged pc).insnFlags q) = isInTry (s.insnFlags q) := by
  simp only [isInTry]
  rw [test_clearChanged (by decide), setVisited, test_setFlag (by decide)]
  simp [kInTry, kVisited]

end FlowState

/-! ## Reached instructions -/

section Reach

variable {τ : Type}

/-- The pass has reached the instruction at `pc`: it is visited, or marked changed and waits. -/
def Reached (s : FlowState τ) (pc : Nat) : Prop := isVisitedOrChanged (s.insnFlags pc) = true

/-- What a step of the pass does to the flags and lines as far as coverage goes: it reaches more
instructions, visits none and keeps the try flags, and it writes lines only where there are
lines. -/
structure Grows (s s' : FlowState τ) : Prop where
  reached : ∀ pc, Reached s pc → Reached s' pc
  visited : ∀ pc, isVisited (s'.insnFlags pc) = isVisited (s.insnFlags pc)
  inTry : ∀ pc, isInTry (s'.insnFlags pc) = isInTry (s.insnFlags pc)
  lines : ∀ pc, (s'.regTable pc).isSome = (s.regTable pc).isSome

namespace Grows

theorem refl (s : FlowState τ) : Grows s s := ⟨fun _ h => h, fun _ => rfl, fun _ => rfl, fun _ => rfl⟩

theorem trans {s₁ s₂ s₃ : FlowState τ} (h₁ : Grows s₁ s₂) (h₂ : Grows s₂ s₃) : Grows s₁ s₃ where
  reached pc h := h₂.reached pc (h₁.reached pc h)
  visited pc := (h₂.visited pc).trans (h₁.visited pc)
  inTry pc := (h₂.inTry pc).trans (h₁.inTry pc)
  lines pc := (h₂.lines pc).trans (h₁.lines pc)

/-- A step that writes neither a flag nor a line: the log, the work line or the index. -/
theorem of_eq {s s' : FlowState τ} (hflags : s'.insnFlags = s.insnFlags)
    (hlines : s'.regTable = s.regTable) : Grows s s' where
  reached pc h := by rw [Reached, hflags]; exact h
  visited pc := by rw [hflags]
  inTry pc := by rw [hflags]
  lines pc := by rw [hlines]

end Grows

theorem reached_setFlag {s : FlowState τ} {q : Nat} (pc bit : Nat) (h : Reached s q) :
    Reached (s.setFlag pc bit) q := by
  simp only [Reached, isVisitedOrChanged, isVisited, isChanged, Bool.or_eq_true] at h ⊢
  rw [FlowState.test_setFlag (by decide), FlowState.test_setFlag (by decide)]
  rcases h with h | h <;> simp [h]

theorem reached_setChanged_self (s : FlowState τ) (pc : Nat) : Reached (s.setChanged pc) pc := by
  simp only [Reached, isVisitedOrChanged, isChanged, FlowState.setChanged, Bool.or_eq_true]
  rw [FlowState.test_setFlag (by decide)]
  simp

theorem grows_setChanged (s : FlowState τ) (pc : Nat) : Grows s (s.setChanged pc) where
  reached _ h := reached_setFlag pc kChanged h
  visited q := by
    simp only [isVisited, FlowState.setChanged]
    rw [FlowState.test_setFlag (by decide)]
    simp [kVisited, kChanged]
  inTry q := by
    simp only [isInTry, FlowState.setChanged]
    rw [FlowState.test_setFlag (by decide)]
    simp [kInTry, kChanged]
  lines _ := rfl

theorem grows_setLine (s : FlowState τ) {pc : Nat} (h : (s.regTable pc).isSome) (l : RegisterLine τ) :
    Grows s (s.setLine pc l) where
  reached _ h := h
  visited _ := rfl
  inTry _ := rfl
  lines q := by
    by_cases hq : q = pc
    · subst hq
      simp [FlowState.setLine, h]
    · simp [FlowState.setLine, hq]

theorem checkNotMoveException_grows (m : CodeItem) {i : Nat} {s s' : FlowState τ} {ok : Bool}
    (h : (checkNotMoveException m i).run s = .ok (ok, s')) : Grows s s' := by
  simp only [checkNotMoveException] at h
  split_ifs at h <;> simp at h <;> obtain ⟨-, rfl⟩ := h
  · exact Grows.of_eq rfl rfl
  · exact Grows.refl s

theorem Grows.congr {s t s' : FlowState τ} (h : Grows s t) (hflags : s'.insnFlags = t.insnFlags)
    (hlines : s'.regTable = t.regTable) : Grows s s' :=
  h.trans (Grows.of_eq hflags hlines)

/-- A step taken only when `c` holds. -/
theorem Grows.guard {c : Bool} {x : FlowM τ Bool} {P : FlowState τ → Prop} {s s' : FlowState τ}
    (hx : ∀ {s s' : FlowState τ}, x.run s = .ok (true, s') → Grows s s' ∧ P s')
    (h : if c = true then x.run s = .ok (true, s') else s' = s) : Grows s s' ∧ (c = true → P s') := by
  cases c with
  | true => exact ⟨(hx h).1, fun _ => (hx h).2⟩
  | false =>
    subst h
    exact ⟨Grows.refl _, fun h => absurd h (by simp)⟩

end Reach

/-! ## Where control goes -/

section Successors

variable {τ : Type} (m : CodeItem) (lengths : Nat → Nat)

/-- The target of the branch at `pc`, when it has one. -/
def branchTargets (pc : Nat) : List Nat :=
  match getBranchOffset m pc with
  | some (offset, _, _) => [(pc + offset).toNat]
  | none => []

/-- The targets of the switch at `pc`, in the order of its table. -/
def switchTargets (pc : Nat) : List Nat :=
  let switchInsns := (payloadStart m pc).toNat
  (List.range' 0 (fetch16 m.insns switchInsns 1)).map
    (switchTarget m pc switchInsns (switchTargetsOffset m pc switchInsns))

/-- Every instruction with a line is inside the code. -/
def LinesInCode (s : FlowState τ) : Prop := ∀ pc, (s.regTable pc).isSome → pc < m.insnsSizeInCodeUnits

/-- The instructions `CodeFlowVerifyInstruction` hands the work line to from `pc`, by the flags of
its opcode: the branch target, the switch targets, the handlers when the instruction can throw
in a try block, and the next instruction. -/
def flowSuccessors (inTry : Bool) (pc : Nat) : List Nat :=
  let opcodeFlags := opcodeFlagsOf (opcode m.insns pc)
  (if opcodeFlags &&& kBranch != 0 then branchTargets m pc else []) ++
    (if opcodeFlags &&& kSwitch != 0 then switchTargets m pc else []) ++
    (if opcodeFlags &&& kThrow != 0 && inTry then (catchHandlers m pc).map (·.2) else []) ++
    (if opcodeFlags &&& kContinue != 0 then [pc + lengths pc] else [])

/-- What the loop keeps: the entry is reached, the lines lie inside the code, the try flags are
`inTry`, and every successor of a visited instruction is reached and inside the code. -/
structure Covering (inTry : Nat → Bool) (s : FlowState τ) : Prop where
  entry : Reached s 0
  lines : LinesInCode m s
  tryFlags : ∀ pc, isInTry (s.insnFlags pc) = inTry pc
  closed : ∀ pc, isVisited (s.insnFlags pc) = true →
    ∀ q ∈ flowSuccessors m lengths (inTry pc) pc, Reached s q ∧ q < m.insnsSizeInCodeUnits

variable {m lengths}

theorem Covering.of_grows {inTry : Nat → Bool} {s s' : FlowState τ} (hcov : Covering m lengths inTry s)
    (hgrow : Grows s s') : Covering m lengths inTry s' where
  entry := hgrow.reached 0 hcov.entry
  lines pc hl := hcov.lines pc (by rw [← hgrow.lines]; exact hl)
  tryFlags pc := (hgrow.inTry pc).trans (hcov.tryFlags pc)
  closed pc hv q hq :=
    have hreach := hcov.closed pc (by rw [← hgrow.visited]; exact hv) q hq
    ⟨hgrow.reached q hreach.1, hreach.2⟩

/-- **Marking the processed instruction visited.**  Once every successor of `pc` is reached and
inside the code, `pc` may join the visited instructions. -/
theorem Covering.visit {inTry : Nat → Bool} {s : FlowState τ} {pc : Nat}
    (hcov : Covering m lengths inTry s)
    (hsucc : ∀ q ∈ flowSuccessors m lengths (inTry pc) pc, Reached s q ∧ q < m.insnsSizeInCodeUnits) :
    Covering m lengths inTry ((s.setVisited pc).clearChanged pc) := by
  -- the reached instructions stay reached: `pc` is now visited, the others keep their flags
  have hreach : ∀ q, Reached s q → Reached ((s.setVisited pc).clearChanged pc) q := by
    intro q hq
    by_cases hqp : q = pc
    · subst hqp
      simp [Reached, isVisitedOrChanged, FlowState.isVisited_visit]
    · rw [Reached, FlowState.visit_insnFlags_of_ne hqp]
      exact hq
  refine ⟨hreach 0 hcov.entry, hcov.lines, fun q => ?_, fun q hv r hr => ?_⟩
  · rw [FlowState.isInTry_visit, hcov.tryFlags]
  · by_cases hqp : q = pc
    · subst hqp
      exact ⟨hreach r (hsucc r hr).1, (hsucc r hr).2⟩
    · rw [FlowState.visit_insnFlags_of_ne hqp] at hv
      exact ⟨hreach r (hcov.closed q hv r hr).1, (hcov.closed q hv r hr).2⟩

/-- When the search from `idx` over the rest of the code finds nothing, no instruction from `idx`
on is marked changed. -/
theorem findChanged_eq_size {flags : Nat → Nat} : ∀ {fuel idx : Nat},
    m.insnsSizeInCodeUnits ≤ idx + fuel → findChanged m flags fuel idx = m.insnsSizeInCodeUnits →
    ∀ pc, idx ≤ pc → pc < m.insnsSizeInCodeUnits → isChanged (flags pc) = false
  | 0, idx, hfuel, h, pc, hlo, hhi => by
    simp only [findChanged] at h
    omega
  | fuel + 1, idx, hfuel, h, pc, hlo, hhi => by
    simp only [findChanged] at h
    split_ifs at h with hin hchanged
    · omega
    · rcases Nat.eq_or_lt_of_le hlo with rfl | hlt
      · simpa using hchanged
      · exact findChanged_eq_size (by omega) h pc hlt hhi
    · omega

theorem initialRegTable_linesInCode (env : MethodEnv τ) (flags : Nat → Nat) (pc : Nat)
    (h : (initialRegTable env m flags pc).isSome) : pc < m.insnsSizeInCodeUnits := by
  simp only [initialRegTable] at h
  split_ifs at h with hin
  · exact hin.1
  · exact hin.1
  · cases h

end Successors

/-! ## The steps of one instruction -/

section Steps

variable {τ : Type} [DecidableEq τ] (env : MethodEnv τ) (m : CodeItem) (lengths : Nat → Nat)

/-- **What a merge does.**  `UpdateRegisters` only writes the line of an instruction that has one
and marks it changed; when it answers `true`, the instruction is reached. -/
theorem updateRegisters_grows {next : Nat} {line : RegisterLine τ} {u : Bool} {s s' : FlowState τ}
    {r : Bool × RegisterLine τ} (h : (updateRegisters env m next line u).run s = .ok (r, s')) :
    Grows s s' ∧ (r.1 = true → Reached s' next ∧ (s'.regTable next).isSome) := by
  obtain ⟨target, hline⟩ : ∃ t, s.regTable next = some t := by
    cases hl : s.regTable next with
    | none =>
      simp [updateRegisters, hl] at h
      cases h
    | some t => exact ⟨t, rfl⟩
  have hsome : (s.regTable next).isSome := by simp [hline]
  -- a line written into `next`, which has one, and `next` marked changed
  have hmark (l : RegisterLine τ) : Grows s ((s.setLine next l).setChanged next) ∧
      Reached ((s.setLine next l).setChanged next) next ∧
      (((s.setLine next l).setChanged next).regTable next).isSome :=
    ⟨(grows_setLine s hsome l).trans (grows_setChanged _ _), reached_setChanged_self _ _,
      by simp [FlowState.setLine]⟩
  rcases hmerge : target.mergeRegisters env.types line s.log with ⟨changed, merged, log⟩
  simp [updateRegisters, hline, hmerge] at h
  split_ifs at h with hreached hreturn hok <;> simp at h <;> obtain ⟨rfl, rfl⟩ := h
  -- reached for the first time: the line is copied in, or a return holds a monitor
  · exact ⟨(hmark line).1, fun _ => (hmark line).2⟩
  · exact ⟨Grows.of_eq rfl rfl, fun h => by simp at h⟩
  · exact ⟨(hmark _).1, fun _ => (hmark _).2⟩
  · exact ⟨(hmark _).1, fun _ => (hmark _).2⟩
  · exact ⟨(hmark _).1, fun _ => (hmark _).2⟩
  -- reached before: the merged line is written, and `next` is marked when it changed
  · exact ⟨(grows_setLine s hsome merged).congr rfl rfl, fun h => by simp at h⟩
  · exact ⟨(hmark merged).1.congr rfl rfl, fun _ => (hmark merged).2⟩
  · exact ⟨(hmark merged).1.congr rfl rfl, fun _ => (hmark merged).2⟩
  · exact ⟨(grows_setLine s hsome merged).congr rfl rfl,
      fun _ => ⟨by simpa [Reached] using hreached, by simp [FlowState.setLine]⟩⟩
  · exact ⟨(grows_setLine s hsome merged).congr rfl rfl,
      fun _ => ⟨by simpa [Reached] using hreached, by simp [FlowState.setLine]⟩⟩

/-- The switch targets the loop has handed the line to are reached. -/
theorem updateSwitchTargets_grows {pc switchInsns offsetToTargets : Nat} :
    ∀ {n targ : Nat} {s s' : FlowState τ},
      (updateSwitchTargets env m pc switchInsns offsetToTargets n targ).run s = .ok (true, s') →
      Grows s s' ∧ ∀ t ∈ List.range' targ n,
        Reached s' (switchTarget m pc switchInsns offsetToTargets t) ∧
          (s'.regTable (switchTarget m pc switchInsns offsetToTargets t)).isSome
  | 0, _, s, s', h => by
    simp only [updateSwitchTargets, StateT.run_pure, StateExcept.pure_eq_ok, Except.ok.injEq,
      Prod.mk.injEq, true_and] at h
    subst h
    exact ⟨Grows.refl s, by simp⟩
  | n + 1, targ, s, s', h => by
    simp only [updateSwitchTargets] at h
    obtain ⟨_, s₁, hcheck, -, h₁⟩ := StateExcept.run_check_eq_ok (p := id) (by simp) h
    obtain ⟨a, s₂, hget, h₂⟩ := StateExcept.run_bind_eq_ok.mp h₁
    obtain ⟨rfl, rfl⟩ := StateExcept.run_get_eq_ok.mp hget
    obtain ⟨r, s₃, hupdate, hok, h₃⟩ :=
      StateExcept.run_check_eq_ok (p := fun r : Bool × RegisterLine τ => r.1) (by simp) h₂
    obtain ⟨hgrow₂, hreach₂⟩ := updateRegisters_grows env m hupdate
    obtain ⟨hgrow, hreach⟩ := updateSwitchTargets_grows h₃
    refine ⟨(checkNotMoveException_grows m hcheck).trans (hgrow₂.trans hgrow), ?_⟩
    intro t ht
    rcases List.mem_cons.mp (List.range'_succ ▸ ht) with rfl | ht
    · obtain ⟨hr, hl⟩ := hreach₂ hok
      exact ⟨hgrow.reached _ hr, by rw [hgrow.lines]; exact hl⟩
    · exact hreach t ht

/-- The handlers the loop has handed the line to are reached. -/
theorem updateHandlers_grows {savedLine : RegisterLine τ} :
    ∀ {handlers : List (Nat × Nat)} {s s' : FlowState τ},
      (updateHandlers env m savedLine handlers).run s = .ok (true, s') →
      Grows s s' ∧ ∀ h ∈ handlers, Reached s' h.2 ∧ (s'.regTable h.2).isSome
  | [], s, s', h => by
    simp only [updateHandlers, StateT.run_pure, StateExcept.pure_eq_ok, Except.ok.injEq,
      Prod.mk.injEq, true_and] at h
    subst h
    exact ⟨Grows.refl s, by simp⟩
  | (typeIdx, address) :: rest, s, s', h => by
    simp only [updateHandlers] at h
    obtain ⟨r, s₁, hupdate, hok, h₁⟩ :=
      StateExcept.run_check_eq_ok (p := fun r : Bool × RegisterLine τ => r.1) (by simp) h
    obtain ⟨hgrow₁, hreach₁⟩ := updateRegisters_grows env m hupdate
    obtain ⟨hgrow, hreach⟩ := updateHandlers_grows h₁
    refine ⟨hgrow₁.trans hgrow, ?_⟩
    intro h hh
    rcases List.mem_cons.mp hh with rfl | hh
    · obtain ⟨hr, hl⟩ := hreach₁ hok
      exact ⟨hgrow.reached _ hr, by rw [hgrow.lines]; exact hl⟩
    · exact hreach h hh

theorem followBranch_grows {pc : Nat} {s s' : FlowState τ}
    (h : (followBranch env m pc).run s = .ok (true, s')) :
    Grows s s' ∧ ∀ q ∈ branchTargets m pc, Reached s' q ∧ (s'.regTable q).isSome := by
  rcases hb : getBranchOffset m pc with _ | ⟨offset, a, b⟩ <;> simp only [followBranch, hb] at h
  · simp at h
  obtain ⟨_, s₁, hcheck, -, h₁⟩ := StateExcept.run_check_eq_ok (p := id) (by simp) h
  obtain ⟨_, s₂, hget, h₂⟩ := StateExcept.run_bind_eq_ok.mp h₁
  obtain ⟨rfl, rfl⟩ := StateExcept.run_get_eq_ok.mp hget
  obtain ⟨r, s₃, hupdate, h₃⟩ := StateExcept.run_bind_eq_ok.mp h₂
  simp only [StateT.run_pure, StateExcept.pure_eq_ok, Except.ok.injEq, Prod.mk.injEq] at h₃
  obtain ⟨hok, rfl⟩ := h₃
  obtain ⟨hgrow, hreach⟩ := updateRegisters_grows env m hupdate
  refine ⟨(checkNotMoveException_grows m hcheck).trans hgrow, ?_⟩
  simpa [branchTargets, hb] using hreach hok

theorem handleExceptionEdges_grows {pc op : Nat} {savedLine : RegisterLine τ} {s s' : FlowState τ}
    (h : (handleExceptionEdges env m pc op savedLine).run s = .ok (true, s')) :
    Grows s s' ∧ ∀ q ∈ (catchHandlers m pc).map (·.2), Reached s' q ∧ (s'.regTable q).isSome := by
  simp only [handleExceptionEdges] at h
  obtain ⟨b, s₁, hupdate, hb, h₁⟩ := StateExcept.run_check_eq_ok (p := id) (by simp) h
  obtain rfl : b = true := hb
  obtain ⟨hgrow, hreach⟩ := updateHandlers_grows env m hupdate
  obtain ⟨_, s₂, hget, h₂⟩ := StateExcept.run_bind_eq_ok.mp h₁
  obtain ⟨rfl, rfl⟩ := StateExcept.run_get_eq_ok.mp hget
  -- the monitor check after the edges keeps the state or fails
  have hsame : s₁ = s' := by
    split_ifs at h₂ <;> simp at h₂
    · cases h₂
    · exact h₂
    · exact h₂
  subst hsame
  refine ⟨hgrow, fun q hq => ?_⟩
  obtain ⟨handler, hmem, rfl⟩ := List.mem_map.mp hq
  exact hreach handler hmem

theorem followSwitch_grows {pc : Nat} {s s' : FlowState τ}
    (h : (followSwitch env m pc).run s = .ok (true, s')) :
    Grows s s' ∧ ∀ q ∈ switchTargets m pc, Reached s' q ∧ (s'.regTable q).isSome := by
  obtain ⟨hgrow, hreach⟩ := updateSwitchTargets_grows env m h
  refine ⟨hgrow, fun q hq => ?_⟩
  obtain ⟨t, ht, rfl⟩ := List.mem_map.mp hq
  exact hreach t ht

theorem followContinue_grows {pc : Nat} {s s' : FlowState τ}
    (h : (followContinue env m lengths pc).run s = .ok (true, s')) :
    Grows s s' ∧ Reached s' (pc + lengths pc) ∧ pc + lengths pc < m.insnsSizeInCodeUnits := by
  simp only [followContinue] at h
  by_cases hend : pc + lengths pc ≥ m.insnsSizeInCodeUnits
  · rw [if_pos hend] at h
    simp at h
  rw [if_neg hend] at h
  obtain ⟨_, s₁, hcheck, -, h₁⟩ := StateExcept.run_check_eq_ok (p := id) (by simp) h
  obtain ⟨_, s₂, hget, h₂⟩ := StateExcept.run_bind_eq_ok.mp h₁
  obtain ⟨rfl, rfl⟩ := StateExcept.run_get_eq_ok.mp hget
  -- at a return the work line is cut down first, which writes neither a flag nor a line
  obtain ⟨t, ht, h₃⟩ := StateExcept.run_ite_modify_eq_ok h₂
  have hgrow₁ : Grows s₁ t := by rcases ht with rfl | rfl <;> exact Grows.of_eq rfl rfl
  obtain ⟨_, t₁, hget, h₄⟩ := StateExcept.run_bind_eq_ok.mp h₃
  obtain ⟨rfl, rfl⟩ := StateExcept.run_get_eq_ok.mp hget
  have hgrow₀ := (checkNotMoveException_grows m hcheck).trans hgrow₁
  split_ifs at h₄ with hline
  · -- the next instruction has a line, and the work line is merged into it
    obtain ⟨r, s₃, hupdate, h₅⟩ := StateExcept.run_bind_eq_ok.mp h₄
    simp only [StateT.run_bind, StateT.run_modify, StateExcept.pure_eq_ok, StateExcept.ok_bind,
      StateT.run_pure, Except.ok.injEq, Prod.mk.injEq] at h₅
    obtain ⟨hok, rfl⟩ := h₅
    obtain ⟨hgrow, hreach⟩ := updateRegisters_grows env m hupdate
    exact ⟨hgrow₀.trans (hgrow.trans (Grows.of_eq rfl rfl)), (hreach hok).1, by omega⟩
  · -- it has none, and is only marked changed
    simp only [StateT.run_bind, StateT.run_modify, StateExcept.pure_eq_ok, StateExcept.ok_bind,
      StateT.run_pure, Except.ok.injEq, Prod.mk.injEq, true_and] at h₄
    subst h₄
    exact ⟨hgrow₀.trans (grows_setChanged _ _), reached_setChanged_self _ _, by omega⟩

theorem codeFlowVerifyInstruction_covers {g g' : Nat} {s s' : FlowState τ} (hlines : LinesInCode m s)
    (h : (codeFlowVerifyInstruction env m lengths g).run s = .ok ((true, g'), s')) :
    Grows s s' ∧ ∀ q ∈ flowSuccessors m lengths (isInTry (s.insnFlags s.workInsnIdx)) s.workInsnIdx,
      Reached s' q ∧ q < m.insnsSizeInCodeUnits := by
  simp only [codeFlowVerifyInstruction] at h
  obtain ⟨_, s₁, hget, h₁⟩ := StateExcept.run_bind_eq_ok.mp h
  obtain ⟨rfl, rfl⟩ := StateExcept.run_get_eq_ok.mp hget
  -- the applied instruction sets the work line and the log
  obtain ⟨⟨workLine, log⟩, s₂, -, h₂⟩ := StateExcept.run_bind_eq_ok.mp h₁
  obtain ⟨_, s₃, hset, h₃⟩ := StateExcept.run_bind_eq_ok.mp h₂
  simp only [StateT.run_set, StateExcept.pure_eq_ok, Except.ok.injEq, Prod.mk.injEq, true_and] at hset
  subst hset
  by_cases hfail : log.havePendingHardFailure = true
  · simp [hfail] at h₃
  simp only [hfail] at h₃
  -- the four kinds of successors, each handled when the flags of the opcode ask for it
  obtain ⟨s₄, hbranch, h₄⟩ := StateExcept.run_guard_eq_ok (by simp) h₃
  obtain ⟨s₅, hswitch, h₅⟩ := StateExcept.run_guard_eq_ok (by simp) h₄
  obtain ⟨s₆, hthrow, h₆⟩ := StateExcept.run_guard_eq_ok (by simp) h₅
  obtain ⟨s₇, hcont, h₇⟩ := StateExcept.run_guard_eq_ok (by simp) h₆
  obtain ⟨g₄, hb⟩ := Grows.guard (followBranch_grows env m) hbranch
  obtain ⟨g₅, hs⟩ := Grows.guard (followSwitch_grows env m) hswitch
  obtain ⟨g₆, ht⟩ := Grows.guard (handleExceptionEdges_grows env m) hthrow
  obtain ⟨g₇, hc⟩ := Grows.guard (followContinue_grows env m lengths) hcont
  -- the monitor check of a return writes only the log, and the answer keeps the state
  have g₈ : Grows s₇ s' := by
    by_cases hret : (opcodeFlagsOf (opcode m.insns s.workInsnIdx) &&& Instruction.kReturn != 0) = true
    · rw [if_pos hret] at h₇
      obtain ⟨_, t, hget, h₈⟩ := StateExcept.run_bind_eq_ok.mp h₇
      obtain ⟨rfl, rfl⟩ := StateExcept.run_get_eq_ok.mp hget
      obtain ⟨_, t', hset, h₉⟩ := StateExcept.run_bind_eq_ok.mp h₈
      simp only [StateT.run_set, StateExcept.pure_eq_ok, Except.ok.injEq, Prod.mk.injEq, true_and] at hset
      subst hset
      split_ifs at h₉ <;> simp at h₉ <;> obtain ⟨-, rfl⟩ := h₉ <;> exact Grows.of_eq rfl rfl
    · rw [if_neg hret] at h₇
      split_ifs at h₇ <;> simp at h₇ <;> obtain ⟨-, rfl⟩ := h₇ <;> exact Grows.refl _
  have g₃ : Grows s { s with workLine := workLine, log := log } := Grows.of_eq rfl rfl
  -- a successor reached with a line along the way is reached at the end, inside the code
  have hkeep : ∀ t, Grows s t → Grows t s' → ∀ q, Reached t q → (t.regTable q).isSome →
      Reached s' q ∧ q < m.insnsSizeInCodeUnits :=
    fun t h₁ h₂ q hr hl => ⟨h₂.reached q hr, hlines q (by rw [← h₁.lines]; exact hl)⟩
  refine ⟨g₃.trans (g₄.trans (g₅.trans (g₆.trans (g₇.trans g₈)))), fun q hq => ?_⟩
  simp only [flowSuccessors, List.mem_append] at hq
  rcases hq with ((hq | hq) | hq) | hq <;> split_ifs at hq with hflag
  · exact hkeep s₄ (g₃.trans g₄) (g₅.trans (g₆.trans (g₇.trans g₈))) q (hb hflag q hq).1
      (hb hflag q hq).2
  · simp at hq
  · exact hkeep s₅ (g₃.trans (g₄.trans g₅)) (g₆.trans (g₇.trans g₈)) q (hs hflag q hq).1
      (hs hflag q hq).2
  · simp at hq
  · exact hkeep s₆ (g₃.trans (g₄.trans (g₅.trans g₆))) (g₇.trans g₈) q (ht hflag q hq).1
      (ht hflag q hq).2
  · simp at hq
  · obtain rfl := List.mem_singleton.mp hq
    exact ⟨g₈.reached _ (hc hflag).1, (hc hflag).2⟩
  · simp at hq

end Steps

/-! ## The loop -/

section Loop

variable {τ : Type} [DecidableEq τ] (env : MethodEnv τ) {m : CodeItem} {lengths : Nat → Nat}

/-- One round of the loop once it has chosen the instruction at `idx`: the instruction is
processed and marked visited, and the loop goes on with the invariant. -/
theorem Covering.round {inTry : Nat → Bool} {g idx : Nat} {k : Nat → FlowM τ Bool}
    {t s' : FlowState τ}
    (h : (codeFlowVerifyInstruction env m lengths g >>= fun x =>
      if (!x.1) = true then pure false
      else (modify fun s => (s.setVisited idx).clearChanged idx) >>= fun _ => k x.2).run t =
        .ok (true, s'))
    (hcov : Covering m lengths inTry t) (hidx : t.workInsnIdx = idx) :
    ∃ g' t', Covering m lengths inTry t' ∧ (k g').run t' = .ok (true, s') := by
  obtain ⟨⟨ok, g'⟩, t₁, hstep, hok, h₁⟩ :=
    StateExcept.run_check_eq_ok (p := fun x : Bool × Nat => x.1) (by simp) h
  obtain rfl : ok = true := hok
  obtain ⟨hgrow, hsucc⟩ := codeFlowVerifyInstruction_covers env m lengths hcov.lines hstep
  rw [hidx, hcov.tryFlags] at hsucc
  obtain ⟨_, t₂, hmod, h₂⟩ := StateExcept.run_bind_eq_ok.mp h₁
  simp only [StateT.run_modify, StateExcept.pure_eq_ok, Except.ok.injEq, Prod.mk.injEq,
    true_and] at hmod
  subst hmod
  exact ⟨g', _, (hcov.of_grows hgrow).visit hsucc, h₂⟩

/-- **The loop keeps the invariant.**  A run of the loop that accepts ends in a state that
satisfies `Covering`, with no instruction of the code marked changed. -/
theorem codeFlowLoop_covering {inTry : Nat → Bool} : ∀ {fuel g : Nat} {s s' : FlowState τ},
    Covering m lengths inTry s → (codeFlowLoop env m lengths fuel g).run s = .ok (true, s') →
    Covering m lengths inTry s' ∧
      ∀ pc < m.insnsSizeInCodeUnits, isChanged (s'.insnFlags pc) = false
  | 0, _, _, _, _, h => by
    simp only [codeFlowLoop] at h
    cases h
  | fuel + 1, g, s, s', hcov, h => by
    simp only [codeFlowLoop] at h
    obtain ⟨_, s₁, hget, h₁⟩ := StateExcept.run_bind_eq_ok.mp h
    obtain ⟨rfl, rfl⟩ := StateExcept.run_get_eq_ok.mp hget
    by_cases hdone : findChanged m s.insnFlags (m.insnsSizeInCodeUnits - g) g = m.insnsSizeInCodeUnits
    · rw [if_pos hdone] at h₁
      by_cases hg : g ≠ 0
      · rw [if_pos hg] at h₁
        exact codeFlowLoop_covering hcov h₁
      · -- nothing is marked changed from the top: the loop ends
        rw [if_neg hg] at h₁
        simp only [StateT.run_pure, StateExcept.pure_eq_ok, Except.ok.injEq, Prod.mk.injEq,
          true_and] at h₁
        subst h₁
        obtain rfl : g = 0 := by omega
        exact ⟨hcov, fun pc hpc => findChanged_eq_size (by omega) hdone pc (Nat.zero_le _) hpc⟩
    rw [if_neg hdone] at h₁
    obtain ⟨_, s₂, hmod, h₂⟩ := StateExcept.run_bind_eq_ok.mp h₁
    simp only [StateT.run_modify, StateExcept.pure_eq_ok, Except.ok.injEq, Prod.mk.injEq,
      true_and] at hmod
    subst hmod
    -- at a branch target the work line is loaded from the table first
    by_cases hbt : isBranchTarget (s.insnFlags (findChanged m s.insnFlags (m.insnsSizeInCodeUnits - g) g)) = true
    · rw [if_pos hbt] at h₂
      rcases hl : s.regTable (findChanged m s.insnFlags (m.insnsSizeInCodeUnits - g) g) with _ | line <;>
        simp only [hl] at h₂
      · cases h₂
      obtain ⟨_, s₃, hmod, h₃⟩ := StateExcept.run_bind_eq_ok.mp h₂
      simp only [StateT.run_modify, StateExcept.pure_eq_ok, Except.ok.injEq, Prod.mk.injEq,
        true_and] at hmod
      subst hmod
      obtain ⟨g', t, hcovt, ht⟩ := Covering.round env h₃ (hcov.of_grows (Grows.of_eq rfl rfl)) rfl
      exact codeFlowLoop_covering hcovt ht
    · rw [if_neg hbt] at h₂
      obtain ⟨g', t, hcovt, ht⟩ := Covering.round env h₂ (hcov.of_grows (Grows.of_eq rfl rfl)) rfl
      exact codeFlowLoop_covering hcovt ht

/-- **Every instruction the pass can reach is verified.**  When `CodeFlowVerifyMethod` accepts a
method, started with no instruction visited and with lines only inside the code, every
instruction of a walk from the entry along `flowSuccessors` is inside the code and visited. -/
theorem codeFlowVerifyMethod_visits {fuel : Nat} {s s' : FlowState τ}
    (hsize : 0 < m.insnsSizeInCodeUnits) (hfresh : ∀ pc, isVisited (s.insnFlags pc) = false)
    (hlines : LinesInCode m s) (h : (codeFlowVerifyMethod env m lengths fuel).run s = .ok (true, s'))
    {w : List Nat}
    (hw : Digraph.isWalk (fun pc => flowSuccessors m lengths (isInTry (s.insnFlags pc)) pc) w = true)
    (hhead : w.head? = some 0) :
    ∀ pc ∈ w, pc < m.insnsSizeInCodeUnits ∧ isVisited (s'.insnFlags pc) = true := by
  simp only [codeFlowVerifyMethod] at h
  obtain ⟨_, s₁, hmod, h₁⟩ := StateExcept.run_bind_eq_ok.mp h
  simp only [StateT.run_modify, StateExcept.pure_eq_ok, Except.ok.injEq, Prod.mk.injEq,
    true_and] at hmod
  subst hmod
  -- marking the entry changed starts the invariant, with nothing visited yet
  have hcov : Covering m lengths (fun pc => isInTry (s.insnFlags pc)) (s.setChanged 0) :=
    { entry := reached_setChanged_self s 0
      lines := hlines
      tryFlags := (grows_setChanged s 0).inTry
      closed := fun pc hv => by
        rw [(grows_setChanged s 0).visited, hfresh] at hv
        cases hv }
  obtain ⟨hcov', hclear⟩ := codeFlowLoop_covering env hcov h₁
  -- at the end no instruction of the code waits, so one that is reached is visited
  have hvisited : ∀ pc, Reached s' pc → pc < m.insnsSizeInCodeUnits →
      isVisited (s'.insnFlags pc) = true := by
    intro pc hr hpc
    simpa [Reached, isVisitedOrChanged, hclear pc hpc] using hr
  refine Digraph.forall_mem_of_walk
    (S := fun pc => pc < m.insnsSizeInCodeUnits ∧ isVisited (s'.insnFlags pc) = true) ?_ hw hhead
    ⟨hsize, hvisited 0 hcov'.entry hsize⟩
  rintro pc ⟨-, hv⟩ q hq
  obtain ⟨hr, hlt⟩ := hcov'.closed pc hv q hq
  exact ⟨hlt, hvisited q hr hlt⟩

/-- The flags the static pass leaves on `unbalancedMonitorItem`: the entry and the `return-void`
are branch targets, and the branches, the `monitor-enter` and the return are compile-time info
points. -/
def unbalancedStaticState : VerifierState := ⟨fun pc => [24, 0, 16, 16, 56].getD pc 0, []⟩

theorem unbalancedStaticState_fresh : ∀ pc, isVisited (unbalancedStaticState.insnFlags pc) = false
  | 0 | 1 | 2 | 3 | 4 => by decide
  | pc + 5 => by
    have hdefault : [24, 0, 16, 16, 56].getD (pc + 5) 0 = 0 := List.getD_eq_default _ _ (by simp)
    simp only [unbalancedStaticState, hdefault]
    decide

end Loop

end Verifier

end Art
