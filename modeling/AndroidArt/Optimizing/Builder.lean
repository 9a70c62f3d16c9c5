import AndroidArt.Optimizing.Graph
import AndroidArt.Verifier.StaticChecks

/-!
# The graph builder of the optimizing compiler

Model of the control flow of `HGraphBuilder::BuildGraph` of `compiler/optimizing/builder.cc`:
which blocks it creates, in which order it adds them to the graph, and the successors it gives
them.

* `computeBranchTargets` — `ComputeBranchTargets`: a block for offset 0, the single successor of
  the entry block, then one for the target of each branch and one for the instruction after it.
* `maybeUpdateCurrentBlock` — `MaybeUpdateCurrentBlock`: at the start of a block, the current
  block, if any, falls through to it with a goto, and the block is added to the graph.
* `analyzeControlFlow` — the cases of `AnalyzeDexInstruction` that end a block: an `if` (`If_22t`,
  `If_21t`) has the target of the branch and then the next instruction as successors, a `goto`
  its target, a return the exit block.

What else decides whether a method is built is left as `BuilderEnv`: the parameters that
`InitializeParameters` accepts, and whether `AnalyzeDexInstruction` handles each instruction that is
not a branch or a return (its operand types, the fields and methods it names).  A branch target
outside the code, which only unverified code has, and an instruction with no current block to add
it to, fail the model's build: the source reads out of bounds, or through a null pointer.

The model is the release build: the `DCHECK`s of `FindBlockStartingAt` and
`AnalyzeDexInstruction` are left out.
-/

set_option autoImplicit false

namespace Art

open Instruction

/-- What, besides the control flow of the code, decides whether a method's graph is built. -/
structure BuilderEnv where
  /-- `InitializeParameters` succeeds: no parameter is a `float` or a `double`. -/
  parametersOk : Bool
  /-- `AnalyzeDexInstruction` returns true for the instruction at this dex offset, not a branch
  or a return. -/
  handles : Nat → Bool

/-- `HGraphBuilder` while it builds: the graph, `branch_targets_` and `current_block_`. -/
structure HGraphBuilder where
  graph : HGraph
  branchTargets : Nat → Option Nat
  currentBlock : Option Nat

namespace HGraphBuilder

variable (insns : CodeUnits) (size : Nat)

/-- `FindBlockStartingAt` of a relative branch target, when it lies in the code. -/
def findBlockAt (b : HGraphBuilder) (index : Int) : Option Nat :=
  if 0 ≤ index ∧ index < size then b.branchTargets index.toNat else none

/-- A new block for the instruction at `index`, unless there is one. -/
def createBlockAt (b : HGraphBuilder) (index : Nat) : HGraphBuilder :=
  match b.branchTargets index with
  | some _ => b
  | none =>
    let (n, g) := b.graph.newBlock
    { b with graph := g, branchTargets := Function.update b.branchTargets index (some n) }

/-- The loop of `ComputeBranchTargets` from `dexOffset`. -/
def computeBranchTargets : Nat → Nat → HGraphBuilder → Option HGraphBuilder
  | 0, _, b => some b
  | fuel + 1, dexOffset, b =>
    if dexOffset < size then
      let next := dexOffset + sizeInCodeUnits insns dexOffset
      if isBranch insns dexOffset then
        let target := (dexOffset : Int) + getTargetOffset insns dexOffset
        if 0 ≤ target ∧ target < size then
          let b := b.createBlockAt target.toNat
          let b := if next < size then b.createBlockAt next else b
          computeBranchTargets fuel next b
        else none
      else computeBranchTargets fuel next b
    else some b

/-- `MaybeUpdateCurrentBlock(index)`. -/
def maybeUpdateCurrentBlock (b : HGraphBuilder) (index : Nat) : HGraphBuilder :=
  match b.branchTargets index with
  | none => b
  | some block =>
    let g := match b.currentBlock with
      | some current => b.graph.addSuccessor current block
      | none => b.graph
    { b with graph := g.addBlock block, currentBlock := some block }

/-- The current block ends with edges to `targets`, and the builder has no current block. -/
def endBlock (b : HGraphBuilder) (targets : List (Option Nat)) : Option HGraphBuilder :=
  match b.currentBlock, targets.mapM id with
  | some current, some blocks =>
    some { b with
      graph := blocks.foldl (fun g t => g.addSuccessor current t) b.graph, currentBlock := none }
  | _, _ => none

/-- `AnalyzeDexInstruction` for the instruction at `dexOffset`, as far as the graph goes. -/
def analyzeControlFlow (env : BuilderEnv) (b : HGraphBuilder) (dexOffset : Nat) :
    Option HGraphBuilder :=
  let op := opcode insns dexOffset
  let next := (dexOffset + sizeInCodeUnits insns dexOffset : Nat)
  if IF_EQ ≤ op ∧ op ≤ IF_LEZ then
    b.endBlock [b.findBlockAt size (dexOffset + getTargetOffset insns dexOffset),
      b.findBlockAt size next]
  else if op = GOTO ∨ op = GOTO_16 ∨ op = GOTO_32 then
    b.endBlock [b.findBlockAt size (dexOffset + getTargetOffset insns dexOffset)]
  else if op = RETURN_VOID ∨ op = RETURN ∨ op = RETURN_OBJECT ∨ op = RETURN_WIDE then
    b.endBlock [some b.graph.exitBlock]
  else if env.handles dexOffset && b.currentBlock.isSome then some b
  else none

/-- The loop of `BuildGraph` over the instructions from `dexOffset`. -/
def buildBlocks (env : BuilderEnv) : Nat → Nat → HGraphBuilder → Option HGraphBuilder
  | 0, _, b => some b
  | fuel + 1, dexOffset, b =>
    if dexOffset < size then
      match (b.maybeUpdateCurrentBlock dexOffset).analyzeControlFlow insns size env dexOffset with
      | none => none
      | some b => buildBlocks env fuel (dexOffset + sizeInCodeUnits insns dexOffset) b
    else some b

end HGraphBuilder

open HGraphBuilder in
/-- `HGraphBuilder::BuildGraph`: the graph of a method, or none (`nullptr`). -/
def buildGraph (env : BuilderEnv) (codeItem : Verifier.CodeItem) : Option HGraph :=
  -- `CanHandleCodeItem`
  if codeItem.triesSize > 0 then none
  else
    let insns := codeItem.insns
    let size := codeItem.insnsSizeInCodeUnits
    let (entry, g) := HGraph.empty.newBlock
    let g := g.addBlock entry
    let (exit, g) := g.newBlock
    let g := { g with entryBlock := entry, exitBlock := exit }
    let (first, g) := g.newBlock
    let b : HGraphBuilder :=
      ⟨g.addSuccessor entry first, Function.update (fun _ => none) 0 (some first), none⟩
    match computeBranchTargets insns size size 0 b with
    | none => none
    | some b =>
      if !env.parametersOk then none
      else
        match buildBlocks insns size env size 0 b with
        | none => none
        | some b => some (b.graph.addBlock exit)

end Art
