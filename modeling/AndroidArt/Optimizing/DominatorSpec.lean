import AndroidArt.Lib.Digraph
import AndroidArt.Optimizing.Builder
import AndroidArt.Optimizing.Dominator

/-!
# The dominator tree on irreducible control flow

`BuildDominatorTree` gives a block its dominator once it has been reached from all its predecessors
but its back edges, as the meet of the dominators of those predecessors at that time.  On a
reducible graph every such dominator is final.  On an irreducible one, which dex code can express,
a loop can be entered at a block that the search did not mark as a header, and a block can be
finalised before a predecessor's dominator moves up.

* `crossedItem` — a static `void f(int, int)` of ten code units whose two branches enter a
  two-block loop at either block.
* `buildDominatorTree_wrong_dominator` — on the graph the builder makes of it, the join block
  after the loop gets as dominator a block that does not dominate it.
-/

set_option autoImplicit false

namespace Art

open Instruction Digraph

/-- `void f(int a, int b)`:
`if-eqz v0, +3` at 0, `goto +6` at 2, `if-eqz v1, +3` at 3, `goto +4` at 5,
`if-eqz v0, +3` at 6, `goto -2` at 8, `return-void` at 9.  The blocks at 6 and 8 form a loop,
entered at 6 from 3 and at 8 from 2. -/
def crossedItem : Verifier.CodeItem where
  registersSize := 2
  triesSize := 0
  insnsSizeInCodeUnits := 10
  insns := fun i =>
    [0x0038, 0x0003, 0x0628, 0x0138, 0x0003, 0x0428, 0x0038, 0x0003, 0xFE28, 0x000E].getD i 0
  insnsAddress := 0
  tries := fun _ => ⟨0, 0, 0⟩
  catchHandlerData := fun _ => 0
  insns_lt := by decide

/-- Two `int` parameters, and no instruction but branches and returns. -/
def intParamsEnv : BuilderEnv := ⟨true, fun _ => false⟩

theorem buildGraph_crossedItem_isSome : (buildGraph intParamsEnv crossedItem).isSome := by
  decide +kernel

/-- The builder numbers the entry block 0, the block at offset 0 2, the blocks at 3, 2, 8, 6,
5 and 9 in the order 3, 4, 5, 6, 7, 8.  The dominator tree then splits the critical edges 3 → 6,
6 → 8 and 6 → 5 by the blocks 9, 10 and 11.  Block 8 (`return-void`) is reached from the block 7
of offset 5, first, and from the loop through 10: when it is finalised, the loop's block 6 has
the dominator 3 from its entry through 9, and 8 takes 3; only later does the loop's entry through
4 and 5 move the dominator of 6 up to 2.  The walk through 4, 5, 6 and 10 avoids 3, and the two
walks to 8 meet only in the entry and 2. -/
theorem buildDominatorTree_wrong_dominator :
    ∃ g, (buildGraph intParamsEnv crossedItem).map HGraph.buildDominatorTree = some g ∧
      (g.block 8).dominator = some 3 ∧
      IsImmediateDominator g.successors g.entryBlock 2 8 ∧
      ¬ Dominates g.successors g.entryBlock 3 8 := by
  set g := ((buildGraph intParamsEnv crossedItem).get buildGraph_crossedItem_isSome).buildDominatorTree
  have hentry : g.entryBlock = 0 := by decide +kernel
  have hw₁ : isWalk g.successors [0, 2, 3, 7, 8] = true := by decide +kernel
  have hw₂ : isWalk g.successors [0, 2, 4, 5, 6, 10, 8] = true := by decide +kernel
  have hsucc : g.successors g.entryBlock = [2] := by decide +kernel
  have hcommon : ∀ d ∈ [0, 2, 3, 7, 8], d ∈ [0, 2, 4, 5, 6, 10, 8] → d ≠ 8 → d = 0 ∨ d = 2 := by
    decide
  refine ⟨g, by rw [Option.eq_some_of_isSome buildGraph_crossedItem_isSome]; rfl,
    by decide +kernel, ?_, ?_⟩
  · refine IsImmediateDominator.of_walks
      ⟨dominates_of_succ_eq_singleton hsucc (by rw [hentry]; decide), by decide⟩
      hw₁ (by rw [hentry]; rfl) rfl hw₂ (by rw [hentry]; rfl) rfl ?_
    intro d h₁ h₂ hne
    rcases hcommon d h₁ h₂ hne with rfl | rfl
    · rw [← hentry]
      exact dominates_entry 2
    · exact dominates_self 2
  · exact not_dominates_of_walk hw₂ (by rw [hentry]; rfl) rfl (by decide)

end Art
