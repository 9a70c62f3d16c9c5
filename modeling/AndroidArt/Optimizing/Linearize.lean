import AndroidArt.Optimizing.Builder
import AndroidArt.Optimizing.Dominator
import Mathlib.Logic.Relation

/-!
# Natural loops and the linear order of the liveness analysis

Model of `HGraph::FindNaturalLoops` with `HLoopInformation::Populate` and
`HBasicBlock::SetInLoop` (`compiler/optimizing/nodes.cc`, `nodes.h`), and of
`SsaLivenessAnalysis::LinearizeGraph` with `VisitBlockForLinearization`
(`compiler/optimizing/ssa_liveness_analysis.cc`).

A loop information is named by its header: the builder creates it, with the header's
`loop_information_`, when the header gets its first back edge, and `blocks_` is the list of the
blocks whose bit `Populate` sets.  The recursions of `PopulateRecursive` and of the depth-first
search of the linearization are bounded by `fuel`, set from the number of blocks: each level
marks a block that was not marked.

Principal results:
* `visitBlockForLinearization_nodup`: the linear post order lists each block at most once, and
  only blocks the search has marked.
* `linearizeGraph_splits_loop`: on the graph the optimizing compiler builds for a method whose loop
  body leaves the loop through a `return`, the blocks of the loop are not contiguous in the
  linear order.

The model is the release build: the `DCHECK`s of `Populate` (one back edge, dominated) and of
`VisitBlockForLinearization` (two successors of a block that ends in an `if`) are left out.
-/

set_option autoImplicit false

namespace Art

/-- What `FindNaturalLoops` computes: `blocks_` of the loop information of each header, and
`loop_information_` of each block, by the header of its loop. -/
structure LoopInformation where
  blocks : Nat → List Nat
  loopOf : Nat → Option Nat

namespace LoopInformation

variable (li : LoopInformation)

/-- `HLoopInformation::Contains`. -/
def contains (header b : Nat) : Bool := b ∈ li.blocks header

/-- `inner->IsIn(outer)`: the header of `inner` is a block of `outer`. -/
def isIn (inner outer : Nat) : Bool := li.contains outer inner

/-- The loop informations that the builder leaves: a header has its own, with no blocks yet. -/
def initial (g : HGraph) : LoopInformation :=
  ⟨fun _ => [], fun b => if (g.block b).isLoopHeader then some b else none⟩

/-- `block->SetInLoop(info)` for the loop information of `header`. -/
def setInLoop (g : HGraph) (b header : Nat) : LoopInformation :=
  if (g.block b).isLoopHeader then li
  else
    match li.loopOf b with
    | none => { li with loopOf := Function.update li.loopOf b (some header) }
    | some current =>
      if li.contains current header then { li with loopOf := Function.update li.loopOf b (some header) }
      else li

/-- Sets the bit of block `b` in `blocks_` of `header`. -/
def setBit (header b : Nat) : LoopInformation :=
  { li with blocks := Function.update li.blocks header (li.blocks header ++ [b]) }

end LoopInformation

namespace HGraph

variable (g : HGraph)

/-- `HLoopInformation::PopulateRecursive(block)` of the loop of `header`. -/
def populateRecursive (header : Nat) : Nat → Nat → LoopInformation → LoopInformation
  | 0, _, li => li
  | fuel + 1, b, li =>
    if li.contains header b then li
    else
      let li := (li.setBit header b).setInLoop g b header
      (g.block b).predecessors.foldl (fun li p => populateRecursive header fuel p li) li

/-- `HBasicBlock::Dominates(other)`: the walk up the dominators from `other` meets `d`. -/
def dominates (d : Nat) : Nat → Option Nat → Bool
  | 0, _ => false
  | _ + 1, none => false
  | fuel + 1, some b => b = d || dominates d fuel (g.block b).dominator

/-- `HLoopInformation::Populate()` of the loop of `header`: none when the loop is not natural. -/
def populate (header : Nat) (li : LoopInformation) : Option LoopInformation :=
  match ((g.block header).backEdges.getD [])[0]? with
  | none => some li
  | some backEdge =>
    if g.dominates header (g.allocated + 1) (some backEdge) then
      some (g.populateRecursive header (g.allocated + 1) backEdge (li.setBit header header))
    else none

/-- `FindNaturalLoops`, over `blocks_`: none when it bails out on a loop that is not natural. -/
def findNaturalLoops : Option LoopInformation :=
  g.blocks.foldl
    (fun li b => li.bind fun li => if (g.block b).isLoopHeader then g.populate b li else some li)
    (some (LoopInformation.initial g))

end HGraph

namespace SsaLivenessAnalysis

variable (g : HGraph) (li : LoopInformation)

/-- `IsLoopExit(current, to)`. -/
def isLoopExit (current : Nat) : Option Nat → Bool
  | none => true
  | some toLoop => current != toLoop && li.isIn current toLoop

/-- `IsInnerLoop(outer, inner)`. -/
def isInnerLoop : Option Nat → Option Nat → Bool
  | some outer, some inner => inner != outer && li.isIn inner outer
  | _, _ => false

/-- The order in which `VisitBlockForLinearization` visits the two successors of a block of the
loop `myLoop`: the loop exit first, and an inner loop last, in post order. -/
def orderSuccessors (myLoop : Option Nat) (first second : Nat) : Nat × Nat :=
  match myLoop with
  | none => (first, second)
  | some myLoop =>
    if isLoopExit li myLoop (li.loopOf second) && li.loopOf first == some myLoop then (second, first)
    else if isInnerLoop li (some myLoop) (li.loopOf first) &&
        !isInnerLoop li (some myLoop) (li.loopOf second) then (second, first)
    else (first, second)

/-- `VisitBlockForLinearization(block, order, visited)`, on `linear_post_order_` and the visited
blocks. -/
def visitBlockForLinearization : Nat → Nat → List Nat × List Nat → List Nat × List Nat
  | 0, _, st => st
  | fuel + 1, b, (order, visited) =>
    if b ∈ visited then (order, visited)
    else
      let st :=
        match (g.block b).successors with
        | [] => (order, b :: visited)
        | [s] => visitBlockForLinearization fuel s (order, b :: visited)
        | first :: second :: _ =>
          let (first, second) := orderSuccessors li (li.loopOf b) first second
          visitBlockForLinearization fuel second
            (visitBlockForLinearization fuel first (order, b :: visited))
      (st.1 ++ [b], st.2)

/-- `LinearizeGraph`: `linear_post_order_`.  The linear order of the analysis is its reverse. -/
def linearizeGraph : List Nat :=
  (visitBlockForLinearization g li (g.allocated + 1) g.entryBlock ([], [])).1

/-- The successors of a block of the loop `myLoop` in the order of the visit: the two successors,
either way round. -/
theorem orderSuccessors_eq (myLoop : Option Nat) (first second : Nat) :
    orderSuccessors li myLoop first second = (first, second) ∨
      orderSuccessors li myLoop first second = (second, first) := by
  unfold orderSuccessors
  split
  · exact .inl rfl
  · split_ifs <;> simp

/-- Reachability along the successors of the graph. -/
def Reaches (a c : Nat) : Prop := Relation.ReflTransGen (fun a c => c ∈ (g.block a).successors) a c

/-- From `st` to `st'`, the visited blocks only grow, and `linear_post_order_` grows by blocks
that were not visited in `st`, each once, that are visited in `st'` and reachable from `b`. -/
structure Grows (b : Nat) (st st' : List Nat × List Nat) : Prop where
  visited : ∀ x ∈ st.2, x ∈ st'.2
  order : ∃ new : List Nat, st'.1 = st.1 ++ new ∧ new.Nodup ∧
    ∀ x ∈ new, x ∉ st.2 ∧ x ∈ st'.2 ∧ Reaches g b x

variable {g} {b : Nat}

theorem Grows.refl (st : List Nat × List Nat) : Grows g b st st :=
  ⟨fun _ hx => hx, ⟨[], by simp⟩⟩

theorem Grows.trans {st st' st'' : List Nat × List Nat} (h₁ : Grows g b st st')
    (h₂ : Grows g b st' st'') : Grows g b st st'' := by
  obtain ⟨new₁, e₁, n₁, m₁⟩ := h₁.order
  obtain ⟨new₂, e₂, n₂, m₂⟩ := h₂.order
  refine ⟨fun x hx => h₂.visited x (h₁.visited x hx), new₁ ++ new₂, by rw [e₂, e₁, List.append_assoc],
    List.nodup_append.mpr ⟨n₁, n₂, fun x hx y hy e => (m₂ y hy).1 (e ▸ (m₁ x hx).2.1)⟩, ?_⟩
  intro x hx
  rcases List.mem_append.mp hx with hx | hx
  · exact ⟨(m₁ x hx).1, h₂.visited x (m₁ x hx).2.1, (m₁ x hx).2.2⟩
  · exact ⟨fun h => (m₂ x hx).1 (h₁.visited x h), (m₂ x hx).2.1, (m₂ x hx).2.2⟩

/-- What a visit from a successor of `b` adds is reachable from `b`. -/
theorem Grows.head {c : Nat} (hc : c ∈ (g.block b).successors) {st st' : List Nat × List Nat}
    (h : Grows g c st st') : Grows g b st st' := by
  obtain ⟨new, e, n, m⟩ := h.order
  exact ⟨h.visited, new, e, n, fun x hx => ⟨(m x hx).1, (m x hx).2.1, .head hc (m x hx).2.2⟩⟩

/-- Marking `b`, visiting from there, and adding `b` last. -/
theorem Grows.mark {order visited : List Nat} (hb : b ∉ visited) {st : List Nat × List Nat}
    (h : Grows g b (order, b :: visited) st) : Grows g b (order, visited) (st.1 ++ [b], st.2) := by
  obtain ⟨new, e, n, m⟩ := h.order
  have hbst : b ∈ st.2 := h.visited b List.mem_cons_self
  refine ⟨fun x hx => h.visited x (List.mem_cons_of_mem _ hx), new ++ [b], by rw [e, List.append_assoc],
    List.nodup_append.mpr ⟨n, by simp, fun x hx y hy e => ?_⟩, fun x hx => ?_⟩
  · rw [List.mem_singleton] at hy
    exact (m x hx).1 (by rw [e, hy]; exact List.mem_cons_self)
  · rcases List.mem_append.mp hx with hx | hx
    · exact ⟨fun h => (m x hx).1 (List.mem_cons_of_mem _ h), (m x hx).2.1, (m x hx).2.2⟩
    · rw [List.mem_singleton] at hx
      subst hx
      exact ⟨hb, hbst, .refl⟩

variable (g)

/-- A visit from `b` appends to `linear_post_order_` blocks that were not visited before, each
once, that it marks visited and that are reachable from `b`. -/
theorem visitBlockForLinearization_grows :
    ∀ (fuel b : Nat) (st : List Nat × List Nat), Grows g b st (visitBlockForLinearization g li fuel b st) := by
  intro fuel
  induction fuel with
  | zero => intro b st; exact .refl st
  | succ fuel ih =>
    intro b st
    obtain ⟨order, visited⟩ := st
    by_cases hb : b ∈ visited
    · simp only [visitBlockForLinearization, hb, if_true]
      exact .refl _
    simp only [visitBlockForLinearization, hb, if_false]
    apply Grows.mark hb
    split
    · exact .refl _
    · rename_i s hs
      exact (ih s _).head (by simp [hs])
    · rename_i first second rest hs
      obtain ⟨f, t, hft, hf, ht⟩ : ∃ f t, orderSuccessors li (li.loopOf b) first second = (f, t) ∧
          f ∈ (g.block b).successors ∧ t ∈ (g.block b).successors := by
        rcases orderSuccessors_eq li (li.loopOf b) first second with h | h
        · exact ⟨first, second, h, by simp [hs], by simp [hs]⟩
        · exact ⟨second, first, h, by simp [hs], by simp [hs]⟩
      rw [hft]
      exact ((ih f _).head hf).trans ((ih t _).head ht)

/-- `linear_post_order_` lists each block at most once, and only blocks reachable from the entry
block. -/
theorem linearizeGraph_nodup :
    (linearizeGraph g li).Nodup ∧ ∀ b ∈ linearizeGraph g li, Reaches g g.entryBlock b := by
  obtain ⟨new, e, n, m⟩ :=
    (visitBlockForLinearization_grows g li (g.allocated + 1) g.entryBlock ([], [])).order
  unfold linearizeGraph
  rw [e, List.nil_append]
  exact ⟨n, fun b hb => (m b hb).2.2⟩

end SsaLivenessAnalysis

/-- The blocks with `p` form one segment of `l`. -/
def Contiguous (l : List Nat) (p : Nat → Bool) : Prop :=
  ∀ (i j k x y z : Nat), i < j → j < k → l[i]? = some x → l[j]? = some y → l[k]? = some z →
    p x = true → p z = true → p y = true

/-- `LinearizeTest.CFG1`: `const/4 v0, 0`, `if-eq v0, v0, +5`, `if-eq v0, v0, -2`, `goto -2`,
`return-void`, with one register. -/
def linearizeTestCfg1 : Verifier.CodeItem where
  registersSize := 1
  triesSize := 0
  insnsSizeInCodeUnits := 7
  insns := fun i => [0x0012, 0x0032, 0x0005, 0x0032, 0xFFFE, 0xFE28, 0x000E].getD i 0
  insnsAddress := 0
  tries := fun _ => ⟨0, 0, 0⟩
  catchHandlerData := fun _ => 0
  insns_lt := by decide

/-- The linear order of `LinearizeTest.CFG1`, by block id (the index in `blocks_`), is the one the
test expects. -/
example : (buildGraph ⟨true, fun _ => true⟩ linearizeTestCfg1).bind (fun g =>
    let g := g.buildDominatorTree
    g.findNaturalLoops.map fun li =>
      (SsaLivenessAnalysis.linearizeGraph g li).reverse.map g.blocks.idxOf) =
      some [0, 1, 2, 7, 3, 4, 8, 5, 6] := by
  decide +kernel

/-- The ten code units of `loopReturnItem` are within the verifier's bound. -/
theorem loopReturnItem_insns_lt : 10 < 2 ^ 31 := by decide

/-- `static void f(int a, int b, int c)`: `if-eqz v0, +9` at 0, `if-eqz v1, +5` at 2,
`if-eqz v2, +4` at 4, `goto -6` at 6, `goto -1` at 7, `return-void` at 8 and at 9.  The loop
headed at 0 is left at 0 for the return at 9 and, from its body, at 4 for the return at 8. -/
def loopReturnItem : Verifier.CodeItem where
  registersSize := 3
  triesSize := 0
  insnsSizeInCodeUnits := 10
  insns := fun i =>
    [0x0038, 0x0009, 0x0138, 0x0005, 0x0238, 0x0004, 0xFA28, 0xFF28, 0x000E, 0x000E].getD i 0
  insnsAddress := 0
  tries := fun _ => ⟨0, 0, 0⟩
  catchHandlerData := fun _ => 0
  insns_lt := loopReturnItem_insns_lt

theorem buildGraph_loopReturnItem_isSome : (buildGraph ⟨true, fun _ => false⟩ loopReturnItem).isSome := by
  decide +kernel

/-- The builder numbers the header at 0 2, the exit at 9 3, the body's blocks at 2, 7, 4, 8 and 6
as 4, 5, 6, 7 and 8, and the dominator tree splits the critical edge 6 → 8 by block 9.  The
natural loop of 2 is 2, 4, 5, 6, 8 and 9.  The search goes from 4 to 5 and 8 first, and from 6
to the return 7 before 9, so the linear order puts 7, outside the loop, between 9 and 5. -/
theorem linearizeGraph_splits_loop :
    ∃ g li, (buildGraph ⟨true, fun _ => false⟩ loopReturnItem).map HGraph.buildDominatorTree = some g ∧
      g.findNaturalLoops = some li ∧ (g.block 2).isLoopHeader = true ∧
      li.blocks 2 = [2, 8, 5, 4, 9, 6] ∧
      (SsaLivenessAnalysis.linearizeGraph g li).reverse = [0, 2, 4, 6, 9, 7, 5, 8, 3, 1] ∧
      ¬ Contiguous (SsaLivenessAnalysis.linearizeGraph g li).reverse (li.contains 2) := by
  set g := ((buildGraph ⟨true, fun _ => false⟩ loopReturnItem).get
    buildGraph_loopReturnItem_isSome).buildDominatorTree
  set li := g.findNaturalLoops.getD (LoopInformation.initial g)
  have hli : g.findNaturalLoops = some li := by
    have hsome : g.findNaturalLoops.isSome := by decide +kernel
    obtain ⟨x, hx⟩ := Option.isSome_iff_exists.mp hsome
    simp [li, hx]
  have horder : (SsaLivenessAnalysis.linearizeGraph g li).reverse = [0, 2, 4, 6, 9, 7, 5, 8, 3, 1] := by
    decide +kernel
  have hblocks : li.blocks 2 = [2, 8, 5, 4, 9, 6] := by decide +kernel
  refine ⟨g, li, by rw [Option.eq_some_of_isSome buildGraph_loopReturnItem_isSome]; rfl,
    hli, by decide +kernel, hblocks, horder, ?_⟩
  intro hc
  have h7 := hc 4 5 6 9 7 5 (by decide) (by decide) (by rw [horder]; rfl) (by rw [horder]; rfl)
    (by rw [horder]; rfl) (by simp [LoopInformation.contains, hblocks])
    (by simp [LoopInformation.contains, hblocks])
  simp [LoopInformation.contains, hblocks] at h7


end Art
