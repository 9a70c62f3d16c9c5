import AndroidArt.Optimizing.Graph
import Mathlib.Algebra.GroupWithZero.Nat

/-!
# The dominator tree of the optimizing compiler

Model of `HGraph::BuildDominatorTree` of `compiler/optimizing/nodes.cc` and the passes it runs:

* `visitBlockForBackEdges` — the depth-first search of `FindBackEdges`: an edge to a block still
  on the search stack (`visiting`) is recorded as a back edge of that block.
* `removeDeadBlocks` — `RemoveDeadBlocks`: a block the search did not reach is removed from the
  predecessors of its successors.  It stays in `blocks_`, with its own successors.
* `splitCriticalEdge`, `simplifyLoop`, `simplifyCFG` — `SimplifyCFG`, in the order of
  `blocks_`, which grows as the pass adds blocks.
* `findCommonDominator`, `visitBlockForDominatorTree` — a block takes as dominator the common
  dominator of the predecessors it has been reached from, and its successors are visited once it
  has been reached from all its predecessors but its back edges.

The recursions of the searches are bounded by `fuel`, which `buildDominatorTree` sets from the
number of blocks, the depth no search exceeds.  The walks up the dominator chains of
`findCommonDominator` are bounded the same way.
-/

set_option autoImplicit false

namespace Art

namespace HGraph

/-- `VisitBlockForBackEdges`, on the graph, the visited blocks and the blocks on the stack. -/
def visitBlockForBackEdges : Nat → Nat → HGraph × List Nat × List Nat → HGraph × List Nat × List Nat
  | 0, _, st => st
  | fuel + 1, b, (g, visited, visiting) =>
    if b ∈ visited then (g, visited, visiting)
    else
      let st := (g.block b).successors.foldl
        (fun (st : HGraph × List Nat × List Nat) s =>
          if s ∈ st.2.2 then (st.1.addBackEdge s b, st.2.1, st.2.2)
          else visitBlockForBackEdges fuel s st)
        (g, b :: visited, b :: visiting)
      (st.1, st.2.1, st.2.2.erase b)

/-- `FindBackEdges`: the graph with its back edges, and the blocks the search reached. -/
def findBackEdges (g : HGraph) (fuel : Nat) : HGraph × List Nat :=
  let st := visitBlockForBackEdges fuel g.entryBlock (g, [], [])
  (st.1, st.2.1)

/-- `RemoveDeadBlocks`. -/
def removeDeadBlocks (g : HGraph) (visited : List Nat) : HGraph :=
  g.blocks.foldl
    (fun g b =>
      if b ∈ visited then g
      else (g.block b).successors.foldl (fun g s => g.removePredecessor s b) g)
    g

/-- `SplitCriticalEdge(block, successor)`. -/
def splitCriticalEdge (g : HGraph) (b s : Nat) : HGraph :=
  let (n, g) := g.newBlock
  let g := ((g.addBlock n).replaceSuccessor b s n).addSuccessor n s
  if (g.block s).isLoopHeader && b ∈ (g.block s).backEdges.getD [] then
    (g.removeBackEdge s b).addBackEdge s n
  else g

/-- The inner loop of `SimplifyCFG` over the successors of `b`, from the `j`-th.  After a split,
the loop looks at slot `j` again, which now holds the new block with its single predecessor: the
model goes on to the next slot. -/
def splitSuccessors (b : Nat) : Nat → Nat → HGraph → HGraph
  | 0, _, g => g
  | fuel + 1, j, g =>
    match (g.block b).successors[j]? with
    | none => g
    | some s =>
      if (g.block s).predecessors.length > 1 then splitSuccessors b fuel (j + 1) (g.splitCriticalEdge b s)
      else splitSuccessors b fuel (j + 1) g

/-- `SimplifyLoop(header)`: one back edge, through a new block if there were several, and one
pre-header, through a new block if the loop is entered from several blocks. -/
def simplifyLoop (g : HGraph) (header : Nat) : HGraph :=
  let backEdges := (g.block header).backEdges.getD []
  let g :=
    if backEdges.length > 1 then
      let (n, g) := g.newBlock
      let g := backEdges.foldl (fun g e => g.replaceSuccessor e header n) (g.addBlock n)
      ((g.clearBackEdges header).addBackEdge header n).addSuccessor n header
    else g
  let numberOfIncomings := (g.block header).predecessors.length - (g.block header).numberOfBackEdges
  if numberOfIncomings ≠ 1 then
    let (pre, g) := g.newBlock
    let backEdge := ((g.block header).backEdges.getD [])[0]?
    let g := ((g.block header).predecessors.filter (some · ≠ backEdge)).foldl
      (fun g p => g.replaceSuccessor p header pre) (g.addBlock pre)
    g.addSuccessor pre header
  else g

/-- The loop of `SimplifyCFG` over `blocks_` from index `i`; the blocks the pass adds are
visited in their turn. -/
def simplifyFrom : Nat → Nat → HGraph → HGraph
  | 0, _, g => g
  | fuel + 1, i, g =>
    match g.blocks[i]? with
    | none => g
    | some b =>
      let g :=
        if (g.block b).successors.length > 1 then
          splitSuccessors b ((g.block b).successors.length) 0 g
        else g
      let g := if (g.block b).isLoopHeader then g.simplifyLoop b else g
      simplifyFrom fuel (i + 1) g

/-- A bound on the number of blocks `SimplifyCFG` ends with: one new block for each edge, and two
for each loop header. -/
def simplifyFuel (g : HGraph) : Nat :=
  3 * g.blocks.length + (g.blocks.map fun b => (g.block b).successors.length).sum + 1

/-- `SimplifyCFG`. -/
def simplifyCFG (g : HGraph) : HGraph := simplifyFrom (simplifyFuel g) 0 g

/-- The dominator chain of a block, itself first, as the walks of `FindCommonDominator` follow
it. -/
def dominatorChain (g : HGraph) : Nat → Option Nat → List Nat
  | 0, _ => []
  | _ + 1, none => []
  | fuel + 1, some b => b :: dominatorChain g fuel (g.block b).dominator

/-- `FindCommonDominator(first, second)`: the first block of the chain of `second` that is on the
chain of `first`, or none (`LOG(ERROR)` and `nullptr`). -/
def findCommonDominator (g : HGraph) (fuel : Nat) (first second : Option Nat) : Option Nat :=
  let visited := g.dominatorChain fuel first
  (g.dominatorChain fuel second).find? (· ∈ visited)

/-- `VisitBlockForDominatorTree(block, predecessor, visits)`. -/
def visitBlockForDominatorTree (chainFuel : Nat) :
    Nat → Nat → Nat → HGraph × (Nat → Nat) → HGraph × (Nat → Nat)
  | 0, _, _, st => st
  | fuel + 1, b, predecessor, (g, visits) =>
    let g :=
      match (g.block b).dominator with
      | none => g.setDominator b (some predecessor)
      | some d => g.setDominator b (g.findCommonDominator chainFuel (some d) (some predecessor))
    let visits := Function.update visits b (visits b + 1)
    -- `GetPredecessors().Size() - NumberOfBackEdges()`; a header has its back edges among its
    -- predecessors
    if visits b = (g.block b).predecessors.length - (g.block b).numberOfBackEdges then
      let g := { g with reversePostOrder := g.reversePostOrder ++ [b] }
      (g.block b).successors.foldl
        (fun st s => visitBlockForDominatorTree chainFuel fuel s b st) (g, visits)
    else (g, visits)

/-- `BuildDominatorTree`. -/
def buildDominatorTree (g : HGraph) : HGraph :=
  let fuel := g.allocated + 1
  let (g, visited) := g.findBackEdges fuel
  let g := (g.removeDeadBlocks visited).simplifyCFG
  let fuel := g.allocated + 1
  let g := { g with reversePostOrder := g.reversePostOrder ++ [g.entryBlock] }
  ((g.block g.entryBlock).successors.foldl
    (fun st s => visitBlockForDominatorTree fuel fuel s g.entryBlock st) (g, fun _ => 0)).1

end HGraph

end Art
