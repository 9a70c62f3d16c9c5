import Mathlib.Data.List.Basic

/-!
# The control-flow graph of the optimizing compiler

Model of `HGraph`, `HBasicBlock` and `HLoopInformation` of `compiler/optimizing/nodes.h`, as far
as the building of a graph and of its dominator tree use them: each block's ordered predecessor
and successor lists, the back edges of a loop header, and the dominator.  The instructions of a
block are left out: nothing that builds the dominator tree reads them.

A block is an arena object, created and linked before `AddBlock` gives it its id, its index in
`blocks_`.  The model names a block by the number of its allocation (`allocated` counts them), and
`blocks` lists the blocks in the order of `AddBlock`.  A bit vector or a counter indexed by block
id is a set of blocks, or a function on them.

* `GrowableArray.delete` — `GrowableArray::Delete`: the first occurrence is removed, and when there
  is none, the last element.
* `addSuccessor`, `replaceSuccessor`, `removePredecessor`, `addBackEdge` — the updates of
  `HBasicBlock`, each on the lists of both blocks it links.
-/

set_option autoImplicit false

namespace Art

/-- `GrowableArray::Delete`: the elements after the first occurrence of `x` move down by one, and
the array loses its last element, which is the last element itself when `x` does not occur. -/
def GrowableArray.delete {α : Type} [DecidableEq α] (l : List α) (x : α) : List α :=
  if x ∈ l then l.erase x else l.dropLast

/-- The parts of an `HBasicBlock` that the construction of the graph and of its dominator tree
read and write. -/
structure HBasicBlock where
  predecessors : List Nat
  successors : List Nat
  /-- The back edges of the block's `HLoopInformation`, when the block is a loop header. -/
  backEdges : Option (List Nat)
  dominator : Option Nat
  deriving DecidableEq, Repr

/-- A new block: no edges, no loop information and no dominator. -/
def HBasicBlock.empty : HBasicBlock := ⟨[], [], none, none⟩

/-- `NumberOfBackEdges`. -/
def HBasicBlock.numberOfBackEdges (b : HBasicBlock) : Nat := (b.backEdges.getD []).length

/-- `IsLoopHeader`: the block has loop information, which is its own before loops are
populated. -/
def HBasicBlock.isLoopHeader (b : HBasicBlock) : Bool := b.backEdges.isSome

/-- An `HGraph` with its blocks, by allocation number. -/
structure HGraph where
  block : Nat → HBasicBlock
  /-- `blocks_`: the blocks in the order of `AddBlock`. -/
  blocks : List Nat
  /-- The number of blocks allocated so far; the next `new HBasicBlock` has this number. -/
  allocated : Nat
  entryBlock : Nat
  exitBlock : Nat
  reversePostOrder : List Nat

namespace HGraph

variable (g : HGraph)

/-- A graph with no block. -/
def empty : HGraph := ⟨fun _ => .empty, [], 0, 0, 0, []⟩

/-- `new (arena_) HBasicBlock(graph)`: the new block and the graph that has allocated it. -/
def newBlock : Nat × HGraph := (g.allocated, { g with allocated := g.allocated + 1 })

/-- `AddBlock`. -/
def addBlock (b : Nat) : HGraph := { g with blocks := g.blocks ++ [b] }

/-- Changes the data of block `b`. -/
def modify (b : Nat) (f : HBasicBlock → HBasicBlock) : HGraph :=
  { g with block := Function.update g.block b (f (g.block b)) }

/-- `b->AddSuccessor(s)`: `s` goes at the end of the successors of `b`, and `b` at the end of the
predecessors of `s`. -/
def addSuccessor (b s : Nat) : HGraph :=
  (g.modify b fun x => { x with successors := x.successors ++ [s] }).modify s
    fun x => { x with predecessors := x.predecessors ++ [b] }

/-- `b->RemovePredecessor(p)`. -/
def removePredecessor (b p : Nat) : HGraph :=
  g.modify b fun x => { x with predecessors := GrowableArray.delete x.predecessors p }

/-- `b->ReplaceSuccessor(existing, newBlock)`: the first successor slot of `existing` now holds
`newBlock`, which gains `b` as its last predecessor, and `existing` loses `b`. -/
def replaceSuccessor (b existing newBlock : Nat) : HGraph :=
  let i := (g.block b).successors.idxOf existing
  ((g.removePredecessor existing b).modify newBlock
      fun x => { x with predecessors := x.predecessors ++ [b] }).modify b
    fun x => { x with successors := x.successors.set i newBlock }

/-- `header->AddBackEdge(backEdge)`, which creates the loop information of the header on its first
back edge. -/
def addBackEdge (header backEdge : Nat) : HGraph :=
  g.modify header fun x => { x with backEdges := some (x.backEdges.getD [] ++ [backEdge]) }

/-- `info->RemoveBackEdge(backEdge)` on the loop information of `header`. -/
def removeBackEdge (header backEdge : Nat) : HGraph :=
  g.modify header fun x => { x with backEdges := x.backEdges.map (GrowableArray.delete · backEdge) }

/-- `info->ClearBackEdges()` on the loop information of `header`. -/
def clearBackEdges (header : Nat) : HGraph :=
  g.modify header fun x => { x with backEdges := x.backEdges.map fun _ => [] }

/-- `SetDominator`. -/
def setDominator (b : Nat) (d : Option Nat) : HGraph :=
  g.modify b fun x => { x with dominator := d }

/-- The successors of each block: the graph's edges. -/
def successors (b : Nat) : List Nat := (g.block b).successors

@[simp] theorem modify_block (b : Nat) (f : HBasicBlock → HBasicBlock) (c : Nat) :
    (g.modify b f).block c = if c = b then f (g.block b) else g.block c := by
  simp [modify, Function.update_apply]

@[simp] theorem modify_blocks (b : Nat) (f : HBasicBlock → HBasicBlock) :
    (g.modify b f).blocks = g.blocks := rfl

@[simp] theorem modify_entryBlock (b : Nat) (f : HBasicBlock → HBasicBlock) :
    (g.modify b f).entryBlock = g.entryBlock := rfl

end HGraph

end Art
