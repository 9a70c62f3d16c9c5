import Mathlib.Logic.Function.Basic

/-!
# The parallel move resolver of the optimizing compiler

Model of `ParallelMoveResolver::EmitNativeCode` of `compiler/optimizing/parallel_move_resolver.cc`
and of the `MoveOperands` of `compiler/optimizing/nodes.h`.

A `Location` is a storage cell or a constant, and `Location::NoLocation` marks an operand that the
resolver has cleared.  The code generator's `EmitMove` and `EmitSwap` read the operands of the move
at the time of the call; the model records them as the instructions they emit, and `exec` runs
those on a machine whose state gives each cell its value: a move copies its source into its
destination, a swap exchanges two cells.

* `performMove` — `PerformMove`: mark the move pending, perform every move that reads its
  destination and is not pending, then perform the move itself, by a swap when a pending move still
  reads its destination, and rewrite the sources that the swap exchanged.  The recursion of the
  source is bounded here by a fuel argument that runs out only when it has no result.
* `emitNativeCode` — `EmitNativeCode`: the moves that are not redundant, each performed in turn
  unless its source is a constant, and then the moves from constants.

The model is the release build: the `DCHECK`s of `PerformMove` and `EmitNativeCode` are left out.
-/

set_option autoImplicit false

namespace Art

namespace ParallelMove

/-- A location of the register allocator: a storage cell or a constant. -/
inductive Location (κ ν : Type) where
  | noLocation
  | constant (value : ν)
  | cell (c : κ)
  deriving DecidableEq, Repr

namespace Location

variable {κ ν : Type}

def isConstant : Location κ ν → Bool
  | constant _ => true
  | _ => false

def isInvalid : Location κ ν → Bool
  | noLocation => true
  | _ => false

/-- The value at a location in a machine state. -/
def read (σ : κ → ν) : Location κ ν → Option ν
  | noLocation => none
  | constant v => some v
  | cell c => some (σ c)

end Location

/-- `MoveOperands`: a move of a parallel move, and the resolver's marks on it.  A pending move has
its destination cleared; an eliminated move has both operands cleared. -/
structure MoveOperands (κ ν : Type) where
  source : Location κ ν
  destination : Location κ ν
  deriving DecidableEq, Repr

namespace MoveOperands

variable {κ ν : Type} [DecidableEq κ] [DecidableEq ν]

def isEliminated (m : MoveOperands κ ν) : Bool := m.source.isInvalid

def isPending (m : MoveOperands κ ν) : Bool := m.destination.isInvalid && !m.source.isInvalid

/-- True if this blocks a move into the given location. -/
def blocks (m : MoveOperands κ ν) (loc : Location κ ν) : Bool :=
  !m.isEliminated && decide (m.source = loc)

def isRedundant (m : MoveOperands κ ν) : Bool :=
  m.isEliminated || m.destination.isInvalid || decide (m.source = m.destination)

def markPending (m : MoveOperands κ ν) : MoveOperands κ ν := { m with destination := .noLocation }

def clearPending (m : MoveOperands κ ν) (dest : Location κ ν) : MoveOperands κ ν :=
  { m with destination := dest }

def eliminate : MoveOperands κ ν := ⟨.noLocation, .noLocation⟩

/-- The rewrite of a source after a swap of `source` and `destination`. -/
def swapSource (source destination : Location κ ν) (m : MoveOperands κ ν) : MoveOperands κ ν :=
  if m.blocks source then { m with source := destination }
  else if m.blocks destination then { m with source := source }
  else m

end MoveOperands

/-- What the code generator emits. -/
inductive Instr (κ ν : Type) where
  | move (source destination : Location κ ν)
  | swap (source destination : Location κ ν)
  deriving DecidableEq, Repr

namespace Instr

variable {κ ν : Type} [DecidableEq κ]

/-- One instruction on the machine; none where an operand is not a location it can use. -/
def exec (σ : κ → ν) : Instr κ ν → Option (κ → ν)
  | move source (.cell d) => (source.read σ).map (Function.update σ d)
  | swap (.cell a) (.cell b) => some (Function.update (Function.update σ a (σ b)) b (σ a))
  | _ => none

end Instr

/-- The emitted code on the machine. -/
def exec {κ ν : Type} [DecidableEq κ] (σ : κ → ν) : List (Instr κ ν) → Option (κ → ν)
  | [] => some σ
  | i :: is => (i.exec σ).bind fun σ => exec σ is

/-- `ParallelMoveResolver`: `moves_`, and the code emitted so far. -/
structure Resolver (κ ν : Type) where
  moves : List (MoveOperands κ ν)
  code : List (Instr κ ν)

namespace Resolver

variable {κ ν : Type} [DecidableEq κ] [DecidableEq ν]

/-- `moves_.Get(index)`. -/
def move (r : Resolver κ ν) (index : Nat) : MoveOperands κ ν := r.moves.getD index .eliminate

def setMove (r : Resolver κ ν) (index : Nat) (m : MoveOperands κ ν) : Resolver κ ν :=
  { r with moves := r.moves.set index m }

def emitMove (r : Resolver κ ν) (index : Nat) : Resolver κ ν :=
  { r with code := r.code ++ [.move (r.move index).source (r.move index).destination] }

def emitSwap (r : Resolver κ ν) (index : Nat) : Resolver κ ν :=
  { r with code := r.code ++ [.swap (r.move index).source (r.move index).destination] }

/-- The depth-first traversal of `PerformMove`: every move that blocks `destination` and is not
pending, performed by `perform`, in the order of `moves_`. -/
def resolveBlockers (perform : Nat → Resolver κ ν → Option (Resolver κ ν))
    (destination : Location κ ν) (r : Resolver κ ν) : Option (Resolver κ ν) :=
  (List.range r.moves.length).foldlM (fun r i =>
    if (r.move i).blocks destination && !(r.move i).isPending then perform i r else some r) r

/-- `PerformMove`. -/
def performMove : Nat → Nat → Resolver κ ν → Option (Resolver κ ν)
  | 0, _, _ => none
  | fuel + 1, index, r => do
    let destination := (r.move index).destination
    let r ← resolveBlockers (performMove fuel) destination
      (r.setMove index (r.move index).markPending)
    let r := r.setMove index ((r.move index).clearPending destination)
    let move := r.move index
    if move.source = destination then
      return r.setMove index .eliminate
    if r.moves.any (·.blocks destination) then
      let r := (r.emitSwap index).setMove index .eliminate
      return { r with moves := r.moves.map (MoveOperands.swapSource move.source destination) }
    else
      return (r.emitMove index).setMove index .eliminate

end Resolver

open Resolver

variable {κ ν : Type} [DecidableEq κ] [DecidableEq ν]

/-- `BuildInitialMoveList`. -/
def buildInitialMoveList (parallelMove : List (MoveOperands κ ν)) : List (MoveOperands κ ν) :=
  parallelMove.filter fun m => !m.isRedundant

/-- `EmitNativeCode`, with as much fuel as there are moves. -/
def emitNativeCode (parallelMove : List (MoveOperands κ ν)) : Option (List (Instr κ ν)) := do
  let moves := buildInitialMoveList parallelMove
  let r ← (List.range moves.length).foldlM (fun r i =>
      if !(r.move i).isEliminated && !(r.move i).source.isConstant then
        performMove moves.length i r
      else some r)
    (⟨moves, []⟩ : Resolver κ ν)
  let r := (List.range moves.length).foldl (fun r i =>
      if !(r.move i).isEliminated then r.emitMove i else r) r
  return r.code

end ParallelMove

end Art
