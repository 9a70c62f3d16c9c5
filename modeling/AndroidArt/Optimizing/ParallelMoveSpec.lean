import AndroidArt.Optimizing.ParallelMove
import Mathlib.Data.List.Chain
import Mathlib.Data.Finset.Card

/-!
# Correctness of the parallel move resolver

`emitNativeCode_spec`: for a parallel move whose moves that are not redundant write pairwise
distinct cells, `EmitNativeCode` terminates, and on every machine state its code leaves each such
destination holding the value its source had at the start, and every other cell unchanged.

The proof follows the recursion of `PerformMove`.  Against the list the resolver starts from, a
state of the resolver is described by

* `Agrees` — what the code emitted so far has done: each move not yet performed still reads, from
  its current source, the value its original source had; each performed move's destination holds
  that value; no other cell has changed;
* `Shaped` — the marks on the moves: the pending moves are those of the stack of calls, and each
  pending move reads the destination of the one below it (`chain`).

A swap is the one step that needs the stack: the cell it exchanges with the destination is the
destination of the pending move below, so no finished move's value is lost.  That a swap happens
only above such a move rests on `PerformMove` leaving no move outside the stack that reads its
destination, which the calls it makes preserve (`Settles.reads`).
-/

set_option autoImplicit false

namespace Art

namespace ParallelMove

variable {κ ν : Type}

/-! ## Locations, moves and the machine -/

namespace Location

@[simp] theorem read_cell (σ : κ → ν) (c : κ) : (cell c : Location κ ν).read σ = some (σ c) := rfl

@[simp] theorem read_constant (σ : κ → ν) (v : ν) :
    (constant v : Location κ ν).read σ = some v := rfl

@[simp] theorem read_noLocation (σ : κ → ν) : (noLocation : Location κ ν).read σ = none := rfl

theorem read_update_of_ne [DecidableEq κ] {l : Location κ ν} {c : κ} (h : l ≠ cell c) (σ : κ → ν) (v : ν) :
    l.read (Function.update σ c v) = l.read σ := by
  cases l with
  | noLocation => rfl
  | constant _ => rfl
  | cell e =>
    have hne : e ≠ c := fun he => h (by rw [he])
    simp [Function.update_of_ne hne]

theorem read_ne_none {l : Location κ ν} (h : l ≠ noLocation) (σ : κ → ν) : l.read σ ≠ none := by
  cases l with
  | noLocation => exact absurd rfl h
  | constant _ => simp
  | cell _ => simp

theorem read_of_isConstant {l : Location κ ν} (h : l.isConstant = true) (σ σ' : κ → ν) :
    l.read σ = l.read σ' := by
  cases l with
  | constant _ => rfl
  | _ => simp [isConstant] at h

end Location

namespace MoveOperands

theorem eq_eliminate_iff {m : MoveOperands κ ν} (hd : m.source = .noLocation →
    m.destination = .noLocation) : m = eliminate ↔ m.source = .noLocation := by
  constructor
  · rintro rfl
    rfl
  · intro hs
    cases m
    simp only at hs hd
    rw [hs, hd hs]
    rfl

variable [DecidableEq κ] [DecidableEq ν]

theorem blocks_iff {m : MoveOperands κ ν} {loc : Location κ ν} :
    m.blocks loc = true ↔ m.source ≠ .noLocation ∧ m.source = loc := by
  cases h : m.source <;> simp [blocks, isEliminated, Location.isInvalid, h]

@[simp] theorem blocks_eliminate (loc : Location κ ν) :
    (eliminate : MoveOperands κ ν).blocks loc = false := rfl

@[simp] theorem swapSource_eliminate (source destination : Location κ ν) :
    swapSource source destination (eliminate : MoveOperands κ ν) = eliminate := rfl

end MoveOperands

theorem exec_append [DecidableEq κ] (σ : κ → ν) (l₁ l₂ : List (Instr κ ν)) :
    exec σ (l₁ ++ l₂) = (exec σ l₁).bind fun σ => exec σ l₂ := by
  induction l₁ generalizing σ with
  | nil => rfl
  | cons i is ih =>
    simp only [List.cons_append, exec]
    cases i.exec σ with
    | none => rfl
    | some σ' => exact ih σ'

theorem exec_singleton [DecidableEq κ] (σ : κ → ν) (i : Instr κ ν) : exec σ [i] = i.exec σ := by
  simp only [exec]
  cases i.exec σ <;> rfl

/-! ## The resolver's list of moves -/

namespace Resolver

theorem move_setMove_self {r : Resolver κ ν} {i : Nat} (h : i < r.moves.length)
    (m : MoveOperands κ ν) : (r.setMove i m).move i = m := by
  simp [move, setMove, List.getD_eq_getElem?_getD, h]

theorem move_setMove_of_ne {r : Resolver κ ν} {i j : Nat} (h : j ≠ i) (m : MoveOperands κ ν) :
    (r.setMove i m).move j = r.move j := by
  simp [move, setMove, List.getD_eq_getElem?_getD, List.getElem?_set_ne (Ne.symm h)]

@[simp] theorem length_setMove (r : Resolver κ ν) (i : Nat) (m : MoveOperands κ ν) :
    (r.setMove i m).moves.length = r.moves.length := by
  simp [setMove]

theorem move_of_le {r : Resolver κ ν} {j : Nat} (h : r.moves.length ≤ j) :
    r.move j = .eliminate := by
  simp [move, List.getD_eq_getElem?_getD, List.getElem?_eq_none h]

theorem move_map {r : Resolver κ ν} {f : MoveOperands κ ν → MoveOperands κ ν}
    (hf : f .eliminate = .eliminate) (j : Nat) :
    ({ r with moves := r.moves.map f } : Resolver κ ν).move j = f (r.move j) := by
  simp only [move, List.getD_eq_getElem?_getD, List.getElem?_map]
  cases r.moves[j]? with
  | none => exact hf.symm
  | some _ => rfl

variable [DecidableEq κ] [DecidableEq ν]

theorem exists_blocks {r : Resolver κ ν} {loc : Location κ ν}
    (h : r.moves.any (·.blocks loc) = true) : ∃ j < r.moves.length, (r.move j).blocks loc = true := by
  obtain ⟨m, hm, hb⟩ := List.any_eq_true.mp h
  obtain ⟨j, hj, rfl⟩ := List.mem_iff_getElem.mp hm
  exact ⟨j, hj, by simpa [move, List.getD_eq_getElem?_getD, hj] using hb⟩

theorem not_blocks {r : Resolver κ ν} {loc : Location κ ν}
    (h : ¬ r.moves.any (·.blocks loc) = true) (j : Nat) : (r.move j).blocks loc = false := by
  rcases Nat.lt_or_ge j r.moves.length with hj | hj
  · have hmem : r.moves[j] ∈ r.moves := List.getElem_mem hj
    simp only [List.any_eq_true, not_exists, not_and, Bool.not_eq_true] at h
    simpa [move, List.getD_eq_getElem?_getD, hj] using h _ hmem
  · rw [move_of_le hj]
    rfl

end Resolver

open Resolver

/-! ## What the moves still have to do -/

section Agrees

variable (ms₀ : List (MoveOperands κ ν))

/-- A move of the list the resolver starts from. -/
def orig (i : Nat) : MoveOperands κ ν := ms₀.getD i .eliminate

/-- The list the resolver starts from: moves from a location, into pairwise distinct cells. -/
structure WellFormed : Prop where
  source_ne : ∀ i < ms₀.length, (orig ms₀ i).source ≠ .noLocation
  cell : ∀ i < ms₀.length, ∃ c, (orig ms₀ i).destination = .cell c
  injective : ∀ i < ms₀.length, ∀ j < ms₀.length,
    (orig ms₀ i).destination = (orig ms₀ j).destination → i = j

variable (σ₀ : κ → ν)

/-- A machine state `σ` reached from `σ₀` by performing the moves that `isDone` holds of, where
every other move now reads from `source`. -/
structure Agrees (isDone : Nat → Prop) (source : Nat → Location κ ν) (σ : κ → ν) : Prop where
  reads : ∀ j < ms₀.length, ¬isDone j → (source j).read σ = (orig ms₀ j).source.read σ₀
  written : ∀ j < ms₀.length, isDone j → ∀ c, (orig ms₀ j).destination = .cell c →
    some (σ c) = (orig ms₀ j).source.read σ₀
  frame : ∀ c, (∀ j < ms₀.length, (orig ms₀ j).destination ≠ .cell c) → σ c = σ₀ c

variable {ms₀ σ₀}

theorem agrees_init (source : Nat → Location κ ν) (hs : ∀ j < ms₀.length, source j = (orig ms₀ j).source) :
    Agrees ms₀ σ₀ (fun _ => False) source σ₀ :=
  ⟨fun j hj _ => by rw [hs j hj], fun _ _ h => h.elim, fun _ _ => rfl⟩

theorem Agrees.congr {isDone isDone' : Nat → Prop} {source source' : Nat → Location κ ν}
    {σ : κ → ν} (h : Agrees ms₀ σ₀ isDone source σ) (hd : ∀ j < ms₀.length, isDone' j ↔ isDone j)
    (hs : ∀ j < ms₀.length, ¬isDone j → source' j = source j) :
    Agrees ms₀ σ₀ isDone' source' σ where
  reads j hj hnd := by
    have hnd' : ¬isDone j := fun h' => hnd ((hd j hj).mpr h')
    rw [hs j hj hnd']
    exact h.reads j hj hnd'
  written j hj hdone := h.written j hj ((hd j hj).mp hdone)
  frame := h.frame

variable {isDone : Nat → Prop} {source : Nat → Location κ ν} {σ : κ → ν}

/-- A move into a cell that no other unperformed move reads. -/
theorem Agrees.write [DecidableEq κ] (h : Agrees ms₀ σ₀ isDone source σ) (hwf : WellFormed ms₀) {i : Nat}
    {c : κ} {v : ν} (hi : i < ms₀.length) (hnd : ¬isDone i)
    (hc : (orig ms₀ i).destination = .cell c) (hv : (source i).read σ = some v)
    (hfree : ∀ j < ms₀.length, ¬isDone j → j ≠ i → source j ≠ .cell c) :
    Agrees ms₀ σ₀ (fun j => isDone j ∨ j = i) source (Function.update σ c v) where
  reads j hj hnd' := by
    have hji : j ≠ i := fun he => hnd' (Or.inr he)
    have hndj : ¬isDone j := fun h' => hnd' (Or.inl h')
    rw [Location.read_update_of_ne (hfree j hj hndj hji)]
    exact h.reads j hj hndj
  written j hj hdone e he := by
    rcases hdone with hdone | rfl
    · have hne : e ≠ c := by
        rintro rfl
        have := hwf.injective j hj i hi (he.trans hc.symm)
        exact hnd (this ▸ hdone)
      rw [Function.update_of_ne hne]
      exact h.written j hj hdone e he
    · rw [hc, Location.cell.injEq] at he
      subst he
      rw [Function.update_self, ← hv]
      exact h.reads j hj hnd
  frame e he := by
    have hne : e ≠ c := by
      rintro rfl
      exact he i hi hc
    rw [Function.update_of_ne hne]
    exact h.frame e he

/-- A move whose source has become its own destination. -/
theorem Agrees.retire (h : Agrees ms₀ σ₀ isDone source σ) {i : Nat} (hi : i < ms₀.length)
    (hnd : ¬isDone i) (hs : source i = (orig ms₀ i).destination) :
    Agrees ms₀ σ₀ (fun j => isDone j ∨ j = i) source σ where
  reads j hj hnd' := h.reads j hj fun h' => hnd' (Or.inl h')
  written j hj hdone c hc := by
    rcases hdone with hdone | rfl
    · exact h.written j hj hdone c hc
    · rw [← h.reads j hj hnd, hs, hc]
      rfl
  frame := h.frame

/-- The exchange of two cells, `a` read by move `i` and `c` its destination, where `a` is the
destination of another unperformed move `x`; every source that named one now names the other. -/
theorem Agrees.exchange [DecidableEq κ] [DecidableEq ν] (h : Agrees ms₀ σ₀ isDone source σ) (hwf : WellFormed ms₀) {i x : Nat}
    {a c : κ} (hi : i < ms₀.length) (hnd : ¬isDone i) (hx : x < ms₀.length) (hxd : ¬isDone x)
    (hxi : x ≠ i) (ha : source i = .cell a) (hax : (orig ms₀ x).destination = .cell a)
    (hc : (orig ms₀ i).destination = .cell c) :
    Agrees ms₀ σ₀ (fun j => isDone j ∨ j = i)
      (fun j => if source j = .cell a then .cell c
        else if source j = .cell c then .cell a else source j)
      (Function.update (Function.update σ a (σ c)) c (σ a)) where
  reads j hj hnd' := by
    have hac : a ≠ c := by
      rintro rfl
      exact hxi (hwf.injective x hx i hi (hax.trans hc.symm))
    rw [← h.reads j hj fun h' => hnd' (Or.inl h')]
    by_cases hja : source j = .cell a
    · simp [hja]
    · by_cases hjc : source j = .cell c
      · simp [hjc, Ne.symm hac, Function.update_of_ne hac]
      · simp only [hja, hjc, if_false]
        rw [Location.read_update_of_ne hjc, Location.read_update_of_ne hja]
  written j hj hdone e he := by
    rcases hdone with hdone | rfl
    · have hec : e ≠ c := by
        rintro rfl
        exact hnd (hwf.injective j hj i hi (he.trans hc.symm) ▸ hdone)
      have hea : e ≠ a := by
        rintro rfl
        exact hxd (hwf.injective j hj x hx (he.trans hax.symm) ▸ hdone)
      rw [Function.update_of_ne hec, Function.update_of_ne hea]
      exact h.written j hj hdone e he
    · rw [hc, Location.cell.injEq] at he
      subst he
      rw [Function.update_self, ← h.reads j hj hnd, ha]
      rfl
  frame e he := by
    have hec : e ≠ c := by
      rintro rfl
      exact he i hi hc
    have hea : e ≠ a := by
      rintro rfl
      exact he x hx hax
    rw [Function.update_of_ne hec, Function.update_of_ne hea]
    exact h.frame e he

end Agrees

/-! ## The marks on the moves -/

namespace MoveOperands

variable [DecidableEq κ] [DecidableEq ν]

theorem swapSource_of_ne {m : MoveOperands κ ν} {source destination : Location κ ν}
    (hs : m.source ≠ source) (hd : m.source ≠ destination) :
    swapSource source destination m = m := by
  simp [swapSource, blocks_iff, hs, hd]

theorem source_swapSource {m : MoveOperands κ ν} (hm : m.source ≠ .noLocation)
    (source destination : Location κ ν) :
    (swapSource source destination m).source =
      if m.source = source then destination
      else if m.source = destination then source else m.source := by
  by_cases hs : m.source = source
  · subst hs
    simp [swapSource, blocks_iff, hm]
  · by_cases hd : m.source = destination
    · subst hd
      simp [swapSource, blocks_iff, hm, hs]
    · simp [swapSource_of_ne hs hd, hs, hd]

@[simp] theorem destination_swapSource (m : MoveOperands κ ν) (source destination : Location κ ν) :
    (swapSource source destination m).destination = m.destination := by
  unfold swapSource
  split_ifs <;> rfl

theorem swapSource_eq_eliminate_iff {m : MoveOperands κ ν} {source destination : Location κ ν}
    (hs : source ≠ .noLocation) (hd : destination ≠ .noLocation) :
    swapSource source destination m = eliminate ↔ m = eliminate := by
  unfold swapSource
  split_ifs with h₁ h₂
  · have hm : m ≠ eliminate := by
      rintro rfl
      cases h₁
    simp only [eliminate, MoveOperands.mk.injEq, hd, false_and, false_iff]
    exact hm
  · have hm : m ≠ eliminate := by
      rintro rfl
      cases h₂
    simp only [eliminate, MoveOperands.mk.injEq, hs, false_and, false_iff]
    exact hm
  · exact Iff.rfl

end MoveOperands

namespace Resolver

@[simp] theorem moves_emitMove (r : Resolver κ ν) (i : Nat) : (r.emitMove i).moves = r.moves := rfl

@[simp] theorem moves_emitSwap (r : Resolver κ ν) (i : Nat) : (r.emitSwap i).moves = r.moves := rfl

@[simp] theorem move_emitMove (r : Resolver κ ν) (i j : Nat) : (r.emitMove i).move j = r.move j :=
  rfl

@[simp] theorem move_emitSwap (r : Resolver κ ν) (i j : Nat) : (r.emitSwap i).move j = r.move j :=
  rfl

end Resolver

section Shaped

variable (ms₀ : List (MoveOperands κ ν))

/-- The marks on the resolver's moves, with `stk` the moves of the calls of `PerformMove` in
progress, innermost first: the pending moves are these, every other move that is not eliminated
has its original destination, and each move of the stack reads the destination of the one that
called it. -/
structure Shaped (stk : List Nat) (r : Resolver κ ν) : Prop where
  length : r.moves.length = ms₀.length
  move : ∀ i < ms₀.length, r.move i = .eliminate ∨
    ((r.move i).source ≠ .noLocation ∧
      (r.move i).destination = if i ∈ stk then .noLocation else (orig ms₀ i).destination)
  nodup : stk.Nodup
  stack : ∀ i ∈ stk, i < ms₀.length ∧ r.move i ≠ .eliminate
  chain : stk.IsChain fun a b => (r.move a).source = (orig ms₀ b).destination

variable {ms₀} {stk : List Nat} {r : Resolver κ ν}

theorem Shaped.eliminate_iff (h : Shaped ms₀ stk r) (j : Nat) :
    r.move j = .eliminate ↔ (r.move j).source = .noLocation := by
  rcases Nat.lt_or_ge j ms₀.length with hj | hj
  · rcases h.move j hj with he | ⟨hs, -⟩
    · rw [he]
      exact iff_of_true rfl rfl
    · exact iff_of_false (fun he => hs (by rw [he]; rfl)) hs
  · rw [move_of_le (h.length ▸ hj)]
    exact iff_of_true rfl rfl

theorem Shaped.destination (h : Shaped ms₀ stk r) {j : Nat} (hj : j < ms₀.length)
    (hact : r.move j ≠ .eliminate) (hstk : j ∉ stk) :
    (r.move j).destination = (orig ms₀ j).destination := by
  rcases h.move j hj with he | ⟨-, hd⟩
  · exact absurd he hact
  · rw [hd, if_neg hstk]

theorem Shaped.blocks_iff [DecidableEq κ] [DecidableEq ν] (h : Shaped ms₀ stk r) {j : Nat} {loc : Location κ ν} :
    (r.move j).blocks loc = true ↔ r.move j ≠ .eliminate ∧ (r.move j).source = loc := by
  simp only [MoveOperands.blocks_iff, ne_eq, h.eliminate_iff]

theorem Shaped.isPending_iff (h : Shaped ms₀ stk r) (hwf : WellFormed ms₀) (j : Nat) :
    (r.move j).isPending = true ↔ j ∈ stk := by
  constructor
  · intro hp
    by_contra hstk
    rcases Nat.lt_or_ge j ms₀.length with hj | hj
    · rcases h.move j hj with he | ⟨-, hd⟩
      · rw [he] at hp
        cases hp
      · obtain ⟨c, hc⟩ := hwf.cell j hj
        rw [if_neg hstk, hc] at hd
        simp [MoveOperands.isPending, hd, Location.isInvalid] at hp
    · rw [move_of_le (h.length ▸ hj)] at hp
      cases hp
  · intro hstk
    obtain ⟨hj, hact⟩ := h.stack j hstk
    rcases h.move j hj with he | ⟨hs, hd⟩
    · exact absurd he hact
    · rw [if_pos hstk] at hd
      cases hsrc : (r.move j).source
      · exact absurd hsrc hs
      all_goals simp [MoveOperands.isPending, hd, hsrc, Location.isInvalid]

/-- Marking a move pending pushes it on the stack. -/
theorem Shaped.push (h : Shaped ms₀ stk r) {i : Nat} (hi : i < ms₀.length)
    (hact : r.move i ≠ .eliminate) (hstk : i ∉ stk)
    (hchain : ∀ b ∈ stk.head?, (r.move i).source = (orig ms₀ b).destination) :
    Shaped ms₀ (i :: stk) (r.setMove i (r.move i).markPending) := by
  have hlen : i < r.moves.length := h.length ▸ hi
  have hsrc : ∀ j, ((r.setMove i (r.move i).markPending).move j).source = (r.move j).source := by
    intro j
    by_cases hji : j = i
    · rw [hji, move_setMove_self hlen]
      rfl
    · rw [move_setMove_of_ne hji]
  have hsi : (r.move i).source ≠ .noLocation := fun hs => hact ((h.eliminate_iff i).mpr hs)
  refine ⟨by simp [h.length], fun j hj => ?_, List.nodup_cons.mpr ⟨hstk, h.nodup⟩, ?_, ?_⟩
  · by_cases hji : j = i
    · subst hji
      rw [move_setMove_self hlen]
      exact Or.inr ⟨hsi, by simp [MoveOperands.markPending]⟩
    · rw [move_setMove_of_ne hji]
      simpa [hji] using h.move j hj
  · intro j hj
    rcases List.mem_cons.mp hj with rfl | hj
    · refine ⟨hi, fun he => hsi ?_⟩
      rw [← hsrc j, he]
      rfl
    · have hji : j ≠ i := fun he => hstk (he ▸ hj)
      rw [move_setMove_of_ne hji]
      exact h.stack j hj
  · refine List.isChain_cons.mpr ⟨fun b hb => ?_, h.chain.imp fun a b hab => ?_⟩
    · rw [hsrc]
      exact hchain b hb
    · rw [hsrc]
      exact hab

/-- Clearing the pending mark of the innermost call pops it from the stack. -/
theorem Shaped.pop {i : Nat} (h : Shaped ms₀ (i :: stk) r) :
    Shaped ms₀ stk (r.setMove i ((r.move i).clearPending (orig ms₀ i).destination)) := by
  obtain ⟨hi, hact⟩ := h.stack i List.mem_cons_self
  have hlen : i < r.moves.length := h.length ▸ hi
  have hstk : i ∉ stk := (List.nodup_cons.mp h.nodup).1
  have hsi : (r.move i).source ≠ .noLocation := fun hs => hact ((h.eliminate_iff i).mpr hs)
  have hsrc : ∀ j, ((r.setMove i ((r.move i).clearPending (orig ms₀ i).destination)).move j).source =
      (r.move j).source := by
    intro j
    by_cases hji : j = i
    · rw [hji, move_setMove_self hlen]
      rfl
    · rw [move_setMove_of_ne hji]
  refine ⟨by simp [h.length], fun j hj => ?_, (List.nodup_cons.mp h.nodup).2, ?_, ?_⟩
  · by_cases hji : j = i
    · subst hji
      rw [move_setMove_self hlen]
      exact Or.inr ⟨hsi, by simp [MoveOperands.clearPending, hstk]⟩
    · rw [move_setMove_of_ne hji]
      simpa [hji] using h.move j hj
  · intro j hj
    have hji : j ≠ i := fun he => hstk (he ▸ hj)
    rw [move_setMove_of_ne hji]
    exact h.stack j (List.mem_cons_of_mem _ hj)
  · exact (List.isChain_cons.mp h.chain).2.imp fun a b hab => by rw [hsrc]; exact hab

/-- Eliminating a move off the stack. -/
theorem Shaped.retire (h : Shaped ms₀ stk r) {i : Nat} (hstk : i ∉ stk) :
    Shaped ms₀ stk (r.setMove i .eliminate) := by
  have hoff : ∀ j ∈ stk, (r.setMove i .eliminate).move j = r.move j :=
    fun j hj => move_setMove_of_ne (fun (he : j = i) => hstk (he ▸ hj)) _
  refine ⟨by simp [h.length], fun j hj => ?_, h.nodup, fun j hj => ?_, ?_⟩
  · by_cases hji : j = i
    · subst hji
      exact Or.inl (move_setMove_self (h.length ▸ hj) _)
    · rw [move_setMove_of_ne hji]
      exact h.move j hj
  · rw [hoff j hj]
    exact h.stack j hj
  · exact h.chain.imp_of_mem_imp fun a b ha _ hab => by rw [hoff a ha]; exact hab

/-- The marks are on the list of moves only. -/
theorem Shaped.of_moves_eq (h : Shaped ms₀ stk r) {r' : Resolver κ ν} (he : r'.moves = r.moves) :
    Shaped ms₀ stk r' := by
  have hm : ∀ j, r'.move j = r.move j := fun j => by
    unfold Resolver.move
    rw [he]
  refine ⟨he ▸ h.length, fun j hj => ?_, h.nodup, fun j hj => ?_, ?_⟩
  · rw [hm]
    exact h.move j hj
  · rw [hm]
    exact h.stack j hj
  · exact h.chain.imp fun a b hab => by rw [hm]; exact hab

end Shaped

/-! ## What a call leaves of the moves it does not perform -/

section Settles

variable (ms₀ : List (MoveOperands κ ν))

/-- From `r` to `r'`, with the calls `stk` in progress: an eliminated move stays eliminated, a
move from a constant is untouched, and a move off the stack that reads the destination of a move
on it already did. -/
structure Settles (stk : List Nat) (r r' : Resolver κ ν) : Prop where
  eliminated : ∀ j, r.move j = .eliminate → r'.move j = .eliminate
  constant : ∀ j, (r.move j).source.isConstant = true → r'.move j = r.move j
  reads : ∀ j, j ∉ stk → r'.move j ≠ .eliminate → ∀ b ∈ stk,
    (r'.move j).source = (orig ms₀ b).destination → (r.move j).source = (orig ms₀ b).destination

variable {ms₀} {stk : List Nat}

theorem Settles.refl (r : Resolver κ ν) : Settles ms₀ stk r r :=
  ⟨fun _ h => h, fun _ _ => rfl, fun _ _ _ _ _ h => h⟩

theorem Settles.trans {r₁ r₂ r₃ : Resolver κ ν} (h₁ : Settles ms₀ stk r₁ r₂)
    (h₂ : Settles ms₀ stk r₂ r₃) : Settles ms₀ stk r₁ r₃ where
  eliminated j h := h₂.eliminated j (h₁.eliminated j h)
  constant j h := by
    rw [h₂.constant j (by rw [h₁.constant j h]; exact h), h₁.constant j h]
  reads j hj hact b hb hsrc := by
    have hact₂ : r₂.move j ≠ .eliminate := fun he => hact (h₂.eliminated j he)
    exact h₁.reads j hj hact₂ b hb (h₂.reads j hj hact b hb hsrc)

end Settles

/-! ## What the emitted code has done -/

section Sound

variable [DecidableEq κ] (ms₀ : List (MoveOperands κ ν)) (σ₀ : κ → ν)

/-- The code emitted so far runs from `σ₀`, to a state that agrees with the resolver's moves. -/
def Sound (r : Resolver κ ν) : Prop :=
  ∃ σ, exec σ₀ r.code = some σ ∧
    Agrees ms₀ σ₀ (fun j => r.move j = .eliminate) (fun j => (r.move j).source) σ

variable {ms₀ σ₀}

theorem Sound.congr {r r' : Resolver κ ν} (h : Sound ms₀ σ₀ r) (hcode : r'.code = r.code)
    (helim : ∀ j < ms₀.length, r'.move j = .eliminate ↔ r.move j = .eliminate)
    (hsrc : ∀ j < ms₀.length, r.move j ≠ .eliminate → (r'.move j).source = (r.move j).source) :
    Sound ms₀ σ₀ r' := by
  obtain ⟨σ, hexec, hag⟩ := h
  exact ⟨σ, hcode ▸ hexec, hag.congr helim hsrc⟩

end Sound

/-! ## PerformMove -/

section Perform

variable [DecidableEq κ] [DecidableEq ν] (ms₀ : List (MoveOperands κ ν))

/-- A call `PerformMove(i)` with the calls `stk` in progress. -/
structure Ready (stk : List Nat) (i : Nat) (r : Resolver κ ν) : Prop where
  shaped : Shaped ms₀ stk r
  lt : i < ms₀.length
  active : r.move i ≠ .eliminate
  not_mem : i ∉ stk
  not_constant : (r.move i).source.isConstant = false
  chain : ∀ b ∈ stk.head?, (r.move i).source = (orig ms₀ b).destination

/-- What a call `PerformMove(i)` leaves, from `r` to `r'`. -/
structure Performed (stk : List Nat) (i : Nat) (r r' : Resolver κ ν) : Prop where
  shaped : Shaped ms₀ stk r'
  eliminated : r'.move i = .eliminate
  settles : Settles ms₀ stk r r'
  sound : ∀ σ₀, Sound ms₀ σ₀ r → Sound ms₀ σ₀ r'

variable {ms₀} {stk : List Nat} {i : Nat}

/-- The loop of `PerformMove(i)` over a list of indices, each blocker performed by `perform`; the
moves it passes over that read the destination are on the stack. -/
theorem foldlM_blockers (hwf : WellFormed ms₀) {perform : Nat → Resolver κ ν → Option (Resolver κ ν)}
    (hperform : ∀ j r, Ready ms₀ (i :: stk) j r →
      ∃ r', perform j r = some r' ∧ Performed ms₀ (i :: stk) j r r')
    (l : List Nat) (hl : ∀ j ∈ l, j < ms₀.length) (r : Resolver κ ν)
    (hs : Shaped ms₀ (i :: stk) r) :
    ∃ r', l.foldlM (fun r j =>
        if (r.move j).blocks (orig ms₀ i).destination && !(r.move j).isPending then perform j r
        else some r) r = some r' ∧
      Shaped ms₀ (i :: stk) r' ∧ Settles ms₀ (i :: stk) r r' ∧
      (∀ σ₀, Sound ms₀ σ₀ r → Sound ms₀ σ₀ r') ∧
      ∀ j ∈ l, j ∉ i :: stk → r'.move j ≠ .eliminate → (r'.move j).source ≠ (orig ms₀ i).destination := by
  induction l generalizing r with
  | nil => exact ⟨r, rfl, hs, Settles.refl r, fun _ h => h, fun _ h => (List.not_mem_nil h).elim⟩
  | cons j l ih =>
    have hj : j < ms₀.length := hl j List.mem_cons_self
    have hl' : ∀ j' ∈ l, j' < ms₀.length := fun j' hj' => hl j' (List.mem_cons_of_mem _ hj')
    have hi : i < ms₀.length := (hs.stack i List.mem_cons_self).1
    rw [List.foldlM_cons]
    by_cases hcond : ((r.move j).blocks (orig ms₀ i).destination && !(r.move j).isPending) = true
    · -- a blocker: perform it
      rw [if_pos hcond]
      obtain ⟨hblocks, hpend⟩ : (r.move j).blocks (orig ms₀ i).destination = true ∧
          (r.move j).isPending = false := by simpa using hcond
      obtain ⟨hact, hsrc⟩ := hs.blocks_iff.mp hblocks
      obtain ⟨c, hc⟩ := hwf.cell i hi
      have hstk : j ∉ i :: stk := fun hmem => by
        rw [(hs.isPending_iff hwf j).mpr hmem] at hpend
        cases hpend
      have hready : Ready ms₀ (i :: stk) j r :=
        ⟨hs, hj, hact, hstk, by rw [hsrc, hc]; rfl, fun b hb => by
          simp only [List.head?_cons, Option.mem_def, Option.some.injEq] at hb
          rw [← hb]
          exact hsrc⟩
      obtain ⟨r₁, hperf, hp⟩ := hperform j r hready
      obtain ⟨r₂, hfold, hs₂, hset₂, hsound₂, hdone₂⟩ := ih hl' r₁ hp.shaped
      refine ⟨r₂, by rw [hperf]; exact hfold, hs₂, hp.settles.trans hset₂,
        fun σ₀ h => hsound₂ σ₀ (hp.sound σ₀ h), fun j' hj' hstk' hact' => ?_⟩
      rcases List.mem_cons.mp hj' with rfl | hj'
      · exact absurd (hset₂.eliminated j' hp.eliminated) hact'
      · exact hdone₂ j' hj' hstk' hact'
    · -- not a blocker, or pending: a later call cannot make it read the destination
      rw [if_neg hcond]
      obtain ⟨r₂, hfold, hs₂, hset₂, hsound₂, hdone₂⟩ := ih hl' r hs
      refine ⟨r₂, hfold, hs₂, hset₂, hsound₂, fun j' hj' hstk' hact' hsrc₂ => ?_⟩
      rcases List.mem_cons.mp hj' with rfl | hj'
      · have hact : r.move j' ≠ .eliminate := fun he => hact' (hset₂.eliminated j' he)
        have hsrc := hset₂.reads j' hstk' hact' i List.mem_cons_self hsrc₂
        have hpend : (r.move j').isPending = false := by
          rw [← Bool.not_eq_true, hs.isPending_iff hwf]
          exact hstk'
        exact hcond (by simp [hs.blocks_iff.mpr ⟨hact, hsrc⟩, hpend])
      · exact hdone₂ j' hj' hstk' hact' hsrc₂

/-- The loop of `PerformMove(i)`: afterwards no move off the stack reads `i`'s destination. -/
theorem resolveBlockers_spec (hwf : WellFormed ms₀)
    {perform : Nat → Resolver κ ν → Option (Resolver κ ν)}
    (hperform : ∀ j r, Ready ms₀ (i :: stk) j r →
      ∃ r', perform j r = some r' ∧ Performed ms₀ (i :: stk) j r r')
    {r : Resolver κ ν} (hs : Shaped ms₀ (i :: stk) r) :
    ∃ r', resolveBlockers perform (orig ms₀ i).destination r = some r' ∧
      Shaped ms₀ (i :: stk) r' ∧ Settles ms₀ (i :: stk) r r' ∧
      (∀ σ₀, Sound ms₀ σ₀ r → Sound ms₀ σ₀ r') ∧
      ∀ j, j ∉ i :: stk → r'.move j ≠ .eliminate → (r'.move j).source ≠ (orig ms₀ i).destination := by
  obtain ⟨r', hfold, hs', hset, hsound, hdone⟩ := foldlM_blockers hwf hperform
    (List.range r.moves.length) (fun j hj => hs.length ▸ List.mem_range.mp hj) r hs
  refine ⟨r', hfold, hs', hset, hsound, fun j hstk hact => ?_⟩
  rcases Nat.lt_or_ge j ms₀.length with hj | hj
  · exact hdone j (List.mem_range.mpr (hs.length ▸ hj)) hstk hact
  · exact absurd (move_of_le (hs'.length ▸ hj)) hact

end Perform

/-! ### The three ways a call ends -/

section Steps

variable [DecidableEq κ] [DecidableEq ν] {ms₀ : List (MoveOperands κ ν)} {σ₀ : κ → ν}
  {stk rest : List Nat} {i x : Nat} {r : Resolver κ ν}

omit [DecidableEq ν] in
/-- The move's source has become its destination: it is eliminated. -/
theorem Sound.retire (h : Sound ms₀ σ₀ r) (hi : i < ms₀.length) (hact : r.move i ≠ .eliminate)
    (hsrc : (r.move i).source = (orig ms₀ i).destination) :
    Sound ms₀ σ₀ (r.setMove i .eliminate) := by
  obtain ⟨σ, hexec, hag⟩ := h
  have hlen : i < r.moves.length := by
    by_contra hle
    exact hact (move_of_le (Nat.le_of_not_lt hle))
  refine ⟨σ, hexec, (hag.retire hi hact hsrc).congr (fun j _ => ?_) (fun j _ hj => ?_)⟩
  · by_cases hji : j = i
    · subst hji
      simp [move_setMove_self hlen]
    · simp [move_setMove_of_ne hji, hji]
  · have hji : j ≠ i := fun he => hj (Or.inr he)
    rw [move_setMove_of_ne hji]

/-- No move reads the destination: `EmitMove`. -/
theorem Sound.emitMove (h : Sound ms₀ σ₀ r) (hwf : WellFormed ms₀) (hs : Shaped ms₀ stk r)
    (hi : i < ms₀.length) (hact : r.move i ≠ .eliminate) (hstk : i ∉ stk)
    (hfree : ∀ j, (r.move j).blocks (orig ms₀ i).destination = false) :
    Sound ms₀ σ₀ ((r.emitMove i).setMove i .eliminate) := by
  obtain ⟨σ, hexec, hag⟩ := h
  obtain ⟨c, hc⟩ := hwf.cell i hi
  have hlen : i < (r.emitMove i).moves.length := hs.length ▸ hi
  obtain ⟨v, hv⟩ := Option.ne_none_iff_exists'.mp
    ((hag.reads i hi hact).trans_ne (Location.read_ne_none (hwf.source_ne i hi) σ₀))
  have hdest : (r.move i).destination = .cell c := (hs.destination hi hact hstk).trans hc
  have hfree' : ∀ j < ms₀.length, r.move j ≠ .eliminate → j ≠ i → (r.move j).source ≠ .cell c := by
    intro j _ hactj _ hsrc
    have hb : (r.move j).blocks (orig ms₀ i).destination = true :=
      hs.blocks_iff.mpr ⟨hactj, hsrc.trans hc.symm⟩
    rw [hfree j] at hb
    cases hb
  refine ⟨Function.update σ c v, ?_, (hag.write hwf hi hact hc hv hfree').congr (fun j _ => ?_)
    (fun j _ hj => ?_)⟩
  · show exec σ₀ (r.code ++ [.move (r.move i).source (r.move i).destination]) = _
    rw [exec_append, hexec, Option.bind_some, exec_singleton, hdest]
    simp [Instr.exec, hv]
  · by_cases hji : j = i
    · subst hji
      simp [move_setMove_self hlen]
    · simp [move_setMove_of_ne hji, hji]
  · have hji : j ≠ i := fun he => hj (Or.inr he)
    rw [move_setMove_of_ne hji]
    rfl

/-- The resolver's state after a swap: the move eliminated, and every source that named one of
the two cells naming the other. -/
def afterSwap (r : Resolver κ ν) (i : Nat) (destination : Location κ ν) : Resolver κ ν :=
  let r' := (r.emitSwap i).setMove i .eliminate
  { r' with moves := r'.moves.map (MoveOperands.swapSource (r.move i).source destination) }

theorem move_afterSwap (r : Resolver κ ν) (i j : Nat) (destination : Location κ ν) :
    (afterSwap r i destination).move j =
      MoveOperands.swapSource (r.move i).source destination
        (((r.emitSwap i).setMove i .eliminate).move j) :=
  move_map (MoveOperands.swapSource_eliminate _ _) j

/-- A pending move reads the destination, and the move reads the destination of the pending
move below it: `EmitSwap`. -/
theorem Sound.swap (h : Sound ms₀ σ₀ r) (hwf : WellFormed ms₀)
    (hs : Shaped ms₀ (x :: rest) r) (hi : i < ms₀.length) (hact : r.move i ≠ .eliminate)
    (hstk : i ∉ x :: rest) (hsrc : (r.move i).source = (orig ms₀ x).destination) :
    Sound ms₀ σ₀ (afterSwap r i (orig ms₀ i).destination) := by
  obtain ⟨σ, hexec, hag⟩ := h
  obtain ⟨hx, hactx⟩ := hs.stack x List.mem_cons_self
  obtain ⟨a, ha⟩ := hwf.cell x hx
  obtain ⟨c, hc⟩ := hwf.cell i hi
  have hxi : x ≠ i := fun he => hstk (he ▸ List.mem_cons_self)
  have hlen : i < r.moves.length := hs.length ▸ hi
  have hdest : (r.move i).destination = .cell c := (hs.destination hi hact hstk).trans hc
  have hsa : (r.move i).source = .cell a := hsrc.trans ha
  refine ⟨_, ?_, (hag.exchange hwf hi hact hx hactx hxi hsa ha hc).congr (fun j _ => ?_)
    (fun j _ hj => ?_)⟩
  · show exec σ₀ (r.code ++ [.swap (r.move i).source (r.move i).destination]) = _
    rw [exec_append, hexec, Option.bind_some, exec_singleton, hdest, hsa]
    rfl
  · rw [move_afterSwap, hsa, hc,
      MoveOperands.swapSource_eq_eliminate_iff (by simp) (by simp)]
    by_cases hji : j = i
    · subst hji
      simp [move_setMove_self (show j < (r.emitSwap j).moves.length from hlen)]
    · simp [move_setMove_of_ne hji, hji]
  · have hji : j ≠ i := fun he => hj (Or.inr he)
    have hactj : r.move j ≠ .eliminate := fun he => hj (Or.inl he)
    rw [move_afterSwap, move_setMove_of_ne hji, move_emitSwap, hsa, hc,
      MoveOperands.source_swapSource ((hs.eliminate_iff j).not.mp hactj)]

/-- After a swap the marks keep their shape: a source of a pending move names the destination of
the move below it, which is neither of the two cells exchanged. -/
theorem Shaped.swap (hs : Shaped ms₀ (x :: rest) r) (hwf : WellFormed ms₀)
    (hi : i < ms₀.length) (hstk : i ∉ x :: rest)
    (hsrc : (r.move i).source = (orig ms₀ x).destination) :
    Shaped ms₀ (x :: rest) (afterSwap r i (orig ms₀ i).destination) := by
  obtain ⟨hx, -⟩ := hs.stack x List.mem_cons_self
  obtain ⟨a, ha⟩ := hwf.cell x hx
  obtain ⟨c, hc⟩ := hwf.cell i hi
  have hlen : i < r.moves.length := hs.length ▸ hi
  have hoff : ∀ j, j ≠ i → (afterSwap r i (orig ms₀ i).destination).move j =
      MoveOperands.swapSource (.cell a) (.cell c) (r.move j) := by
    intro j hji
    rw [move_afterSwap, move_setMove_of_ne hji, move_emitSwap, hsrc, ha, hc]
  have helim : ∀ j, j ≠ i → ((afterSwap r i (orig ms₀ i).destination).move j = .eliminate ↔
      r.move j = .eliminate) := fun j hji => by
    rw [hoff j hji, MoveOperands.swapSource_eq_eliminate_iff (by simp) (by simp)]
  refine ⟨by simp [afterSwap, hs.length], fun j hj => ?_, hs.nodup, fun j hj => ?_, ?_⟩
  · by_cases hji : j = i
    · subst hji
      left
      rw [move_afterSwap, move_setMove_self (show j < (r.emitSwap j).moves.length from hlen)]
      rfl
    · rcases hs.move j hj with he | ⟨hsj, hd⟩
      · exact Or.inl ((helim j hji).mpr he)
      · right
        rw [hoff j hji, MoveOperands.destination_swapSource, MoveOperands.source_swapSource hsj]
        refine ⟨?_, hd⟩
        split_ifs <;> simp [hsj]
  · have hji : j ≠ i := fun he => hstk (he ▸ hj)
    obtain ⟨hj', hact⟩ := hs.stack j hj
    exact ⟨hj', fun he => hact ((helim j hji).mp he)⟩
  · refine hs.chain.imp_of_mem_tail_imp fun p q hp hq hpq => ?_
    have hpi : p ≠ i := fun he => hstk (he ▸ hp)
    have hqx : q ≠ x := fun he => (List.nodup_cons.mp hs.nodup).1 (he ▸ hq)
    have hq' : q ∈ x :: rest := List.mem_cons_of_mem _ hq
    have hqn : q < ms₀.length := (hs.stack q hq').1
    have hne_a : (r.move p).source ≠ .cell a := fun he =>
      hqx (hwf.injective q hqn x hx (hpq.symm.trans (he.trans ha.symm)))
    have hne_c : (r.move p).source ≠ .cell c := fun he =>
      (fun hqi : q = i => hstk (hqi ▸ hq')) (hwf.injective q hqn i hi (hpq.symm.trans (he.trans hc.symm)))
    rw [hoff p hpi, MoveOperands.swapSource_of_ne hne_a hne_c]
    exact hpq

end Steps

/-- What a call leaves of the moves below it, from what its loop left and how it ended. -/
theorem Settles.pop [DecidableEq κ] [DecidableEq ν] {ms₀ : List (MoveOperands κ ν)}
    {stk : List Nat} {i : Nat} {r r₂ r' : Resolver κ ν}
    (hset : Settles ms₀ (i :: stk) (r.setMove i (r.move i).markPending) r₂)
    (hnc : (r.move i).source.isConstant = false) (hself : r'.move i = .eliminate)
    (helim : ∀ j, j ≠ i → r₂.move j = .eliminate → r'.move j = .eliminate)
    (hconst : ∀ j, j ≠ i → (r₂.move j).source.isConstant = true → r'.move j = r₂.move j)
    (hreads : ∀ j, j ≠ i → j ∉ stk → r'.move j ≠ .eliminate → ∀ b ∈ stk,
      (r'.move j).source = (orig ms₀ b).destination →
        (r₂.move j).source = (orig ms₀ b).destination) :
    Settles ms₀ stk r r' where
  eliminated j he := by
    by_cases hji : j = i
    · rw [hji]
      exact hself
    · exact helim j hji (hset.eliminated j (by rw [move_setMove_of_ne hji]; exact he))
  constant j hc := by
    have hji : j ≠ i := by
      rintro rfl
      rw [hnc] at hc
      cases hc
    have h₁ : (r.setMove i (r.move i).markPending).move j = r.move j := move_setMove_of_ne hji _
    have h₂ := hset.constant j (by rw [h₁]; exact hc)
    rw [h₁] at h₂
    rw [hconst j hji (by rw [h₂]; exact hc), h₂]
  reads j hj hact b hb hsrc := by
    have hji : j ≠ i := by
      rintro rfl
      exact hact hself
    have hstk' : j ∉ i :: stk := by simp [hji, hj]
    have hact₂ : r₂.move j ≠ .eliminate := fun he => hact (helim j hji he)
    have := hset.reads j hstk' hact₂ b (List.mem_cons_of_mem _ hb) (hreads j hji hj hact b hb hsrc)
    rwa [move_setMove_of_ne hji] at this

/-! ### The recursion -/

section Recursion

variable [DecidableEq κ] [DecidableEq ν] {ms₀ : List (MoveOperands κ ν)}

/-- One unfolding of `PerformMove`. -/
theorem performMove_succ (fuel index : Nat) (r : Resolver κ ν) :
    performMove (fuel + 1) index r =
      (resolveBlockers (performMove fuel) (r.move index).destination
        (r.setMove index (r.move index).markPending)).bind fun r₂ =>
        let r₃ := r₂.setMove index ((r₂.move index).clearPending (r.move index).destination)
        if (r₃.move index).source = (r.move index).destination then
          some (r₃.setMove index .eliminate)
        else if r₃.moves.any (·.blocks (r.move index).destination) then
          some (afterSwap r₃ index (r.move index).destination)
        else some ((r₃.emitMove index).setMove index .eliminate) :=
  rfl

omit [DecidableEq κ] [DecidableEq ν] in
/-- The stack of calls holds distinct moves besides the one called, so it is shorter than the
list of moves. -/
theorem Ready.length_lt [DecidableEq κ] [DecidableEq ν] {stk : List Nat} {i : Nat}
    {r : Resolver κ ν} (h : Ready ms₀ stk i r) : stk.length < ms₀.length := by
  have hnd : (i :: stk).Nodup := List.nodup_cons.mpr ⟨h.not_mem, h.shaped.nodup⟩
  have hsub : (i :: stk).toFinset ⊆ Finset.range ms₀.length := by
    intro j hj
    rcases List.mem_cons.mp (List.mem_toFinset.mp hj) with rfl | hj
    · exact Finset.mem_range.mpr h.lt
    · exact Finset.mem_range.mpr (h.shaped.stack j hj).1
  have hcard := Finset.card_le_card hsub
  rw [List.toFinset_card_of_nodup hnd, Finset.card_range, List.length_cons] at hcard
  omega

/-- `PerformMove` returns from every ready call when the fuel covers the moves off the stack,
having performed its move. -/
theorem performMove_spec (hwf : WellFormed ms₀) (fuel : Nat) :
    ∀ {stk : List Nat} {i : Nat} {r : Resolver κ ν}, ms₀.length ≤ fuel + stk.length →
      Ready ms₀ stk i r → ∃ r', performMove fuel i r = some r' ∧ Performed ms₀ stk i r r' := by
  induction fuel with
  | zero =>
    intro stk i r hfuel hready
    have := hready.length_lt
    omega
  | succ fuel ih =>
    intro stk i r hfuel hready
    obtain ⟨hs, hi, hact, hstk, hnc, hchain⟩ := hready
    have hdest := hs.destination hi hact hstk
    obtain ⟨r₂, hloop, hs₂, hset₂, hsound₂, hdone₂⟩ := resolveBlockers_spec hwf
      (fun j r hr => ih (by simp only [List.length_cons]; omega) hr) (hs.push hi hact hstk hchain)
    have hlen₂ : i < r₂.moves.length := hs₂.length ▸ hi
    have hact₂ : r₂.move i ≠ .eliminate := (hs₂.stack i List.mem_cons_self).2
    set r₃ := r₂.setMove i ((r₂.move i).clearPending (orig ms₀ i).destination) with hr₃
    have hs₃ : Shaped ms₀ stk r₃ := hs₂.pop
    have hmove₃ : ∀ j, j ≠ i → r₃.move j = r₂.move j := fun j hji => move_setMove_of_ne hji _
    have hsrc₃ : (r₃.move i).source = (r₂.move i).source := by
      rw [hr₃, move_setMove_self hlen₂]
      rfl
    have hact₃ : r₃.move i ≠ .eliminate := by
      rw [ne_eq, hs₃.eliminate_iff, hsrc₃, ← hs₂.eliminate_iff]
      exact hact₂
    have hsound₃ : ∀ σ₀, Sound ms₀ σ₀ r → Sound ms₀ σ₀ r₃ := by
      intro σ₀ h
      have hlen : i < r.moves.length := hs.length ▸ hi
      have h₁ : Sound ms₀ σ₀ (r.setMove i (r.move i).markPending) := h.congr rfl
        (fun j _ => by
          by_cases hji : j = i
          · subst hji
            rw [move_setMove_self hlen]
            have hsi : (r.move j).source ≠ .noLocation := (hs.eliminate_iff j).not.mp hact
            exact iff_of_false (fun he => hsi (congrArg MoveOperands.source he)) hact
          · rw [move_setMove_of_ne hji])
        (fun j _ _ => by
          by_cases hji : j = i
          · subst hji
            rw [move_setMove_self hlen]
            rfl
          · rw [move_setMove_of_ne hji])
      exact (hsound₂ σ₀ h₁).congr rfl
        (fun j _ => by
          by_cases hji : j = i
          · subst hji
            exact iff_of_false hact₃ hact₂
          · rw [hmove₃ j hji])
        (fun j _ _ => by
          by_cases hji : j = i
          · subst hji
            exact hsrc₃
          · rw [hmove₃ j hji])
    rw [performMove_succ, hdest, hloop, Option.bind_some]
    simp only [← hr₃]
    split_ifs with hself hswap
    · -- the source has become the destination: the last move of a cycle
      refine ⟨_, rfl, hs₃.retire hstk, move_setMove_self (hs₃.length ▸ hi) _,
        hset₂.pop hnc (move_setMove_self (hs₃.length ▸ hi) _) (fun j hji he => ?_)
          (fun j hji _ => ?_) (fun j hji _ _ _ _ hsrc => ?_),
        fun σ₀ h => (hsound₃ σ₀ h).retire hi hact₃ hself⟩
      · rw [move_setMove_of_ne hji, hmove₃ j hji]
        exact he
      · rw [move_setMove_of_ne hji, hmove₃ j hji]
      · rwa [move_setMove_of_ne hji, hmove₃ j hji] at hsrc
    · -- a pending move still reads the destination: it is the one below, and a swap closes
      obtain ⟨j, -, hblocks⟩ := exists_blocks hswap
      obtain ⟨hactj, hsrcj⟩ := hs₃.blocks_iff.mp hblocks
      have hji : j ≠ i := fun he => hself (he ▸ hsrcj)
      have hj : j ∈ stk := by
        by_contra hj
        refine hdone₂ j (by simp [hji, hj]) (hmove₃ j hji ▸ hactj) ?_
        rw [← hmove₃ j hji]
        exact hsrcj
      obtain ⟨x, rest, rfl⟩ : ∃ x rest, stk = x :: rest := by
        cases stk with
        | nil => exact absurd hj (List.not_mem_nil)
        | cons x rest => exact ⟨x, rest, rfl⟩
      have hsrcx : (r₃.move i).source = (orig ms₀ x).destination :=
        hsrc₃.trans (List.isChain_cons_cons.mp hs₂.chain).1
      have hx : x < ms₀.length := (hs₃.stack x List.mem_cons_self).1
      obtain ⟨a, ha⟩ := hwf.cell x hx
      obtain ⟨c, hc⟩ := hwf.cell i hi
      have hoff : ∀ j, j ≠ i → (afterSwap r₃ i (orig ms₀ i).destination).move j =
          MoveOperands.swapSource (.cell a) (.cell c) (r₂.move j) := by
        intro j hji
        rw [move_afterSwap, move_setMove_of_ne hji, move_emitSwap, hmove₃ j hji, hsrcx, ha, hc]
      refine ⟨_, rfl, hs₃.swap hwf hi hstk hsrcx, ?_,
        hset₂.pop hnc ?_ (fun j hji he => ?_) (fun j hji hconst => ?_)
          (fun j hji hjs hact₄ b hb hsrc₄ => ?_),
        fun σ₀ h => (hsound₃ σ₀ h).swap hwf hs₃ hi hact₃ hstk hsrcx⟩
      · rw [move_afterSwap, move_setMove_self (show i < (r₃.emitSwap i).moves.length from
          hs₃.length ▸ hi)]
        rfl
      · rw [move_afterSwap, move_setMove_self (show i < (r₃.emitSwap i).moves.length from
          hs₃.length ▸ hi)]
        rfl
      · rw [hoff j hji, he]
        rfl
      · have hne_a : (r₂.move j).source ≠ .cell a := fun h' => by rw [h'] at hconst; cases hconst
        have hne_c : (r₂.move j).source ≠ .cell c := fun h' => by rw [h'] at hconst; cases hconst
        rw [hoff j hji, MoveOperands.swapSource_of_ne hne_a hne_c]
      · -- a move off the stack: it cannot have read either cell of the swap
        have hact₂j : r₂.move j ≠ .eliminate := fun he => hact₄ (by rw [hoff j hji, he]; rfl)
        have hsj : (r₂.move j).source ≠ .noLocation := (hs₂.eliminate_iff j).not.mp hact₂j
        have hne_c : (r₂.move j).source ≠ .cell c := fun h' =>
          hdone₂ j (by simp [hji, hjs]) hact₂j (h'.trans hc.symm)
        rw [hoff j hji, MoveOperands.source_swapSource hsj] at hsrc₄
        by_cases hja : (r₂.move j).source = .cell a
        · rw [if_pos hja] at hsrc₄
          have hb' : b < ms₀.length := (hs₃.stack b hb).1
          exact absurd hb ((hwf.injective i hi b hb' (hc.trans hsrc₄)) ▸ hstk)
        · rwa [if_neg hja, if_neg hne_c] at hsrc₄
    · -- nothing reads the destination: a plain move
      have hfree := not_blocks hswap
      refine ⟨_, rfl, (hs₃.of_moves_eq (moves_emitMove r₃ i)).retire hstk,
        move_setMove_self (show i < (r₃.emitMove i).moves.length from hs₃.length ▸ hi) _,
        hset₂.pop hnc (move_setMove_self (show i < (r₃.emitMove i).moves.length from
          hs₃.length ▸ hi) _) (fun j hji he => ?_) (fun j hji _ => ?_)
          (fun j hji _ _ _ _ hsrc => ?_),
        fun σ₀ h => (hsound₃ σ₀ h).emitMove hwf hs₃ hi hact₃ hstk hfree⟩
      · rw [move_setMove_of_ne hji, move_emitMove, hmove₃ j hji]
        exact he
      · rw [move_setMove_of_ne hji, move_emitMove, hmove₃ j hji]
      · rwa [move_setMove_of_ne hji, move_emitMove, hmove₃ j hji] at hsrc

end Recursion

/-! ## EmitNativeCode -/

section Emit

variable [DecidableEq κ] [DecidableEq ν] {ms₀ : List (MoveOperands κ ν)}

/-- The first loop of `EmitNativeCode`: every move not from a constant is performed. -/
theorem foldlM_performMove (hwf : WellFormed ms₀) (l : List Nat)
    (hl : ∀ j ∈ l, j < ms₀.length) (r : Resolver κ ν) (hs : Shaped ms₀ [] r) :
    ∃ r', l.foldlM (fun r i =>
        if !(r.move i).isEliminated && !(r.move i).source.isConstant then
          performMove ms₀.length i r
        else some r) r = some r' ∧
      Shaped ms₀ [] r' ∧ Settles ms₀ [] r r' ∧ (∀ σ₀, Sound ms₀ σ₀ r → Sound ms₀ σ₀ r') ∧
      ∀ j ∈ l, r'.move j = .eliminate ∨ (r'.move j).source.isConstant = true := by
  induction l generalizing r with
  | nil => exact ⟨r, rfl, hs, Settles.refl r, fun _ h => h, fun _ h => (List.not_mem_nil h).elim⟩
  | cons j l ih =>
    have hj : j < ms₀.length := hl j List.mem_cons_self
    have hl' : ∀ j' ∈ l, j' < ms₀.length := fun j' hj' => hl j' (List.mem_cons_of_mem _ hj')
    rw [List.foldlM_cons]
    by_cases hcond : (!(r.move j).isEliminated && !(r.move j).source.isConstant) = true
    · rw [if_pos hcond]
      obtain ⟨helim, hconst⟩ : (r.move j).isEliminated = false ∧
          (r.move j).source.isConstant = false := by simpa using hcond
      have hact : r.move j ≠ .eliminate := by
        rw [ne_eq, hs.eliminate_iff]
        intro hsrc
        simp [MoveOperands.isEliminated, hsrc, Location.isInvalid] at helim
      obtain ⟨r₁, hperf, hp⟩ := performMove_spec hwf ms₀.length (by simp)
        ⟨hs, hj, hact, List.not_mem_nil, hconst, fun _ hb => (Option.not_mem_none _ hb).elim⟩
      obtain ⟨r₂, hfold, hs₂, hset₂, hsound₂, hdone₂⟩ := ih hl' r₁ hp.shaped
      refine ⟨r₂, by rw [hperf]; exact hfold, hs₂, hp.settles.trans hset₂,
        fun σ₀ h => hsound₂ σ₀ (hp.sound σ₀ h), fun j' hj' => ?_⟩
      rcases List.mem_cons.mp hj' with rfl | hj'
      · exact Or.inl (hset₂.eliminated j' hp.eliminated)
      · exact hdone₂ j' hj'
    · rw [if_neg hcond]
      obtain ⟨r₂, hfold, hs₂, hset₂, hsound₂, hdone₂⟩ := ih hl' r hs
      refine ⟨r₂, hfold, hs₂, hset₂, hsound₂, fun j' hj' => ?_⟩
      rcases List.mem_cons.mp hj' with rfl | hj'
      · by_cases hconst : (r.move j').source.isConstant = true
        · right
          rw [hset₂.constant j' hconst]
          exact hconst
        · left
          apply hset₂.eliminated j'
          rw [hs.eliminate_iff]
          cases hsrc : (r.move j').source <;>
            simp_all [MoveOperands.isEliminated, Location.isInvalid, Location.isConstant]
      · exact hdone₂ j' hj'

/-- The second loop of `EmitNativeCode`. -/
def emitConstants (l : List Nat) (r : Resolver κ ν) : Resolver κ ν :=
  l.foldl (fun r i => if !(r.move i).isEliminated then r.emitMove i else r) r

omit [DecidableEq κ] [DecidableEq ν] in
theorem move_emitConstants (l : List Nat) (r : Resolver κ ν) (j : Nat) :
    (emitConstants l r).move j = r.move j := by
  induction l generalizing r with
  | nil => rfl
  | cons i l ih =>
    rw [emitConstants, List.foldl_cons, ← emitConstants, ih]
    split_ifs <;> rfl

/-- The moves left after the first loop are from constants, and nothing reads a cell they
write: moving them in turn, the moves still to do (`l`) are those neither eliminated nor done. -/
theorem emitConstants_sound (hwf : WellFormed ms₀) {σ₀ : κ → ν} (r : Resolver κ ν)
    (hs : Shaped ms₀ [] r)
    (hconst : ∀ j < ms₀.length, r.move j ≠ .eliminate → (r.move j).source.isConstant = true)
    (l : List Nat) (hnd : l.Nodup) (r' : Resolver κ ν) (hr' : r'.moves = r.moves) (σ : κ → ν)
    (hexec : exec σ₀ r'.code = some σ)
    (hag : Agrees ms₀ σ₀ (fun j => r.move j = .eliminate ∨ j ∉ l) (fun j => (r.move j).source) σ) :
    ∃ σ', exec σ₀ (emitConstants l r').code = some σ' ∧
      Agrees ms₀ σ₀ (fun _ => True) (fun j => (r.move j).source) σ' := by
  induction l generalizing r' σ with
  | nil => exact ⟨σ, hexec, hag.congr (fun j _ => by simp) (fun _ _ _ => rfl)⟩
  | cons i l ih =>
    obtain ⟨hil, hnd'⟩ := List.nodup_cons.mp hnd
    have hm : ∀ j, r'.move j = r.move j := fun j => by
      unfold Resolver.move
      rw [hr']
    rw [emitConstants, List.foldl_cons, ← emitConstants]
    by_cases helim : r.move i = .eliminate
    · have hcond : (!(r'.move i).isEliminated) = false := by
        rw [hm, helim]
        rfl
      rw [hcond, if_neg (by simp)]
      exact ih hnd' r' hr' σ hexec (hag.congr (fun j _ => by
        by_cases hji : j = i
        · subst hji
          simp [helim]
        · simp [hji]) (fun j _ hj => by rfl))
    · have hi : i < ms₀.length := by
        by_contra hle
        exact helim (move_of_le (hs.length ▸ Nat.le_of_not_lt hle))
      have hcond : (!(r'.move i).isEliminated) = true := by
        rw [hm]
        have hsi := (hs.eliminate_iff i).not.mp helim
        cases hsrc : (r.move i).source <;>
          simp_all [MoveOperands.isEliminated, Location.isInvalid]
      rw [hcond, if_pos rfl]
      obtain ⟨c, hc⟩ := hwf.cell i hi
      have hnd_i : ¬(r.move i = .eliminate ∨ i ∉ i :: l) := by simp [helim]
      obtain ⟨v, hv⟩ := Option.ne_none_iff_exists'.mp
        ((hag.reads i hi hnd_i).trans_ne (Location.read_ne_none (hwf.source_ne i hi) σ₀))
      have hfree : ∀ j < ms₀.length, ¬(r.move j = .eliminate ∨ j ∉ i :: l) → j ≠ i →
          (r.move j).source ≠ .cell c := by
        intro j hj hnd_j _ hsrc
        have := hconst j hj fun he => hnd_j (Or.inl he)
        rw [hsrc] at this
        cases this
      have hdest : (r.move i).destination = .cell c := (hs.destination hi helim List.not_mem_nil).trans hc
      refine ih hnd' (r'.emitMove i) hr' _ ?_ ((hag.write hwf hi hnd_i hc hv hfree).congr
        (fun j _ => ?_) (fun _ _ _ => rfl))
      · show exec σ₀ (r'.code ++ [.move (r'.move i).source (r'.move i).destination]) = _
        rw [exec_append, hexec, Option.bind_some, exec_singleton, hm, hdest]
        simp [Instr.exec, hv]
      · by_cases hji : j = i
        · subst hji
          simp [hil]
        · simp [hji]

omit [DecidableEq κ] [DecidableEq ν] in
theorem orig_eq {i : Nat} (h : i < ms₀.length) : orig ms₀ i = ms₀[i] := by
  simp [orig, List.getD_eq_getElem?_getD, h]

theorem getElem_buildInitialMoveList {parallelMove : List (MoveOperands κ ν)} {i : Nat}
    (h : i < (buildInitialMoveList parallelMove).length) :
    (buildInitialMoveList parallelMove)[i] ∈ parallelMove ∧
      (buildInitialMoveList parallelMove)[i].isRedundant = false := by
  have hm := List.getElem_mem h
  unfold buildInitialMoveList at hm ⊢
  rw [List.mem_filter] at hm
  exact ⟨hm.1, by simpa using hm.2⟩

/-- The list `BuildInitialMoveList` gives, when the moves that are not redundant write distinct
cells. -/
theorem wellFormed_buildInitialMoveList (parallelMove : List (MoveOperands κ ν))
    (hcell : ∀ m ∈ parallelMove, m.isRedundant = false → ∃ c, m.destination = .cell c)
    (hdistinct : ((buildInitialMoveList parallelMove).map MoveOperands.destination).Nodup) :
    WellFormed (buildInitialMoveList parallelMove) := by
  have hmem : ∀ i (h : i < (buildInitialMoveList parallelMove).length),
      (buildInitialMoveList parallelMove)[i] ∈ parallelMove ∧
        (buildInitialMoveList parallelMove)[i].isRedundant = false :=
    fun _ h => getElem_buildInitialMoveList h
  refine ⟨fun i hi => ?_, fun i hi => ?_, fun i hi j hj hij => ?_⟩
  · have hred := (hmem i hi).2
    rw [orig_eq hi]
    intro hsrc
    simp [MoveOperands.isRedundant, MoveOperands.isEliminated, hsrc, Location.isInvalid] at hred
  · rw [orig_eq hi]
    exact hcell _ (hmem i hi).1 (hmem i hi).2
  · rw [orig_eq hi, orig_eq hj] at hij
    have hfin := (hdistinct.get_inj_iff (i := ⟨i, by simpa using hi⟩)
      (j := ⟨j, by simpa using hj⟩)).mp (by simpa using hij)
    exact Fin.mk.inj_iff.mp hfin

omit [DecidableEq κ] [DecidableEq ν] in
theorem shaped_init (hwf : WellFormed ms₀) : Shaped ms₀ [] (⟨ms₀, []⟩ : Resolver κ ν) :=
  ⟨rfl, fun i hi => Or.inr ⟨hwf.source_ne i hi, rfl⟩, List.nodup_nil,
    fun _ h => (List.not_mem_nil h).elim, List.IsChain.nil⟩

omit [DecidableEq ν] in
theorem sound_init (hwf : WellFormed ms₀) (σ₀ : κ → ν) :
    Sound ms₀ σ₀ (⟨ms₀, []⟩ : Resolver κ ν) := by
  refine ⟨σ₀, rfl, (agrees_init _ fun _ _ => rfl).congr (fun j hj => ?_) fun _ _ _ => rfl⟩
  exact iff_of_false (fun he => hwf.source_ne j hj (congrArg MoveOperands.source he)) id

/-- `EmitNativeCode` as its two loops. -/
theorem emitNativeCode_eq (parallelMove : List (MoveOperands κ ν)) :
    emitNativeCode parallelMove =
      ((List.range (buildInitialMoveList parallelMove).length).foldlM (fun r i =>
          if !(r.move i).isEliminated && !(r.move i).source.isConstant then
            performMove (buildInitialMoveList parallelMove).length i r
          else some r)
        (⟨buildInitialMoveList parallelMove, []⟩ : Resolver κ ν)).bind fun r =>
        some (emitConstants (List.range (buildInitialMoveList parallelMove).length) r).code :=
  rfl

end Emit

/-- `EmitNativeCode` is correct: for a parallel move whose moves that are not redundant write
pairwise distinct cells, it returns, and its code, run on any machine state, leaves each of their
destinations holding the value its source had at the start and every other cell unchanged. -/
theorem emitNativeCode_spec [DecidableEq κ] [DecidableEq ν]
    (parallelMove : List (MoveOperands κ ν))
    (hcell : ∀ m ∈ parallelMove, m.isRedundant = false → ∃ c, m.destination = .cell c)
    (hdistinct : ((parallelMove.filter fun m => !m.isRedundant).map MoveOperands.destination).Nodup) :
    ∃ code, emitNativeCode parallelMove = some code ∧ ∀ σ₀ : κ → ν, ∃ σ, exec σ₀ code = some σ ∧
      (∀ m ∈ parallelMove, m.isRedundant = false → ∀ c, m.destination = .cell c →
        some (σ c) = m.source.read σ₀) ∧
      ∀ c, (∀ m ∈ parallelMove, m.isRedundant = false → m.destination ≠ .cell c) → σ c = σ₀ c := by
  have hwf := wellFormed_buildInitialMoveList parallelMove hcell hdistinct
  obtain ⟨r, hfold, hs, -, hsound, hdone⟩ := foldlM_performMove hwf
    (List.range (buildInitialMoveList parallelMove).length) (fun j hj => List.mem_range.mp hj)
    _ (shaped_init hwf)
  refine ⟨_, by rw [emitNativeCode_eq, hfold]; rfl, fun σ₀ => ?_⟩
  obtain ⟨σ, hexec, hag⟩ := hsound σ₀ (sound_init hwf σ₀)
  obtain ⟨σ', hexec', hag'⟩ := emitConstants_sound hwf r hs
    (fun j hj hact => (hdone j (List.mem_range.mpr hj)).resolve_left hact)
    _ List.nodup_range r rfl σ hexec
    (hag.congr (fun j hj => by rw [List.mem_range]; exact or_iff_left (not_not.mpr hj))
      fun _ _ _ => rfl)
  have hidx : ∀ m ∈ parallelMove, m.isRedundant = false →
      ∃ j < (buildInitialMoveList parallelMove).length, orig (buildInitialMoveList parallelMove) j = m := by
    intro m hm hred
    have hmem : m ∈ buildInitialMoveList parallelMove := by
      simp [buildInitialMoveList, hm, hred]
    obtain ⟨j, hj, rfl⟩ := List.mem_iff_getElem.mp hmem
    exact ⟨j, hj, orig_eq hj⟩
  refine ⟨σ', hexec', fun m hm hred c hc => ?_, fun c hc => ?_⟩
  · obtain ⟨j, hj, rfl⟩ := hidx m hm hred
    exact hag'.written j hj trivial c hc
  · refine hag'.frame c fun j hj hjc => ?_
    obtain ⟨hm, hred⟩ := getElem_buildInitialMoveList hj
    exact hc _ hm hred (by rwa [← orig_eq hj])

/-- A cycle of three cells, a move out of it and a move from a constant. -/
def cycleMoves : List (MoveOperands Nat Nat) :=
  [⟨.cell 0, .cell 1⟩, ⟨.cell 1, .cell 2⟩, ⟨.cell 2, .cell 0⟩, ⟨.constant 7, .cell 3⟩,
    ⟨.cell 1, .cell 4⟩]

theorem emitNativeCode_spec_cycle :
    (∀ m ∈ cycleMoves, m.isRedundant = false → ∃ c, m.destination = .cell c) ∧
      ((cycleMoves.filter fun m => !m.isRedundant).map MoveOperands.destination).Nodup ∧
      ∃ code, emitNativeCode cycleMoves = some code ∧ ∀ σ₀ : Nat → Nat, ∃ σ,
        exec σ₀ code = some σ ∧
        (∀ m ∈ cycleMoves, m.isRedundant = false → ∀ c, m.destination = .cell c →
          some (σ c) = m.source.read σ₀) ∧
        ∀ c, (∀ m ∈ cycleMoves, m.isRedundant = false → m.destination ≠ .cell c) → σ c = σ₀ c := by
  have hcell : ∀ m ∈ cycleMoves, m.isRedundant = false → ∃ c, m.destination = .cell c := by
    intro m hm _
    simp only [cycleMoves, List.mem_cons, List.not_mem_nil, or_false] at hm
    rcases hm with rfl | rfl | rfl | rfl | rfl <;> exact ⟨_, rfl⟩
  have hdistinct : ((cycleMoves.filter fun m => !m.isRedundant).map
      MoveOperands.destination).Nodup := by decide
  exact ⟨hcell, hdistinct, emitNativeCode_spec cycleMoves hcell hdistinct⟩

/-- The move out of the cycle runs after the swaps, from cell 2, where they have put the value of
cell 1. -/
example : emitNativeCode cycleMoves = some [.swap (.cell 2) (.cell 0), .swap (.cell 1) (.cell 2),
    .move (.cell 2) (.cell 4), .move (.constant 7) (.cell 3)] := by
  decide

end ParallelMove

end Art
