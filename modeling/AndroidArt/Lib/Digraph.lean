import Mathlib.Data.List.Basic

/-!
# Walks and dominance in a directed graph

A graph is given by the successor list of each node.  A walk is a list of nodes, each a successor
of the one before (`isWalk`).  From an entry node, `d` dominates `b` when every walk from the
entry to `b` goes through `d`; the immediate dominator of `b` is the strict dominator of `b` that
every other strict dominator of `b` dominates.

* `forall_mem_of_walk` — a set that holds the entry and is closed under successors holds every
  walk from the entry.
* `not_dominates_of_walk` — one walk from the entry to `b` that avoids `d` shows that `d` does not
  dominate `b`.
* `dominates_of_succ_eq_singleton` — the only successor of the entry dominates every other node.
* `IsImmediateDominator.of_walks` — a strict dominator of `b` is its immediate dominator as soon
  as two walks to `b` have in common only nodes that dominate it.
-/

set_option autoImplicit false

namespace Digraph

variable {α : Type*} [DecidableEq α] (succ : α → List α)

/-- Each node of the list is a successor of the one before. -/
def isWalk : List α → Bool
  | [] => true
  | [_] => true
  | a :: b :: rest => decide (b ∈ succ a) && isWalk (b :: rest)

/-- `d` dominates `b` from `entry`: every walk from `entry` to `b` goes through `d`. -/
def Dominates (entry d b : α) : Prop :=
  ∀ w : List α, isWalk succ w = true → w.head? = some entry → w.getLast? = some b → d ∈ w

/-- `d` dominates `b` and is another node. -/
def StrictlyDominates (entry d b : α) : Prop := Dominates succ entry d b ∧ d ≠ b

/-- `i` strictly dominates `b`, and every strict dominator of `b` dominates `i`. -/
def IsImmediateDominator (entry i b : α) : Prop :=
  StrictlyDominates succ entry i b ∧ ∀ d, StrictlyDominates succ entry d b → Dominates succ entry d i

variable {succ} {entry : α}

/-- A set of nodes that holds the entry and the successors of each of its nodes holds every node
of a walk from the entry. -/
theorem forall_mem_of_walk {S : α → Prop} (hclosed : ∀ a, S a → ∀ b ∈ succ a, S b) :
    ∀ {w : List α} {a : α}, isWalk succ w = true → w.head? = some a → S a → ∀ b ∈ w, S b
  | [], _, _, hh, _ => by simp at hh
  | [c], a, _, hh, ha => by
    simp only [List.head?_cons, Option.some.injEq] at hh
    subst hh
    simpa using ha
  | c :: d :: rest, a, hw, hh, ha => by
    simp only [List.head?_cons, Option.some.injEq] at hh
    subst hh
    simp only [isWalk, Bool.and_eq_true, decide_eq_true_eq] at hw
    -- the walk goes on from `d`, a successor of `c`, so it stays in the set
    have hrest := forall_mem_of_walk hclosed hw.2 rfl (hclosed c ha d hw.1)
    intro b hb
    rcases List.mem_cons.mp hb with rfl | hb
    · exact ha
    · exact hrest b hb

theorem not_dominates_of_walk {w : List α} {d b : α} (hw : isWalk succ w = true)
    (hh : w.head? = some entry) (hl : w.getLast? = some b) (hd : d ∉ w) :
    ¬ Dominates succ entry d b :=
  fun h => hd (h w hw hh hl)

theorem dominates_entry (b : α) : Dominates succ entry entry b := by
  intro w _ hh _
  exact List.mem_of_mem_head? hh

theorem dominates_self (b : α) : Dominates succ entry b b := by
  intro w _ _ hl
  exact List.mem_of_mem_getLast? hl

/-- A walk from the entry to another node leaves the entry by one of its successors. -/
theorem dominates_of_succ_eq_singleton {c : α} (hsucc : succ entry = [c]) {b : α}
    (hb : b ≠ entry) : Dominates succ entry c b := by
  intro w hw hh hl
  match w, hw, hh, hl with
  | [a], _, hh, hl =>
    simp only [List.head?_cons, Option.some.injEq, List.getLast?_singleton] at hh hl
    exact absurd (hl.symm.trans hh) hb
  | a :: a' :: rest, hw, hh, _ =>
    simp only [List.head?_cons, Option.some.injEq] at hh
    subst hh
    simp only [isWalk, Bool.and_eq_true, decide_eq_true_eq, hsucc, List.mem_singleton] at hw
    rw [hw.1]
    exact List.mem_cons_of_mem _ List.mem_cons_self

/-- A strict dominator `i` of `b` is its immediate dominator when every node that two walks from
the entry to `b` have in common, but `b`, dominates `i`. -/
theorem IsImmediateDominator.of_walks {i b : α} (hi : StrictlyDominates succ entry i b)
    {w₁ w₂ : List α} (hw₁ : isWalk succ w₁ = true) (hh₁ : w₁.head? = some entry)
    (hl₁ : w₁.getLast? = some b) (hw₂ : isWalk succ w₂ = true) (hh₂ : w₂.head? = some entry)
    (hl₂ : w₂.getLast? = some b)
    (hcommon : ∀ d ∈ w₁, d ∈ w₂ → d ≠ b → Dominates succ entry d i) :
    IsImmediateDominator succ entry i b := by
  refine ⟨hi, fun d hd => ?_⟩
  obtain ⟨hdom, hne⟩ := hd
  exact hcommon d (hdom w₁ hw₁ hh₁ hl₁) (hdom w₂ hw₂ hh₂ hl₂) hne

end Digraph
