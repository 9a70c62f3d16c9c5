import AndroidArt.Lib.Simulation
import AndroidArt.Optimizing.Graph

/-!
# Dead phi elimination

Model of `SsaDeadPhiElimination::Run` (`compiler/optimizing/ssa_phi_elimination.cc`) on the SSA
form of an `HGraph`: the phis of each block, and of each instruction what the pass reads and
writes, that is whether it is a phi, its inputs, its use list, its environment uses and the
`is_live_` flag of `HPhi`.

A use list is `uses_` read from its head: `AddUseAt` puts a new use in front, so the most recent
use comes first.  `worklist_` is kept with its last element first, where `Add` puts an element
and `Pop` takes it.  `RemovePhi` unlinks the phi from its block and takes each of its uses out of
its inputs' use lists with `RemoveUser`.

`run` is the pass as a release build runs it, where `DCHECK` compiles to nothing.  `runDebug` is
the debug build, where the `DCHECK`s of `Remove` (the phi is in its block and has no uses and no
environment uses) stop the compiler, here `none`; where they hold it leaves the graph `run` leaves
(`runDebug_eq_some`).

Principal results:
* `run_keeps_used`: every phi that `Run` keeps in a block of the reverse post order is needed,
  used by a non-phi instruction directly or through a chain of phi inputs (`Used`).
* `propagate_drains`: the worklist loop ends with an empty worklist within the fuel `Run` gives
  it, so the model runs the loop to its end.
-/

set_option autoImplicit false

namespace Art

/-- What dead phi elimination reads and writes of an `HInstruction`, with `is_live_` of `HPhi`. -/
structure HInstruction where
  isPhi : Bool
  inputs : List Nat
  /-- `uses_`: the (user, input index) nodes from the head of the list. -/
  uses : List (Nat × Nat)
  /-- `env_uses_`: the (environment, index) nodes. -/
  envUses : List (Nat × Nat)
  isLive : Bool
  deriving DecidableEq, Repr

/-- `HasEnvironmentUses`. -/
def HInstruction.hasEnvironmentUses (i : HInstruction) : Bool := !i.envUses.isEmpty

/-- The walk of `HInstruction::RemoveUser(user, input_index)`.  A matching node is unlinked
through `previous`, and `previous` then moves to the unlinked node, so a matching node right
after an unlinked one stays; `previousRemoved` records that. -/
def removeUser (user index : Nat) : (previousRemoved : Bool) → List (Nat × Nat) → List (Nat × Nat)
  | _, [] => []
  | previousRemoved, (u, i) :: rest =>
    if u = user ∧ i = index ∧ previousRemoved = false then removeUser user index true rest
    else (u, i) :: removeUser user index false rest

/-- An `HGraph` in SSA form: the phis of each block and the instructions, by id. -/
structure SsaGraph where
  graph : HGraph
  /-- `phis_` of each block. -/
  phis : Nat → List Nat
  instr : Nat → HInstruction

namespace SsaGraph

variable (g : SsaGraph)

/-- The phis of the blocks of the reverse post order. -/
def allPhis : List Nat := g.graph.reversePostOrder.flatMap g.phis

/-- `SetLive` (`b = true`) or `SetDead` (`b = false`) of phi `p`. -/
def setLive (p : Nat) (b : Bool) : SsaGraph :=
  { g with instr := Function.update g.instr p { g.instr p with isLive := b } }

/-- Changes the use list of instruction `j`. -/
def modifyUses (j : Nat) (f : List (Nat × Nat) → List (Nat × Nat)) : SsaGraph :=
  { g with instr := Function.update g.instr j { g.instr j with uses := f (g.instr j).uses } }

/-- `HBasicBlock::RemovePhi`: `phi` leaves the phis of `b`, and its input at index `i` loses the use
`(phi, i)`. -/
def removePhi (b phi : Nat) : SsaGraph :=
  (g.instr phi).inputs.zipIdx.foldl (fun g x => g.modifyUses x.1 (removeUser phi x.2 false))
    { g with phis := Function.update g.phis b ((g.phis b).erase phi) }

/-- The removal loop over the phis of block `b`: each dead phi is removed. -/
def removeBlock (b : Nat) : SsaGraph :=
  (g.phis b).foldl (fun g phi => if (g.instr phi).isLive then g else g.removePhi b phi) g

/-- `HBasicBlock::RemovePhi` as a debug build runs it: the `DCHECK`s of `Remove` that `phi` is in
block `b` and has no uses and no environment uses stop the compiler. -/
def removePhiDebug (b phi : Nat) : Option SsaGraph :=
  if phi ∈ g.phis b ∧ (g.instr phi).uses = [] ∧ (g.instr phi).envUses = [] then
    some (g.removePhi b phi)
  else none

/-- The removal loop over the phis of block `b` in a debug build. -/
def removeBlockDebug (b : Nat) : Option SsaGraph :=
  (g.phis b).foldlM (fun g phi => if (g.instr phi).isLive then some g else g.removePhiDebug b phi) g

/-- The graph's needs, as the pass should find them. -/
inductive Used : Nat → Prop
  | user {p u i : Nat} : (u, i) ∈ (g.instr p).uses → (g.instr u).isPhi = false → Used p
  | phiInput {p q : Nat} : (g.instr q).isPhi = true → p ∈ (g.instr q).inputs → Used q → Used p

/-- The shape of a graph that the pass relies on: the phis of a block are distinct phis, and a
phi input that is a phi belongs to a block. -/
structure WellFormed : Prop where
  isPhi : ∀ b ∈ g.graph.reversePostOrder, ∀ p ∈ g.phis b, (g.instr p).isPhi = true
  nodup : ∀ b ∈ g.graph.reversePostOrder, (g.phis b).Nodup
  inputs : ∀ q ∈ g.allPhis, ∀ p ∈ (g.instr q).inputs, (g.instr p).isPhi = true → p ∈ g.allPhis

/-- `g` differs from `g₀` in the `is_live_` flags only. -/
structure LiveOnly (g₀ : SsaGraph) : Prop where
  graph : g.graph = g₀.graph
  phis : g.phis = g₀.phis
  isPhi : ∀ i, (g.instr i).isPhi = (g₀.instr i).isPhi
  inputs : ∀ i, (g.instr i).inputs = (g₀.instr i).inputs
  uses : ∀ i, (g.instr i).uses = (g₀.instr i).uses

variable {g}

@[simp] theorem setLive_graph (p : Nat) (b : Bool) : (g.setLive p b).graph = g.graph := rfl

@[simp] theorem setLive_phis (p : Nat) (b : Bool) : (g.setLive p b).phis = g.phis := rfl

@[simp] theorem setLive_instr (p : Nat) (b : Bool) (i : Nat) :
    (g.setLive p b).instr i = if i = p then { g.instr p with isLive := b } else g.instr i := by
  simp [setLive, Function.update_apply]

@[simp] theorem modifyUses_graph (j : Nat) (f : List (Nat × Nat) → List (Nat × Nat)) :
    (g.modifyUses j f).graph = g.graph := rfl

@[simp] theorem modifyUses_phis (j : Nat) (f : List (Nat × Nat) → List (Nat × Nat)) :
    (g.modifyUses j f).phis = g.phis := rfl

@[simp] theorem modifyUses_isLive (j : Nat) (f : List (Nat × Nat) → List (Nat × Nat)) (i : Nat) :
    ((g.modifyUses j f).instr i).isLive = (g.instr i).isLive := by
  by_cases h : i = j <;> simp [modifyUses, h]

theorem mem_allPhis {b p : Nat} (hb : b ∈ g.graph.reversePostOrder) (hp : p ∈ g.phis b) :
    p ∈ g.allPhis :=
  List.mem_flatMap.mpr ⟨b, hb, hp⟩

theorem WellFormed.isPhi_of_mem (hwf : g.WellFormed) {p : Nat} (hp : p ∈ g.allPhis) :
    (g.instr p).isPhi = true := by
  obtain ⟨b, hb, hpb⟩ := List.mem_flatMap.mp hp
  exact hwf.isPhi b hb p hpb

theorem LiveOnly.refl (g : SsaGraph) : g.LiveOnly g :=
  ⟨rfl, rfl, fun _ => rfl, fun _ => rfl, fun _ => rfl⟩

theorem LiveOnly.setLive {g₀ : SsaGraph} (h : g.LiveOnly g₀) (p : Nat) (b : Bool) :
    (g.setLive p b).LiveOnly g₀ := by
  refine ⟨h.graph, h.phis, fun i => ?_, fun i => ?_, fun i => ?_⟩ <;>
    by_cases hi : i = p <;> simp [hi, h.isPhi, h.inputs, h.uses]

/-! ### What `RemovePhi` changes -/

/-- `RemovePhi` changes the phis of its block only, and no `is_live_` flag. -/
theorem removePhi_frame (b phi : Nat) :
    (g.removePhi b phi).graph = g.graph ∧
      (g.removePhi b phi).phis = Function.update g.phis b ((g.phis b).erase phi) ∧
      ∀ i, ((g.removePhi b phi).instr i).isLive = (g.instr i).isLive := by
  unfold removePhi
  apply List.foldlRecOn (motive := fun g' : SsaGraph => g'.graph = g.graph ∧
    g'.phis = Function.update g.phis b ((g.phis b).erase phi) ∧
      ∀ i, (g'.instr i).isLive = (g.instr i).isLive)
  · exact ⟨rfl, rfl, fun _ => rfl⟩
  · intro g' ⟨hg, hp, hl⟩ x _
    exact ⟨hg, hp, fun i => by rw [modifyUses_isLive, hl]⟩

@[simp] theorem removePhi_graph (b phi : Nat) : (g.removePhi b phi).graph = g.graph :=
  (removePhi_frame b phi).1

@[simp] theorem removePhi_isLive (b phi i : Nat) :
    ((g.removePhi b phi).instr i).isLive = (g.instr i).isLive :=
  (removePhi_frame b phi).2.2 i

theorem removePhi_phis (b phi : Nat) :
    (g.removePhi b phi).phis = Function.update g.phis b ((g.phis b).erase phi) :=
  (removePhi_frame b phi).2.1

/-- The removal loop over the phis `L` of block `b` keeps the phis of `b` that are not in `L` or
live. -/
theorem foldl_remove_phis (b : Nat) : ∀ (L : List Nat) (g : SsaGraph), (g.phis b).Nodup →
    (L.foldl (fun g phi => if (g.instr phi).isLive then g else g.removePhi b phi) g).phis b =
      (g.phis b).filter fun x => !decide (x ∈ L) || (g.instr x).isLive := by
  intro L
  induction L with
  | nil => intro g _; simp
  | cons p L ih =>
    intro g hnd
    rw [List.foldl_cons]
    split_ifs with hp
    · rw [ih g hnd]
      apply List.filter_congr
      intro x _
      by_cases hx : x = p <;> simp [hx, hp]
    · have hphis : (g.removePhi b p).phis b = (g.phis b).filter fun x => x != p := by
        rw [removePhi_phis, Function.update_self, hnd.erase_eq_filter]
      rw [ih _ (hphis ▸ hnd.filter _), hphis, List.filter_filter]
      apply List.filter_congr
      intro x _
      by_cases hx : x = p
      · simp [hx, hp]
      · simp [hx, removePhi_isLive]

/-- The removal loop changes the phis of its block only, and no `is_live_` flag. -/
theorem removeBlock_frame (b : Nat) :
    (g.removeBlock b).graph = g.graph ∧ (∀ b', b' ≠ b → (g.removeBlock b).phis b' = g.phis b') ∧
      ∀ i, ((g.removeBlock b).instr i).isLive = (g.instr i).isLive := by
  unfold removeBlock
  apply List.foldlRecOn (motive := fun g' : SsaGraph => g'.graph = g.graph ∧
    (∀ b', b' ≠ b → g'.phis b' = g.phis b') ∧ ∀ i, (g'.instr i).isLive = (g.instr i).isLive)
  · exact ⟨rfl, fun _ _ => rfl, fun _ => rfl⟩
  · intro g' ⟨hg, hp, hl⟩ phi _
    split_ifs
    · exact ⟨hg, hp, hl⟩
    · refine ⟨by rw [removePhi_graph, hg], fun b' hb' => ?_, fun i => by rw [removePhi_isLive, hl]⟩
      rw [removePhi_phis, Function.update_of_ne hb', hp b' hb']

/-- The removal loop of block `b` leaves its live phis. -/
theorem removeBlock_phis {b : Nat} (hnd : (g.phis b).Nodup) :
    (g.removeBlock b).phis b = (g.phis b).filter fun x => (g.instr x).isLive := by
  unfold removeBlock
  rw [foldl_remove_phis b _ g hnd]
  apply List.filter_congr
  intro x hx
  simp [hx]

/-- A debug build removes a phi where the `DCHECK`s of `Remove` hold, and then as a release build
does. -/
theorem removePhiDebug_eq_some {b phi : Nat} {g' : SsaGraph} :
    g.removePhiDebug b phi = some g' ↔
      (phi ∈ g.phis b ∧ (g.instr phi).uses = [] ∧ (g.instr phi).envUses = []) ∧
        g.removePhi b phi = g' := by
  unfold removePhiDebug
  split_ifs with hc <;> simp [hc]

/-- Where the removal loop of a debug build does not stop, it leaves the graph of the release
build's. -/
theorem removeBlockDebug_eq_some {b : Nat} {g' : SsaGraph} (h : g.removeBlockDebug b = some g') :
    g' = g.removeBlock b := by
  refine Simulation.foldlM_eq_some_foldl _ _ (fun g₁ phi g₂ hg => ?_) h
  by_cases hl : (g₁.instr phi).isLive
  · simp only [hl, if_true, Option.some.injEq] at hg ⊢
    exact hg.symm
  · simp only [hl, Bool.false_eq_true, if_false] at hg ⊢
    exact (removePhiDebug_eq_some.mp hg).2.symm

end SsaGraph

/-- The data of the pass: the graph with its `is_live_` flags, and `worklist_`. -/
structure DeadPhiState where
  graph : SsaGraph
  /-- `worklist_`, its last element first. -/
  worklist : List Nat

namespace DeadPhiState

/-- `worklist_.Add(phi)`. -/
def add (s : DeadPhiState) (phi : Nat) : DeadPhiState := { s with worklist := phi :: s.worklist }

/-- `SetLive` or `SetDead`. -/
def setLive (s : DeadPhiState) (phi : Nat) (b : Bool) : DeadPhiState :=
  { s with graph := s.graph.setLive phi b }

end DeadPhiState

namespace SsaDeadPhiElimination

open DeadPhiState

/-- The loop over the use list of `phi`: a non-phi user adds `phi` to the worklist and sets it
live, a phi user sets it dead. -/
def markUses (phi : Nat) : List (Nat × Nat) → DeadPhiState → DeadPhiState
  | [], s => s
  | (user, _) :: uses, s =>
    markUses phi uses
      (if (s.graph.instr user).isPhi then s.setLive phi false else (s.add phi).setLive phi true)

/-- One phi of the first loop: a phi with environment uses is skipped. -/
def markPhi (s : DeadPhiState) (phi : Nat) : DeadPhiState :=
  if (s.graph.instr phi).hasEnvironmentUses then s else markUses phi (s.graph.instr phi).uses s

/-- The first loop, over the phis of the blocks in reverse post order. -/
def mark (s : DeadPhiState) : DeadPhiState :=
  s.graph.graph.reversePostOrder.foldl (fun s b => (s.graph.phis b).foldl markPhi s) s

/-- The loop over the inputs of a popped phi: a dead phi input is added and set live. -/
def propagateInputs : List Nat → DeadPhiState → DeadPhiState
  | [], s => s
  | input :: inputs, s =>
    propagateInputs inputs
      (if (s.graph.instr input).isPhi = true ∧ (s.graph.instr input).isLive = false then
        (s.add input).setLive input true
      else s)

/-- The worklist loop `while (!worklist_.IsEmpty())`, for at most `fuel` rounds. -/
def propagate : Nat → DeadPhiState → DeadPhiState
  | 0, s => s
  | fuel + 1, s =>
    match s.worklist with
    | [] => s
    | phi :: worklist =>
      propagate fuel (propagateInputs (s.graph.instr phi).inputs { s with worklist })

/-- The last loop, over the blocks in post order: the dead phis are removed. -/
def removeDeadPhis (g : SsaGraph) : SsaGraph :=
  g.graph.reversePostOrder.reverse.foldl SsaGraph.removeBlock g

/-- `SsaDeadPhiElimination::Run`.  Each round of the worklist loop pops one phi, and the only
phis it adds are dead phis it sets live, so the number of phis added by the first loop and of
the phis of the graph is enough fuel (`propagate_drains`). -/
def run (g : SsaGraph) : SsaGraph :=
  let s := mark ⟨g, []⟩
  let s := propagate (s.worklist.length + g.allPhis.length) s
  removeDeadPhis s.graph

/-- The last loop in a debug build. -/
def removeDeadPhisDebug (g : SsaGraph) : Option SsaGraph :=
  g.graph.reversePostOrder.reverse.foldlM SsaGraph.removeBlockDebug g

/-- `SsaDeadPhiElimination::Run` in a debug build, which stops at a failed `DCHECK` of `Remove`. -/
def runDebug (g : SsaGraph) : Option SsaGraph :=
  let s := mark ⟨g, []⟩
  let s := propagate (s.worklist.length + g.allPhis.length) s
  removeDeadPhisDebug s.graph

/-- Where a debug build of `Run` does not stop at a `DCHECK` of `Remove`, it leaves the graph a
release build leaves. -/
theorem runDebug_eq_some {g g' : SsaGraph} (h : runDebug g = some g') : g' = run g :=
  Simulation.foldlM_eq_some_foldl _ _ (fun _ _ _ hb => SsaGraph.removeBlockDebug_eq_some hb) h

/-! ## The invariant of the first two loops -/

/-- The invariant of the first two loops for a property `N` of instructions: the graph is `g₀`
with other `is_live_` flags, a live phi has `N`, and so has every phi of the worklist, which is a
phi of a block.  With `N = Used` it says that the pass only keeps needed phis; with `N = True`
it bounds the worklist loop. -/
structure Sound (g₀ : SsaGraph) (N : Nat → Prop) (s : DeadPhiState) : Prop where
  liveOnly : s.graph.LiveOnly g₀
  live : ∀ p, (s.graph.instr p).isLive = true → N p
  worklist : ∀ q ∈ s.worklist, N q ∧ q ∈ g₀.allPhis

variable {g₀ : SsaGraph} {N : Nat → Prop}

/-- The graph as the builder leaves it: no phi is live yet and the worklist is empty. -/
theorem Sound.init (hdead : ∀ i, (g₀.instr i).isLive = true → N i) : Sound g₀ N ⟨g₀, []⟩ :=
  ⟨.refl g₀, hdead, fun _ hq => by simp at hq⟩

theorem Sound.setDead {s : DeadPhiState} (h : Sound g₀ N s) (p : Nat) :
    Sound g₀ N (s.setLive p false) := by
  refine ⟨h.liveOnly.setLive p false, fun p' hp' => ?_, h.worklist⟩
  by_cases hp : p' = p
  · simp [DeadPhiState.setLive, hp] at hp'
  · exact h.live p' (by simpa [DeadPhiState.setLive, hp] using hp')

theorem Sound.addLive {s : DeadPhiState} (h : Sound g₀ N s) {p : Nat} (hu : N p)
    (hp : p ∈ g₀.allPhis) : Sound g₀ N ((s.add p).setLive p true) := by
  refine ⟨h.liveOnly.setLive p true, fun p' hp' => ?_, fun q hq => ?_⟩
  · by_cases hpp : p' = p
    · exact hpp ▸ hu
    · exact h.live p' (by simpa [DeadPhiState.setLive, DeadPhiState.add, hpp] using hp')
  · simp only [DeadPhiState.setLive, DeadPhiState.add, List.mem_cons] at hq
    rcases hq with rfl | hq
    · exact ⟨hu, hp⟩
    · exact h.worklist q hq

section Mark

-- `N` holds of an instruction with a non-phi user
variable (hN : ∀ {p u i : Nat}, (u, i) ∈ (g₀.instr p).uses → (g₀.instr u).isPhi = false → N p)
include hN

/-- The use loop of a phi of a block: it sets the phi live only at a non-phi user. -/
theorem markUses_sound {phi : Nat} (hphi : phi ∈ g₀.allPhis) :
    ∀ (l : List (Nat × Nat)) (s : DeadPhiState), (∀ x ∈ l, x ∈ (g₀.instr phi).uses) →
      Sound g₀ N s → Sound g₀ N (markUses phi l s) := by
  intro l
  induction l with
  | nil => intro s _ h; exact h
  | cons x l ih =>
    obtain ⟨user, i⟩ := x
    intro s hl h
    rw [markUses]
    apply ih _ (fun x hx => hl x (List.mem_cons_of_mem _ hx))
    split_ifs with hu
    · exact h.setDead phi
    · apply h.addLive _ hphi
      apply hN (hl (user, i) List.mem_cons_self)
      rw [← h.liveOnly.isPhi]
      simpa using hu

theorem markPhi_sound {s : DeadPhiState} (h : Sound g₀ N s) {phi : Nat}
    (hphi : phi ∈ g₀.allPhis) : Sound g₀ N (markPhi s phi) := by
  unfold markPhi
  split_ifs
  · exact h
  · exact markUses_sound hN hphi _ s (fun x hx => by rwa [← h.liveOnly.uses]) h

/-- The first loop keeps the invariant. -/
theorem mark_sound {s : DeadPhiState} (h : Sound g₀ N s) : Sound g₀ N (mark s) := by
  unfold mark
  apply List.foldlRecOn (motive := Sound g₀ N) _ _ h
  intro s' hs' b hb
  apply List.foldlRecOn (motive := Sound g₀ N) _ _ hs'
  intro s'' hs'' phi hphi
  apply markPhi_sound hN hs''
  rw [hs'.liveOnly.phis] at hphi
  rw [h.liveOnly.graph] at hb
  exact SsaGraph.mem_allPhis hb hphi

end Mark

section Propagate

variable (hwf : g₀.WellFormed)
-- `N` passes from a phi to its inputs
variable (hN : ∀ {p q : Nat}, (g₀.instr q).isPhi = true → p ∈ (g₀.instr q).inputs → N q → N p)
include hwf hN

/-- The input loop of a popped phi `q` with `N`: a phi it sets live is an input of `q`. -/
theorem propagateInputs_sound {q : Nat} (hq : N q) (hqa : q ∈ g₀.allPhis) :
    ∀ (l : List Nat) (s : DeadPhiState), (∀ x ∈ l, x ∈ (g₀.instr q).inputs) →
      Sound g₀ N s → Sound g₀ N (propagateInputs l s) := by
  intro l
  induction l with
  | nil => intro s _ h; exact h
  | cons input l ih =>
    intro s hl h
    rw [propagateInputs]
    apply ih _ (fun x hx => hl x (List.mem_cons_of_mem _ hx))
    split_ifs with hin
    · have hphi : (g₀.instr input).isPhi = true := by rw [← h.liveOnly.isPhi]; exact hin.1
      have hmem := hl input List.mem_cons_self
      exact h.addLive (hN (hwf.isPhi_of_mem hqa) hmem hq) (hwf.inputs q hqa input hmem hphi)
    · exact h

/-- The worklist loop keeps the invariant, whatever its fuel. -/
theorem propagate_sound :
    ∀ (fuel : Nat) (s : DeadPhiState), Sound g₀ N s → Sound g₀ N (propagate fuel s) := by
  intro fuel
  induction fuel with
  | zero => intro s h; exact h
  | succ fuel ih =>
    intro s h
    rw [propagate]
    split
    · exact h
    · rename_i phi rest hw
      have hq := h.worklist phi (by rw [hw]; exact List.mem_cons_self)
      apply ih
      apply propagateInputs_sound hwf hN hq.1 hq.2 _ _ (fun x hx => by rwa [← h.liveOnly.inputs])
      exact ⟨h.liveOnly, h.live,
        fun q hq' => h.worklist q (by rw [hw]; exact List.mem_cons_of_mem _ hq')⟩

end Propagate

/-! ## The worklist loop runs to its end -/

/-- The phis of the blocks that are still dead. -/
def deadCount (g₀ : SsaGraph) (s : DeadPhiState) : Nat :=
  g₀.allPhis.countP fun p => !(s.graph.instr p).isLive

/-- Setting a dead phi of the blocks live lowers the count of dead phis. -/
theorem countP_setLive_lt {g : SsaGraph} {p : Nat} (hdead : (g.instr p).isLive = false) :
    ∀ {L : List Nat}, p ∈ L →
      L.countP (fun x => !((g.setLive p true).instr x).isLive) < L.countP (fun x => !(g.instr x).isLive)
  | a :: L, hp => by
    have hmono : L.countP (fun x => !((g.setLive p true).instr x).isLive) ≤
        L.countP (fun x => !(g.instr x).isLive) := by
      apply List.countP_mono_left
      intro x _ hx
      by_cases hxp : x = p <;> simp_all
    rw [List.countP_cons, List.countP_cons]
    by_cases hap : a = p
    · subst hap
      have h₁ : ((g.setLive a true).instr a).isLive = true := by simp
      rw [h₁, hdead]
      simp only [Bool.not_true, Bool.not_false, Bool.false_eq_true, if_false, if_true]
      omega
    · have hpL : p ∈ L := by simpa [Ne.symm hap] using hp
      have ih := countP_setLive_lt hdead hpL
      have h₁ : (g.setLive p true).instr a = g.instr a := by simp [hap]
      rw [h₁]
      split <;> omega

/-- The input loop adds no more phis to the worklist than it sets live. -/
theorem propagateInputs_measure (hwf : g₀.WellFormed) {q : Nat} (hqa : q ∈ g₀.allPhis) :
    ∀ (l : List Nat) (s : DeadPhiState), (∀ x ∈ l, x ∈ (g₀.instr q).inputs) →
      Sound g₀ (fun _ => True) s →
      (propagateInputs l s).worklist.length + deadCount g₀ (propagateInputs l s) ≤
        s.worklist.length + deadCount g₀ s := by
  intro l
  induction l with
  | nil => intro s _ _; exact Nat.le_refl _
  | cons input l ih =>
    intro s hl h
    have hl' : ∀ x ∈ l, x ∈ (g₀.instr q).inputs := fun x hx => hl x (List.mem_cons_of_mem _ hx)
    rw [propagateInputs]
    split_ifs with hin
    · have hmem := hl input List.mem_cons_self
      have hphi : (g₀.instr input).isPhi = true := by rw [← h.liveOnly.isPhi]; exact hin.1
      have hs' := h.addLive trivial (hwf.inputs q hqa input hmem hphi)
      have hlt := countP_setLive_lt hin.2 (hwf.inputs q hqa input hmem hphi)
      refine Nat.le_trans (ih _ hl' hs') ?_
      simp only [deadCount, DeadPhiState.setLive, DeadPhiState.add, List.length_cons] at hlt ⊢
      omega
    · exact ih s hl' h

/-- With as much fuel as the worklist's length and the dead phis together, the worklist loop
ends with an empty worklist. -/
theorem propagate_drains_of_le (hwf : g₀.WellFormed) :
    ∀ (fuel : Nat) (s : DeadPhiState), Sound g₀ (fun _ => True) s →
      s.worklist.length + deadCount g₀ s ≤ fuel → (propagate fuel s).worklist = [] := by
  intro fuel
  induction fuel with
  | zero =>
    intro s _ hle
    rw [propagate]
    exact List.eq_nil_of_length_eq_zero (by omega)
  | succ fuel ih =>
    intro s h hle
    rw [propagate]
    split
    · assumption
    · rename_i phi rest hw
      have hq := h.worklist phi (by rw [hw]; exact List.mem_cons_self)
      have hrest : Sound g₀ (fun _ => True) { s with worklist := rest } :=
        ⟨h.liveOnly, h.live, fun q hq' => h.worklist q (by rw [hw]; exact List.mem_cons_of_mem _ hq')⟩
      have hin : ∀ x ∈ (s.graph.instr phi).inputs, x ∈ (g₀.instr phi).inputs := fun x hx => by
        rwa [← h.liveOnly.inputs]
      apply ih _ (propagateInputs_sound hwf (fun _ _ _ => trivial) hq.1 hq.2 _ _ hin hrest)
      have hm := propagateInputs_measure hwf hq.2 _ _ hin hrest
      rw [hw, List.length_cons] at hle
      simp only [deadCount] at hm hle ⊢
      omega

/-- The worklist loop of `Run` ends with an empty worklist: the fuel `Run` gives it is enough. -/
theorem propagate_drains {g : SsaGraph} (hwf : g.WellFormed) :
    (propagate ((mark ⟨g, []⟩).worklist.length + g.allPhis.length) (mark ⟨g, []⟩)).worklist = [] := by
  have hs : Sound g (fun _ => True) (mark ⟨g, []⟩) :=
    mark_sound (fun _ _ => trivial) (Sound.init fun _ _ => trivial)
  apply propagate_drains_of_le hwf _ _ hs
  have := List.countP_le_length (p := fun p => !((mark ⟨g, []⟩).graph.instr p).isLive)
    (l := g.allPhis)
  simp only [deadCount]
  omega

/-! ## What the pass keeps is needed -/

/-- The removal loop over the blocks `B`: it changes the phis of its blocks only, and leaves only
live phis in them. -/
theorem foldl_removeBlock {g : SsaGraph} (R : List Nat) :
    ∀ (B : List Nat) (g' : SsaGraph), g'.graph = g.graph →
      (∀ i, (g'.instr i).isLive = (g.instr i).isLive) → (∀ b ∈ R, (g'.phis b).Nodup) →
      (∀ c, c ∉ B → (B.foldl SsaGraph.removeBlock g').phis c = g'.phis c) ∧
      (∀ c ∈ B, c ∈ R → ∀ x ∈ (B.foldl SsaGraph.removeBlock g').phis c, (g.instr x).isLive = true) := by
  intro B
  induction B with
  | nil => intro g' _ _ _; exact ⟨fun _ _ => rfl, fun _ hc => by simp at hc⟩
  | cons c B ih =>
    intro g' hg hl hn
    obtain ⟨hg', hphis', hl'⟩ := SsaGraph.removeBlock_frame (g := g') c
    have hn' : ∀ b ∈ R, ((g'.removeBlock c).phis b).Nodup := by
      intro b hb
      by_cases hbc : b = c
      · subst hbc
        rw [SsaGraph.removeBlock_phis (hn b hb)]
        exact (hn b hb).filter _
      · rw [hphis' b hbc]; exact hn b hb
    obtain ⟨ihf, ihl⟩ := ih (g'.removeBlock c) (hg'.trans hg) (fun i => (hl' i).trans (hl i)) hn'
    refine ⟨fun d hd => ?_, fun d hd hdr x hx => ?_⟩
    · rw [List.foldl_cons, ihf d (fun h => hd (List.mem_cons_of_mem _ h)),
        hphis' d (fun h => hd (h ▸ List.mem_cons_self))]
    · rw [List.foldl_cons] at hx
      by_cases hdB : d ∈ B
      · exact ihl d hdB hdr x hx
      · have hdc : d = c := by simpa [hdB] using hd
        subst hdc
        rw [ihf d hdB, SsaGraph.removeBlock_phis (hn d hdr), List.mem_filter] at hx
        rw [← hl x]
        exact hx.2

/-- The last loop keeps only live phis in the blocks of the reverse post order. -/
theorem removeDeadPhis_live {g : SsaGraph} (hnd : ∀ b ∈ g.graph.reversePostOrder, (g.phis b).Nodup)
    {b p : Nat} (hb : b ∈ g.graph.reversePostOrder) (hp : p ∈ (removeDeadPhis g).phis b) :
    (g.instr p).isLive = true :=
  (foldl_removeBlock g.graph.reversePostOrder _ g rfl (fun _ => rfl) hnd).2 b
    (List.mem_reverse.mpr hb) hb p hp

/-- Every phi that `Run` keeps in a block of the reverse post order is needed. -/
theorem run_keeps_used {g : SsaGraph} (hwf : g.WellFormed) (hdead : ∀ i, (g.instr i).isLive = false)
    {b p : Nat} (hb : b ∈ g.graph.reversePostOrder) (hp : p ∈ (run g).phis b) : g.Used p := by
  unfold run at hp
  dsimp only at hp
  have hs := propagate_sound hwf (fun hq hp hu => SsaGraph.Used.phiInput hq hp hu)
    ((mark ⟨g, []⟩).worklist.length + g.allPhis.length) _
    (mark_sound (fun hu hphi => SsaGraph.Used.user hu hphi) (Sound.init fun i hi => by simp [hdead i] at hi))
  apply hs.live
  refine removeDeadPhis_live (fun b hb => ?_) (by rw [hs.liveOnly.graph]; exact hb) hp
  rw [hs.liveOnly.phis]
  exact hwf.nodup b (by rwa [hs.liveOnly.graph] at hb)

/-- The value `x` of `x = c ? 1 : 2` is the phi 2 at the join block 4, and its use list is
`[(4, 0), (3, 0)]`: the loop-header phi 3 of a loop on one arm of a later `if` used it first,
and the invoke 4 on the other arm used it last.  The use loop sets phi 2 live at the invoke and
dead at phi 3, and the worklist loop only reaches its inputs, so `Run` removes phi 2 while the
invoke still reads it. -/
theorem run_removes_used_phi :
    let g : SsaGraph :=
      { graph := { HGraph.empty with reversePostOrder := [0, 1, 2, 3, 4, 5, 6, 7, 8] }
        phis := fun b => if b = 4 then [2] else if b = 6 then [3] else []
        instr := fun
          | 0 => ⟨false, [], [(2, 0)], [], false⟩
          | 1 => ⟨false, [], [(2, 1)], [], false⟩
          | 2 => ⟨true, [0, 1], [(4, 0), (3, 0)], [], false⟩
          | 3 => ⟨true, [2, 3], [(3, 1)], [], false⟩
          | 4 => ⟨false, [2], [], [], false⟩
          | _ => ⟨false, [], [], [], false⟩ }
    g.WellFormed ∧ 2 ∈ g.phis 4 ∧ g.Used 2 ∧ 2 ∉ (run g).phis 4 ∧ 2 ∈ ((run g).instr 4).inputs := by
  intro g
  refine ⟨⟨by decide, by decide, by decide⟩, by decide, ?_, by decide, by decide⟩
  exact SsaGraph.Used.user (u := 4) (i := 0) (by decide) (by decide)

end SsaDeadPhiElimination

end Art
