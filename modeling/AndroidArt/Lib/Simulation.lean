import Mathlib.Order.Basic

/-!
# Runs of a step function, and their simulation by an abstract machine

A system is a step function `step : ε → σ → ω × σ`: an event applied to a state gives an outcome
and the next state.  `run` applies a list of events; `RunOk ok` says that each event of the list
is allowed (`ok`) in the state it is applied to; `Reach ok s₀` is the set of states that runs of
allowed events reach from `s₀`.  A system whose events may be disabled is a partial step function
`next : ε → σ → Option σ`, with its reachable states `Reachable next s₀`, their invariant rule,
and the rules `Reachable.trans` and `Reachable.of_foldlM` that build a run from its parts.

The abstract machine is a partial function `exec : β → α → Option α` on abstract states, and
`label` says which abstract operation, if any, an event with its outcome performs.  `trace`
collects the operations of a run.

`run_simulates` is the run lemma: when every allowed step from a state of an invariant keeps
the invariant, has an outcome of `Q`, and performs its labelled operation on the abstraction (or,
unlabelled, leaves the abstraction alone), then every allowed run from a state of the invariant
ends in the invariant with outcomes of `Q`, and the abstract machine, run on the trace, computes
the abstraction of the final state.

A loop of partial steps over a list is a `List.foldlM` in `Option`: `foldlM_invariant` is its
invariant rule, `foldlM_some` the rule for a loop whose every step succeeds and adds to what the
loop has found, `foldlM_eq_some_foldl` the rule for a loop whose steps, where they succeed, are
total steps, and `mapM_eq_some` the rule for a `mapM` whose every call succeeds.
-/

set_option autoImplicit false

namespace Simulation

variable {σ ε ω α β : Type*} (step : ε → σ → ω × σ)

/-- The outcomes of the events of a run, and the state it ends in. -/
def run : List ε → σ → List ω × σ
  | [], s => ([], s)
  | e :: es, s =>
    let r := run es (step e s).2
    ((step e s).1 :: r.1, r.2)

/-- Every event of the run is allowed in the state it is applied to. -/
def RunOk (ok : ε → σ → Prop) : List ε → σ → Prop
  | [], _ => True
  | e :: es, s => ok e s ∧ RunOk ok es (step e s).2

/-- The states that runs of allowed events reach from `s₀`. -/
inductive Reach (ok : ε → σ → Prop) (s₀ : σ) : σ → Prop
  | init : Reach ok s₀ s₀
  | step {s : σ} {e : ε} : Reach ok s₀ s → ok e s → Reach ok s₀ (step e s).2

/-- The states that enabled steps of a partial step function reach from `s₀`.  An event with no
next state is not enabled: a blocked lock acquisition, or a call made without its precondition. -/
inductive Reachable (next : ε → σ → Option σ) (s₀ : σ) : σ → Prop
  | init : Reachable next s₀ s₀
  | step {s s' : σ} (e : ε) : Reachable next s₀ s → next e s = some s' → Reachable next s₀ s'

/-- **The invariant rule.**  What holds of `s₀` and is kept by every enabled step holds in every
reachable state. -/
theorem Reachable.invariant {next : ε → σ → Option σ} {s₀ : σ} {inv : σ → Prop} (h₀ : inv s₀)
    (hstep : ∀ e s s', inv s → next e s = some s' → inv s') {s : σ}
    (hs : Reachable next s₀ s) : inv s := by
  induction hs with
  | init => exact h₀
  | step e _ hnext ih => exact hstep e _ _ ih hnext

/-- Runs compose: a state reachable from one that is reachable from `s₀` is reachable from
`s₀`. -/
theorem Reachable.trans {next : ε → σ → Option σ} {s₀ s₁ s₂ : σ} (h₁ : Reachable next s₀ s₁)
    (h₂ : Reachable next s₁ s₂) : Reachable next s₀ s₂ := by
  induction h₂ with
  | init => exact h₁
  | step e _ hnext ih => exact .step e ih hnext

/-- A list of events each enabled in the state the ones before it reach is a run: the rule that
turns a computed sequence of steps into reachability. -/
theorem Reachable.of_foldlM {next : ε → σ → Option σ} (es : List ε) {s s' : σ}
    (h : es.foldlM (fun s e => next e s) s = some s') : Reachable next s s' := by
  induction es generalizing s with
  | nil =>
    simp only [List.foldlM_nil, Option.pure_def, Option.some.injEq] at h
    subst h
    exact .init
  | cons e es ih =>
    simp only [List.foldlM_cons, Option.bind_eq_bind] at h
    obtain ⟨s₁, h₁, h₂⟩ := Option.bind_eq_some_iff.mp h
    exact (Reachable.step e .init h₁).trans (ih h₂)

/-- The abstract operations that the events of a run perform, given their outcomes. -/
def trace (label : ε → ω → Option β) : List ε → List ω → List β
  | e :: es, o :: os => (label e o).toList ++ trace label es os
  | _, _ => []

/-- The abstract machine run on a list of operations. -/
def execAll (exec : β → α → Option α) (ops : List β) (a : α) : Option α :=
  ops.foldlM (fun a op => exec op a) a

/-- A step from abstract state `a` to `a'` performs the operation `l`, or, with no operation,
leaves the abstract state alone. -/
def Performs (exec : β → α → Option α) : Option β → α → α → Prop
  | none, a, a' => a' = a
  | some l, a, a' => exec l a = some a'

section Spec

variable (abs : σ → α) (exec : β → α → Option α) (label : ε → ω → Option β) (inv : σ → Prop)
  (Q : ω → Prop)

/-- What one step of `e` from `s` guarantees: the invariant after it, an outcome of `Q`, and
the abstract operation of its label. -/
structure StepSpec (e : ε) (s : σ) : Prop where
  inv : inv (step e s).2
  outcome : Q (step e s).1
  performs : Performs exec (label e (step e s).1) (abs s) (abs (step e s).2)

@[simp] theorem run_nil (s : σ) : run step [] s = ([], s) := rfl

@[simp] theorem run_cons (e : ε) (es : List ε) (s : σ) :
    run step (e :: es) s = ((step e s).1 :: (run step es (step e s).2).1, (run step es (step e s).2).2) :=
  rfl

@[simp] theorem execAll_nil (a : α) : execAll exec [] a = some a := rfl

theorem execAll_cons (op : β) (ops : List β) (a : α) :
    execAll exec (op :: ops) a = (exec op a).bind (execAll exec ops) := by
  simp only [execAll, List.foldlM_cons]
  rfl

theorem execAll_append (ops ops' : List β) (a : α) :
    execAll exec (ops ++ ops') a = (execAll exec ops a).bind (execAll exec ops') := by
  simp only [execAll, List.foldlM_append]
  rfl

/-- After a step that performs `l` from `a` to `a'`, the rest of the operations run from `a'`. -/
theorem execAll_performs {l : Option β} {a a' : α} (h : Performs exec l a a') (ops : List β) :
    execAll exec (l.toList ++ ops) a = execAll exec ops a' := by
  cases l with
  | none => subst h; rfl
  | some l =>
    rw [Option.toList_some, List.singleton_append, execAll_cons, show exec l a = some a' from h]
    rfl

/-- **The run lemma.**  By induction on the run, from the step lemma `h`. -/
theorem run_simulates {ok : ε → σ → Prop}
    (h : ∀ e s, inv s → ok e s → StepSpec step abs exec label inv Q e s) :
    ∀ (es : List ε) (s : σ), inv s → RunOk step ok es s →
      inv (run step es s).2 ∧ (∀ o ∈ (run step es s).1, Q o) ∧
        execAll exec (trace label es (run step es s).1) (abs s) = some (abs (run step es s).2) := by
  intro es
  induction es with
  | nil => intro s hs _; exact ⟨hs, by simp, rfl⟩
  | cons e es ih =>
    intro s hs hok
    obtain ⟨hinv, hQ, hperf⟩ := h e s hs hok.1
    obtain ⟨hinv', hQ', hexec⟩ := ih _ hinv hok.2
    refine ⟨hinv', ?_, ?_⟩
    · intro o ho
      rcases List.mem_cons.mp ho with rfl | ho
      · exact hQ
      · exact hQ' o ho
    · -- the first step's operation takes `abs s` to the abstraction of the next state
      rw [run_cons]
      show execAll exec ((label e (step e s).1).toList ++ trace label es _) (abs s) = _
      rw [execAll_performs exec hperf]
      exact hexec

end Spec

section Loops

variable {γ : Type*} (f : σ → ε → Option σ)

/-- **The loop rule.**  What holds before a loop of partial steps and is kept by each step that
succeeds holds of the loop's result. -/
theorem foldlM_invariant (I : σ → Prop) (hstep : ∀ s e s', I s → f s e = some s' → I s')
    {es : List ε} {s r : σ} (hs : I s) (h : es.foldlM f s = some r) : I r := by
  induction es generalizing s with
  | nil =>
    cases h
    exact hs
  | cons e es ih =>
    rw [List.foldlM_cons] at h
    obtain ⟨s', hs', h⟩ := Option.bind_eq_some_iff.mp h
    exact ih (hstep s e s' hs hs') h

/-- **The loop rule for a loop whose steps succeed.**  When the step at each element `e` of the
list succeeds from every state of `I xs`, into one of `I (xs ++ g e)`, the loop succeeds, into a
state of `I` of all that its elements add. -/
theorem foldlM_some (g : ε → List γ) (I : List γ → σ → Prop) {es : List ε}
    (hstep : ∀ e ∈ es, ∀ xs s, I xs s → ∃ s', f s e = some s' ∧ I (xs ++ g e) s')
    {xs : List γ} {s : σ} (hs : I xs s) :
    ∃ r, es.foldlM f s = some r ∧ I (xs ++ es.flatMap g) r := by
  induction es generalizing xs s with
  | nil => exact ⟨s, rfl, by simpa using hs⟩
  | cons e es ih =>
    obtain ⟨s', hs', hI⟩ := hstep e List.mem_cons_self xs s hs
    obtain ⟨r, hr, hIr⟩ := ih (fun e he => hstep e (List.mem_cons_of_mem _ he)) hI
    refine ⟨r, ?_, ?_⟩
    · rw [List.foldlM_cons, hs']
      exact hr
    · simpa only [List.flatMap_cons, List.append_assoc] using hIr

/-- **The refinement rule for loops.**  A loop of partial steps that, where a step succeeds,
agree with the total step `g` computes, where it succeeds, the loop of `g`. -/
theorem foldlM_eq_some_foldl (g : σ → ε → σ) (hstep : ∀ s e s', f s e = some s' → s' = g s e)
    {es : List ε} {s r : σ} (h : es.foldlM f s = some r) : r = es.foldl g s := by
  induction es generalizing s with
  | nil =>
    cases h
    rfl
  | cons e es ih =>
    rw [List.foldlM_cons] at h
    obtain ⟨s', hs', h⟩ := Option.bind_eq_some_iff.mp h
    rw [List.foldl_cons, ← hstep s e s' hs']
    exact ih h

/-- A `mapM` whose every call succeeds is a `map`. -/
theorem mapM_eq_some {f : α → Option β} (g : α → β) {l : List α}
    (h : ∀ a ∈ l, f a = some (g a)) : l.mapM f = some (l.map g) := by
  induction l with
  | nil => rfl
  | cons a l ih =>
    rw [List.mapM_cons, h a List.mem_cons_self, ih fun a ha => h a (List.mem_cons_of_mem _ ha)]
    rfl

end Loops

end Simulation
