import Mathlib.Order.Basic

/-!
# Programs in `StateT σ (Except ε)` and `ExceptT ε (StateM σ)`

Simp lemmas for running a program of `StateT σ (Except ε)`, whose successful runs end in
`Except.ok (value, state)`.  Core states the monad laws for `pure`; these rewrite `pure` to
`Except.ok`, the form the statements about such programs take, and run `bind` and `Except.map`
on it; `run_bind_eq_ok` takes a successful run of a `bind` apart, and `run_check_eq_ok` and
`run_guard_eq_ok` one of a call whose answer can end the program early.

A program of `ExceptT ε (StateM σ)` keeps its state when it fails; its successful runs end in
`(Except.ok value, state)`, and `bind_run_eq_ok` takes such a run of a `bind` apart.
-/

set_option autoImplicit false

namespace StateExcept

variable {ε α β : Type}

@[simp] theorem pure_eq_ok (a : α) : (pure a : Except ε α) = .ok a := rfl

@[simp] theorem ok_bind (a : α) (f : α → Except ε β) : (Except.ok a >>= f) = f a := rfl

@[simp] theorem map_ok (f : α → β) (a : α) : Except.map f (.ok a : Except ε α) = .ok (f a) := rfl

/-- A successful `bind` is a successful first program and a successful continuation. -/
theorem bind_eq_ok {x : Except ε α} {f : α → Except ε β} {b : β} :
    (x >>= f) = .ok b ↔ ∃ a, x = .ok a ∧ f a = .ok b := by
  cases x with
  | error e =>
    constructor
    · intro h
      cases h
    · rintro ⟨a, h, -⟩
      cases h
  | ok a => simp

/-- A successful run of a `bind` in `StateT σ (Except ε)` is a successful run of the first
program and a successful run of the continuation from the state it leaves. -/
theorem run_bind_eq_ok {σ : Type} {x : StateT σ (Except ε) α} {f : α → StateT σ (Except ε) β}
    {s s' : σ} {b : β} :
    (x >>= f).run s = .ok (b, s') ↔ ∃ a s₁, x.run s = .ok (a, s₁) ∧ (f a).run s₁ = .ok (b, s') := by
  rw [StateT.run_bind, bind_eq_ok]
  constructor
  · rintro ⟨⟨a, s₁⟩, hx, hf⟩
    exact ⟨a, s₁, hx, hf⟩
  · rintro ⟨a, s₁, hx, hf⟩
    exact ⟨(a, s₁), hx, hf⟩

/-- A run of `get` answers the state and keeps it. -/
theorem run_get_eq_ok {σ : Type} {a s s₁ : σ} :
    (get : StateT σ (Except ε) σ).run s = .ok (a, s₁) ↔ s = a ∧ s = s₁ := by
  simp only [StateT.run_get, pure_eq_ok, Except.ok.injEq, Prod.mk.injEq]

/-- A state update made only when `c` holds, and then the rest: a run of it is a run of the rest
from the updated state or from the same one. -/
theorem run_ite_modify_eq_ok {σ : Type} {c : Prop} [Decidable c] {f : σ → σ}
    {k : StateT σ (Except ε) α} {s : σ} {r : α × σ}
    (h : (if c then (modify f >>= fun _ => k) else k).run s = .ok r) :
    ∃ t, (t = f s ∨ t = s) ∧ k.run t = .ok r := by
  split_ifs at h
  · exact ⟨f s, .inl rfl, by simpa using h⟩
  · exact ⟨s, .inr rfl, h⟩

/-- A call whose answer `a` ends the program with `r₀` unless `p a` holds: a run that returns
another value ran the call to an answer with `p`, and then the rest. -/
theorem run_check_eq_ok {σ : Type} {x : StateT σ (Except ε) β} {p : β → Bool}
    {k : β → StateT σ (Except ε) α} {r₀ r : α} {s s' : σ} (hr : r ≠ r₀)
    (h : (x >>= fun a => if (!p a) = true then pure r₀ else k a).run s = .ok (r, s')) :
    ∃ a s₁, x.run s = .ok (a, s₁) ∧ p a = true ∧ (k a).run s₁ = .ok (r, s') := by
  obtain ⟨a, s₁, hx, hk⟩ := run_bind_eq_ok.mp h
  cases hp : p a with
  | false =>
    simp only [hp, Bool.not_false, ↓reduceIte, StateT.run_pure, pure_eq_ok, Except.ok.injEq,
      Prod.mk.injEq] at hk
    exact absurd hk.1.symm hr
  | true => exact ⟨a, s₁, hx, hp, by simpa [hp] using hk⟩

/-- The same call made only when `c` holds: when it is not made, the rest runs from the same
state. -/
theorem run_guard_eq_ok {σ : Type} {c : Bool} {x : StateT σ (Except ε) Bool}
    {k : StateT σ (Except ε) α} {r₀ r : α} {s s' : σ} (hr : r ≠ r₀)
    (h : (if c = true then (x >>= fun b => if (!b) = true then pure r₀ else k) else k).run s =
      .ok (r, s')) :
    ∃ s₁, (if c = true then x.run s = .ok (true, s₁) else s₁ = s) ∧ k.run s₁ = .ok (r, s') := by
  cases c with
  | false => exact ⟨s, rfl, by simpa using h⟩
  | true =>
    rw [if_pos rfl] at h
    obtain ⟨b, s₁, hx, hb, hk⟩ := run_check_eq_ok (p := id) hr h
    cases hb
    exact ⟨s₁, hx, hk⟩

/-- A run whose value is known succeeds with some final state. -/
theorem exists_of_map_fst {σ : Type} {x : Except ε (α × σ)} {a : α} (h : x.map Prod.fst = .ok a) :
    ∃ s, x = .ok (a, s) := by
  cases x with
  | error e => cases h
  | ok r =>
    obtain ⟨b, s⟩ := r
    cases h
    exact ⟨s, rfl⟩

/-- A run of `pure` succeeds with its value and keeps the state. -/
theorem pure_run_eq_ok {σ : Type} {a b : α} {s s' : σ} :
    ((pure a : ExceptT ε (StateM σ) α).run s).run = (.ok b, s') ↔ a = b ∧ s = s' := by
  change ((Except.ok a, s) = (Except.ok b, s')) ↔ _
  simp

/-- A run of `throw` does not succeed. -/
theorem throw_run_ne_ok {σ : Type} {e : ε} {b : α} {s s' : σ} :
    ((throw e : ExceptT ε (StateM σ) α).run s).run ≠ (.ok b, s') := by
  change ((Except.error e, s) ≠ (Except.ok b, s'))
  simp

/-- A successful run of a `bind` in `ExceptT ε (StateM σ)` is a successful run of the first
program and a successful run of the continuation from the state it leaves. -/
theorem bind_run_eq_ok {σ : Type} {x : ExceptT ε (StateM σ) α} {f : α → ExceptT ε (StateM σ) β}
    {s s' : σ} {b : β} :
    ((x >>= f).run s).run = (.ok b, s') ↔
      ∃ a s₁, (x.run s).run = (.ok a, s₁) ∧ ((f a).run s₁).run = (.ok b, s') := by
  change (StateT.run (x >>= f).run s).run = _ ↔
    ∃ a s₁, (StateT.run x.run s).run = _ ∧ (StateT.run (f a).run s₁).run = _
  simp only [ExceptT.run_bind, StateT.run_bind]
  rcases h : (StateT.run x.run s).run with ⟨_ | a, s₁⟩
  · simp [h]
  · simp only [h, Id.run_bind, Prod.mk.injEq, Except.ok.injEq]
    exact ⟨fun h' => ⟨a, s₁, ⟨rfl, rfl⟩, h'⟩, fun ⟨_, _, ⟨ha, hs⟩, h'⟩ => ha ▸ hs ▸ h'⟩

end StateExcept
