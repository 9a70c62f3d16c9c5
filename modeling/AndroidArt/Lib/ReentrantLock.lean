import AndroidArt.Lib.Simulation

/-!
# Reentrant locks

The specification of a reentrant lock over threads of type `τ`: the lock is free, or held by one
owner `depth` times over.  `acquire t` takes a free lock at depth one or deepens the hold of its
owner `t`; `release t` undoes one acquisition of the owner, and frees the lock at the last one.
The operations are partial: `acquire` is `none` when another thread holds the lock (the caller
waits), `release` when the caller does not hold it.

`exec` is the lock as an abstract machine of `AndroidArt.Lib.Simulation`; `execAll_nested` is
its nesting law: `n` acquisitions of a free lock by one thread, followed by `n` releases, leave
the lock free.
-/

set_option autoImplicit false

namespace ReentrantLock

/-- The owner and the depth of the lock, or `none` when the lock is free. -/
abbrev State (τ : Type*) := Option (τ × Nat)

/-- An operation of a thread on the lock. -/
inductive Op (τ : Type*) where
  | acquire (t : τ)
  | release (t : τ)
  deriving DecidableEq, Repr

variable {τ : Type*} [DecidableEq τ]

/-- Take the lock, or take it once more. -/
def acquire (t : τ) : State τ → Option (State τ)
  | none => some (some (t, 1))
  | some (o, d) => if o = t then some (some (o, d + 1)) else none

/-- Give up one acquisition; the last one frees the lock. -/
def release (t : τ) : State τ → Option (State τ)
  | none => none
  | some (o, d) => if o = t then some (if d ≤ 1 then none else some (o, d - 1)) else none

/-- One operation. -/
def exec : Op τ → State τ → Option (State τ)
  | .acquire t => acquire t
  | .release t => release t

@[simp] theorem acquire_none (t : τ) : acquire t none = some (some (t, 1)) := rfl

@[simp] theorem acquire_owner (t : τ) (d : Nat) : acquire t (some (t, d)) = some (some (t, d + 1)) := by
  simp [acquire]

@[simp] theorem release_none (t : τ) : release t none = none := rfl

theorem release_other {t o : τ} (d : Nat) (h : o ≠ t) : release t (some (o, d)) = none := by
  simp [release, h]

@[simp] theorem release_owner (t : τ) (d : Nat) :
    release t (some (t, d)) = some (if d ≤ 1 then none else some (t, d - 1)) := by
  simp [release]

open Simulation

/-- `n` acquisitions by `t` take a lock held by `t` at depth `d`, or a free one, to depth `d + n`. -/
theorem execAll_acquire_replicate (t : τ) (n : Nat) :
    ∀ d, execAll exec (List.replicate n (.acquire t)) (some (t, d)) = some (some (t, d + n)) := by
  induction n with
  | zero => intro d; rfl
  | succ n ih =>
    intro d
    rw [List.replicate_succ, execAll_cons]
    simp only [exec, acquire_owner, Option.bind_some]
    rw [ih (d + 1), Nat.add_right_comm, Nat.add_assoc]

/-- `n` releases by `t` take its hold at depth `d + n` down to depth `d`, for `d ≥ 1`. -/
theorem execAll_release_replicate (t : τ) (n : Nat) :
    ∀ d, 0 < d → execAll exec (List.replicate n (.release t)) (some (t, d + n)) = some (some (t, d)) := by
  induction n with
  | zero => intro d _; rfl
  | succ n ih =>
    intro d hd
    rw [List.replicate_succ, execAll_cons]
    simp only [exec, release_owner, Option.bind_some]
    rw [if_neg (by omega), show d + (n + 1) - 1 = d + n by omega]
    exact ih d hd

/-- **Nesting.**  `n` acquisitions of a free lock by one thread, then as many releases, leave the
lock free. -/
theorem execAll_nested (t : τ) (n : Nat) :
    execAll exec (List.replicate (n + 1) (.acquire t) ++ List.replicate (n + 1) (.release t)) none =
      some none := by
  rw [execAll_append, List.replicate_succ, execAll_cons]
  simp only [exec, acquire_none, Option.bind_some]
  rw [execAll_acquire_replicate, Option.bind_some, List.replicate_succ', execAll_append,
    execAll_release_replicate t n 1 Nat.one_pos, Option.bind_some]
  simp [execAll_cons, exec]

end ReentrantLock
