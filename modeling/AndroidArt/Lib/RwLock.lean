import Mathlib.Data.List.Nodup

/-!
# Readers-writer locks

The abstract readers-writer lock: at most one writer, or any number of threads holding a share.
`shares` lists the threads holding one, a thread once for each share it holds.

A share is taken only while no writer holds the lock (`sharedLock` is `none`, the caller
blocks, otherwise), and the lock is taken exclusively only while it is free.  So a valid lock
(`Valid`) never has a writer and a share at once: `Valid.not_mem_shares` is the exclusion
property that the lock exists for.
-/

set_option autoImplicit false

/-- A readers-writer lock: the thread holding it exclusively, if any, and the shares held. -/
structure RwLock (τ : Type) where
  writer : Option τ
  shares : List τ
  deriving DecidableEq, Repr

namespace RwLock

variable {τ : Type}

/-- The lock that no thread holds. -/
def free : RwLock τ := ⟨none, []⟩

/-- `t` takes a share; blocked (`none`) while a writer holds the lock. -/
def sharedLock (t : τ) (l : RwLock τ) : Option (RwLock τ) :=
  if l.writer = none then some { l with shares := t :: l.shares } else none

/-- `t` gives back one of its shares. -/
def sharedUnlock [DecidableEq τ] (t : τ) (l : RwLock τ) : RwLock τ :=
  { l with shares := l.shares.erase t }

/-- `t` takes the lock exclusively; blocked (`none`) while any thread holds it. -/
def exclusiveLock (t : τ) (l : RwLock τ) : Option (RwLock τ) :=
  if l.writer = none ∧ l.shares = [] then some { l with writer := some t } else none

/-- The writer gives the lock back. -/
def exclusiveUnlock (l : RwLock τ) : RwLock τ := { l with writer := none }

/-- No share is held while a writer holds the lock. -/
def Valid (l : RwLock τ) : Prop := l.writer ≠ none → l.shares = []

theorem valid_free : Valid (free : RwLock τ) := fun _ => rfl

section Ops

variable {t : τ} {l l' : RwLock τ}

theorem sharedLock_eq_some (h : l.sharedLock t = some l') :
    l.writer = none ∧ l' = { l with shares := t :: l.shares } := by
  unfold sharedLock at h
  split at h
  · exact ⟨‹_›, (Option.some.inj h).symm⟩
  · cases h

theorem exclusiveLock_eq_some (h : l.exclusiveLock t = some l') :
    l.writer = none ∧ l.shares = [] ∧ l' = { l with writer := some t } := by
  unfold exclusiveLock at h
  split at h
  · rename_i hfree
    exact ⟨hfree.1, hfree.2, (Option.some.inj h).symm⟩
  · cases h

@[simp] theorem sharedUnlock_writer [DecidableEq τ] : (l.sharedUnlock t).writer = l.writer := rfl

@[simp] theorem sharedUnlock_shares [DecidableEq τ] :
    (l.sharedUnlock t).shares = l.shares.erase t := rfl

@[simp] theorem exclusiveUnlock_writer : l.exclusiveUnlock.writer = none := rfl

@[simp] theorem exclusiveUnlock_shares : l.exclusiveUnlock.shares = l.shares := rfl

theorem Valid.sharedLock (h : l.sharedLock t = some l') : Valid l' := by
  obtain ⟨hw, rfl⟩ := sharedLock_eq_some h
  intro hw'
  exact absurd hw hw'

theorem Valid.sharedUnlock [DecidableEq τ] (hv : Valid l) : Valid (l.sharedUnlock t) := by
  intro hw
  rw [sharedUnlock_shares, hv hw, List.erase_nil]

theorem Valid.exclusiveLock (h : l.exclusiveLock t = some l') : Valid l' := by
  obtain ⟨-, hshares, rfl⟩ := exclusiveLock_eq_some h
  exact fun _ => hshares

theorem Valid.exclusiveUnlock : Valid l.exclusiveUnlock := fun hw => absurd rfl hw

/-- **Exclusion.**  While a thread holds a valid lock exclusively, no thread holds a share. -/
theorem Valid.not_mem_shares (hv : Valid l) {w : τ} (hw : l.writer = some w) (u : τ) :
    u ∉ l.shares := by
  rw [hv (by simp [hw])]
  exact List.not_mem_nil

end Ops

end RwLock
