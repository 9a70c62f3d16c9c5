import Mathlib.Data.List.Basic

/-!
# Undo logs that keep the first saved value of each key

A memory `m : κ → α` is written key by key; before each write, the value about to be overwritten
is saved in the log, converted to a type `β`, unless the key already has a saved value.  Undoing
writes each saved value back, converted back to `α`.

* `record` — save a value for a key that has none.
* `restore` — write back every saved value, in the order of the log.
* `Saved` — the invariant of a run: the log names each key once, what it saved for a key is
  related by `R` to the key's value before the run, and a key it does not name still has that
  value.  `Saved.write` is its step lemma.
* `Saved.restore_apply` — what undoing gives at each key: the converted saved value, or the value
  before the run.
-/

set_option autoImplicit false

namespace UndoLog

variable {κ α β : Type*} [BEq κ]

/-- Saves `v` for `k`, unless `k` already has a saved value. -/
def record (l : List (κ × β)) (k : κ) (v : β) : List (κ × β) :=
  if (l.lookup k).isSome then l else l ++ [(k, v)]

/-- Writes back each saved value, converted by `conv`. -/
def restore [DecidableEq κ] (conv : κ → β → α) (l : List (κ × β)) (m : κ → α) : κ → α :=
  l.foldl (fun m p => Function.update m p.1 (conv p.1 p.2)) m

theorem record_of_lookup_eq_some {l : List (κ × β)} {k : κ} {b : β} (h : l.lookup k = some b)
    (v : β) : record l k v = l := by
  simp [record, h]

theorem record_of_lookup_eq_none {l : List (κ × β)} {k : κ} (h : l.lookup k = none) (v : β) :
    record l k v = l ++ [(k, v)] := by
  simp [record, h]

variable [LawfulBEq κ]

@[simp] theorem lookup_cons_self (l : List (κ × β)) (k : κ) (b : β) :
    ((k, b) :: l).lookup k = some b := by
  simp

theorem lookup_cons_of_ne (l : List (κ × β)) {k k' : κ} (b : β) (h : k ≠ k') :
    ((k', b) :: l).lookup k = l.lookup k := by
  simp [List.lookup_cons, beq_false_of_ne h]

theorem lookup_eq_none_iff_not_mem {l : List (κ × β)} {k : κ} :
    l.lookup k = none ↔ k ∉ l.map Prod.fst := by
  rw [List.lookup_eq_none_iff]
  constructor
  · intro h hk
    obtain ⟨p, hp, rfl⟩ := List.mem_map.mp hk
    simpa using h p hp
  · intro h p hp
    have hne : k ≠ p.1 := fun he => h (he ▸ List.mem_map_of_mem hp)
    simpa using hne

/-- Undoing a log that names each key once writes each key's saved value. -/
theorem restore_apply [DecidableEq κ] (conv : κ → β → α) {l : List (κ × β)} (hnd : (l.map Prod.fst).Nodup)
    (m : κ → α) (k : κ) : restore conv l m k = (l.lookup k).elim (m k) (conv k) := by
  induction l generalizing m with
  | nil => rfl
  | cons p l ih =>
    obtain ⟨k', b⟩ := p
    rw [List.map_cons, List.nodup_cons] at hnd
    simp only [restore, List.foldl_cons] at ih ⊢
    rw [ih hnd.2]
    by_cases hk : k = k'
    · subst hk
      rw [lookup_eq_none_iff_not_mem.mpr hnd.1, lookup_cons_self]
      simp
    · rw [lookup_cons_of_ne l b hk, Function.update_of_ne hk]

/-- A lookup in the entries whose keys pass a test. -/
theorem lookup_filter_key (p : κ → Bool) (l : List (κ × β)) (k : κ) :
    (l.filter fun e => p e.1).lookup k = if p k then l.lookup k else none := by
  induction l with
  | nil => simp
  | cons e l ih =>
    obtain ⟨k', b⟩ := e
    by_cases hk : k = k'
    · subst hk
      cases hp : p k <;> simp [hp, ih]
    · cases hp : p k' <;> simp [hp, ih, lookup_cons_of_ne _ _ hk]

omit [BEq κ] [LawfulBEq κ] in
theorem nodup_filter_key (p : κ → Bool) {l : List (κ × β)} (hnd : (l.map Prod.fst).Nodup) :
    ((l.filter fun e => p e.1).map Prod.fst).Nodup :=
  (List.filter_sublist.map Prod.fst).nodup hnd

section Saved

variable (R : κ → α → β → Prop) (m₀ : κ → α)

/-- The log `l` of a run from `m₀` to `m`: each key once, the value saved for a key related by
`R` to its value in `m₀`, and each key it does not name unchanged. -/
structure Saved (m : κ → α) (l : List (κ × β)) : Prop where
  nodup : (l.map Prod.fst).Nodup
  saved : ∀ k b, l.lookup k = some b → R k (m₀ k) b
  unchanged : ∀ k, l.lookup k = none → m k = m₀ k

omit [LawfulBEq κ] in
theorem saved_nil : Saved R m₀ m₀ [] :=
  ⟨List.nodup_nil, fun _ _ h => by simp at h, fun _ _ => rfl⟩

variable {R m₀}

/-- The step lemma: a write to `k` that first saves the old value of `k`. -/
theorem Saved.write [DecidableEq κ] {m : κ → α} {l : List (κ × β)} (hs : Saved R m₀ m l) {k : κ} {b : β}
    (hb : R k (m k) b) (a : α) : Saved R m₀ (Function.update m k a) (record l k b) := by
  cases hk : l.lookup k with
  | some b' =>
    rw [record_of_lookup_eq_some hk]
    refine ⟨hs.nodup, hs.saved, fun k' hk' => ?_⟩
    have hne : k' ≠ k := by rintro rfl; rw [hk] at hk'; cases hk'
    rw [Function.update_of_ne hne]
    exact hs.unchanged k' hk'
  | none =>
    rw [record_of_lookup_eq_none hk]
    refine ⟨?_, fun k' b' hk' => ?_, fun k' hk' => ?_⟩
    · rw [List.map_append, List.nodup_append]
      refine ⟨hs.nodup, by simp, fun a ha c hc => ?_⟩
      rw [List.map_singleton, List.mem_singleton] at hc
      rintro rfl
      have hak : a = k := hc
      exact lookup_eq_none_iff_not_mem.mp hk (hak ▸ ha)
    · rw [List.lookup_append] at hk'
      by_cases hkk : k' = k
      · subst hkk
        rw [hk, Option.none_or, lookup_cons_self, Option.some.injEq] at hk'
        rw [← hk', ← hs.unchanged k' hk]
        exact hb
      · rw [lookup_cons_of_ne _ _ hkk, List.lookup_nil, Option.or_none] at hk'
        exact hs.saved k' b' hk'
    · rw [List.lookup_append, Option.or_eq_none_iff] at hk'
      have hne : k' ≠ k := by rintro rfl; rw [lookup_cons_self] at hk'; cases hk'.2
      rw [Function.update_of_ne hne]
      exact hs.unchanged k' hk'.1

/-- Undoing the log of a run: at a key the log names, the saved value converted back; at any
other key, the value before the run. -/
theorem Saved.restore_apply [DecidableEq κ] {m : κ → α} {l : List (κ × β)} (hs : Saved R m₀ m l)
    (conv : κ → β → α) (k : κ) :
    (∃ b, l.lookup k = some b ∧ R k (m₀ k) b ∧ restore conv l m k = conv k b) ∨
      (l.lookup k = none ∧ restore conv l m k = m₀ k) := by
  rw [UndoLog.restore_apply conv hs.nodup]
  cases hk : l.lookup k with
  | some b => exact Or.inl ⟨b, rfl, hs.saved k b hk, rfl⟩
  | none => exact Or.inr ⟨rfl, hs.unchanged k hk⟩

end Saved

end UndoLog
