import Mathlib.Data.Finset.Card
import Mathlib.Order.Basic

/-!
# Open addressing with linear probing and tombstones

A table of `size` slots, each empty, removed (a tombstone) or holding a value.  A value `v` is
inserted at the first empty slot from its home slot `home v`, probing forward and wrapping at
`size`; a search from a home slot skips tombstones and values it does not want, and stops at the
first empty slot.  Both loops run without bound in the code they model; here they take fuel and
return `none` when it runs out.

* `add`, `findAndRemove` — the two loops.
* `Chained home` — the invariant: every slot on the probe path from a value's home slot to the
  value's own slot is non-empty.  `add_chained` and `chained_remove` preserve it.
* `findAndRemove_found`, `findAndRemove_absent` — a search from the home slot of the values it
  wants finds one of them when one is stored, and reports absence only when none is.
* `add_some`, `occupied_add`, `exists_empty_of_card_lt` — with fewer occupied slots than
  `size`, an insert ends, and it occupies one more slot.
-/

set_option autoImplicit false

namespace LinearProbe

/-- A slot of the table. -/
inductive Slot (α : Type) where
  | empty
  | removed
  | full (a : α)
  deriving DecidableEq, Repr

variable {α : Type}

/-- Whether a slot is empty. -/
def Slot.isEmpty : Slot α → Bool
  | .empty => true
  | _ => false

@[simp] theorem Slot.isEmpty_iff (s : Slot α) : s.isEmpty = true ↔ s = .empty := by
  cases s <;> simp [Slot.isEmpty]

@[simp] theorem Slot.isEmpty_removed : (Slot.removed : Slot α).isEmpty = false := rfl

@[simp] theorem Slot.isEmpty_full (a : α) : (Slot.full a).isEmpty = false := rfl

@[simp] theorem Slot.isEmpty_eq_false_iff (s : Slot α) : s.isEmpty = false ↔ s ≠ .empty := by
  cases s <;> simp [Slot.isEmpty]

/-- The slot probed after `i`: `if (++index == size) index = 0`. -/
def next (size i : Nat) : Nat := if i + 1 = size then 0 else i + 1

theorem next_eq_mod {size i : Nat} (h : i < size) : next size i = (i + 1) % size := by
  unfold next
  split
  · rename_i he
    rw [he, Nat.mod_self]
  · rw [Nat.mod_eq_of_lt (by omega)]

variable (size : Nat)

/-- The insert loop from slot `i`: the first empty slot gets `a`. -/
def add (a : α) : Nat → Nat → (Nat → Slot α) → Option (Nat → Slot α)
  | 0, _, _ => none
  | fuel + 1, i, slots =>
    match slots i with
    | .empty => some (Function.update slots i (.full a))
    | _ => add a fuel (next size i) slots

/-- The search loop from slot `i`: the first value satisfying `p` before an empty slot is
returned and its slot becomes a tombstone. -/
def findAndRemove (p : α → Bool) : Nat → Nat → (Nat → Slot α) → Option (Option α × (Nat → Slot α))
  | 0, _, _ => none
  | fuel + 1, i, slots =>
    match slots i with
    | .empty => some (none, slots)
    | .removed => findAndRemove p fuel (next size i) slots
    | .full a =>
      if p a then some (some a, Function.update slots i .removed)
      else findAndRemove p fuel (next size i) slots

/-- Every value's slot is reached from its home slot `home v % size` over non-empty slots. -/
def Chained (home : α → Nat) (slots : Nat → Slot α) : Prop :=
  ∀ j < size, ∀ v, slots j = .full v →
    ∃ d < size, (home v % size + d) % size = j ∧
      ∀ t < d, slots ((home v % size + t) % size) ≠ .empty

/-- The slots in use, full or removed. -/
def occupied (slots : Nat → Slot α) : Finset Nat :=
  (Finset.range size).filter (fun j => (slots j).isEmpty = false)

variable {size}

/-! ## The insert loop -/

/-- **An insert from `i` with an empty slot `d` steps ahead ends**, at the first empty slot of the
path, every slot before it being non-empty. -/
theorem add_some (a : α) (hpos : 0 < size) :
    ∀ (d fuel i : Nat) (slots : Nat → Slot α), d < fuel →
      slots ((i % size + d) % size) = .empty →
      ∃ d' ≤ d, slots ((i % size + d') % size) = .empty ∧
        (∀ t < d', slots ((i % size + t) % size) ≠ .empty) ∧
        add size a fuel (i % size) slots =
          some (Function.update slots ((i % size + d') % size) (.full a)) := by
  intro d
  induction d with
  | zero =>
    intro fuel i slots hfuel he
    obtain ⟨fuel, rfl⟩ : ∃ f, fuel = f + 1 := ⟨fuel - 1, by omega⟩
    have he' : slots (i % size) = .empty := by simpa [Nat.mod_mod] using he
    refine ⟨0, le_refl 0, he, fun t ht => absurd ht (Nat.not_lt_zero t), ?_⟩
    simp [add, he']
  | succ d ih =>
    intro fuel i slots hfuel he
    obtain ⟨fuel, rfl⟩ : ∃ f, fuel = f + 1 := ⟨fuel - 1, by omega⟩
    have hi : i % size % size = i % size := Nat.mod_mod i size
    cases hs : slots (i % size) with
    | empty =>
      refine ⟨0, Nat.zero_le _, by simpa [hi] using hs, fun t ht => absurd ht (Nat.not_lt_zero t), ?_⟩
      simp [add, hs, hi]
    | removed | full b =>
      have hstep : add size a (fuel + 1) (i % size) slots =
          add size a fuel (next size (i % size)) slots := by
        simp [add, hs]
      have hn : next size (i % size) = (i + 1) % size := by
        rw [next_eq_mod (Nat.mod_lt i hpos), Nat.mod_add_mod]
      have he' : slots (((i + 1) % size + d) % size) = .empty := by
        rw [Nat.mod_add_mod, show i + 1 + d = i + (d + 1) by omega, ← Nat.mod_add_mod]
        exact he
      obtain ⟨d', hd', he'', hbefore, hins⟩ := ih fuel (i + 1) slots (by omega) he'
      have hshift : ∀ t, ((i + 1) % size + t) % size = (i % size + (t + 1)) % size := by
        intro t
        rw [Nat.mod_add_mod, Nat.mod_add_mod]
        congr 1
        omega
      refine ⟨d' + 1, by omega, by rw [← hshift]; exact he'', fun t ht => ?_, ?_⟩
      · rcases t with _ | t
        · simp [hi, hs]
        · rw [← hshift]
          exact hbefore t (by omega)
      · rw [hstep, hn, hins, hshift]

/-- **An insert keeps the table chained.** -/
theorem add_chained {home : α → Nat} {slots slots' : Nat → Slot α} {a : α} {fuel : Nat}
    (hpos : 0 < size) (hc : Chained size home slots)
    (hd : ∃ d < size, slots ((home a % size + d) % size) = .empty) (hfuel : size ≤ fuel)
    (hins : add size a fuel (home a % size) slots = some slots') :
    Chained size home slots' := by
  obtain ⟨d, hds, he⟩ := hd
  obtain ⟨d', hd', he', hbefore, hins'⟩ :=
    add_some a hpos d fuel (home a) slots (by omega) he
  rw [hins', Option.some.injEq] at hins
  subst hins
  intro j hj v hv
  by_cases hjn : j = (home a % size + d') % size
  · -- the new value, reached over the slots its insert skipped
    subst hjn
    rw [Function.update_self, Slot.full.injEq] at hv
    subst hv
    refine ⟨d', by omega, rfl, fun t ht => ?_⟩
    have hne : (home a % size + t) % size ≠ (home a % size + d') % size := by
      intro heq
      exact hbefore t ht (heq ▸ he')
    rw [Function.update_of_ne hne]
    exact hbefore t ht
  · -- an old value: its path was non-empty, and the insert only filled an empty slot
    rw [Function.update_of_ne hjn] at hv
    obtain ⟨e, he_lt, hej, hpath⟩ := hc j hj v hv
    refine ⟨e, he_lt, hej, fun t ht => ?_⟩
    by_cases htn : (home v % size + t) % size = (home a % size + d') % size
    · rw [htn, Function.update_self]
      simp
    · rw [Function.update_of_ne htn]
      exact hpath t ht

/-- **An insert occupies exactly one more slot.** -/
theorem occupied_add {slots slots' : Nat → Slot α} {a : α} {fuel i : Nat} (hpos : 0 < size)
    (hins : add size a fuel (i % size) slots = some slots')
    (hd : ∃ d < fuel, slots ((i % size + d) % size) = .empty) :
    (occupied size slots').card = (occupied size slots).card + 1 := by
  obtain ⟨d, hdf, he⟩ := hd
  obtain ⟨d', -, he', -, hins'⟩ := add_some a hpos d fuel i slots hdf he
  rw [hins', Option.some.injEq] at hins
  subst hins
  set j := (i % size + d') % size with hj
  have hjlt : j < size := Nat.mod_lt _ hpos
  have hset : occupied size (Function.update slots j (.full a)) =
      Insert.insert j (occupied size slots) := by
    ext k
    by_cases hk : k = j
    · subst hk
      simp [occupied, hjlt]
    · simp [occupied, hk]
  have hnot : j ∉ occupied size slots := by simp [occupied, he']
  rw [hset, Finset.card_insert_of_notMem hnot]

/-- A table with fewer occupied slots than `size` has an empty slot on every probe path. -/
theorem exists_empty_of_card_lt {slots : Nat → Slot α} (hpos : 0 < size)
    (hcard : (occupied size slots).card < size) (i : Nat) :
    ∃ d < size, slots ((i % size + d) % size) = .empty := by
  by_contra hall
  push Not at hall
  have hsub : Finset.range size ⊆ occupied size slots := by
    intro k hk
    rw [Finset.mem_range] at hk
    have hk' : (i % size + (k + size - i % size)) % size = k := by
      have : i % size < size := Nat.mod_lt i hpos
      rw [show i % size + (k + size - i % size) = k + size by omega, Nat.add_mod_right,
        Nat.mod_eq_of_lt hk]
    have hd : (k + size - i % size) % size < size := Nat.mod_lt _ hpos
    have hne := hall ((k + size - i % size) % size) hd
    rw [Nat.add_mod_mod, hk'] at hne
    simp [occupied, hk, hne]
  have := Finset.card_le_card hsub
  rw [Finset.card_range] at this
  omega

/-! ## The search loop -/

variable (p : α → Bool)

/-- **A search that meets a wanted value before any empty slot finds a wanted value**, and turns
that value's slot into a tombstone. -/
theorem findAndRemove_found (hpos : 0 < size) :
    ∀ (d fuel i : Nat) (slots : Nat → Slot α) (v : α), d < fuel →
      slots ((i % size + d) % size) = .full v → p v = true →
      (∀ t < d, slots ((i % size + t) % size) ≠ .empty) →
      ∃ j < size, ∃ w, slots j = .full w ∧ p w = true ∧
        findAndRemove size p fuel (i % size) slots = some (some w, Function.update slots j .removed) := by
  intro d
  induction d with
  | zero =>
    intro fuel i slots v hfuel hv hp _
    obtain ⟨fuel, rfl⟩ : ∃ f, fuel = f + 1 := ⟨fuel - 1, by omega⟩
    have hv' : slots (i % size) = .full v := by simpa [Nat.mod_mod] using hv
    exact ⟨i % size, Nat.mod_lt i hpos, v, hv', hp, by simp [findAndRemove, hv', hp]⟩
  | succ d ih =>
    intro fuel i slots v hfuel hv hp hbefore
    obtain ⟨fuel, rfl⟩ : ∃ f, fuel = f + 1 := ⟨fuel - 1, by omega⟩
    have h0 : slots (i % size) ≠ .empty := by simpa [Nat.mod_mod] using hbefore 0 (by omega)
    have hn : next size (i % size) = (i + 1) % size := by
      rw [next_eq_mod (Nat.mod_lt i hpos), Nat.mod_add_mod]
    have hshift : ∀ t, ((i + 1) % size + t) % size = (i % size + (t + 1)) % size := by
      intro t
      rw [Nat.mod_add_mod, Nat.mod_add_mod]
      congr 1
      omega
    have hrest : ∃ j < size, ∃ w, slots j = .full w ∧ p w = true ∧
        findAndRemove size p fuel ((i + 1) % size) slots =
          some (some w, Function.update slots j .removed) :=
      ih fuel (i + 1) slots v (by omega) (by rw [hshift]; exact hv) hp
        (fun t ht => by rw [hshift]; exact hbefore (t + 1) (by omega))
    cases hs : slots (i % size) with
    | empty => exact absurd hs h0
    | removed =>
      obtain ⟨j, hj, w, hw, hpw, hf⟩ := hrest
      exact ⟨j, hj, w, hw, hpw, by simp only [findAndRemove, hs]; rw [hn, hf]⟩
    | full b =>
      by_cases hb : p b = true
      · exact ⟨i % size, Nat.mod_lt i hpos, b, hs, hb, by simp [findAndRemove, hs, hb]⟩
      · obtain ⟨j, hj, w, hw, hpw, hf⟩ := hrest
        refine ⟨j, hj, w, hw, hpw, ?_⟩
        simp only [findAndRemove, hs, hb]
        rw [hn, hf]
        rfl

/-- **A search in a table that holds no wanted value reports absence** once it reaches an empty
slot, and changes nothing. -/
theorem findAndRemove_absent (hpos : 0 < size) (slots : Nat → Slot α)
    (hnone : ∀ j < size, ∀ w, slots j = .full w → p w = false) :
    ∀ (d fuel i : Nat), d < fuel → slots ((i % size + d) % size) = .empty →
      findAndRemove size p fuel (i % size) slots = some (none, slots) := by
  intro d
  induction d with
  | zero =>
    intro fuel i hfuel he
    obtain ⟨fuel, rfl⟩ : ∃ f, fuel = f + 1 := ⟨fuel - 1, by omega⟩
    have he' : slots (i % size) = .empty := by simpa [Nat.mod_mod] using he
    simp [findAndRemove, he']
  | succ d ih =>
    intro fuel i hfuel he
    obtain ⟨fuel, rfl⟩ : ∃ f, fuel = f + 1 := ⟨fuel - 1, by omega⟩
    have hn : next size (i % size) = (i + 1) % size := by
      rw [next_eq_mod (Nat.mod_lt i hpos), Nat.mod_add_mod]
    have hrest : findAndRemove size p fuel ((i + 1) % size) slots = some (none, slots) := by
      apply ih fuel (i + 1) (by omega)
      rw [Nat.mod_add_mod, show i + 1 + d = i + (d + 1) by omega, ← Nat.mod_add_mod]
      exact he
    cases hs : slots (i % size) with
    | empty => simp [findAndRemove, hs]
    | removed => simp only [findAndRemove, hs]; rw [hn, hrest]
    | full b =>
      have hb : p b = false := hnone (i % size) (Nat.mod_lt i hpos) b hs
      simp only [findAndRemove, hs, hb]
      rw [hn, hrest]
      rfl

/-- **A search returns only a wanted value, taken from a full slot that becomes a tombstone.** -/
theorem findAndRemove_some {w : α} {slots' : Nat → Slot α} :
    ∀ (fuel i : Nat) (slots : Nat → Slot α),
      findAndRemove size p fuel i slots = some (some w, slots') →
      p w = true ∧ ∃ j, slots j = .full w ∧ slots' = Function.update slots j .removed := by
  intro fuel
  induction fuel with
  | zero => intro i slots h; simp [findAndRemove] at h
  | succ fuel ih =>
    intro i slots h
    cases hs : slots i with
    | empty => simp [findAndRemove, hs] at h
    | removed =>
      simp only [findAndRemove, hs] at h
      exact ih _ _ h
    | full b =>
      by_cases hb : p b = true
      · simp only [findAndRemove, hs, hb, if_true, Option.some.injEq, Prod.mk.injEq,
          Option.some.injEq] at h
        obtain ⟨rfl, rfl⟩ := h
        exact ⟨hb, i, hs, rfl⟩
      · simp only [findAndRemove, hs, hb] at h
        exact ih _ _ h

/-- **A search keeps the table chained**: it only turns a full slot into a tombstone. -/
theorem chained_remove {home : α → Nat} {slots : Nat → Slot α} (j : Nat)
    (hc : Chained size home slots) : Chained size home (Function.update slots j .removed) := by
  intro k hk v hv
  by_cases hkj : k = j
  · subst hkj
    simp at hv
  · rw [Function.update_of_ne hkj] at hv
    obtain ⟨e, he, hek, hpath⟩ := hc k hk v hv
    refine ⟨e, he, hek, fun t ht => ?_⟩
    by_cases htj : (home v % size + t) % size = j
    · rw [htj, Function.update_self]
      simp
    · rw [Function.update_of_ne htj]
      exact hpath t ht

end LinearProbe
