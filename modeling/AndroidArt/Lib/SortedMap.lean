import AndroidArt.Lib.SortedSet

/-!
# Ordered maps as sorted association lists

A `std::map` (ART's `SafeMap`) over a linear order of keys as the list of its entries in increasing
key order: `List.lookup` is `find`, `put` is `SafeMap::Put`, which adds an entry under a key that is
not there yet and fails its `DCHECK` (`none`) on one that is, and `List.erase` of the entry that
`find` gave is `erase` of its iterator.  Iteration runs along the list.

* `lookup_eq_some_iff` — with increasing keys, `find` of a key gives the value of its entry.
* `perm_of_put`, `sorted_put` — `Put` adds exactly its entry, and keeps the keys increasing.
* `mem_erase`, `sorted_erase` — `erase` takes out exactly its entry, and keeps the keys increasing.
-/

set_option autoImplicit false

namespace SortedMap

variable {κ β : Type*} [LinearOrder κ]

/-- The keys increase along the list. -/
def Sorted (m : List (κ × β)) : Prop := m.Pairwise fun x y => x.1 < y.1

/-- `SafeMap::Put(k, v)`. -/
def put (m : List (κ × β)) (k : κ) (v : β) : Option (List (κ × β)) :=
  if (m.lookup k).isSome then none
  else some (SortedSet.insertBefore (fun e => decide (e.1 < k)) m (k, v))

variable {m m' : List (κ × β)} {k : κ} {v : β}

theorem Sorted.nil : Sorted ([] : List (κ × β)) := List.Pairwise.nil

theorem Sorted.nodup (hm : Sorted m) : m.Nodup := by
  change m.Pairwise fun x y => x ≠ y
  refine hm.imp ?_
  intro x y hxy he
  exact lt_irrefl _ (he ▸ hxy)

/-- With increasing keys, `find` of a key gives the value of the entry that has it. -/
theorem lookup_eq_some_iff (hm : Sorted m) : m.lookup k = some v ↔ (k, v) ∈ m := by
  rw [List.lookup_eq_some_iff]
  constructor
  · rintro ⟨l₁, l₂, rfl, -⟩
    exact List.mem_append_right _ List.mem_cons_self
  · intro h
    obtain ⟨l₁, l₂, rfl⟩ := List.append_of_mem h
    refine ⟨l₁, l₂, rfl, fun p hp => bne_iff_ne.mpr ?_⟩
    exact ((List.pairwise_append.mp hm).2.2 p hp (k, v) List.mem_cons_self).ne'

/-- The map `Put` makes is the old one with the new entry. -/
theorem perm_of_put (h : put m k v = some m') : m'.Perm ((k, v) :: m) := by
  unfold put at h
  split_ifs at h
  cases h
  rw [SortedSet.insertBefore, SortedSet.drop_length_takeWhile]
  conv_rhs => rw [← List.takeWhile_append_dropWhile (p := fun e => decide (e.1 < k)) (l := m)]
  exact List.perm_middle

theorem sorted_put (hm : Sorted m) (h : put m k v = some m') : Sorted m' := by
  unfold put at h
  split_ifs at h with hk
  cases h
  have hlt : ∀ x y : κ × β, decide (x.1 < y.1) = true ↔ x.1 < y.1 := fun _ _ => decide_eq_true_iff
  refine SortedSet.pairwise_insertBefore hlt hm (a := (k, v)) ?_
  intro x hx he
  exact hk (List.lookup_isSome_iff.mpr ⟨x, hx, beq_iff_eq.mpr he.symm⟩)

variable [DecidableEq β]

theorem sorted_erase (hm : Sorted m) (x : κ × β) : Sorted (m.erase x) :=
  hm.sublist (List.erase_sublist)

theorem mem_erase (hm : Sorted m) {x y : κ × β} : y ∈ m.erase x ↔ y ≠ x ∧ y ∈ m :=
  hm.nodup.mem_erase_iff

end SortedMap
