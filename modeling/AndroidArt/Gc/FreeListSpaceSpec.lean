import AndroidArt.Gc.FreeListSpaceFree
import AndroidArt.Gc.LargeObjectSpace
import Mathlib.Algebra.BigOperators.Ring.List

/-!
# Runs of the free-list large object space

The runtime creates a `FreeListSpace` over an aligned region and then calls, in any order,
`Alloc` of between one byte and 2^43 bytes, and `Free` of an object that an `Alloc` returned and no
`Free` has given back. `Reachable s live` is a state reached so, with the objects `live` the client
holds: the address and `bytes_allocated` of each.

Every reachable state holds the invariant of `Gc/FreeListSpaceInv.lean` for a layout of exactly the
held objects (`Reachable.inv`, from `Inv.create`, `Inv.alloc` and `Inv.free`). What a client sees:

* `held_separate` — the held objects never overlap, and each is aligned, not empty and inside the
  space;
* `counters_reachable` — `num_objects_allocated_` and `num_bytes_allocated_` are the number of held
  objects and the sum of their sizes;
* `walk_reachable` — `Walk` reports exactly the held objects, in address order;
* `free_reachable` — `Free` of a held object succeeds and returns the bytes its `Alloc` returned,
  unless the object ends at `End()`, where a `DCHECK` of `GetSlotIndexForAllocationInfo` fails;
* `allocationSize_reachable` — `AllocationSize` of a held object is the bytes its `Alloc`
  returned;
* `free_not_held`, `free_twice` — `Free` of any other address fails, and so does a second `Free` of
  an object;
* `alloc_reachable` — `Alloc` succeeds, and an object it returns has the rounded-up size, is
  aligned, inside the space and apart from every held object;
* `alloc_none_reachable` — `Alloc` returns no object only when every aligned range of the
  rounded-up size in the space meets a held object, and then it leaves the state as it was.
-/

set_option autoImplicit false

namespace Art

namespace FreeListSpace

open LargeObjectSpace

/-! ## Layouts -/

section Laid

variable {info : Nat → Option AllocationInfo}

/-- When each free block of a layout has fewer than `m` units, and so do the units from the end of
the objects to `n`, every `m` units from the layout's first unit up to `n` meet an object. -/
theorem Laid.exists_overlap {q n m : Nat} {L : List Obj} (h : Laid info q L) (hm : 0 < m)
    (hgaps : ∀ g ∈ gaps q L, g.2 < m) (hend : n < topFrom q L + m) {x : Nat} (hqx : q ≤ x)
    (hxn : x + m ≤ n) : ∃ o ∈ L, x < o.next ∧ o.start < x + m := by
  induction L generalizing q with
  | nil =>
    rw [topFrom_nil] at hend
    omega
  | cons o os ih =>
    obtain ⟨hq, -, -, -, hrest⟩ := h
    have hgaps' : ∀ g ∈ gaps o.next os, g.2 < m := fun g hg =>
      hgaps g (by rw [gaps]; exact List.mem_append_right _ hg)
    by_cases hx : o.next ≤ x
    · obtain ⟨o', ho', hover⟩ := ih hrest hgaps' (by rwa [topFrom_cons] at hend) hx
      exact ⟨o', List.mem_cons_of_mem o ho', hover⟩
    · by_cases hs : o.start < x + m
      · exact ⟨o, List.mem_cons_self, by omega, hs⟩
      · -- the `m` units lie in the free block in front of `o`, which has fewer
        have hgap := hgaps (q, o.start - q) (by simp [gaps, show q < o.start by omega])
        simp only at hgap
        omega

end Laid

/-! ## What a state that holds its objects shows of them -/

variable {s : FreeListSpace}

theorem objectRanges_of_begin_eq {t : FreeListSpace} (h : t.begin = s.begin) (L : List Obj) :
    t.objectRanges L = s.objectRanges L := by
  simp [objectRanges, getAllocationAddressForSlot, h]

theorem objectRanges_append (L₁ L₂ : List Obj) :
    s.objectRanges (L₁ ++ L₂) = s.objectRanges L₁ ++ s.objectRanges L₂ :=
  List.map_append

/-- What `Alloc` does to the objects, up to their order: it adds the object it places, if any. -/
theorem AllocSpec.perm {n m : Nat} {L L' : List Obj} {r : Option Nat} (h : AllocSpec n m L r L') :
    L'.Perm ((r.map fun q => (⟨q, m⟩ : Obj)).toList ++ L) := by
  rcases h with ⟨pre, o, post, rfl, -, -, rfl, rfl⟩ | ⟨-, -, rfl, rfl⟩ | ⟨-, -, rfl, rfl⟩
  · exact List.perm_middle
  · exact List.perm_append_comm
  · exact List.Perm.refl _

section Inv

variable {L : List Obj}

/-- The ranges of the objects go up in address order, each ending before the next starts. -/
theorem Inv.objectRanges_sorted (h : s.Inv L) :
    (s.objectRanges L).Pairwise fun x y => x.1 + x.2 ≤ y.1 := by
  refine List.pairwise_map.mpr (h.laid.sorted.2.imp fun {o o'} hoo' => ?_)
  simp only [getAllocationAddressForSlot, Obj.next, kAlignment, kPageSize] at hoo' ⊢
  omega

/-- The objects' ranges, in whatever order a client keeps them, are pairwise apart. -/
theorem Inv.pairwise_separate (h : s.Inv L) {live : List (Nat × Nat)}
    (hperm : (s.objectRanges L).Perm live) : live.Pairwise Separate :=
  (hperm.pairwise_iff Separate.symm).mp (h.objectRanges_sorted.imp Or.inl)

/-- A range a client holds is the range of an object of the layout. -/
theorem mem_objectRanges {live : List (Nat × Nat)} (hperm : (s.objectRanges L).Perm live)
    {obj bytes : Nat} (hmem : (obj, bytes) ∈ live) :
    ∃ o ∈ L, s.getAllocationAddressForSlot o.start = obj ∧ o.size * kAlignment = bytes := by
  obtain ⟨o, ho, hx⟩ := List.mem_map.mp (hperm.mem_iff.mpr hmem)
  obtain ⟨rfl, rfl⟩ := Prod.mk.inj hx
  exact ⟨o, ho, rfl, rfl⟩

/-- The range of an object is aligned, not empty and inside the space. -/
theorem Inv.objectRange_bounds (h : s.Inv L) {o : Obj} (ho : o ∈ L) :
    s.getAllocationAddressForSlot o.start % kAlignment = 0 ∧ 0 < o.size * kAlignment ∧
      s.begin ≤ s.getAllocationAddressForSlot o.start ∧
      s.getAllocationAddressForSlot o.start + o.size * kAlignment ≤ s.end_ := by
  obtain ⟨pre, post, hL⟩ := List.append_of_mem ho
  obtain ⟨-, -, hsize, -, -, -⟩ := h.laid.of_eq_append hL
  have hnext := h.next_le_length hL
  have hal := h.aligned
  have hend := h.end_eq
  simp only [getAllocationAddressForSlot, Obj.next, kAlignment, kPageSize] at hnext hal hend ⊢
  omega

/-- The unit `Alloc` places its object at leaves room for the object in the space. -/
theorem Inv.allocSpec_room (h : s.Inv L) {m q : Nat} {L' : List Obj}
    (hspec : AllocSpec s.allocationInfo.length m L (some q) L') :
    q + m ≤ s.allocationInfo.length := by
  rcases hspec with ⟨pre, o, post, hL, hfit, -, hr, -⟩ | ⟨-, hroom, hr, -⟩ | ⟨-, -, hr, -⟩
  · obtain rfl := Option.some.inj hr
    have := h.next_le_length hL
    simp only [Obj.next] at this
    omega
  · obtain rfl := Option.some.inj hr
    exact hroom
  · cases hr

/-- `AllocationSize` of an object's address is the object's size. -/
theorem Inv.allocationSize {o : Obj} (h : s.Inv L) (ho : o ∈ L) :
    s.allocationSize (s.getAllocationAddressForSlot o.start) = some (o.size * kAlignment) := by
  obtain ⟨pre, post, hL⟩ := List.append_of_mem ho
  obtain ⟨a, a₁, hf⟩ := h.freeFacts hL
  simp only [FreeListSpace.allocationSize, hf.slot, hf.info, hf.isFree, hf.byteSize,
    Option.bind_eq_bind, Option.bind_some, Bool.false_eq_true, if_false]

/-- Two objects of the layout start at different units. -/
theorem Inv.start_ne {pre post : List Obj} {o o' : Obj} (h : s.Inv L) (hL : L = pre ++ o :: post)
    (ho' : o' ∈ pre ++ post) : o'.start ≠ o.start := by
  obtain ⟨hpre, hq, hsize, -, -, hpost⟩ := h.laid.of_eq_append hL
  rcases List.mem_append.mp ho' with ho' | ho'
  · -- an object in front ends before `o` starts, and is not empty
    have hle := hpre.next_le_topFrom ho'
    have hpos := (h.objectRange_bounds (hL ▸ List.mem_append_left _ ho')).2.1
    simp only [Obj.next, kAlignment, kPageSize] at hle hpos
    omega
  · have hle := hpost.sorted.1 o' ho'
    simp only [Obj.next] at hle
    omega

end Inv

/-- `RoundUp(num_bytes, kAlignment)` is a whole number of units. -/
theorem roundUp_div_mul (numBytes : Nat) :
    Align.roundUp numBytes kAlignment / kAlignment * kAlignment =
      Align.roundUp numBytes kAlignment :=
  Nat.div_mul_cancel (Nat.dvd_of_mod_eq_zero (Align.roundUp_properties (k := 12) numBytes).2.2)

/-! ## Runs -/

/-- The states that a run of the runtime's calls reaches, with the objects the client holds:
`Create` over an aligned region of fewer than 2^27 units; `Alloc` of between one byte and 2^43
bytes, whose object, if it returns one, the client then holds; and `Free` of a held object, which
the client then no longer holds. -/
inductive Reachable : FreeListSpace → List (Nat × Nat) → Prop
  | create {begin size : Nat} {s : FreeListSpace} : begin % kAlignment = 0 →
      size / kAlignment < 2 ^ 27 → FreeListSpace.create begin size = some s → Reachable s []
  | alloc {s s' : FreeListSpace} {live : List (Nat × Nat)} {numBytes : Nat}
      {r : Option (Nat × Nat)} : Reachable s live → 0 < numBytes → numBytes < 2 ^ 43 →
      s.alloc numBytes = some (r, s') → Reachable s' (r.toList ++ live)
  | free {s s' : FreeListSpace} {live : List (Nat × Nat)} {obj bytes n : Nat} :
      Reachable s live → (obj, bytes) ∈ live → s.free obj = some (n, s') →
      Reachable s' (live.erase (obj, bytes))

/-- Every reachable state holds the invariant for a layout of exactly the objects the client
holds. -/
theorem Reachable.inv {live : List (Nat × Nat)} (h : Reachable s live) :
    ∃ L, s.Inv L ∧ (s.objectRanges L).Perm live := by
  induction h with
  | create hbegin hsize hcreate => exact ⟨[], Inv.create hbegin hsize hcreate, List.Perm.refl _⟩
  | @alloc s s' live numBytes r _ hpos hlt halloc ih =>
    obtain ⟨L, hinv, hperm⟩ := ih
    obtain ⟨r', L', s'', halloc', hbegin, -, hspec, hinv'⟩ := hinv.alloc hpos hlt
    rw [halloc] at halloc'
    obtain ⟨rfl, rfl⟩ := Prod.mk.inj (Option.some.inj halloc')
    refine ⟨L', hinv', ?_⟩
    have hnew : s.objectRanges (r'.map fun q =>
        (⟨q, Align.roundUp numBytes kAlignment / kAlignment⟩ : Obj)).toList =
        (r'.map fun g =>
          (s.getAllocationAddressForSlot g, Align.roundUp numBytes kAlignment)).toList := by
      cases r' <;> simp [objectRanges, roundUp_div_mul]
    rw [objectRanges_of_begin_eq hbegin]
    refine (hspec.perm.map _).trans ?_
    rw [← objectRanges, objectRanges_append, hnew]
    exact hperm.append_left _
  | @free s s' live obj bytes n _ hmem hfree ih =>
    obtain ⟨L, hinv, hperm⟩ := ih
    obtain ⟨o, ho, rfl, rfl⟩ := mem_objectRanges hperm hmem
    obtain ⟨pre, post, hL⟩ := List.append_of_mem ho
    obtain ⟨s'', hfree', hbegin, -, hinv'⟩ :=
      hinv.free hL (hinv.next_lt_length_of_free hL (by simp [hfree]))
    rw [hfree] at hfree'
    obtain ⟨rfl, rfl⟩ := Prod.mk.inj (Option.some.inj hfree')
    refine ⟨pre ++ post, hinv', ?_⟩
    have hmid : s.objectRanges L = s.objectRanges pre ++
        (s.getAllocationAddressForSlot o.start, o.size * kAlignment) :: s.objectRanges post := by
      rw [hL, objectRanges_append]
      rfl
    have herase : ((s.objectRanges L).erase
        (s.getAllocationAddressForSlot o.start, o.size * kAlignment)).Perm
          (s.objectRanges pre ++ s.objectRanges post) :=
      List.Perm.cons_inv ((List.perm_cons_erase (hperm.mem_iff.mpr hmem)).symm.trans
        (hmid ▸ List.perm_middle))
    rw [objectRanges_of_begin_eq hbegin, objectRanges_append]
    exact herase.symm.trans (hperm.erase _)

/-- `Free` of a held object that ends before `End()` succeeds with the bytes its `Alloc` returned:
a step of the run. -/
theorem Reachable.free_step {live : List (Nat × Nat)} (h : Reachable s live) {obj bytes : Nat}
    (hmem : (obj, bytes) ∈ live) (hroom : obj + bytes < s.end_) :
    ∃ s', s.free obj = some (bytes, s') ∧ Reachable s' (live.erase (obj, bytes)) := by
  obtain ⟨L, hinv, hperm⟩ := h.inv
  obtain ⟨o, ho, rfl, rfl⟩ := mem_objectRanges hperm hmem
  obtain ⟨pre, post, hL⟩ := List.append_of_mem ho
  obtain ⟨s', hfree, -, -, -⟩ := hinv.free hL ((hinv.next_lt_length_iff o).mpr hroom)
  exact ⟨s', hfree, h.free hmem hfree⟩

/-- `Free` leaves `End()` where it was. -/
theorem Reachable.end_free {live : List (Nat × Nat)} (h : Reachable s live) {obj n : Nat}
    {s' : FreeListSpace} (hfree : s.free obj = some (n, s')) : s'.end_ = s.end_ := by
  obtain ⟨L, hinv, -⟩ := h.inv
  obtain ⟨-, -, -, -, -, -, -, hend, -⟩ := hinv.of_free_eq_some hfree
  exact hend

/-- `Free` of a held object that ends at `End()` fails. -/
theorem Reachable.free_full {live : List (Nat × Nat)} (h : Reachable s live) {obj bytes : Nat}
    (hmem : (obj, bytes) ∈ live) (hfull : obj + bytes = s.end_) : s.free obj = none := by
  obtain ⟨L, hinv, hperm⟩ := h.inv
  obtain ⟨o, ho, rfl, rfl⟩ := mem_objectRanges hperm hmem
  obtain ⟨pre, post, hL⟩ := List.append_of_mem ho
  exact hinv.free_full hL (Nat.not_lt.mp fun hlt => ((hinv.next_lt_length_iff o).mp hlt).ne hfull)

/-- Four pages from address 0 after `Create`, `Alloc(4096)` and `Alloc(8192)`: the objects of one
page and of two pages, and a page of end free region. -/
def pairSpace : FreeListSpace :=
  ⟨0, 16384, [⟨0, 1⟩, ⟨0, 2⟩, ⟨0, 0⟩, ⟨0, 0⟩], 4096, [], 2, 12288⟩

theorem reachable_pairSpace : Reachable pairSpace [(4096, 8192), (0, 4096)] := by
  have h₀ : Reachable ⟨0, 16384, List.replicate 4 ⟨0, 0⟩, 16384, [], 0, 0⟩ [] :=
    @Reachable.create 0 16384 _ (by decide) (by decide) rfl
  have h₁ : Reachable ⟨0, 16384, [⟨0, 1⟩, ⟨0, 0⟩, ⟨0, 0⟩, ⟨0, 0⟩], 12288, [], 1, 4096⟩
      [(0, 4096)] :=
    @Reachable.alloc _ _ _ 4096 (some (0, 4096)) h₀ (by decide) (by decide) (by decide)
  exact @Reachable.alloc _ _ _ 8192 (some (4096, 8192)) h₁ (by decide) (by decide) (by decide)

/-- One page from address 0 after `Create` and `Alloc(4096)`: the object fills the space, and no
end free region is left. -/
def fullSpace : FreeListSpace :=
  ⟨0, 4096, [⟨0, 1⟩], 0, [], 1, 4096⟩

theorem reachable_fullSpace : Reachable fullSpace [(0, 4096)] :=
  @Reachable.alloc _ _ _ 4096 (some (0, 4096))
    (@Reachable.create 0 4096 _ (by decide) (by decide) rfl) (by decide) (by decide) (by decide)

/-- `pairSpace` after `Free` of its first object: a free page, the object of two pages, and a page of
end free region. -/
def runSpace : FreeListSpace :=
  ⟨0, 16384, [⟨0, 0x8000001⟩, ⟨1, 2⟩, ⟨0, 0⟩, ⟨0, 0⟩], 4096, [1], 1, 8192⟩

theorem reachable_runSpace : Reachable runSpace [(4096, 8192)] :=
  @Reachable.free _ runSpace _ 0 4096 4096 reachable_pairSpace (by decide) (by decide)

/-! ## What the client sees -/

section Client

variable {live : List (Nat × Nat)}

/-- The objects a client holds never overlap, and each is aligned, not empty and inside the
space. -/
theorem held_separate (h : Reachable s live) :
    live.Pairwise Separate ∧ ∀ x ∈ live, x.1 % kAlignment = 0 ∧ 0 < x.2 ∧ s.begin ≤ x.1 ∧
      x.1 + x.2 ≤ s.end_ := by
  obtain ⟨L, hinv, hperm⟩ := h.inv
  refine ⟨hinv.pairwise_separate hperm, fun x hx => ?_⟩
  obtain ⟨o, ho, rfl⟩ := List.mem_map.mp (hperm.mem_iff.mpr hx)
  exact hinv.objectRange_bounds ho

theorem held_separate_run : [(4096, 8192), (0, 4096)].Pairwise Separate ∧
    ∀ x ∈ [(4096, 8192), (0, 4096)],
      x.1 % kAlignment = 0 ∧ 0 < x.2 ∧ pairSpace.begin ≤ x.1 ∧ x.1 + x.2 ≤ pairSpace.end_ :=
  held_separate reachable_pairSpace

/-- `num_objects_allocated_` and `num_bytes_allocated_` are the number of objects the client holds
and the sum of their sizes. -/
theorem counters_reachable (h : Reachable s live) :
    s.numObjectsAllocated = live.length ∧ s.numBytesAllocated = (live.map Prod.snd).sum := by
  obtain ⟨L, hinv, hperm⟩ := h.inv
  constructor
  · rw [hinv.numObjects, ← hperm.length_eq, objectRanges, List.length_map]
  · rw [hinv.numBytes, ← (hperm.map Prod.snd).sum_eq]
    simp only [objectRanges, List.map_map, Function.comp_def, List.sum_map_mul_right]

theorem counters_reachable_run : runSpace.numObjectsAllocated = [(4096, 8192)].length ∧
    runSpace.numBytesAllocated = ([(4096, 8192)].map Prod.snd).sum :=
  counters_reachable reachable_runSpace

/-- While the end free region is not empty, `Walk` reports exactly the objects the client holds, in
address order. -/
theorem walk_reachable (h : Reachable s live) (hfree : 0 < s.freeEnd) :
    ∃ w, s.walk = some w ∧ w.Perm live ∧ w.Pairwise fun x y => x.1 + x.2 ≤ y.1 := by
  obtain ⟨L, hinv, hperm⟩ := h.inv
  exact ⟨_, hinv.walk hfree, hperm, hinv.objectRanges_sorted⟩

theorem walk_reachable_run : ∃ w, runSpace.walk = some w ∧ w.Perm [(4096, 8192)] ∧
    w.Pairwise fun x y => x.1 + x.2 ≤ y.1 :=
  walk_reachable reachable_runSpace (by decide)

/-- `Free` of an object the client holds succeeds, returns the bytes its `Alloc` returned and leaves
a state in which the client holds the other objects, unless the object ends at `End()`: then the
`DCHECK_LT` of `GetSlotIndexForAllocationInfo` on the info after it fails. -/
theorem free_reachable (h : Reachable s live) {obj bytes : Nat} (hmem : (obj, bytes) ∈ live) :
    (obj + bytes < s.end_ →
      ∃ s', s.free obj = some (bytes, s') ∧ Reachable s' (live.erase (obj, bytes))) ∧
    (obj + bytes = s.end_ → s.free obj = none) :=
  ⟨h.free_step hmem, h.free_full hmem⟩

/-- The object of two pages of `pairSpace` is freed; the object that fills `fullSpace` is not. -/
theorem free_reachable_run :
    (∃ s', pairSpace.free 4096 = some (8192, s') ∧ Reachable s' [(0, 4096)]) ∧
      fullSpace.free 0 = none :=
  ⟨(free_reachable reachable_pairSpace (by decide)).1 (by decide),
    (free_reachable reachable_fullSpace (show (0, 4096) ∈ [(0, 4096)] by decide)).2 (by decide)⟩

/-- `AllocationSize` of an object the client holds is the bytes its `Alloc` returned. -/
theorem allocationSize_reachable (h : Reachable s live) {obj bytes : Nat}
    (hmem : (obj, bytes) ∈ live) : s.allocationSize obj = some bytes := by
  obtain ⟨L, hinv, hperm⟩ := h.inv
  obtain ⟨o, ho, rfl, rfl⟩ := mem_objectRanges hperm hmem
  exact hinv.allocationSize ho

theorem allocationSize_reachable_run : runSpace.allocationSize 4096 = some 8192 :=
  allocationSize_reachable reachable_runSpace (by decide)

/-- `Free` of an address at which the client holds no object fails: an address inside an object or
in free space, or one already freed. -/
theorem free_not_held (h : Reachable s live) {obj : Nat} (hobj : ∀ x ∈ live, x.1 ≠ obj) :
    s.free obj = none := by
  obtain ⟨L, hinv, hperm⟩ := h.inv
  exact hinv.free_eq_none fun o ho => hobj _ (hperm.subset (List.mem_map_of_mem ho))

/-- The page at address 0 was freed in the run: a `Free` of it fails. -/
theorem free_not_held_run : runSpace.free 0 = none :=
  free_not_held reachable_runSpace (by decide)

/-- A double `Free` fails: once `Free` of an address has succeeded, `Free` of the same address on
the state it leaves returns nothing. -/
theorem free_twice (h : Reachable s live) {obj n : Nat} {s' : FreeListSpace}
    (hfree : s.free obj = some (n, s')) : s'.free obj = none := by
  obtain ⟨L, hinv, -⟩ := h.inv
  obtain ⟨pre, o, post, hL, rfl, -, hbegin, -, hinv'⟩ := hinv.of_free_eq_some hfree
  refine hinv'.free_eq_none fun o' ho' he => hinv.start_ne hL ho' ?_
  simp only [getAllocationAddressForSlot, hbegin, kAlignment, kPageSize] at he
  omega

/-- `runSpace` after `Free` of its object: all four pages are end free region. -/
def runSpaceFreed : FreeListSpace :=
  ⟨0, 16384, [⟨0, 0x8000001⟩, ⟨1, 0x8000002⟩, ⟨0, 0⟩, ⟨0, 0⟩], 16384, [], 0, 0⟩

/-- The object at 4096 given back twice: the second `Free` fails. -/
theorem free_twice_run :
    runSpace.free 4096 = some (8192, runSpaceFreed) ∧ runSpaceFreed.free 4096 = none := by
  have hfree : runSpace.free 4096 = some (8192, runSpaceFreed) := by decide
  exact ⟨hfree, free_twice reachable_runSpace hfree⟩

/-- `Alloc` succeeds, and an object it returns has the rounded-up size, is aligned, inside the
space and apart from every object the client holds. -/
theorem alloc_reachable (h : Reachable s live) {numBytes : Nat} (hpos : 0 < numBytes)
    (hlt : numBytes < 2 ^ 43) :
    ∃ r s', s.alloc numBytes = some (r, s') ∧ ∀ x, r = some x →
      x.2 = Align.roundUp numBytes kAlignment ∧ x.1 % kAlignment = 0 ∧ s.begin ≤ x.1 ∧
        x.1 + x.2 ≤ s.end_ ∧ ∀ y ∈ live, Separate x y := by
  obtain ⟨L, hinv, -⟩ := h.inv
  obtain ⟨r, L', s', halloc, -, -, hspec, -⟩ := hinv.alloc hpos hlt
  refine ⟨_, s', halloc, fun x hx => ?_⟩
  obtain ⟨q, hq, rfl⟩ := Option.map_eq_some_iff.mp hx
  have hsep : ∀ y ∈ live, Separate (s.getAllocationAddressForSlot q,
      Align.roundUp numBytes kAlignment) y := by
    obtain ⟨L'', hinv'', hperm''⟩ := (h.alloc hpos hlt halloc).inv
    have hpw := hinv''.pairwise_separate hperm''
    simp only [hq, Option.map_some, Option.toList_some, List.singleton_append,
      List.pairwise_cons] at hpw
    exact hpw.1
  have hroom := hinv.allocSpec_room (hq ▸ hspec)
  have hround := roundUp_div_mul numBytes
  have hal := hinv.aligned
  have hend := hinv.end_eq
  refine ⟨rfl, ?_, ?_, ?_, hsep⟩ <;>
    simp only [getAllocationAddressForSlot, kAlignment, kPageSize] at hround hal hend hroom ⊢ <;>
    omega

theorem alloc_reachable_run : ∃ r s', runSpace.alloc 4096 = some (r, s') ∧ ∀ x, r = some x →
    x.2 = Align.roundUp 4096 kAlignment ∧ x.1 % kAlignment = 0 ∧ runSpace.begin ≤ x.1 ∧
      x.1 + x.2 ≤ runSpace.end_ ∧ ∀ y ∈ [(4096, 8192)], Separate x y :=
  alloc_reachable reachable_runSpace (by decide) (by decide)

/-- `Alloc` returns no object only when every aligned range of the rounded-up size in the space
meets an object the client holds, and it then leaves the state as it was. -/
theorem alloc_none_reachable (h : Reachable s live) {numBytes : Nat} (hpos : 0 < numBytes)
    (hlt : numBytes < 2 ^ 43) {s' : FreeListSpace} (halloc : s.alloc numBytes = some (none, s')) :
    s' = s ∧ ∀ addr, addr % kAlignment = 0 → s.begin ≤ addr →
      addr + Align.roundUp numBytes kAlignment ≤ s.end_ →
      ∃ y ∈ live, ¬ Separate (addr, Align.roundUp numBytes kAlignment) y := by
  obtain ⟨L, hinv, hperm⟩ := h.inv
  obtain ⟨r, L', s'', halloc', -, hsame, hspec, -⟩ := hinv.alloc hpos hlt
  rw [halloc] at halloc'
  obtain ⟨hr, rfl⟩ := Prod.mk.inj (Option.some.inj halloc')
  have hnone : r = none := Option.map_eq_none_iff.mp hr.symm
  refine ⟨hsame hnone, fun addr hal hbegin hend => ?_⟩
  obtain ⟨hgaps, hn⟩ : (∀ g ∈ gaps 0 L, g.2 < Align.roundUp numBytes kAlignment / kAlignment) ∧
      s.allocationInfo.length < topFrom 0 L + Align.roundUp numBytes kAlignment / kAlignment := by
    rcases hspec with ⟨_, _, _, _, _, _, hr', _⟩ | ⟨_, _, hr', _⟩ | ⟨hgaps, hn, _, _⟩
    · rw [hnone] at hr'
      cases hr'
    · rw [hnone] at hr'
      cases hr'
    · exact ⟨hgaps, hn⟩
  have hround := roundUp_div_mul numBytes
  have hle := (Align.roundUp_properties (k := 12) numBytes).1
  have hal₀ := hinv.aligned
  have hend₀ := hinv.end_eq
  simp only [kAlignment, kPageSize, Nat.reducePow] at hround hle hal₀ hend₀ hal hend hgaps hn
  obtain ⟨o, ho, hover₁, hover₂⟩ := hinv.laid.exists_overlap (x := (addr - s.begin) / 4096)
    (by omega) hgaps hn (Nat.zero_le _) (by omega)
  refine ⟨_, hperm.mem_iff.mp (List.mem_map_of_mem ho), fun hsep => ?_⟩
  simp only [Separate, getAllocationAddressForSlot, Obj.next, kAlignment, kPageSize] at hsep hover₁
  omega

/-- Two pages are free, but apart: `Alloc(8192)` finds no room. -/
theorem alloc_none_reachable_run : runSpace = runSpace ∧ ∀ addr, addr % kAlignment = 0 →
    runSpace.begin ≤ addr → addr + Align.roundUp 8192 kAlignment ≤ runSpace.end_ →
      ∃ y ∈ [(4096, 8192)], ¬ Separate (addr, Align.roundUp 8192 kAlignment) y :=
  alloc_none_reachable reachable_runSpace (by decide) (by decide) (by decide)

end Client

end FreeListSpace

end Art
