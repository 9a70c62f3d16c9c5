import AndroidArt.Gc.FreeListSpaceSpec

/-!
# Runs of `FreeList` and of the map space

`freeListLoop_held` is the run lemma of the loop of `FreeList`: on a space that contains each held
object and whose `Free` of it returns its bytes and gives a state that holds the others, the loop
frees a batch of held objects and returns their total.  Both spaces are such, the free-list space
for the objects that end before its `End()`:

* `freeList_reachable` — on a reachable state of the free-list space, `FreeList` of held objects,
  each once and none ending at `End()`, returns the sum of their bytes and leaves a reachable state
  whose client holds the others;
* `mapSpace_freeList` — on a reachable state of the map space, `FreeList` of mapped objects, each
  once, returns the sum of their maps' sizes and leaves exactly the other maps.

A run of the map space is `Create`, then `Alloc`s, each with a mapping of the kernel that does not
meet the maps the space has (or none, when `mmap` fails), and `Free`s that do not stop the runtime.
Every reachable state holds `Inv` (`Reachable.inv`):

* `mapSpace_maps_apart` — the maps are in address order, each one ending before the next begins,
  and all of them lie between `Begin()`, which stays `nullptr`, and `End()`;
* `mapSpace_counters` — `num_objects_allocated_` and `num_bytes_allocated_` are the number of maps
  and the sum of their sizes;
* `mapSpace_free_held` — `Free` of a mapped object passes its `DCHECK`, returns the size that
  `AllocationSize` reports, and leaves the other maps.
-/

set_option autoImplicit false

namespace Art

namespace LargeObjectSpace

/-! ## `FreeList` -/

section FreeList

variable {σ : Type} {contains : σ → Nat → Bool} {free : σ → Nat → Option (Nat × σ)}
  {R : σ → List (Nat × Nat) → Prop} {P : Nat × Nat → Prop}

/-- The run lemma of the loop of `FreeList`: when an `R`-state contains each object `P` of it holds,
and `Free` of one returns its bytes and leaves an `R`-state that holds the others, the loop over
held objects of `P`, each once, adds their bytes to `total` and leaves an `R`-state that holds the
rest. -/
theorem freeListLoop_held
    (hfree : ∀ s live p b, R s live → (p, b) ∈ live → P (p, b) →
      contains s p = true ∧ ∃ s', free s p = some (b, s') ∧ R s' (live.erase (p, b))) :
    ∀ (ps : List (Nat × Nat)) (total : Nat) (s : σ) (live : List (Nat × Nat)), R s live →
      ps.Subperm live → (∀ x ∈ ps, P x) → ∃ s', freeListLoop contains free total
        (ps.map Prod.fst) s = some (total + (ps.map Prod.snd).sum, s') ∧ R s' (live.diff ps) := by
  intro ps
  induction ps with
  | nil =>
    intro total s live h _ _
    exact ⟨s, by simp [freeListLoop], by simpa using h⟩
  | cons x ps ih =>
    intro total s live h hsub hP
    obtain ⟨p, b⟩ := x
    have hmem : (p, b) ∈ live := hsub.subset List.mem_cons_self
    have hrest : ps.Subperm (live.erase (p, b)) := by simpa using hsub.erase (p, b)
    obtain ⟨hc₁, s₁, hf₁, h₁⟩ := hfree s live p b h hmem (hP _ List.mem_cons_self)
    obtain ⟨s', hloop, h'⟩ :=
      ih (total + b) s₁ _ h₁ hrest fun x hx => hP x (List.mem_cons_of_mem _ hx)
    refine ⟨s', ?_, by rwa [List.diff_cons]⟩
    simp only [List.map_cons, freeListLoop, hc₁, Bool.not_true, Bool.false_eq_true, if_false, hf₁,
      Option.bind_eq_bind, Option.bind_some, hloop, List.sum_cons, Nat.add_assoc]

end FreeList

end LargeObjectSpace

namespace FreeListSpace

/-- A held object is in the space, so `Contains` holds of it. -/
theorem Reachable.contains_held {live : List (Nat × Nat)} {s : FreeListSpace}
    (h : Reachable s live) {x : Nat × Nat} (hx : x ∈ live) : s.contains x.1 = true := by
  obtain ⟨L, hinv, hperm⟩ := h.inv
  obtain ⟨o, ho, rfl⟩ := List.mem_map.mp (hperm.mem_iff.mpr hx)
  obtain ⟨-, hpos, hbegin, hend⟩ := hinv.objectRange_bounds ho
  simp only [contains, decide_eq_true_eq]
  omega

/-- `FreeList` of objects the client holds, each once and none ending at `End()`: it returns the
sum of their bytes, and the client then holds the others. -/
theorem freeList_reachable {s : FreeListSpace} {live ps : List (Nat × Nat)} (h : Reachable s live)
    (hps : ps.Subperm live) (hroom : ∀ x ∈ ps, x.1 + x.2 < s.end_) :
    ∃ s', LargeObjectSpace.freeList contains free (ps.map Prod.fst) s =
      some ((ps.map Prod.snd).sum, s') ∧ Reachable s' (live.diff ps) := by
  have hfree : ∀ t live p b, (Reachable t live ∧ t.end_ = s.end_) → (p, b) ∈ live →
      p + b < s.end_ → t.contains p = true ∧
        ∃ t', t.free p = some (b, t') ∧ Reachable t' (live.erase (p, b)) ∧ t'.end_ = s.end_ := by
    rintro t live p b ⟨ht, hend⟩ hmem hlt
    obtain ⟨t', hf, ht'⟩ := ht.free_step hmem (hend ▸ hlt)
    exact ⟨ht.contains_held hmem, t', hf, ht', (ht.end_free hf).trans hend⟩
  obtain ⟨s', hloop, h', -⟩ := LargeObjectSpace.freeListLoop_held
    (P := fun x => x.1 + x.2 < s.end_) hfree ps 0 s live ⟨h, rfl⟩ hps hroom
  exact ⟨s', by simpa [LargeObjectSpace.freeList] using hloop, h'⟩

theorem freeList_reachable_run :
    ∃ s', LargeObjectSpace.freeList contains free ([(0, 4096), (4096, 8192)].map Prod.fst)
        pairSpace = some (([(0, 4096), (4096, 8192)].map Prod.snd).sum, s') ∧
      Reachable s' ([(4096, 8192), (0, 4096)].diff [(0, 4096), (4096, 8192)]) :=
  freeList_reachable reachable_pairSpace (List.Perm.subperm (List.Perm.swap _ _ _)) (by decide)

end FreeListSpace

namespace LargeObjectMapSpace

open LargeObjectSpace

variable {s s' : LargeObjectMapSpace}

/-! ## The steps -/

/-- What `MapAnonymous` returns: a map of `byte_count` bytes, at `nullptr` for none and where the
kernel put it otherwise. -/
theorem mapAnonymous_eq_some {os : Option Nat} {numBytes obj size : Nat}
    (h : mapAnonymous os numBytes = some (obj, size)) :
    size = numBytes ∧ (numBytes = 0 → obj = 0) ∧ (numBytes ≠ 0 → os = some obj) := by
  unfold mapAnonymous at h
  split_ifs at h with hz
  · cases h
    exact ⟨hz.symm, fun _ => rfl, fun hne => absurd hz hne⟩
  · obtain ⟨b, hb, hbe⟩ := Option.map_eq_some_iff.mp h
    cases hbe
    exact ⟨rfl, fun hz' => absurd hz' hz, fun _ => hb⟩

/-- With no map from `MapAnonymous`, `Alloc` returns no object and changes nothing. -/
theorem alloc_of_mapAnonymous_none {os : Option Nat} {numBytes : Nat}
    (h : mapAnonymous os numBytes = none) : s.alloc os numBytes = some (none, s) := by
  simp [alloc, h]

/-- A map that `Put` cannot add fails `Alloc`. -/
theorem alloc_of_put_none {os : Option Nat} {numBytes obj size : Nat}
    (h : mapAnonymous os numBytes = some (obj, size))
    (hput : SortedMap.put s.memMaps obj size = none) : s.alloc os numBytes = none := by
  simp [alloc, h, hput]

/-- `Alloc` with a map that `Put` adds: the object and its size, with the bounds and the counters
moved on. -/
theorem alloc_of_put_some {os : Option Nat} {numBytes obj size : Nat}
    (h : mapAnonymous os numBytes = some (obj, size)) {m : List (Nat × Nat)}
    (hput : SortedMap.put s.memMaps obj size = some m) :
    s.alloc os numBytes = some (some (obj, size),
      { begin := min s.begin obj
        end_ := if s.end_ = 0 ∨ s.end_ < obj + size then obj + size else s.end_
        memMaps := m
        numBytesAllocated := s.numBytesAllocated + size
        numObjectsAllocated := s.numObjectsAllocated + 1
        totalBytesAllocated := s.totalBytesAllocated + size
        totalObjectsAllocated := s.totalObjectsAllocated + 1 }) := by
  simp [alloc, h, hput]

/-- `Free` succeeds exactly on a mapped object whose size the counter covers, and takes out its
map. -/
theorem free_eq_some_iff {ptr n : Nat} :
    s.free ptr = some (n, s') ↔ s.memMaps.lookup ptr = some n ∧ n ≤ s.numBytesAllocated ∧
      s' = { s with memMaps := s.memMaps.erase (ptr, n)
                    numBytesAllocated := s.numBytesAllocated - n
                    numObjectsAllocated := s.numObjectsAllocated - 1 } := by
  unfold free
  rcases hl : s.memMaps.lookup ptr with _ | m
  · simp
  · by_cases hlt : s.numBytesAllocated < m
    · simp only [Option.bind_eq_bind, Option.bind_some, hlt, if_true]
      simp only [Option.bind_none, reduceCtorEq, false_iff, not_and, Option.some.injEq]
      rintro rfl hle
      exact absurd hle (not_le.mpr hlt)
    · simp only [Option.bind_eq_bind, Option.bind_some, hlt, if_false, Option.some.injEq,
        Prod.mk.injEq]
      constructor
      · rintro ⟨rfl, rfl⟩
        exact ⟨rfl, by omega, rfl⟩
      · rintro ⟨rfl, -, rfl⟩
        exact ⟨rfl, rfl⟩

/-! ## The invariant -/

/-- The kernel's answer to `mmap` of `numBytes` bytes is a new mapping, apart from every map the
space has. -/
def Fresh (s : LargeObjectMapSpace) (os : Option Nat) (numBytes : Nat) : Prop :=
  ∀ b, os = some b → ∀ x ∈ s.memMaps, Separate (b, numBytes) x

/-- The states that a run of the runtime's calls reaches: `Create`; `Alloc` of a mapping that the
kernel makes fresh, or that fails; and a `Free` that does not stop the runtime. -/
inductive Reachable : LargeObjectMapSpace → Prop
  | create : Reachable create
  | alloc {s s' : LargeObjectMapSpace} {os : Option Nat} {numBytes : Nat}
      {r : Option (Nat × Nat)} : Reachable s → Fresh s os numBytes →
      s.alloc os numBytes = some (r, s') → Reachable s'
  | free {s s' : LargeObjectMapSpace} {ptr n : Nat} : Reachable s → s.free ptr = some (n, s') →
      Reachable s'

/-- The invariant of the map space: the maps are in address order and apart, `begin_` is still
`nullptr`, `end_` is past every map, and the counters count the maps. -/
structure Inv (s : LargeObjectMapSpace) : Prop where
  sorted : SortedMap.Sorted s.memMaps
  separate : s.memMaps.Pairwise Separate
  begin_eq : s.begin = 0
  end_le : ∀ x ∈ s.memMaps, x.1 + x.2 ≤ s.end_
  numObjects : s.numObjectsAllocated = s.memMaps.length
  numBytes : s.numBytesAllocated = (s.memMaps.map Prod.snd).sum

theorem Inv.create : Inv create :=
  { sorted := SortedMap.Sorted.nil
    separate := List.Pairwise.nil
    begin_eq := rfl
    end_le := fun _ hx => by cases hx
    numObjects := rfl
    numBytes := rfl }

/-- A state whose maps are those of an invariant state with one more, apart from them, with the
bounds and the counters moved on by it, holds the invariant. -/
theorem Inv.of_perm_cons (h : Inv s) {x : Nat × Nat} (hsep : ∀ y ∈ s.memMaps, Separate x y)
    (hperm : s'.memMaps.Perm (x :: s.memMaps)) (hsorted : SortedMap.Sorted s'.memMaps)
    (hbegin : s'.begin = 0) (hend : s.end_ ≤ s'.end_) (hx : x.1 + x.2 ≤ s'.end_)
    (hno : s'.numObjectsAllocated = s.numObjectsAllocated + 1)
    (hnb : s'.numBytesAllocated = s.numBytesAllocated + x.2) : Inv s' where
  sorted := hsorted
  separate := (hperm.pairwise_iff Separate.symm).mpr (List.pairwise_cons.mpr ⟨hsep, h.separate⟩)
  begin_eq := hbegin
  end_le := by
    intro y hy
    rcases List.mem_cons.mp (hperm.subset hy) with rfl | hy
    · exact hx
    · exact (h.end_le y hy).trans hend
  numObjects := by rw [hno, h.numObjects, hperm.length_eq, List.length_cons]
  numBytes := by
    rw [hnb, h.numBytes, (hperm.map Prod.snd).sum_eq, List.map_cons, List.sum_cons]
    omega

/-- `Alloc` of a fresh mapping keeps the invariant. -/
theorem Inv.alloc (h : Inv s) {os : Option Nat} {numBytes : Nat} {r : Option (Nat × Nat)}
    (hfresh : Fresh s os numBytes) (ha : s.alloc os numBytes = some (r, s')) : Inv s' := by
  rcases hmap : mapAnonymous os numBytes with _ | ⟨obj, size⟩
  · rw [alloc_of_mapAnonymous_none hmap] at ha
    obtain ⟨-, rfl⟩ := Prod.mk.inj (Option.some.inj ha)
    exact h
  rcases hput : SortedMap.put s.memMaps obj size with _ | m
  · rw [alloc_of_put_none hmap hput] at ha
    cases ha
  rw [alloc_of_put_some hmap hput] at ha
  obtain ⟨-, rfl⟩ := Prod.mk.inj (Option.some.inj ha)
  obtain ⟨hsize, hzero, hos⟩ := mapAnonymous_eq_some hmap
  have hsep : ∀ y ∈ s.memMaps, Separate (obj, size) y := by
    intro y hy
    by_cases hn : numBytes = 0
    · rw [hzero hn, hsize, hn]
      exact Or.inl (Nat.zero_le _)
    · rw [hsize]
      exact hfresh obj (hos hn) y hy
  refine h.of_perm_cons hsep (SortedMap.perm_of_put hput) (SortedMap.sorted_put h.sorted hput)
    (by simp [h.begin_eq]) ?_ ?_ rfl rfl
  · dsimp only
    split_ifs with hlt <;> omega
  · dsimp only
    split_ifs with hlt <;> omega

/-- `Free` keeps the invariant. -/
theorem Inv.free (h : Inv s) {ptr n : Nat} (hf : s.free ptr = some (n, s')) : Inv s' := by
  obtain ⟨hl, -, rfl⟩ := free_eq_some_iff.mp hf
  have hmem := (SortedMap.lookup_eq_some_iff h.sorted).mp hl
  have hperm := List.perm_cons_erase hmem
  refine { sorted := SortedMap.sorted_erase h.sorted _
           separate := h.separate.sublist List.erase_sublist
           begin_eq := h.begin_eq
           end_le := fun y hy => h.end_le y (List.erase_sublist.subset hy)
           numObjects := by simp [h.numObjects, List.length_erase_of_mem hmem]
           numBytes := ?_ }
  have hsum := (hperm.map Prod.snd).sum_eq
  rw [List.map_cons, List.sum_cons] at hsum
  dsimp only
  rw [h.numBytes, hsum]
  omega

theorem Reachable.inv (h : Reachable s) : Inv s := by
  induction h with
  | create => exact Inv.create
  | alloc _ hfresh ha ih => exact ih.alloc hfresh ha
  | free _ hf ih => exact ih.free hf

/-- `Free` of a mapped object passes its `DCHECK`, returns the map's size, and takes out its
map: a step of the run. -/
theorem Reachable.free_step (h : Reachable s) {ptr n : Nat} (hmem : (ptr, n) ∈ s.memMaps) :
    ∃ s', s.free ptr = some (n, s') ∧ s'.memMaps = s.memMaps.erase (ptr, n) ∧ Reachable s' := by
  have hinv := h.inv
  have hle : n ≤ s.numBytesAllocated := by
    rw [hinv.numBytes, (List.perm_cons_erase hmem |>.map Prod.snd).sum_eq, List.map_cons,
      List.sum_cons]
    omega
  have hf : s.free ptr = some (n, _) :=
    free_eq_some_iff.mpr ⟨(SortedMap.lookup_eq_some_iff hinv.sorted).mpr hmem, hle, rfl⟩
  exact ⟨_, hf, rfl, h.free hf⟩

/-! ## What a run keeps -/

/-- Three pages mapped by the kernel at `0x10000`, from `Create`. -/
def runSpace : LargeObjectMapSpace := ⟨0, 0x13000, [(0x10000, 0x3000)], 0x3000, 1, 0x3000, 1⟩

theorem reachable_runSpace : Reachable runSpace :=
  @Reachable.alloc create runSpace (some 0x10000) 0x3000 (some (0x10000, 0x3000)) Reachable.create
    (fun _ _ _ hx => by cases hx) (by decide)

/-- `runSpace` after an `Alloc` of one page that the kernel maps at `0x20000`. -/
def pairSpace : LargeObjectMapSpace :=
  ⟨0, 0x21000, [(0x10000, 0x3000), (0x20000, 0x1000)], 0x4000, 2, 0x4000, 2⟩

theorem reachable_pairSpace : Reachable pairSpace := by
  have hfresh : Fresh runSpace (some 0x20000) 0x1000 := by
    rintro b hb x hx
    cases hb
    rw [List.mem_singleton.mp hx]
    exact Or.inr (by decide)
  exact @Reachable.alloc runSpace pairSpace (some 0x20000) 0x1000 (some (0x20000, 0x1000))
    reachable_runSpace hfresh (by decide)

/-- In every reachable state the maps are in address order, each ending before the next begins,
and they lie between `Begin()`, which stays `nullptr`, and `End()`. -/
theorem mapSpace_maps_apart (h : Reachable s) :
    s.memMaps.Pairwise (fun x y => x.1 + x.2 ≤ y.1) ∧ s.begin = 0 ∧
      ∀ x ∈ s.memMaps, s.begin ≤ x.1 ∧ x.1 + x.2 ≤ s.end_ := by
  have hinv := h.inv
  refine ⟨?_, hinv.begin_eq, fun x hx => ⟨by rw [hinv.begin_eq]; exact Nat.zero_le _,
    hinv.end_le x hx⟩⟩
  refine (hinv.sorted.and hinv.separate).imp ?_
  rintro x y ⟨hlt, hxy | hyx⟩
  · exact hxy
  · omega

theorem mapSpace_maps_apart_run :
    pairSpace.memMaps.Pairwise (fun x y => x.1 + x.2 ≤ y.1) ∧ pairSpace.begin = 0 ∧
      ∀ x ∈ pairSpace.memMaps, pairSpace.begin ≤ x.1 ∧ x.1 + x.2 ≤ pairSpace.end_ :=
  mapSpace_maps_apart reachable_pairSpace

/-- `num_objects_allocated_` and `num_bytes_allocated_` are the number of maps and the sum of
their sizes. -/
theorem mapSpace_counters (h : Reachable s) :
    s.numObjectsAllocated = s.memMaps.length ∧
      s.numBytesAllocated = (s.memMaps.map Prod.snd).sum :=
  ⟨h.inv.numObjects, h.inv.numBytes⟩

theorem mapSpace_counters_run :
    runSpace.numObjectsAllocated = runSpace.memMaps.length ∧
      runSpace.numBytesAllocated = (runSpace.memMaps.map Prod.snd).sum :=
  mapSpace_counters reachable_runSpace

/-- `Free` of a mapped object passes its `DCHECK` and returns the size `AllocationSize` reports;
the maps left are the others, and the counters lose the object. -/
theorem mapSpace_free_held (h : Reachable s) {ptr : Nat} (hc : s.contains ptr = true) :
    ∃ n s', s.allocationSize ptr = some n ∧ s.free ptr = some (n, s') ∧
      (∀ x, x ∈ s'.memMaps ↔ x ∈ s.memMaps ∧ x.1 ≠ ptr) ∧
      s'.numObjectsAllocated = s.numObjectsAllocated - 1 ∧
      s'.numBytesAllocated = s.numBytesAllocated - n := by
  have hinv := h.inv
  obtain ⟨n, hl⟩ := Option.isSome_iff_exists.mp hc
  have hmem := (SortedMap.lookup_eq_some_iff hinv.sorted).mp hl
  obtain ⟨s', hf, hmaps, -⟩ := h.free_step hmem
  obtain ⟨-, -, rfl⟩ := free_eq_some_iff.mp hf
  refine ⟨n, _, hl, hf, fun x => ?_, rfl, rfl⟩
  rw [hmaps, SortedMap.mem_erase hinv.sorted]
  constructor
  · rintro ⟨hne, hx⟩
    refine ⟨hx, fun hk => hne ?_⟩
    have := (SortedMap.lookup_eq_some_iff hinv.sorted).mpr (hk ▸ hx : (ptr, x.2) ∈ s.memMaps)
    rw [hl, Option.some.injEq] at this
    exact Prod.ext hk this.symm
  · rintro ⟨hx, hk⟩
    exact ⟨fun he => hk (by rw [he]), hx⟩

theorem mapSpace_free_held_run :
    ∃ n s', runSpace.allocationSize 0x10000 = some n ∧ runSpace.free 0x10000 = some (n, s') ∧
      (∀ x, x ∈ s'.memMaps ↔ x ∈ runSpace.memMaps ∧ x.1 ≠ 0x10000) ∧
      s'.numObjectsAllocated = runSpace.numObjectsAllocated - 1 ∧
      s'.numBytesAllocated = runSpace.numBytesAllocated - n :=
  mapSpace_free_held reachable_runSpace (by decide)

/-- `FreeList` of mapped objects, each once: it returns the sum of their maps' sizes, and leaves
exactly the other maps. -/
theorem mapSpace_freeList (h : Reachable s) {ps : List (Nat × Nat)} (hps : ps.Subperm s.memMaps) :
    ∃ s', freeList contains free (ps.map Prod.fst) s = some ((ps.map Prod.snd).sum, s') ∧
      s'.memMaps = s.memMaps.diff ps ∧ Reachable s' := by
  have hfree : ∀ t live p b, t.memMaps = live ∧ Reachable t → (p, b) ∈ live → True →
      t.contains p = true ∧
        ∃ t', t.free p = some (b, t') ∧ t'.memMaps = live.erase (p, b) ∧ Reachable t' := by
    rintro t _ p b ⟨rfl, ht⟩ hmem -
    have hl := (SortedMap.lookup_eq_some_iff ht.inv.sorted).mpr hmem
    exact ⟨by simp [contains, hl], ht.free_step hmem⟩
  obtain ⟨s', hloop, hmaps, h'⟩ :=
    freeListLoop_held hfree ps 0 s s.memMaps ⟨rfl, h⟩ hps fun _ _ => trivial
  exact ⟨s', by simpa [freeList] using hloop, hmaps, h'⟩

theorem mapSpace_freeList_run :
    ∃ s', freeList contains free ([(0x20000, 0x1000)].map Prod.fst) pairSpace =
      some (([(0x20000, 0x1000)].map Prod.snd).sum, s') ∧
      s'.memMaps = pairSpace.memMaps.diff [(0x20000, 0x1000)] ∧ Reachable s' :=
  mapSpace_freeList reachable_pairSpace (List.singleton_subperm_iff.mpr (by decide))

end LargeObjectMapSpace

end Art
