import AndroidArt.Gc.FreeListSpaceAlloc

/-!
# `Free` of the free-list large object space

`Free` of the model (`Gc/FreeListSpace.lean`), from a state that holds the objects `L`, succeeds on
the address of each of them that ends before `End()`, returns its size and leaves a state that holds
`L` without it. The source merges the freed units with the free block in front of the object, if
there is one, and then with the end free region or with the free block after the object; each of
its paths is one lemma:

* `Inv.free_last`: the last object, whose units join the end free region;
* `Inv.free_isolated`, `Inv.free_mergeNext`, `Inv.free_mergePrev`, `Inv.free_mergeBoth`: an object
  that another object `c` follows, with no free block around it, one after, one before, or both;
* `Inv.free`: the five put together;
* `Inv.free_full`: an object that ends at `End()`, where `GetAddressForAllocationInfo` of the info
  after it fails the `DCHECK_LT` of `GetSlotIndexForAllocationInfo`;
* `Inv.free_eq_none`: `Free` of any other address fails, so that a `Free` that succeeds is one of
  the paths above (`Inv.of_free_eq_some`).

`FreeFacts` is what the first lines of `Free` read of a live object, and `Inv.of_coalesced_insert`
what its last lines must leave for the state to hold the objects again.
-/

set_option autoImplicit false

namespace Art

namespace FreeListSpace

variable {s : FreeListSpace}

/-- What the first lines of `Free` read of a live object `o` that the objects `pre` precede: its
slot, the info `a` of its first unit, and the info `a₁` that `SetByteSize(allocation_size, true)`
makes of it. -/
structure FreeFacts (s : FreeListSpace) (pre : List Obj) (o : Obj) (a a₁ : AllocationInfo) :
    Prop where
  slot : s.getSlotIndexForAddress (s.getAllocationAddressForSlot o.start) = some o.start
  aligned : s.getAllocationAddressForSlot o.start % kAlignment = 0
  info : s.info o.start = some a
  isFree : a.isFree = false
  byteSize : a.byteSize = o.size * kAlignment
  byteSize_ne : o.size * kAlignment ≠ 0
  bytes : ¬ s.numBytesAllocated < o.size * kAlignment
  freed : a.setByteSize (o.size * kAlignment) true = a₁
  alignSize : a₁.alignSize = o.size
  isFree₁ : a₁.isFree = true
  prevFree : a₁.getPrevFree = o.start - topFrom 0 pre
  ordered : (s.setInfo o.start a₁).Ordered

section Inv

variable {L pre post : List Obj} {o : Obj}

/-- A unit that no object of `pre ++ post` starts at, and that is not `o`'s first, is no object's
first unit of `pre ++ o :: post`. -/
theorem start_ne_of_middle {j : Nat} (hnot : ∀ o' ∈ pre ++ post, o'.start ≠ j)
    (hjo : j ≠ o.start) : ∀ o' ∈ pre ++ o :: post, o'.start ≠ j := by
  intro o' ho'
  rw [List.mem_append, List.mem_cons] at ho'
  rcases ho' with ho' | rfl | ho'
  · exact hnot o' (List.mem_append_left _ ho')
  · exact Ne.symm hjo
  · exact hnot o' (List.mem_append_right _ ho')

theorem Inv.next_le_length (h : s.Inv L) (hL : L = pre ++ o :: post) :
    o.next ≤ s.allocationInfo.length := by
  obtain ⟨-, -, -, -, -, hpost⟩ := h.laid.of_eq_append hL
  have htop : topFrom 0 L = topFrom o.next post := by rw [hL, topFrom_append, topFrom_cons]
  exact hpost.le_topFrom.trans (htop ▸ h.top_le)

theorem Inv.start_lt_length (h : s.Inv L) (hL : L = pre ++ o :: post) :
    o.start < s.allocationInfo.length := by
  obtain ⟨-, -, hsize, -, -, -⟩ := h.laid.of_eq_append hL
  have := h.next_le_length hL
  simp only [Obj.next] at this
  omega

/-- The end free region starts at the unit after the last object. -/
theorem Inv.freeEndStart_eq (h : s.Inv L) :
    s.end_ - s.freeEnd = s.getAllocationAddressForSlot (topFrom 0 L) := by
  have hend := h.end_eq
  have hfreeEnd := h.freeEnd_eq
  have htop := h.top_le
  simp only [getAllocationAddressForSlot, kAlignment, kPageSize] at hend hfreeEnd ⊢
  omega

/-- The units up to an object's first lie before the end free region. -/
theorem Inv.getAllocationAddressForSlot_lt_freeEndStart (h : s.Inv L) (hL : L = pre ++ o :: post)
    {j : Nat} (hj : j ≤ o.start) : s.getAllocationAddressForSlot j < s.end_ - s.freeEnd := by
  obtain ⟨-, -, hsize, -, -, hpost⟩ := h.laid.of_eq_append hL
  have htop : o.next ≤ topFrom 0 L := by
    rw [hL, topFrom_append, topFrom_cons]
    exact hpost.le_topFrom
  rw [h.freeEndStart_eq]
  simp only [getAllocationAddressForSlot, Obj.next, kAlignment, kPageSize] at htop ⊢
  omega

/-- The infos up to an object's first are inside the map, where the `DCHECK`s of
`GetSlotIndexForAllocationInfo` hold. -/
theorem Inv.getAddressForAllocationInfo_of_le_start (h : s.Inv L) (hL : L = pre ++ o :: post)
    {j : Nat} (hj : j ≤ o.start) :
    s.getAddressForAllocationInfo j = some (s.getAllocationAddressForSlot j) :=
  getAddressForAllocationInfo_of_lt s (lt_of_le_of_lt hj (h.start_lt_length hL))

/-- An object's first unit is in `free_blocks_` exactly when a free block lies in front of it. -/
theorem Inv.mem_freeBlocks_start_iff (h : s.Inv L) (hL : L = pre ++ o :: post) :
    o.start ∈ s.freeBlocks ↔ topFrom 0 pre < o.start := by
  obtain ⟨-, hq, hsize, -, -, -⟩ := h.laid.of_eq_append hL
  constructor
  · intro hx
    rcases h.mem_freeBlocks_split hL hx with h₁ | ⟨-, h₁⟩ | h₁
    · omega
    · exact h₁
    · simp only [Obj.next] at h₁
      omega
  · exact fun hlt => (h.mem_freeBlocks _).mpr (mem_followers_iff.mpr ⟨pre, o, post, hL, hlt, rfl⟩)

/-- The first unit of the object `c` after `o` is in `free_blocks_` exactly when a free block lies
between them. -/
theorem Inv.mem_freeBlocks_next_iff {c : Obj} (h : s.Inv L) (hL : L = pre ++ o :: c :: post) :
    c.start ∈ s.freeBlocks ↔ o.start + o.size < c.start := by
  have hL' : L = (pre ++ [o]) ++ c :: post := by rw [hL, List.append_assoc]; rfl
  rw [h.mem_freeBlocks_start_iff hL', topFrom_append, topFrom_cons, topFrom_nil]
  rfl

theorem Inv.freeFacts (h : s.Inv L) (hL : L = pre ++ o :: post) :
    ∃ a a₁, FreeFacts s pre o a a₁ := by
  obtain ⟨-, -, hsize, -, ⟨a, ha, hasz, hafree, hapf⟩, -⟩ := h.laid.of_eq_append hL
  have hlen : o.start + o.size ≤ s.allocationInfo.length := h.next_le_length hL
  have hunits := h.units_lt
  have ha₁sz : (a.setByteSize (o.size * kAlignment) true).alignSize = o.size :=
    a.alignSize_setByteSize (by omega) true
  refine ⟨a, _, { slot := getSlotIndexForAddress_getAllocationAddressForSlot s h.end_eq (by omega)
                  aligned := ?_
                  info := ha
                  isFree := hafree
                  byteSize := by rw [AllocationInfo.byteSize, hasz]
                  byteSize_ne := Nat.mul_ne_zero (by omega) (by decide)
                  bytes := ?_
                  freed := rfl
                  alignSize := ha₁sz
                  isFree₁ := a.isFree_setByteSize (by omega) true
                  prevFree := by simp [hapf]
                  ordered := h.sorted.setInfo_of_key s ha (by simp) (by rw [ha₁sz, hasz]) }⟩
  · have := h.aligned
    simp only [getAllocationAddressForSlot, kAlignment, kPageSize] at this ⊢
    omega
  · rw [h.numBytes, hL]
    simp only [List.map_append, List.map_cons, List.sum_append, List.sum_cons, kAlignment,
      kPageSize]
    omega

/-- With a free block in front of the object, `RemoveFreePrev` takes the object's first unit out of
`free_blocks_`. -/
theorem Inv.removeFreePrev_free (h : s.Inv L) (hL : L = pre ++ o :: post) {a a₁ : AllocationInfo}
    (hf : FreeFacts s pre o a a₁) (hlt : topFrom 0 pre < o.start) :
    (s.setInfo o.start a₁).removeFreePrev o.start =
      some ((s.setInfo o.start a₁).eraseFreeBlock o.start) :=
  removeFreePrev_eq _ hf.ordered ((h.mem_freeBlocks_start_iff hL).mpr hlt)
    (info_setInfo_self s (h.start_lt_length hL) a₁)
    (by rw [hf.prevFree]; omega)

/-- Once `Free` has set the info of the object's first unit, that unit is marked free. -/
theorem Inv.isFree_of_freed (h : s.Inv L) (hL : L = pre ++ o :: post) {a a₁ : AllocationInfo}
    (hf : FreeFacts s pre o a a₁) :
    ∀ b, (s.setInfo o.start a₁).info o.start = some b → b.isFree = true := by
  intro b hb
  rw [info_setInfo_self s (h.start_lt_length hL), Option.some.injEq] at hb
  exact hb ▸ hf.isFree₁

/-- `Free` of the last object, with a unit of the map after it: its units, with the free block in
front of it if there is one, join the end free region. -/
theorem Inv.free_last (h : s.Inv L) (hL : L = pre ++ [o])
    (hroom : o.next < s.allocationInfo.length) :
    ∃ s', s.free (s.getAllocationAddressForSlot o.start) = some (o.size * kAlignment, s') ∧
      s'.begin = s.begin ∧ s'.end_ = s.end_ ∧ s'.Inv pre := by
  obtain ⟨a, a₁, hf⟩ := h.freeFacts hL
  obtain ⟨hpre, hq, hsize, hgapInfo, -, -⟩ := h.laid.of_eq_append hL
  have htop : topFrom 0 L = o.next := by rw [hL, topFrom_append, topFrom_cons, topFrom_nil]
  have hlen : o.next ≤ s.allocationInfo.length := htop ▸ h.top_le
  have honext : o.next = o.start + o.size := rfl
  have hunits := h.units_lt
  have hfes : s.end_ - s.freeEnd = s.getAllocationAddressForSlot (o.start + o.size) := by
    rw [h.freeEndStart_eq, htop]
    rfl
  have hna : s.getAddressForAllocationInfo (o.start + o.size) =
      some (s.getAllocationAddressForSlot (o.start + o.size)) :=
    getAddressForAllocationInfo_of_lt s hroom
  have hinfo₁ : ∀ j < topFrom 0 pre, (s.setInfo o.start a₁).info j = s.info j :=
    fun j hj => info_setInfo_of_ne s (by omega) a₁
  have hcount :
      (pre.map Obj.size).sum * kAlignment = s.numBytesAllocated - o.size * kAlignment := by
    rw [h.numBytes, hL]
    simp only [List.map_append, List.map_cons, List.map_nil, List.sum_append, List.sum_cons,
      List.sum_nil, kAlignment, kPageSize]
    omega
  have hfreeEnd := h.freeEnd_eq
  rw [htop] at hfreeEnd
  have hstale : ∀ j b, (s.setInfo o.start a₁).info j = some b → (∀ o' ∈ pre, o'.start ≠ j) →
      b.isFree = true ∨ b.alignSize = 0 := by
    intro j b hb hnot
    by_cases hjo : j = o.start
    · subst hjo
      exact Or.inl (h.isFree_of_freed hL hf b hb)
    · rw [info_setInfo_of_ne s hjo] at hb
      refine h.stale j b hb ?_
      rw [hL]
      exact start_ne_of_middle (by rwa [List.append_nil]) hjo
  rcases hq.eq_or_lt with hG | hG
  · -- no free block in front: the object's units join the region
    have hpfb : a₁.getPrevFreeBytes = 0 := by
      simp [AllocationInfo.getPrevFreeBytes, hf.prevFree, hG]
    simp -zeta only [free, Option.bind_eq_bind, Option.bind_some, hf.slot, hf.aligned, hf.info,
      hf.isFree, hf.byteSize, ne_eq, not_true_eq_false, if_false, Bool.false_eq_true]
    simp only [hf.byteSize_ne, not_true_eq_false, if_false, hf.freed, hf.alignSize, hpfb, if_true,
      end_setInfo, freeEnd_setInfo, getAddressForAllocationInfo_setInfo, hna, Option.bind_some,
      hfes, le_refl, numBytesAllocated_setInfo, hf.bytes, Option.some.injEq, Prod.mk.injEq,
      true_and, exists_eq_left']
    refine ⟨by simp, ?_⟩
    refine { aligned := h.aligned, end_eq := by simpa using h.end_eq, units_lt := by simpa,
             laid := hpre.congr fun j _ hj => hinfo₁ j hj, top_le := by simp; omega,
             freeEnd_eq := ?_, mem_freeBlocks := fun x => ?_, sorted := hf.ordered,
             numObjects := ?_, numBytes := by simp [hcount], stale := hstale }
    · simp only [length_setInfo, hfreeEnd, kAlignment, kPageSize, hG]
      omega
    · rw [freeBlocks_setInfo, h.mem_freeBlocks, hL, followers_append, followers_cons,
        followers_nil, if_neg (by omega)]
      simp
    · simp [h.numObjects, hL]
  · -- the free block in front is taken out of the set, and its units join the region too
    obtain ⟨g, hg, -, -, hgpf⟩ := hgapInfo hG
    have hpfb : a₁.getPrevFreeBytes = (o.start - topFrom 0 pre) * kAlignment := by
      rw [AllocationInfo.getPrevFreeBytes, hf.prevFree]
    have hpfb0 : (o.start - topFrom 0 pre) * kAlignment ≠ 0 :=
      Nat.mul_ne_zero (by omega) (by decide)
    have hcur : o.start - a₁.getPrevFree = topFrom 0 pre := by rw [hf.prevFree]; omega
    have hg₁ : ((s.setInfo o.start a₁).eraseFreeBlock o.start).info (topFrom 0 pre) = some g := by
      rw [info_eraseFreeBlock, info_setInfo_of_ne s (by omega) a₁, hg]
    have hgpfb : g.getPrevFreeBytes = 0 := by simp [AllocationInfo.getPrevFreeBytes, hgpf]
    simp -zeta only [free, Option.bind_eq_bind, Option.bind_some, hf.slot, hf.aligned, hf.info,
      hf.isFree, hf.byteSize, ne_eq, not_true_eq_false, if_false, Bool.false_eq_true]
    simp only [hf.byteSize_ne, not_true_eq_false, if_false,
      Option.bind_some, hf.freed, hf.alignSize, hpfb, hpfb0, not_false_eq_true, if_true,
      h.removeFreePrev_free hL hf hG, hcur, hg₁, hgpfb, end_setInfo, freeEnd_setInfo,
      getAddressForAllocationInfo_setInfo, getAddressForAllocationInfo_eraseFreeBlock, hna, hfes,
      le_refl, numBytesAllocated_eraseFreeBlock, numBytesAllocated_setInfo, hf.bytes,
      Option.some.injEq, Prod.mk.injEq, true_and, exists_eq_left']
    refine ⟨by simp, by simp, ?_⟩
    refine { aligned := h.aligned, end_eq := by simpa using h.end_eq, units_lt := by simpa,
             laid := hpre.congr fun j _ hj => hinfo₁ j hj, top_le := by simp; omega,
             freeEnd_eq := ?_, mem_freeBlocks := fun x => ?_,
             sorted := hf.ordered.eraseFreeBlock _ _, numObjects := ?_,
             numBytes := by simp [hcount], stale := hstale }
    · simp only [allocationInfo_eraseFreeBlock, length_setInfo, freeEnd_eraseFreeBlock,
        freeEnd_setInfo, hfreeEnd, kAlignment, kPageSize]
      omega
    · have hbound : x ∈ followers 0 pre → x < topFrom 0 pre := fun hx => (hpre.mem_followers hx).2
      change x ∈ ((s.setInfo o.start a₁).eraseFreeBlock o.start).freeBlocks ↔ _
      rw [mem_eraseFreeBlock_iff _ hf.ordered, freeBlocks_setInfo, h.mem_freeBlocks, hL,
        followers_append, followers_cons, followers_nil, if_pos hG]
      simp only [List.mem_append, List.mem_singleton, List.not_mem_nil, or_false]
      constructor
      · rintro ⟨hne, hx | rfl⟩
        · exact hx
        · exact absurd rfl hne
      · intro hx
        exact ⟨fun he => absurd (hbound hx) (by omega), Or.inl hx⟩
    · simp [h.numObjects, hL]

/-- `Free` of an object that ends at `End()`: the `DCHECK_LT` of `GetSlotIndexForAllocationInfo` on
the info after it fails, with or without a free block in front of it. -/
theorem Inv.free_full (h : s.Inv L) (hL : L = pre ++ o :: post)
    (hfull : s.allocationInfo.length ≤ o.next) :
    s.free (s.getAllocationAddressForSlot o.start) = none := by
  obtain ⟨a, a₁, hf⟩ := h.freeFacts hL
  obtain ⟨-, hq, -, hgapInfo, -, -⟩ := h.laid.of_eq_append hL
  have hna : s.getAddressForAllocationInfo (o.start + o.size) = none := by
    have hout : ¬ o.start + o.size < s.allocationInfo.length := Nat.not_lt.mpr hfull
    simp [getAddressForAllocationInfo, getSlotIndexForAllocationInfo, hout]
  rcases hq.eq_or_lt with hG | hG
  · have hpfb : a₁.getPrevFreeBytes = 0 := by
      simp [AllocationInfo.getPrevFreeBytes, hf.prevFree, hG]
    simp -zeta only [free, Option.bind_eq_bind, Option.bind_some, hf.slot, hf.aligned, hf.info,
      hf.isFree, hf.byteSize, ne_eq, not_true_eq_false, if_false, Bool.false_eq_true]
    simp only [hf.byteSize_ne, not_true_eq_false, if_false, hf.freed, hf.alignSize, hpfb,
      getAddressForAllocationInfo_setInfo, hna, Option.bind_none]
  · obtain ⟨g, hg, -, -, hgpf⟩ := hgapInfo hG
    have hpfb0 : a₁.getPrevFreeBytes ≠ 0 := by
      rw [AllocationInfo.getPrevFreeBytes, hf.prevFree]
      exact Nat.mul_ne_zero (by omega) (by decide)
    have hcur : o.start - a₁.getPrevFree = topFrom 0 pre := by rw [hf.prevFree]; omega
    have hg₁ : ((s.setInfo o.start a₁).eraseFreeBlock o.start).info (topFrom 0 pre) = some g := by
      rw [info_eraseFreeBlock, info_setInfo_of_ne s (by omega) a₁, hg]
    have hgpfb : g.getPrevFreeBytes = 0 := by simp [AllocationInfo.getPrevFreeBytes, hgpf]
    simp -zeta only [free, Option.bind_eq_bind, Option.bind_some, hf.slot, hf.aligned, hf.info,
      hf.isFree, hf.byteSize, ne_eq, not_true_eq_false, if_false, Bool.false_eq_true]
    simp only [hf.byteSize_ne, not_true_eq_false, if_false, Option.bind_some, hf.freed,
      hf.alignSize, hpfb0, not_false_eq_true, if_true, h.removeFreePrev_free hL hf hG, hcur, hg₁,
      hgpfb, getAddressForAllocationInfo_eraseFreeBlock, getAddressForAllocationInfo_setInfo, hna,
      Option.bind_none]

/-- A `Free` of an object that does not fail is one of an object with a unit of the map after
it. -/
theorem Inv.next_lt_length_of_free (h : s.Inv L) (hL : L = pre ++ o :: post)
    (hfree : s.free (s.getAllocationAddressForSlot o.start) ≠ none) :
    o.next < s.allocationInfo.length :=
  Nat.lt_of_not_le fun hfull => hfree (h.free_full hL hfull)

/-- An object ends before `End()` exactly when a unit of the map follows it. -/
theorem Inv.next_lt_length_iff (h : s.Inv L) (o : Obj) :
    o.next < s.allocationInfo.length ↔
      s.getAllocationAddressForSlot o.start + o.size * kAlignment < s.end_ := by
  have hend := h.end_eq
  simp only [getAllocationAddressForSlot, Obj.next, kAlignment, kPageSize] at hend ⊢
  omega

section Cons

variable {c : Obj}

/-- A state that keeps the infos of `s` outside the units from the end of `pre` to the end of `c`,
has one free block from the end of `pre` to `c` and `c` live after it, `c` in `free_blocks_` in
place of `o`, and counters without `o`, holds the objects without `o`. -/
theorem Inv.of_coalesced (h : s.Inv L) (hL : L = pre ++ o :: c :: post) {S : FreeListSpace}
    (hbegin : S.begin = s.begin) (hend : S.end_ = s.end_)
    (hlen : S.allocationInfo.length = s.allocationInfo.length) (hfe : S.freeEnd = s.freeEnd)
    (hgap : InfoIs S.info (topFrom 0 pre) (c.start - topFrom 0 pre) true 0)
    (hobj : InfoIs S.info c.start c.size false (c.start - topFrom 0 pre))
    (hother : ∀ j, j < topFrom 0 pre ∨ c.next ≤ j → S.info j = s.info j)
    (hmid : ∀ j a, S.info j = some a → topFrom 0 pre < j → j < c.next → j ≠ c.start →
      a.isFree = true ∨ a.alignSize = 0)
    (hmem : ∀ x, x ∈ S.freeBlocks ↔ x = c.start ∨ (x ∈ s.freeBlocks ∧ x ≠ o.start))
    (hord : S.Ordered) (hno : S.numObjectsAllocated = s.numObjectsAllocated - 1)
    (hnb : S.numBytesAllocated = s.numBytesAllocated - o.size * kAlignment) :
    S.Inv (pre ++ c :: post) := by
  obtain ⟨hpre, hq, hsize, -, -, hpost⟩ := h.laid.of_eq_append hL
  obtain ⟨hc₁, hcsize, -, -, hpost'⟩ := (laid_cons _ _ _).mp hpost
  have honext : o.next = o.start + o.size := rfl
  have hcnext : c.next = c.start + c.size := rfl
  have htop : topFrom 0 L = topFrom c.next post := by
    rw [hL, topFrom_append, topFrom_cons, topFrom_cons]
  have htop' : topFrom 0 (pre ++ c :: post) = topFrom 0 L := by
    rw [htop, topFrom_append, topFrom_cons]
  refine { aligned := hbegin ▸ h.aligned
           end_eq := by rw [hend, hbegin, hlen]; exact h.end_eq
           units_lt := hlen ▸ h.units_lt
           laid := ?laid
           top_le := by rw [htop', hlen]; exact h.top_le
           freeEnd_eq := by rw [htop', hlen, hfe]; exact h.freeEnd_eq
           mem_freeBlocks := fun x => ?mem
           sorted := hord
           numObjects := by rw [hno, h.numObjects, hL]; simp
           numBytes := ?bytes
           stale := fun j a ha hnot => ?stale }
  case laid =>
    rw [laid_append, laid_cons]
    exact ⟨hpre.congr fun j _ hj => hother j (Or.inl hj), by omega, hcsize, fun _ => hgap,
      hobj, hpost'.congr fun j hj _ => hother j (Or.inr hj)⟩
  case mem =>
    have hpreB : x ∈ followers 0 pre → x < topFrom 0 pre := fun hx => (hpre.mem_followers hx).2
    have hpostB : x ∈ followers c.next post → c.next < x := fun hx => (hpost'.mem_followers hx).1
    rw [hmem, h.mem_freeBlocks, hL, followers_append, followers_append, followers_cons,
      followers_cons, followers_cons, if_pos (show topFrom 0 pre < c.start by omega)]
    simp only [List.mem_append, List.mem_singleton]
    constructor
    · rintro (rfl | ⟨hx | hx | hx | hx, hne⟩)
      · simp
      · exact Or.inl hx
      · split_ifs at hx with h₁
        · exact absurd (List.mem_singleton.mp hx) hne
        · cases hx
      · split_ifs at hx with h₁
        · exact Or.inr (Or.inl (List.mem_singleton.mp hx))
        · cases hx
      · exact Or.inr (Or.inr hx)
    · rintro (hx | rfl | hx)
      · exact Or.inr ⟨Or.inl hx, fun he => absurd (hpreB hx) (by omega)⟩
      · exact Or.inl rfl
      · exact Or.inr ⟨Or.inr (Or.inr (Or.inr hx)), fun he => absurd (hpostB hx) (by omega)⟩
  case bytes =>
    rw [hnb, h.numBytes, hL]
    simp only [List.map_append, List.map_cons, List.sum_append, List.sum_cons, kAlignment,
      kPageSize]
    omega
  case stale =>
    have hjc : j ≠ c.start := fun he => hnot c (by simp) he.symm
    rcases lt_trichotomy j (topFrom 0 pre) with hj | rfl | hj
    · rw [hother j (Or.inl hj)] at ha
      exact h.stale j a ha (hL ▸ start_ne_of_middle hnot (by omega))
    · obtain ⟨g, hg, -, hgfree, -⟩ := hgap
      rw [hg, Option.some.injEq] at ha
      exact Or.inl (ha ▸ hgfree)
    · by_cases hjn : j < c.next
      · exact hmid j a ha hj hjn hjc
      · rw [hother j (Or.inr (by omega))] at ha
        simp only [Obj.next] at hjn hc₁
        exact h.stale j a ha (hL ▸ start_ne_of_middle hnot (by omega))

/-- No object of `pre ++ c :: post` other than `c` starts between the end of `pre` and the end of
`c`. -/
theorem Inv.start_ne_of_between (h : s.Inv L) (hL : L = pre ++ o :: c :: post) {j : Nat}
    (hqj : topFrom 0 pre < j) (hjc : j < c.next) (hjc' : j ≠ c.start) :
    ∀ o' ∈ pre ++ c :: post, o'.start ≠ j := by
  obtain ⟨hpre, -, -, -, -, hpost⟩ := h.laid.of_eq_append hL
  obtain ⟨-, -, -, -, hpost'⟩ := (laid_cons _ _ _).mp hpost
  intro o' ho'
  rw [List.mem_append, List.mem_cons] at ho'
  rcases ho' with ho' | rfl | ho'
  · have := hpre.next_le_topFrom ho'
    simp only [Obj.next] at this
    omega
  · exact Ne.symm hjc'
  · have := hpost'.sorted.1 o' ho'
    omega

/-- The last lines of `Free` when an object `c` follows: once `t` has taken the free blocks around
`o` out of `free_blocks_`, `c` gets the new block's size before it and goes back into the set, and
the info at the block's start is marked free with the block's size. The state left holds the
objects without `o`. -/
theorem Inv.of_coalesced_insert (h : s.Inv L) (hL : L = pre ++ o :: c :: post)
    {b : AllocationInfo} (hb : s.info c.start = some b) {t S : FreeListSpace} {c' : AllocationInfo}
    {cur N : Nat} (hcur : cur = topFrom 0 pre) (hN : N = (c.start - topFrom 0 pre) * kAlignment)
    (htinfo : ∀ j, j ≠ o.start → t.info j = s.info j)
    (hto : ∀ a, t.info o.start = some a → a.isFree = true) (htord : t.Ordered)
    (htmem : ∀ x, x ∈ t.freeBlocks ↔ x ∈ s.freeBlocks ∧ x ≠ o.start ∧ x ≠ c.start)
    (hc'pf : c'.getPrevFree = 0)
    (htlen : t.allocationInfo.length = s.allocationInfo.length)
    (hbegin : S.begin = s.begin) (hend : S.end_ = s.end_)
    (hlen : S.allocationInfo.length = s.allocationInfo.length) (hfe : S.freeEnd = s.freeEnd)
    (hSinfo : ∀ j, S.info j = (((t.setInfo c.start (b.setPrevFreeBytes N)).insertFreeBlock
        c.start).setInfo cur (c'.setByteSize N true)).info j)
    (hSmem : S.freeBlocks =
      ((t.setInfo c.start (b.setPrevFreeBytes N)).insertFreeBlock c.start).freeBlocks)
    (hno : S.numObjectsAllocated = s.numObjectsAllocated - 1)
    (hnb : S.numBytesAllocated = s.numBytesAllocated - o.size * kAlignment) :
    S.Inv (pre ++ c :: post) := by
  subst hcur hN
  obtain ⟨-, hq, hsize, -, -, hpost⟩ := h.laid.of_eq_append hL
  obtain ⟨hc₁, hcsize, -, ⟨b', hb', hbsz, hbfree, -⟩, -⟩ := (laid_cons _ _ _).mp hpost
  rw [hb, Option.some.injEq] at hb'
  subst hb'
  have hL' : L = (pre ++ [o]) ++ c :: post := by rw [hL, List.append_assoc]; rfl
  have hclen := h.next_le_length hL'
  have hunits := h.units_lt
  simp only [Obj.next] at hc₁ hclen
  have hqc : topFrom 0 pre ≠ c.start := by omega
  have hct : c.start < t.allocationInfo.length := by omega
  have hqt : topFrom 0 pre < t.allocationInfo.length := by omega
  have hnotc : c.start ∉ t.freeBlocks := fun hx => ((htmem _).mp hx).2.2 rfl
  have hnotq : topFrom 0 pre ∉ t.freeBlocks := fun hx => by
    obtain ⟨hx, hne, -⟩ := (htmem _).mp hx
    exact h.not_mem_freeBlocks_of_gap hL le_rfl (lt_of_le_of_ne hq hne) hx
  have hord₄ := (htord.setInfo _ hnotc
    (b.setPrevFreeBytes ((c.start - topFrom 0 pre) * kAlignment))).insertFreeBlock _ c.start
  refine h.of_coalesced hL hbegin hend hlen hfe ?_ ?_ (fun j hj => ?_)
    (fun j a ha hqj hjc hjc' => ?_) (fun x => ?_) ?_ hno hnb
  · exact ⟨_, by rw [hSinfo, info_setInfo_self _ (by simpa using hqt)],
      c'.alignSize_setByteSize (by omega) true, c'.isFree_setByteSize (by omega) true,
      by simp [hc'pf]⟩
  · refine ⟨_, by rw [hSinfo, info_setInfo_of_ne _ hqc.symm, info_insertFreeBlock,
      info_setInfo_self _ hct], by simpa using hbsz, by simpa using hbfree, ?_⟩
    rw [AllocationInfo.getPrevFree_setPrevFreeBytes _ (by omega)]
  · simp only [Obj.next] at hj
    rw [hSinfo, info_setInfo_of_ne _ (by omega), info_insertFreeBlock,
      info_setInfo_of_ne _ (by omega), htinfo j (by omega)]
  · -- between the new block's start and `c`'s end: `o`'s first unit, now free, or what `s` had
    rw [hSinfo, info_setInfo_of_ne _ (by omega), info_insertFreeBlock,
      info_setInfo_of_ne _ hjc'] at ha
    by_cases hjo : j = o.start
    · subst hjo
      exact Or.inl (hto a ha)
    · rw [htinfo j hjo] at ha
      exact h.stale j a ha (hL ▸ start_ne_of_middle (h.start_ne_of_between hL hqj hjc hjc') hjo)
  · rw [hSmem, mem_insertFreeBlock_iff, freeBlocks_setInfo, htmem]
    constructor
    · rintro (rfl | ⟨hx, hne, -⟩)
      · exact Or.inl rfl
      · exact Or.inr ⟨hx, hne⟩
    · rintro (rfl | ⟨hx, hne⟩)
      · exact Or.inl rfl
      · by_cases hxc : x = c.start
        · exact Or.inl hxc
        · exact Or.inr ⟨hx, hne, hxc⟩
  · refine (hord₄.setInfo _ ?_ _).of_info_eq _ hSmem fun j _ => hSinfo j
    rw [mem_insertFreeBlock_iff, freeBlocks_setInfo]
    rintro (hx | hx)
    · exact hqc hx
    · exact hnotq hx

/-- `Free` with no free block around the object: the object's units become the free block in front
of `c`. -/
theorem Inv.free_isolated (h : s.Inv L) (hL : L = pre ++ o :: c :: post)
    (hG₁ : topFrom 0 pre = o.start) (hG₂ : c.start = o.start + o.size) :
    ∃ s', s.free (s.getAllocationAddressForSlot o.start) = some (o.size * kAlignment, s') ∧
      s'.begin = s.begin ∧ s'.end_ = s.end_ ∧ s'.Inv (pre ++ c :: post) := by
  obtain ⟨a, a₁, hf⟩ := h.freeFacts hL
  obtain ⟨-, -, hsize, -, -, hpost⟩ := h.laid.of_eq_append hL
  obtain ⟨-, -, -, ⟨b, hb, -, hbfree, -⟩, -⟩ := (laid_cons _ _ _).mp hpost
  have hL' : L = (pre ++ [o]) ++ c :: post := by rw [hL, List.append_assoc]; rfl
  have hclen := h.next_le_length hL'
  have hunits := h.units_lt
  simp only [Obj.next] at hclen
  have hfes : ¬ s.end_ - s.freeEnd ≤ s.getAllocationAddressForSlot c.start :=
    not_le.mpr (h.getAllocationAddressForSlot_lt_freeEndStart hL' le_rfl)
  have hna := h.getAddressForAllocationInfo_of_le_start hL' (le_refl c.start)
  have hpfb : a₁.getPrevFreeBytes = 0 := by
    simp [AllocationInfo.getPrevFreeBytes, hf.prevFree, hG₁]
  have hn : (s.setInfo o.start a₁).info c.start = some b := by
    rw [info_setInfo_of_ne s (by omega), hb]
  have hc' : (((s.setInfo o.start a₁).setInfo c.start
      (b.setPrevFreeBytes (o.size * kAlignment))).insertFreeBlock c.start).info o.start =
        some a₁ := by
    rw [info_insertFreeBlock, info_setInfo_of_ne _ (by omega), info_setInfo_self _ (by omega)]
  have hc''sz : (a₁.setByteSize (o.size * kAlignment) true).alignSize = o.size :=
    a₁.alignSize_setByteSize (by omega) true
  simp -zeta only [free, Option.bind_eq_bind, Option.bind_some, hf.slot, hf.aligned, hf.info,
    hf.isFree, hf.byteSize, ne_eq, not_true_eq_false, if_false, Bool.false_eq_true]
  simp only [hf.byteSize_ne, not_true_eq_false, if_false, Bool.false_eq_true,
    Option.bind_some, hf.freed, hf.alignSize, hpfb, ← hG₂, end_setInfo, freeEnd_setInfo,
    getAddressForAllocationInfo_setInfo, hna, hfes, hn, hbfree, hc', hc''sz,
    numBytesAllocated_setInfo, numBytesAllocated_insertFreeBlock, hf.bytes, Option.some.injEq,
    Prod.mk.injEq, true_and, exists_eq_left']
  have hnoto : o.start ∉ s.freeBlocks := fun hx => by
    have := (h.mem_freeBlocks_start_iff hL).mp hx
    omega
  have hnotc : c.start ∉ s.freeBlocks := fun hx => by
    have := (h.mem_freeBlocks_next_iff hL).mp hx
    omega
  refine ⟨by simp, by simp, h.of_coalesced_insert hL hb hG₁.symm
    (by rw [hG₁, hG₂, Nat.add_sub_cancel_left]) (fun j hj => info_setInfo_of_ne s hj a₁)
    (h.isFree_of_freed hL hf) hf.ordered (fun x => ?_) (by rw [hf.prevFree, hG₁, Nat.sub_self])
    (by simp) (by simp) (by simp) (by simp) (by simp) (fun j => rfl) rfl (by simp) rfl⟩
  rw [freeBlocks_setInfo]
  constructor
  · intro hx
    exact ⟨hx, fun he => hnoto (he ▸ hx), fun he => hnotc (he ▸ hx)⟩
  · exact fun hx => hx.1

/-- `Free` with a free block after the object only: `c` leaves `free_blocks_` before it goes back
with the merged block's size. -/
theorem Inv.free_mergeNext (h : s.Inv L) (hL : L = pre ++ o :: c :: post)
    (hG₁ : topFrom 0 pre = o.start) (hG₂ : o.start + o.size < c.start) :
    ∃ s', s.free (s.getAllocationAddressForSlot o.start) = some (o.size * kAlignment, s') ∧
      s'.begin = s.begin ∧ s'.end_ = s.end_ ∧ s'.Inv (pre ++ c :: post) := by
  obtain ⟨a, a₁, hf⟩ := h.freeFacts hL
  obtain ⟨-, -, hsize, -, -, hpost⟩ := h.laid.of_eq_append hL
  obtain ⟨-, -, hgap₂Info, ⟨b, hb, -, hbfree, hbpf⟩, -⟩ := (laid_cons _ _ _).mp hpost
  obtain ⟨g₂, hg₂, hg₂sz, hg₂free, -⟩ := hgap₂Info hG₂
  have hL' : L = (pre ++ [o]) ++ c :: post := by rw [hL, List.append_assoc]; rfl
  have hclen := h.next_le_length hL'
  have hunits := h.units_lt
  simp only [Obj.next] at hclen hg₂ hg₂sz hbpf
  have hfes : ¬ s.end_ - s.freeEnd ≤ s.getAllocationAddressForSlot (o.start + o.size) :=
    not_le.mpr (h.getAllocationAddressForSlot_lt_freeEndStart hL' hG₂.le)
  have hna := h.getAddressForAllocationInfo_of_le_start hL' hG₂.le
  have hpfb : a₁.getPrevFreeBytes = 0 := by
    simp [AllocationInfo.getPrevFreeBytes, hf.prevFree, hG₁]
  have hn : (s.setInfo o.start a₁).info (o.start + o.size) = some g₂ := by
    rw [info_setInfo_of_ne s (by omega), hg₂]
  have hcs : o.start + o.size + g₂.alignSize = c.start := by rw [hg₂sz]; omega
  have hbc : (s.setInfo o.start a₁).info c.start = some b := by
    rw [info_setInfo_of_ne s (by omega), hb]
  have hrp : (s.setInfo o.start a₁).removeFreePrev c.start =
      some ((s.setInfo o.start a₁).eraseFreeBlock c.start) :=
    removeFreePrev_eq _ hf.ordered ((h.mem_freeBlocks_next_iff hL).mpr hG₂) hbc (by omega)
  have hN : o.size * kAlignment + b.getPrevFreeBytes = (c.start - topFrom 0 pre) * kAlignment := by
    rw [AllocationInfo.getPrevFreeBytes, hbpf, hG₁, ← Nat.add_mul]
    congr 1
    omega
  have hc' : ((((s.setInfo o.start a₁).eraseFreeBlock c.start).setInfo c.start
      (b.setPrevFreeBytes ((c.start - topFrom 0 pre) * kAlignment))).insertFreeBlock
        c.start).info o.start = some a₁ := by
    rw [info_insertFreeBlock, info_setInfo_of_ne _ (by omega), info_eraseFreeBlock,
      info_setInfo_self _ (by omega)]
  have hsz : (a₁.setByteSize ((c.start - topFrom 0 pre) * kAlignment) true).alignSize =
      c.start - topFrom 0 pre := a₁.alignSize_setByteSize (by omega) true
  have hchk : o.start + (c.start - topFrom 0 pre) = c.start := by omega
  simp -zeta only [free, Option.bind_eq_bind, Option.bind_some, hf.slot, hf.aligned, hf.info,
    hf.isFree, hf.byteSize, ne_eq, not_true_eq_false, if_false, Bool.false_eq_true]
  simp only [hf.byteSize_ne, not_true_eq_false, if_false, Bool.false_eq_true,
    Option.bind_some, hf.freed, hf.alignSize, hpfb, end_setInfo, freeEnd_setInfo,
    getAddressForAllocationInfo_setInfo, hna, hfes, hn, hg₂free, if_true, hcs, hbc, hbfree, hrp,
    info_eraseFreeBlock, hN, hc', hsz, hchk, numBytesAllocated_setInfo,
    numBytesAllocated_insertFreeBlock, numBytesAllocated_eraseFreeBlock, hf.bytes,
    Option.some.injEq, Prod.mk.injEq, true_and, exists_eq_left']
  have hnoto : o.start ∉ s.freeBlocks := fun hx => by
    have := (h.mem_freeBlocks_start_iff hL).mp hx
    omega
  refine ⟨by simp, by simp, h.of_coalesced_insert (t := (s.setInfo o.start a₁).eraseFreeBlock c.start)
    hL hb hG₁.symm rfl (fun j hj => info_setInfo_of_ne s hj a₁) (h.isFree_of_freed hL hf)
    (hf.ordered.eraseFreeBlock _ _)
    (fun x => ?_) (by rw [hf.prevFree, hG₁, Nat.sub_self]) (by simp) (by simp) (by simp)
    (by simp) (by simp) (fun j => rfl) rfl (by simp) rfl⟩
  rw [mem_eraseFreeBlock_iff _ hf.ordered, freeBlocks_setInfo]
  constructor
  · rintro ⟨hne', hx⟩
    exact ⟨hx, fun he => hnoto (he ▸ hx), hne'⟩
  · rintro ⟨hx, -, hne'⟩
    exact ⟨hne', hx⟩

/-- `Free` with a free block in front of the object only: that block leaves `free_blocks_`, and the
merged block starts where it starts and ends at `c`. -/
theorem Inv.free_mergePrev (h : s.Inv L) (hL : L = pre ++ o :: c :: post)
    (hG₁ : topFrom 0 pre < o.start) (hG₂ : c.start = o.start + o.size) :
    ∃ s', s.free (s.getAllocationAddressForSlot o.start) = some (o.size * kAlignment, s') ∧
      s'.begin = s.begin ∧ s'.end_ = s.end_ ∧ s'.Inv (pre ++ c :: post) := by
  obtain ⟨a, a₁, hf⟩ := h.freeFacts hL
  obtain ⟨-, -, hsize, hgapInfo, -, hpost⟩ := h.laid.of_eq_append hL
  obtain ⟨-, -, -, ⟨b, hb, -, hbfree, -⟩, -⟩ := (laid_cons _ _ _).mp hpost
  obtain ⟨g, hg, -, -, hgpf⟩ := hgapInfo hG₁
  have hL' : L = (pre ++ [o]) ++ c :: post := by rw [hL, List.append_assoc]; rfl
  have hclen := h.next_le_length hL'
  have hunits := h.units_lt
  simp only [Obj.next] at hclen
  have hfes : ¬ s.end_ - s.freeEnd ≤ s.getAllocationAddressForSlot c.start :=
    not_le.mpr (h.getAllocationAddressForSlot_lt_freeEndStart hL' le_rfl)
  have hna := h.getAddressForAllocationInfo_of_le_start hL' (le_refl c.start)
  have hpfb : a₁.getPrevFreeBytes = (o.start - topFrom 0 pre) * kAlignment := by
    rw [AllocationInfo.getPrevFreeBytes, hf.prevFree]
  have hpfb0 : (o.start - topFrom 0 pre) * kAlignment ≠ 0 := Nat.mul_ne_zero (by omega) (by decide)
  have hcur : o.start - a₁.getPrevFree = topFrom 0 pre := by rw [hf.prevFree]; omega
  have hg₁ : ((s.setInfo o.start a₁).eraseFreeBlock o.start).info (topFrom 0 pre) = some g := by
    rw [info_eraseFreeBlock, info_setInfo_of_ne s (by omega) a₁, hg]
  have hgpfb : g.getPrevFreeBytes = 0 := by simp [AllocationInfo.getPrevFreeBytes, hgpf]
  have hn : ((s.setInfo o.start a₁).eraseFreeBlock o.start).info c.start = some b := by
    rw [info_eraseFreeBlock, info_setInfo_of_ne s (by omega), hb]
  have hN : o.size * kAlignment + (o.start - topFrom 0 pre) * kAlignment =
      (c.start - topFrom 0 pre) * kAlignment := by
    rw [← Nat.add_mul]
    congr 1
    omega
  have hc' : ((((s.setInfo o.start a₁).eraseFreeBlock o.start).setInfo c.start
      (b.setPrevFreeBytes ((c.start - topFrom 0 pre) * kAlignment))).insertFreeBlock
        c.start).info (topFrom 0 pre) = some g := by
    rw [info_insertFreeBlock, info_setInfo_of_ne _ (by omega), hg₁]
  have hsz : (g.setByteSize ((c.start - topFrom 0 pre) * kAlignment) true).alignSize =
      c.start - topFrom 0 pre := g.alignSize_setByteSize (by omega) true
  have hchk : topFrom 0 pre + (c.start - topFrom 0 pre) = c.start := by omega
  simp -zeta only [free, Option.bind_eq_bind, Option.bind_some, hf.slot, hf.aligned, hf.info,
    hf.isFree, hf.byteSize, ne_eq, not_true_eq_false, if_false, Bool.false_eq_true]
  simp only [hf.byteSize_ne, not_true_eq_false, if_false, Bool.false_eq_true,
    Option.bind_some, hf.freed, hf.alignSize, hpfb, hpfb0, not_false_eq_true, if_true,
    h.removeFreePrev_free hL hf hG₁, hcur, hg₁, hgpfb, ← hG₂, end_setInfo, freeEnd_setInfo,
    getAddressForAllocationInfo_setInfo, getAddressForAllocationInfo_eraseFreeBlock, hna, hfes, hn,
    hbfree, hN, hc', hsz, hchk, numBytesAllocated_setInfo, numBytesAllocated_insertFreeBlock,
    numBytesAllocated_eraseFreeBlock, hf.bytes, Option.some.injEq, Prod.mk.injEq, true_and,
    exists_eq_left']
  refine ⟨by simp, by simp, h.of_coalesced_insert (t := (s.setInfo o.start a₁).eraseFreeBlock o.start)
    hL hb rfl rfl (fun j hj => info_setInfo_of_ne s hj a₁) (h.isFree_of_freed hL hf)
    (hf.ordered.eraseFreeBlock _ _) (fun x => ?_) hgpf (by simp) (by simp) (by simp) (by simp)
    (by simp) (fun j => rfl) rfl
    (by simp) rfl⟩
  rw [mem_eraseFreeBlock_iff _ hf.ordered, freeBlocks_setInfo]
  constructor
  · rintro ⟨hne', hx⟩
    refine ⟨hx, hne', fun he => ?_⟩
    have := (h.mem_freeBlocks_next_iff hL).mp (he ▸ hx)
    omega
  · rintro ⟨hx, hne', -⟩
    exact ⟨hne', hx⟩

/-- `Free` with free blocks on both sides of the object: both leave `free_blocks_`, and the merged
block runs from the start of the one in front to `c`. -/
theorem Inv.free_mergeBoth (h : s.Inv L) (hL : L = pre ++ o :: c :: post)
    (hG₁ : topFrom 0 pre < o.start) (hG₂ : o.start + o.size < c.start) :
    ∃ s', s.free (s.getAllocationAddressForSlot o.start) = some (o.size * kAlignment, s') ∧
      s'.begin = s.begin ∧ s'.end_ = s.end_ ∧ s'.Inv (pre ++ c :: post) := by
  obtain ⟨a, a₁, hf⟩ := h.freeFacts hL
  obtain ⟨-, -, hsize, hgapInfo, -, hpost⟩ := h.laid.of_eq_append hL
  obtain ⟨-, -, hgap₂Info, ⟨b, hb, -, hbfree, hbpf⟩, -⟩ := (laid_cons _ _ _).mp hpost
  obtain ⟨g, hg, -, -, hgpf⟩ := hgapInfo hG₁
  obtain ⟨g₂, hg₂, hg₂sz, hg₂free, -⟩ := hgap₂Info hG₂
  have hL' : L = (pre ++ [o]) ++ c :: post := by rw [hL, List.append_assoc]; rfl
  have hclen := h.next_le_length hL'
  have hunits := h.units_lt
  simp only [Obj.next] at hclen hg₂ hg₂sz hbpf
  have hfes : ¬ s.end_ - s.freeEnd ≤ s.getAllocationAddressForSlot (o.start + o.size) :=
    not_le.mpr (h.getAllocationAddressForSlot_lt_freeEndStart hL' hG₂.le)
  have hna := h.getAddressForAllocationInfo_of_le_start hL' hG₂.le
  have hpfb : a₁.getPrevFreeBytes = (o.start - topFrom 0 pre) * kAlignment := by
    rw [AllocationInfo.getPrevFreeBytes, hf.prevFree]
  have hpfb0 : (o.start - topFrom 0 pre) * kAlignment ≠ 0 := Nat.mul_ne_zero (by omega) (by decide)
  have hcur : o.start - a₁.getPrevFree = topFrom 0 pre := by rw [hf.prevFree]; omega
  have hinfo₂ : ∀ j, j ≠ o.start →
      ((s.setInfo o.start a₁).eraseFreeBlock o.start).info j = s.info j :=
    fun j hj => info_setInfo_of_ne s hj a₁
  have hmem₂ : ∀ x, x ∈ ((s.setInfo o.start a₁).eraseFreeBlock o.start).freeBlocks ↔
      x ≠ o.start ∧ x ∈ s.freeBlocks := fun x => by
    rw [mem_eraseFreeBlock_iff _ hf.ordered, freeBlocks_setInfo]
  have hg₁ : ((s.setInfo o.start a₁).eraseFreeBlock o.start).info (topFrom 0 pre) = some g := by
    rw [hinfo₂ _ (by omega), hg]
  have hgpfb : g.getPrevFreeBytes = 0 := by simp [AllocationInfo.getPrevFreeBytes, hgpf]
  have hn : ((s.setInfo o.start a₁).eraseFreeBlock o.start).info (o.start + o.size) =
      some g₂ := by
    rw [hinfo₂ _ (by omega), hg₂]
  have hcs : o.start + o.size + g₂.alignSize = c.start := by rw [hg₂sz]; omega
  have hbc : ((s.setInfo o.start a₁).eraseFreeBlock o.start).info c.start = some b := by
    rw [hinfo₂ _ (by omega), hb]
  have hrp₂ : ((s.setInfo o.start a₁).eraseFreeBlock o.start).removeFreePrev c.start =
      some (((s.setInfo o.start a₁).eraseFreeBlock o.start).eraseFreeBlock c.start) :=
    removeFreePrev_eq _ (hf.ordered.eraseFreeBlock _ _)
      ((hmem₂ _).mpr ⟨by omega, (h.mem_freeBlocks_next_iff hL).mpr hG₂⟩) hbc (by omega)
  have hbc₂ : (((s.setInfo o.start a₁).eraseFreeBlock o.start).eraseFreeBlock c.start).info
      c.start = some b := hbc
  have hN : o.size * kAlignment + (o.start - topFrom 0 pre) * kAlignment + b.getPrevFreeBytes =
      (c.start - topFrom 0 pre) * kAlignment := by
    rw [AllocationInfo.getPrevFreeBytes, hbpf, ← Nat.add_mul, ← Nat.add_mul]
    congr 1
    omega
  have hc' : (((((s.setInfo o.start a₁).eraseFreeBlock o.start).eraseFreeBlock c.start).setInfo
      c.start (b.setPrevFreeBytes ((c.start - topFrom 0 pre) * kAlignment))).insertFreeBlock
        c.start).info (topFrom 0 pre) = some g := by
    rw [info_insertFreeBlock, info_setInfo_of_ne _ (by omega), info_eraseFreeBlock, hg₁]
  have hsz : (g.setByteSize ((c.start - topFrom 0 pre) * kAlignment) true).alignSize =
      c.start - topFrom 0 pre := g.alignSize_setByteSize (by omega) true
  have hchk : topFrom 0 pre + (c.start - topFrom 0 pre) = c.start := by omega
  simp -zeta only [free, Option.bind_eq_bind, Option.bind_some, hf.slot, hf.aligned, hf.info,
    hf.isFree, hf.byteSize, ne_eq, not_true_eq_false, if_false, Bool.false_eq_true]
  simp only [hf.byteSize_ne, not_true_eq_false, if_false, Bool.false_eq_true,
    Option.bind_some, hf.freed, hf.alignSize, hpfb, hpfb0, not_false_eq_true, if_true,
    h.removeFreePrev_free hL hf hG₁, hcur, hg₁, hgpfb, end_setInfo, freeEnd_setInfo,
    getAddressForAllocationInfo_setInfo, getAddressForAllocationInfo_eraseFreeBlock, hna, hfes, hn,
    hg₂free, hcs, hbc, hbfree, hrp₂, hbc₂, hN, hc', hsz, hchk,
    numBytesAllocated_setInfo, numBytesAllocated_insertFreeBlock,
    numBytesAllocated_eraseFreeBlock, hf.bytes, Option.some.injEq, Prod.mk.injEq, true_and,
    exists_eq_left']
  refine ⟨by simp, by simp, h.of_coalesced_insert
    (t := ((s.setInfo o.start a₁).eraseFreeBlock o.start).eraseFreeBlock c.start) hL hb rfl rfl
    hinfo₂ (h.isFree_of_freed hL hf) ((hf.ordered.eraseFreeBlock _ _).eraseFreeBlock _ _)
    (fun x => ?_) hgpf (by simp)
    (by simp) (by simp) (by simp) (by simp) (fun j => rfl) rfl (by simp) rfl⟩
  rw [mem_eraseFreeBlock_iff _ (hf.ordered.eraseFreeBlock _ _), hmem₂]
  constructor
  · rintro ⟨hxc, hxo, hx⟩
    exact ⟨hx, hxo, hxc⟩
  · rintro ⟨hx, hxo, hxc⟩
    exact ⟨hxc, hxo, hx⟩

/-- `Free` of an object that another object `c` follows. -/
theorem Inv.free_cons (h : s.Inv L) (hL : L = pre ++ o :: c :: post) :
    ∃ s', s.free (s.getAllocationAddressForSlot o.start) = some (o.size * kAlignment, s') ∧
      s'.begin = s.begin ∧ s'.end_ = s.end_ ∧ s'.Inv (pre ++ c :: post) := by
  obtain ⟨-, hq, -, -, -, hpost⟩ := h.laid.of_eq_append hL
  obtain ⟨hc₁, -⟩ := (laid_cons _ _ _).mp hpost
  rcases hq.eq_or_lt with hG₁ | hG₁ <;> rcases hc₁.eq_or_lt with hG₂ | hG₂
  · exact h.free_isolated hL hG₁ hG₂.symm
  · exact h.free_mergeNext hL hG₁ hG₂
  · exact h.free_mergePrev hL hG₁ hG₂.symm
  · exact h.free_mergeBoth hL hG₁ hG₂

end Cons

/-- `Free` of any object of a state that holds the objects `L` and that does not end at `End()`: it
returns the object's size and leaves a state that holds the other objects. -/
theorem Inv.free (h : s.Inv L) (hL : L = pre ++ o :: post)
    (hroom : o.next < s.allocationInfo.length) :
    ∃ s', s.free (s.getAllocationAddressForSlot o.start) = some (o.size * kAlignment, s') ∧
      s'.begin = s.begin ∧ s'.end_ = s.end_ ∧ s'.Inv (pre ++ post) := by
  cases post with
  | nil => simpa using h.free_last hL hroom
  | cons c post => exact h.free_cons hL

/-- `Free` of an address that is no object's first unit fails one of its first checks: the address
is outside the space or not aligned, or its unit's info is free or of size 0. -/
theorem Inv.free_eq_none (h : s.Inv L) {obj : Nat}
    (hobj : ∀ o ∈ L, s.getAllocationAddressForSlot o.start ≠ obj) : s.free obj = none := by
  rcases hslot : s.getSlotIndexForAddress obj with _ | i
  · simp -zeta only [FreeListSpace.free, Option.bind_eq_bind, hslot, Option.bind_none]
  by_cases halign : obj % kAlignment = 0
  · -- `obj` names the unit `i`, which is no object's first
    have haddr : s.getAllocationAddressForSlot i = obj := by
      have hb := h.aligned
      simp only [getSlotIndexForAddress] at hslot
      split_ifs at hslot with hin
      cases hslot
      simp only [getAllocationAddressForSlot, kAlignment, kPageSize] at hb halign ⊢
      omega
    rcases hi : s.info i with _ | a
    · simp -zeta only [FreeListSpace.free, Option.bind_eq_bind, hslot, Option.bind_some,
        halign, hi, ne_eq, not_true_eq_false, if_false, Option.bind_none]
      simp only
    have hnot : ∀ o ∈ L, o.start ≠ i := fun o ho he => hobj o ho (he ▸ haddr)
    rcases h.stale i a hi hnot with hfree | hzero
    · simp -zeta only [FreeListSpace.free, Option.bind_eq_bind, hslot, Option.bind_some,
        halign, hi, hfree, ne_eq, not_true_eq_false, if_false, if_true]
      simp only [Option.bind_none]
    · simp -zeta only [FreeListSpace.free, Option.bind_eq_bind, hslot, Option.bind_some,
        halign, hi, AllocationInfo.byteSize, hzero, Nat.zero_mul, ne_eq, not_true_eq_false,
        if_false]
      simp only [if_true, Option.bind_none, ite_self]
  · simp -zeta only [FreeListSpace.free, Option.bind_eq_bind, hslot, Option.bind_some, halign,
      ne_eq, not_false_eq_true, if_true]
    simp only [Option.bind_none]

/-- A `Free` that succeeds is one of an object of the layout: it returns the object's size and
leaves a state that holds the other objects. -/
theorem Inv.of_free_eq_some (h : s.Inv L) {obj n : Nat} {s' : FreeListSpace}
    (hfree : s.free obj = some (n, s')) :
    ∃ pre o post, L = pre ++ o :: post ∧ obj = s.getAllocationAddressForSlot o.start ∧
      n = o.size * kAlignment ∧ s'.begin = s.begin ∧ s'.end_ = s.end_ ∧ s'.Inv (pre ++ post) := by
  obtain ⟨o, ho, rfl⟩ : ∃ o ∈ L, s.getAllocationAddressForSlot o.start = obj := by
    by_contra hne
    rw [h.free_eq_none fun o ho he => hne ⟨o, ho, he⟩] at hfree
    cases hfree
  obtain ⟨pre, post, hL⟩ := List.append_of_mem ho
  obtain ⟨s'', hfree', hbegin, hend, hinv'⟩ :=
    h.free hL (h.next_lt_length_of_free hL (by simp [hfree]))
  rw [hfree] at hfree'
  obtain ⟨rfl, rfl⟩ := Prod.mk.inj (Option.some.inj hfree')
  exact ⟨pre, o, post, hL, rfl, rfl, hbegin, hend, hinv'⟩

end Inv

end FreeListSpace

end Art
