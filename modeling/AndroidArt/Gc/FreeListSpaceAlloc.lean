import AndroidArt.Gc.FreeListSpaceInv

/-!
# `Alloc` of the free-list large object space

`Alloc` of the model (`Gc/FreeListSpace.lean`) keeps the invariant of `Gc/FreeListSpaceInv.lean`
and places its object by best fit.

* `allocAt_spec`, `alloc_fit_spec`, `alloc_end_spec` — what the code writes: for an object at the
  start of the free block in front of the info `free_blocks_.lower_bound` finds, and for one at the
  start of the end free region.
* `AllocSpec` — best fit over the objects: the object takes the first units of a free block of the
  fewest units that holds it; when none does, the start of the end free region if that holds it;
  otherwise nothing is allocated.
* `Inv.alloc` — `Alloc` of between one byte and 2^43 bytes, from a state that holds the objects
  `L`, returns, and the state holds the objects `AllocSpec` gives.
-/

set_option autoImplicit false

namespace Art

namespace FreeListSpace

variable {s : FreeListSpace}

/-! ## What the code writes -/

/-- The end of `Alloc`: the info at `newInfo` marked live with the allocation's size and no free
block before it, and the counters. -/
theorem allocAt_spec (bytes : Nat) {newInfo : Nat} {b : AllocationInfo}
    (hb : s.info newInfo = some b) :
    ∃ s', s.allocAt newInfo bytes = some (some (s.getAllocationAddressForSlot newInfo, bytes), s') ∧
      s'.begin = s.begin ∧ s'.end_ = s.end_ ∧
      s'.allocationInfo.length = s.allocationInfo.length ∧ s'.freeEnd = s.freeEnd ∧
      s'.freeBlocks = s.freeBlocks ∧
      (∀ j, s'.info j = if j = newInfo then some ((b.setPrevFreeBytes 0).setByteSize bytes false)
        else s.info j) ∧
      s'.numObjectsAllocated = s.numObjectsAllocated + 1 ∧
      s'.numBytesAllocated = s.numBytesAllocated + bytes := by
  refine ⟨({ s with
      numObjectsAllocated := s.numObjectsAllocated + 1
      numBytesAllocated := s.numBytesAllocated + bytes }).setInfo newInfo
        ((b.setPrevFreeBytes 0).setByteSize bytes false),
    allocAt_of_info _ hb, rfl, rfl, length_setInfo _ _ _, rfl, rfl, fun j => ?_, rfl, rfl⟩
  rw [info_setInfo]
  split_ifs with hj
  · subst hj
    change (s.info j).map _ = _
    rw [hb]
    rfl
  · rfl

/-- `Alloc` of `m` units through `free_blocks_`: `lower_bound` finds the info `i` after a free
block of `G ≥ m` units.  The object takes the block's first `m` units; the rest of the block, if
any, stays free and `i` goes back into the set with the rest's size before it. -/
theorem alloc_fit_spec (hord : s.Ordered) {numBytes m q G i : Nat} {a : AllocationInfo}
    (hm : Align.roundUp numBytes kAlignment = m * kAlignment) (hm32 : m < 2 ^ 32)
    (hmpos : 0 < m) (hlb : s.lowerBoundTemp m = some i) (ha : s.info i = some a)
    (hG : a.getPrevFree = G) (hqi : q + G = i) (hfit : m ≤ G) (hG27 : G < 2 ^ 27)
    (hlen : i < s.allocationInfo.length) (hstart : q ∉ s.freeBlocks)
    (hrest : m < G → q + m ∉ s.freeBlocks) :
    ∃ s', s.alloc numBytes =
        some (some (s.getAllocationAddressForSlot q, m * kAlignment), s') ∧
      s'.begin = s.begin ∧ s'.end_ = s.end_ ∧
      s'.allocationInfo.length = s.allocationInfo.length ∧ s'.freeEnd = s.freeEnd ∧
      InfoIs s'.info q m false 0 ∧
      (m < G → InfoIs s'.info (q + m) (G - m) true 0) ∧
      InfoIs s'.info i a.alignSize a.isFree (G - m) ∧
      (∀ j, j ≠ q → j ≠ q + m → j ≠ i → s'.info j = s.info j) ∧
      (∀ x, x ∈ s'.freeBlocks ↔ (x ≠ i ∧ x ∈ s.freeBlocks) ∨ (x = i ∧ m < G)) ∧
      s'.Ordered ∧ s'.numObjectsAllocated = s.numObjectsAllocated + 1 ∧
      s'.numBytesAllocated = s.numBytesAllocated + m * kAlignment := by
  obtain rfl : q = i - G := by omega
  have hGi : G ≤ i := by omega
  have htemp : (BitVec.ofNat 32 (m * kAlignment / kAlignment)).toNat = m := by
    rw [Nat.mul_div_cancel m (by decide), BitVec.toNat_ofNat, Nat.mod_eq_of_lt hm32]
  have hbytes : a.getPrevFreeBytes - m * kAlignment = (G - m) * kAlignment := by
    rw [AllocationInfo.getPrevFreeBytes, hG, Nat.sub_mul]
  have hGne : G ≠ 0 := by omega
  set a' := a.setPrevFreeBytes ((G - m) * kAlignment) with ha'
  have hpf : a'.getPrevFree = G - m := a.getPrevFree_setPrevFreeBytes (by omega)
  have hpfb : a'.getPrevFreeBytes = (G - m) * kAlignment := by
    rw [AllocationInfo.getPrevFreeBytes, hpf]
  have hia : InfoIs (((s.eraseFreeBlock i).setInfo i a').info) i a.alignSize a.isFree (G - m) :=
    ⟨a', by rw [info_setInfo_self _ (by simpa using hlen)], rfl, rfl, hpf⟩
  obtain ⟨b, hb⟩ := exists_info s (show i - G < s.allocationInfo.length by omega)
  have hordErase : ((s.eraseFreeBlock i).setInfo i a').Ordered :=
    (hord.eraseFreeBlock s i).setInfo _
      (fun hi => (List.Nodup.mem_erase_iff (hord.imp fun hab =>
        ne_of_apply_ne s.blockKey (ne_of_lt hab))).mp hi |>.1 rfl) a'
  have hobj : ∀ t : FreeListSpace, t.info (i - G) =
      some ((b.setPrevFreeBytes 0).setByteSize (m * kAlignment) false) →
      InfoIs t.info (i - G) m false 0 := fun t ht =>
    ⟨_, ht, AllocationInfo.alignSize_setByteSize _ (by omega) false,
      AllocationInfo.isFree_setByteSize _ (by omega) false, by simp⟩
  by_cases hmG : m < G
  · -- the rest of the block stays free
    have hnf : i - (G - m) = i - G + m := by omega
    have hrem : 0 < (G - m) * kAlignment := Nat.mul_pos (by omega) (by decide)
    obtain ⟨f, hf⟩ := exists_info s (show i - G + m < s.allocationInfo.length by omega)
    set f' := (f.setPrevFreeBytes 0).setByteSize ((G - m) * kAlignment) true with hf'
    have hf₂ : ((s.eraseFreeBlock i).setInfo i a').info (i - G + m) = some f := by
      rw [info_setInfo_of_ne _ (by omega), info_eraseFreeBlock, hf]
    set s₃ := ((s.eraseFreeBlock i).setInfo i a').setInfo (i - G + m) f' with hs₃
    have hinfo₃ : ∀ j, j ≠ i - G + m → j ≠ i → s₃.info j = s.info j := fun j h₁ h₂ => by
      rw [hs₃, info_setInfo_of_ne _ h₁, info_setInfo_of_ne _ h₂, info_eraseFreeBlock]
    have hb₄ : (s₃.insertFreeBlock i).info (i - G) = some b := by
      rw [info_insertFreeBlock, hinfo₃ _ (by omega) (by omega), hb]
    obtain ⟨s', hs', hbegin, hend, hlen', hfe, hfb, hinfo, hno, hnb⟩ :=
      allocAt_spec (m * kAlignment) hb₄
    have halloc : s.alloc numBytes = (s₃.insertFreeBlock i).allocAt (i - G) (m * kAlignment) := by
      simp only [alloc, hm, htemp, hlb, Option.bind_eq_bind, info_eraseFreeBlock, ha,
        Option.bind_some, hG, hbytes, hGne, if_false, ← ha', hpf, hpfb, hrem, if_true, hnf, hf₂]
      rfl
    have hother : ∀ j, j ≠ i - G → s'.info j = s₃.info j := fun j hj => by
      rw [hinfo j, if_neg hj, info_insertFreeBlock]
    refine ⟨s', by rw [halloc, hs']; simp [getAllocationAddressForSlot, hs₃],
      by simp [hbegin, hs₃], by simp [hend, hs₃], by simp [hlen', hs₃], by simp [hfe, hs₃],
      hobj s' (by rw [hinfo, if_pos rfl]), fun _ => ?_,
      ?_, fun j h₁ h₂ h₃ => by rw [hother j h₁, hinfo₃ j h₂ h₃], fun x => ?_, ?_,
      by simp [hno, hs₃], by simp [hnb, hs₃]⟩
    · refine ⟨f', ?_, AllocationInfo.alignSize_setByteSize _ (by omega) true,
        AllocationInfo.isFree_setByteSize _ (by omega) true,
        by simp [hf']⟩
      rw [hother (i - G + m) (by omega), hs₃, info_setInfo_self _ (by simp; omega)]
    · obtain ⟨a₀, ha₀, h₁, h₂, h₃⟩ := hia
      exact ⟨a₀, by rw [hother i (by omega), hs₃, info_setInfo_of_ne _ (by omega), ha₀], h₁, h₂, h₃⟩
    · rw [hfb, mem_insertFreeBlock_iff, hs₃, freeBlocks_setInfo, freeBlocks_setInfo,
        mem_eraseFreeBlock_iff s hord]
      tauto
    · refine Ordered.of_info_eq _ ((hordErase.setInfo _ ?_ f').insertFreeBlock _ i) hfb ?_
      · exact fun h => hrest hmG (List.mem_of_mem_erase h)
      · intro j hj
        rw [info_insertFreeBlock]
        refine hother j fun hji => hstart ?_
        rw [← hji]
        rw [mem_insertFreeBlock_iff, freeBlocks_setInfo, freeBlocks_setInfo,
          mem_eraseFreeBlock_iff s hord] at hj
        rcases hj with hj | hj
        · omega
        · exact hj.2
  · -- the object takes the whole block
    have hmG' : m = G := by omega
    subst hmG'
    clear hrest
    have hrem : ¬ 0 < (m - m) * kAlignment := by simp
    have hb₂ : ((s.eraseFreeBlock i).setInfo i a').info (i - m) = some b := by
      rw [info_setInfo_of_ne _ (by omega), info_eraseFreeBlock, hb]
    obtain ⟨s', hs', hbegin, hend, hlen', hfe, hfb, hinfo, hno, hnb⟩ :=
      allocAt_spec (m * kAlignment) hb₂
    have halloc : s.alloc numBytes =
        ((s.eraseFreeBlock i).setInfo i a').allocAt (i - m) (m * kAlignment) := by
      simp only [alloc, hm, htemp, hlb, Option.bind_eq_bind, info_eraseFreeBlock, ha,
        Option.bind_some, hG, hbytes, hGne, if_false, ← ha', hpfb, hrem, if_false]
    refine ⟨s', by rw [halloc, hs']; rfl, by simp [hbegin], by simp [hend], by simp [hlen'],
      by simp [hfe], hobj s' (by rw [hinfo, if_pos rfl]), fun h => absurd h (lt_irrefl m),
      ?_, fun j h₁ _ h₃ => ?_, fun x => ?_, ?_, by simp [hno], by simp [hnb]⟩
    · obtain ⟨a₀, ha₀, h₁, h₂, h₃⟩ := hia
      exact ⟨a₀, by rw [hinfo, if_neg (by omega), ha₀], h₁, h₂, h₃⟩
    · rw [hinfo, if_neg h₁, info_setInfo_of_ne _ h₃, info_eraseFreeBlock]
    · rw [hfb, freeBlocks_setInfo, mem_eraseFreeBlock_iff s hord]
      simp
    · refine Ordered.of_info_eq _ hordErase hfb fun j hj => ?_
      rw [hinfo, if_neg]
      rintro rfl
      simp only [freeBlocks_setInfo, mem_eraseFreeBlock_iff s hord] at hj
      exact hstart hj.2

/-- `Alloc` of `m` units that no free block holds, when the end free region holds them: the object
takes the start of the region. -/
theorem alloc_end_spec {numBytes m top : Nat} {b : AllocationInfo}
    (hm : Align.roundUp numBytes kAlignment = m * kAlignment) (hm32 : m < 2 ^ 32)
    (hlb : s.lowerBoundTemp m = none) (hroom : m * kAlignment ≤ s.freeEnd)
    (hslot : s.getSlotIndexForAddress (s.end_ - s.freeEnd) = some top)
    (hb : s.info top = some b) :
    ∃ s', s.alloc numBytes =
        some (some (s.getAllocationAddressForSlot top, m * kAlignment), s') ∧
      s'.begin = s.begin ∧ s'.end_ = s.end_ ∧
      s'.allocationInfo.length = s.allocationInfo.length ∧
      s'.freeEnd = s.freeEnd - m * kAlignment ∧ s'.freeBlocks = s.freeBlocks ∧
      (∀ j, s'.info j = if j = top then
        some ((b.setPrevFreeBytes 0).setByteSize (m * kAlignment) false) else s.info j) ∧
      s'.numObjectsAllocated = s.numObjectsAllocated + 1 ∧
      s'.numBytesAllocated = s.numBytesAllocated + m * kAlignment := by
  have htemp : (BitVec.ofNat 32 (m * kAlignment / kAlignment)).toNat = m := by
    rw [Nat.mul_div_cancel m (by decide), BitVec.toNat_ofNat, Nat.mod_eq_of_lt hm32]
  obtain ⟨s', hs', hbegin, hend, hlen, hfe, hfb, hinfo, hno, hnb⟩ :=
    allocAt_spec (s := { s with freeEnd := s.freeEnd - m * kAlignment }) (m * kAlignment) hb
  refine ⟨s', ?_, hbegin, hend, hlen, hfe, hfb, hinfo, hno, hnb⟩
  simp only [alloc, hm, htemp, hlb, hroom, if_true, hslot, Option.bind_eq_bind, Option.bind_some]
  exact hs'

/-- `Alloc` of `m` units that neither a free block nor the end free region holds: `nullptr`, and
the state as it was. -/
theorem alloc_none_eq {numBytes m : Nat}
    (hm : Align.roundUp numBytes kAlignment = m * kAlignment) (hm32 : m < 2 ^ 32)
    (hlb : s.lowerBoundTemp m = none) (hroom : s.freeEnd < m * kAlignment) :
    s.alloc numBytes = some (none, s) := by
  have htemp : (BitVec.ofNat 32 (m * kAlignment / kAlignment)).toNat = m := by
    rw [Nat.mul_div_cancel m (by decide), BitVec.toNat_ofNat, Nat.mod_eq_of_lt hm32]
  simp [alloc, hm, htemp, hlb, Nat.not_le.mpr hroom]

/-! ## Best fit -/

/-- What `Alloc` of `m` units does to the objects `L` of a space of `n` units, and the unit `r`
where it puts its object: the first unit of a free block of the fewest units that holds `m`, or,
when no free block holds them, the start of the end free region if that holds them; otherwise no
object. -/
def AllocSpec (n m : Nat) (L : List Obj) (r : Option Nat) (L' : List Obj) : Prop :=
  (∃ pre o post, L = pre ++ o :: post ∧ topFrom 0 pre + m ≤ o.start ∧
      (∀ g ∈ gaps 0 L, m ≤ g.2 → o.start - topFrom 0 pre ≤ g.2) ∧
      r = some (topFrom 0 pre) ∧ L' = pre ++ ⟨topFrom 0 pre, m⟩ :: o :: post) ∨
    ((∀ g ∈ gaps 0 L, g.2 < m) ∧ topFrom 0 L + m ≤ n ∧ r = some (topFrom 0 L) ∧
      L' = L ++ [⟨topFrom 0 L, m⟩]) ∨
    ((∀ g ∈ gaps 0 L, g.2 < m) ∧ n < topFrom 0 L + m ∧ r = none ∧ L' = L)

section Inv

variable {L : List Obj}

/-- The first unit of an object, and the units of the free block in front of it, hold no element of
`free_blocks_` but the object's own. -/
theorem Inv.not_mem_freeBlocks_of_gap (h : s.Inv L) {pre post : List Obj} {o : Obj}
    (hL : L = pre ++ o :: post) {j : Nat} (hj₁ : topFrom 0 pre ≤ j) (hj₂ : j < o.start) :
    j ∉ s.freeBlocks := fun hj => by
  rcases h.mem_freeBlocks_split hL hj with h₁ | ⟨h₁, -⟩ | h₁
  · omega
  · omega
  · simp only [Obj.next] at h₁
    omega

/-- `free_blocks_.lower_bound` over the infos after the free blocks is best fit over the gaps: the
`prev_free_` of each info is the size of the gap in front of it. -/
theorem Inv.bestFit (h : s.Inv L) {m i : Nat} (hlb : s.lowerBoundTemp m = some i)
    {g : Nat × Nat} (hg : g ∈ gaps 0 L) (hmg : m ≤ g.2) :
    ((s.info i).getD ⟨0, 0⟩).getPrevFree ≤ g.2 := by
  obtain ⟨pre, o, post, hL, hlt, rfl⟩ := mem_gaps.mp hg
  obtain ⟨-, -, -, -, ⟨a, ha, -, -, hpf⟩, -⟩ := h.laid.of_eq_append hL
  have hmem : o.start ∈ s.freeBlocks :=
    (h.mem_freeBlocks _).mpr (mem_followers_iff.mpr ⟨pre, o, post, hL, hlt, rfl⟩)
  have := (lowerBoundTemp_eq_some s h.sorted hlb).2.2 o.start hmem (by simpa [ha, hpf] using hmg)
  simpa [ha, hpf] using this

/-- `Alloc` through `free_blocks_` from a state that holds `L`: the object takes the first units of
the best-fitting free block, and the state holds it. -/
theorem Inv.allocFit (h : s.Inv L) {numBytes m i : Nat}
    (hm : Align.roundUp numBytes kAlignment = m * kAlignment) (hm32 : m < 2 ^ 32) (hmpos : 0 < m)
    (hlb : s.lowerBoundTemp m = some i) :
    ∃ pre o post s', L = pre ++ o :: post ∧ topFrom 0 pre + m ≤ o.start ∧
      (∀ g ∈ gaps 0 L, m ≤ g.2 → o.start - topFrom 0 pre ≤ g.2) ∧
      s.alloc numBytes =
        some (some (s.getAllocationAddressForSlot (topFrom 0 pre), m * kAlignment), s') ∧
      s'.begin = s.begin ∧ s'.Inv (pre ++ ⟨topFrom 0 pre, m⟩ :: o :: post) := by
  obtain ⟨hi, hfit, -⟩ := lowerBoundTemp_eq_some s h.sorted hlb
  obtain ⟨pre, o, post, hL, hgap, rfl⟩ := mem_followers_iff.mp ((h.mem_freeBlocks _).mp hi)
  obtain ⟨hpre, hq, hsize, -, ⟨a, ha, hasz, hafree, hapf⟩, hpost⟩ := h.laid.of_eq_append hL
  have honext : o.next = o.start + o.size := rfl
  have hnext : o.next ≤ topFrom o.next post := hpost.le_topFrom
  have htopL : topFrom 0 L = topFrom o.next post := by rw [hL, topFrom_append, topFrom_cons]
  have hlen : o.start < s.allocationInfo.length := by
    have := h.top_le
    omega
  rw [ha, Option.getD_some, hapf] at hfit
  have hbest : ∀ g ∈ gaps 0 L, m ≤ g.2 → o.start - topFrom 0 pre ≤ g.2 := fun g hg hmg => by
    simpa [ha, hapf] using h.bestFit hlb hg hmg
  obtain ⟨s', halloc, hbegin, hend, hlen', hfe, hobj, hrest, hia, hother, hmem', hord', hno, hnb⟩ :=
    alloc_fit_spec h.sorted hm hm32 hmpos hlb ha hapf (by omega) hfit
      (by have := h.units_lt; omega) hlen (h.not_mem_freeBlocks_of_gap hL le_rfl hgap)
      (fun hmG => h.not_mem_freeBlocks_of_gap hL (by omega) (by omega))
  refine ⟨pre, o, post, s', hL, by omega, hbest, halloc, hbegin, ?_⟩
  have htop' : topFrom 0 (pre ++ ⟨topFrom 0 pre, m⟩ :: o :: post) = topFrom 0 L := by
    rw [htopL, topFrom_append, topFrom_cons, topFrom_cons]
  refine { aligned := by rw [hbegin]; exact h.aligned
           end_eq := by rw [hend, hbegin, hlen']; exact h.end_eq
           units_lt := by rw [hlen']; exact h.units_lt
           laid := ?laid
           top_le := by rw [htop', hlen']; exact h.top_le
           freeEnd_eq := by rw [htop', hlen', hfe]; exact h.freeEnd_eq
           mem_freeBlocks := ?mem
           sorted := hord'
           numObjects := by
             simp only [hno, h.numObjects, hL, List.length_append, List.length_cons]
             omega
           numBytes := ?bytes
           stale := ?stale }
  case laid =>
    have hsub : o.start - (topFrom 0 pre + m) = o.start - topFrom 0 pre - m := by omega
    rw [laid_append, laid_cons, laid_cons, Obj.next_mk, Nat.sub_self, hsub]
    refine ⟨hpre.congr fun j _ hj => hother j (by omega) (by omega) (by omega), le_rfl, hmpos,
      fun h => absurd h (lt_irrefl _), hobj, by omega, hsize, fun hlt => hrest (by omega), ?_,
      hpost.congr fun j hj _ => hother j (by omega) (by omega) (by omega)⟩
    rw [← hasz, ← hafree]
    exact hia
  case mem =>
    intro x
    rw [hmem', h.mem_freeBlocks, hL, followers_append, followers_append, followers_cons,
      followers_cons, followers_cons, if_pos hgap, if_neg (lt_irrefl _), Obj.next_mk]
    have hpreB : x ∈ followers 0 pre → x < topFrom 0 pre := fun hx => (hpre.mem_followers hx).2
    have hpostB : x ∈ followers o.next post → o.next < x := fun hx => (hpost.mem_followers hx).1
    simp only [List.mem_append, List.mem_singleton, List.nil_append]
    by_cases hx : x = o.start
    · subst hx
      have h₁ : o.start ∉ followers 0 pre := fun hx => absurd (hpreB hx) (by omega)
      have h₂ : o.start ∉ followers (o.start + o.size) post :=
        fun hx => absurd (hpostB hx) (by omega)
      split_ifs with hlt <;> simp [h₁, h₂] at hlt ⊢ <;> omega
    · split_ifs <;> simp [hx]
  case bytes =>
    rw [hnb, h.numBytes, hL]
    simp only [List.map_append, List.map_cons, List.sum_append, List.sum_cons, kAlignment,
      kPageSize]
    omega
  case stale =>
    intro j b hb hnot
    have hjq : j ≠ topFrom 0 pre := fun he => hnot ⟨topFrom 0 pre, m⟩ (by simp) he.symm
    have hjo : j ≠ o.start := fun he => hnot o (by simp) he.symm
    by_cases hjm : j = topFrom 0 pre + m
    · -- the rest of the free block, marked free
      obtain ⟨b', hb', -, hfree, -⟩ := hrest (by omega)
      rw [hjm, hb'] at hb
      cases hb
      exact Or.inl hfree
    · rw [hother j hjq hjm hjo] at hb
      refine h.stale j b hb fun o' ho' => hnot o' ?_
      rw [hL] at ho'
      rcases List.mem_append.mp ho' with ho' | ho'
      · exact List.mem_append_left _ ho'
      · exact List.mem_append_right _ (List.mem_cons_of_mem _ ho')

/-- When `lower_bound` finds nothing, no free block holds `m` units. -/
theorem Inv.gaps_lt_of_lowerBoundTemp (h : s.Inv L) {m : Nat} (hlb : s.lowerBoundTemp m = none) :
    ∀ g ∈ gaps 0 L, g.2 < m := by
  intro g hg
  obtain ⟨pre, o, post, hL, hlt, rfl⟩ := mem_gaps.mp hg
  obtain ⟨-, -, -, -, ⟨a, ha, -, -, hpf⟩, -⟩ := h.laid.of_eq_append hL
  have hmem : o.start ∈ s.freeBlocks :=
    (h.mem_freeBlocks _).mpr (mem_followers_iff.mpr ⟨pre, o, post, hL, hlt, rfl⟩)
  simpa [ha, hpf] using lowerBoundTemp_eq_none s hlb o.start hmem

/-- `Alloc` at the start of the end free region from a state that holds `L`: the object follows the
last one, and the state holds it. -/
theorem Inv.allocEnd (h : s.Inv L) {numBytes m : Nat}
    (hm : Align.roundUp numBytes kAlignment = m * kAlignment) (hm32 : m < 2 ^ 32) (hmpos : 0 < m)
    (hlb : s.lowerBoundTemp m = none) (hroom : m * kAlignment ≤ s.freeEnd) :
    topFrom 0 L + m ≤ s.allocationInfo.length ∧ ∃ s', s.alloc numBytes =
        some (some (s.getAllocationAddressForSlot (topFrom 0 L), m * kAlignment), s') ∧
      s'.begin = s.begin ∧ s'.Inv (L ++ [⟨topFrom 0 L, m⟩]) := by
  have hfreeEnd := h.freeEnd_eq
  have hroom' : topFrom 0 L + m ≤ s.allocationInfo.length := by
    simp only [kAlignment, kPageSize] at hroom hfreeEnd
    omega
  obtain ⟨b, hb⟩ := exists_info s (show topFrom 0 L < s.allocationInfo.length by omega)
  obtain ⟨s', halloc, hbegin, hend, hlen, hfe, hfb, hinfo, hno, hnb⟩ :=
    alloc_end_spec hm hm32 hlb hroom
      (h.slot_freeEndStart (Nat.lt_of_lt_of_le (Nat.mul_pos hmpos (by decide)) hroom)) hb
  have hlaid₀ : Laid s.info 0 L := h.laid
  refine ⟨hroom', s', halloc, hbegin, ?_⟩
  refine { aligned := by rw [hbegin]; exact h.aligned
           end_eq := by rw [hend, hbegin, hlen]; exact h.end_eq
           units_lt := by rw [hlen]; exact h.units_lt
           laid := ?laid
           top_le := by
             rw [topFrom_append, topFrom_cons, Obj.next_mk, topFrom_nil, hlen]
             exact hroom'
           freeEnd_eq := ?freeEnd
           mem_freeBlocks := fun x => by
             rw [hfb, h.mem_freeBlocks, followers_append, followers_cons, if_neg (lt_irrefl _)]
             simp
           sorted := ?sorted
           numObjects := by simp [hno, h.numObjects]
           numBytes := ?bytes
           stale := fun j b hb hnot => ?stale }
  case laid =>
    rw [laid_append, laid_cons, Nat.sub_self]
    dsimp only
    have hm27 : m < 2 ^ 27 := by
      have := h.units_lt
      omega
    refine ⟨hlaid₀.congr fun j _ hj => by rw [hinfo, if_neg (by omega)], le_rfl, hmpos,
      fun h => absurd h (lt_irrefl _), ?_, trivial⟩
    exact ⟨_, by rw [hinfo, if_pos rfl], AllocationInfo.alignSize_setByteSize _ hm27 false,
      AllocationInfo.isFree_setByteSize _ hm27 false, by simp⟩
  case freeEnd =>
    rw [hfe, hlen, hfreeEnd, topFrom_append, topFrom_cons, Obj.next_mk, topFrom_nil]
    simp only [kAlignment, kPageSize]
    omega
  case sorted =>
    refine Ordered.of_info_eq _ h.sorted hfb fun j hj => ?_
    have := (hlaid₀.mem_followers ((h.mem_freeBlocks j).mp hj)).2
    rw [hinfo, if_neg (by omega)]
  case bytes =>
    rw [hnb, h.numBytes]
    simp only [List.map_append, List.map_cons, List.map_nil, List.sum_append, List.sum_cons,
      List.sum_nil, kAlignment, kPageSize]
    omega
  case stale =>
    have hjt : j ≠ topFrom 0 L := fun he => hnot ⟨topFrom 0 L, m⟩ (by simp) he.symm
    rw [hinfo, if_neg hjt] at hb
    exact h.stale j b hb fun o' ho' => hnot o' (List.mem_append_left _ ho')

/-- **`Alloc` keeps the invariant and is best fit.**  From a state that holds the objects `L`,
`Alloc` of between one byte and 2^43 bytes returns: the address of its object's first unit and
the rounded-up size, where `AllocSpec` puts the object, or `nullptr` when there is no room, with
the state unchanged; and the state holds the objects `AllocSpec` gives. -/
theorem Inv.alloc (h : s.Inv L) {numBytes : Nat} (hpos : 0 < numBytes) (hlt : numBytes < 2 ^ 43) :
    ∃ r L' s', s.alloc numBytes = some (r.map fun g =>
        (s.getAllocationAddressForSlot g, Align.roundUp numBytes kAlignment), s') ∧
      s'.begin = s.begin ∧ (r = none → s' = s) ∧
      AllocSpec s.allocationInfo.length (Align.roundUp numBytes kAlignment / kAlignment) L r L' ∧
      s'.Inv L' := by
  have hle : numBytes ≤ Align.roundUp numBytes kAlignment :=
    (Align.roundUp_properties (k := 12) numBytes).1
  have hal : Align.roundUp numBytes kAlignment % kAlignment = 0 :=
    (Align.roundUp_properties (k := 12) numBytes).2.2
  have hup : Align.roundUp numBytes kAlignment ≤ 2 ^ 43 :=
    Align.roundUp_le (k := 12) (by decide) (Nat.le_of_lt hlt)
  set m := Align.roundUp numBytes kAlignment / kAlignment with hm_def
  have hm : Align.roundUp numBytes kAlignment = m * kAlignment :=
    (Nat.div_mul_cancel (Nat.dvd_of_mod_eq_zero hal)).symm
  rw [hm] at hle hup
  simp only [kAlignment, kPageSize] at hle hup
  have hmpos : 0 < m := by omega
  have hm32 : m < 2 ^ 32 := by omega
  rw [hm]
  cases hlb : s.lowerBoundTemp m with
  | some i =>
    obtain ⟨pre, o, post, s', hL, hfit, hbest, halloc, hbegin, hinv⟩ :=
      h.allocFit hm hm32 hmpos hlb
    exact ⟨some (topFrom 0 pre), _, s', halloc, hbegin,
      fun hr => (Option.some_ne_none _ hr).elim, Or.inl ⟨pre, o, post, hL, hfit, hbest, rfl, rfl⟩,
      hinv⟩
  | none =>
    have hgaps := h.gaps_lt_of_lowerBoundTemp hlb
    by_cases hroom : m * kAlignment ≤ s.freeEnd
    · obtain ⟨hroom', s', halloc, hbegin, hinv⟩ := h.allocEnd hm hm32 hmpos hlb hroom
      exact ⟨some (topFrom 0 L), _, s', halloc, hbegin,
        fun hr => (Option.some_ne_none _ hr).elim, Or.inr (Or.inl ⟨hgaps, hroom', rfl, rfl⟩), hinv⟩
    · refine ⟨none, L, s, alloc_none_eq hm hm32 hlb (Nat.lt_of_not_le hroom), rfl, fun _ => rfl,
        Or.inr (Or.inr ⟨hgaps, ?_, rfl, rfl⟩), h⟩
      have hfreeEnd := h.freeEnd_eq
      have htop := h.top_le
      simp only [kAlignment, kPageSize] at hroom hfreeEnd
      omega

end Inv

end FreeListSpace

end Art
