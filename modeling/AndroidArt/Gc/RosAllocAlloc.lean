import AndroidArt.Gc.RosAllocInv
import Mathlib.Data.List.Find

/-!
# `AllocPages` keeps the page state

* `RunsInv.took` — taking the first pages of a free page run, with or without a remainder, leaves
  the free page runs apart and covering the same pages but those.
* `Inv.allocate` — marking those pages as an allocation keeps the invariant, and makes them an
  `Allocation` of the kind asked for.
* `Inv.trailing` — the free page run at the end of the footprint, when there is one, is the run of
  the free pages at the end of the page map, so `lastFreePageRunSize` is their size.
* `Inv.expandFootprint` — the growth of the footprint keeps the invariant and leaves the free
  pages at the end as the last free page run.
-/

set_option autoImplicit false

namespace Art

namespace RosAlloc

open RunSet PageMapKind

variable {a : RosAlloc}

theorem kPageSize_pos : 0 < kPageSize := by decide

/-- What taking the first `n` pages of the free page run `fpr` leaves: the page map and the
footprint as they were, and the free page runs apart, covering the pages they covered but those. -/
structure Took (a a' : RosAlloc) (fpr n : Nat) : Prop where
  pageMap : a'.pageMap = a.pageMap
  pageMapSize : a'.pageMapSize = a.pageMapSize
  footprint : a'.footprint = a.footprint
  capacity : a'.capacity = a.capacity
  runs : a'.RunsInv
  covers : ∀ p, Covers a'.freePageRuns a'.runPages p ↔
    Covers a.freePageRuns a.runPages p ∧ ¬(fpr ≤ p ∧ p < fpr + n)

theorem RunsInv.took (h : a.RunsInv) {fpr n : Nat} (hr : fpr ∈ a.freePageRuns) (hn : 0 < n)
    (hfit : n ≤ a.runPages fpr) : Took a (a.takeFreePageRun fpr (n * kPageSize)) fpr n := by
  have hsize := byteSize_eq h hr
  unfold takeFreePageRun
  dsimp only
  split_ifs with hsplit
  · -- the remainder from `fpr + n` becomes a free page run of its own
    have hlt : n < a.runPages fpr := by
      rw [hsize] at hsplit
      exact Nat.lt_of_mul_lt_mul_right hsplit
    have hdiv : n * kPageSize / kPageSize = n := Nat.mul_div_cancel n kPageSize_pos
    have hrest : (a.byteSize fpr - n * kPageSize) / kPageSize = a.runPages fpr - n := by
      rw [hsize, ← Nat.sub_mul, Nat.mul_div_cancel _ kPageSize_pos]
    have hrem : fpr + n ∉ a.freePageRuns := by
      intro hmem
      have := h.apart.apart fpr hr (fpr + n) hmem (by omega)
      omega
    have hrem' : fpr + n ∉ a.freePageRuns.erase fpr := fun hmem =>
      hrem (List.mem_of_mem_erase hmem)
    have hfpr : fpr ∉ SortedSet.insert (a.freePageRuns.erase fpr) (fpr + n) := by
      rw [SortedSet.mem_insert, SortedSet.mem_erase h.apart.sorted]
      rintro (h₁ | ⟨h₂, -⟩)
      · omega
      · exact h₂ rfl
    have hbelow : ∀ q ∈ a.freePageRuns.erase fpr, q < fpr + n → q + a.runPages q < fpr + n := by
      intro q hq hqlt
      obtain ⟨hqne, hq⟩ := (SortedSet.mem_erase h.apart.sorted).mp hq
      rcases lt_or_gt_of_ne hqne with hqf | hqf
      · have := h.apart.apart q hq fpr hr hqf
        omega
      · have := h.apart.apart fpr hr q hq hqf
        omega
    have habove : ∀ q ∈ a.freePageRuns.erase fpr, fpr + n < q → fpr + a.runPages fpr < q := by
      intro q hq hqlt
      obtain ⟨-, hq⟩ := (SortedSet.mem_erase h.apart.sorted).mp hq
      exact h.apart.apart fpr hr q hq (by omega)
    have hlen : ∀ q ∈ a.freePageRuns.erase fpr,
        Function.update a.runPages (fpr + n) (a.runPages fpr - n) q = a.runPages q :=
      fun q hq => Function.update_of_ne (ne_of_mem_of_not_mem hq hrem') _ _
    refine ⟨rfl, rfl, rfl, rfl, ⟨?_, ?_⟩, fun p => ?_⟩
    · simp only [setByteSize_freePageRuns, insertRun_freePageRuns, eraseRun_freePageRuns,
        runPages_setByteSize, insertRun_runPages, eraseRun_runPages, setByteSize_pageMapSize,
        insertRun_pageMapSize, eraseRun_pageMapSize, hrest, hdiv]
      refine Apart.update_of_not_mem ?_ hfpr n
      refine Apart.insert ((h.apart.erase fpr).update_of_not_mem hrem' _) ?_ ?_ ?_ ?_
      · rw [Function.update_self]
        omega
      · rw [Function.update_self]
        have := h.apart.inside fpr hr
        omega
      · intro q hq hqlt
        rw [hlen q hq]
        exact hbelow q hq hqlt
      · intro q hq hqlt
        rw [Function.update_self]
        have := habove q hq hqlt
        omega
    · intro q hq
      simp only [setByteSize_freePageRuns, insertRun_freePageRuns, eraseRun_freePageRuns,
        hdiv] at hq ⊢
      rw [byteSize_setByteSize, if_neg (ne_of_mem_of_not_mem hq hfpr), insertRun_byteSize,
        byteSize_setByteSize]
      rcases SortedSet.mem_insert.mp hq with rfl | hq
      · rw [if_pos rfl, hsize, ← Nat.sub_mul]
        exact Nat.mul_mod_left _ _
      · rw [if_neg (ne_of_mem_of_not_mem hq hrem'), eraseRun_byteSize]
        exact h.aligned q (List.mem_of_mem_erase hq)
    · simp only [setByteSize_freePageRuns, insertRun_freePageRuns, eraseRun_freePageRuns,
        runPages_setByteSize, insertRun_runPages, eraseRun_runPages, hrest, hdiv]
      rw [covers_update_of_not_mem hfpr, covers_insert, covers_update_of_not_mem hrem',
        covers_erase h.apart hr]
      unfold InRun
      rw [Function.update_self]
      constructor
      · rintro (⟨hcov, hnot⟩ | hin)
        · exact ⟨hcov, fun hin => hnot ⟨hin.1, by omega⟩⟩
        · exact ⟨⟨fpr, hr, by omega, by omega⟩, by omega⟩
      · rintro ⟨hcov, hnot⟩
        by_cases hin : fpr ≤ p ∧ p < fpr + a.runPages fpr
        · exact Or.inr (by omega)
        · exact Or.inl ⟨hcov, hin⟩
  · -- the request takes the whole run
    have hall : a.runPages fpr = n := by
      rw [hsize] at hsplit
      have := Nat.le_of_mul_le_mul_right (Nat.le_of_not_lt hsplit) kPageSize_pos
      omega
    refine ⟨rfl, rfl, rfl, rfl, ⟨?_, ?_⟩, fun p => ?_⟩
    · exact h.apart.erase fpr
    · intro q hq
      exact h.aligned q (List.mem_of_mem_erase hq)
    · rw [eraseRun_freePageRuns, eraseRun_runPages, covers_erase h.apart hr, InRun, hall]

/-- `a'` is `a` with an allocation of `n` pages of kind `t` from page `p`, taken from free pages;
every other page keeps its kind. -/
structure Allocated (a a' : RosAlloc) (p n : Nat) (t : PageMapKind) : Prop where
  inv : a'.Inv
  allocation : a'.Allocation p n
  head : a'.pageMap p = t
  window : a.FreeWindow p n
  frame : ∀ i, ¬(p ≤ i ∧ i < p + n) → a'.pageMap i = a.pageMap i
  footprint : a'.footprint = a.footprint
  pageMapSize : a'.pageMapSize = a.pageMapSize
  capacity : a'.capacity = a.capacity

theorem markAllocated_pageMap (a : RosAlloc) (p n : Nat) (t tp : PageMapKind) (i : Nat) :
    (a.markAllocated p n t tp).pageMap i =
      if i = p then t else if p < i ∧ i < p + n then tp else a.pageMap i := rfl

/-- Taking the first `n` pages of a free page run and marking them as an allocation of kind `t`
keeps the invariant. -/
theorem Inv.allocate (h : a.Inv) {fpr n : Nat} (hr : fpr ∈ a.freePageRuns) (hn : 0 < n)
    (hfit : n ≤ a.runPages fpr) {t tp : PageMapKind} (ht : t.partKind? = some tp) :
    Allocated a ((a.takeFreePageRun fpr (n * kPageSize)).markAllocated fpr n t tp) fpr n t := by
  have htook := h.runs.took hr hn hfit
  have hinside := h.runs.apart.inside fpr hr
  have hfree : ∀ i, fpr ≤ i → i < fpr + n → a.IsFree i := fun i h₁ h₂ =>
    h.isFree_of_inRun hr ⟨h₁, by omega⟩
  obtain ⟨hthead, htpart, -⟩ := not_isFree_of_partKind? ht
  have hframe : ∀ i, ¬(fpr ≤ i ∧ i < fpr + n) →
      ((a.takeFreePageRun fpr (n * kPageSize)).markAllocated fpr n t tp).pageMap i = a.pageMap i := by
    intro i hi
    rw [markAllocated_pageMap, if_neg (by omega), if_neg (by omega), htook.pageMap]
  have hinside' : ∀ i, fpr ≤ i → i < fpr + n →
      ¬((a.takeFreePageRun fpr (n * kPageSize)).markAllocated fpr n t tp).IsFree i := by
    intro i h₁ h₂
    unfold IsFree
    rw [markAllocated_pageMap]
    split_ifs with h₃ h₄
    · rw [hthead]
      decide
    · rw [htpart]
      decide
    · omega
  refine ⟨⟨?_, ?_, ?_, ?_, ⟨htook.runs.apart, htook.runs.aligned⟩, ?_, ?_⟩, ?_, ?_, ⟨by omega, hfree⟩, hframe, htook.footprint,
    htook.pageMapSize, htook.capacity⟩
  · rw [markAllocated_footprint, htook.footprint, markAllocated_pageMapSize, htook.pageMapSize]
    exact h.footprint_eq
  · rw [markAllocated_footprint, htook.footprint, markAllocated_capacity, htook.capacity]
    exact h.footprint_le
  · rw [markAllocated_capacity, htook.capacity]
    exact h.capacity_aligned
  · intro i hi
    rw [markAllocated_pageMapSize, htook.pageMapSize] at hi
    rw [hframe i (by omega)]
    exact h.released i hi
  · intro p hp
    rw [markAllocated_pageMapSize, htook.pageMapSize] at hp
    rw [markAllocated_freePageRuns, markAllocated_runPages, htook.covers p]
    by_cases hin : fpr ≤ p ∧ p < fpr + n
    · exact ⟨fun hf => absurd hf (hinside' p hin.1 hin.2), fun hc => absurd hin hc.2⟩
    · unfold IsFree
      rw [hframe p hin]
      exact ⟨fun hf => ⟨(h.free_iff p hp).mp hf, hin⟩, fun hc => (h.free_iff p hp).mpr hc.1⟩
  · intro head part hpair
    have hparts := (h.parts head part hpair).markAllocated hpair ht hn
      (fun i h₁ h₂ => hfree i h₁ h₂)
    rw [← htook.pageMap] at hparts
    exact hparts
  · -- the page after the allocation was free or not a part of this kind
    refine ⟨hn, tp, by rw [markAllocated_pageMap, if_pos rfl]; exact ht, fun i h₁ h₂ => ?_, ?_⟩
    · rw [markAllocated_pageMap, if_neg (by omega), if_pos ⟨h₁, h₂⟩]
    · rw [hframe (fpr + n) (by omega)]
      intro hend
      obtain ⟨m, rfl⟩ : ∃ m, n = m + 1 := ⟨n - 1, by omega⟩
      have hprev := (h.parts t tp ht).2 (fpr + m) (by rw [Nat.add_assoc]; exact hend)
      have hlast := hfree (fpr + m) (by omega) (by omega)
      unfold IsFree at hlast
      rcases hprev with hprev | hprev <;> rw [hprev] at hlast
      · rw [hthead] at hlast
        cases hlast
      · rw [htpart] at hlast
        cases hlast
  · rw [markAllocated_pageMap, if_pos rfl]

/-! ## The free pages at the end of the page map -/

theorem trailingFreePages_spec (pageMap : Nat → PageMapKind) :
    ∀ k, trailingFreePages pageMap k ≤ k ∧
      (∀ i, k - trailingFreePages pageMap k ≤ i → i < k → (pageMap i).isFree = true) ∧
      (trailingFreePages pageMap k < k →
        (pageMap (k - trailingFreePages pageMap k - 1)).isFree = false)
  | 0 => ⟨le_refl 0, fun i _ hi => absurd hi (Nat.not_lt_zero i), fun h => absurd h (lt_irrefl 0)⟩
  | k + 1 => by
    obtain ⟨ih₁, ih₂, ih₃⟩ := trailingFreePages_spec pageMap k
    simp only [trailingFreePages]
    split_ifs with hk
    · refine ⟨by omega, fun i hi hik => ?_, fun hlt => ?_⟩
      · rcases Nat.lt_or_eq_of_le (Nat.le_of_lt_succ hik) with hik | rfl
        · exact ih₂ i (by omega) hik
        · exact hk
      · rw [show k + 1 - (trailingFreePages pageMap k + 1) - 1 =
          k - trailingFreePages pageMap k - 1 by omega]
        exact ih₃ (by omega)
    · refine ⟨Nat.zero_le _, fun i hi hik => by omega, fun _ => ?_⟩
      rw [show k + 1 - 0 - 1 = k by omega]
      exact Bool.eq_false_iff.mpr hk

/-- The count of the free pages at the end is the length of any stretch of free pages there
with a page that is not free before it. -/
theorem trailingFreePages_eq {pageMap : Nat → PageMapKind} {k m : Nat} (hm : m ≤ k)
    (hfree : ∀ i, k - m ≤ i → i < k → (pageMap i).isFree = true)
    (hstop : m < k → (pageMap (k - m - 1)).isFree = false) : trailingFreePages pageMap k = m := by
  obtain ⟨h₁, h₂, h₃⟩ := trailingFreePages_spec pageMap k
  rcases lt_trichotomy (trailingFreePages pageMap k) m with hlt | heq | hlt
  · have := h₃ (by omega)
    rw [hfree _ (by omega) (by omega)] at this
    cases this
  · exact heq
  · have := hstop (by omega)
    rw [h₂ _ (by omega) (by omega)] at this
    cases this

/-- Either no free page run reaches the end of the page map, or the last one does and holds
exactly the free pages at its end. -/
theorem Inv.trailing (h : a.Inv) :
    (trailingFreePages a.pageMap a.pageMapSize = 0 ∧
        ∀ r ∈ a.freePageRuns, r + a.runPages r < a.pageMapSize) ∨
      (0 < trailingFreePages a.pageMap a.pageMapSize ∧
        trailingFreePages a.pageMap a.pageMapSize ≤ a.pageMapSize ∧
        a.freePageRuns.getLast? =
          some (a.pageMapSize - trailingFreePages a.pageMap a.pageMapSize) ∧
        a.runPages (a.pageMapSize - trailingFreePages a.pageMap a.pageMapSize) =
          trailingFreePages a.pageMap a.pageMapSize) := by
  obtain ⟨hle, hfree, hstop⟩ := trailingFreePages_spec a.pageMap a.pageMapSize
  have hap := h.runs.apart
  rcases Nat.eq_zero_or_pos (trailingFreePages a.pageMap a.pageMapSize) with h0 | hpos
  · -- the last page is not free, so no run ends there
    refine Or.inl ⟨h0, fun r hr => ?_⟩
    have hin := hap.inside r hr
    have hrpos := hap.pos r hr
    by_contra hend
    have hlast := h.isFree_of_inRun hr (p := a.pageMapSize - 1) ⟨by omega, by omega⟩
    unfold IsFree at hlast
    rw [h0, Nat.sub_zero] at hstop
    rw [hstop (by omega)] at hlast
    cases hlast
  · -- the last page is free: its run ends the page map and is the last one
    right
    have hN : a.pageMapSize - 1 < a.pageMapSize := by omega
    obtain ⟨r, hr, hin⟩ := (h.free_iff _ hN).mp (hfree _ (by omega) hN)
    unfold InRun at hin
    have hend : r + a.runPages r = a.pageMapSize := by
      have := hap.inside r hr
      omega
    have hmax : ∀ q ∈ a.freePageRuns, q ≤ r := by
      intro q hq
      by_contra hqr
      have h₁ := hap.apart r hr q hq (by omega)
      have h₂ := hap.inside q hq
      have h₃ := hap.pos q hq
      omega
    have hcount : trailingFreePages a.pageMap a.pageMapSize = a.runPages r := by
      refine trailingFreePages_eq (by omega) (fun i h₁ h₂ => h.isFree_of_inRun hr ⟨by omega, by omega⟩)
        (fun hlt => ?_)
      refine Bool.eq_false_iff.mpr fun hprev => ?_
      obtain ⟨q, hq, hqin⟩ := (h.free_iff _ (by omega)).mp hprev
      unfold InRun at hqin
      have hqr : q < r := by omega
      have := hap.apart q hq r hr hqr
      omega
    refine ⟨hpos, hle, ?_, ?_⟩
    · rw [hcount, show a.pageMapSize - a.runPages r = r by omega]
      exact (SortedSet.getLast?_eq_some_iff hap.sorted).mpr ⟨hr, hmax⟩
    · rw [hcount, show a.pageMapSize - a.runPages r = r by omega]

theorem Inv.lastFreePageRunSize_of_end (h : a.Inv) {last : Nat}
    (hlast : a.freePageRuns.getLast? = some last)
    (hend : last + a.runPages last = a.pageMapSize) :
    a.lastFreePageRunSize = a.runPages last * kPageSize := by
  have hmem := ((SortedSet.getLast?_eq_some_iff h.runs.apart.sorted).mp hlast).1
  unfold lastFreePageRunSize
  rw [hlast]
  dsimp only
  rw [if_pos, byteSize_eq h.runs hmem]
  rw [fprEnd_eq h.runs hmem, h.footprint_eq, hend]

theorem Inv.lastFreePageRunSize_of_lt (h : a.Inv)
    (hend : ∀ r ∈ a.freePageRuns, r + a.runPages r < a.pageMapSize) :
    a.lastFreePageRunSize = 0 := by
  unfold lastFreePageRunSize
  cases hlast : a.freePageRuns.getLast? with
  | none => rfl
  | some last =>
    have hmem := ((SortedSet.getLast?_eq_some_iff h.runs.apart.sorted).mp hlast).1
    dsimp only
    rw [if_neg]
    rw [fprEnd_eq h.runs hmem, h.footprint_eq]
    have := hend last hmem
    intro heq
    have := Nat.eq_of_mul_eq_mul_right kPageSize_pos heq
    omega

theorem Inv.lastFreePageRunSize_eq (h : a.Inv) :
    a.lastFreePageRunSize = trailingFreePages a.pageMap a.pageMapSize * kPageSize := by
  rcases h.trailing with ⟨h0, hend⟩ | ⟨-, hle, hlast, hpages⟩
  · rw [h.lastFreePageRunSize_of_lt hend, h0, Nat.zero_mul]
  · rw [h.lastFreePageRunSize_of_end hlast (by omega), hpages]

/-! ## Growing the footprint -/

theorem expandFootprint_pageMap (a : RosAlloc) (inc : Nat) :
    (a.expandFootprint inc).pageMap = a.pageMap := by
  unfold expandFootprint
  dsimp only
  split
  · split_ifs <;> rfl
  · rfl

theorem expandFootprint_pageMapSize (a : RosAlloc) (inc : Nat) :
    (a.expandFootprint inc).pageMapSize = (a.footprint + inc) / kPageSize := by
  unfold expandFootprint
  dsimp only
  split
  · split_ifs <;> rfl
  · rfl

theorem expandFootprint_footprint (a : RosAlloc) (inc : Nat) :
    (a.expandFootprint inc).footprint = a.footprint + inc := rfl

theorem expandFootprint_capacity (a : RosAlloc) (inc : Nat) :
    (a.expandFootprint inc).capacity = a.capacity := by
  unfold expandFootprint
  dsimp only
  split
  · split_ifs <;> rfl
  · rfl

/-- The free page runs after growing the footprint: the pages from `last` to the new end form
the last run. -/
structure ExpandedRuns (a g : RosAlloc) (inc last : Nat) : Prop where
  runs : g.RunsInv
  covers : ∀ p, RunSet.Covers g.freePageRuns g.runPages p ↔
    RunSet.Covers a.freePageRuns a.runPages p ∨ (last ≤ p ∧ p < a.pageMapSize + inc / kPageSize)
  getLast : g.freePageRuns.getLast? = some last
  lastPages : last + g.runPages last = a.pageMapSize + inc / kPageSize

section Expand

variable {a : RosAlloc} {inc : Nat}

theorem Inv.newNumOfPages (h : a.Inv) (inc : Nat) :
    (a.footprint + inc) / kPageSize = a.pageMapSize + inc / kPageSize := by
  rw [h.footprint_eq, Nat.mul_comm, Nat.mul_add_div kPageSize_pos]

/-- The last free page run reaches the end: it is expanded over the new pages. -/
theorem Inv.expandFootprint_extend (h : a.Inv) (hal : inc % kPageSize = 0) {last : Nat}
    (hlast : a.freePageRuns.getLast? = some last)
    (hend : last + a.runPages last = a.pageMapSize) :
    ExpandedRuns a (a.expandFootprint inc) inc last := by
  have hap := h.runs.apart
  have hmem := (SortedSet.getLast?_eq_some_iff hap.sorted).mp hlast
  have hpos := hap.pos last hmem.1
  have hm := Nat.zero_le (inc / kPageSize)
  have hg : a.expandFootprint inc =
      { a with
        pageMapSize := a.pageMapSize + inc / kPageSize
        freePageRunSizeMap := Function.update
          (resizeSizeMap a.freePageRunSizeMap (a.pageMapSize + inc / kPageSize)) last
          (a.runPages last * kPageSize + inc)
        footprint := a.footprint + inc } := by
    unfold expandFootprint
    rw [h.lastFreePageRunSize_of_end hlast hend, hlast]
    dsimp only
    rw [h.newNumOfPages inc, if_pos (Nat.mul_pos hpos kPageSize_pos)]
    rfl
  have hlen : ∀ q ∈ a.freePageRuns, (a.expandFootprint inc).runPages q =
      Function.update a.runPages last (a.runPages last + inc / kPageSize) q := by
    intro q hq
    rw [hg]
    unfold runPages byteSize
    dsimp only
    by_cases hql : q = last
    · subst hql
      rw [Function.update_self, Function.update_self, Nat.mul_comm, Nat.mul_add_div kPageSize_pos]
    · rw [Function.update_of_ne hql, Function.update_of_ne hql]
      unfold resizeSizeMap
      rw [if_pos (by have := hap.inside q hq; have := hap.pos q hq; omega)]
  have hruns : (a.expandFootprint inc).freePageRuns = a.freePageRuns := by
    rw [hg]
  have hupd : RunSet.Apart a.freePageRuns
      (Function.update a.runPages last (a.runPages last + inc / kPageSize))
      (a.pageMapSize + inc / kPageSize) :=
    (hap.mono (Nat.le_add_right _ _)).update_of_mem (by omega) (by omega)
      (fun q hq hlq => absurd (hmem.2 q hq) (not_le_of_gt hlq))
  refine ⟨⟨?_, ?_⟩, fun p => ?_, by rw [hruns]; exact hlast, ?_⟩
  · rw [hruns, expandFootprint_pageMapSize, h.newNumOfPages inc]
    exact hupd.congr hlen
  · intro q hq
    rw [hruns] at hq
    rw [hg]
    unfold byteSize
    dsimp only
    by_cases hql : q = last
    · subst hql
      rw [Function.update_self, Nat.mul_add_mod']
      exact hal
    · rw [Function.update_of_ne hql]
      unfold resizeSizeMap
      split_ifs
      · exact h.runs.aligned q hq
      · rfl
  · rw [hruns, RunSet.covers_congr hlen,
      RunSet.covers_update_of_mem hap hmem.1]
    unfold RunSet.InRun
    rw [Function.update_self]
    constructor
    · rintro (⟨hc, -⟩ | hin)
      · exact Or.inl hc
      · exact Or.inr ⟨hin.1, by omega⟩
    · rintro (hc | hin)
      · by_cases hlp : last ≤ p ∧ p < last + a.runPages last
        · exact Or.inr ⟨hlp.1, by omega⟩
        · exact Or.inl ⟨hc, hlp⟩
      · exact Or.inr ⟨hin.1, by omega⟩
  · rw [hlen last hmem.1, Function.update_self]
    omega

/-- No free page run reaches the end: a new one is inserted over the new pages. -/
theorem Inv.expandFootprint_insert (h : a.Inv) (hinc : 0 < inc) (hal : inc % kPageSize = 0)
    (hend : ∀ r ∈ a.freePageRuns, r + a.runPages r < a.pageMapSize) :
    ExpandedRuns a (a.expandFootprint inc) inc a.pageMapSize := by
  have hap := h.runs.apart
  have hm := Nat.zero_le (inc / kPageSize)
  have hNR : a.pageMapSize ∉ a.freePageRuns := fun hN => by
    have := hend _ hN
    omega
  have hg : a.expandFootprint inc =
      { a with
        pageMapSize := a.pageMapSize + inc / kPageSize
        freePageRunSizeMap := Function.update
          (resizeSizeMap a.freePageRunSizeMap (a.pageMapSize + inc / kPageSize)) a.pageMapSize inc
        freePageRuns := SortedSet.insert a.freePageRuns a.pageMapSize
        footprint := a.footprint + inc } := by
    have hfp : a.footprint / kPageSize = a.pageMapSize := by
      rw [h.footprint_eq, Nat.mul_div_cancel _ kPageSize_pos]
    unfold expandFootprint
    rw [h.lastFreePageRunSize_of_lt hend]
    dsimp only
    rw [h.newNumOfPages inc, hfp]
    cases a.freePageRuns.getLast? <;> rfl
  have hruns : (a.expandFootprint inc).freePageRuns =
      SortedSet.insert a.freePageRuns a.pageMapSize := by
    rw [hg]
  have hlen : ∀ q ∈ SortedSet.insert a.freePageRuns a.pageMapSize,
      (a.expandFootprint inc).runPages q =
        Function.update a.runPages a.pageMapSize (inc / kPageSize) q := by
    intro q hq
    rw [hg]
    unfold runPages byteSize
    dsimp only
    by_cases hqN : q = a.pageMapSize
    · subst hqN
      rw [Function.update_self, Function.update_self]
    · rw [Function.update_of_ne hqN, Function.update_of_ne hqN]
      have hq' := (SortedSet.mem_insert.mp hq).resolve_left hqN
      unfold resizeSizeMap
      rw [if_pos (by have := hend q hq'; omega)]
  have hnew : 0 < inc / kPageSize :=
    Nat.div_pos (Nat.le_of_dvd hinc (Nat.dvd_of_mod_eq_zero hal)) kPageSize_pos
  have hupd := ((hap.mono (Nat.le_add_right _ (inc / kPageSize))).update_of_not_mem hNR
    (inc / kPageSize)).insert (r := a.pageMapSize)
      (by rw [Function.update_self]; exact hnew)
      (by rw [Function.update_self])
      (fun q hq _ => by
        rw [Function.update_of_ne (ne_of_mem_of_not_mem hq hNR)]
        exact hend q hq)
      (fun q hq _ => absurd (hend q hq) (by omega))
  have hmax : ∀ q ∈ SortedSet.insert a.freePageRuns a.pageMapSize, q ≤ a.pageMapSize := by
    intro q hq
    rcases SortedSet.mem_insert.mp hq with rfl | hq
    · exact le_refl _
    · have := hend q hq
      omega
  refine ⟨⟨?_, ?_⟩, fun p => ?_, ?_, ?_⟩
  · rw [hruns, expandFootprint_pageMapSize, h.newNumOfPages inc]
    exact hupd.congr hlen
  · intro q hq
    rw [hruns] at hq
    rw [hg]
    unfold byteSize
    dsimp only
    by_cases hqN : q = a.pageMapSize
    · subst hqN
      rw [Function.update_self]
      exact hal
    · rw [Function.update_of_ne hqN]
      unfold resizeSizeMap
      split_ifs
      · exact h.runs.aligned q ((SortedSet.mem_insert.mp hq).resolve_left hqN)
      · rfl
  · rw [hruns, RunSet.covers_congr hlen, RunSet.covers_insert,
      RunSet.covers_update_of_not_mem hNR]
    unfold RunSet.InRun
    rw [Function.update_self]
  · rw [hruns]
    exact (SortedSet.getLast?_eq_some_iff (SortedSet.sorted_insert hap.sorted _)).mpr
      ⟨SortedSet.mem_insert.mpr (Or.inl rfl), hmax⟩
  · rw [hlen _ (SortedSet.mem_insert.mpr (Or.inl rfl)), Function.update_self]

/-- The state after growing the footprint by `inc` bytes: the new pages are free and join the
free pages at the old end in the last free page run. -/
structure Expanded (a g : RosAlloc) (inc : Nat) : Prop where
  inv : g.Inv
  pageMap : g.pageMap = a.pageMap
  pageMapSize : g.pageMapSize = a.pageMapSize + inc / kPageSize
  footprint : g.footprint = a.footprint + inc
  capacity : g.capacity = a.capacity
  getLast : g.freePageRuns.getLast? =
    some (a.pageMapSize - trailingFreePages a.pageMap a.pageMapSize)
  lastPages : g.runPages (a.pageMapSize - trailingFreePages a.pageMap a.pageMapSize) =
    trailingFreePages a.pageMap a.pageMapSize + inc / kPageSize

theorem Inv.expandFootprint (h : a.Inv) (hinc : 0 < inc) (hal : inc % kPageSize = 0)
    (hcap : a.footprint + inc ≤ a.capacity) : Expanded a (a.expandFootprint inc) inc := by
  obtain ⟨hle, hfree, -⟩ := trailingFreePages_spec a.pageMap a.pageMapSize
  have hm := Nat.zero_le (inc / kPageSize)
  have hruns : ExpandedRuns a (a.expandFootprint inc) inc
      (a.pageMapSize - trailingFreePages a.pageMap a.pageMapSize) := by
    rcases h.trailing with ⟨h0, hend⟩ | ⟨-, -, hlast, hpages⟩
    · rw [h0, Nat.sub_zero]
      exact h.expandFootprint_insert hinc hal hend
    · exact h.expandFootprint_extend hal hlast (by omega)
  have hN' : (a.expandFootprint inc).pageMapSize = a.pageMapSize + inc / kPageSize := by
    rw [expandFootprint_pageMapSize, h.newNumOfPages inc]
  have hpm := expandFootprint_pageMap a inc
  refine ⟨⟨?_, ?_, ?_, ?_, hruns.runs, ?_, ?_⟩, hpm, hN', rfl, expandFootprint_capacity a inc,
    hruns.getLast, by have := hruns.lastPages; omega⟩
  · rw [expandFootprint_footprint, hN', h.footprint_eq, Nat.add_mul,
      Nat.div_mul_cancel (Nat.dvd_of_mod_eq_zero hal)]
  · rw [expandFootprint_footprint, expandFootprint_capacity]
    exact hcap
  · rw [expandFootprint_capacity]
    exact h.capacity_aligned
  · intro i hi
    rw [hN'] at hi
    rw [hpm]
    exact h.released i (by omega)
  · intro p hp
    rw [hN'] at hp
    unfold IsFree
    rw [hpm, hruns.covers p]
    by_cases hpN : p < a.pageMapSize
    · -- an old page: the free pages at the old end were covered already
      rw [← IsFree, h.free_iff p hpN]
      constructor
      · exact Or.inl
      · rintro (hc | hw)
        · exact hc
        · exact (h.free_iff p hpN).mp (hfree p hw.1 hpN)
    · exact ⟨fun _ => Or.inr ⟨by omega, hp⟩, fun _ => h.isFree_of_ge (by omega)⟩
  · intro head part hpair
    rw [hpm]
    exact h.parts head part hpair

end Expand

/-! ## `AllocPages` -/

/-- The growth `AllocPages` asks for: at least 2 MB and what the last free page run lacks, at
most what the capacity leaves. -/
theorem growIncrement_spec {capacity footprint t n inc : Nat} (hcap : capacity % kPageSize = 0)
    (hfp : footprint % kPageSize = 0) (hle : footprint ≤ capacity) (htn : t < n)
    (hroom : n * kPageSize ≤ capacity - footprint + t * kPageSize)
    (hinc : inc = min (max (2 * MB) (n * kPageSize - t * kPageSize)) (capacity - footprint)) :
    0 < inc ∧ inc % kPageSize = 0 ∧ footprint + inc ≤ capacity ∧ n ≤ t + inc / kPageSize := by
  unfold kPageSize MB at *
  omega

section Alloc

variable {a : RosAlloc}

theorem Inv.freeWindow_iff (h : a.Inv) {p n : Nat} (hn : 0 < n) :
    a.FreeWindow p n ↔ ∀ i, p ≤ i → i < p + n → RunSet.Covers a.freePageRuns a.runPages i := by
  constructor
  · rintro ⟨hle, hfree⟩ i h₁ h₂
    exact (h.free_iff i (by omega)).mp (hfree i h₁ h₂)
  · intro hcov
    obtain ⟨r, hr, hrp, hend⟩ := (h.runs.apart.window_iff hn).mp hcov
    have := h.runs.apart.inside r hr
    exact ⟨by omega, fun i h₁ h₂ => (h.free_iff i (by omega)).mpr (hcov i h₁ h₂)⟩

/-- The search of `AllocPages` compares byte sizes; on the runs that is comparing pages. -/
theorem Inv.find?_byteSize (h : a.Inv) (n : Nat) :
    a.freePageRuns.find? (fun fpr => decide (n * kPageSize ≤ a.byteSize fpr)) =
      a.freePageRuns.find? (fun fpr => decide (n ≤ a.runPages fpr)) := by
  apply List.find?_congr
  intro q hq
  rw [byteSize_eq h.runs hq]
  exact decide_eq_decide.mpr (Nat.mul_le_mul_right_iff kPageSize_pos)

/-- No free page run fits but the capacity leaves room: the footprint grows and the request is
taken from the last free page run. -/
theorem Inv.growFootprint_of_le (h : a.Inv) {n : Nat} (hno : ∀ p, ¬a.FreeWindow p n)
    (hroom : n * kPageSize ≤
      a.capacity - a.footprint + trailingFreePages a.pageMap a.pageMapSize * kPageSize) :
    ∃ inc, Expanded a (a.expandFootprint inc) inc ∧ 0 < inc ∧
      n ≤ trailingFreePages a.pageMap a.pageMapSize + inc / kPageSize ∧
      a.growFootprint (n * kPageSize) =
        (some (a.pageMapSize - trailingFreePages a.pageMap a.pageMapSize),
          (a.expandFootprint inc).takeFreePageRun
            (a.pageMapSize - trailingFreePages a.pageMap a.pageMapSize) (n * kPageSize)) := by
  obtain ⟨hle, hfree, -⟩ := trailingFreePages_spec a.pageMap a.pageMapSize
  have htn : trailingFreePages a.pageMap a.pageMapSize < n := by
    by_contra hge
    exact hno (a.pageMapSize - trailingFreePages a.pageMap a.pageMapSize)
      ⟨by omega, fun i h₁ h₂ => hfree i h₁ (by omega)⟩
  have hfp : a.footprint % kPageSize = 0 := by
    rw [h.footprint_eq]
    exact Nat.mul_mod_left _ _
  obtain ⟨hpos, hal, hcap, hfit⟩ :=
    growIncrement_spec h.capacity_aligned hfp h.footprint_le htn hroom rfl
  have hE := h.expandFootprint hpos hal hcap
  refine ⟨_, hE, hpos, hfit, ?_⟩
  have hlt := Nat.mul_lt_mul_of_pos_right htn kPageSize_pos
  unfold growFootprint
  rw [h.lastFreePageRunSize_eq]
  dsimp only
  rw [if_pos (by omega), if_pos hroom, hE.getLast]

/-- Neither a free page run nor the room left can hold the request. -/
theorem Inv.growFootprint_of_lt (h : a.Inv) {n : Nat}
    (hroom : a.capacity - a.footprint + trailingFreePages a.pageMap a.pageMapSize * kPageSize <
      n * kPageSize) :
    a.growFootprint (n * kPageSize) = (none, a) := by
  unfold growFootprint
  rw [h.lastFreePageRunSize_eq]
  dsimp only
  split_ifs with h₁ h₂
  · exact absurd h₂ (Nat.not_le.mpr hroom)
  · rfl
  · rfl

/-- `AllocPages` returned page `p` for `n` pages of kind `t`. -/
structure AllocResult (a a' : RosAlloc) (n : Nat) (t : PageMapKind) (p : Nat) : Prop where
  inv : a'.Inv
  allocation : a'.Allocation p n
  head : a'.pageMap p = t
  frame : ∀ i, ¬(p ≤ i ∧ i < p + n) → a'.pageMap i = a.pageMap i
  capacity : a'.capacity = a.capacity
  firstFit : (∃ q, a.FreeWindow q n) →
    a.FreeWindow p n ∧ (∀ q, a.FreeWindow q n → p ≤ q) ∧ a'.footprint = a.footprint
  grown : (∀ q, ¬a.FreeWindow q n) →
    p = a.pageMapSize - trailingFreePages a.pageMap a.pageMapSize ∧ a.footprint < a'.footprint

/-- The contract of `AllocPages` for `n` pages of kind `t`: the lowest free pages that fit, the
footprint grown only when none do, and null exactly when neither free pages nor the room left
to grow can hold the request. -/
def AllocSpec (a : RosAlloc) (n : Nat) (t : PageMapKind) : Prop :=
  ∃ res a', a.allocPages n t = some (res, a') ∧
    (res = none ↔ (∀ p, ¬a.FreeWindow p n) ∧
      a.capacity - a.footprint + trailingFreePages a.pageMap a.pageMapSize * kPageSize <
        n * kPageSize) ∧
    (res = none → a' = a) ∧ ∀ p, res = some p → AllocResult a a' n t p

theorem Inv.allocPages (h : a.Inv) {n : Nat} (hn : 0 < n) {t tp : PageMapKind}
    (ht : t.partKind? = some tp) : a.AllocSpec n t := by
  unfold AllocSpec
  have hfind := h.find?_byteSize n
  cases hr : a.freePageRuns.find? (fun fpr => decide (n ≤ a.runPages fpr)) with
  | some r =>
    obtain ⟨hmem, hfit, hleast⟩ := h.runs.apart.find?_eq_some hn hr
    have hA := h.allocate hmem hn hfit ht
    refine ⟨some r, (a.takeFreePageRun r (n * kPageSize)).markAllocated r n t tp, ?_,
      ⟨(fun h' => nomatch h'), fun hno => absurd hA.window (hno.1 r)⟩,
      (fun h' => nomatch h'), ?_⟩
    · unfold RosAlloc.allocPages
      dsimp only
      rw [hfind, hr]
      dsimp only
      rw [ht]
    · rintro p ⟨⟩
      exact ⟨hA.inv, hA.allocation, hA.head, hA.frame, hA.capacity,
        fun _ => ⟨hA.window, fun q hq => hleast q ((h.freeWindow_iff hn).mp hq), hA.footprint⟩,
        fun hno => absurd hA.window (hno r)⟩
  | none =>
    have hno : ∀ p, ¬a.FreeWindow p n := fun p hw =>
      h.runs.apart.find?_eq_none hn hr ((h.freeWindow_iff hn).mp hw)
    by_cases hroom : n * kPageSize ≤
        a.capacity - a.footprint + trailingFreePages a.pageMap a.pageMapSize * kPageSize
    · -- growth: the request is taken from the last free page run
      obtain ⟨inc, hE, hinc, hfit, hgrow⟩ := h.growFootprint_of_le hno hroom
      have hmem := ((SortedSet.getLast?_eq_some_iff hE.inv.runs.apart.sorted).mp hE.getLast).1
      have hA := hE.inv.allocate hmem hn (by rw [hE.lastPages]; exact hfit) ht
      refine ⟨some (a.pageMapSize - trailingFreePages a.pageMap a.pageMapSize),
        ((a.expandFootprint inc).takeFreePageRun
          (a.pageMapSize - trailingFreePages a.pageMap a.pageMapSize) (n * kPageSize)).markAllocated
          (a.pageMapSize - trailingFreePages a.pageMap a.pageMapSize) n t tp, ?_,
        ⟨(fun h' => nomatch h'), fun hlt => absurd hroom (Nat.not_le.mpr hlt.2)⟩,
        (fun h' => nomatch h'), ?_⟩
      · unfold RosAlloc.allocPages
        dsimp only
        rw [hfind, hr]
        dsimp only
        rw [hgrow]
        dsimp only
        rw [ht]
      · rintro p ⟨⟩
        refine ⟨hA.inv, hA.allocation, hA.head, fun i hi => ?_, ?_, fun ⟨q, hq⟩ => absurd hq (hno q),
          fun _ => ⟨rfl, ?_⟩⟩
        · rw [hA.frame i hi, hE.pageMap]
        · rw [hA.capacity, hE.capacity]
        · rw [hA.footprint, hE.footprint]
          omega
    · -- no room: null and nothing changes
      have hgrow := h.growFootprint_of_lt (Nat.lt_of_not_le hroom)
      refine ⟨none, a, ?_, ⟨fun _ => ⟨hno, Nat.lt_of_not_le hroom⟩, fun _ => rfl⟩, fun _ => rfl,
        fun p h' => nomatch h'⟩
      unfold RosAlloc.allocPages
      dsimp only
      rw [hfind, hr]
      dsimp only
      rw [hgrow]

end Alloc

end RosAlloc

end Art
