import AndroidArt.Gc.RosAllocFree

/-!
# The page state of RosAlloc over every run of calls

* `new_inv`, `Inv.trim`, `Inv.setFootprintLimit` — the constructor establishes the invariant and
  the two calls that move the end of the footprint keep it.
* `Inv.run` — every run of valid calls from a consistent state ends in one.
* `rosAlloc_page_state` — after any run of valid calls from the initialised allocator, every page
  of the page map lies in exactly one free page run or in exactly one allocation, and the next
  `AllocPages` and `FreePages` meet their contracts `AllocSpec` and `FreeSpec`.
* `initial_free_run_released` — the pages of a free page run need not be `kPageMapEmpty`: those of
  the initial run are `kPageMapReleased`, the anonymous mapping's zero.
-/

set_option autoImplicit false

namespace Art

namespace RosAlloc

open RunSet PageMapKind

variable {a a' : RosAlloc}

/-! ## `Trim` and `SetFootprintLimit` -/

/-- Removing the last free page run, when it ends the footprint, keeps the invariant. -/
theorem Inv.trim (h : a.Inv) : a.trim.2.Inv := by
  unfold RosAlloc.trim
  cases hlast : a.freePageRuns.getLast? with
  | none => exact h
  | some last =>
    dsimp only
    split_ifs with hend
    · have hap := h.runs.apart
      have hmem := (SortedSet.getLast?_eq_some_iff hap.sorted).mp hlast
      have hinside := hap.inside last hmem.1
      rw [fprEnd_eq h.runs hmem.1, h.footprint_eq] at hend
      have hN : last + a.runPages last = a.pageMapSize :=
        Nat.eq_of_mul_eq_mul_right kPageSize_pos hend
      have hfp : a.footprint - a.byteSize last = last * kPageSize := by
        rw [h.footprint_eq, byteSize_eq h.runs hmem.1, ← hN, Nat.add_mul, Nat.add_sub_cancel]
      have hN' : (a.footprint - a.byteSize last) / kPageSize = last := by
        rw [hfp, Nat.mul_div_cancel _ kPageSize_pos]
      have hbelow : ∀ q ∈ a.freePageRuns.erase last, q + a.runPages q < last := by
        intro q hq
        obtain ⟨hql, hq'⟩ := (SortedSet.mem_erase hap.sorted).mp hq
        exact hap.apart q hq' last hmem.1 (lt_of_le_of_ne (hmem.2 q hq') hql)
      have hlen : ∀ q ∈ a.freePageRuns.erase last,
          resizeSizeMap a.freePageRunSizeMap last q / kPageSize = a.runPages q := by
        intro q hq
        unfold resizeSizeMap
        rw [if_pos (by have := hbelow q hq; omega)]
        rfl
      have hapart : Apart (a.freePageRuns.erase last) a.runPages last :=
        ⟨(hap.erase last).sorted, (hap.erase last).pos, fun q hq => le_of_lt (hbelow q hq),
          (hap.erase last).apart⟩
      refine ⟨?_, ?_, h.capacity_aligned, ?_, ⟨?_, ?_⟩, ?_, ?_⟩
      · show a.footprint - a.byteSize last = (a.footprint - a.byteSize last) / kPageSize * kPageSize
        rw [hN', hfp]
      · exact le_trans (Nat.sub_le _ _) h.footprint_le
      · intro i hi
        change (a.footprint - a.byteSize last) / kPageSize ≤ i at hi
        show (if i < (a.footprint - a.byteSize last) / kPageSize then a.pageMap i
          else .kPageMapReleased) = .kPageMapReleased
        rw [if_neg (Nat.not_lt.mpr hi)]
      · show Apart (a.freePageRuns.erase last)
          (fun q => resizeSizeMap a.freePageRunSizeMap ((a.footprint - a.byteSize last) / kPageSize)
            q / kPageSize) ((a.footprint - a.byteSize last) / kPageSize)
        rw [hN']
        exact hapart.congr hlen
      · intro q hq
        show resizeSizeMap a.freePageRunSizeMap _ q % kPageSize = 0
        unfold resizeSizeMap
        split_ifs
        · exact h.runs.aligned q (List.mem_of_mem_erase hq)
        · rfl
      · intro p hp
        change p < (a.footprint - a.byteSize last) / kPageSize at hp
        rw [hN'] at hp
        show ((if p < (a.footprint - a.byteSize last) / kPageSize then a.pageMap p
          else .kPageMapReleased).isFree = true) ↔ Covers (a.freePageRuns.erase last)
            (fun q => resizeSizeMap a.freePageRunSizeMap
              ((a.footprint - a.byteSize last) / kPageSize) q / kPageSize) p
        rw [hN', if_pos hp, covers_congr hlen, covers_erase hap hmem.1, ← IsFree,
          h.free_iff p (by omega)]
        unfold InRun
        exact ⟨fun hc => ⟨hc, by omega⟩, fun hc => hc.1⟩
      · -- the page map keeps its pages below the new end, and past it reads released
        intro head part hpair
        have hpart := (not_isFree_of_partKind? hpair).2.1
        have hf := h.parts head part hpair
        refine ⟨fun h0 => ?_, fun p hp => ?_⟩
        · dsimp only at h0
          split_ifs at h0
          · exact hf.1 h0
          · rw [← h0] at hpart
            cases hpart
        · dsimp only at hp ⊢
          split_ifs at hp with hlt
          · rw [if_pos (by omega)]
            exact hf.2 p hp
          · rw [← hp] at hpart
            cases hpart
    · exact h

/-- Growing the capacity to a whole number of pages keeps the invariant. -/
theorem Inv.setFootprintLimit (h : a.Inv) {newCapacity : Nat}
    (hal : newCapacity % kPageSize = 0) (hs : a.setFootprintLimit newCapacity = some a') :
    a'.Inv := by
  unfold RosAlloc.setFootprintLimit at hs
  split_ifs at hs with hgrow hmax
  · cases hs
    exact ⟨h.footprint_eq, le_trans h.footprint_le (le_of_lt hgrow), hal, h.released,
      ⟨h.runs.apart, h.runs.aligned⟩, h.free_iff, h.parts⟩
  · cases hs
    exact h

/-! ## The constructor -/

/-- The state the constructor builds before it inserts its free page run: every page released, one
run of the whole capacity at page `0`. -/
theorem Inv.initial {kIsDebugBuild : Bool} {b : RosAlloc} (hcap : 0 < b.capacity)
    (hal : b.capacity % kPageSize = 0) (hfp : b.footprint = b.capacity)
    (hmap : ∀ i, b.pageMap i = .kPageMapReleased) (hN : b.pageMapSize = b.capacity / kPageSize)
    (hruns : b.freePageRuns = []) (hsize : b.byteSize 0 = b.capacity) :
    ((b.releasePages kIsDebugBuild 0).insertRun 0).Inv := by
  obtain ⟨pm, hrel, hpm⟩ := releasePages_eq kIsDebugBuild b 0
  rw [hrel]
  have hpm' : ∀ i, pm i = .kPageMapReleased := by
    intro i
    rcases hpm i with heq | ⟨hempty, -⟩
    · rw [heq, hmap i]
    · rw [hmap i] at hempty
      cases hempty
  have hpages : b.capacity / kPageSize * kPageSize = b.capacity :=
    Nat.div_mul_cancel (Nat.dvd_of_mod_eq_zero hal)
  have hpos : 0 < b.capacity / kPageSize :=
    Nat.div_pos (Nat.le_of_dvd hcap (Nat.dvd_of_mod_eq_zero hal)) kPageSize_pos
  have hins : SortedSet.insert b.freePageRuns 0 = [0] := by
    rw [hruns]
    rfl
  have hlen : b.runPages 0 = b.capacity / kPageSize := by
    rw [runPages, hsize]
  have hpart : ∀ part : PageMapKind, part.isFree = false → ∀ i, pm i ≠ part := by
    intro part hpart i hi
    rw [hpm'] at hi
    rw [← hi] at hpart
    cases hpart
  refine ⟨?_, ?_, hal, fun i _ => hpm' i, ⟨?_, ?_⟩, ?_, ?_⟩
  · show b.footprint = b.pageMapSize * kPageSize
    rw [hN, hpages, hfp]
  · show b.footprint ≤ b.capacity
    rw [hfp]
  · show Apart (SortedSet.insert b.freePageRuns 0) b.runPages b.pageMapSize
    rw [hins]
    refine ⟨List.pairwise_singleton _ 0, fun r hr => ?_, fun r hr => ?_, fun r hr r' hr' hlt => ?_⟩
    · rw [List.mem_singleton.mp hr, hlen]
      exact hpos
    · rw [List.mem_singleton.mp hr, hlen, Nat.zero_add, hN]
    · rw [List.mem_singleton.mp hr, List.mem_singleton.mp hr'] at hlt
      exact absurd hlt (lt_irrefl 0)
  · intro r hr
    change r ∈ SortedSet.insert b.freePageRuns 0 at hr
    rw [hins] at hr
    rw [List.mem_singleton.mp hr]
    show b.byteSize 0 % kPageSize = 0
    rw [hsize]
    exact hal
  · intro p hp
    change p < b.pageMapSize at hp
    show (pm p).isFree = true ↔ Covers (SortedSet.insert b.freePageRuns 0) b.runPages p
    rw [hpm', hins]
    exact ⟨fun _ => ⟨0, List.mem_singleton_self 0, Nat.zero_le p, by rw [hlen, ← hN]; omega⟩,
      fun _ => rfl⟩
  · intro head part hpair
    have hfree := (not_isFree_of_partKind? hpair).2.1
    exact ⟨hpart part hfree 0, fun p hp => absurd hp (hpart part hfree (p + 1))⟩

/-- The constructor, with a positive capacity of whole pages, gives a consistent state: one free
page run over the whole capacity. -/
theorem new_inv {kIsDebugBuild : Bool} {capacity maxCapacity pageReleaseSizeThreshold : Nat}
    {pageReleaseMode : PageReleaseMode} (hcap : 0 < capacity) (hal : capacity % kPageSize = 0)
    (hnew : RosAlloc.new kIsDebugBuild capacity maxCapacity pageReleaseMode
      pageReleaseSizeThreshold = some a) : a.Inv := by
  unfold RosAlloc.new at hnew
  split_ifs at hnew with hok
  dsimp only at hnew
  cases hnew
  exact Inv.initial hcap hal rfl (fun _ => rfl) rfl rfl (byteSize_setByteSize_self _ _ _)

/-! ## Runs of calls -/

/-- The preconditions the callers of the page level keep: `AllocPages` of at least one page of a
run or of a large object (any other type is `LOG(FATAL)`), and a footprint limit of whole pages
(`DCHECK_EQ(RoundUp(new_capacity, kPageSize), new_capacity)`). -/
def Call.Valid : Call → Prop
  | .allocPages numPages pageMapType => 0 < numPages ∧ pageMapType.partKind?.isSome = true
  | .freePages _ => True
  | .trim => True
  | .setFootprintLimit newCapacity => newCapacity % kPageSize = 0

instance (c : Call) : Decidable c.Valid :=
  match c with
  | .allocPages numPages pageMapType =>
    inferInstanceAs (Decidable (0 < numPages ∧ pageMapType.partKind?.isSome = true))
  | .freePages _ => inferInstanceAs (Decidable True)
  | .trim => inferInstanceAs (Decidable True)
  | .setFootprintLimit newCapacity => inferInstanceAs (Decidable (newCapacity % kPageSize = 0))

/-- Why `AllocPages` needs a page: with none, the run it takes keeps its place in
`free_page_runs_` with a size of zero while its first page becomes a run. -/
example : ((RosAlloc.new false 4096 4096 .kPageReleaseModeNone 0).bind fun a =>
    (a.allocPages 0 .kPageMapRun).map Prod.snd).map
      (fun a => (a.freePageRuns, a.byteSize 0, a.pageMap 0)) = some ([0], 0, .kPageMapRun) := by
  decide

section Run

variable (kIsDebugBuild : Bool)

/-- A valid call from a consistent state ends in one. -/
theorem Inv.step (h : a.Inv) {c : Call} (hc : c.Valid) (hs : a.step kIsDebugBuild c = some a') :
    a'.Inv := by
  cases c with
  | allocPages numPages pageMapType =>
    obtain ⟨hn, hsome⟩ := hc
    obtain ⟨tp, htp⟩ := Option.isSome_iff_exists.mp hsome
    obtain ⟨res, b, halloc, -, hnone, hres⟩ := h.allocPages hn htp
    rw [RosAlloc.step, halloc, Option.map_some] at hs
    cases hs
    cases res with
    | none => exact hnone rfl ▸ h
    | some p => exact (hres p rfl).inv
  | freePages ptr =>
    rw [RosAlloc.step] at hs
    cases hpk : (a.pageMap ptr).partKind? with
    | none =>
      have hnone : a.freePages kIsDebugBuild ptr = none := by
        unfold RosAlloc.freePages
        dsimp only
        rw [hpk]
        rfl
      rw [hnone] at hs
      cases hs
    | some tp =>
      obtain ⟨b, hfree, hinv, -⟩ := h.freePages kIsDebugBuild (h.allocation_of_head hpk)
      rw [hfree, Option.map_some] at hs
      cases hs
      exact hinv
  | trim =>
    cases hs
    exact h.trim
  | setFootprintLimit newCapacity => exact h.setFootprintLimit hc hs

/-- Every run of valid calls from a consistent state ends in one. -/
theorem Inv.run (h : a.Inv) {calls : List Call} (hcalls : ∀ c ∈ calls, c.Valid)
    (hrun : a.run kIsDebugBuild calls = some a') : a'.Inv := by
  induction calls generalizing a with
  | nil =>
    cases hrun
    exact h
  | cons c calls ih =>
    rw [RosAlloc.run] at hrun
    cases hstep : a.step kIsDebugBuild c with
    | none =>
      rw [hstep] at hrun
      cases hrun
    | some b =>
      rw [hstep, Option.bind_some] at hrun
      exact ih (h.step kIsDebugBuild (hcalls c List.mem_cons_self) hstep)
        (fun c' hc' => hcalls c' (List.mem_cons_of_mem c hc')) hrun

/-- What a consistent state of the page level guarantees: every page of the page map lies in
exactly one free page run and no allocation, or in no free page run and exactly one allocation,
and the next `AllocPages` and `FreePages` meet their contracts. -/
def PageState (a : RosAlloc) : Prop :=
  a.Inv ∧
    (∀ p, p < a.pageMapSize →
      ((∃! r, r ∈ a.freePageRuns ∧ InRun a.runPages r p) ∧
          ¬∃ hd n, a.Allocation hd n ∧ hd ≤ p ∧ p < hd + n) ∨
        ((¬∃ r, r ∈ a.freePageRuns ∧ InRun a.runPages r p) ∧
          ∃! hn : Nat × Nat, a.Allocation hn.1 hn.2 ∧ hn.1 ≤ p ∧ p < hn.1 + hn.2)) ∧
    (∀ n (t tp : PageMapKind), 0 < n → t.partKind? = some tp → a.AllocSpec n t) ∧
    ∀ ptr n, a.Allocation ptr n → FreeSpec kIsDebugBuild a ptr n

theorem Inv.pageState (h : a.Inv) : a.PageState kIsDebugBuild :=
  ⟨h, fun _ hp => h.partition hp, fun _ _ _ hn ht => h.allocPages hn ht,
    fun _ _ hal => h.freePages kIsDebugBuild hal⟩

end Run

/-- The page state of RosAlloc after any run of valid calls from the initialised allocator. -/
theorem rosAlloc_page_state {kIsDebugBuild : Bool}
    {capacity maxCapacity pageReleaseSizeThreshold : Nat} {pageReleaseMode : PageReleaseMode}
    {a₀ a : RosAlloc} {calls : List Call} (hcap : 0 < capacity)
    (hal : capacity % kPageSize = 0)
    (hnew : RosAlloc.new kIsDebugBuild capacity maxCapacity pageReleaseMode
      pageReleaseSizeThreshold = some a₀)
    (hcalls : ∀ c ∈ calls, c.Valid) (hrun : a₀.run kIsDebugBuild calls = some a) :
    a.PageState kIsDebugBuild :=
  ((new_inv hcap hal hnew).run kIsDebugBuild hcalls hrun).pageState kIsDebugBuild

/-- Two pages, a run and a large object allocated and the run freed again. -/
theorem rosAlloc_page_state_alloc_free :
    let calls := [Call.allocPages 1 .kPageMapRun, Call.allocPages 1 .kPageMapLargeObject,
      Call.freePages 0]
    (∀ c ∈ calls, c.Valid) ∧
      ((RosAlloc.new false 8192 8192 .kPageReleaseModeNone 0).bind fun a₀ =>
        a₀.run false calls).isSome ∧
      ∀ a₀ a, RosAlloc.new false 8192 8192 .kPageReleaseModeNone 0 = some a₀ →
        a₀.run false calls = some a → a.PageState false :=
  ⟨by decide, by decide,
    fun _ _ hnew hrun => rosAlloc_page_state (by decide) (by decide) hnew (by decide) hrun⟩

/-- The pages of the initial free page run are `kPageMapReleased`, not `kPageMapEmpty`: the page
map is fresh anonymous memory and `ReleasePages` only releases empty pages. -/
theorem initial_free_run_released :
    (RosAlloc.new false 4096 4096 .kPageReleaseModeNone 0).map
      (fun a => (a.freePageRuns, a.pageMap 0)) = some ([0], .kPageMapReleased) := by
  decide

end RosAlloc

end Art
