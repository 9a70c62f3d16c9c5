import AndroidArt.Gc.RosAllocAlloc

/-!
# `FreePages` keeps the page state

* `Coalescing` — the state of the two coalescing loops of `FreePages`: the freed run `x`, not in
  `free_page_runs_`, lies beside the free page runs without overlapping them, and together they
  cover a fixed set of pages.
* `Coalescing.higher` — the loop over the runs above `x` merges those that follow it and leaves it
  apart from the rest; `Coalescing.lower` — the loop over the runs below does the same with the
  runs that precede it, the run that absorbs `x` taking its place.
* `Inv.freePages` — `FreePages` on the first page of an allocation returns its byte size, makes
  exactly its pages free, leaves every other page as it was and keeps the invariant.
-/

set_option autoImplicit false

namespace Art

namespace RosAlloc

open RunSet PageMapKind

/-! ## Free page runs of whole pages -/

section Pages

variable {a : RosAlloc}

theorem byteSize_of_aligned {r : Nat} (hal : a.byteSize r % kPageSize = 0) :
    a.byteSize r = a.runPages r * kPageSize := by
  unfold runPages kPageSize at *
  omega

/-- A free page run of whole pages ends at page `q` when its pages reach `q`. -/
theorem fprEnd_eq_iff {r : Nat} (hal : a.byteSize r % kPageSize = 0) (q : Nat) :
    a.fprEnd r = q * kPageSize ↔ r + a.runPages r = q := by
  rw [fprEnd, byteSize_of_aligned hal, ← Nat.add_mul]
  exact Nat.mul_right_cancel_iff kPageSize_pos

/-- The run `x` given the pages of the runs `r` and `s` of whole pages. -/
theorem runPages_merge (b : RosAlloc) {r s : Nat} (hr : a.byteSize r % kPageSize = 0)
    (hs : a.byteSize s % kPageSize = 0) (x : Nat) :
    (b.setByteSize x (a.byteSize r + a.byteSize s)).runPages =
      Function.update b.runPages x (a.runPages r + a.runPages s) := by
  rw [runPages_setByteSize, byteSize_of_aligned hr, byteSize_of_aligned hs, ← Nat.add_mul,
    Nat.mul_div_cancel _ kPageSize_pos]

end Pages

/-- Pages covered by a run erased and merged into its neighbour are still covered. -/
theorem or_merge_iff {A B D : Prop} (hB : B → A) : (A ∧ ¬B) ∨ (D ∨ B) ↔ A ∨ D := by
  constructor
  · rintro (⟨hA, -⟩ | hD | hb)
    · exact Or.inl hA
    · exact Or.inr hD
    · exact Or.inl (hB hb)
  · rintro (hA | hD)
    · by_cases hb : B
      · exact Or.inr (Or.inr hb)
      · exact Or.inl ⟨hA, hb⟩
    · exact Or.inr (Or.inl hD)

/-! ## The coalescing loops -/

/-- The state of the coalescing loops of `FreePages`: the page map of `a₀`, the free page runs
apart from one another, and the run `x`, not among them, beside them without overlap; the pages of
all of them are those of `C`. -/
structure Coalescing (a₀ a : RosAlloc) (x : Nat) (C : Nat → Prop) : Prop where
  pageMap : a.pageMap = a₀.pageMap
  pageMapSize : a.pageMapSize = a₀.pageMapSize
  footprint : a.footprint = a₀.footprint
  capacity : a.capacity = a₀.capacity
  apart : Apart a.freePageRuns a.runPages a.pageMapSize
  aligned : ∀ r ∈ a.freePageRuns, a.byteSize r % kPageSize = 0
  not_mem : x ∉ a.freePageRuns
  pos : 0 < a.runPages x
  inside : x + a.runPages x ≤ a.pageMapSize
  xaligned : a.byteSize x % kPageSize = 0
  below : ∀ r ∈ a.freePageRuns, r < x → r + a.runPages r ≤ x
  above : ∀ r ∈ a.freePageRuns, x < r → x + a.runPages x ≤ r
  covers : ∀ p, Covers a.freePageRuns a.runPages p ∨ InRun a.runPages x p ↔ C p

/-- The run `x` is apart from the free page runs above it. -/
def ApartAbove (a : RosAlloc) (x : Nat) : Prop :=
  ∀ r ∈ a.freePageRuns, x < r → x + a.runPages x < r

/-- The free page runs below `x` are apart from it. -/
def ApartBelow (a : RosAlloc) (x : Nat) : Prop :=
  ∀ r ∈ a.freePageRuns, r < x → r + a.runPages r < x

namespace Coalescing

variable {a₀ a : RosAlloc} {x : Nat} {C : Nat → Prop}

/-- `x` absorbs the lowest run above it, which starts where `x` ends. -/
theorem mergeHigher (hc : Coalescing a₀ a x C) {h : Nat} (hh : h ∈ a.freePageRuns)
    (hleast : ∀ r ∈ a.freePageRuns, x < r → h ≤ r) (hend : x + a.runPages x = h) :
    Coalescing a₀ ((a.eraseRun h).setByteSize x (a.byteSize x + a.byteSize h)) x C := by
  have hlen := runPages_merge (a.eraseRun h) hc.xaligned (hc.aligned h hh) x
  rw [eraseRun_runPages] at hlen
  have hmem : ∀ r, r ∈ a.freePageRuns.erase h ↔ r ≠ h ∧ r ∈ a.freePageRuns :=
    fun r => SortedSet.mem_erase hc.apart.sorted
  have hnx : x ∉ a.freePageRuns.erase h := fun hx => hc.not_mem ((hmem x).mp hx).2
  have hne : ∀ r ∈ a.freePageRuns.erase h, r ≠ x := fun r hr hrx => hnx (hrx ▸ hr)
  have hinside := hc.apart.inside h hh
  refine ⟨hc.pageMap, hc.pageMapSize, hc.footprint, hc.capacity, ?_, ?_, hnx, ?_, ?_, ?_, ?_, ?_,
    fun p => ?_⟩
  · rw [hlen]
    exact (hc.apart.erase h).update_of_not_mem hnx _
  · intro r hr
    rw [byteSize_setByteSize, if_neg (hne r hr)]
    exact hc.aligned r ((hmem r).mp hr).2
  · rw [hlen, Function.update_self]
    exact Nat.add_pos_left hc.pos _
  · rw [hlen, Function.update_self]
    show x + (a.runPages x + a.runPages h) ≤ a.pageMapSize
    omega
  · rw [byteSize_setByteSize_self]
    have h₁ := hc.xaligned
    have h₂ := hc.aligned h hh
    unfold kPageSize at *
    omega
  · intro r hr hrx
    rw [hlen, Function.update_of_ne (hne r hr)]
    exact hc.below r ((hmem r).mp hr).2 hrx
  · -- a run above `x` is above `h`, so apart from it
    intro r hr hxr
    obtain ⟨hrh, hr'⟩ := (hmem r).mp hr
    rw [hlen, Function.update_self]
    have := hc.apart.apart h hh r hr' (lt_of_le_of_ne (hleast r hr' hxr) (Ne.symm hrh))
    omega
  · rw [hlen]
    show Covers (a.freePageRuns.erase h) _ p ∨ _ ↔ C p
    rw [covers_update_of_not_mem hnx, covers_erase hc.apart hh, inRun_merge hend, ← hc.covers p]
    exact or_merge_iff fun hin => ⟨h, hh, hin⟩

/-- The greatest run below `x`, which ends where `x` starts, absorbs it and takes its place. -/
theorem mergeLower (hc : Coalescing a₀ a x C) (habove : ApartAbove a x) {l : Nat}
    (hl : l ∈ a.freePageRuns) (hgreatest : ∀ r ∈ a.freePageRuns, r < x → r ≤ l)
    (hend : l + a.runPages l = x) :
    Coalescing a₀ ((a.eraseRun l).setByteSize l (a.byteSize l + a.byteSize x)) l C ∧
      ApartAbove ((a.eraseRun l).setByteSize l (a.byteSize l + a.byteSize x)) l := by
  have hlen := runPages_merge (a.eraseRun l) (hc.aligned l hl) hc.xaligned l
  rw [eraseRun_runPages] at hlen
  have hmem : ∀ r, r ∈ a.freePageRuns.erase l ↔ r ≠ l ∧ r ∈ a.freePageRuns :=
    fun r => SortedSet.mem_erase hc.apart.sorted
  have hnl : l ∉ a.freePageRuns.erase l := fun hx => ((hmem l).mp hx).1 rfl
  have hlx : l < x := by
    have := hc.apart.pos l hl
    omega
  have hup : ∀ r ∈ a.freePageRuns.erase l, l < r → x + a.runPages x < r := by
    intro r hr hlr
    obtain ⟨hrl, hr'⟩ := (hmem r).mp hr
    have hxr : x < r := by
      rcases lt_trichotomy r x with hrx | rfl | hxr
      · exact absurd (hgreatest r hr' hrx) (not_le_of_gt hlr)
      · exact absurd hr' hc.not_mem
      · exact hxr
    exact habove r hr' hxr
  refine ⟨⟨hc.pageMap, hc.pageMapSize, hc.footprint, hc.capacity, ?_, ?_, hnl, ?_, ?_, ?_, ?_, ?_,
    fun p => ?_⟩, fun r hr hlr => ?_⟩
  · rw [hlen]
    exact (hc.apart.erase l).update_of_not_mem hnl _
  · intro r hr
    rw [byteSize_setByteSize, if_neg ((hmem r).mp hr).1]
    exact hc.aligned r ((hmem r).mp hr).2
  · rw [hlen, Function.update_self]
    exact Nat.add_pos_right _ hc.pos
  · rw [hlen, Function.update_self]
    have := hc.inside
    show l + (a.runPages l + a.runPages x) ≤ a.pageMapSize
    omega
  · rw [byteSize_setByteSize_self]
    have h₁ := hc.xaligned
    have h₂ := hc.aligned l hl
    unfold kPageSize at *
    omega
  · intro r hr hrl
    obtain ⟨hne, hr'⟩ := (hmem r).mp hr
    rw [hlen, Function.update_of_ne hne]
    exact le_of_lt (hc.apart.apart r hr' l hl hrl)
  · intro r hr hlr
    rw [hlen, Function.update_self]
    have := hup r hr hlr
    omega
  · rw [hlen]
    show Covers (a.freePageRuns.erase l) _ p ∨ _ ↔ C p
    rw [covers_update_of_not_mem hnl, covers_erase hc.apart hl, inRun_merge hend,
      @or_comm (InRun a.runPages l p), ← hc.covers p]
    exact or_merge_iff fun hin => ⟨l, hl, hin⟩
  · rw [hlen, Function.update_self]
    have := hup r hr hlr
    omega

/-- The loop of `FreePages` over the runs above `x`, in increasing order, leaves `x` apart from
the runs above it. -/
theorem higher : ∀ (l : List Nat) {a : RosAlloc}, Coalescing a₀ a x C → l.Pairwise (· < ·) →
    (∀ r, r ∈ l ↔ r ∈ a.freePageRuns ∧ x < r) →
    Coalescing a₀ (coalesceHigher x l a) x C ∧ ApartAbove (coalesceHigher x l a) x
  | [], a, hc, _, hl => ⟨hc, fun r hr hxr => absurd ((hl r).mpr ⟨hr, hxr⟩) List.not_mem_nil⟩
  | h :: rest, a, hc, hs, hl => by
    rw [List.pairwise_cons] at hs
    have hh := (hl h).mp List.mem_cons_self
    have hleast : ∀ r ∈ a.freePageRuns, x < r → h ≤ r := by
      intro r hr hxr
      rcases List.mem_cons.mp ((hl r).mpr ⟨hr, hxr⟩) with rfl | hr'
      · exact le_refl _
      · exact le_of_lt (hs.1 r hr')
    rw [coalesceHigher]
    split_ifs with hend <;> rw [fprEnd_eq_iff hc.xaligned] at hend
    · apply higher rest (hc.mergeHigher hh.1 hleast hend) hs.2
      intro r
      rw [setByteSize_freePageRuns, eraseRun_freePageRuns, SortedSet.mem_erase hc.apart.sorted]
      constructor
      · intro hr
        have := (hl r).mp (List.mem_cons_of_mem h hr)
        exact ⟨⟨ne_of_gt (hs.1 r hr), this.1⟩, this.2⟩
      · rintro ⟨⟨hrh, hr⟩, hxr⟩
        rcases List.mem_cons.mp ((hl r).mpr ⟨hr, hxr⟩) with rfl | hr'
        · exact absurd rfl hrh
        · exact hr'
    · -- `x` does not reach `h`, nor any run above it
      refine ⟨hc, fun r hr hxr => ?_⟩
      have h₁ := hc.above h hh.1 hh.2
      have h₂ := hleast r hr hxr
      omega

/-- The loop of `FreePages` over the runs below `x`, in decreasing order, ends with the run that
absorbed `x` apart from every other run. -/
theorem lower : ∀ (l : List Nat) {a : RosAlloc} {x : Nat}, Coalescing a₀ a x C →
    ApartAbove a x → l.Pairwise (· > ·) → (∀ r, r ∈ l ↔ r ∈ a.freePageRuns ∧ r < x) →
    Coalescing a₀ (coalesceLower x l a).2 (coalesceLower x l a).1 C ∧
      ApartAbove (coalesceLower x l a).2 (coalesceLower x l a).1 ∧
      ApartBelow (coalesceLower x l a).2 (coalesceLower x l a).1
  | [], a, x, hc, habove, _, hl =>
    ⟨hc, habove, fun r hr hrx => absurd ((hl r).mpr ⟨hr, hrx⟩) List.not_mem_nil⟩
  | l :: rest, a, x, hc, habove, hs, hl => by
    rw [List.pairwise_cons] at hs
    have hlm := (hl l).mp List.mem_cons_self
    have hgreatest : ∀ r ∈ a.freePageRuns, r < x → r ≤ l := by
      intro r hr hrx
      rcases List.mem_cons.mp ((hl r).mpr ⟨hr, hrx⟩) with rfl | hr'
      · exact le_refl _
      · exact le_of_lt (hs.1 r hr')
    rw [coalesceLower]
    split_ifs with hend <;> rw [fprEnd_eq_iff (hc.aligned l hlm.1)] at hend
    · obtain ⟨hc', habove'⟩ := hc.mergeLower habove hlm.1 hgreatest hend
      apply lower rest hc' habove' hs.2
      intro r
      rw [setByteSize_freePageRuns, eraseRun_freePageRuns, SortedSet.mem_erase hc.apart.sorted]
      constructor
      · intro hr
        have := (hl r).mp (List.mem_cons_of_mem l hr)
        exact ⟨⟨ne_of_lt (hs.1 r hr), this.1⟩, hs.1 r hr⟩
      · rintro ⟨⟨hrl, hr⟩, hrl'⟩
        rcases List.mem_cons.mp ((hl r).mpr ⟨hr, lt_trans hrl' hlm.2⟩) with rfl | hr'
        · exact absurd rfl hrl
        · exact hr'
    · -- `l` does not reach `x`, and the runs below `l` are apart from it
      refine ⟨hc, habove, fun r hr hrx => ?_⟩
      dsimp only at hr hrx ⊢
      rcases Nat.lt_or_eq_of_le (hgreatest r hr hrx) with hlt | rfl
      · have := hc.apart.apart r hr l hlm.1 hlt
        omega
      · have := hc.below r hr hrx
        omega

/-- Once `x` is apart from every run, inserting it leaves the runs apart and covering `C`. -/
theorem insert (hc : Coalescing a₀ a x C) (habove : ApartAbove a x) (hbelow : ApartBelow a x) :
    Apart (SortedSet.insert a.freePageRuns x) a.runPages a.pageMapSize ∧
      (∀ r ∈ SortedSet.insert a.freePageRuns x, a.byteSize r % kPageSize = 0) ∧
      ∀ p, Covers (SortedSet.insert a.freePageRuns x) a.runPages p ↔ C p := by
  refine ⟨hc.apart.insert hc.pos hc.inside hbelow habove, fun r hr => ?_, fun p => ?_⟩
  · rcases SortedSet.mem_insert.mp hr with rfl | hr
    · exact hc.xaligned
    · exact hc.aligned r hr
  · rw [covers_insert]
    exact hc.covers p

end Coalescing

/-! ## `FreePages` -/

section Free

variable (kIsDebugBuild : Bool)

/-- `ReleasePages` only turns empty pages into released ones. -/
theorem releasePages_eq (a : RosAlloc) (fpr : Nat) :
    ∃ pm : Nat → PageMapKind, a.releasePages kIsDebugBuild fpr = { a with pageMap := pm } ∧
      ∀ i, pm i = a.pageMap i ∨ (a.pageMap i = .kPageMapEmpty ∧ pm i = .kPageMapReleased) := by
  unfold releasePages
  split_ifs
  · refine ⟨(a.releasePageRange kIsDebugBuild (fpr * kPageSize) (a.fprEnd fpr)).pageMap, rfl,
      fun i => ?_⟩
    unfold releasePageRange
    dsimp only
    split_ifs with hd hi hi
    · exact Or.inr ⟨hi.2.2, rfl⟩
    · exact Or.inl rfl
    · exact Or.inr ⟨hi.2.2, rfl⟩
    · exact Or.inl rfl
  · exact ⟨a.pageMap, rfl, fun i => Or.inl rfl⟩

/-- With no free page runs both loops do nothing, so the test of `FreePages` for them changes
nothing. -/
theorem coalesce_of_isEmpty (b : RosAlloc) (ptr : Nat) :
    (if b.freePageRuns.isEmpty = true then (ptr, b)
      else coalesceLower ptr
        ((coalesceHigher ptr (b.freePageRuns.filter (ptr < ·)) b).freePageRuns.filter
          (· < ptr)).reverse
        (coalesceHigher ptr (b.freePageRuns.filter (ptr < ·)) b)) =
      coalesceLower ptr
        ((coalesceHigher ptr (b.freePageRuns.filter (ptr < ·)) b).freePageRuns.filter
          (· < ptr)).reverse
        (coalesceHigher ptr (b.freePageRuns.filter (ptr < ·)) b) := by
  split_ifs with hem
  · rw [List.isEmpty_iff] at hem
    simp only [hem, List.filter_nil, coalesceHigher, List.reverse_nil, coalesceLower]
  · rfl

variable {a : RosAlloc}

/-- The page after an allocation is not a part page of any kind. -/
theorem Inv.end_ne_part (h : a.Inv) {ptr n : Nat} (hal : a.Allocation ptr n)
    {head part : PageMapKind} (hpair : head.partKind? = some part) :
    a.pageMap (ptr + n) ≠ part := by
  obtain ⟨hn, tp, htp, hparts, hend⟩ := hal
  intro hpart
  obtain ⟨m, rfl⟩ : ∃ m, n = m + 1 := ⟨n - 1, by omega⟩
  have hprev := (h.parts head part hpair).2 (ptr + m) (by rw [Nat.add_assoc]; exact hpart)
  have hlast : a.pageMap (ptr + m) = a.pageMap ptr ∨ a.pageMap (ptr + m) = tp := by
    rcases Nat.eq_zero_or_pos m with rfl | hm
    · exact Or.inl rfl
    · exact Or.inr (hparts (ptr + m) (by omega) (by omega))
  rcases hprev with hprev | hprev <;> rcases hlast with hlast | hlast <;> rw [hprev] at hlast
  · -- the page before is this allocation's first page: the parts are its own
    rw [← hlast, hpair] at htp
    cases htp
    exact hend hpart
  · rw [hlast, partKind?_of_part htp] at hpair
    cases hpair
  · rw [← hlast, partKind?_of_part hpair] at htp
    cases htp
  · exact hend (hlast ▸ hpart)

/-- An allocation lies inside the page map. -/
theorem Inv.allocation_end_le (h : a.Inv) {ptr n : Nat} (hal : a.Allocation ptr n) :
    ptr + n ≤ a.pageMapSize := by
  have hn := hal.1
  by_contra hlt
  exact hal.not_isFree (p := ptr + n - 1) (by omega) (by omega) (h.isFree_of_ge (by omega))

/-- The start of the coalescing: the pages of the allocation made empty and its run sized. -/
theorem Inv.freeStart (h : a.Inv) {ptr n : Nat} (hal : a.Allocation ptr n) :
    let a₀ : RosAlloc := { a with pageMap := fun i =>
      if ptr ≤ i ∧ i < ptr + n then .kPageMapEmpty else a.pageMap i }
    Coalescing a₀ (a₀.setByteSize ptr (n * kPageSize)) ptr
      (fun p => Covers a.freePageRuns a.runPages p ∨ (ptr ≤ p ∧ p < ptr + n)) := by
  intro a₀
  have hn := hal.1
  have hap := h.runs.apart
  have hnot : ptr ∉ a.freePageRuns := fun hr =>
    hal.not_isFree (le_refl ptr) (by omega) (h.isFree_of_inRun hr (InRun.self hap hr))
  have hend := h.allocation_end_le hal
  have hlen : (a₀.setByteSize ptr (n * kPageSize)).runPages = Function.update a.runPages ptr n := by
    rw [runPages_setByteSize, Nat.mul_div_cancel _ kPageSize_pos]
    rfl
  refine ⟨rfl, rfl, rfl, rfl, ?_, fun r hr => ?_, hnot, ?_, ?_, ?_, fun r hr hrx => ?_,
    fun r hr hxr => ?_, fun p => ?_⟩
  · rw [hlen]
    exact hap.update_of_not_mem hnot n
  · rw [byteSize_setByteSize, if_neg (ne_of_mem_of_not_mem hr hnot)]
    exact h.runs.aligned r hr
  · rw [hlen, Function.update_self]
    exact hn
  · rw [hlen, Function.update_self]
    exact hend
  · rw [byteSize_setByteSize_self]
    exact Nat.mul_mod_left n kPageSize
  · -- a run below the allocation ends before its first page
    rw [hlen, Function.update_of_ne (ne_of_mem_of_not_mem hr hnot)]
    by_contra hlt
    exact hal.not_isFree (le_refl ptr) (by omega) (h.isFree_of_inRun hr ⟨by omega, by omega⟩)
  · -- a run above it starts after its last page
    rw [hlen, Function.update_self]
    by_contra hlt
    exact hal.not_isFree (le_of_lt hxr) (by omega) (h.isFree_of_inRun hr (InRun.self hap hr))
  · rw [hlen]
    show Covers a.freePageRuns _ p ∨ _ ↔ _
    rw [covers_update_of_not_mem hnot]
    unfold InRun
    rw [Function.update_self]

/-- The contract of `FreePages` on the first page of an allocation of `n` pages: it returns their
byte size, they become free, every other page keeps its kind unless it was free, and the
invariant holds after. -/
def FreeSpec (a : RosAlloc) (ptr n : Nat) : Prop :=
  ∃ a', a.freePages kIsDebugBuild ptr = some (n * kPageSize, a') ∧ a'.Inv ∧
    a'.footprint = a.footprint ∧ a'.pageMapSize = a.pageMapSize ∧ a'.capacity = a.capacity ∧
    (∀ i, a'.IsFree i ↔ a.IsFree i ∨ (ptr ≤ i ∧ i < ptr + n)) ∧
    ∀ i, ¬(ptr ≤ i ∧ i < ptr + n) → ¬a.IsFree i → a'.pageMap i = a.pageMap i

theorem Inv.freePages (h : a.Inv) {ptr n : Nat} (hal : a.Allocation ptr n) :
    FreeSpec kIsDebugBuild a ptr n := by
  obtain ⟨tp, htp, -, -⟩ := hal.2
  have hcount : countPartPages a.pageMap tp (a.pageMapSize - (ptr + 1)) (ptr + 1) + 1 = n :=
    ((h.allocation_of_head htp).eq hal ⟨le_refl ptr, by omega⟩
      ⟨le_refl ptr, by have := hal.1; omega⟩).2
  have hstart := h.freeStart hal
  set b : RosAlloc := ({ a with pageMap := fun i =>
    if ptr ≤ i ∧ i < ptr + n then .kPageMapEmpty else a.pageMap i } : RosAlloc).setByteSize ptr
      (n * kPageSize) with hb
  obtain ⟨hc₁, habove₁⟩ := hstart.higher (b.freePageRuns.filter (ptr < ·))
    (List.Pairwise.filter _ hstart.apart.sorted) (fun r => by
      rw [List.mem_filter, decide_eq_true_eq])
  obtain ⟨hc₂, habove₂, hbelow₂⟩ := hc₁.lower
    ((coalesceHigher ptr (b.freePageRuns.filter (ptr < ·)) b).freePageRuns.filter (· < ptr)).reverse
    habove₁ (List.pairwise_reverse.mpr (List.Pairwise.filter _ hc₁.apart.sorted)) (fun r => by
      rw [List.mem_reverse, List.mem_filter, decide_eq_true_eq])
  obtain ⟨hapart, haligned, hcovers⟩ := hc₂.insert habove₂ hbelow₂
  set res := coalesceLower ptr
    ((coalesceHigher ptr (b.freePageRuns.filter (ptr < ·)) b).freePageRuns.filter (· < ptr)).reverse
    (coalesceHigher ptr (b.freePageRuns.filter (ptr < ·)) b) with hres
  obtain ⟨pm, hrel, hpm⟩ := releasePages_eq kIsDebugBuild res.2 res.1
  have hmap : ∀ i, res.2.pageMap i =
      if ptr ≤ i ∧ i < ptr + n then .kPageMapEmpty else a.pageMap i := fun i => by
    rw [hc₂.pageMap]
  have hfree : ∀ i, (pm i).isFree = true ↔ a.IsFree i ∨ (ptr ≤ i ∧ i < ptr + n) := by
    intro i
    have hkeep : (pm i).isFree = (res.2.pageMap i).isFree := by
      rcases hpm i with heq | ⟨hempty, hrel'⟩
      · rw [heq]
      · rw [hempty, hrel']
        rfl
    rw [hkeep, hmap i]
    split_ifs with hin
    · exact ⟨fun _ => Or.inr hin, fun _ => rfl⟩
    · exact ⟨Or.inl, fun hi => hi.resolve_right hin⟩
  have hN : res.2.pageMapSize = a.pageMapSize := hc₂.pageMapSize
  refine ⟨({ res.2 with pageMap := pm } : RosAlloc).insertRun res.1, ?_,
    ⟨?_, ?_, ?_, ?_, ⟨?_, haligned⟩, ?_, ?_⟩, hc₂.footprint, hN, hc₂.capacity, hfree, ?_⟩
  · -- the run of the code
    unfold RosAlloc.freePages
    dsimp only
    rw [htp]
    simp only [Option.bind_eq_bind, Option.bind_some]
    rw [hcount, coalesce_of_isEmpty, ← hb, ← hres, hrel]
    rfl
  · show res.2.footprint = res.2.pageMapSize * kPageSize
    rw [hc₂.footprint, hN]
    exact h.footprint_eq
  · show res.2.footprint ≤ res.2.capacity
    rw [hc₂.footprint, hc₂.capacity]
    exact h.footprint_le
  · show res.2.capacity % kPageSize = 0
    rw [hc₂.capacity]
    exact h.capacity_aligned
  · intro i hi
    rw [insertRun_pageMapSize] at hi
    have hrel' : res.2.pageMap i = .kPageMapReleased := by
      rw [hmap i, if_neg (by have := h.allocation_end_le hal; rw [hN] at hi; omega)]
      exact h.released i (by rw [← hN]; exact hi)
    show pm i = .kPageMapReleased
    rcases hpm i with heq | ⟨-, hpmi⟩
    · rw [heq, hrel']
    · exact hpmi
  · rw [insertRun_pageMapSize]
    exact hapart
  · intro p hp
    rw [insertRun_pageMapSize] at hp
    show (pm p).isFree = true ↔ _
    rw [hfree p, h.free_iff p (by rw [← hN]; exact hp)]
    exact (hcovers p).symm
  · -- the part pages after the allocation's pages are made empty and some released
    intro head part hpair
    show PartsFollow pm head part
    have hcleared := (h.parts head part hpair).clear (h.end_ne_part hal hpair)
      (not_isFree_of_partKind? hpair).2.1 .kPageMapEmpty rfl
    refine hcleared.of_agree hpair fun i => ?_
    rcases hpm i with heq | ⟨hempty, hpmi⟩
    · exact Or.inl (by rw [heq, hmap i])
    · right
      rw [← hmap i, hempty, hpmi]
      exact ⟨rfl, rfl⟩
  · intro i hin hnot
    show pm i = a.pageMap i
    rcases hpm i with heq | ⟨hempty, -⟩
    · rw [heq, hmap i, if_neg hin]
    · rw [hmap i, if_neg hin] at hempty
      exact absurd (by rw [IsFree, hempty]; rfl) hnot

end Free

end RosAlloc

end Art
