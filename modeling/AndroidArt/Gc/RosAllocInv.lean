import AndroidArt.Gc.RosAlloc
import AndroidArt.Lib.RunSet

/-!
# The page state of RosAlloc and its invariant

What the page level of `RosAlloc` keeps, stated over the model of `Gc/RosAlloc.lean`:

* `Inv` — `free_page_runs_` is sorted, its runs have positive page-aligned sizes, lie inside the
  page map and are pairwise apart (neither adjacent nor overlapping); a page of the page map is
  free (`kPageMapEmpty` or `kPageMapReleased`) exactly when a free page run covers it; a part page
  follows the first page or a part page of its own kind; `page_map_size_` pages make the footprint,
  which the capacity bounds; the mapping past the page map reads `kPageMapReleased`.
* `Inv.partition` — every page of the page map lies in exactly one free page run and in no
  allocation, or in no free page run and in exactly one allocation (`Allocation`: a first page of
  a run or of a large object, then its part pages).
-/

set_option autoImplicit false

namespace Art

namespace PageMapKind

theorem isFree_iff {k : PageMapKind} : k.isFree = true ↔ k = kPageMapReleased ∨ k = kPageMapEmpty := by
  cases k <;> simp [isFree]

theorem partKind?_eq_some_iff {k part : PageMapKind} :
    k.partKind? = some part ↔
      (k = kPageMapRun ∧ part = kPageMapRunPart) ∨
        (k = kPageMapLargeObject ∧ part = kPageMapLargeObjectPart) := by
  cases k <;> cases part <;> simp [partKind?]

/-- A first page is not free, nor is its part page, and neither is the other's kind. -/
theorem not_isFree_of_partKind? {k part : PageMapKind} (h : k.partKind? = some part) :
    k.isFree = false ∧ part.isFree = false ∧ k ≠ part := by
  rcases partKind?_eq_some_iff.mp h with ⟨rfl, rfl⟩ | ⟨rfl, rfl⟩ <;> decide

/-- Two first pages with the same part kind are of the same kind. -/
theorem eq_of_partKind? {k k' part : PageMapKind} (h : k.partKind? = some part)
    (h' : k'.partKind? = some part) : k = k' := by
  rcases partKind?_eq_some_iff.mp h with ⟨rfl, rfl⟩ | ⟨rfl, rfl⟩ <;>
    rcases partKind?_eq_some_iff.mp h' with ⟨rfl, hp⟩ | ⟨rfl, hp⟩ <;> first | rfl | cases hp

/-- A part page is not a first page. -/
theorem partKind?_of_part {k part : PageMapKind} (h : k.partKind? = some part) :
    part.partKind? = none := by
  rcases partKind?_eq_some_iff.mp h with ⟨rfl, rfl⟩ | ⟨rfl, rfl⟩ <;> rfl

end PageMapKind

open PageMapKind

/-- The part pages of kind `part` each follow a page of kind `head` or `part`. -/
def PartsFollow (pageMap : Nat → PageMapKind) (head part : PageMapKind) : Prop :=
  pageMap 0 ≠ part ∧ ∀ p, pageMap (p + 1) = part → pageMap p = head ∨ pageMap p = part

namespace PartsFollow

variable {pageMap pageMap' : Nat → PageMapKind} {head part : PageMapKind}

/-- A page map that differs only on free pages, and keeps them free, keeps the parts. -/
theorem of_agree (h : PartsFollow pageMap head part) (hpair : head.partKind? = some part)
    (hagree : ∀ i, pageMap' i = pageMap i ∨ (pageMap i).isFree ∧ (pageMap' i).isFree) :
    PartsFollow pageMap' head part := by
  obtain ⟨hhead, hpart, -⟩ := not_isFree_of_partKind? hpair
  have hkeep : ∀ i, pageMap' i = part → pageMap i = part := by
    intro i hi
    rcases hagree i with heq | ⟨-, hfree⟩
    · rw [← heq, hi]
    · rw [hi, hpart] at hfree
      cases hfree
  have hback : ∀ i, (pageMap i = head ∨ pageMap i = part) → pageMap' i = pageMap i := by
    intro i hi
    rcases hagree i with heq | ⟨hfree, -⟩
    · exact heq
    · rcases hi with hi | hi <;> rw [hi] at hfree
      · rw [hhead] at hfree
        cases hfree
      · rw [hpart] at hfree
        cases hfree
  refine ⟨fun h0 => h.1 (hkeep 0 h0), fun p hp => ?_⟩
  have hprev := h.2 p (hkeep (p + 1) hp)
  rw [hback p hprev]
  exact hprev

/-- Freeing the pages `h .. h + n - 1` keeps the parts when page `h + n` is not a part. -/
theorem clear (hf : PartsFollow pageMap head part) {h n : Nat} (hend : pageMap (h + n) ≠ part)
    (hpart : part.isFree = false) (k : PageMapKind) (hk : k.isFree = true) :
    PartsFollow (fun i => if h ≤ i ∧ i < h + n then k else pageMap i) head part := by
  have hne : k ≠ part := by
    rintro rfl
    rw [hpart] at hk
    cases hk
  constructor
  · intro h0
    dsimp only at h0
    split_ifs at h0
    · exact hne h0
    · exact hf.1 h0
  · intro p hp
    dsimp only at hp ⊢
    split_ifs at hp with hin
    · exact absurd hp hne
    · -- the page before lies outside the freed pages, or is the last of them
      by_cases hpin : h ≤ p ∧ p < h + n
      · have hlast : p + 1 = h + n := by omega
        rw [hlast] at hp
        exact absurd hp hend
      · rw [if_neg hpin]
        exact hf.2 p hp

/-- Marking free pages as an allocation of kind `t` keeps the parts of every kind. -/
theorem markAllocated (hf : PartsFollow pageMap head part) (hpair : head.partKind? = some part)
    {t tp : PageMapKind} (ht : t.partKind? = some tp) {idx n : Nat} (hn : 0 < n)
    (hfree : ∀ i, idx ≤ i → i < idx + n → (pageMap i).isFree = true) :
    PartsFollow (fun i =>
      if i = idx then t else if idx < i ∧ i < idx + n then tp else pageMap i) head part := by
  obtain ⟨hthead, htpart, htne⟩ := not_isFree_of_partKind? ht
  obtain ⟨hhead, hpart, -⟩ := not_isFree_of_partKind? hpair
  have htp : t ≠ part := by
    intro htp
    rw [htp] at ht
    rw [partKind?_of_part hpair] at ht
    cases ht
  constructor
  · intro h0
    dsimp only at h0
    split_ifs at h0 with h₁ h₂
    · exact htp h0
    · omega
    · exact hf.1 h0
  · intro p hp
    dsimp only at hp ⊢
    split_ifs at hp with h₁ h₂
    · exact absurd hp htp
    · -- inside the allocation: the page before is its first page or a part
      subst hp
      have hhd : t = head := eq_of_partKind? ht hpair
      by_cases hpi : p = idx
      · left
        rw [if_pos hpi, hhd]
      · right
        rw [if_neg hpi, if_pos (by omega)]
    · -- outside: the page before is not one of the marked pages, which were free
      have hpi : ¬(idx ≤ p ∧ p < idx + n) := by
        rintro hin
        rcases hf.2 p hp with hprev | hprev <;> have := hfree p hin.1 hin.2 <;> rw [hprev] at this
        · rw [hhead] at this
          cases this
        · rw [hpart] at this
          cases this
      rw [if_neg (by omega), if_neg (by omega)]
      exact hf.2 p hp

end PartsFollow

namespace RosAlloc

/-! ## Field lemmas -/

section Fields

variable (a : RosAlloc) (r s q : Nat)

@[simp] theorem setByteSize_pageMap : (a.setByteSize r s).pageMap = a.pageMap := rfl
@[simp] theorem setByteSize_pageMapSize : (a.setByteSize r s).pageMapSize = a.pageMapSize := rfl
@[simp] theorem setByteSize_footprint : (a.setByteSize r s).footprint = a.footprint := rfl
@[simp] theorem setByteSize_capacity : (a.setByteSize r s).capacity = a.capacity := rfl
@[simp] theorem setByteSize_freePageRuns : (a.setByteSize r s).freePageRuns = a.freePageRuns := rfl
@[simp] theorem setByteSize_pageReleaseMode :
    (a.setByteSize r s).pageReleaseMode = a.pageReleaseMode := rfl

theorem byteSize_setByteSize :
    (a.setByteSize r s).byteSize q = if q = r then s else a.byteSize q := by
  simp only [byteSize, setByteSize, Function.update_apply]

@[simp] theorem byteSize_setByteSize_self : (a.setByteSize r s).byteSize r = s := by
  simp [byteSize_setByteSize]

@[simp] theorem eraseRun_pageMap : (a.eraseRun r).pageMap = a.pageMap := rfl
@[simp] theorem eraseRun_pageMapSize : (a.eraseRun r).pageMapSize = a.pageMapSize := rfl
@[simp] theorem eraseRun_footprint : (a.eraseRun r).footprint = a.footprint := rfl
@[simp] theorem eraseRun_capacity : (a.eraseRun r).capacity = a.capacity := rfl
@[simp] theorem eraseRun_freePageRuns :
    (a.eraseRun r).freePageRuns = a.freePageRuns.erase r := rfl
@[simp] theorem eraseRun_byteSize : (a.eraseRun r).byteSize q = a.byteSize q := rfl

@[simp] theorem insertRun_pageMap : (a.insertRun r).pageMap = a.pageMap := rfl
@[simp] theorem insertRun_pageMapSize : (a.insertRun r).pageMapSize = a.pageMapSize := rfl
@[simp] theorem insertRun_footprint : (a.insertRun r).footprint = a.footprint := rfl
@[simp] theorem insertRun_capacity : (a.insertRun r).capacity = a.capacity := rfl
@[simp] theorem insertRun_freePageRuns :
    (a.insertRun r).freePageRuns = SortedSet.insert a.freePageRuns r := rfl
@[simp] theorem insertRun_byteSize : (a.insertRun r).byteSize q = a.byteSize q := rfl

variable (n : Nat) (head part : PageMapKind)

@[simp] theorem markAllocated_pageMapSize :
    (a.markAllocated r n head part).pageMapSize = a.pageMapSize := rfl
@[simp] theorem markAllocated_footprint :
    (a.markAllocated r n head part).footprint = a.footprint := rfl
@[simp] theorem markAllocated_capacity :
    (a.markAllocated r n head part).capacity = a.capacity := rfl
@[simp] theorem markAllocated_freePageRuns :
    (a.markAllocated r n head part).freePageRuns = a.freePageRuns := rfl
@[simp] theorem markAllocated_byteSize :
    (a.markAllocated r n head part).byteSize q = a.byteSize q := rfl

end Fields

/-! ## The page state -/

/-- The pages of each free page run. -/
def runPages (a : RosAlloc) (fpr : Nat) : Nat := a.byteSize fpr / kPageSize

/-- `IsFreePage`. -/
def IsFree (a : RosAlloc) (p : Nat) : Prop := (a.pageMap p).isFree = true

/-- The `n` pages from `p` on lie inside the page map and are free. -/
def FreeWindow (a : RosAlloc) (p n : Nat) : Prop :=
  p + n ≤ a.pageMapSize ∧ ∀ i, p ≤ i → i < p + n → a.IsFree i

/-- An allocation of `n` pages from `h` on: a first page, then part pages of its kind, then no
more. -/
def Allocation (a : RosAlloc) (h n : Nat) : Prop :=
  0 < n ∧ ∃ part, (a.pageMap h).partKind? = some part ∧
    (∀ i, h < i → i < h + n → a.pageMap i = part) ∧ a.pageMap (h + n) ≠ part

/-- The number of free pages just below page `k`. -/
def trailingFreePages (pageMap : Nat → PageMapKind) : Nat → Nat
  | 0 => 0
  | k + 1 => if (pageMap k).isFree then trailingFreePages pageMap k + 1 else 0

/-- The free page runs of `free_page_runs_`: apart from one another inside the page map, with
sizes a whole number of pages. -/
structure RunsInv (a : RosAlloc) : Prop where
  apart : RunSet.Apart a.freePageRuns a.runPages a.pageMapSize
  aligned : ∀ r ∈ a.freePageRuns, a.byteSize r % kPageSize = 0

/-- The invariant of the page level. -/
structure Inv (a : RosAlloc) : Prop where
  footprint_eq : a.footprint = a.pageMapSize * kPageSize
  footprint_le : a.footprint ≤ a.capacity
  capacity_aligned : a.capacity % kPageSize = 0
  released : ∀ i, a.pageMapSize ≤ i → a.pageMap i = .kPageMapReleased
  runs : a.RunsInv
  free_iff : ∀ p, p < a.pageMapSize →
    (a.IsFree p ↔ RunSet.Covers a.freePageRuns a.runPages p)
  parts : ∀ head part, head.partKind? = some part → PartsFollow a.pageMap head part

/-! ## Free page runs -/

@[simp] theorem eraseRun_runPages (a : RosAlloc) (r : Nat) :
    (a.eraseRun r).runPages = a.runPages := rfl

@[simp] theorem insertRun_runPages (a : RosAlloc) (r : Nat) :
    (a.insertRun r).runPages = a.runPages := rfl

@[simp] theorem markAllocated_runPages (a : RosAlloc) (r n : Nat) (head part : PageMapKind) :
    (a.markAllocated r n head part).runPages = a.runPages := rfl

theorem runPages_setByteSize (a : RosAlloc) (r s : Nat) :
    (a.setByteSize r s).runPages = Function.update a.runPages r (s / kPageSize) := by
  funext q
  by_cases hq : q = r
  · rw [hq, Function.update_self, runPages, byteSize_setByteSize_self]
  · rw [Function.update_of_ne hq, runPages, runPages, byteSize_setByteSize, if_neg hq]

theorem byteSize_eq {a : RosAlloc} (h : a.RunsInv) {r : Nat} (hr : r ∈ a.freePageRuns) :
    a.byteSize r = a.runPages r * kPageSize := by
  have h₁ := h.aligned r hr
  unfold runPages kPageSize at *
  omega

theorem fprEnd_eq {a : RosAlloc} (h : a.RunsInv) {r : Nat} (hr : r ∈ a.freePageRuns) :
    a.fprEnd r = (r + a.runPages r) * kPageSize := by
  rw [fprEnd, byteSize_eq h hr, Nat.add_mul]

/-! ## Pages of the page map -/

section Pages

variable {a : RosAlloc}

theorem Inv.isFree_of_ge (h : a.Inv) {p : Nat} (hp : a.pageMapSize ≤ p) : a.IsFree p := by
  rw [IsFree, h.released p hp]
  rfl

theorem Inv.isFree_of_inRun (h : a.Inv) {r p : Nat} (hr : r ∈ a.freePageRuns)
    (hp : RunSet.InRun a.runPages r p) : a.IsFree p :=
  (h.free_iff p (h.runs.apart.covers_lt ⟨r, hr, hp⟩)).mpr ⟨r, hr, hp⟩

/-- The kinds of the page map: a page that is not free is a first page or a part page. -/
theorem exists_partKind?_of_not_isFree {k : PageMapKind} (hk : k.isFree = false) :
    (∃ part, k.partKind? = some part) ∨ ∃ head : PageMapKind, head.partKind? = some k := by
  cases k
  case kPageMapRun | kPageMapLargeObject => exact Or.inl ⟨_, rfl⟩
  case kPageMapRunPart => exact Or.inr ⟨.kPageMapRun, rfl⟩
  case kPageMapLargeObjectPart => exact Or.inr ⟨.kPageMapLargeObject, rfl⟩
  all_goals simp [PageMapKind.isFree] at hk

/-- Walking back from a part page reaches the first page of its allocation. -/
theorem Inv.exists_head (h : a.Inv) {head part : PageMapKind}
    (hpair : head.partKind? = some part) :
    ∀ {p : Nat}, a.pageMap p = part →
      ∃ hd < p, a.pageMap hd = head ∧ ∀ i, hd < i → i ≤ p → a.pageMap i = part := by
  intro p
  induction p with
  | zero => intro h0; exact absurd h0 (h.parts head part hpair).1
  | succ p ih =>
    intro hp
    rcases (h.parts head part hpair).2 p hp with hprev | hprev
    · exact ⟨p, Nat.lt_succ_self p, hprev, fun i hi hip => by rwa [show i = p + 1 by omega]⟩
    · obtain ⟨hd, hlt, hhd, hparts⟩ := ih hprev
      refine ⟨hd, by omega, hhd, fun i hi hip => ?_⟩
      rcases Nat.lt_or_eq_of_le hip with hip | rfl
      · exact hparts i hi (by omega)
      · exact hp

/-- `countPartPages` counts the part pages from `idx` on, and stops at a page that is not one. -/
theorem countPartPages_spec (pageMap : Nat → PageMapKind) (part : PageMapKind) :
    ∀ (fuel idx : Nat),
      (∀ i, idx ≤ i → i < idx + countPartPages pageMap part fuel idx → pageMap i = part) ∧
        countPartPages pageMap part fuel idx ≤ fuel ∧
        (countPartPages pageMap part fuel idx < fuel →
          pageMap (idx + countPartPages pageMap part fuel idx) ≠ part)
  | 0, idx => by
    simp only [countPartPages]
    exact ⟨fun i h₁ h₂ => by omega, le_refl 0, fun h => absurd h (Nat.lt_irrefl 0)⟩
  | fuel + 1, idx => by
    obtain ⟨ih₁, ih₂, ih₃⟩ := countPartPages_spec pageMap part fuel (idx + 1)
    simp only [countPartPages]
    split_ifs with hidx
    · refine ⟨fun i hi hlt => ?_, by omega, fun hlt => ?_⟩
      · rcases Nat.lt_or_eq_of_le hi with hi | rfl
        · exact ih₁ i hi (by omega)
        · exact hidx
      · rw [show idx + (countPartPages pageMap part fuel (idx + 1) + 1) =
          idx + 1 + countPartPages pageMap part fuel (idx + 1) by omega]
        exact ih₃ (by omega)
    · exact ⟨fun i _ hlt => by omega, by omega, fun _ => by rwa [Nat.add_zero]⟩

/-- The allocation that starts at a first page. -/
theorem Inv.allocation_of_head (h : a.Inv) {hd : Nat} {part : PageMapKind}
    (hpart : (a.pageMap hd).partKind? = some part) :
    a.Allocation hd (countPartPages a.pageMap part (a.pageMapSize - (hd + 1)) (hd + 1) + 1) := by
  obtain ⟨hparts, hle, hstop⟩ :=
    countPartPages_spec a.pageMap part (a.pageMapSize - (hd + 1)) (hd + 1)
  refine ⟨Nat.succ_pos _, part, hpart, fun i hi hlt => hparts i hi (by omega), ?_⟩
  rw [show hd + (countPartPages a.pageMap part (a.pageMapSize - (hd + 1)) (hd + 1) + 1) =
    hd + 1 + countPartPages a.pageMap part (a.pageMapSize - (hd + 1)) (hd + 1) by omega]
  by_cases hlt : countPartPages a.pageMap part (a.pageMapSize - (hd + 1)) (hd + 1) <
      a.pageMapSize - (hd + 1)
  · exact hstop hlt
  · -- the parts reach the end of the page map, past which pages are released
    have hpage : a.pageMapSize ≤
        hd + 1 + countPartPages a.pageMap part (a.pageMapSize - (hd + 1)) (hd + 1) := by omega
    rw [h.released _ hpage]
    intro hrel
    have hfree := (not_isFree_of_partKind? hpart).2.1
    rw [← hrel] at hfree
    simp [PageMapKind.isFree] at hfree

/-- The pages of an allocation are not free. -/
theorem Allocation.not_isFree {h n : Nat} (hal : a.Allocation h n) {p : Nat} (hp : h ≤ p)
    (hpn : p < h + n) : ¬a.IsFree p := by
  obtain ⟨-, part, hpart, hparts, -⟩ := hal
  unfold IsFree
  rcases Nat.lt_or_eq_of_le hp with hp | rfl
  · rw [hparts p hp hpn, (not_isFree_of_partKind? hpart).2.1]
    decide
  · rw [(not_isFree_of_partKind? hpart).1]
    decide

/-- Two allocations that share a page are the same. -/
theorem Allocation.eq {h n h' n' p : Nat} (hal : a.Allocation h n) (hal' : a.Allocation h' n')
    (hp : h ≤ p ∧ p < h + n) (hp' : h' ≤ p ∧ p < h' + n') : h = h' ∧ n = n' := by
  obtain ⟨-, part, hpart, hparts, hend⟩ := hal
  obtain ⟨-, part', hpart', hparts', hend'⟩ := hal'
  have hh : h = h' := by
    rcases lt_trichotomy h h' with hlt | heq | hlt
    · have := hparts h' hlt (by omega)
      rw [this, partKind?_of_part hpart] at hpart'
      cases hpart'
    · exact heq
    · have := hparts' h hlt (by omega)
      rw [this, partKind?_of_part hpart'] at hpart
      cases hpart
  subst hh
  rw [hpart] at hpart'
  cases hpart'
  refine ⟨rfl, ?_⟩
  rcases lt_trichotomy n n' with hlt | heq | hlt
  · exact absurd (hparts' (h + n) (by omega) (by omega)) hend
  · exact heq
  · exact absurd (hparts (h + n') (by omega) (by omega)) hend'

/-- Every page of the page map lies in exactly one free page run and in no allocation, or in no
free page run and in exactly one allocation. -/
theorem Inv.partition (h : a.Inv) {p : Nat} (hp : p < a.pageMapSize) :
    ((∃! r, r ∈ a.freePageRuns ∧ RunSet.InRun a.runPages r p) ∧
        ¬∃ hd n, a.Allocation hd n ∧ hd ≤ p ∧ p < hd + n) ∨
      ((¬∃ r, r ∈ a.freePageRuns ∧ RunSet.InRun a.runPages r p) ∧
        ∃! hn : Nat × Nat, a.Allocation hn.1 hn.2 ∧ hn.1 ≤ p ∧ p < hn.1 + hn.2) := by
  by_cases hfree : a.IsFree p
  · left
    obtain ⟨r, hr, hin⟩ := (h.free_iff p hp).mp hfree
    refine ⟨⟨r, ⟨hr, hin⟩, fun r' hr' => h.runs.apart.eq_of_inRun hr'.1 hr hr'.2 hin⟩, ?_⟩
    rintro ⟨hd, n, hal, hle, hlt⟩
    exact hal.not_isFree hle hlt hfree
  · right
    refine ⟨fun ⟨r, hr, hin⟩ => hfree ((h.free_iff p hp).mpr ⟨r, hr, hin⟩), ?_⟩
    have hcover : ∃ hd n, a.Allocation hd n ∧ hd ≤ p ∧ p < hd + n := by
      rcases exists_partKind?_of_not_isFree (Bool.eq_false_iff.mpr hfree) with
        ⟨part, hpart⟩ | ⟨head, hpair⟩
      · exact ⟨p, _, h.allocation_of_head hpart, le_refl p, by omega⟩
      · obtain ⟨hd, hlt, hhd, hparts⟩ := h.exists_head hpair rfl
        have hpart : (a.pageMap hd).partKind? = some (a.pageMap p) := by
          rw [hhd]
          exact hpair
        have hal := h.allocation_of_head hpart
        refine ⟨hd, _, hal, le_of_lt hlt, ?_⟩
        by_contra hge
        obtain ⟨-, part', hpart', -, hend⟩ := hal
        rw [hpart] at hpart'
        cases hpart'
        exact hend (hparts _ (by omega) (by omega))
    obtain ⟨hd, n, hal, hle, hlt⟩ := hcover
    refine ⟨(hd, n), ⟨hal, hle, hlt⟩, ?_⟩
    rintro ⟨hd', n'⟩ ⟨hal', hle', hlt'⟩
    obtain ⟨rfl, rfl⟩ := hal'.eq hal ⟨hle', hlt'⟩ ⟨hle, hlt⟩
    rfl

end Pages

end RosAlloc

end Art
