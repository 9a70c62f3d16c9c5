import AndroidArt.Lib.SortedSet

/-!
# Sets of runs of pages

A free list of runs: a sorted list of first pages, each run `r` of `len r` pages.  `Apart` says the
runs lie below a bound, are not empty, and neither overlap nor touch, so that each is a maximal
stretch of the pages they cover.

* `Apart.eq_of_inRun` — a page lies in at most one run.
* `covers_erase`, `covers_insert`, `covers_update_of_not_mem`, `covers_update_of_mem` — the pages
  covered after each change to the list or to a length; `Apart.erase`, `Apart.insert`,
  `Apart.update_of_mem` keep the runs apart.
* `Apart.window_iff`, `Apart.find?_eq_some`, `Apart.find?_eq_none` — a window of covered pages lies
  inside one run, so the first run long enough starts the lowest window.
-/

set_option autoImplicit false

namespace RunSet

/-- Page `p` lies in the run from `r`. -/
def InRun (len : Nat → Nat) (r p : Nat) : Prop := r ≤ p ∧ p < r + len r

/-- Page `p` lies in one of the runs. -/
def Covers (runs : List Nat) (len : Nat → Nat) (p : Nat) : Prop := ∃ r ∈ runs, InRun len r p

/-- The runs are sorted, not empty, below `bound`, and neither overlap nor touch. -/
structure Apart (runs : List Nat) (len : Nat → Nat) (bound : Nat) : Prop where
  sorted : runs.Pairwise (· < ·)
  pos : ∀ r ∈ runs, 0 < len r
  inside : ∀ r ∈ runs, r + len r ≤ bound
  apart : ∀ r ∈ runs, ∀ r' ∈ runs, r < r' → r + len r < r'

variable {runs : List Nat} {len : Nat → Nat} {bound : Nat}

theorem InRun.self (h : Apart runs len bound) {r : Nat} (hr : r ∈ runs) : InRun len r r :=
  ⟨le_refl r, Nat.lt_add_of_pos_right (h.pos r hr)⟩

/-- A page lies in at most one run. -/
theorem Apart.eq_of_inRun (h : Apart runs len bound) {r r' p : Nat} (hr : r ∈ runs)
    (hr' : r' ∈ runs) (hp : InRun len r p) (hp' : InRun len r' p) : r = r' := by
  unfold InRun at hp hp'
  rcases lt_trichotomy r r' with hlt | heq | hlt
  · have := h.apart r hr r' hr' hlt
    omega
  · exact heq
  · have := h.apart r' hr' r hr hlt
    omega

theorem Apart.covers_lt (h : Apart runs len bound) {p : Nat} (hp : Covers runs len p) :
    p < bound := by
  obtain ⟨r, hr, hin⟩ := hp
  have := h.inside r hr
  unfold InRun at hin
  omega

theorem Apart.mono (h : Apart runs len bound) {bound' : Nat} (hb : bound ≤ bound') :
    Apart runs len bound' :=
  ⟨h.sorted, h.pos, fun r hr => le_trans (h.inside r hr) hb, h.apart⟩

/-- Only the lengths of the runs in the list matter. -/
theorem Apart.congr (h : Apart runs len bound) {len' : Nat → Nat}
    (hlen : ∀ r ∈ runs, len' r = len r) : Apart runs len' bound := by
  refine ⟨h.sorted, fun r hr => ?_, fun r hr => ?_, fun r hr r' hr' hlt => ?_⟩
  · rw [hlen r hr]
    exact h.pos r hr
  · rw [hlen r hr]
    exact h.inside r hr
  · rw [hlen r hr]
    exact h.apart r hr r' hr' hlt

theorem covers_congr {len' : Nat → Nat} (hlen : ∀ r ∈ runs, len' r = len r) {p : Nat} :
    Covers runs len' p ↔ Covers runs len p := by
  constructor
  · rintro ⟨r, hr, hin⟩
    exact ⟨r, hr, by rw [InRun, ← hlen r hr]; exact hin⟩
  · rintro ⟨r, hr, hin⟩
    exact ⟨r, hr, by rw [InRun, hlen r hr]; exact hin⟩

/-! ## Changes to the runs -/

theorem Apart.erase (h : Apart runs len bound) (r : Nat) : Apart (runs.erase r) len bound := by
  have hsub : ∀ q ∈ runs.erase r, q ∈ runs := fun q hq => List.mem_of_mem_erase hq
  exact ⟨SortedSet.sorted_erase h.sorted r, fun q hq => h.pos q (hsub q hq),
    fun q hq => h.inside q (hsub q hq),
    fun q hq q' hq' hlt => h.apart q (hsub q hq) q' (hsub q' hq') hlt⟩

theorem covers_erase (h : Apart runs len bound) {r : Nat} (hr : r ∈ runs) {p : Nat} :
    Covers (runs.erase r) len p ↔ Covers runs len p ∧ ¬InRun len r p := by
  constructor
  · rintro ⟨q, hq, hin⟩
    rw [SortedSet.mem_erase h.sorted] at hq
    exact ⟨⟨q, hq.2, hin⟩, fun hin' => hq.1 (h.eq_of_inRun hq.2 hr hin hin')⟩
  · rintro ⟨⟨q, hq, hin⟩, hnot⟩
    have hqr : q ≠ r := by
      rintro rfl
      exact hnot hin
    exact ⟨q, (SortedSet.mem_erase h.sorted).mpr ⟨hqr, hq⟩, hin⟩

/-- A run inserted between the others, apart from them, keeps the runs apart. -/
theorem Apart.insert (h : Apart runs len bound) {r : Nat} (hpos : 0 < len r)
    (hin : r + len r ≤ bound) (hbelow : ∀ q ∈ runs, q < r → q + len q < r)
    (habove : ∀ q ∈ runs, r < q → r + len r < q) :
    Apart (SortedSet.insert runs r) len bound := by
  refine ⟨SortedSet.sorted_insert h.sorted r, ?_, ?_, ?_⟩
  · intro q hq
    rcases SortedSet.mem_insert.mp hq with rfl | hq
    · exact hpos
    · exact h.pos q hq
  · intro q hq
    rcases SortedSet.mem_insert.mp hq with rfl | hq
    · exact hin
    · exact h.inside q hq
  · intro q hq q' hq' hlt
    rcases SortedSet.mem_insert.mp hq with hqr | hq <;>
      rcases SortedSet.mem_insert.mp hq' with hqr' | hq'
    · exact absurd (hqr.trans hqr'.symm ▸ hlt) (lt_irrefl q')
    · rw [hqr]
      exact habove q' hq' (hqr ▸ hlt)
    · rw [hqr']
      exact hbelow q hq (hqr' ▸ hlt)
    · exact h.apart q hq q' hq' hlt

theorem covers_insert {r p : Nat} :
    Covers (SortedSet.insert runs r) len p ↔ Covers runs len p ∨ InRun len r p := by
  constructor
  · rintro ⟨q, hq, hin⟩
    rcases SortedSet.mem_insert.mp hq with rfl | hq
    · exact Or.inr hin
    · exact Or.inl ⟨q, hq, hin⟩
  · rintro (⟨q, hq, hin⟩ | hin)
    · exact ⟨q, SortedSet.mem_insert.mpr (Or.inr hq), hin⟩
    · exact ⟨r, SortedSet.mem_insert.mpr (Or.inl rfl), hin⟩

theorem Apart.update_of_not_mem (h : Apart runs len bound) {r : Nat} (hr : r ∉ runs) (l : Nat) :
    Apart runs (Function.update len r l) bound := by
  have hlen : ∀ q ∈ runs, Function.update len r l q = len q := fun q hq =>
    Function.update_of_ne (ne_of_mem_of_not_mem hq hr) l len
  refine ⟨h.sorted, fun q hq => ?_, fun q hq => ?_, fun q hq q' hq' hlt => ?_⟩
  · rw [hlen q hq]
    exact h.pos q hq
  · rw [hlen q hq]
    exact h.inside q hq
  · rw [hlen q hq]
    exact h.apart q hq q' hq' hlt

theorem inRun_update_of_ne {r q l p : Nat} (hq : q ≠ r) :
    InRun (Function.update len r l) q p ↔ InRun len q p := by
  rw [InRun, InRun, Function.update_of_ne hq]

theorem covers_update_of_not_mem {r : Nat} (hr : r ∉ runs) (l : Nat) {p : Nat} :
    Covers runs (Function.update len r l) p ↔ Covers runs len p := by
  constructor
  · rintro ⟨q, hq, hin⟩
    exact ⟨q, hq, (inRun_update_of_ne (ne_of_mem_of_not_mem hq hr)).mp hin⟩
  · rintro ⟨q, hq, hin⟩
    exact ⟨q, hq, (inRun_update_of_ne (ne_of_mem_of_not_mem hq hr)).mpr hin⟩

/-- A run that grows or shrinks in place, apart from the runs above it, keeps the runs apart. -/
theorem Apart.update_of_mem (h : Apart runs len bound) {r l : Nat} (hl : 0 < l)
    (hin : r + l ≤ bound) (habove : ∀ q ∈ runs, r < q → r + l < q) :
    Apart runs (Function.update len r l) bound := by
  refine ⟨h.sorted, fun q hq => ?_, fun q hq => ?_, fun q hq q' hq' hlt => ?_⟩
  · by_cases hqr : q = r
    · rw [hqr, Function.update_self]
      exact hl
    · rw [Function.update_of_ne hqr]
      exact h.pos q hq
  · by_cases hqr : q = r
    · rw [hqr, Function.update_self]
      exact hin
    · rw [Function.update_of_ne hqr]
      exact h.inside q hq
  · by_cases hqr : q = r
    · subst hqr
      rw [Function.update_self]
      exact habove q' hq' hlt
    · rw [Function.update_of_ne hqr]
      exact h.apart q hq q' hq' hlt

theorem covers_update_of_mem (h : Apart runs len bound) {r : Nat} (hr : r ∈ runs) (l : Nat)
    {p : Nat} :
    Covers runs (Function.update len r l) p ↔
      (Covers runs len p ∧ ¬InRun len r p) ∨ InRun (Function.update len r l) r p := by
  constructor
  · rintro ⟨q, hq, hin⟩
    by_cases hqr : q = r
    · subst hqr
      exact Or.inr hin
    · have hin' := (inRun_update_of_ne hqr).mp hin
      exact Or.inl ⟨⟨q, hq, hin'⟩, fun hr' => hqr (h.eq_of_inRun hq hr hin' hr')⟩
  · rintro (⟨⟨q, hq, hin⟩, hnot⟩ | hin)
    · have hqr : q ≠ r := by
        rintro rfl
        exact hnot hin
      exact ⟨q, hq, (inRun_update_of_ne hqr).mpr hin⟩
    · exact ⟨r, hr, hin⟩

/-- A run grown over the run that starts where it ends covers the pages of both. -/
theorem inRun_merge {r s p : Nat} (hrs : r + len r = s) :
    InRun (Function.update len r (len r + len s)) r p ↔ InRun len r p ∨ InRun len s p := by
  unfold InRun
  rw [Function.update_self]
  constructor
  · intro hp
    omega
  · intro hp
    omega

/-! ## Windows -/

/-- A window of covered pages lies inside one run: the runs are maximal. -/
theorem Apart.window_iff (h : Apart runs len bound) {p n : Nat} (hn : 0 < n) :
    (∀ i, p ≤ i → i < p + n → Covers runs len i) ↔ ∃ r ∈ runs, r ≤ p ∧ p + n ≤ r + len r := by
  constructor
  · intro hw
    obtain ⟨r, hr, hpr⟩ := hw p (le_refl p) (by omega)
    refine ⟨r, hr, hpr.1, ?_⟩
    by_contra hlong
    obtain ⟨r', hr', hin'⟩ := hw (r + len r) (by unfold InRun at hpr; omega) (by omega)
    unfold InRun at hpr hin'
    rcases lt_trichotomy r r' with hlt | rfl | hlt
    · have := h.apart r hr r' hr' hlt
      omega
    · omega
    · have := h.apart r' hr' r hr hlt
      omega
  · rintro ⟨r, hr, hrp, hpn⟩ i hpi hin
    exact ⟨r, hr, by omega, by omega⟩

/-- The first run of `n` pages or more starts the lowest window of `n` covered pages. -/
theorem Apart.find?_eq_some (h : Apart runs len bound) {n r : Nat} (hn : 0 < n)
    (hfind : runs.find? (fun q => decide (n ≤ len q)) = some r) :
    r ∈ runs ∧ n ≤ len r ∧
      ∀ p, (∀ i, p ≤ i → i < p + n → Covers runs len i) → r ≤ p := by
  obtain ⟨hr, hfit, hmin⟩ := (SortedSet.find?_eq_some_iff h.sorted).mp hfind
  refine ⟨hr, of_decide_eq_true hfit, fun p hw => ?_⟩
  obtain ⟨q, hq, hqp, hqn⟩ := (h.window_iff hn).mp hw
  by_contra hlt
  have := hmin q hq (by omega)
  rw [decide_eq_false_iff_not] at this
  omega

/-- No run of `n` pages or more: no window of `n` covered pages. -/
theorem Apart.find?_eq_none (h : Apart runs len bound) {n : Nat} (hn : 0 < n)
    (hfind : runs.find? (fun q => decide (n ≤ len q)) = none) {p : Nat} :
    ¬∀ i, p ≤ i → i < p + n → Covers runs len i := by
  intro hw
  obtain ⟨q, hq, hqp, hqn⟩ := (h.window_iff hn).mp hw
  have := List.find?_eq_none.mp hfind q hq
  rw [decide_eq_true_eq] at this
  omega

end RunSet
