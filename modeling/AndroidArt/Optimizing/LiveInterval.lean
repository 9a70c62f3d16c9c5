import Mathlib.Data.List.Pairwise
import Mathlib.Algebra.GroupWithZero.Nat

/-!
# Live ranges and live intervals

Model of `LiveRange` and of the parts of `LiveInterval` (`compiler/optimizing/ssa_liveness_analysis.h`)
that the register allocator uses to compare and cut intervals: `Covers`, `FirstIntersectionWith`,
`GetStart`, `GetEnd` and `SplitAt`.

The ranges of an interval are the list reached from `first_range_` through `next_`; its last
element is `last_range_`.  A position is a `size_t`, which `LiveRange` keeps as a bound on its end,
and `kNoLifetime` is `size_t(-1)`.  Siblings are named by a number: `SplitAt` takes the number of
the interval it allocates.  Reading `first_range_` or `last_range_` of an interval that has no
range, a failed `DCHECK` and the `LOG(FATAL)` of `SplitAt` give `none`.

* `firstIntersectionWith_spec` — on two intervals with sorted, disjoint, non-empty ranges,
  `FirstIntersectionWith` returns the least position both cover, or `kNoLifetime` when there is
  none, and so does not depend on the order of its arguments.
* `splitAt_spec` — `SplitAt(p)` cuts an interval with separated ranges into the positions before
  `p` and those from `p` on, each still separated, with the sibling linked after it.
* `liveInterval_first_intersection_empty`, `liveInterval_split_fixed` — an interval without
  ranges makes `FirstIntersectionWith` read a null range, and `SplitAt` of a fixed interval fails
  its `DCHECK`.
-/

set_option autoImplicit false

namespace Art

namespace LiveInterval

/-- `kNoLifetime`, `static_cast<size_t>(-1)`. -/
def kNoLifetime : Nat := 2 ^ 64 - 1

end LiveInterval

/-- A `LiveRange`: the positions `[start, end)`, with an end that is a `size_t`. -/
structure LiveRange where
  start : Nat
  end_ : Nat
  end_lt : end_ < 2 ^ 64
  deriving DecidableEq

namespace LiveRange

/-- `IntersectsWith(other)`. -/
def intersectsWith (r other : LiveRange) : Bool :=
  (other.start ≤ r.start && r.start < other.end_) || (r.start ≤ other.start && other.start < r.end_)

/-- `IsBefore(other)`. -/
def isBefore (r other : LiveRange) : Bool := r.end_ ≤ other.start

end LiveRange

/-- The fields of a `LiveInterval` that `SplitAt` reads or writes: its ranges, its uses (the
positions of `first_use_` and those after it), `next_sibling_`, `parent_` and `is_fixed_`. -/
structure LiveInterval where
  ranges : List LiveRange
  uses : List Nat
  nextSibling : Option Nat
  parent : Nat
  isFixed : Bool

namespace LiveInterval

/-- `Covers(position)`: the loop over the ranges. -/
def covers (ranges : List LiveRange) (position : Nat) : Bool :=
  ranges.any fun r => r.start ≤ position && position < r.end_

/-- `GetStart()`. -/
def getStart (i : LiveInterval) : Option Nat := i.ranges.head?.map LiveRange.start

/-- `GetEnd()`. -/
def getEnd (i : LiveInterval) : Option Nat := i.ranges.getLast?.map LiveRange.end_

/-- The loop of `FirstIntersectionWith`, which advances the range that lies before the other;
one round takes one range off, which the fuel counts. -/
def firstIntersectionLoop : Nat → List LiveRange → List LiveRange → Option Nat
  | 0, _, _ => none
  | _, [], _ => none
  | _, _, [] => none
  | fuel + 1, m :: ms, o :: os =>
    if m.intersectsWith o then some (max m.start o.start)
    else if m.isBefore o then
      if ms = [] then some kNoLifetime else firstIntersectionLoop fuel ms (o :: os)
    else if o.isBefore m then
      if os = [] then some kNoLifetime else firstIntersectionLoop fuel (m :: ms) os
    else none

/-- `FirstIntersectionWith(other)`. -/
def firstIntersectionWith (i other : LiveInterval) : Option Nat :=
  firstIntersectionLoop (i.ranges.length + other.ranges.length) i.ranges other.ranges

/-- The loop of `SplitAt` over the ranges: the ranges that stay, the last of them cut at
`position` if it covers it, and the ranges of the new interval.  `first` says that no range was
passed yet, which is the `previous == nullptr` of the source. -/
def splitLoop (position : Nat) (first : Bool) : List LiveRange →
    Option (List LiveRange × List LiveRange)
  | [] => none
  | r :: rest =>
    if hle : r.end_ ≤ position then do
      let (kept, moved) ← splitLoop position false rest
      some (r :: kept, moved)
    else if position ≤ r.start then
      if first then none else some ([], r :: rest)
    else
      some ([⟨r.start, position, by have := r.end_lt; omega⟩], ⟨position, r.end_, r.end_lt⟩ :: rest)

/-- `SplitAt(position)`, with `newId` the number of the interval it allocates: the interval after
and the new one, or `nullptr` when the interval ends before `position`. -/
def splitAt (i : LiveInterval) (newId position : Nat) :
    Option (LiveInterval × Option LiveInterval) := do
  if i.isFixed then none
  let start ← i.getStart
  if position ≤ start then none
  let end_ ← i.getEnd
  if end_ ≤ position then some (i, none)
  else
    let (kept, moved) ← splitLoop position true i.ranges
    some ({ i with ranges := kept, nextSibling := some newId },
      some ⟨moved, i.uses, i.nextSibling, i.parent, false⟩)

/-! ## Sorted range lists -/

/-- Sorted and disjoint non-empty ranges: each range ends before every later one starts. -/
def Disjoint (ranges : List LiveRange) : Prop :=
  (∀ r ∈ ranges, r.start < r.end_) ∧ ranges.Pairwise fun r s => r.end_ ≤ s.start

/-- What `FirstIntersectionWith` is to return for the positions `common` that both intervals
cover: the least of them, or `kNoLifetime` when there is none. -/
def IsFirst (common : Nat → Prop) (x : Nat) : Prop :=
  (common x ∧ ∀ q < x, ¬ common q) ∨ (x = kNoLifetime ∧ ∀ q, ¬ common q)

theorem covers_cons (r : LiveRange) (rs : List LiveRange) (q : Nat) :
    covers (r :: rs) q = true ↔ (r.start ≤ q ∧ q < r.end_) ∨ covers rs q = true := by
  simp [covers]

theorem Disjoint.tail {r : LiveRange} {rs : List LiveRange} (h : Disjoint (r :: rs)) :
    Disjoint rs :=
  ⟨fun s hs => h.1 s (List.mem_cons_of_mem r hs), (List.pairwise_cons.1 h.2).2⟩

/-- Every position that sorted ranges cover lies at or after the start of the first. -/
theorem Disjoint.start_le {r : LiveRange} {rs : List LiveRange} (h : Disjoint (r :: rs)) {q : Nat}
    (hq : covers (r :: rs) q = true) : r.start ≤ q := by
  rcases (covers_cons r rs q).1 hq with hr | hrs
  · exact hr.1
  · obtain ⟨s, hs, hsq⟩ := List.any_eq_true.1 hrs
    have hrs' := (List.pairwise_cons.1 h.2).1 s hs
    have hr := h.1 r List.mem_cons_self
    simp only [Bool.and_eq_true, decide_eq_true_eq] at hsq
    omega

/-- Every position a range list covers is below `kNoLifetime`, since ends are `size_t`s. -/
theorem lt_kNoLifetime_of_covers {rs : List LiveRange} {q : Nat} (hq : covers rs q = true) :
    q < kNoLifetime := by
  obtain ⟨r, -, hrq⟩ := List.any_eq_true.1 hq
  simp only [Bool.and_eq_true, decide_eq_true_eq] at hrq
  have := r.end_lt
  unfold kNoLifetime
  omega

theorem IsFirst.congr {common common' : Nat → Prop} (h : ∀ q, common q ↔ common' q) {x : Nat}
    (hx : IsFirst common x) : IsFirst common' x := by
  simpa only [IsFirst, h] using hx

/-- A range that ends before the other list starts has no position in common with it. -/
theorem common_cons_of_isBefore {m o : LiveRange} {ms os : List LiveRange}
    (ho : Disjoint (o :: os)) (hb : m.end_ ≤ o.start) (q : Nat) :
    (covers (m :: ms) q = true ∧ covers (o :: os) q = true) ↔
      (covers ms q = true ∧ covers (o :: os) q = true) := by
  constructor
  · rintro ⟨hm, hoq⟩
    refine ⟨?_, hoq⟩
    rcases (covers_cons m ms q).1 hm with hmq | hmsq
    · have := ho.start_le hoq
      omega
    · exact hmsq
  · rintro ⟨hms, hoq⟩
    exact ⟨(covers_cons m ms q).2 (.inr hms), hoq⟩

/-- The loop of `FirstIntersectionWith` on two sorted lists: each round either finds the first
common position, in the two ranges it looks at, or drops a range that has none. -/
theorem firstIntersectionLoop_spec {fuel : Nat} {as bs : List LiveRange} (ha : Disjoint as)
    (hb : Disjoint bs) (ha0 : as ≠ []) (hb0 : bs ≠ []) (hfuel : as.length + bs.length ≤ fuel) :
    ∃ x, firstIntersectionLoop fuel as bs = some x ∧
      IsFirst (fun q => covers as q = true ∧ covers bs q = true) x := by
  induction fuel generalizing as bs with
  | zero =>
    have : as.length ≠ 0 := by simpa using ha0
    omega
  | succ fuel ih =>
    obtain ⟨m, ms, rfl⟩ := List.exists_cons_of_ne_nil ha0
    obtain ⟨o, os, rfl⟩ := List.exists_cons_of_ne_nil hb0
    have hm := ha.1 m List.mem_cons_self
    have ho := hb.1 o List.mem_cons_self
    simp only [List.length_cons] at hfuel
    unfold firstIntersectionLoop
    by_cases hi : m.intersectsWith o = true
    · -- the two ranges meet: the later start is covered by both, and nothing before it is
      rw [if_pos hi]
      simp only [LiveRange.intersectsWith, Bool.or_eq_true, Bool.and_eq_true,
        decide_eq_true_eq] at hi
      refine ⟨_, rfl, .inl ⟨⟨?_, ?_⟩, fun q hq ⟨hmq, hoq⟩ => ?_⟩⟩
      · exact (covers_cons m ms _).2 (.inl (by omega))
      · exact (covers_cons o os _).2 (.inl (by omega))
      · have := ha.start_le hmq
        have := hb.start_le hoq
        omega
    rw [if_neg hi]
    simp only [LiveRange.intersectsWith, Bool.or_eq_true, Bool.and_eq_true, decide_eq_true_eq,
      not_or, not_and, Nat.not_lt] at hi
    by_cases hbefore : m.isBefore o = true
    · rw [if_pos hbefore]
      simp only [LiveRange.isBefore, decide_eq_true_eq] at hbefore
      by_cases hms : ms = []
      · -- `m` was the last range of this interval
        subst hms
        refine ⟨_, if_pos rfl, .inr ⟨rfl, fun q ⟨hmq, hoq⟩ => ?_⟩⟩
        have := hb.start_le hoq
        have := (covers_cons m [] q).1 hmq
        simp [covers] at this
        omega
      · rw [if_neg hms]
        obtain ⟨x, hx, hfirst⟩ := ih ha.tail hb hms (List.cons_ne_nil o os)
          (by simp only [List.length_cons]; omega)
        exact ⟨x, hx, hfirst.congr fun q => (common_cons_of_isBefore hb hbefore q).symm⟩
    · rw [if_neg hbefore]
      simp only [LiveRange.isBefore, decide_eq_true_eq, Nat.not_le] at hbefore
      have hafter : o.isBefore m = true := by
        simp only [LiveRange.isBefore, decide_eq_true_eq]
        omega
      rw [if_pos hafter]
      simp only [LiveRange.isBefore, decide_eq_true_eq] at hafter
      have hswap : ∀ q, (covers (o :: os) q = true ∧ covers (m :: ms) q = true) ↔
          (covers (m :: ms) q = true ∧ covers (o :: os) q = true) := fun q => and_comm
      by_cases hos : os = []
      · subst hos
        refine ⟨_, if_pos rfl, .inr ⟨rfl, fun q ⟨hmq, hoq⟩ => ?_⟩⟩
        have := ha.start_le hmq
        have := (covers_cons o [] q).1 hoq
        simp [covers] at this
        omega
      · rw [if_neg hos]
        obtain ⟨x, hx, hfirst⟩ := ih ha hb.tail (List.cons_ne_nil m ms) hos
          (by simp only [List.length_cons]; omega)
        refine ⟨x, hx, hfirst.congr fun q => ?_⟩
        rw [and_comm, (@common_cons_of_isBefore _ _ os _ ha hafter q).symm, and_comm]

theorem IsFirst.unique {common : Nat → Prop} {x y : Nat} (hx : IsFirst common x)
    (hy : IsFirst common y) : x = y := by
  rcases hx with ⟨hcx, hminx⟩ | ⟨rfl, hnone⟩ <;> rcases hy with ⟨hcy, hminy⟩ | ⟨rfl, hnone'⟩
  · rcases Nat.lt_trichotomy x y with h | h | h
    · exact absurd hcx (hminy x h)
    · exact h
    · exact absurd hcy (hminx y h)
  · exact absurd hcx (hnone' x)
  · exact absurd hcy (hnone y)
  · rfl

theorem firstIntersectionLoop_nil (fuel : Nat) (bs : List LiveRange) :
    firstIntersectionLoop fuel [] bs = none := by
  cases fuel <;> rfl

/-- **`FirstIntersectionWith`** of two intervals with sorted, disjoint, non-empty ranges is the
least position both cover, or `kNoLifetime` exactly when there is none, whichever interval it is
called on. -/
theorem firstIntersectionWith_spec {i o : LiveInterval} (hi : Disjoint i.ranges)
    (ho : Disjoint o.ranges) (hi0 : i.ranges ≠ []) (ho0 : o.ranges ≠ []) :
    ∃ x, i.firstIntersectionWith o = some x ∧ o.firstIntersectionWith i = some x ∧
      ((covers i.ranges x = true ∧ covers o.ranges x = true ∧
          ∀ q < x, ¬ (covers i.ranges q = true ∧ covers o.ranges q = true)) ∨
        (x = kNoLifetime ∧ ∀ q, ¬ (covers i.ranges q = true ∧ covers o.ranges q = true))) ∧
      (x = kNoLifetime ↔ ∀ q, ¬ (covers i.ranges q = true ∧ covers o.ranges q = true)) := by
  obtain ⟨x, hx, hfx⟩ := firstIntersectionLoop_spec hi ho hi0 ho0 (Nat.le_refl _)
  obtain ⟨y, hy, hfy⟩ := firstIntersectionLoop_spec ho hi ho0 hi0 (Nat.le_refl _)
  have hyx : y = x := (hfy.congr fun q => and_comm).unique hfx
  subst hyx
  refine ⟨y, hx, hy, ?_, ?_⟩
  · rcases hfx with ⟨⟨hci, hco⟩, hmin⟩ | hnone
    · exact .inl ⟨hci, hco, hmin⟩
    · exact .inr hnone
  · constructor
    · intro hy q hq
      rcases hfx with ⟨hcommon, -⟩ | ⟨-, hnone⟩
      · exact absurd hy (Nat.ne_of_lt (lt_kNoLifetime_of_covers hcommon.1))
      · exact hnone q hq
    · intro hnone
      rcases hfx with ⟨hcommon, -⟩ | ⟨hy, -⟩
      · exact absurd hcommon (hnone y)
      · exact hy

/-- An interval with no range: `FirstIntersectionWith` reads its null `first_range_`. -/
theorem liveInterval_first_intersection_empty :
    Disjoint [] ∧ ∀ j : LiveInterval,
      (⟨[], [], none, 0, false⟩ : LiveInterval).firstIntersectionWith j = none :=
  ⟨⟨fun _ h => absurd h List.not_mem_nil, List.Pairwise.nil⟩,
    fun j => firstIntersectionLoop_nil _ j.ranges⟩

/-! ## `SplitAt` -/

/-- The ranges that `LiveRange`'s constructor accepts in a list: non-empty, sorted, and with a
hole between each range and the next. -/
def Separated (ranges : List LiveRange) : Prop :=
  (∀ r ∈ ranges, r.start < r.end_) ∧ ranges.Pairwise fun r s => r.end_ < s.start

theorem Separated.disjoint {rs : List LiveRange} (h : Separated rs) : Disjoint rs :=
  ⟨h.1, h.2.imp Nat.le_of_lt⟩

theorem Separated.tail {r : LiveRange} {rs : List LiveRange} (h : Separated (r :: rs)) :
    Separated rs :=
  ⟨fun s hs => h.1 s (List.mem_cons_of_mem r hs), (List.pairwise_cons.1 h.2).2⟩

/-- A range followed by a separated list that starts after it. -/
theorem Separated.cons {r : LiveRange} {rs : List LiveRange} (hr : r.start < r.end_)
    (hrs : Separated rs) (hafter : ∀ s ∈ rs, r.end_ < s.start) : Separated (r :: rs) :=
  ⟨fun s hs => (List.mem_cons.1 hs).elim (fun h => h ▸ hr) (hrs.1 s),
    List.pairwise_cons.2 ⟨hafter, hrs.2⟩⟩

/-- The range `r` with the positions before `position` cut off, as `SplitAt` leaves the range
it splits. -/
def cutAt (position : Nat) (r : LiveRange) : LiveRange := ⟨max r.start position, r.end_, r.end_lt⟩

theorem cutAt_of_le {position : Nat} {r : LiveRange} (h : position ≤ r.start) :
    cutAt position r = r := by
  simp [cutAt, Nat.max_eq_left h]

/-- Every range in a separated list starts at or after the first one. -/
theorem Separated.start_le_of_mem {r s : LiveRange} {rs : List LiveRange}
    (h : Separated (r :: rs)) (hs : s ∈ r :: rs) : r.start ≤ s.start := by
  rcases List.mem_cons.1 hs with rfl | hs
  · exact Nat.le_refl _
  · have := (List.pairwise_cons.1 h.2).1 s hs
    have := h.1 r List.mem_cons_self
    omega

/-- The loop of `SplitAt`, once some range ends after `position` and the first range starts
before it: the kept ranges cover the positions before `position`, the moved ones the positions
from it on, both lists stay separated, and the last range is the old last range cut at
`position`. -/
theorem splitLoop_spec {position : Nat} {first : Bool} {rs : List LiveRange} (hwf : Separated rs)
    (hend : ∃ r ∈ rs, position < r.end_)
    (hfirst : first = true → ∀ r ∈ rs.head?, r.start < position) :
    ∃ kept moved, splitLoop position first rs = some (kept, moved) ∧
      Separated kept ∧ Separated moved ∧ moved ≠ [] ∧ (first = true → kept ≠ []) ∧
      (∀ q, covers kept q = true ↔ q < position ∧ covers rs q = true) ∧
      (∀ q, covers moved q = true ↔ position ≤ q ∧ covers rs q = true) ∧
      moved.getLast? = rs.getLast?.map (cutAt position) := by
  induction rs generalizing first with
  | nil => simp at hend
  | cons r rest ih =>
    have hr := hwf.1 r List.mem_cons_self
    have hstart : ∀ q, covers (r :: rest) q = true → r.start ≤ q := fun q => hwf.disjoint.start_le
    have hrest : ∀ s ∈ rest, r.end_ < s.start := (List.pairwise_cons.1 hwf.2).1
    unfold splitLoop
    by_cases hle : r.end_ ≤ position
    · -- `r` lies before `position` and stays; the loop goes on with the next range
      rw [dif_pos hle]
      have hend' : ∃ s ∈ rest, position < s.end_ := by
        obtain ⟨s, hs, hps⟩ := hend
        rcases List.mem_cons.1 hs with rfl | hs
        · omega
        · exact ⟨s, hs, hps⟩
      obtain ⟨kept, moved, hsplit, hkept, hmoved, hmoved0, -, hcovk, hcovm, hlast⟩ :=
        ih hwf.tail hend' (fun h => absurd h Bool.false_ne_true)
      refine ⟨r :: kept, moved, by simp [hsplit], ?_, hmoved, hmoved0, fun _ => List.cons_ne_nil _ _,
        fun q => ?_, fun q => ?_, ?_⟩
      · refine hkept.cons hr fun s hs => ?_
        have hcov : covers kept s.start = true :=
          List.any_eq_true.2 ⟨s, hs, by simp [hkept.1 s hs]⟩
        obtain ⟨s', hs', hs's⟩ := List.any_eq_true.1 ((hcovk s.start).1 hcov).2
        simp only [Bool.and_eq_true, decide_eq_true_eq] at hs's
        have := hrest s' hs'
        omega
      · rw [covers_cons, hcovk q, covers_cons]
        constructor
        · rintro (hq | ⟨hq, hcov⟩)
          · exact ⟨by omega, .inl hq⟩
          · exact ⟨hq, .inr hcov⟩
        · rintro ⟨hq, hq' | hcov⟩
          · exact .inl hq'
          · exact .inr ⟨hq, hcov⟩
      · rw [hcovm q, covers_cons]
        constructor
        · rintro ⟨hq, hcov⟩
          exact ⟨hq, .inr hcov⟩
        · rintro ⟨hq, hq' | hcov⟩
          · omega
          · exact ⟨hq, hcov⟩
      · obtain ⟨s, hs, -⟩ := hend'
        rw [hlast, List.getLast?_cons_of_ne_nil (List.ne_nil_of_mem hs)]
    rw [dif_neg hle]
    by_cases hhole : position ≤ r.start
    · -- a hole before `r`: everything from `r` on moves
      rw [if_pos hhole]
      cases first with
      | true => exact absurd (hfirst rfl r rfl) (by omega)
      | false =>
        refine ⟨[], r :: rest, rfl, ⟨by simp, List.Pairwise.nil⟩, hwf, List.cons_ne_nil _ _,
          fun h => absurd h Bool.false_ne_true, fun q => ?_, fun q => ?_, ?_⟩
        · simp only [covers, List.any_nil, Bool.false_eq_true, false_iff, not_and]
          intro hq hcov
          have := hstart q hcov
          omega
        · exact ⟨fun hcov => ⟨by have := hstart q hcov; omega, hcov⟩, fun h => h.2⟩
        · obtain ⟨last, hlast⟩ := List.getLast?_isSome.2 (List.cons_ne_nil r rest) |>
            Option.isSome_iff_exists.1
          have hmem : last ∈ r :: rest := List.mem_of_getLast? hlast
          rw [hlast, Option.map_some, cutAt_of_le (by have := hwf.start_le_of_mem hmem; omega)]
    · -- `position` falls inside `r`, which is cut in two
      rw [if_neg hhole]
      have hcut : Separated (⟨position, r.end_, r.end_lt⟩ :: rest) :=
        hwf.tail.cons (by dsimp only; omega) hrest
      refine ⟨_, _, rfl, ⟨by simp; omega, by simp⟩, hcut, List.cons_ne_nil _ _,
        fun _ => List.cons_ne_nil _ _, fun q => ?_, fun q => ?_, ?_⟩
      · have hrestq : covers rest q = true → r.end_ < q + 1 := by
          intro hcov
          obtain ⟨s, hs, hsq⟩ := List.any_eq_true.1 hcov
          simp only [Bool.and_eq_true, decide_eq_true_eq] at hsq
          have := hrest s hs
          omega
        rw [covers_cons, covers_cons]
        simp only [covers, List.any_nil, Bool.false_eq_true, or_false]
        constructor
        · rintro ⟨hq1, hq2⟩
          exact ⟨hq2, .inl ⟨hq1, by omega⟩⟩
        · rintro ⟨hq, hq' | hcov⟩
          · exact ⟨hq'.1, hq⟩
          · have := hrestq hcov
            omega
      · rw [covers_cons, covers_cons]
        constructor
        · rintro (⟨hq1, hq2⟩ | hcov)
          · dsimp only at hq1 hq2
            exact ⟨hq1, .inl ⟨by omega, hq2⟩⟩
          · obtain ⟨s, hs, hsq⟩ := List.any_eq_true.1 hcov
            simp only [Bool.and_eq_true, decide_eq_true_eq] at hsq
            have := hrest s hs
            exact ⟨by omega, .inr hcov⟩
        · rintro ⟨hq, hq' | hcov⟩
          · exact .inl ⟨hq, hq'.2⟩
          · exact .inr hcov
      · cases rest with
        | nil => simp [cutAt, Nat.max_eq_right (show r.start ≤ position by omega)]
        | cons s ss =>
          obtain ⟨last, hlast⟩ := List.getLast?_isSome.2 (List.cons_ne_nil s ss) |>
            Option.isSome_iff_exists.1
          have hmem : last ∈ s :: ss := List.mem_of_getLast? hlast
          have := hrest last hmem
          rw [List.getLast?_cons_cons, List.getLast?_cons_cons, hlast, Option.map_some,
            cutAt_of_le (by omega)]

/-- **`SplitAt`** of an interval that is not fixed, with separated ranges, at a position after
its start: `nullptr` and the interval as it was when the interval ends by then; otherwise the
interval keeps the positions before the split and a sibling linked after it, with the same parent,
takes those from it on, both with separated ranges, the sibling ending with the old last range. -/
theorem splitAt_spec {i : LiveInterval} (hfixed : i.isFixed = false) (hwf : Separated i.ranges)
    {start position : Nat} (hstart : i.getStart = some start) (hp : start < position)
    (newId : Nat) :
    (∀ e, i.getEnd = some e → e ≤ position → i.splitAt newId position = some (i, none)) ∧
    (∀ e, i.getEnd = some e → position < e →
      ∃ kept moved, i.splitAt newId position =
          some ({ i with ranges := kept, nextSibling := some newId },
            some ⟨moved, i.uses, i.nextSibling, i.parent, false⟩) ∧
        kept ≠ [] ∧ moved ≠ [] ∧ Separated kept ∧ Separated moved ∧
        (∀ q, covers kept q = true ↔ q < position ∧ covers i.ranges q = true) ∧
        (∀ q, covers moved q = true ↔ position ≤ q ∧ covers i.ranges q = true) ∧
        moved.getLast? = i.ranges.getLast?.map (cutAt position)) := by
  have hhead : ∀ r ∈ i.ranges.head?, r.start < position := by
    intro r hr
    rw [getStart, Option.map_eq_some_iff] at hstart
    obtain ⟨r', hr', rfl⟩ := hstart
    rw [Option.mem_def, hr', Option.some.injEq] at hr
    exact hr ▸ hp
  have hsplitAt : ∀ e, i.getEnd = some e →
      i.splitAt newId position = if e ≤ position then some (i, none) else
        (splitLoop position true i.ranges).bind fun km =>
          some ({ i with ranges := km.1, nextSibling := some newId },
            some ⟨km.2, i.uses, i.nextSibling, i.parent, false⟩) := by
    intro e he
    simp only [splitAt, hfixed, hstart, he, Bool.false_eq_true, if_false, Option.bind_eq_bind,
      Option.bind_some, if_neg (Nat.not_le_of_lt hp)]
  refine ⟨fun e he hle => by rw [hsplitAt e he, if_pos hle], fun e he hlt => ?_⟩
  have hend : ∃ r ∈ i.ranges, position < r.end_ := by
    rw [getEnd, Option.map_eq_some_iff] at he
    obtain ⟨last, hlast, rfl⟩ := he
    exact ⟨last, List.mem_of_getLast? hlast, hlt⟩
  obtain ⟨kept, moved, hsplit, hkept, hmoved, hmoved0, hkept0, hcovk, hcovm, hlast⟩ :=
    splitLoop_spec hwf hend fun _ => hhead
  refine ⟨kept, moved, ?_, hkept0 rfl, hmoved0, hkept, hmoved, hcovk, hcovm, hlast⟩
  rw [hsplitAt e he, if_neg (Nat.not_le_of_lt hlt), hsplit]
  rfl

theorem splitAt_spec_two_ranges :
    let i : LiveInterval := ⟨[⟨0, 4, by decide⟩, ⟨6, 9, by decide⟩], [], none, 0, false⟩
    i.isFixed = false ∧ Separated i.ranges ∧ i.getStart = some 0 ∧ 0 < 5 ∧
      ((∀ e, i.getEnd = some e → e ≤ 5 → i.splitAt 1 5 = some (i, none)) ∧
      (∀ e, i.getEnd = some e → 5 < e →
        ∃ kept moved, i.splitAt 1 5 =
            some ({ i with ranges := kept, nextSibling := some 1 },
              some ⟨moved, i.uses, i.nextSibling, i.parent, false⟩) ∧
          kept ≠ [] ∧ moved ≠ [] ∧ Separated kept ∧ Separated moved ∧
          (∀ q, covers kept q = true ↔ q < 5 ∧ covers i.ranges q = true) ∧
          (∀ q, covers moved q = true ↔ 5 ≤ q ∧ covers i.ranges q = true) ∧
          moved.getLast? = i.ranges.getLast?.map (cutAt 5))) := by
  intro i
  have hwf : Separated i.ranges := ⟨by simp [i], by simp [i]⟩
  exact ⟨rfl, hwf, rfl, by decide, splitAt_spec rfl hwf rfl (by decide) 1⟩

/-- `SplitAt` of a fixed interval fails its `DCHECK(!is_fixed_)`, though its ranges are
separated and the position is after its start. -/
theorem liveInterval_split_fixed :
    let i : LiveInterval := ⟨[⟨0, 2, by decide⟩], [], none, 0, true⟩
    Separated i.ranges ∧ i.getStart = some 0 ∧ i.splitAt 1 1 = none :=
  ⟨⟨by simp, by simp⟩, rfl, rfl⟩

theorem firstIntersectionWith_spec_apart :
    let i : LiveInterval := ⟨[⟨0, 2, by decide⟩, ⟨4, 8, by decide⟩], [], none, 0, false⟩
    let o : LiveInterval := ⟨[⟨2, 3, by decide⟩, ⟨5, 6, by decide⟩], [], none, 0, false⟩
    (Disjoint i.ranges ∧ Disjoint o.ranges ∧ i.ranges ≠ [] ∧ o.ranges ≠ []) ∧
    ∃ x, i.firstIntersectionWith o = some x ∧ o.firstIntersectionWith i = some x ∧
      ((covers i.ranges x = true ∧ covers o.ranges x = true ∧
          ∀ q < x, ¬ (covers i.ranges q = true ∧ covers o.ranges q = true)) ∨
        (x = kNoLifetime ∧ ∀ q, ¬ (covers i.ranges q = true ∧ covers o.ranges q = true))) ∧
      (x = kNoLifetime ↔ ∀ q, ¬ (covers i.ranges q = true ∧ covers o.ranges q = true)) := by
  intro i o
  have hi : Disjoint i.ranges := ⟨by simp [i], by simp [i]⟩
  have ho : Disjoint o.ranges := ⟨by simp [o], by simp [o]⟩
  exact ⟨⟨hi, ho, List.cons_ne_nil _ _, List.cons_ne_nil _ _⟩,
    firstIntersectionWith_spec hi ho (List.cons_ne_nil _ _) (List.cons_ne_nil _ _)⟩

end LiveInterval

end Art
