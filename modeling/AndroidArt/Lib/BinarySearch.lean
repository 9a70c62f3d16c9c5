import Mathlib.Order.Basic
import Mathlib.Tactic.Linarith

/-!
# Binary search with a three-way comparison

The loop of a binary search as C code writes it: `int` bounds `lo = 0` and `hi = n - 1`, the loop
`while (hi >= lo)`, the midpoint `(hi + lo) / 2`, and a three-way comparison of the key with the
entry there, positive when the key is greater.  The fuel argument covers every window the loop can
reach, so `search` is the loop itself.

* `loop_sound` — a returned index compares equal to the key, whatever the entries.
* `search_complete` — over entries sorted for the comparison (`Sorted`), the search finds every
  index that compares equal.
* `search_eq_some_iff` — over entries increasing from each one to the next in a linear order, the
  search returns exactly the index of the key.
-/

set_option autoImplicit false

namespace BinarySearch

/-- The loop over the window `lo..hi`, `compare i` the sign of the key against entry `i`. -/
def loop (compare : Nat → Int) : Nat → Int → Int → Option Nat
  | 0, _, _ => none
  | fuel + 1, lo, hi =>
    if lo ≤ hi then
      let mid := (hi + lo) / 2
      if compare mid.toNat > 0 then loop compare fuel (mid + 1) hi
      else if compare mid.toNat < 0 then loop compare fuel lo (mid - 1)
      else some mid.toNat
    else none

/-- The search over entries `0..n-1`. -/
def search (compare : Nat → Int) (n : Nat) : Option Nat :=
  loop compare (n + 1) 0 ((n : Int) - 1)

/-- The three-way comparison of a key with an entry in a linear order. -/
def threeWay {α : Type*} [LinearOrder α] (key x : α) : Int :=
  if key > x then 1 else if key < x then -1 else 0

/-- Entries sorted for a comparison: a key not below an entry is above every earlier one, and a
key not above an entry is below every later one. -/
def Sorted (compare : Nat → Int) (n : Nat) : Prop :=
  ∀ i j, i < j → j < n → (0 ≤ compare j → 0 < compare i) ∧ (compare i ≤ 0 → compare j < 0)

variable {compare : Nat → Int}

theorem mid_bounds {lo hi : Int} (hle : lo ≤ hi) :
    lo ≤ (hi + lo) / 2 ∧ (hi + lo) / 2 ≤ hi := by
  omega

theorem loop_sound : ∀ {fuel : Nat} {lo hi : Int} {m : Nat}, 0 ≤ lo →
    loop compare fuel lo hi = some m → compare m = 0 ∧ lo ≤ m ∧ (m : Int) ≤ hi := by
  intro fuel
  induction fuel with
  | zero => intro lo hi m _ h; cases h
  | succ fuel ih =>
    intro lo hi m hlo h
    simp only [loop] at h
    split_ifs at h with hle hgt hlt
    · obtain ⟨h₁, h₂, h₃⟩ := ih (by omega) h
      exact ⟨h₁, by omega, h₃⟩
    · obtain ⟨h₁, h₂, h₃⟩ := ih hlo h
      exact ⟨h₁, h₂, by omega⟩
    · cases h
      have hmid := mid_bounds hle
      refine ⟨by omega, by omega, by omega⟩

/-- The index a search returns compares equal to the key. -/
theorem search_sound {n m : Nat} (h : search compare n = some m) : compare m = 0 ∧ m < n := by
  obtain ⟨h₁, -, h₃⟩ := loop_sound (le_refl 0) h
  exact ⟨h₁, by omega⟩

/-- Over sorted entries, the loop finds a key that some entry of its window compares equal to,
with fuel for every shrinking of the window. -/
theorem loop_complete {n : Nat} (hs : Sorted compare n) {k : Nat} (hk : k < n)
    (hkey : compare k = 0) : ∀ {fuel : Nat} {lo hi : Int}, 0 ≤ lo → hi < n → lo ≤ k →
      (k : Int) ≤ hi → hi - lo < fuel → (loop compare fuel lo hi).isSome := by
  intro fuel
  induction fuel with
  | zero => intro lo hi _ _ hlok hkhi hfuel; omega
  | succ fuel ih =>
    intro lo hi hlo hhi hlok hkhi hfuel
    have hle : lo ≤ hi := by omega
    have hmid := mid_bounds hle
    simp only [loop, if_pos hle]
    split_ifs with hgt hlt
    · -- the key is above the midpoint's entry, so `k` lies above the midpoint
      have hmk : ((hi + lo) / 2).toNat < k := by
        by_contra hkm
        rcases Nat.lt_or_eq_of_le (Nat.le_of_not_lt hkm) with hkm | hkm
        · have := (hs k _ hkm (by omega)).2 (le_of_eq hkey)
          omega
        · rw [← hkm] at hgt
          omega
      exact ih (by omega) hhi (by omega) hkhi (by omega)
    · -- the key is below the midpoint's entry, so `k` lies below the midpoint
      have hkm : k < ((hi + lo) / 2).toNat := by
        by_contra hmk
        rcases Nat.lt_or_eq_of_le (Nat.le_of_not_lt hmk) with hmk | hmk
        · have := (hs _ k hmk hk).1 (ge_of_eq hkey)
          omega
        · rw [hmk] at hlt
          omega
      exact ih hlo (by omega) hlok (by omega) (by omega)
    · rfl

/-- Over sorted entries, the search finds every key that an entry compares equal to. -/
theorem search_complete {n : Nat} (hs : Sorted compare n) {k : Nat} (hk : k < n)
    (hkey : compare k = 0) : ∃ m, search compare n = some m ∧ compare m = 0 ∧ m < n := by
  have hsome : (search compare n).isSome :=
    loop_complete hs hk hkey (le_refl 0) (by omega) (by omega) (by omega) (by omega)
  obtain ⟨m, hm⟩ := Option.isSome_iff_exists.mp hsome
  exact ⟨m, hm, search_sound hm⟩

theorem threeWay_pos_iff {α : Type*} [LinearOrder α] {key x : α} : 0 < threeWay key x ↔ x < key := by
  unfold threeWay
  split_ifs with h₁ h₂ <;> simp_all

theorem threeWay_neg_iff {α : Type*} [LinearOrder α] {key x : α} : threeWay key x < 0 ↔ key < x := by
  unfold threeWay
  split_ifs with h₁ h₂ <;> simp_all [le_of_lt]

theorem threeWay_eq_zero_iff {α : Type*} [LinearOrder α] {key x : α} :
    threeWay key x = 0 ↔ key = x := by
  unfold threeWay
  split_ifs with h₁ h₂
  · simp only [one_ne_zero, false_iff]
    exact ne_of_gt h₁
  · simp only [false_iff]
    exact ne_of_lt h₂
  · simp only [true_iff]
    exact le_antisymm (not_lt.mp h₁) (not_lt.mp h₂)

section LinearOrder

variable {α : Type*} [LinearOrder α] {key : α} {entry : Nat → α} {n : Nat}

/-- Entries increasing from each one to the next increase along the whole table. -/
theorem lt_of_lt_succ (hlt : ∀ i, i + 1 < n → entry i < entry (i + 1)) :
    ∀ {i j}, i < j → j < n → entry i < entry j := by
  intro i j hij hj
  induction j with
  | zero => omega
  | succ j ih =>
    rcases Nat.lt_or_eq_of_le (Nat.le_of_lt_succ hij) with hij | rfl
    · exact lt_trans (ih hij (by omega)) (hlt j hj)
    · exact hlt i hj

/-- A comparison by a linear order is sorted when each entry is below the next. -/
theorem sorted_of_lt_succ (hc : ∀ i, compare i = threeWay key (entry i))
    (hlt : ∀ i, i + 1 < n → entry i < entry (i + 1)) : Sorted compare n := by
  intro i j hij hj
  have hentry := lt_of_lt_succ hlt hij hj
  rw [hc i, hc j]
  constructor
  · intro hjk
    rw [threeWay_pos_iff]
    rcases lt_or_eq_of_le hjk with hjk | hjk
    · exact lt_trans hentry (threeWay_pos_iff.mp hjk)
    · rw [eq_comm, threeWay_eq_zero_iff] at hjk
      rw [hjk]
      exact hentry
  · intro hik
    rw [threeWay_neg_iff]
    rcases lt_or_eq_of_le hik with hik | hik
    · exact lt_trans (threeWay_neg_iff.mp hik) hentry
    · rw [threeWay_eq_zero_iff] at hik
      rw [hik]
      exact hentry

/-- Over entries increasing from each one to the next, the search returns exactly the index of
the key. -/
theorem search_eq_some_iff (hlt : ∀ i, i + 1 < n → entry i < entry (i + 1)) {m : Nat} :
    search (fun i => threeWay key (entry i)) n = some m ↔ m < n ∧ entry m = key := by
  constructor
  · intro h
    obtain ⟨hzero, hm⟩ := search_sound h
    rw [threeWay_eq_zero_iff] at hzero
    exact ⟨hm, hzero.symm⟩
  · rintro ⟨hm, hkey⟩
    have hzero : threeWay key (entry m) = 0 := by rw [threeWay_eq_zero_iff, hkey]
    obtain ⟨m', hsearch, hzero', hm'⟩ :=
      search_complete (sorted_of_lt_succ (fun _ => rfl) hlt) hm hzero
    rw [threeWay_eq_zero_iff] at hzero'
    rcases lt_trichotomy m' m with hlt' | rfl | hlt'
    · exact absurd (hzero'.symm.trans hkey.symm) (ne_of_lt (lt_of_lt_succ hlt hlt' hm))
    · exact hsearch
    · exact absurd (hkey.trans hzero') (ne_of_lt (lt_of_lt_succ hlt hlt' hm'))

end LinearOrder

end BinarySearch
