import Mathlib.Data.List.GetD

/-!
# Sets of naturals packed in words

A list of `w`-bit words stores a finite set of naturals: `i` is in it when bit `i % w` of word
`i / w` is set, and words past the end of the list read as zero.  A loop over a range of the words
is a fold over `List.range'`:

* `mapRange` — `for (idx = lo; idx < lo + n; idx++) ws[idx] = f(idx, ws[idx])`;
* `orRange` — `for (...) { update = ws[idx] | u(idx); if (ws[idx] != update) { changed = true;
  ws[idx] = update; } }`.

Results: `bit_set` (a store changes the bits of one word), `bit_ext_iff` (two lists hold the same
set exactly when they agree word by word), `getD_mapRange` and `bit_mapRange` (the words and bits after a loop),
`bit_orRange` and `orRange_snd_iff` (what the or-loop adds to the set, and that its flag says
whether the set changed), `orRange_add` (two loops over adjacent ranges are one).
-/

set_option autoImplicit false

namespace WordBits

variable {w : Nat}

/-- Bit `i` of the words `ws`: bit `i % w` of word `i / w`, zero past the end. -/
def bit (ws : List (BitVec w)) (i : Nat) : Bool := (ws.getD (i / w) 0).getLsbD (i % w)

theorem getD_set {ws : List (BitVec w)} {j : Nat} (hj : j < ws.length) (x : BitVec w) (k : Nat) :
    (ws.set j x).getD k 0 = if k = j then x else ws.getD k 0 := by
  simp only [List.getD_eq_getElem?_getD, List.getElem?_set]
  by_cases hk : k = j
  · simp [hk, hj]
  · simp [hk, Ne.symm hk]

theorem getD_set_getD (ws : List (BitVec w)) (j : Nat) : ws.set j (ws.getD j 0) = ws := by
  by_cases hj : j < ws.length
  · rw [List.getD_eq_getElem _ _ hj, List.set_getElem_self]
  · exact List.set_eq_of_length_le (Nat.le_of_not_lt hj)

theorem bit_set {ws : List (BitVec w)} {j : Nat} (hj : j < ws.length) (x : BitVec w) (i : Nat) :
    bit (ws.set j x) i = if i / w = j then x.getLsbD (i % w) else bit ws i := by
  unfold bit
  rw [getD_set hj]
  split <;> rfl

theorem bit_eq_false_of_length_le {ws : List (BitVec w)} {i : Nat} (h : ws.length ≤ i / w) :
    bit ws i = false := by
  rw [bit, List.getD_eq_default _ _ h]
  simp

theorem bit_append_replicate_zero (ws : List (BitVec w)) (n i : Nat) :
    bit (ws ++ List.replicate n 0) i = bit ws i := by
  unfold bit
  by_cases hi : i / w < ws.length
  · rw [List.getD_append _ _ _ _ hi]
  · have hle : ws.length ≤ i / w := Nat.le_of_not_lt hi
    rw [List.getD_append_right _ _ _ _ hle, List.getD_eq_getElem?_getD,
      List.getElem?_getD_replicate_default_eq, List.getD_eq_default _ _ hle]

@[simp] theorem bit_replicate_zero (n i : Nat) : bit (List.replicate n (0 : BitVec w)) i = false := by
  simp [bit, List.getD_eq_getElem?_getD, List.getElem?_getD_replicate_default_eq]

/-- Two lists of words hold the same set exactly when they agree word by word. -/
theorem bit_ext_iff (hw : 0 < w) (ws ws' : List (BitVec w)) :
    (∀ i, bit ws i = bit ws' i) ↔ ∀ k, ws.getD k 0 = ws'.getD k 0 := by
  constructor
  · intro h k
    apply BitVec.eq_of_getLsbD_eq
    intro j hj
    have hdiv : (k * w + j) / w = k := by
      rw [Nat.mul_comm, Nat.mul_add_div hw, Nat.div_eq_of_lt hj, Nat.add_zero]
    have hmod : (k * w + j) % w = j := by
      rw [Nat.mul_comm, Nat.mul_add_mod, Nat.mod_eq_of_lt hj]
    have hk := h (k * w + j)
    rwa [bit, bit, hdiv, hmod] at hk
  · intro h i
    rw [bit, bit, h]

theorem getLsbD_one_shiftLeft {k : Nat} (hk : k < w) (j : Nat) :
    (1#w <<< k).getLsbD j = decide (j = k) := by
  rw [BitVec.getLsbD_shiftLeft, BitVec.getLsbD_one]
  by_cases hjk : j = k
  · subst hjk
    have hw : 0 < w := by omega
    simp [hk, hw]
  · by_cases hlt : j < k
    · simp [hlt, hjk]
    · have hj0 : j - k ≠ 0 := by omega
      simp [hjk, hj0]

section Loops

variable (f : Nat → BitVec w → BitVec w) (u : Nat → BitVec w)

/-- `for (idx = lo; idx < lo + n; idx++) ws[idx] = f(idx, ws[idx])`. -/
def mapRange (lo n : Nat) (ws : List (BitVec w)) : List (BitVec w) :=
  (List.range' lo n).foldl (fun ws idx => ws.set idx (f idx (ws.getD idx 0))) ws

/-- One round of the or-loop: word `idx` is stored, and the flag raised, only when it changes. -/
def orStep (acc : List (BitVec w) × Bool) (idx : Nat) : List (BitVec w) × Bool :=
  let existing := acc.1.getD idx 0
  let update := existing ||| u idx
  if existing ≠ update then (acc.1.set idx update, true) else acc

/-- `for (idx = lo; idx < lo + n; idx++)` of `orStep`. -/
def orRange (lo n : Nat) (acc : List (BitVec w) × Bool) : List (BitVec w) × Bool :=
  (List.range' lo n).foldl (orStep u) acc

theorem mapRange_succ (lo n : Nat) (ws : List (BitVec w)) :
    mapRange f lo (n + 1) ws = mapRange f (lo + 1) n (ws.set lo (f lo (ws.getD lo 0))) := by
  simp [mapRange, List.range'_succ]

@[simp] theorem length_mapRange (lo n : Nat) (ws : List (BitVec w)) :
    (mapRange f lo n ws).length = ws.length := by
  induction n generalizing lo ws with
  | zero => rfl
  | succ n ih => rw [mapRange_succ, ih, List.length_set]

/-- After the loop, word `k` is `f k` of its old value inside the range and unchanged outside. -/
theorem getD_mapRange {lo n : Nat} {ws : List (BitVec w)} (h : lo + n ≤ ws.length) (k : Nat) :
    (mapRange f lo n ws).getD k 0 = if lo ≤ k ∧ k < lo + n then f k (ws.getD k 0) else ws.getD k 0 := by
  induction n generalizing lo ws with
  | zero =>
    have hk : ¬ (lo ≤ k ∧ k < lo + 0) := by omega
    rw [if_neg hk]
    rfl
  | succ n ih =>
    have hlo : lo < ws.length := by omega
    rw [mapRange_succ, ih (by rw [List.length_set]; omega), getD_set hlo]
    by_cases hk : k = lo
    · subst hk
      rw [if_neg (by omega), if_pos rfl, if_pos (by omega)]
    · by_cases hin : lo + 1 ≤ k ∧ k < lo + 1 + n
      · rw [if_pos hin, if_neg hk, if_pos (by omega)]
      · rw [if_neg hin, if_neg hk, if_neg (by omega)]

theorem bit_mapRange {lo n : Nat} {ws : List (BitVec w)} (h : lo + n ≤ ws.length) (i : Nat) :
    bit (mapRange f lo n ws) i =
      if lo ≤ i / w ∧ i / w < lo + n then (f (i / w) (ws.getD (i / w) 0)).getLsbD (i % w)
      else bit ws i := by
  unfold bit
  rw [getD_mapRange f h]
  split <;> rfl

theorem orRange_succ (lo n : Nat) (acc : List (BitVec w) × Bool) :
    orRange u lo (n + 1) acc = orRange u (lo + 1) n (orStep u acc lo) := by
  simp [orRange, List.range'_succ]

/-- The or-loop stores what the plain loop of `|=` stores. -/
theorem orRange_fst {lo n : Nat} {acc : List (BitVec w) × Bool} (h : lo + n ≤ acc.1.length) :
    (orRange u lo n acc).1 = mapRange (fun idx x => x ||| u idx) lo n acc.1 := by
  induction n generalizing lo acc with
  | zero => rfl
  | succ n ih =>
    rw [orRange_succ, mapRange_succ, orStep]
    split
    · exact ih (by rw [List.length_set]; omega)
    · next heq =>
      have hws : acc.1.set lo (acc.1.getD lo 0 ||| u lo) = acc.1 := by
        rw [← Decidable.of_not_not heq, getD_set_getD]
      rw [hws]
      exact ih (by omega)

/-- The or-loop's flag is raised exactly when it was or some word of the range changes. -/
theorem orRange_snd (lo n : Nat) (acc : List (BitVec w) × Bool) :
    (orRange u lo n acc).2 =
      (acc.2 || (List.range' lo n).any fun idx => acc.1.getD idx 0 ||| u idx != acc.1.getD idx 0) := by
  induction n generalizing lo acc with
  | zero => simp [orRange]
  | succ n ih =>
    rw [orRange_succ, orStep, List.range'_succ, List.any_cons]
    split
    · next hne =>
      have hflag : (acc.1.getD lo 0 ||| u lo != acc.1.getD lo 0) = true := by
        simpa using Ne.symm hne
      rw [ih, hflag]
      simp
    · next heq =>
      have hflag : (acc.1.getD lo 0 ||| u lo != acc.1.getD lo 0) = false := by
        simpa using (Decidable.of_not_not heq).symm
      rw [ih, hflag, Bool.false_or]

theorem orRange_congr {u u' : Nat → BitVec w} {lo n : Nat}
    (h : ∀ idx, lo ≤ idx → idx < lo + n → u idx = u' idx) (acc : List (BitVec w) × Bool) :
    orRange u lo n acc = orRange u' lo n acc := by
  induction n generalizing lo acc with
  | zero => rfl
  | succ n ih =>
    rw [orRange_succ, orRange_succ, orStep, orStep, h lo (Nat.le_refl _) (by omega)]
    exact ih (fun idx h₁ h₂ => h idx (by omega) (by omega)) _

/-- Two loops over adjacent ranges are one loop over both. -/
theorem orRange_add (lo m n : Nat) (acc : List (BitVec w) × Bool) :
    orRange u (lo + m) n (orRange u lo m acc) = orRange u lo (m + n) acc := by
  rw [orRange, orRange, orRange, ← List.foldl_append, List.range'_append_1]

theorem bit_orRange {lo n : Nat} {acc : List (BitVec w) × Bool} (h : lo + n ≤ acc.1.length)
    (i : Nat) :
    bit (orRange u lo n acc).1 i =
      (bit acc.1 i || (decide (lo ≤ i / w ∧ i / w < lo + n) && (u (i / w)).getLsbD (i % w))) := by
  rw [orRange_fst u h, bit_mapRange _ h]
  split
  · next hin => simp [hin, bit]
  · next hin => simp [hin]

/-- The or-loop raises its flag exactly when it was raised or the set changed. -/
theorem orRange_snd_iff (hw : 0 < w) {lo n : Nat} {acc : List (BitVec w) × Bool}
    (h : lo + n ≤ acc.1.length) :
    (orRange u lo n acc).2 = true ↔
      acc.2 = true ∨ ∃ i, bit (orRange u lo n acc).1 i ≠ bit acc.1 i := by
  rw [orRange_snd, Bool.or_eq_true, List.any_eq_true, orRange_fst u h]
  apply or_congr_right
  constructor
  · rintro ⟨idx, hidx, hchange⟩
    refine Classical.byContradiction fun hsame => ?_
    rw [List.mem_range'_1] at hidx
    have hword := (bit_ext_iff hw _ _).1 (fun i => Decidable.of_not_not (not_exists.1 hsame i)) idx
    rw [getD_mapRange _ h, if_pos hidx] at hword
    rw [hword, bne_self_eq_false] at hchange
    cases hchange
  · rintro ⟨i, hi⟩
    refine Classical.byContradiction fun hnone => hi ?_
    have hwords : ∀ k, (mapRange (fun idx x => x ||| u idx) lo n acc.1).getD k 0 = acc.1.getD k 0 := by
      intro k
      rw [getD_mapRange _ h]
      split
      · next hk =>
        have hk' := not_exists.1 hnone k
        simpa [List.mem_range'_1, hk] using hk'
      · rfl
    exact (bit_ext_iff hw _ _).2 hwords i

end Loops

end WordBits
