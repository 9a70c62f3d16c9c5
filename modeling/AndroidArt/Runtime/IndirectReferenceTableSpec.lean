import AndroidArt.Runtime.IndirectReferenceTable

/-!
# Hole accounting of the indirect reference table

`Spans t outer inner`: the segment state `inner` accounts for the entries from the cookie `outer`
up: it lies above it, its hole count exceeds the cookie's by the number of null entries in
between, and its top entry is not null.  A table keeps its hole accounting when its segment state
spans from its segment's cookie (`HoleInvariant`, as the source's comments state it).

* `add_spec` — `Add` from a spanning state fills the highest hole of the segment, or the top, and
  the new state spans again.
* `remove_spec` — `Remove` from a spanning state removes exactly a live entry of the segment.
-/

set_option autoImplicit false

namespace Art

namespace IrtEntry

@[simp] theorem getReference_add (e : IrtEntry) (obj : Nat) : (e.add obj).getReference = obj := by
  simp [add, getReference]

@[simp] theorem getReference_clear (e : IrtEntry) : e.clear.getReference = 0 := by
  simp [clear, getReference]

end IrtEntry

namespace IndirectReferenceTable

variable (t : IndirectReferenceTable)

/-- The number of null entries at the indices in `[lo, hi)`. -/
def nullCount (lo : Nat) : Nat → Nat
  | 0 => 0
  | hi + 1 => nullCount lo hi + if lo ≤ hi ∧ t.ref hi = 0 then 1 else 0

/-- The hole accounting of the source: the holes of the table beyond the cookie's are the null
entries above the cookie's top, and the top entry of a non-empty segment is not null. -/
def HoleInvariant (cookie : IRTSegmentState) : Prop :=
  (t.segmentState.numHoles : Int) - cookie.numHoles =
      t.nullCount cookie.topIndex t.segmentState.topIndex ∧
    (cookie.topIndex < t.segmentState.topIndex → t.ref (t.segmentState.topIndex - 1) ≠ 0)

instance (cookie : IRTSegmentState) : Decidable (t.HoleInvariant cookie) := by
  unfold HoleInvariant
  infer_instance

/-- The segment state `inner` accounts for the entries above the cookie `outer`. -/
structure Spans (outer inner : IRTSegmentState) : Prop where
  top_le : outer.topIndex ≤ inner.topIndex
  holes_eq : outer.numHoles + t.nullCount outer.topIndex inner.topIndex = inner.numHoles
  top_ne : outer.topIndex < inner.topIndex → t.ref (inner.topIndex - 1) ≠ 0

/-! ## Entries -/

variable {t}

@[simp] theorem ref_addAt_self (index obj : Nat) (newState : IRTSegmentState) :
    (t.addAt index obj newState).ref index = obj := by
  simp [addAt, ref]

theorem ref_addAt_of_ne {index i : Nat} (h : i ≠ index) (obj : Nat) (newState : IRTSegmentState) :
    (t.addAt index obj newState).ref i = t.ref i := by
  simp [addAt, ref, Function.update_of_ne h]

@[simp] theorem ref_clearAt_self (idx : Nat) (newState : IRTSegmentState) :
    (t.clearAt idx newState).ref idx = 0 := by
  simp [clearAt, ref]

theorem ref_clearAt_of_ne {idx i : Nat} (h : i ≠ idx) (newState : IRTSegmentState) :
    (t.clearAt idx newState).ref i = t.ref i := by
  simp [clearAt, ref, Function.update_of_ne h]

@[simp] theorem ref_setSegmentState (newState : IRTSegmentState) (i : Nat) :
    (t.setSegmentState newState).ref i = t.ref i := rfl

/-! ## References -/

theorem toIndirectRef_eq (i : Nat) :
    t.toIndirectRef i = t.kind.toNat + i * 2 ^ 2 + (t.table i).serial * 2 ^ 20 ∨ 2 ^ 16 ≤ i := by
  by_cases hi : i < 2 ^ 16
  · have hk : t.kind.toNat < 4 := by cases t.kind <;> decide
    have h₁ : i <<< 2 ||| t.kind.toNat = t.kind.toNat + i * 2 ^ 2 := by
      rw [Nat.or_comm, Word.or_shiftLeft_eq_add (by omega)]
    have h₂ : (t.table i).serial <<< 20 ||| (t.kind.toNat + i * 2 ^ 2) =
        t.kind.toNat + i * 2 ^ 2 + (t.table i).serial * 2 ^ 20 := by
      rw [Nat.or_comm, Word.or_shiftLeft_eq_add (by omega)]
    left
    rw [toIndirectRef, Nat.or_assoc, h₁, h₂]
  · exact Or.inr (by omega)

theorem extractIndex_toIndirectRef {i : Nat} (hi : i < 2 ^ 16) :
    extractIndex (t.toIndirectRef i) = i := by
  have hk : t.kind.toNat < 4 := by cases t.kind <;> decide
  rcases toIndirectRef_eq (t := t) i with h | h
  · rw [extractIndex, h, Nat.shiftRight_eq_div_pow,
      show (0xffff : Nat) = 2 ^ 16 - 1 by rfl, Nat.and_two_pow_sub_one_eq_mod]
    omega
  · omega

theorem ofBits_toNat (kind : IndirectRefKind) : IndirectRefKind.ofBits kind.toNat = kind := by
  cases kind <;> rfl

theorem getIndirectRefKind_toIndirectRef {i : Nat} (hi : i < 2 ^ 16) :
    getIndirectRefKind (t.toIndirectRef i) = t.kind := by
  have hk : t.kind.toNat < 4 := by cases t.kind <;> decide
  rcases toIndirectRef_eq (t := t) i with h | h
  · have hmod : (t.toIndirectRef i &&& 3) = t.kind.toNat := by
      rw [h, show (3 : Nat) = 2 ^ 2 - 1 by rfl, Nat.and_two_pow_sub_one_eq_mod]
      omega
    rw [getIndirectRefKind, hmod, ofBits_toNat]
  · omega

theorem toIndirectRef_ne_zero {i : Nat} (hi : i < 2 ^ 16) : t.toIndirectRef i ≠ 0 := by
  intro h0
  have := getIndirectRefKind_toIndirectRef (t := t) hi
  rw [h0] at this
  exact t.kind_ne this.symm

/-! ## Counting holes -/

theorem nullCount_of_le {lo hi : Nat} (h : hi ≤ lo) : t.nullCount lo hi = 0 := by
  induction hi with
  | zero => rfl
  | succ hi ih =>
    simp only [nullCount]
    rw [ih (by omega), if_neg (by omega)]

theorem nullCount_succ {lo hi : Nat} (h : lo ≤ hi) :
    t.nullCount lo (hi + 1) = t.nullCount lo hi + if t.ref hi = 0 then 1 else 0 := by
  simp only [nullCount, h, true_and]

theorem nullCount_pred {lo hi : Nat} (h : lo < hi) :
    t.nullCount lo hi = t.nullCount lo (hi - 1) + if t.ref (hi - 1) = 0 then 1 else 0 := by
  conv_lhs => rw [← Nat.sub_add_cancel (Nat.one_le_of_lt h)]
  exact nullCount_succ (Nat.le_sub_one_of_lt h)

/-- Counting is additive over adjacent intervals. -/
theorem nullCount_add {lo mid hi : Nat} (h₁ : lo ≤ mid) (h₂ : mid ≤ hi) :
    t.nullCount lo hi = t.nullCount lo mid + t.nullCount mid hi := by
  induction hi with
  | zero =>
    have : mid = 0 := by omega
    subst this
    rfl
  | succ hi ih =>
    by_cases hm : mid = hi + 1
    · subst hm
      rw [nullCount_of_le (le_refl _)]
      exact (Nat.add_zero _).symm
    · rw [nullCount_succ (by omega), nullCount_succ (by omega), ih (by omega)]
      omega

/-- Counting reads only the entries in the interval. -/
theorem nullCount_congr {t' : IndirectReferenceTable} {lo hi : Nat}
    (h : ∀ i, lo ≤ i → i < hi → t'.ref i = t.ref i) : t'.nullCount lo hi = t.nullCount lo hi := by
  induction hi with
  | zero => rfl
  | succ hi ih =>
    simp only [nullCount]
    rw [ih fun i h₁ h₂ => h i h₁ (by omega)]
    by_cases hl : lo ≤ hi
    · rw [h hi hl (by omega)]
    · simp [hl]

theorem nullCount_le (lo hi : Nat) : t.nullCount lo hi ≤ hi - lo := by
  induction hi with
  | zero => simp [nullCount]
  | succ hi ih =>
    simp only [nullCount]
    split <;> omega

/-- A positive count has a null entry in the interval. -/
theorem exists_null_of_nullCount_pos {lo hi : Nat} (h : 0 < t.nullCount lo hi) :
    ∃ i, lo ≤ i ∧ i < hi ∧ t.ref i = 0 := by
  induction hi with
  | zero => simp [nullCount] at h
  | succ hi ih =>
    simp only [nullCount] at h
    by_cases hn : lo ≤ hi ∧ t.ref hi = 0
    · exact ⟨hi, hn.1, by omega, hn.2⟩
    · rw [if_neg hn] at h
      obtain ⟨i, h₁, h₂, h₃⟩ := ih h
      exact ⟨i, h₁, by omega, h₃⟩

/-- A zero count has no null entry in the interval. -/
theorem ref_ne_zero_of_nullCount_eq_zero {lo hi i : Nat} (h : t.nullCount lo hi = 0)
    (h₁ : lo ≤ i) (h₂ : i < hi) : t.ref i ≠ 0 := by
  intro hi0
  have hsplit := nullCount_add (t := t) h₁ (le_of_lt h₂)
  have hsplit' := nullCount_add (t := t) (Nat.le_add_right i 1) h₂
  have hone : t.nullCount i (i + 1) = 1 := by
    rw [nullCount_succ (le_refl i), nullCount_of_le (le_refl i), if_pos hi0]
  omega

/-- Counting around one entry. -/
theorem nullCount_split {lo j hi : Nat} (h₁ : lo ≤ j) (h₂ : j < hi) :
    t.nullCount lo hi = t.nullCount lo j + (if t.ref j = 0 then 1 else 0) + t.nullCount (j + 1) hi := by
  rw [nullCount_add h₁ (le_of_lt h₂), nullCount_add (Nat.le_add_right j 1) h₂,
    nullCount_succ (le_refl j), nullCount_of_le (le_refl j)]
  omega

/-- Setting one entry of an interval changes the count by that entry only. -/
theorem nullCount_of_update {t' : IndirectReferenceTable} {lo j hi : Nat} (h₁ : lo ≤ j)
    (h₂ : j < hi) (h : ∀ i, i ≠ j → t'.ref i = t.ref i) :
    t'.nullCount lo hi + (if t.ref j = 0 then 1 else 0) =
      t.nullCount lo hi + (if t'.ref j = 0 then 1 else 0) := by
  rw [nullCount_split (t := t) h₁ h₂, nullCount_split (t := t') h₁ h₂,
    nullCount_congr fun i (_ : lo ≤ i) (hij : i < j) => h i (by omega),
    nullCount_congr fun i (hji : j + 1 ≤ i) (_ : i < hi) => h i (by omega)]
  omega

/-! ## The scan for a hole -/

/-- The scan finds the highest null entry at or below `i`. -/
theorem scanForHole_spec {i j : Nat} (h : t.scanForHole i = some j) :
    j ≤ i ∧ t.ref j = 0 ∧ ∀ k, j < k → k ≤ i → t.ref k ≠ 0 := by
  induction i with
  | zero =>
    unfold scanForHole at h
    split at h
    · cases h
      exact ⟨le_refl 0, ‹_›, fun k h₁ h₂ => absurd h₁ (by omega)⟩
    · cases h
  | succ i ih =>
    unfold scanForHole at h
    split at h
    · cases h
      exact ⟨le_refl _, ‹_›, fun k h₁ h₂ => absurd h₁ (by omega)⟩
    · rename_i hne
      obtain ⟨h₁, h₂, h₃⟩ := ih h
      refine ⟨by omega, h₂, fun k hk₁ hk₂ => ?_⟩
      by_cases hk : k = i + 1
      · subst hk
        exact hne
      · exact h₃ k hk₁ (by omega)

/-- The scan stops when there is a null entry at or below `i`. -/
theorem scanForHole_isSome {i k : Nat} (hk : k ≤ i) (hnull : t.ref k = 0) :
    ∃ j, t.scanForHole i = some j := by
  induction i with
  | zero =>
    have : k = 0 := by omega
    subst this
    exact ⟨0, by simp [scanForHole, hnull]⟩
  | succ i ih =>
    unfold scanForHole
    split
    · exact ⟨_, rfl⟩
    · rename_i hne
      have hki : k ≤ i := by
        by_contra hki
        have : k = i + 1 := by omega
        subst this
        exact hne hnull
      exact ih hki

/-! ## Spanning states -/

theorem Spans.refl (c : IRTSegmentState) : t.Spans c c :=
  ⟨le_refl _, by rw [nullCount_of_le (le_refl _), Nat.add_zero], fun h => absurd h (lt_irrefl _)⟩

theorem Spans.trans {a b c : IRTSegmentState} (hab : t.Spans a b) (hbc : t.Spans b c) :
    t.Spans a c := by
  refine ⟨le_trans hab.top_le hbc.top_le, ?_, fun hac => ?_⟩
  · rw [nullCount_add hab.top_le hbc.top_le, ← hbc.holes_eq, ← hab.holes_eq]
    omega
  · by_cases hbc' : b.topIndex < c.topIndex
    · exact hbc.top_ne hbc'
    · have hb : b.topIndex = c.topIndex := le_antisymm hbc.top_le (by omega)
      rw [← hb]
      exact hab.top_ne (by omega)

/-- A spanning state reads only the entries below its top. -/
theorem Spans.congr {t' : IndirectReferenceTable} {outer inner : IRTSegmentState}
    (hs : t.Spans outer inner) (h : ∀ i, i < inner.topIndex → t'.ref i = t.ref i) :
    t'.Spans outer inner := by
  refine ⟨hs.top_le, ?_, fun hlt => ?_⟩
  · rw [nullCount_congr fun i _ h₂ => h i h₂]
    exact hs.holes_eq
  · rw [h _ (by omega)]
    exact hs.top_ne hlt

theorem Spans.holeInvariant {cookie : IRTSegmentState} (hs : t.Spans cookie t.segmentState) :
    t.HoleInvariant cookie := by
  refine ⟨?_, hs.top_ne⟩
  have := hs.holes_eq
  omega

/-- The holes of a spanning state are at most its top. -/
theorem Spans.numHoles_le {inner : IRTSegmentState} (hs : t.Spans IRT_FIRST_SEGMENT inner) :
    inner.numHoles ≤ inner.topIndex := by
  have h₁ := hs.holes_eq
  have h₂ := nullCount_le (t := t) IRT_FIRST_SEGMENT.topIndex inner.topIndex
  simp only [IRT_FIRST_SEGMENT] at h₁ h₂
  omega

/-! ## `Add` -/

/-- `Add` from a state that spans from the cookie: the object goes into the highest hole of the
segment, or at the top, and the new state spans from the cookie again. -/
theorem add_spec {cookie : IRTSegmentState} (hs : t.Spans cookie t.segmentState)
    (htop : t.segmentState.topIndex < t.maxEntries) {obj : Nat} (hobj : obj ≠ 0) :
    ∃ index newState, t.add cookie obj =
        some ((t.addAt index obj newState).toIndirectRef index, t.addAt index obj newState) ∧
      cookie.topIndex ≤ index ∧ index < newState.topIndex ∧ newState.topIndex ≤ t.maxEntries ∧
      (index < t.segmentState.topIndex → t.ref index = 0) ∧
      (t.segmentState.topIndex ≤ index → index = t.segmentState.topIndex) ∧
      (t.addAt index obj newState).Spans cookie newState := by
  have hholes := hs.holes_eq
  have htop_le := hs.top_le
  have hframe : ∀ index newState i, i ≠ index → (t.addAt index obj newState).ref i = t.ref i :=
    fun _ _ _ h => ref_addAt_of_ne h _ _
  by_cases hpos : 0 < t.nullCount cookie.topIndex t.segmentState.topIndex
  · -- a hole below the top: the scan finds the highest one
    obtain ⟨k, hk₁, hk₂, hk₃⟩ := exists_null_of_nullCount_pos hpos
    have htopref := hs.top_ne (by omega)
    have hk : k + 2 ≤ t.segmentState.topIndex := by
      by_contra hk
      have : k = t.segmentState.topIndex - 1 := by omega
      exact htopref (this ▸ hk₃)
    obtain ⟨j, hj⟩ := scanForHole_isSome (by omega : k ≤ t.segmentState.topIndex - 2) hk₃
    obtain ⟨hj₁, hj₂, hj₃⟩ := scanForHole_spec hj
    have hkj : k ≤ j := by
      by_contra hkj
      exact hj₃ k (by omega) (by omega) hk₃
    have hcount := nullCount_of_update (by omega : cookie.topIndex ≤ j)
      (by omega : j < t.segmentState.topIndex)
      (hframe j { t.segmentState with numHoles := t.segmentState.numHoles - 1 })
    rw [ref_addAt_self, if_pos hj₂, if_neg hobj] at hcount
    refine ⟨j, { t.segmentState with numHoles := t.segmentState.numHoles - 1 }, ?_, by omega,
      by simp only; omega, by simp only; omega, fun _ => hj₂, fun h => absurd h (by omega),
      ⟨hs.top_le, ?_, fun _ => ?_⟩⟩
    · have hpos' : 0 < (t.segmentState.numHoles : Int) - cookie.numHoles := by omega
      have h2 : ¬ t.segmentState.topIndex < 2 := by omega
      simp only [add, if_neg hobj, if_neg htop.ne, if_pos hpos', if_neg h2, hj, Option.map_some]
    · simp only at hcount ⊢
      omega
    · simp only
      rw [hframe _ _ _ (by omega)]
      exact htopref
  · -- no hole: the object goes at the top
    have hzero : t.nullCount cookie.topIndex t.segmentState.topIndex = 0 := by omega
    have hmod : (t.segmentState.topIndex + 1) % 2 ^ 16 = t.segmentState.topIndex + 1 :=
      Nat.mod_eq_of_lt (by have := t.maxEntries_lt; omega)
    have hcount : (t.addAt t.segmentState.topIndex obj
        { t.segmentState with topIndex := t.segmentState.topIndex + 1 }).nullCount cookie.topIndex
          (t.segmentState.topIndex + 1) = 0 := by
      rw [nullCount_succ hs.top_le, ref_addAt_self, if_neg hobj,
        nullCount_congr fun i _ hi => hframe _ _ i (by omega), hzero]
    refine ⟨t.segmentState.topIndex, { t.segmentState with topIndex := t.segmentState.topIndex + 1 },
      ?_, hs.top_le, by simp, by simp only; omega, fun h => absurd h (lt_irrefl _), fun _ => rfl,
      ⟨by simp only; omega, ?_, fun _ => ?_⟩⟩
    · have hpos' : ¬ 0 < (t.segmentState.numHoles : Int) - cookie.numHoles := by omega
      simp only [add, if_neg hobj, if_neg htop.ne, if_neg hpos', hmod, Option.map_some]
    · simp only at hcount ⊢
      omega
    · simp only [Nat.add_sub_cancel, ref_addAt_self]
      exact hobj

/-! ## `Remove` and `Get` -/

/-- `iref` names a live entry of the segment above `cookie`. -/
def Live (t : IndirectReferenceTable) (cookie : IRTSegmentState) (iref : Nat) : Prop :=
  ∃ i, cookie.topIndex ≤ i ∧ i < t.segmentState.topIndex ∧ t.ref i ≠ 0 ∧ iref = t.toIndirectRef i

/-- The loop of `Remove` from `topIndex` (before its decrement), with `numHoles` the null entries
below `topIndex - 1`: it stops above the cookie, at a top whose entry below is not null, with
`numHoles` the null entries below that top. -/
theorem consumeHoles_spec {bottom : Nat} :
    ∀ {topIndex : Nat} {numHoles : Int} {top' : Nat} {holes' : Int}, bottom < topIndex →
      numHoles = t.nullCount bottom (topIndex - 1) →
      t.consumeHoles bottom topIndex numHoles = (top', holes') →
      bottom ≤ top' ∧ top' ≤ topIndex - 1 ∧ holes' = t.nullCount bottom top' ∧
        (bottom < top' → t.ref (top' - 1) ≠ 0) := by
  intro topIndex
  induction topIndex with
  | zero => intro _ _ _ h; omega
  | succ n ih =>
    intro numHoles top' holes' hlt hholes hloop
    simp only [Nat.add_sub_cancel] at hholes
    simp only [consumeHoles] at hloop
    split_ifs at hloop with hcont hnext
    · cases hloop
      exact ⟨by omega, le_refl _, hholes, fun _ => hnext⟩
    · -- the entry below is a hole: consume it
      have hnull : t.ref (n - 1) = 0 := by simpa using hnext
      have hcount : t.nullCount bottom n = t.nullCount bottom (n - 1) + 1 := by
        rw [nullCount_pred (by omega : bottom < n), if_pos hnull]
      obtain ⟨h₁, h₂, h₃, h₄⟩ := ih (by omega) (by rw [hholes, hcount]; push_cast; ring) hloop
      exact ⟨h₁, by omega, h₃, h₄⟩
    · cases hloop
      refine ⟨by omega, le_refl _, hholes, fun hb => ?_⟩
      have hzero : t.nullCount bottom n = 0 := by
        have : numHoles = 0 := by omega
        omega
      exact ref_ne_zero_of_nullCount_eq_zero hzero (by omega) (by omega)

theorem failCheck_map {checkJni b : Bool} {t' : IndirectReferenceTable}
    (h : (failCheck checkJni).map (·, t) = some (b, t')) : t' = t ∧ b = false := by
  unfold failCheck at h
  split at h <;> simp_all

theorem eq_toIndirectRef_of_checkEntry {iref idx : Nat} (h : ¬(!t.checkEntry iref idx) = true) :
    iref = t.toIndirectRef idx := by
  have hentry : t.checkEntry iref idx = true := by simpa using h
  simp only [checkEntry, beq_iff_eq] at hentry
  exact hentry.symm

/-- The null entries of a cleared table, below the cleared entry, are the table's. -/
theorem nullCount_clearAt_of_le {idx hi : Nat} (newState : IRTSegmentState) (lo : Nat)
    (h : hi ≤ idx) : (t.clearAt idx newState).nullCount lo hi = t.nullCount lo hi :=
  nullCount_congr fun _ _ hi' => ref_clearAt_of_ne (by omega) newState

/-- What `Remove` does from a state that spans from the cookie: nothing, or, for a reference in
a handle scope, nothing but returning true; or it clears a live entry of the segment, and the new
state spans from the cookie again. -/
theorem remove_spec {checkJni : Bool} {handleScopeContains : Nat → Bool}
    {cookie : IRTSegmentState} (hs : t.Spans cookie t.segmentState)
    (hbase : t.Spans IRT_FIRST_SEGMENT t.segmentState) (hmax : t.segmentState.topIndex ≤ t.maxEntries)
    {iref : Nat} {b : Bool} {t' : IndirectReferenceTable}
    (h : t.remove checkJni handleScopeContains cookie iref = some (b, t')) :
    (t' = t ∧ (b = true →
        getIndirectRefKind iref = .kHandleScopeOrInvalid ∧ handleScopeContains iref = true)) ∨
      (b = true ∧ ∃ idx newState, cookie.topIndex ≤ idx ∧ idx < t.segmentState.topIndex ∧
        t.ref idx ≠ 0 ∧ iref = t.toIndirectRef idx ∧ t' = t.clearAt idx newState ∧
        t'.Spans cookie newState ∧ newState.topIndex ≤ t.segmentState.topIndex) := by
  have hholes := hs.holes_eq
  have htop_le := hs.top_le
  have hbase_le : t.segmentState.numHoles ≤ t.segmentState.topIndex := hbase.numHoles_le
  have hlt := t.maxEntries_lt
  simp only [remove] at h
  split_ifs at h with hscope hlow hhigh htopidx hcheck hholes' hnull hcheck'
  · cases h
    exact Or.inl ⟨rfl, fun _ => hscope⟩
  · cases h
    exact Or.inl ⟨rfl, fun h => by cases h⟩
  · cases h
    exact Or.inl ⟨rfl, fun h => by cases h⟩
  · obtain ⟨rfl, rfl⟩ := failCheck_map h
    exact Or.inl ⟨rfl, fun h => by cases h⟩
  · -- the top entry, with holes below it to consume
    have htopref := hs.top_ne (by omega)
    have hidx : extractIndex iref = t.segmentState.topIndex - 1 := htopidx
    rcases hloop : (t.clearAt (extractIndex iref) t.segmentState).consumeHoles cookie.topIndex
        t.segmentState.topIndex ((t.segmentState.numHoles : Int) - cookie.numHoles) with
      ⟨top', holes'⟩
    rw [hloop] at h
    cases h
    have hbelow : t.nullCount cookie.topIndex t.segmentState.topIndex =
        t.nullCount cookie.topIndex (t.segmentState.topIndex - 1) := by
      rw [nullCount_pred (by omega : cookie.topIndex < t.segmentState.topIndex), if_neg htopref]
      exact Nat.add_zero _
    obtain ⟨h₁, h₂, h₃, h₄⟩ := consumeHoles_spec (by omega)
      (by rw [nullCount_clearAt_of_le _ _ (by omega)]; omega) hloop
    have hcleared : ∀ s s' : IRTSegmentState, ∀ lo hi,
        (t.clearAt (extractIndex iref) s).nullCount lo hi =
          (t.clearAt (extractIndex iref) s').nullCount lo hi :=
      fun _ _ _ _ => nullCount_congr fun _ _ _ => rfl
    have hvalue : holes' + cookie.numHoles =
        ((cookie.numHoles + (t.clearAt (extractIndex iref) t.segmentState).nullCount
          cookie.topIndex top' : Nat) : Int) := by
      rw [h₃]
      push_cast
      ring
    have hle : (t.clearAt (extractIndex iref) t.segmentState).nullCount cookie.topIndex top' ≤
        t.nullCount cookie.topIndex t.segmentState.topIndex := by
      rw [nullCount_clearAt_of_le _ _ (by omega), hbelow]
      have := nullCount_add (t := t) h₁
        (by omega : top' ≤ t.segmentState.topIndex - 1)
      omega
    rw [hvalue, Word.toUnsigned_natCast, Nat.mod_eq_of_lt (by omega)]
    refine Or.inr ⟨rfl, _, _, by omega, by omega, by rw [hidx]; exact htopref,
      eq_toIndirectRef_of_checkEntry hcheck, rfl, ⟨h₁, ?_, fun hb => ?_⟩, by simp only; omega⟩
    · simp only
      rw [hcleared _ t.segmentState]
    · exact h₄ hb
  · -- the top entry, with no hole to consume
    cases h
    have htopref := hs.top_ne (by omega)
    have hidx : extractIndex iref = t.segmentState.topIndex - 1 := htopidx
    have hzero : t.nullCount cookie.topIndex (t.segmentState.topIndex - 1) = 0 := by
      have := nullCount_pred (t := t) (by omega : cookie.topIndex < t.segmentState.topIndex)
      rw [if_neg htopref] at this
      omega
    refine Or.inr ⟨rfl, _, _, by omega, by omega, by rw [hidx]; exact htopref,
      eq_toIndirectRef_of_checkEntry hcheck, rfl, ⟨by simp only; omega, ?_, fun hb => ?_⟩,
      by simp only; omega⟩
    · simp only
      rw [nullCount_clearAt_of_le _ _ (by omega), hzero]
      omega
    · simp only at hb ⊢
      rw [ref_clearAt_of_ne (by omega)]
      exact ref_ne_zero_of_nullCount_eq_zero hzero (by omega) (by omega)
  · cases h
    exact Or.inl ⟨rfl, fun h => by cases h⟩
  · obtain ⟨rfl, rfl⟩ := failCheck_map h
    exact Or.inl ⟨rfl, fun h => by cases h⟩
  · -- an entry below the top leaves a hole
    cases h
    have htopref := hs.top_ne (by omega)
    have hcount := nullCount_of_update (by omega : cookie.topIndex ≤ extractIndex iref)
      (by omega : extractIndex iref < t.segmentState.topIndex) fun i hi =>
        ref_clearAt_of_ne (t := t) hi { t.segmentState with numHoles := (t.segmentState.numHoles + 1) % 2 ^ 16 }
    rw [ref_clearAt_self, if_neg hnull, if_pos rfl] at hcount
    have hfree : t.nullCount 0 t.segmentState.topIndex < t.segmentState.topIndex := by
      have := nullCount_split (t := t) (by omega : 0 ≤ extractIndex iref)
        (by omega : extractIndex iref < t.segmentState.topIndex)
      have h₁ := nullCount_le (t := t) 0 (extractIndex iref)
      have h₂ := nullCount_le (t := t) (extractIndex iref + 1) t.segmentState.topIndex
      rw [if_neg hnull] at this
      omega
    have hbase' := hbase.holes_eq
    simp only [IRT_FIRST_SEGMENT, Nat.zero_add] at hbase'
    have hmod : (t.segmentState.numHoles + 1) % 2 ^ 16 = t.segmentState.numHoles + 1 :=
      Nat.mod_eq_of_lt (by omega)
    refine Or.inr ⟨rfl, _, _, by omega, by omega, hnull,
      eq_toIndirectRef_of_checkEntry hcheck', rfl, ⟨htop_le, ?_, fun hb => ?_⟩, le_refl _⟩
    · simp only [hmod] at hcount ⊢
      omega
    · simp only at hb ⊢
      rw [ref_clearAt_of_ne (by omega)]
      exact htopref

/-- A live entry is removed. -/
theorem remove_of_live {checkJni : Bool} {handleScopeContains : Nat → Bool}
    {cookie : IRTSegmentState} (hmax : t.segmentState.topIndex ≤ t.maxEntries) {iref : Nat}
    (hlive : t.Live cookie iref) :
    ∃ t', t.remove checkJni handleScopeContains cookie iref = some (true, t') := by
  obtain ⟨i, hi₁, hi₂, hne, rfl⟩ := hlive
  have hi : i < 2 ^ 16 := by have := t.maxEntries_lt; omega
  have hscope : ¬(getIndirectRefKind (t.toIndirectRef i) = .kHandleScopeOrInvalid ∧
      handleScopeContains (t.toIndirectRef i) = true) := fun h =>
    t.kind_ne ((getIndirectRefKind_toIndirectRef hi).symm.trans h.1)
  have hcheck : ¬(!t.checkEntry (t.toIndirectRef i) i) = true := by simp [checkEntry]
  simp only [remove, if_neg hscope, extractIndex_toIndirectRef hi, if_neg (not_lt.mpr hi₁),
    if_neg (not_le.mpr hi₂), if_neg hcheck]
  split_ifs <;> exact ⟨_, rfl⟩

/-- `Get` returns the object of every live entry. -/
theorem get_toIndirectRef (checkJni : Bool) {i : Nat} (hi : i < t.segmentState.topIndex)
    (hmax : t.segmentState.topIndex ≤ t.maxEntries) (hne : t.ref i ≠ 0) :
    t.get checkJni (t.toIndirectRef i) = some (t.ref i) := by
  have hi' : i < 2 ^ 16 := by have := t.maxEntries_lt; omega
  have hkind : getIndirectRefKind (t.toIndirectRef i) ≠ .kHandleScopeOrInvalid := by
    rw [getIndirectRefKind_toIndirectRef hi']
    exact t.kind_ne
  simp [get, getChecked, toIndirectRef_ne_zero hi', hkind, extractIndex_toIndirectRef hi',
    not_le.mpr hi, hne, checkEntry]

/-! ## Local reference frames -/

/-- The cookies of the open frames, innermost first: each is spanned by the next inner one, and
the outermost is `IRT_FIRST_SEGMENT`. -/
def Nested (t : IndirectReferenceTable) : IRTSegmentState → List IRTSegmentState → Prop
  | cookie, [] => cookie = IRT_FIRST_SEGMENT
  | cookie, outer :: rest => t.Spans outer cookie ∧ Nested t outer rest

theorem Nested.spans_of_mem : ∀ {cookie : IRTSegmentState} {stack : List IRTSegmentState},
    t.Nested cookie stack → ∀ c ∈ cookie :: stack, t.Spans c cookie
  | _, [], h, c, hc => by
    rw [List.mem_singleton] at hc
    subst hc
    exact Spans.refl _
  | _, _ :: _, ⟨hs, hn⟩, c, hc => by
    rcases List.mem_cons.mp hc with rfl | hc
    · exact Spans.refl _
    · exact (hn.spans_of_mem c hc).trans hs

theorem Nested.first_mem : ∀ {cookie : IRTSegmentState} {stack : List IRTSegmentState},
    t.Nested cookie stack → IRT_FIRST_SEGMENT ∈ cookie :: stack
  | _, [], h => by rw [h]; exact List.mem_singleton_self _
  | _, _ :: _, ⟨_, hn⟩ => List.mem_cons_of_mem _ hn.first_mem

/-- The frames read only the entries below the innermost cookie. -/
theorem Nested.congr {t' : IndirectReferenceTable} : ∀ {cookie : IRTSegmentState}
    {stack : List IRTSegmentState}, t.Nested cookie stack →
    (∀ i, i < cookie.topIndex → t'.ref i = t.ref i) → t'.Nested cookie stack
  | _, [], h, _ => h
  | _, _ :: _, ⟨hs, hn⟩, hr =>
    ⟨hs.congr hr, hn.congr fun i hi => hr i (lt_of_lt_of_le hi hs.top_le)⟩

/-- Restoring a cookie out of stack order breaks the hole accounting: after a frame is popped
over a hole and refilled, restoring the state saved inside the frame counts a hole that is no
longer there, and the next `Add` scans below the segment. -/
theorem holes_lost_out_of_order :
    let t₀ := IndirectReferenceTable.new 512 .kLocal (by decide) (by decide)
    (do
      let c1 := t₀.segmentState
      let (a, t) ← t₀.add c1 0x100
      let (_, t) ← t.add c1 0x200
      let (_, t) ← t.remove true (fun _ => false) c1 a
      let c2 := t.segmentState
      let (_, t) ← (t.setSegmentState c1).add c1 0x300
      let t := t.setSegmentState c2
      pure (c2, decide (t.HoleInvariant c1), (t.add c1 0x400).isSome)) =
      some (⟨2, 1⟩, false, false) := by
  decide

end IndirectReferenceTable

namespace JNIEnvExt

open IndirectReferenceTable

variable (checkJni : Bool) (handleScopeContains : Nat → Bool)

/-- The invariant of the local references: the table's state spans from the current cookie,
and the cookies of the open frames nest. -/
structure Inv (env : JNIEnvExt) : Prop where
  top_le : env.locals.segmentState.topIndex ≤ env.locals.maxEntries
  current : env.locals.Spans env.localRefCookie env.locals.segmentState
  nested : env.locals.Nested env.localRefCookie env.stackedLocalRefCookies

variable {env env' : JNIEnvExt}

theorem Inv.base (hi : env.Inv) : env.locals.Spans IRT_FIRST_SEGMENT env.locals.segmentState :=
  (hi.nested.spans_of_mem _ hi.nested.first_mem).trans hi.current

theorem inv_new {locals : IndirectReferenceTable}
    (hfresh : locals.segmentState = IRT_FIRST_SEGMENT) : (new locals).Inv := by
  refine ⟨by simp [new, hfresh, IRT_FIRST_SEGMENT], ?_, rfl⟩
  rw [new, hfresh]
  exact Spans.refl _

theorem Inv.newLocalRef (hi : env.Inv) {obj iref : Nat}
    (h : env.newLocalRef obj = some (iref, env')) : env'.Inv := by
  unfold JNIEnvExt.newLocalRef at h
  split_ifs at h with hobj
  · cases h
    exact hi
  · rcases Nat.lt_or_ge env.locals.segmentState.topIndex env.locals.maxEntries with htop | htop
    · obtain ⟨index, newState, hadd, hindex, -, hmax, -, -, hspans⟩ :=
        add_spec hi.current htop hobj
      rw [hadd, Option.map_some, Option.some.injEq] at h
      cases h
      exact ⟨hmax, hspans, hi.nested.congr fun i hi' => ref_addAt_of_ne (by omega) _ _⟩
    · have hfull : env.locals.segmentState.topIndex = env.locals.maxEntries :=
        le_antisymm hi.top_le htop
      simp [IndirectReferenceTable.add, hobj, hfull] at h

theorem Inv.deleteLocalRef (hi : env.Inv) {iref : Nat}
    (h : env.deleteLocalRef checkJni handleScopeContains iref = some env') : env'.Inv := by
  unfold JNIEnvExt.deleteLocalRef at h
  split_ifs at h
  · cases h
    exact hi
  · obtain ⟨⟨b, locals'⟩, hremove, rfl⟩ := Option.map_eq_some_iff.mp h
    rcases remove_spec hi.current hi.base hi.top_le hremove with
      ⟨rfl, -⟩ | ⟨-, idx, newState, hidx, -, -, -, rfl, hspans, htop⟩
    · exact hi
    · exact ⟨le_trans htop hi.top_le, hspans,
        hi.nested.congr fun i hi' => ref_clearAt_of_ne (by omega) _⟩

theorem Inv.pushFrame (hi : env.Inv) : env.pushFrame.Inv :=
  ⟨hi.top_le, Spans.refl _, hi.current, hi.nested⟩

theorem Inv.popFrame (hi : env.Inv) (h : env.popFrame = some env') : env'.Inv := by
  unfold JNIEnvExt.popFrame at h
  have hnested := hi.nested
  split at h
  · cases h
  · rename_i cookie rest hstack
    cases h
    rw [hstack] at hnested
    exact ⟨le_trans hi.current.top_le hi.top_le, hnested.1.congr fun _ _ => rfl,
      hnested.2.congr fun _ _ => rfl⟩

/-- The step lemma. -/
theorem Inv.of_step (hi : env.Inv) {op : LocalRefOp}
    (h : env.step checkJni handleScopeContains op = some env') : env'.Inv := by
  cases op with
  | newLocalRef obj =>
    obtain ⟨⟨iref, env''⟩, hnew, rfl⟩ := Option.map_eq_some_iff.mp h
    exact hi.newLocalRef hnew
  | deleteLocalRef iref => exact hi.deleteLocalRef checkJni handleScopeContains h
  | pushFrame =>
    cases h
    exact hi.pushFrame
  | popFrame => exact hi.popFrame h

/-- The run lemma. -/
theorem run_inv {ops : List LocalRefOp} :
    ∀ {env env' : JNIEnvExt}, env.Inv → env.run checkJni handleScopeContains ops = some env' →
      env'.Inv := by
  induction ops with
  | nil =>
    intro env env' hi h
    cases h
    exact hi
  | cons op ops ih =>
    intro env env' hi h
    obtain ⟨env₁, hstep, hrest⟩ := Option.bind_eq_some_iff.mp h
    exact ih (hi.of_step checkJni handleScopeContains hstep) hrest

/-- What the hole accounting gives the local references of a thread: every cookie of an open
frame keeps it; `Add` places the object in the current frame, in its highest hole or at the top,
where `Get` finds it, and changes no other entry; `Get` finds every live entry; and `Remove`
returns true exactly for a live entry of the current frame, which it clears, changing no other
entry. -/
structure Sound (env : JNIEnvExt) : Prop where
  holes : ∀ cookie ∈ env.localRefCookie :: env.stackedLocalRefCookies,
    env.locals.HoleInvariant cookie
  add : ∀ obj, obj ≠ 0 → env.locals.segmentState.topIndex < env.locals.maxEntries →
    ∃ iref locals', env.locals.add env.localRefCookie obj = some (iref, locals') ∧
      env.localRefCookie.topIndex ≤ extractIndex iref ∧
      (extractIndex iref < env.locals.segmentState.topIndex →
        env.locals.ref (extractIndex iref) = 0) ∧
      (env.locals.segmentState.topIndex ≤ extractIndex iref →
        extractIndex iref = env.locals.segmentState.topIndex) ∧
      locals'.get checkJni iref = some obj ∧
      ∀ i, i ≠ extractIndex iref → locals'.ref i = env.locals.ref i
  get : ∀ i, i < env.locals.segmentState.topIndex → env.locals.ref i ≠ 0 →
    env.locals.get checkJni (env.locals.toIndirectRef i) = some (env.locals.ref i)
  remove : ∀ iref,
    ¬(getIndirectRefKind iref = .kHandleScopeOrInvalid ∧ handleScopeContains iref = true) →
    ((∃ locals', env.locals.remove checkJni handleScopeContains env.localRefCookie iref =
        some (true, locals')) ↔ env.locals.Live env.localRefCookie iref)
  remove_clears : ∀ iref locals',
    ¬(getIndirectRefKind iref = .kHandleScopeOrInvalid ∧ handleScopeContains iref = true) →
    env.locals.remove checkJni handleScopeContains env.localRefCookie iref = some (true, locals') →
    locals'.ref (extractIndex iref) = 0 ∧ ∀ i, i ≠ extractIndex iref → locals'.ref i = env.locals.ref i

theorem Inv.add (hi : env.Inv) {obj : Nat} (hobj : obj ≠ 0)
    (htop : env.locals.segmentState.topIndex < env.locals.maxEntries) :
    ∃ iref locals', env.locals.add env.localRefCookie obj = some (iref, locals') ∧
      env.localRefCookie.topIndex ≤ extractIndex iref ∧
      (extractIndex iref < env.locals.segmentState.topIndex →
        env.locals.ref (extractIndex iref) = 0) ∧
      (env.locals.segmentState.topIndex ≤ extractIndex iref →
        extractIndex iref = env.locals.segmentState.topIndex) ∧
      locals'.get checkJni iref = some obj ∧
      ∀ i, i ≠ extractIndex iref → locals'.ref i = env.locals.ref i := by
  obtain ⟨index, newState, hadd, hindex, hlt, hmax, hhole, htopidx, -⟩ :=
    add_spec hi.current htop hobj
  have hbits : index < 2 ^ 16 := by have := env.locals.maxEntries_lt; omega
  have hextract : extractIndex ((env.locals.addAt index obj newState).toIndirectRef index) = index :=
    extractIndex_toIndirectRef hbits
  refine ⟨_, _, hadd, by rw [hextract]; exact hindex, by rw [hextract]; exact hhole,
    by rw [hextract]; exact htopidx, ?_, fun i hne => ref_addAt_of_ne (by rwa [hextract] at hne) _ _⟩
  rw [get_toIndirectRef checkJni hlt hmax (by rw [ref_addAt_self]; exact hobj), ref_addAt_self]

theorem Inv.remove_iff (hi : env.Inv) {iref : Nat}
    (hscope : ¬(getIndirectRefKind iref = .kHandleScopeOrInvalid ∧
      handleScopeContains iref = true)) :
    (∃ locals', env.locals.remove checkJni handleScopeContains env.localRefCookie iref =
        some (true, locals')) ↔ env.locals.Live env.localRefCookie iref := by
  constructor
  · rintro ⟨locals', h⟩
    rcases remove_spec hi.current hi.base hi.top_le h with
      ⟨-, hb⟩ | ⟨-, idx, newState, h₁, h₂, h₃, h₄, -⟩
    · exact absurd (hb rfl) hscope
    · exact ⟨idx, h₁, h₂, h₃, h₄⟩
  · exact remove_of_live hi.top_le

theorem Inv.remove_clears (hi : env.Inv) {iref : Nat} {locals' : IndirectReferenceTable}
    (hscope : ¬(getIndirectRefKind iref = .kHandleScopeOrInvalid ∧
      handleScopeContains iref = true))
    (h : env.locals.remove checkJni handleScopeContains env.localRefCookie iref =
      some (true, locals')) :
    locals'.ref (extractIndex iref) = 0 ∧
      ∀ i, i ≠ extractIndex iref → locals'.ref i = env.locals.ref i := by
  rcases remove_spec hi.current hi.base hi.top_le h with
    ⟨-, hb⟩ | ⟨-, idx, newState, -, h₂, -, rfl, rfl, -⟩
  · exact absurd (hb rfl) hscope
  · have hbits : idx < 2 ^ 16 := by have := env.locals.maxEntries_lt; have := hi.top_le; omega
    rw [extractIndex_toIndirectRef hbits]
    exact ⟨ref_clearAt_self _ _, fun i hne => ref_clearAt_of_ne hne _⟩

theorem Inv.sound (hi : env.Inv) : env.Sound checkJni handleScopeContains where
  holes cookie hc := (hi.nested.spans_of_mem cookie hc |>.trans hi.current).holeInvariant
  add _ hobj htop := hi.add checkJni hobj htop
  get _ hlt hne := get_toIndirectRef checkJni hlt hi.top_le hne
  remove _ hscope := hi.remove_iff checkJni handleScopeContains hscope
  remove_clears _ _ hscope h := hi.remove_clears checkJni handleScopeContains hscope h

/-- Under the stack discipline of JNI frames, the local references of a thread stay sound
through every run of calls from a table at its first segment. -/
theorem local_refs_sound {locals : IndirectReferenceTable}
    (hfresh : locals.segmentState = IRT_FIRST_SEGMENT) {ops : List LocalRefOp} {env : JNIEnvExt}
    (hrun : (new locals).run checkJni handleScopeContains ops = some env) :
    env.Sound checkJni handleScopeContains :=
  (run_inv checkJni handleScopeContains (inv_new hfresh) hrun).sound checkJni handleScopeContains

theorem local_refs_sound_frames :
    let locals := IndirectReferenceTable.new 512 .kLocal (by decide) (by decide)
    let ops := [.newLocalRef 0x100, .pushFrame, .newLocalRef 0x200, .newLocalRef 0x300,
      .deleteLocalRef 0x100005, .popFrame, .newLocalRef 0x400]
    locals.segmentState = IRT_FIRST_SEGMENT ∧
      ((new locals).run true (fun _ => false) ops).isSome ∧
      ∀ env, (new locals).run true (fun _ => false) ops = some env →
        env.Sound true (fun _ => false) :=
  ⟨rfl, by decide, fun _ hrun => local_refs_sound true (fun _ => false) rfl hrun⟩

end JNIEnvExt

end Art
