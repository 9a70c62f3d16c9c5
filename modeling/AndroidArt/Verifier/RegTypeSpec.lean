import AndroidArt.Verifier.RegType

/-!
# `RegType::Merge`: order independence, and the uninitialized types

* `classJoin_comm` — over a well-formed hierarchy (`ClassHierarchy.WellFormed`), `ClassJoin`
  does not depend on the order of the two classes.
* `merge_comm` — `Merge` of two different types does not depend on their order either: every
  test of its cascade is symmetric, and so is each branch (`mergeConstants_comm`,
  `mergeIntegral_comm`, `mergeReferences_comm`).
* `merge_of_isNonZeroReferenceTypes` — a non-null reference meets another reference only in the
  reference branch of `Merge`.
* `merge_uninitialized_javaLangObject` — that branch tests for `java.lang.Object` before it tests
  for an uninitialized type: an uninitialized type merged with `java.lang.Object`, in either
  order, is the initialized reference type of `java.lang.Object`.
-/

set_option autoImplicit false

namespace Art

namespace Verifier

open RegType

variable {κ : Type}

namespace ClassHierarchy

/-- The shape of the class hierarchy of the runtime: assignability is antisymmetric, every array
class has `java.lang.Object` as its superclass, and the depth counts the steps up to
`java.lang.Object`. -/
structure WellFormed (H : ClassHierarchy κ) : Prop where
  antisymm : ∀ s t, H.isAssignableFrom s t = true → H.isAssignableFrom t s = true → s = t
  getSuperClass_array : ∀ s t, H.isArrayClass s = true → H.isArrayClass t = true →
    H.getSuperClass s = H.getSuperClass t
  eq_of_depth_eq_zero : ∀ c, H.depth c = 0 → c = H.javaLangObject
  depth_getSuperClass : ∀ c, 0 < H.depth c → H.depth (H.getSuperClass c) + 1 = H.depth c

end ClassHierarchy

namespace RegType

/-! ## The tests of `Merge` -/

variable {a b t : RegType κ}

/-- What a non-null reference is not, test by test. -/
theorem guards_of_isNonZeroReferenceTypes (h : t.isNonZeroReferenceTypes = true) :
    t.isConflict = false ∧ t.isUndefined = false ∧ t.isConstant = false ∧ t.isConstantLo = false ∧
      t.isConstantHi = false ∧ t.isIntegralTypes = false ∧ t.isFloatTypes = false ∧
      t.isLongTypes = false ∧ t.isLongHighTypes = false ∧ t.isDoubleTypes = false ∧
      t.isDoubleHighTypes = false ∧ t.isReferenceTypes = true := by
  cases t <;> simp_all [isNonZeroReferenceTypes, isUninitializedTypes, isUnresolvedTypes, isConflict,
    isUndefined, isConstant, isConstantLo, isConstantHi, isIntegralTypes, isFloatTypes, isLongTypes,
    isLongHighTypes, isDoubleTypes, isDoubleHighTypes, isReferenceTypes, isInteger, isByte, isShort,
    isChar, isBoolean, isFloat, isLongLo, isLongHi, isDoubleLo, isDoubleHi]

theorem guards_of_isReferenceTypes (h : t.isReferenceTypes = true) :
    t.isConflict = false ∧ t.isUndefined = false := by
  cases t <;> simp_all [isReferenceTypes, isNonZeroReferenceTypes, isUninitializedTypes,
    isUnresolvedTypes, isZero, isPreciseConstant, isConflict, isUndefined]

theorem isNonZeroReferenceTypes_of_isUninitializedTypes (h : t.isUninitializedTypes = true) :
    t.isNonZeroReferenceTypes = true := by
  simp [isNonZeroReferenceTypes, h]

theorem isZero_eq_false_of_isNonZeroReferenceTypes (h : t.isNonZeroReferenceTypes = true) :
    t.isZero = false := by
  cases t <;> simp_all [isNonZeroReferenceTypes, isUninitializedTypes, isUnresolvedTypes, isZero,
    isPreciseConstant]

theorem eq_conflict_of_isConflict (h : t.isConflict = true) : t = conflict := by
  cases t <;> simp_all [isConflict]

theorem isConstantTypes_of_isConstant (h : t.isConstant = true) : t.isConstantTypes = true := by
  cases t <;> simp_all [isConstant, isConstantTypes]

theorem isConstantTypes_of_isConstantLo (h : t.isConstantLo = true) : t.isConstantTypes = true := by
  cases t <;> simp_all [isConstantLo, isConstantTypes]

theorem isConstantTypes_of_isConstantHi (h : t.isConstantHi = true) : t.isConstantTypes = true := by
  cases t <;> simp_all [isConstantHi, isConstantTypes]

theorem isConstantShort_of_isConstantByte (h : t.isConstantByte = true) : t.isConstantShort = true := by
  simp only [isConstantByte, isConstantShort, Bool.and_eq_true, decide_eq_true_eq,
    Int32.le_iff_toInt_le] at h ⊢
  have h1 : (-128 : Int32).toInt = -128 := by decide
  have h2 : (127 : Int32).toInt = 127 := by decide
  have h3 : (-32768 : Int32).toInt = -32768 := by decide
  have h4 : (32767 : Int32).toInt = 32767 := by decide
  obtain ⟨⟨hc, hlo⟩, hhi⟩ := h
  exact ⟨⟨hc, by omega⟩, by omega⟩

theorem isFloat_eq (h : t.isFloat = true) : t = float := by cases t <;> simp_all [isFloat]

theorem isLongLo_eq (h : t.isLongLo = true) : t = longLo := by cases t <;> simp_all [isLongLo]

theorem isLongHi_eq (h : t.isLongHi = true) : t = longHi := by cases t <;> simp_all [isLongHi]

theorem isDoubleLo_eq (h : t.isDoubleLo = true) : t = doubleLo := by cases t <;> simp_all [isDoubleLo]

theorem isDoubleHi_eq (h : t.isDoubleHi = true) : t = doubleHi := by cases t <;> simp_all [isDoubleHi]

theorem eq_of_isZero (ha : a.isZero = true) (hb : b.isZero = true) : a = b := by
  cases a <;> cases b <;> simp_all [isZero, isPreciseConstant, constantValue]

theorem isZero_of_isConstantTypes (h : t.isReferenceTypes = true) (hc : t.isConstantTypes = true) :
    t.isZero = true := by
  cases t <;> simp_all [isReferenceTypes, isNonZeroReferenceTypes, isUninitializedTypes,
    isUnresolvedTypes, isConstantTypes, isZero, isPreciseConstant]

theorem isConstantTypes_of_isZero (h : t.isZero = true) : t.isConstantTypes = true := by
  cases t <;> simp_all [isZero, isPreciseConstant, isConstantTypes]

/-- The references that reach the class join of `Merge`. -/
theorem exists_class_of_isReferenceTypes (h : t.isReferenceTypes = true) (hz : t.isZero = false)
    (hu : t.isUnresolvedTypes = false) (hi : t.isUninitializedTypes = false) :
    ∃ k, t = reference k ∨ t = preciseReference k := by
  cases t <;> simp_all [isReferenceTypes, isNonZeroReferenceTypes, isUninitializedTypes,
    isUnresolvedTypes]

/-! ## The branches of `Merge` -/

/-- A constant that `Merge` returns as it is when it is imprecise, and as the imprecise constant
of its value otherwise, is that imprecise constant. -/
theorem keep_constant (ht : t.isConstant = true) :
    (if !t.isPreciseConstant then t else fromCat1Const t.constantValue) =
      impreciseConst t.constantValue := by
  cases t <;> simp_all [isConstant, isPreciseConstant, constantValue, fromCat1Const]

/-- The larger of two values, whichever comes first. -/
theorem ite_ge_comm {α : Type} (f : Int32 → α) (v w : Int32) :
    (if w ≤ v then f v else f w) = (if v ≤ w then f w else f v) := by
  by_cases h1 : w ≤ v
  · by_cases h2 : v ≤ w
    · rw [if_pos h1, if_pos h2, Int32.le_antisymm h2 h1]
    · rw [if_pos h1, if_neg h2]
  · rw [if_neg h1, if_pos (Std.le_of_not_ge h1)]

/-- The smaller of two values, whichever comes first. -/
theorem ite_le_comm {α : Type} (f : Int32 → α) (v w : Int32) :
    (if v ≤ w then f v else f w) = (if w ≤ v then f w else f v) := by
  by_cases h1 : v ≤ w
  · by_cases h2 : w ≤ v
    · rw [if_pos h1, if_pos h2, Int32.le_antisymm h1 h2]
    · rw [if_pos h1, if_neg h2]
  · rw [if_neg h1, if_pos (Std.le_of_not_ge h1)]

theorem mergeConstants_comm (ha : a.isConstant = true) (hb : b.isConstant = true) :
    mergeConstants a b = mergeConstants b a := by
  unfold mergeConstants
  dsimp only
  rw [keep_constant ha, keep_constant hb]
  rw [ite_ge_comm (fun v => (impreciseConst v : RegType κ)) a.constantValue,
    ite_le_comm (fun v => (impreciseConst v : RegType κ)) a.constantValue,
    Bool.and_comm (decide (b.constantValue ≥ 0)), Bool.and_comm (decide (b.constantValue < 0))]
  by_cases hpos : (decide (a.constantValue ≥ 0) && decide (b.constantValue ≥ 0)) = true
  · rw [if_pos hpos, if_pos hpos]
  rw [if_neg hpos, if_neg hpos]
  by_cases hneg : (decide (a.constantValue < 0) && decide (b.constantValue < 0)) = true
  · rw [if_pos hneg, if_pos hneg]
  rw [if_neg hneg, if_neg hneg]
  have hsa : a.isConstantByte = true → a.isConstantShort = true := isConstantShort_of_isConstantByte
  have hsb : b.isConstantByte = true → b.isConstantShort = true := isConstantShort_of_isConstantByte
  generalize a.isConstantByte = ba at hsa ⊢
  generalize b.isConstantByte = bb at hsb ⊢
  generalize a.isConstantShort = sa at hsa ⊢
  generalize b.isConstantShort = sb at hsb ⊢
  cases ba <;> cases bb <;> cases sa <;> cases sb <;> simp_all

theorem mergeIntegral_comm (a b : RegType κ) : mergeIntegral a b = mergeIntegral b a := by
  simp only [mergeIntegral, Bool.and_comm b.isBooleanTypes, Bool.and_comm b.isByteTypes,
    Bool.and_comm b.isShortTypes, Bool.and_comm b.isCharTypes]

theorem selectNonConstant_comm (h : a.isConstantTypes = !b.isConstantTypes) :
    selectNonConstant a b = selectNonConstant b a := by
  unfold selectNonConstant
  cases ha : a.isConstantTypes <;> cases hb : b.isConstantTypes <;> simp_all

/-- A float or wide category of `Merge` holds one type that is not a constant, and constants: of
two different types of the category that are not both constants, one is a constant and the other
is not. -/
theorem isConstantTypes_eq_not_of_category {p q : RegType κ → Bool} {x : RegType κ}
    (hp : ∀ t, p t = true → t = x) (hx : x.isConstantTypes = false)
    (hq : ∀ t, q t = true → t.isConstantTypes = true) (ha : (p a || q a) = true)
    (hb : (p b || q b) = true) (hqq : ¬(q a = true ∧ q b = true)) (hne : a ≠ b) :
    a.isConstantTypes = !b.isConstantTypes := by
  rcases Bool.or_eq_true_iff.mp ha with ha | ha <;> rcases Bool.or_eq_true_iff.mp hb with hb | hb
  · exact absurd ((hp a ha).trans (hp b hb).symm) hne
  · rw [hp a ha, hx, hq b hb]
    rfl
  · rw [hq a ha, hp b hb, hx]
    rfl
  · exact absurd ⟨ha, hb⟩ hqq

end RegType

/-! ## The class join -/

section Join

variable {H : ClassHierarchy κ}

theorem depth_iterate_getSuperClass (hw : H.WellFormed) (k : Nat) :
    ∀ c, k ≤ H.depth c → H.depth (H.getSuperClass^[k] c) = H.depth c - k := by
  induction k with
  | zero => intro c _; rfl
  | succ k ih =>
    intro c hk
    have hsuper := hw.depth_getSuperClass c (by omega)
    rw [Function.iterate_succ_apply, ih (H.getSuperClass c) (by omega)]
    omega

variable [DecidableEq κ]

/-- The walk up from two classes of one depth does not depend on their order. -/
theorem commonSuperClass_comm (hw : H.WellFormed) (n : Nat) :
    ∀ s t, H.depth s = n → H.depth t = n → commonSuperClass H n s t = commonSuperClass H n t s := by
  induction n with
  | zero =>
    intro s t hs ht
    rw [hw.eq_of_depth_eq_zero s hs, hw.eq_of_depth_eq_zero t ht]
  | succ n ih =>
    intro s t hs ht
    by_cases hst : s = t
    · rw [hst]
    · have hs' := hw.depth_getSuperClass s (by omega)
      have ht' := hw.depth_getSuperClass t (by omega)
      rw [commonSuperClass, commonSuperClass, if_neg hst, if_neg (Ne.symm hst)]
      exact ih _ _ (by omega) (by omega)

/-- `ClassJoin` does not depend on the order of the classes; the induction is on the dimensions,
as the recursion of `ClassJoin` is. -/
theorem classJoin_comm (hw : H.WellFormed) (s t : κ) : classJoin H s t = classJoin H t s := by
  induction hd : H.dimensions s using Nat.strong_induction_on generalizing s t with
  | _ d ih =>
    rw [classJoin, classJoin]
    by_cases hst : s = t
    · rw [hst]
    rw [if_neg hst, if_neg (Ne.symm hst)]
    by_cases h1 : H.isAssignableFrom s t = true
    · have h2 : H.isAssignableFrom t s = false := by
        by_contra h2
        exact hst (hw.antisymm s t h1 (by simpa using h2))
      simp only [h1, h2, if_true, Bool.false_eq_true, if_false]
    by_cases h2 : H.isAssignableFrom t s = true
    · simp only [h1, h2, if_true, Bool.false_eq_true, if_false]
    simp only [h1, h2, Bool.false_eq_true, if_false]
    by_cases harr : H.isArrayClass s = true ∧ H.isArrayClass t = true
    · rw [dif_pos harr, dif_pos ⟨harr.2, harr.1⟩]
      rw [Bool.or_comm (H.isPrimitive (H.getComponentType t))]
      split_ifs
      · exact hw.getSuperClass_array s t harr.1 harr.2
      · rw [ih _ (hd ▸ H.dimensions_componentType s harr.1) _ _ rfl]
    · rw [dif_neg harr, dif_neg fun h => harr ⟨h.2, h.1⟩]
      rw [Nat.min_comm]
      apply commonSuperClass_comm hw
      · rw [depth_iterate_getSuperClass hw _ _ (by omega)]
        omega
      · rw [depth_iterate_getSuperClass hw _ _ (by omega)]
        omega

end Join

/-! ## Order independence -/

section Comm

variable [DecidableEq κ] {H : ClassHierarchy κ} (cache : RegTypeCache κ) {a b : RegType κ}

theorem mergeClasses_comm (hw : H.WellFormed) (hne : a ≠ b) {k1 k2 : κ}
    (ha : a = reference k1 ∨ a = preciseReference k1) (hb : b = reference k2 ∨ b = preciseReference k2) :
    mergeClasses H cache a b = mergeClasses H cache b a := by
  have hj := classJoin_comm hw k2 k1
  have hboth : k1 = classJoin H k1 k2 → k2 = classJoin H k1 k2 → a.isPreciseReference = false →
      b.isPreciseReference = false → a = b := by
    intro h1 h2 ha' hb'
    rcases ha with rfl | rfl
    · rcases hb with rfl | rfl
      · exact congrArg reference (h1.trans h2.symm)
      · cases hb'
    · cases ha'
  rcases ha with rfl | rfl <;> rcases hb with rfl | rfl <;>
    simp only [mergeClasses, getClass, isPreciseReference, hj, Bool.not_false, Bool.not_true,
      Bool.and_true, Bool.and_false, decide_eq_true_eq, Bool.false_eq_true, if_false]
  all_goals split_ifs with h1 h2 <;> first | rfl | exact absurd (hboth h1 h2 rfl rfl) hne

omit [DecidableEq κ] in
theorem fromUnresolvedMerge_comm (a b : RegType κ) :
    fromUnresolvedMerge cache a b = fromUnresolvedMerge cache b a := by
  rw [fromUnresolvedMerge, fromUnresolvedMerge, Finset.union_comm]

theorem mergeReferences_comm (hw : H.WellFormed) (hne : a ≠ b) (ha : a.isReferenceTypes = true)
    (hb : b.isReferenceTypes = true) :
    mergeReferences H cache a b = mergeReferences H cache b a := by
  unfold mergeReferences
  rw [Bool.or_comm b.isZero, Bool.or_comm (b.isJavaLangObject H), Bool.or_comm b.isUnresolvedTypes,
    Bool.or_comm b.isUninitializedTypes]
  by_cases hz : (a.isZero || b.isZero) = true
  · -- null gives way to the other operand, which is not null
    rw [if_pos hz, if_pos hz]
    apply selectNonConstant_comm
    rcases Bool.or_eq_true_iff.mp hz with hz | hz
    · have hb' : b.isConstantTypes = false := by
        by_contra hc
        exact hne (eq_of_isZero hz (isZero_of_isConstantTypes hb (by simpa using hc)))
      rw [isConstantTypes_of_isZero hz, hb']
      rfl
    · have ha' : a.isConstantTypes = false := by
        by_contra hc
        exact hne (eq_of_isZero (isZero_of_isConstantTypes ha (by simpa using hc)) hz)
      rw [isConstantTypes_of_isZero hz, ha']
      rfl
  rw [if_neg hz, if_neg hz]
  by_cases ho : (a.isJavaLangObject H || b.isJavaLangObject H) = true
  · rw [if_pos ho, if_pos ho]
  rw [if_neg ho, if_neg ho]
  by_cases hu : (a.isUnresolvedTypes || b.isUnresolvedTypes) = true
  · rw [if_pos hu, if_pos hu, fromUnresolvedMerge_comm]
  rw [if_neg hu, if_neg hu]
  by_cases hi : (a.isUninitializedTypes || b.isUninitializedTypes) = true
  · rw [if_pos hi, if_pos hi]
  rw [if_neg hi, if_neg hi]
  simp only [Bool.or_eq_true, not_or, Bool.not_eq_true] at hz hu hi
  obtain ⟨k1, hk1⟩ := exists_class_of_isReferenceTypes ha hz.1 hu.1 hi.1
  obtain ⟨k2, hk2⟩ := exists_class_of_isReferenceTypes hb hz.2 hu.2 hi.2
  exact mergeClasses_comm cache hw hne hk1 hk2

/-- `Merge` does not depend on the order of two different types. -/
theorem merge_comm (hw : H.WellFormed) (hne : a ≠ b) : merge H cache a b = merge H cache b a := by
  unfold merge
  by_cases ha : a.isConflict = true
  · have hb : b.isConflict = false := by
      by_contra hb
      exact hne ((eq_conflict_of_isConflict ha).trans (eq_conflict_of_isConflict (by simpa using hb)).symm)
    rw [if_pos ha, if_neg (by simp [hb]), if_pos ha]
  by_cases hb : b.isConflict = true
  · rw [if_neg ha, if_pos hb, if_pos hb]
  rw [if_neg ha, if_neg hb, if_neg hb, if_neg ha]
  rw [Bool.or_comm b.isUndefined, Bool.and_comm b.isConstant, Bool.and_comm b.isConstantLo,
    Bool.and_comm b.isConstantHi, Bool.and_comm b.isIntegralTypes, Bool.and_comm b.isFloatTypes,
    Bool.and_comm b.isLongTypes, Bool.and_comm b.isLongHighTypes, Bool.and_comm b.isDoubleTypes,
    Bool.and_comm b.isDoubleHighTypes, Bool.and_comm b.isReferenceTypes]
  by_cases h1 : (a.isUndefined || b.isUndefined) = true
  · rw [if_pos h1, if_pos h1]
  rw [if_neg h1, if_neg h1]
  by_cases h2 : (a.isConstant && b.isConstant) = true
  · rw [if_pos h2, if_pos h2]
    rw [Bool.and_eq_true] at h2
    exact mergeConstants_comm h2.1 h2.2
  rw [if_neg h2, if_neg h2]
  by_cases h3 : (a.isConstantLo && b.isConstantLo) = true
  · rw [if_pos h3, if_pos h3, Int32.or_comm]
  rw [if_neg h3, if_neg h3]
  by_cases h4 : (a.isConstantHi && b.isConstantHi) = true
  · rw [if_pos h4, if_pos h4, Int32.or_comm]
  rw [if_neg h4, if_neg h4]
  by_cases h5 : (a.isIntegralTypes && b.isIntegralTypes) = true
  · rw [if_pos h5, if_pos h5, mergeIntegral_comm]
  rw [if_neg h5, if_neg h5]
  simp only [Bool.and_eq_true, not_and] at h2 h3 h4
  by_cases h6 : ((a.isFloatTypes && b.isFloatTypes) || (a.isLongTypes && b.isLongTypes) ||
      (a.isLongHighTypes && b.isLongHighTypes) || (a.isDoubleTypes && b.isDoubleTypes) ||
      (a.isDoubleHighTypes && b.isDoubleHighTypes)) = true
  · -- one operand is the category's type and the other a constant of it
    rw [if_pos h6, if_pos h6]
    apply selectNonConstant_comm
    simp only [Bool.or_eq_true, Bool.and_eq_true] at h6
    rcases h6 with (((⟨ha', hb'⟩ | ⟨ha', hb'⟩) | ⟨ha', hb'⟩) | ⟨ha', hb'⟩) | ⟨ha', hb'⟩
    · exact isConstantTypes_eq_not_of_category (fun _ => isFloat_eq) rfl
        (fun _ => isConstantTypes_of_isConstant) ha' hb' (fun h => h2 h.1 h.2) hne
    · exact isConstantTypes_eq_not_of_category (fun _ => isLongLo_eq) rfl
        (fun _ => isConstantTypes_of_isConstantLo) ha' hb' (fun h => h3 h.1 h.2) hne
    · exact isConstantTypes_eq_not_of_category (fun _ => isLongHi_eq) rfl
        (fun _ => isConstantTypes_of_isConstantHi) ha' hb' (fun h => h4 h.1 h.2) hne
    · exact isConstantTypes_eq_not_of_category (fun _ => isDoubleLo_eq) rfl
        (fun _ => isConstantTypes_of_isConstantLo) ha' hb' (fun h => h3 h.1 h.2) hne
    · exact isConstantTypes_eq_not_of_category (fun _ => isDoubleHi_eq) rfl
        (fun _ => isConstantTypes_of_isConstantHi) ha' hb' (fun h => h4 h.1 h.2) hne
  rw [if_neg h6, if_neg h6]
  by_cases h7 : (a.isReferenceTypes && b.isReferenceTypes) = true
  · rw [if_pos h7, if_pos h7]
    rw [Bool.and_eq_true] at h7
    exact mergeReferences_comm cache hw hne h7.1 h7.2
  rw [if_neg h7, if_neg h7]

end Comm

/-! ## Uninitialized types -/

section Uninitialized

variable [DecidableEq κ] (H : ClassHierarchy κ) (cache : RegTypeCache κ) {a b : RegType κ}

/-- A non-null reference meets another reference only in the reference branch of `Merge`, from
either side. -/
theorem merge_of_isNonZeroReferenceTypes (ha : a.isNonZeroReferenceTypes = true)
    (hb : b.isReferenceTypes = true) :
    merge H cache a b = mergeReferences H cache a b ∧ merge H cache b a = mergeReferences H cache b a := by
  obtain ⟨ha1, ha2, ha3, ha4, ha5, ha6, ha7, ha8, ha9, ha10, ha11, ha12⟩ :=
    guards_of_isNonZeroReferenceTypes ha
  obtain ⟨hb1, hb2⟩ := guards_of_isReferenceTypes hb
  constructor
  · simp only [merge, ha1, hb1, ha2, hb2, ha3, ha4, ha5, ha6, ha7, ha8, ha9, ha10, ha11, ha12, hb,
      Bool.or_false, Bool.false_and, Bool.and_true, Bool.false_eq_true, if_false, if_true]
  · simp only [merge, ha1, hb1, ha2, hb2, ha3, ha4, ha5, ha6, ha7, ha8, ha9, ha10, ha11, ha12, hb,
      Bool.or_false, Bool.and_false, Bool.true_and, Bool.false_eq_true, if_false, if_true]

theorem merge_uninitialized_javaLangObject {u : RegType κ} (hu : u.isUninitializedTypes = true) :
    merge H cache u (javaLangObject H) = javaLangObject H ∧
      merge H cache (javaLangObject H) u = javaLangObject H ∧
      (javaLangObject H).isUninitializedTypes = false := by
  have hobj : (javaLangObject H).isJavaLangObject H = true := by
    simp [javaLangObject, isJavaLangObject]
  have hz := isZero_eq_false_of_isNonZeroReferenceTypes (isNonZeroReferenceTypes_of_isUninitializedTypes hu)
  have hzo : (javaLangObject H).isZero = false := rfl
  obtain ⟨h1, h2⟩ := merge_of_isNonZeroReferenceTypes H cache
    (isNonZeroReferenceTypes_of_isUninitializedTypes hu) (b := javaLangObject H) rfl
  refine ⟨?_, ?_, rfl⟩
  · simp only [h1, mergeReferences, hz, hzo, hobj, Bool.or_false, Bool.or_true, Bool.false_eq_true,
      if_false, if_true]
  · simp only [h2, mergeReferences, hz, hzo, hobj, Bool.or_false, Bool.true_or, Bool.false_eq_true,
      if_false, if_true]

/-- Two classes: `java.lang.Object` (`0`) and a class `1` that extends it. -/
def twoClasses : ClassHierarchy Nat where
  javaLangObject := 0
  getSuperClass := fun _ => 0
  depth := fun c => if c = 0 then 0 else 1
  isAssignableFrom := fun s t => s == 0 || s == t
  isArrayClass := fun _ => false
  getComponentType := id
  isPrimitive := fun _ => false
  findArrayClass := id
  cannotBeAssignedFromOtherTypes := fun _ => false
  dimensions := fun _ => 0
  dimensions_componentType := fun _ h => absurd h (by decide)

/-- `new-instance v0, L1;` at pc 4 on one path and `java.lang.Object` in `v0` on the other: the
join holds an initialized `java.lang.Object`. -/
theorem merge_uninitialized_javaLangObject_new_instance :
    merge twoClasses ⟨fun _ => 0, fun _ => false⟩ (uninitializedReference 1 4) (javaLangObject twoClasses) =
        javaLangObject twoClasses ∧
      merge twoClasses ⟨fun _ => 0, fun _ => false⟩ (javaLangObject twoClasses) (uninitializedReference 1 4) =
        javaLangObject twoClasses ∧
      (javaLangObject twoClasses : RegType Nat).isUninitializedTypes = false :=
  merge_uninitialized_javaLangObject twoClasses ⟨fun _ => 0, fun _ => false⟩ (u := uninitializedReference 1 4) rfl

end Uninitialized

end Verifier

end Art
