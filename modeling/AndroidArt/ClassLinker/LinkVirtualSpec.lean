import AndroidArt.ClassLinker.LinkVirtual
import Mathlib.Data.List.GetD

/-!
# What virtual-method linking guarantees, and where it departs from overriding

`linkVirtualMethods_slot_sound`: in a vtable that `LinkVirtualMethods` builds, each super slot
keeps its method or holds an own method of the same name and signature that the class may access
and that does not override a final method.  The proof follows the two loops: the override loop
writes only the slot it examines, with the method `FindAndRemove` returned
(`LinkVirtualHashTable.findAndRemove_some`), and the append loop only appends.

The converse fails.  `FindAndRemove` takes an own method out of the table as soon as its name and
signature match, before `CanAccessMember` has accepted the super method; the comment of the
source says the table is updated only "if they overwrite".  When a super vtable holds a
package-private method of another package and, at a later slot, a public method of the same name
and signature, the own method is consumed by the first and never overrides the second:
`linkVirtualMethods_skips_accessible_slot`.
-/

set_option autoImplicit false

namespace Art

namespace ClassLinker

open LinearProbe

variable {env : ClassEnv} {klass : LinkingClass}

/-! ## The two loops -/

/-- `FindAndRemove` returns only an own method with the comparator's name and signature. -/
theorem LinkVirtualHashTable.findAndRemove_some {t t' : LinkVirtualHashTable} {sm : ArtMethod}
    {i : Nat} (h : t.findAndRemove klass sm = some (some i, t')) :
    hasSameNameAndSignature sm (klass.virtualMethods.getD i default) = true := by
  unfold LinkVirtualHashTable.findAndRemove at h
  obtain ⟨⟨r, slots⟩, hr, he⟩ := Option.map_eq_some_iff.mp h
  simp only [Prod.mk.injEq] at he
  obtain ⟨rfl, -⟩ := he
  exact (LinearProbe.findAndRemove_some _ _ _ _ hr).1

/-- What a super slot may hold after linking: its own super method, or an own method of the
same name and signature that `klass` may access, the super method not being final. -/
def SlotSound (env : ClassEnv) (klass : LinkingClass) (superMethod : ArtMethod) :
    VTableEntry → Prop
  | .inherited m => m = superMethod
  | .own i =>
    hasSameNameAndSignature superMethod (klass.virtualMethods.getD i default) = true ∧
    canAccessMember env klass.id superMethod.declaringClass superMethod.accessFlags = true ∧
    superMethod.isFinal = false
  | .null => False

/-- **The override loop writes only the slot it examines, with a sound entry.**  The loop runs
over the suffix `ms` of the super vtable `superVTable` that starts at slot `j`. -/
theorem overrideSuperMethods_sound (superVTable : List ArtMethod) :
    ∀ (ms : List ArtMethod) (j : Nat) (table : LinkVirtualHashTable) (vtable : List VTableEntry)
      (methodIndex : Nat → Nat) (l : Linked),
      overrideSuperMethods env klass ms j table vtable methodIndex = some (.ok l) →
      j + ms.length = superVTable.length → ms = superVTable.drop j →
      vtable.length = superVTable.length →
      (∀ k < superVTable.length, SlotSound env klass (superVTable.getD k default) (vtable.getD k .null)) →
      l.vtable.length = superVTable.length ∧
      ∀ k < superVTable.length, SlotSound env klass (superVTable.getD k default) (l.vtable.getD k .null) := by
  intro ms
  induction ms with
  | nil =>
    intro j table vtable methodIndex l h _ _ hlen hsound
    simp only [overrideSuperMethods, Option.some.injEq, Except.ok.injEq] at h
    subst h
    exact ⟨hlen, hsound⟩
  | cons sm rest ih =>
    intro j table vtable methodIndex l h hj hdrop hlen hsound
    have hsm : superVTable.getD j default = sm := by
      have : superVTable.drop j = sm :: rest := hdrop.symm
      rw [List.getD_eq_getElem?_getD, ← List.head?_drop, this]
      rfl
    have hrest : rest = superVTable.drop (j + 1) := by
      rw [← List.drop_drop, ← hdrop]
      rfl
    have hj' : j + 1 + rest.length = superVTable.length := by
      simp only [List.length_cons] at hj
      omega
    simp only [overrideSuperMethods] at h
    split at h
    · cases h
    · exact ih _ _ _ _ _ h hj' hrest hlen hsound
    · rename_i i table' hfind
      split at h
      · rename_i hacc
        split at h
        · cases h
        · rename_i hfin
          refine ih _ _ _ _ _ h hj' hrest (by simp [hlen]) fun k hk => ?_
          by_cases hkj : k = j
          · subst hkj
            have hset : (vtable.set k (.own i)).getD k .null = .own i := by
              simp [List.getD_eq_getElem?_getD, hlen, hk]
            rw [hset, hsm]
            exact ⟨LinkVirtualHashTable.findAndRemove_some hfind, hacc, by simpa using hfin⟩
          · have hset : (vtable.set j (.own i)).getD k .null = vtable.getD k .null := by
              simp [List.getD_eq_getElem?_getD, List.getElem?_set_ne (Ne.symm hkj)]
            rw [hset]
            exact hsound k hk
      · exact ih _ _ _ _ _ h hj' hrest hlen hsound

/-- **The append loop keeps the vtable it starts from as a prefix.** -/
theorem addNonOverridden_prefix (superVTableLength : Nat) :
    ∀ (n i : Nat) (l : Linked),
      ∃ extra, (addNonOverridden superVTableLength n i l).vtable = l.vtable ++ extra := by
  intro n
  induction n with
  | zero => intro i l; exact ⟨[], by simp [addNonOverridden]⟩
  | succ n ih =>
    intro i l
    simp only [addNonOverridden]
    split
    · exact ih (i + 1) l
    · obtain ⟨extra, he⟩ := ih (i + 1) ⟨l.vtable ++ [.own i], Function.update l.methodIndex i
        (l.vtable.length % 2 ^ 16)⟩
      exact ⟨.own i :: extra, by rw [he]; simp⟩

/-! ## Soundness of the super slots -/

/-- **Every super slot of a linked vtable keeps its method, or is overridden by an own method of
the same name and signature that the class may access and that overrides no final method.** -/
theorem linkVirtualMethods_slot_sound {superVTable : List ArtMethod} {l : Linked}
    (hs : klass.superVTable = some superVTable) (h : linkVirtualMethods env klass = some (.ok l)) :
    ∀ k < superVTable.length,
      SlotSound env klass (superVTable.getD k default) (l.vtable.getD k .null) := by
  have hinit : ∀ k < superVTable.length, SlotSound env klass (superVTable.getD k default)
      ((superVTable.map VTableEntry.inherited).getD k .null) := by
    intro k hk
    simp [List.getD_eq_getElem?_getD, hk, SlotSound]
  unfold linkVirtualMethods at h
  rw [hs] at h
  simp only at h
  split at h
  · simp only [Option.some.injEq, Except.ok.injEq] at h
    subst h
    exact hinit
  split at h
  · cases h
  rename_i table _
  split at h
  · cases h
  · cases h
  rename_i l₀ hover
  obtain ⟨hlen, hsound⟩ := overrideSuperMethods_sound superVTable superVTable 0 table _ _ l₀ hover
    (by simp) (by simp) (by simp) hinit
  obtain ⟨extra, hextra⟩ := addNonOverridden_prefix superVTable.length klass.virtualMethods.length 0 l₀
  split at h
  · cases h
  simp only [Option.some.injEq, Except.ok.injEq] at h
  subst h
  intro k hk
  rw [hextra, List.getD_append _ _ _ _ (by omega)]
  exact hsound k hk

/-! ## A public method hidden behind a package-private one

Class `A` of package `p1` declares a package-private `m()V`; class `B` of package `p2` extends it
and declares a public `m()V`, which cannot override `A.m` and takes a new slot; class `C` of `p2`
extends `B` and declares `m()V` again.  Java overriding gives `C.m` the slot of `B.m`. -/

/-- The classes `java.lang.Object` (0), `p1.A` (1), `p2.B` (2) and `p2.C` (3), all but the first
of one class loader. -/
def packagesEnv : ClassEnv := fun c =>
  match c with
  | 1 => ⟨"Lp1/A;", 1, [0], false⟩
  | 2 => ⟨"Lp2/B;", 1, [1, 0], false⟩
  | 3 => ⟨"Lp2/C;", 1, [2, 1, 0], false⟩
  | _ => ⟨"Ljava/lang/Object;", 0, [], false⟩

/-- `A.m`, package-private. -/
def packagePrivateM : ArtMethod := ⟨[0x6d], "()V", 1, 0⟩

/-- `B.m`, public. -/
def publicM : ArtMethod := ⟨[0x6d], "()V", 2, kAccPublic⟩

/-- `C`, declaring a public `m()V`, over the vtable `[A.m, B.m]` of `B`. -/
def overridingClass : LinkingClass :=
  ⟨3, [⟨[0x6d], "()V", 3, kAccPublic⟩], fun _ => 0, some [packagePrivateM, publicM]⟩

theorem linkVirtualMethods_skips_accessible_slot :
    hasSameNameAndSignature publicM (overridingClass.virtualMethods.getD 0 default) = true ∧
    canAccessMember packagesEnv overridingClass.id publicM.declaringClass publicM.accessFlags = true ∧
    (linkVirtualMethods packagesEnv overridingClass).map
        (fun r => r.map fun l => (l.vtable, l.methodIndex 0)) =
      some (.ok ([.inherited packagePrivateM, .inherited publicM, .own 0], 2)) := by
  refine ⟨by decide, by decide, by decide⟩

end ClassLinker

end Art
