import AndroidArt.Dex.InterSection
import AndroidArt.Dex.UtfSpec
import AndroidArt.Dex.LookupSpec

/-!
# What the section passes of the dex file verifier establish

* `checkClassDataMembers_endDataPointer`, `checkInterClassDataMembers_endDataPointer` — the
  `CHECK(!HasNext())` of `EndDataPointer` holds after the loops of `CheckIntraClassDataItem` and of
  `CheckInterClassDataItem`, whatever the header: the loops only stop past the end of their kind
  of member, and `pos_` never wraps inside a loop whose end is a `uint32_t` sum.
* `checkInterSectionIterate_typeIds`, `checkInterSectionIterate_fieldIds`,
  `checkInterSectionIterate_methodIds` — the byte-level walk of `CheckInterSectionIterate` over an
  id section refines the ordering check of `AndroidArt.Dex.Lookup` over the ids it reads: when the
  walk succeeds, the ids at the offsets it visits pass `checkInterItems`.
* `findTypeId_of_checkInterSectionIterate`, `findFieldId_of_checkInterSectionIterate`,
  `findMethodId_of_checkInterSectionIterate` — so the lookups of `DexFile` over the ids of a
  section that the inter-section pass accepts return exactly the index of the id they look for.
-/

set_option autoImplicit false

namespace Art

namespace DexFileVerifier

open DexFile BinarySearch ClassDataIterator

variable {v : DexFileVerifier} {s s' : VerifierState}

/-! ## Runs of the readers -/

section Run

theorem run_readLE {o w a : Nat} (h : ((v.readLE o w).run s).run = (.ok a, s')) :
    a = littleEndian v.bytes o w := by
  unfold readLE noteRead at h
  split at h
  all_goals
    obtain ⟨_, _, -, h⟩ := StateExcept.bind_run_eq_ok.mp h
    exact (StateExcept.pure_run_eq_ok.mp h).1.symm

theorem run_modify {f : VerifierState → VerifierState}
    (h : ((modify f : VerifyM Unit).run s).run = (.ok (), s')) : s' = f s :=
  (Prod.mk.inj h).2.symm

theorem run_liftCheck {c : Except String Unit} (h : ((liftCheck c).run s).run = (.ok (), s')) :
    c = .ok () := by
  cases c with
  | error msg => cases h
  | ok u => rfl

theorem run_fail_bind_ne_ok {α β : Type} {msg : String} {f : α → VerifyM β} {b : β} :
    ((fail msg >>= f).run s).run ≠ (.ok b, s') := by
  rw [run_fail_bind]
  intro h
  cases h

end Run

/-! ## The class data iterator -/

/-- The four sizes of the header of a class data item, which the iterator keeps. -/
def ClassDataIterator.header (it : ClassDataIterator) : Nat × Nat × Nat × Nat :=
  (it.staticFieldsSize, it.instanceFieldsSize, it.directMethodsSize, it.virtualMethodsSize)

namespace ClassDataIterator

variable {it it' : ClassDataIterator}

theorem endOfInstanceFieldsPos_lt : it.endOfInstanceFieldsPos < 2 ^ 32 := Nat.mod_lt _ (by positivity)

theorem endOfDirectMethodsPos_lt : it.endOfDirectMethodsPos < 2 ^ 32 := Nat.mod_lt _ (by positivity)

theorem endOfVirtualMethodsPos_lt : it.endOfVirtualMethodsPos < 2 ^ 32 := Nat.mod_lt _ (by positivity)

/-- Iterators over one header have the same end positions. -/
theorem ends_eq_of_header (h : it'.header = it.header) :
    it'.endOfStaticFieldsPos = it.endOfStaticFieldsPos ∧
      it'.endOfInstanceFieldsPos = it.endOfInstanceFieldsPos ∧
      it'.endOfDirectMethodsPos = it.endOfDirectMethodsPos ∧
      it'.endOfVirtualMethodsPos = it.endOfVirtualMethodsPos := by
  simp only [header, Prod.mk.injEq] at h
  obtain ⟨h₁, h₂, h₃, h₄⟩ := h
  simp only [endOfStaticFieldsPos, endOfInstanceFieldsPos, endOfDirectMethodsPos,
    endOfVirtualMethodsPos, h₁, h₂, h₃, h₄, and_self]

end ClassDataIterator

section ClassData

variable {it it' : ClassDataIterator}

theorem readClassDataField_ok (h : ((v.readClassDataField it).run s).run = (.ok it', s')) :
    it'.header = it.header ∧ it'.pos = it.pos := by
  unfold readClassDataField at h
  obtain ⟨⟨_, _⟩, _, -, h⟩ := StateExcept.bind_run_eq_ok.mp h
  obtain ⟨⟨_, _⟩, _, -, h⟩ := StateExcept.bind_run_eq_ok.mp h
  obtain ⟨rfl, -⟩ := StateExcept.pure_run_eq_ok.mp h
  exact ⟨rfl, rfl⟩

theorem readClassDataMethod_ok (h : ((v.readClassDataMethod it).run s).run = (.ok it', s')) :
    it'.header = it.header ∧ it'.pos = it.pos := by
  unfold readClassDataMethod at h
  obtain ⟨⟨_, _⟩, _, -, h⟩ := StateExcept.bind_run_eq_ok.mp h
  obtain ⟨⟨_, _⟩, _, -, h⟩ := StateExcept.bind_run_eq_ok.mp h
  obtain ⟨⟨_, _⟩, _, -, h⟩ := StateExcept.bind_run_eq_ok.mp h
  obtain ⟨rfl, -⟩ := StateExcept.pure_run_eq_ok.mp h
  exact ⟨rfl, rfl⟩

/-- `Next()` keeps the header and moves `pos_` by one. -/
theorem next_ok (h : ((v.next it).run s).run = (.ok it', s')) :
    it'.header = it.header ∧ it'.pos = (it.pos + 1) % 2 ^ 32 := by
  unfold next at h
  dsimp only at h
  revert h
  -- the static and instance fields
  split
  · exact readClassDataField_ok
  split
  · exact readClassDataField_ok
  split
  · exact readClassDataField_ok
  -- the direct and virtual methods
  split
  · exact readClassDataMethod_ok
  split
  · exact readClassDataMethod_ok
  split
  · exact readClassDataMethod_ok
  split
  · exact readClassDataMethod_ok
  -- past the last member
  intro h
  obtain ⟨rfl, -⟩ := StateExcept.pure_run_eq_ok.mp h
  exact ⟨rfl, rfl⟩

/-- The invariant rule of `classDataLoop`: a property that every round's `Next()` keeps holds
when the loop stops, and so does the negation of its condition. -/
theorem classDataLoop_inv {cond : ClassDataIterator → Bool} {body : ClassDataIterator → VerifyM Unit}
    (Q : ClassDataIterator → Prop)
    (hstep : ∀ j j' s₁ s₂, cond j = true → Q j → ((v.next j).run s₁).run = (.ok j', s₂) → Q j')
    {fuel : Nat} (h0 : Q it) (h : ((v.classDataLoop cond body fuel it).run s).run = (.ok it', s')) :
    Q it' ∧ cond it' = false := by
  induction fuel generalizing it s with
  | zero =>
    unfold classDataLoop at h
    split at h
    · exact absurd h StateExcept.throw_run_ne_ok
    · obtain ⟨rfl, -⟩ := StateExcept.pure_run_eq_ok.mp h
      simp_all
  | succ fuel ih =>
    unfold classDataLoop at h
    split at h
    · rename_i hc
      obtain ⟨_, s₁, -, h⟩ := StateExcept.bind_run_eq_ok.mp h
      obtain ⟨j, s₂, hn, h⟩ := StateExcept.bind_run_eq_ok.mp h
      exact ih (hstep it j s₁ s₂ hc h0 hn) h
    · obtain ⟨rfl, -⟩ := StateExcept.pure_run_eq_ok.mp h
      simp_all

theorem classDataLoop_header {cond : ClassDataIterator → Bool}
    {body : ClassDataIterator → VerifyM Unit} {fuel : Nat}
    (h : ((v.classDataLoop cond body fuel it).run s).run = (.ok it', s')) :
    it'.header = it.header ∧ cond it' = false :=
  classDataLoop_inv (fun j => j.header = it.header)
    (fun _ _ _ _ _ hj hn => (next_ok hn).1.trans hj) rfl h

/-- A loop whose condition keeps `pos_` below `2^32 - 1` only moves `pos_` forward. -/
theorem classDataLoop_advance {cond : ClassDataIterator → Bool}
    {body : ClassDataIterator → VerifyM Unit} (hcond : ∀ j, cond j = true → j.pos + 1 < 2 ^ 32)
    {fuel : Nat} (h : ((v.classDataLoop cond body fuel it).run s).run = (.ok it', s')) :
    (it'.header = it.header ∧ it.pos ≤ it'.pos) ∧ cond it' = false := by
  refine classDataLoop_inv (fun j => j.header = it.header ∧ it.pos ≤ j.pos) ?_ ⟨rfl, le_rfl⟩ h
  intro j j' s₁ s₂ hc hq hn
  obtain ⟨hj, hpos⟩ := hq
  obtain ⟨hh, hp⟩ := next_ok hn
  refine ⟨hh.trans hj, ?_⟩
  rw [hp, Nat.mod_eq_of_lt (hcond j hc)]
  omega

theorem endDataPointer_of_hasNext (h : it.hasNext = false) : endDataPointer it = pure it.ptrPos := by
  simp only [endDataPointer, h, Bool.false_eq_true, if_false]

/-- The four loops of `CheckIntraClassDataItem` stop past the last member: the first past the
static fields, and each of the others, which never wraps `pos_`, past the end of its kind. -/
theorem checkClassDataMembers_hasNext {hd : Header}
    (h : ((v.checkClassDataMembers hd it).run s).run = (.ok it', s')) : it'.hasNext = false := by
  unfold checkClassDataMembers at h
  obtain ⟨it₁, _, h₁, h⟩ := StateExcept.bind_run_eq_ok.mp h
  obtain ⟨it₂, _, h₂, h⟩ := StateExcept.bind_run_eq_ok.mp h
  obtain ⟨it₃, _, h₃, h₄⟩ := StateExcept.bind_run_eq_ok.mp h
  obtain ⟨hh₁, e₁⟩ := classDataLoop_header h₁
  obtain ⟨⟨hh₂, p₂⟩, e₂⟩ := classDataLoop_advance (fun j hc => by
    have := j.endOfInstanceFieldsPos_lt
    simp only [hasNextInstanceField, Bool.and_eq_true, decide_eq_true_eq] at hc
    omega) h₂
  obtain ⟨⟨hh₃, p₃⟩, e₃⟩ := classDataLoop_advance (fun j hc => by
    have := j.endOfDirectMethodsPos_lt
    simp only [hasNextDirectMethod, Bool.and_eq_true, decide_eq_true_eq] at hc
    omega) h₃
  obtain ⟨⟨hh₄, p₄⟩, e₄⟩ := classDataLoop_advance (fun j hc => by
    have := j.endOfVirtualMethodsPos_lt
    simp only [hasNextVirtualMethod, Bool.and_eq_true, decide_eq_true_eq] at hc
    omega) h₄
  -- the end positions of the four iterators are those of `it₁`
  obtain ⟨s₂, i₂, -, -⟩ := ends_eq_of_header hh₂
  obtain ⟨-, i₃, d₃, -⟩ := ends_eq_of_header (hh₃.trans hh₂)
  obtain ⟨-, -, d₄, v₄⟩ := ends_eq_of_header ((hh₄.trans hh₃).trans hh₂)
  simp only [hasNext, hasNextStaticField, hasNextInstanceField, hasNextDirectMethod,
    hasNextVirtualMethod, Bool.and_eq_false_iff, decide_eq_false_iff_not, not_lt] at e₁ e₂ e₃ e₄ ⊢
  omega

/-- The `CHECK(!HasNext())` of `EndDataPointer` holds after the loops of
`CheckIntraClassDataItem`. -/
theorem checkClassDataMembers_endDataPointer {hd : Header}
    (h : ((v.checkClassDataMembers hd it).run s).run = (.ok it', s')) :
    endDataPointer it' = pure it'.ptrPos :=
  endDataPointer_of_hasNext (checkClassDataMembers_hasNext h)

/-- The two loops of `CheckInterClassDataItem` stop past the last member: the first past the
fields, the second, which never wraps `pos_`, past the methods. -/
theorem checkInterClassDataMembers_hasNext {hd : Header} {definingClass : Nat}
    (h : ((v.checkInterClassDataMembers hd definingClass it).run s).run = (.ok it', s')) :
    it'.hasNext = false := by
  unfold checkInterClassDataMembers at h
  obtain ⟨it₁, _, h₁, h₂⟩ := StateExcept.bind_run_eq_ok.mp h
  obtain ⟨-, e₁⟩ := classDataLoop_header h₁
  obtain ⟨⟨hh₂, p₂⟩, e₂⟩ := classDataLoop_advance (fun j hc => by
    have := j.endOfDirectMethodsPos_lt
    have := j.endOfVirtualMethodsPos_lt
    simp only [hasNextDirectMethod, hasNextVirtualMethod, Bool.or_eq_true, Bool.and_eq_true,
      decide_eq_true_eq] at hc
    omega) h₂
  obtain ⟨-, i₂, d₂, v₂⟩ := ends_eq_of_header hh₂
  simp only [hasNext, hasNextStaticField, hasNextInstanceField, hasNextDirectMethod,
    hasNextVirtualMethod, Bool.or_eq_false_iff, Bool.and_eq_false_iff, decide_eq_false_iff_not,
    not_lt] at e₁ e₂ ⊢
  omega

/-- The `CHECK(!HasNext())` of `EndDataPointer` holds after the loops of
`CheckInterClassDataItem`. -/
theorem checkInterClassDataMembers_endDataPointer {hd : Header} {definingClass : Nat}
    (h : ((v.checkInterClassDataMembers hd definingClass it).run s).run = (.ok it', s')) :
    endDataPointer it' = pure it'.ptrPos :=
  endDataPointer_of_hasNext (checkInterClassDataMembers_hasNext h)

end ClassData

/-! ## The id sections against the id tables -/

/-- The offsets of the `n` items of `size` bytes that `CheckInterSectionIterate` visits from
`off`: the first at `off` rounded up to four bytes, the others after it. -/
def sectionItems (off size n : Nat) : List Nat :=
  (List.range n).map fun i => (off + 3) / 4 * 4 + size * i

/-- The `TypeId` at `o`. -/
def typeIdAt (v : DexFileVerifier) (o : Nat) : TypeId := ⟨littleEndian v.bytes o 4⟩

/-- The `FieldId` at `o`. -/
def fieldIdAt (v : DexFileVerifier) (o : Nat) : FieldId :=
  ⟨littleEndian v.bytes o 2, littleEndian v.bytes (o + 2) 2, littleEndian v.bytes (o + 4) 4⟩

/-- The `MethodId` at `o`. -/
def methodIdAt (v : DexFileVerifier) (o : Nat) : MethodId :=
  ⟨littleEndian v.bytes o 2, littleEndian v.bytes (o + 2) 2, littleEndian v.bytes (o + 4) 4⟩

section Ids

variable {hd : Header}

/-- The walk of `CheckInterSectionIterate` over a section of items of `itemSize` bytes, each check
of which moves `ptr_` past its item and relates the previous item to it by `R`: the items it
visits, after the previous one, form a chain of `R`. -/
theorem checkInterSectionItems_chain {type itemSize : Nat} (R : Nat → Nat → Prop)
    (hitem : ∀ prev dc dc' s s', ((v.checkInterItem hd type prev dc).run s).run = (.ok dc', s') →
      s'.ptr = s.ptr + itemSize ∧ ∀ p, prev = some p → R p s.ptr)
    (hsize : itemSize % 4 = 0) :
    ∀ {n off : Nat} {prev : Option Nat} {dc dc' : List Nat} {s s' : VerifierState},
      ((v.checkInterSectionItems hd type 3 n off prev dc).run s).run = (.ok dc', s') →
      List.IsChain R (prev.toList ++ sectionItems off itemSize n) := by
  intro n
  induction n with
  | zero =>
    intro off prev _ _ _ _ _
    cases prev <;> simp [sectionItems]
  | succ n ih =>
    intro off prev dc dc' s s' h
    unfold checkInterSectionItems at h
    obtain ⟨_, s₁, h₁, h⟩ := StateExcept.bind_run_eq_ok.mp h
    obtain ⟨_, s₂, h₂, h⟩ := StateExcept.bind_run_eq_ok.mp h
    rw [run_get_bind] at h
    have hs₁ : s₁.ptr = (off + 3) / 4 * 4 := by rw [run_modify h₁]
    obtain ⟨hptr, hR⟩ := hitem prev dc _ s₁ s₂ h₂
    rw [hs₁] at hptr hR
    have hrest := ih h
    -- the next item starts right after this one, already aligned
    have hnext : (s₂.ptr + 3) / 4 * 4 = (off + 3) / 4 * 4 + itemSize := by omega
    have hitems : sectionItems off itemSize (n + 1) =
        (off + 3) / 4 * 4 :: sectionItems s₂.ptr itemSize n := by
      rw [sectionItems, sectionItems, List.range_succ_eq_map, List.map_cons, List.map_map,
        Nat.mul_zero, Nat.add_zero, hnext]
      congr 1
      apply List.map_congr_left
      intro i _
      simp only [Function.comp_apply, Nat.mul_succ]
      omega
    rw [hitems]
    cases prev with
    | none => simpa using hrest
    | some p => simpa using List.IsChain.cons_cons (hR p rfl) (by simpa using hrest)

theorem checkInterTypeIdItem_ok {prev : Option Nat}
    (h : ((v.checkInterTypeIdItem hd prev).run s).run = (.ok (), s')) :
    s'.ptr = s.ptr + 4 ∧
      ∀ p, prev = some p → checkInterTypeIdOrder (v.typeIdAt p) (v.typeIdAt s.ptr) = .ok () := by
  unfold checkInterTypeIdItem at h
  rw [run_get_bind] at h
  obtain ⟨_, _, -, h⟩ := StateExcept.bind_run_eq_ok.mp h
  obtain ⟨_, _, -, h⟩ := StateExcept.bind_run_eq_ok.mp h
  dsimp only at h
  split at h
  · exact absurd h run_fail_bind_ne_ok
  cases prev with
  | none => exact ⟨by rw [run_modify h], fun _ hp => (Option.some_ne_none _ hp.symm).elim⟩
  | some p =>
    obtain ⟨a, _, ha, h⟩ := StateExcept.bind_run_eq_ok.mp h
    obtain ⟨b, _, hb, h⟩ := StateExcept.bind_run_eq_ok.mp h
    obtain ⟨_, _, hc, h⟩ := StateExcept.bind_run_eq_ok.mp h
    rw [run_readLE ha, run_readLE hb] at hc
    exact ⟨by rw [run_modify h], fun _ hp => Option.some.inj hp ▸ run_liftCheck hc⟩

theorem run_readFieldId {o : Nat} {a : FieldId} (h : ((v.readFieldId o).run s).run = (.ok a, s')) :
    a = v.fieldIdAt o := by
  unfold readFieldId at h
  obtain ⟨_, _, h₁, h⟩ := StateExcept.bind_run_eq_ok.mp h
  obtain ⟨_, _, h₂, h⟩ := StateExcept.bind_run_eq_ok.mp h
  obtain ⟨_, _, h₃, h⟩ := StateExcept.bind_run_eq_ok.mp h
  rw [run_readLE h₁, run_readLE h₂, run_readLE h₃] at h
  exact (StateExcept.pure_run_eq_ok.mp h).1.symm

theorem run_readMethodId {o : Nat} {a : MethodId} (h : ((v.readMethodId o).run s).run = (.ok a, s')) :
    a = v.methodIdAt o := by
  unfold readMethodId at h
  obtain ⟨_, _, h₁, h⟩ := StateExcept.bind_run_eq_ok.mp h
  obtain ⟨_, _, h₂, h⟩ := StateExcept.bind_run_eq_ok.mp h
  obtain ⟨_, _, h₃, h⟩ := StateExcept.bind_run_eq_ok.mp h
  rw [run_readLE h₁, run_readLE h₂, run_readLE h₃] at h
  exact (StateExcept.pure_run_eq_ok.mp h).1.symm

theorem checkInterFieldIdItem_ok {prev : Option Nat}
    (h : ((v.checkInterFieldIdItem hd prev).run s).run = (.ok (), s')) :
    s'.ptr = s.ptr + 8 ∧
      ∀ p, prev = some p → checkInterFieldIdOrder (v.fieldIdAt p) (v.fieldIdAt s.ptr) = .ok () := by
  unfold checkInterFieldIdItem at h
  rw [run_get_bind] at h
  dsimp only at h
  -- the class and type descriptors
  obtain ⟨_, _, -, h⟩ := StateExcept.bind_run_eq_ok.mp h
  obtain ⟨_, _, -, h⟩ := StateExcept.bind_run_eq_ok.mp h
  obtain ⟨_, _, -, h⟩ := StateExcept.bind_run_eq_ok.mp h
  obtain ⟨_, _, -, h⟩ := StateExcept.bind_run_eq_ok.mp h
  obtain ⟨_, _, -, h⟩ := StateExcept.bind_run_eq_ok.mp h
  split at h
  · exact absurd h run_fail_bind_ne_ok
  -- the name
  obtain ⟨_, _, -, h⟩ := StateExcept.bind_run_eq_ok.mp h
  obtain ⟨_, _, -, h⟩ := StateExcept.bind_run_eq_ok.mp h
  split at h
  · exact absurd h run_fail_bind_ne_ok
  cases prev with
  | none => exact ⟨by rw [run_modify h], fun _ hp => (Option.some_ne_none _ hp.symm).elim⟩
  | some p =>
    obtain ⟨a, _, ha, h⟩ := StateExcept.bind_run_eq_ok.mp h
    obtain ⟨b, _, hb, h⟩ := StateExcept.bind_run_eq_ok.mp h
    obtain ⟨_, _, hc, h⟩ := StateExcept.bind_run_eq_ok.mp h
    rw [run_readFieldId ha, run_readFieldId hb] at hc
    exact ⟨by rw [run_modify h], fun _ hp => Option.some.inj hp ▸ run_liftCheck hc⟩

theorem checkInterMethodIdItem_ok {prev : Option Nat}
    (h : ((v.checkInterMethodIdItem hd prev).run s).run = (.ok (), s')) :
    s'.ptr = s.ptr + 8 ∧
      ∀ p, prev = some p → checkInterMethodIdOrder (v.methodIdAt p) (v.methodIdAt s.ptr) = .ok () := by
  unfold checkInterMethodIdItem at h
  rw [run_get_bind] at h
  dsimp only at h
  -- the class descriptor and the name
  obtain ⟨_, _, -, h⟩ := StateExcept.bind_run_eq_ok.mp h
  obtain ⟨_, _, -, h⟩ := StateExcept.bind_run_eq_ok.mp h
  obtain ⟨_, _, -, h⟩ := StateExcept.bind_run_eq_ok.mp h
  obtain ⟨_, _, -, h⟩ := StateExcept.bind_run_eq_ok.mp h
  obtain ⟨_, _, -, h⟩ := StateExcept.bind_run_eq_ok.mp h
  split at h
  · exact absurd h run_fail_bind_ne_ok
  -- the proto index
  obtain ⟨_, _, -, h⟩ := StateExcept.bind_run_eq_ok.mp h
  obtain ⟨_, _, -, h⟩ := StateExcept.bind_run_eq_ok.mp h
  cases prev with
  | none => exact ⟨by rw [run_modify h], fun _ hp => (Option.some_ne_none _ hp.symm).elim⟩
  | some p =>
    obtain ⟨a, _, ha, h⟩ := StateExcept.bind_run_eq_ok.mp h
    obtain ⟨b, _, hb, h⟩ := StateExcept.bind_run_eq_ok.mp h
    obtain ⟨_, _, hc, h⟩ := StateExcept.bind_run_eq_ok.mp h
    rw [run_readMethodId ha, run_readMethodId hb] at hc
    exact ⟨by rw [run_modify h], fun _ hp => Option.some.inj hp ▸ run_liftCheck hc⟩

/-! ### The dispatch of `CheckInterSectionIterate` to the id items -/

/-- The check of an item of a section other than the class defs keeps `defined_classes_`. -/
theorem run_bind_pure_ok {x : VerifyM Unit} {dc dc' : List Nat}
    (h : ((x >>= fun _ => pure dc).run s).run = (.ok dc', s')) : (x.run s).run = (.ok (), s') := by
  obtain ⟨_, _, hx, h⟩ := StateExcept.bind_run_eq_ok.mp h
  obtain ⟨-, rfl⟩ := StateExcept.pure_run_eq_ok.mp h
  exact hx

theorem checkInterItem_typeId {prev : Option Nat} {dc dc' : List Nat}
    (h : ((v.checkInterItem hd kDexTypeTypeIdItem prev dc).run s).run = (.ok dc', s')) :
    ((v.checkInterTypeIdItem hd prev).run s).run = (.ok (), s') := by
  unfold checkInterItem at h
  rw [if_neg (by decide)] at h
  dsimp only at h
  rw [if_neg (by decide), if_pos rfl] at h
  exact run_bind_pure_ok h

theorem checkInterItem_fieldId {prev : Option Nat} {dc dc' : List Nat}
    (h : ((v.checkInterItem hd kDexTypeFieldIdItem prev dc).run s).run = (.ok dc', s')) :
    ((v.checkInterFieldIdItem hd prev).run s).run = (.ok (), s') := by
  unfold checkInterItem at h
  rw [if_neg (by decide)] at h
  dsimp only at h
  rw [if_neg (by decide), if_neg (by decide), if_neg (by decide), if_pos rfl] at h
  exact run_bind_pure_ok h

theorem checkInterItem_methodId {prev : Option Nat} {dc dc' : List Nat}
    (h : ((v.checkInterItem hd kDexTypeMethodIdItem prev dc).run s).run = (.ok dc', s')) :
    ((v.checkInterMethodIdItem hd prev).run s).run = (.ok (), s') := by
  unfold checkInterItem at h
  rw [if_neg (by decide)] at h
  dsimp only at h
  rw [if_neg (by decide), if_neg (by decide), if_neg (by decide), if_neg (by decide),
    if_pos rfl] at h
  exact run_bind_pure_ok h

/-- The id sections walk their items four bytes aligned. -/
theorem checkInterSectionIterate_eq {off n type : Nat} {dc : List Nat}
    (htype : type ≠ kDexTypeClassDataItem) :
    v.checkInterSectionIterate hd off n type dc = v.checkInterSectionItems hd type 3 n off none dc := by
  simp only [checkInterSectionIterate, htype, if_false]

/-! ### The id sections refine the ordering checks -/

/-- An accepted type-id section is in the order of `CheckInterTypeIdItem`. -/
theorem checkInterSectionIterate_typeIds {off n : Nat} {dc dc' : List Nat}
    (h : ((v.checkInterSectionIterate hd off n kDexTypeTypeIdItem dc).run s).run = (.ok dc', s')) :
    checkInterItems checkInterTypeIdOrder ((sectionItems off 4 n).map v.typeIdAt) = .ok () := by
  rw [checkInterSectionIterate_eq (by decide)] at h
  have hc := checkInterSectionItems_chain
    (fun p q => checkInterTypeIdOrder (v.typeIdAt p) (v.typeIdAt q) = .ok ())
    (fun _ _ _ _ _ hi => checkInterTypeIdItem_ok (checkInterItem_typeId hi)) (by norm_num) h
  rw [checkInterItems_eq_ok, List.isChain_map]
  simpa using hc

/-- An accepted field-id section is in the order of `CheckInterFieldIdItem`. -/
theorem checkInterSectionIterate_fieldIds {off n : Nat} {dc dc' : List Nat}
    (h : ((v.checkInterSectionIterate hd off n kDexTypeFieldIdItem dc).run s).run = (.ok dc', s')) :
    checkInterItems checkInterFieldIdOrder ((sectionItems off 8 n).map v.fieldIdAt) = .ok () := by
  rw [checkInterSectionIterate_eq (by decide)] at h
  have hc := checkInterSectionItems_chain
    (fun p q => checkInterFieldIdOrder (v.fieldIdAt p) (v.fieldIdAt q) = .ok ())
    (fun _ _ _ _ _ hi => checkInterFieldIdItem_ok (checkInterItem_fieldId hi)) (by norm_num) h
  rw [checkInterItems_eq_ok, List.isChain_map]
  simpa using hc

/-- An accepted method-id section is in the order of `CheckInterMethodIdItem`. -/
theorem checkInterSectionIterate_methodIds {off n : Nat} {dc dc' : List Nat}
    (h : ((v.checkInterSectionIterate hd off n kDexTypeMethodIdItem dc).run s).run = (.ok dc', s')) :
    checkInterItems checkInterMethodIdOrder ((sectionItems off 8 n).map v.methodIdAt) = .ok () := by
  rw [checkInterSectionIterate_eq (by decide)] at h
  have hc := checkInterSectionItems_chain
    (fun p q => checkInterMethodIdOrder (v.methodIdAt p) (v.methodIdAt q) = .ok ())
    (fun _ _ _ _ _ hi => checkInterMethodIdItem_ok (checkInterItem_methodId hi)) (by norm_num) h
  rw [checkInterItems_eq_ok, List.isChain_map]
  simpa using hc

/-! ### The lookups over accepted sections -/

/-- `FindTypeId` over the type ids of a section that the inter-section pass accepts returns
exactly the index of the type id with the given descriptor. -/
theorem findTypeId_of_checkInterSectionIterate {off n : Nat} {dc dc' : List Nat}
    (h : ((v.checkInterSectionIterate hd off n kDexTypeTypeIdItem dc).run s).run = (.ok dc', s'))
    {d : Ids} (hids : d.typeIds = (sectionItems off 4 n).map v.typeIdAt) {stringIdx m : Nat} :
    d.findTypeId stringIdx = some m ↔
      ∃ hm : m < d.typeIds.length, d.typeIds[m].descriptorIdx = stringIdx :=
  findTypeId_eq_some_iff_of_typeIds (hids ▸ checkInterSectionIterate_typeIds h)

/-- `FindFieldId` over the field ids of a section that the inter-section pass accepts returns
exactly the index of the field id with the given class, name and type. -/
theorem findFieldId_of_checkInterSectionIterate {off n : Nat} {dc dc' : List Nat}
    (h : ((v.checkInterSectionIterate hd off n kDexTypeFieldIdItem dc).run s).run = (.ok dc', s'))
    {d : Ids} (hids : d.fieldIds = (sectionItems off 8 n).map v.fieldIdAt)
    {classIdx nameIdx typeIdx m : Nat} :
    d.findFieldId classIdx nameIdx typeIdx = some m ↔
      ∃ hm : m < d.fieldIds.length, d.fieldIds[m] = ⟨classIdx, typeIdx, nameIdx⟩ :=
  findFieldId_eq_some_iff_of_fieldIds (hids ▸ checkInterSectionIterate_fieldIds h)

/-- `FindMethodId` over the method ids of a section that the inter-section pass accepts returns
exactly the index of the method id with the given class, name and proto. -/
theorem findMethodId_of_checkInterSectionIterate {off n : Nat} {dc dc' : List Nat}
    (h : ((v.checkInterSectionIterate hd off n kDexTypeMethodIdItem dc).run s).run = (.ok dc', s'))
    {d : Ids} (hids : d.methodIds = (sectionItems off 8 n).map v.methodIdAt)
    {classIdx nameIdx protoIdx m : Nat} :
    d.findMethodId classIdx nameIdx protoIdx = some m ↔
      ∃ hm : m < d.methodIds.length, d.methodIds[m] = ⟨classIdx, protoIdx, nameIdx⟩ :=
  findMethodId_eq_some_iff_of_methodIds (hids ▸ checkInterSectionIterate_methodIds h)

end Ids

end DexFileVerifier

end Art
