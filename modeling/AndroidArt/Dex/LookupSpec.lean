import AndroidArt.Dex.Lookup
import AndroidArt.Lib.StateExcept
import Mathlib.Data.Prod.Lex
import Mathlib.Data.List.GetD
import Mathlib.Data.List.Chain

/-!
# What the dex id lookups find in a verified file

* `findTypeId_eq_some_iff`, `findFieldId_eq_some_iff`, `findMethodId_eq_some_iff` — over id
  sections that pass the verifier's ordering checks, these lookups return exactly the index of the
  entry they look for.
* `findStringIdUtf16_eq_none` — `FindStringId(const uint16_t*)` finds no string but the empty one:
  its comparison never advances in the UTF-16 string, so it never compares equal to a string that
  is not empty.
* `find_misses_verified_ids` — a verified table in which both the UTF-16 string lookup and
  `FindProtoId` miss an entry that is there.  The verifier orders two protos with one return type
  by their first differing parameter only, so it accepts a proto after a longer one that extends
  it, while `FindProtoId` orders a shorter parameter list first.
-/

set_option autoImplicit false

namespace Art

namespace DexFile

open BinarySearch

/-! ## The verifier's walk over a section -/

theorem checkInterItems_eq_ok {α : Type} {check : α → α → Except String Unit} :
    ∀ {l : List α}, checkInterItems check l = .ok () ↔ l.IsChain (fun a b => check a b = .ok ())
  | [] => by simp [checkInterItems]
  | [a] => by simp [checkInterItems]
  | a :: b :: rest => by
    rw [checkInterItems, StateExcept.bind_eq_ok, List.isChain_cons_cons, ← checkInterItems_eq_ok]
    simp [Unique.exists_iff]

theorem Ids.checkOrder_eq_ok {d : Ids} :
    d.checkOrder = .ok () ↔ checkInterItems checkInterStringIdOrder d.stringData = .ok () ∧
      checkInterItems checkInterTypeIdOrder d.typeIds = .ok () ∧
      checkInterItems checkInterProtoIdOrder d.protoIds = .ok () ∧
      checkInterItems checkInterFieldIdOrder d.fieldIds = .ok () ∧
      checkInterItems checkInterMethodIdOrder d.methodIds = .ok () := by
  simp only [Ids.checkOrder, StateExcept.bind_eq_ok, Unique.exists_iff]

/-- A section the verifier accepts increases, item after item, in any key that its ordering
check compares. -/
theorem lt_succ_of_checkInterItems {α β : Type} [LinearOrder β] {check : α → α → Except String Unit}
    (key : α → β) (hcheck : ∀ a b, check a b = .ok () → key a < key b) {l : List α}
    (h : checkInterItems check l = .ok ()) (default : α) :
    ∀ i, i + 1 < l.length → key (l.getD i default) < key (l.getD (i + 1) default) := by
  intro i hi
  rw [List.getD_eq_getElem _ _ (by omega), List.getD_eq_getElem _ _ hi]
  exact hcheck _ _ ((checkInterItems_eq_ok.mp h).getElem i hi)

/-- A search by a key over a section the verifier accepts returns exactly the index of the
item with that key. -/
theorem search_checkInterItems {α β : Type} [LinearOrder β] {check : α → α → Except String Unit}
    (key : α → β) (hcheck : ∀ a b, check a b = .ok () → key a < key b) {l : List α}
    (h : checkInterItems check l = .ok ()) (default : α) {k : β} {m : Nat} :
    search (fun i => threeWay k (key (l.getD i default))) l.length = some m ↔
      ∃ hm : m < l.length, key l[m] = k := by
  rw [search_eq_some_iff (lt_succ_of_checkInterItems key hcheck h default)]
  constructor
  · rintro ⟨hm, hkey⟩
    rw [List.getD_eq_getElem _ _ hm] at hkey
    exact ⟨hm, hkey⟩
  · rintro ⟨hm, hkey⟩
    rw [← List.getD_eq_getElem _ default hm] at hkey
    exact ⟨hm, hkey⟩

/-! ## Type ids -/

theorem checkInterTypeIdOrder_eq_ok {prevItem item : TypeId} :
    checkInterTypeIdOrder prevItem item = .ok () ↔ prevItem.descriptorIdx < item.descriptorIdx := by
  unfold checkInterTypeIdOrder
  split_ifs with h
  · simp only [false_iff]
    omega
  · simp only [true_iff]
    omega

/-- `FindTypeId` over type ids in the verifier's order returns exactly the index of the type id
with the given descriptor. -/
theorem findTypeId_eq_some_iff_of_typeIds {d : Ids}
    (hv : checkInterItems checkInterTypeIdOrder d.typeIds = .ok ()) {stringIdx m : Nat} :
    d.findTypeId stringIdx = some m ↔
      ∃ hm : m < d.typeIds.length, d.typeIds[m].descriptorIdx = stringIdx :=
  search_checkInterItems TypeId.descriptorIdx (fun _ _ => checkInterTypeIdOrder_eq_ok.mp) hv ⟨0⟩

/-- `FindTypeId` on verified type ids returns exactly the index of the type id with the given
descriptor. -/
theorem findTypeId_eq_some_iff {d : Ids} (hv : d.checkOrder = .ok ()) {stringIdx m : Nat} :
    d.findTypeId stringIdx = some m ↔
      ∃ hm : m < d.typeIds.length, d.typeIds[m].descriptorIdx = stringIdx :=
  findTypeId_eq_some_iff_of_typeIds (Ids.checkOrder_eq_ok.mp hv).2.1

/-! ## Field and method ids -/

/-- An index triple in the lexicographic order of `FindFieldId` and `FindMethodId`. -/
def tripleKey (classIdx nameIdx thirdIdx : Nat) : Lex (Nat × Lex (Nat × Nat)) :=
  toLex (classIdx, toLex (nameIdx, thirdIdx))

theorem tripleKey_inj {a b c a' b' c' : Nat} :
    tripleKey a b c = tripleKey a' b' c' ↔ a = a' ∧ b = b' ∧ c = c' := by
  simp [tripleKey]

theorem tripleKey_lt_iff {a b c a' b' c' : Nat} :
    tripleKey a b c < tripleKey a' b' c' ↔ a < a' ∨ a = a' ∧ (b < b' ∨ b = b' ∧ c < c') := by
  simp only [tripleKey, Prod.Lex.toLex_lt_toLex]

theorem compareIndexTriple_eq {a b c a' b' c' : Nat} :
    compareIndexTriple a b c a' b' c' = threeWay (tripleKey a b c) (tripleKey a' b' c') := by
  simp only [compareIndexTriple, threeWay, gt_iff_lt, tripleKey_lt_iff]
  split_ifs <;> omega

theorem checkIndexTripleOrder_eq_ok {msg : String} {a b c a' b' c' : Nat} :
    checkIndexTripleOrder msg a b c a' b' c' = .ok () ↔ tripleKey a b c < tripleKey a' b' c' := by
  rw [tripleKey_lt_iff]
  unfold checkIndexTripleOrder
  split_ifs <;> simp only [false_iff, true_iff] <;> omega

/-- The key that `FindFieldId` compares. -/
def FieldId.key (f : FieldId) : Lex (Nat × Lex (Nat × Nat)) := tripleKey f.classIdx f.nameIdx f.typeIdx

/-- The key that `FindMethodId` compares. -/
def MethodId.key (m : MethodId) : Lex (Nat × Lex (Nat × Nat)) :=
  tripleKey m.classIdx m.nameIdx m.protoIdx

theorem Ids.findFieldId_eq (d : Ids) (classIdx nameIdx typeIdx : Nat) :
    d.findFieldId classIdx nameIdx typeIdx = search (fun mid =>
      threeWay (tripleKey classIdx nameIdx typeIdx) (d.fieldIds.getD mid ⟨0, 0, 0⟩).key)
      d.fieldIds.length := by
  simp only [Ids.findFieldId, compareIndexTriple_eq]
  rfl

theorem Ids.findMethodId_eq (d : Ids) (classIdx nameIdx protoIdx : Nat) :
    d.findMethodId classIdx nameIdx protoIdx = search (fun mid =>
      threeWay (tripleKey classIdx nameIdx protoIdx) (d.methodIds.getD mid ⟨0, 0, 0⟩).key)
      d.methodIds.length := by
  simp only [Ids.findMethodId, compareIndexTriple_eq]
  rfl

/-- `FindFieldId` over field ids in the verifier's order returns exactly the index of the field
id with the given class, name and type. -/
theorem findFieldId_eq_some_iff_of_fieldIds {d : Ids}
    (hv : checkInterItems checkInterFieldIdOrder d.fieldIds = .ok ()) {classIdx nameIdx typeIdx m : Nat} :
    d.findFieldId classIdx nameIdx typeIdx = some m ↔
      ∃ hm : m < d.fieldIds.length, d.fieldIds[m] = ⟨classIdx, typeIdx, nameIdx⟩ := by
  rw [d.findFieldId_eq, search_checkInterItems FieldId.key
    (fun _ _ => checkIndexTripleOrder_eq_ok.mp) hv]
  refine exists_congr fun hm => ?_
  rw [FieldId.key, tripleKey_inj, FieldId.mk.injEq]
  tauto

/-- `FindFieldId` on verified field ids returns exactly the index of the field id with the
given class, name and type. -/
theorem findFieldId_eq_some_iff {d : Ids} (hv : d.checkOrder = .ok ()) {classIdx nameIdx typeIdx m : Nat} :
    d.findFieldId classIdx nameIdx typeIdx = some m ↔
      ∃ hm : m < d.fieldIds.length, d.fieldIds[m] = ⟨classIdx, typeIdx, nameIdx⟩ :=
  findFieldId_eq_some_iff_of_fieldIds (Ids.checkOrder_eq_ok.mp hv).2.2.2.1

/-- `FindMethodId` over method ids in the verifier's order returns exactly the index of the
method id with the given class, name and proto. -/
theorem findMethodId_eq_some_iff_of_methodIds {d : Ids}
    (hv : checkInterItems checkInterMethodIdOrder d.methodIds = .ok ())
    {classIdx nameIdx protoIdx m : Nat} :
    d.findMethodId classIdx nameIdx protoIdx = some m ↔
      ∃ hm : m < d.methodIds.length, d.methodIds[m] = ⟨classIdx, protoIdx, nameIdx⟩ := by
  rw [d.findMethodId_eq, search_checkInterItems MethodId.key
    (fun _ _ => checkIndexTripleOrder_eq_ok.mp) hv]
  refine exists_congr fun hm => ?_
  rw [MethodId.key, tripleKey_inj, MethodId.mk.injEq]
  tauto

/-- `FindMethodId` on verified method ids returns exactly the index of the method id with the
given class, name and proto. -/
theorem findMethodId_eq_some_iff {d : Ids} (hv : d.checkOrder = .ok ()) {classIdx nameIdx protoIdx m : Nat} :
    d.findMethodId classIdx nameIdx protoIdx = some m ↔
      ∃ hm : m < d.methodIds.length, d.methodIds[m] = ⟨classIdx, protoIdx, nameIdx⟩ :=
  findMethodId_eq_some_iff_of_methodIds (Ids.checkOrder_eq_ok.mp hv).2.2.2.2

/-! ## Strings against UTF-16 -/

theorem ne_nil_of_deref_ne_zero {s : List Nat} (h : deref s ≠ 0) : s ≠ [] := by
  rintro rfl
  exact h rfl

/-- `GetUtf16FromUtf8` consumes a byte at least. -/
theorem length_getUtf16FromUtf8_lt {s : List Nat} (h : s ≠ []) :
    (getUtf16FromUtf8 s).2.length < s.length := by
  have hlen : 0 < s.length := List.length_pos_iff.mpr h
  dsimp only [getUtf16FromUtf8]
  split_ifs <;> simp only [List.length_tail] <;> omega

/-- The comparison against a UTF-16 string that is not empty never finds the two equal: the
first string runs out while the second still stands at its first unit. -/
theorem compareModifiedUtf8ToUtf16Loop_ne_zero {utf8_2 : List Nat} (h₂ : deref utf8_2 ≠ 0) :
    ∀ {fuel : Nat} {utf8_1 : List Nat}, utf8_1.length < fuel →
      compareModifiedUtf8ToUtf16Loop fuel utf8_1 utf8_2 ≠ 0 := by
  intro fuel
  induction fuel with
  | zero => intro utf8_1 h; omega
  | succ fuel ih =>
    intro utf8_1 hfuel
    rw [compareModifiedUtf8ToUtf16Loop]
    dsimp only
    split_ifs with h₁ <;> try omega
    · -- equal units: the loop goes on with a shorter first string
      have hshort := length_getUtf16FromUtf8_lt (ne_nil_of_deref_ne_zero h₁)
      exact ih (by omega)

theorem compareModifiedUtf8ToUtf16AsCodePointValues_ne_zero {utf8_1 utf8_2 : List Nat}
    (h₂ : deref utf8_2 ≠ 0) : compareModifiedUtf8ToUtf16AsCodePointValues utf8_1 utf8_2 ≠ 0 :=
  compareModifiedUtf8ToUtf16Loop_ne_zero h₂ (Nat.lt_succ_self _)

/-- `FindStringId(const uint16_t*)` finds no string that is not empty, whatever the file. -/
theorem findStringIdUtf16_eq_none (d : Ids) {string : List Nat} (h : deref string ≠ 0) :
    d.findStringIdUtf16 string = none := by
  cases hfind : d.findStringIdUtf16 string with
  | none => rfl
  | some m =>
    exact absurd (search_sound hfind).1 (compareModifiedUtf8ToUtf16AsCodePointValues_ne_zero h)

/-! ## Entries the lookups miss -/

/-- The strings `"I"` and `"V"`, the types `I` and `V`, and the protos `(II)V` then `(I)V`. -/
def shorterProtoLast : Ids :=
  ⟨[[0x49], [0x56]], [⟨0⟩, ⟨1⟩], [⟨1, [0, 0]⟩, ⟨1, [0]⟩], [], []⟩

theorem find_misses_verified_ids :
    shorterProtoLast.checkOrder = .ok () ∧
      shorterProtoLast.findStringId [0x49] = some 0 ∧
      shorterProtoLast.findStringIdUtf16 [0x49] = none ∧
      shorterProtoLast.protoIds.getD 1 ⟨0, []⟩ = ⟨1, [0]⟩ ∧
      shorterProtoLast.findProtoId 1 [0] = none :=
  ⟨by decide, by decide, findStringIdUtf16_eq_none _ (by decide), rfl,
    by decide⟩

end DexFile

end Art
