import AndroidArt.Gc.FreeListSpace
import Mathlib.Algebra.GroupWithZero.Nat
import Mathlib.Algebra.Order.BigOperators.Group.List
import Mathlib.Data.Prod.Lex

/-!
# The free-list large object space: the objects its state holds

What the state of `FreeListSpace` (`Gc/FreeListSpace.lean`) describes, stated over the model:

* `Obj` — an object of the space, `size` units from the unit `start`.  A list of objects in
  address order is laid out from unit 0: a free block fills each gap between two objects, and the
  end free region follows the last object (`topFrom`).  `gaps` lists the free blocks.
* `Laid` — the infos of the space describe the layout: the first unit of each free block says
  free, its size and no free block before it; the first unit of each object says live, its size
  and the size of the free block before it.
* `Inv` — the infos describe the objects `L`; `free_blocks_` holds the infos after the free blocks
  of `L` and is sorted by `SortByPrevFree`; `free_end_` is what lies past the last object; the
  counters count the objects of `L` and their units.
* `sortByPrevFree_eq_true_iff` — `SortByPrevFree` compares the key `blockKey`: `prev_free_`, then
  `AlignSize()`, then the slot index, in lexicographic order.
* `Inv.create` — `Create` holds no objects.
* `Inv.walk` — `Walk` visits the objects of `L` in address order, with their addresses and sizes,
  when the end free region is not empty; when it is, `Walk` fails its `DCHECK(Contains)`.
-/

set_option autoImplicit false

namespace Art

namespace AllocationInfo

open FreeListSpace

variable (a : AllocationInfo)

/-- A value below `kFlagFree` keeps the bits of `kFlagFree - 1`. -/
theorem eq_and_sizeMask {x : BitVec 32} (h : x.toNat < 2 ^ 27) : x = x &&& 0x7FFFFFF#32 := by
  apply BitVec.eq_of_toNat_eq
  rw [BitVec.toNat_and, show (0x7FFFFFF#32).toNat = 2 ^ 27 - 1 from rfl,
    Nat.and_two_pow_sub_one_eq_mod, Nat.mod_eq_of_lt h]

theorem and_kFlagFree_of_lt {x : BitVec 32} (h : x.toNat < 2 ^ 27) : x &&& kFlagFree = 0 := by
  rw [eq_and_sizeMask h, BitVec.and_assoc, show 0x7FFFFFF#32 &&& kFlagFree = 0 by decide]
  simp

theorem and_not_kFlagFree_of_lt {x : BitVec 32} (h : x.toNat < 2 ^ 27) :
    x &&& ~~~kFlagFree = x := by
  conv_lhs => rw [eq_and_sizeMask h]
  rw [BitVec.and_assoc, show 0x7FFFFFF#32 &&& ~~~kFlagFree = 0x7FFFFFF#32 by decide,
    ← eq_and_sizeMask h]

/-- `SetByteSize` of a size below `kFlagFree` units: `AlignSize()` reads the size back. -/
theorem alignSize_setByteSize {m : Nat} (h : m < 2 ^ 27) (free : Bool) :
    (a.setByteSize (m * kAlignment) free).alignSize = m := by
  have hdiv : m * kAlignment / kAlignment = m := Nat.mul_div_cancel m (by decide)
  have hm : (BitVec.ofNat 32 m).toNat = m := by simp; omega
  simp only [setByteSize, alignSize, hdiv]
  rw [BitVec.and_or_distrib_right, and_not_kFlagFree_of_lt (by omega)]
  cases free <;> simp [hm]

/-- `SetByteSize` of a size below `kFlagFree` units: `IsFree()` reads the flag back. -/
theorem isFree_setByteSize {m : Nat} (h : m < 2 ^ 27) (free : Bool) :
    (a.setByteSize (m * kAlignment) free).isFree = free := by
  have hdiv : m * kAlignment / kAlignment = m := Nat.mul_div_cancel m (by decide)
  simp only [setByteSize, isFree, hdiv]
  rw [BitVec.and_or_distrib_right, and_kFlagFree_of_lt (by simp; omega)]
  cases free <;> simp [kFlagFree]

@[simp] theorem getPrevFree_setByteSize (size : Nat) (free : Bool) :
    (a.setByteSize size free).getPrevFree = a.getPrevFree := rfl

@[simp] theorem alignSize_setPrevFreeBytes (bytes : Nat) :
    (a.setPrevFreeBytes bytes).alignSize = a.alignSize := rfl

@[simp] theorem isFree_setPrevFreeBytes (bytes : Nat) :
    (a.setPrevFreeBytes bytes).isFree = a.isFree := rfl

@[simp] theorem getPrevFree_setPrevFreeBytes_zero : (a.setPrevFreeBytes 0).getPrevFree = 0 := by
  simp [setPrevFreeBytes, getPrevFree]

theorem getPrevFree_setPrevFreeBytes {m : Nat} (h : m < 2 ^ 32) :
    (a.setPrevFreeBytes (m * kAlignment)).getPrevFree = m := by
  have hdiv : m * kAlignment / kAlignment = m := Nat.mul_div_cancel m (by decide)
  simp only [setPrevFreeBytes, getPrevFree, hdiv, BitVec.toNat_ofNat]
  omega

end AllocationInfo

namespace FreeListSpace

variable (s : FreeListSpace)

/-! ## Writes to the state -/

/-- A write to an info: the map's info at `i`, if there is one, becomes `a`. -/
theorem info_setInfo (i : Nat) (a : AllocationInfo) (j : Nat) :
    (s.setInfo i a).info j = if j = i then (s.info i).map fun _ => a else s.info j := by
  split_ifs with hj
  · subst hj
    cases hi : s.info j with
    | none =>
      have hlen : s.allocationInfo.length ≤ j := List.getElem?_eq_none_iff.mp hi
      simp [info, setInfo, hlen]
    | some b => exact info_setInfo_self s (List.getElem?_eq_some_iff.mp hi).1 a
  · exact info_setInfo_of_ne s hj a

@[simp] theorem begin_setInfo (i : Nat) (a : AllocationInfo) : (s.setInfo i a).begin = s.begin :=
  rfl

@[simp] theorem end_setInfo (i : Nat) (a : AllocationInfo) : (s.setInfo i a).end_ = s.end_ := rfl

@[simp] theorem freeEnd_setInfo (i : Nat) (a : AllocationInfo) :
    (s.setInfo i a).freeEnd = s.freeEnd := rfl

@[simp] theorem freeBlocks_setInfo (i : Nat) (a : AllocationInfo) :
    (s.setInfo i a).freeBlocks = s.freeBlocks := rfl

@[simp] theorem numObjectsAllocated_setInfo (i : Nat) (a : AllocationInfo) :
    (s.setInfo i a).numObjectsAllocated = s.numObjectsAllocated := rfl

@[simp] theorem numBytesAllocated_setInfo (i : Nat) (a : AllocationInfo) :
    (s.setInfo i a).numBytesAllocated = s.numBytesAllocated := rfl

@[simp] theorem info_eraseFreeBlock (i j : Nat) : (s.eraseFreeBlock i).info j = s.info j := rfl

@[simp] theorem allocationInfo_eraseFreeBlock (i : Nat) :
    (s.eraseFreeBlock i).allocationInfo = s.allocationInfo := rfl

@[simp] theorem begin_eraseFreeBlock (i : Nat) : (s.eraseFreeBlock i).begin = s.begin := rfl

@[simp] theorem end_eraseFreeBlock (i : Nat) : (s.eraseFreeBlock i).end_ = s.end_ := rfl

@[simp] theorem freeEnd_eraseFreeBlock (i : Nat) : (s.eraseFreeBlock i).freeEnd = s.freeEnd := rfl

@[simp] theorem numObjectsAllocated_eraseFreeBlock (i : Nat) :
    (s.eraseFreeBlock i).numObjectsAllocated = s.numObjectsAllocated := rfl

@[simp] theorem numBytesAllocated_eraseFreeBlock (i : Nat) :
    (s.eraseFreeBlock i).numBytesAllocated = s.numBytesAllocated := rfl

@[simp] theorem end_insertFreeBlock (i : Nat) : (s.insertFreeBlock i).end_ = s.end_ := by
  unfold insertFreeBlock
  split <;> rfl

@[simp] theorem freeEnd_insertFreeBlock (i : Nat) : (s.insertFreeBlock i).freeEnd = s.freeEnd := by
  unfold insertFreeBlock
  split <;> rfl

@[simp] theorem numObjectsAllocated_insertFreeBlock (i : Nat) :
    (s.insertFreeBlock i).numObjectsAllocated = s.numObjectsAllocated := by
  unfold insertFreeBlock
  split <;> rfl

@[simp] theorem numBytesAllocated_insertFreeBlock (i : Nat) :
    (s.insertFreeBlock i).numBytesAllocated = s.numBytesAllocated := by
  unfold insertFreeBlock
  split <;> rfl

@[simp] theorem getAllocationAddressForSlot_setInfo (i : Nat) (a : AllocationInfo) (j : Nat) :
    (s.setInfo i a).getAllocationAddressForSlot j = s.getAllocationAddressForSlot j := rfl

@[simp] theorem getAllocationAddressForSlot_eraseFreeBlock (i j : Nat) :
    (s.eraseFreeBlock i).getAllocationAddressForSlot j = s.getAllocationAddressForSlot j := rfl

@[simp] theorem getAllocationAddressForSlot_insertFreeBlock (i j : Nat) :
    (s.insertFreeBlock i).getAllocationAddressForSlot j = s.getAllocationAddressForSlot j := by
  simp [getAllocationAddressForSlot]

@[simp] theorem getAddressForAllocationInfo_setInfo (i : Nat) (a : AllocationInfo) (j : Nat) :
    (s.setInfo i a).getAddressForAllocationInfo j = s.getAddressForAllocationInfo j := by
  simp [getAddressForAllocationInfo, getSlotIndexForAllocationInfo, setInfo,
    getAllocationAddressForSlot]

@[simp] theorem getAddressForAllocationInfo_eraseFreeBlock (i j : Nat) :
    (s.eraseFreeBlock i).getAddressForAllocationInfo j = s.getAddressForAllocationInfo j := rfl

/-- A state built from another's map reads the other's infos. -/
@[simp] theorem info_mk (t : FreeListSpace) (b e fe : Nat) (fb : List Nat) (n m j : Nat) :
    (FreeListSpace.mk b e t.allocationInfo fe fb n m).info j = t.info j := rfl

/-- `GetSlotIndexForAddress` of the address of a unit of the map is that unit. -/
theorem getSlotIndexForAddress_getAllocationAddressForSlot
    (hend : s.end_ = s.begin + s.allocationInfo.length * kAlignment) {i : Nat}
    (hi : i < s.allocationInfo.length) :
    s.getSlotIndexForAddress (s.getAllocationAddressForSlot i) = some i := by
  have hlt : i * kAlignment < s.allocationInfo.length * kAlignment :=
    Nat.mul_lt_mul_of_pos_right hi (by decide)
  unfold getSlotIndexForAddress getAllocationAddressForSlot
  rw [if_pos ⟨Nat.le_add_right _ _, by omega⟩, Nat.add_sub_cancel_left,
    Nat.mul_div_cancel i (by decide)]

/-! ## The order of `free_blocks_` -/

/-- The key `SortByPrevFree` compares: `prev_free_`, `AlignSize()` and the slot index. -/
def blockKey (i : Nat) : Lex (Nat × Lex (Nat × Nat)) :=
  toLex (((s.info i).getD ⟨0, 0⟩).getPrevFree, toLex (((s.info i).getD ⟨0, 0⟩).alignSize, i))

theorem sortByPrevFree_eq_true_iff (a b : Nat) :
    s.sortByPrevFree a b = true ↔ s.blockKey a < s.blockKey b := by
  simp only [sortByPrevFree, blockKey, Prod.Lex.lt_iff, ofLex_toLex, Bool.or_eq_true,
    Bool.and_eq_true, decide_eq_true_eq, beq_iff_eq]

theorem eq_of_blockKey_eq {a b : Nat} (h : s.blockKey a = s.blockKey b) : a = b := by
  simpa [blockKey] using congrArg (fun k => (ofLex (ofLex k).2).2) h

theorem blockKey_eq_of_info_eq {s' : FreeListSpace} {i : Nat} (h : s'.info i = s.info i) :
    s'.blockKey i = s.blockKey i := by
  simp only [blockKey, h]

/-- `free_blocks_` is in the order of `SortByPrevFree` over the infos as they are. -/
def Ordered : Prop := s.freeBlocks.Pairwise fun a b => s.blockKey a < s.blockKey b

/-- Changes that leave the keys of the set's elements as they were leave it in order. -/
theorem Ordered.of_blockKey_eq {s' : FreeListSpace} (h : s.Ordered)
    (hset : s'.freeBlocks = s.freeBlocks)
    (hkey : ∀ i ∈ s.freeBlocks, s'.blockKey i = s.blockKey i) : s'.Ordered := by
  unfold Ordered
  rw [hset]
  refine h.imp_of_mem fun ha hb hab => ?_
  rwa [hkey _ ha, hkey _ hb]

/-- Writes to infos outside the set leave it in order. -/
theorem Ordered.of_info_eq {s' : FreeListSpace} (h : s.Ordered)
    (hset : s'.freeBlocks = s.freeBlocks)
    (hinfo : ∀ i ∈ s.freeBlocks, s'.info i = s.info i) : s'.Ordered :=
  h.of_blockKey_eq s hset fun i hi => blockKey_eq_of_info_eq s (hinfo i hi)

/-- A write that keeps an info's `prev_free_` and `AlignSize()` leaves the set in order. -/
theorem Ordered.setInfo_of_key (h : s.Ordered) {i : Nat} {a a' : AllocationInfo}
    (ha : s.info i = some a) (hpf : a'.getPrevFree = a.getPrevFree)
    (hsz : a'.alignSize = a.alignSize) : (s.setInfo i a').Ordered := by
  refine h.of_blockKey_eq s rfl fun j _ => ?_
  by_cases hj : j = i
  · subst hj
    simp only [blockKey, info_setInfo, ha, Option.map_some, if_true, Option.getD_some, hpf, hsz]
  · exact blockKey_eq_of_info_eq s (info_setInfo_of_ne s hj a')

theorem Ordered.mk (h : s.Ordered) (b e fe n m : Nat) :
    (FreeListSpace.mk b e s.allocationInfo fe s.freeBlocks n m).Ordered := h

theorem Ordered.setInfo (h : s.Ordered) {i : Nat} (hi : i ∉ s.freeBlocks) (a : AllocationInfo) :
    (s.setInfo i a).Ordered :=
  h.of_info_eq s rfl fun j hj => info_setInfo_of_ne s (show j ≠ i from fun hji => hi (hji ▸ hj)) a

theorem Ordered.eraseFreeBlock (h : s.Ordered) (i : Nat) : (s.eraseFreeBlock i).Ordered :=
  h.sublist List.erase_sublist

theorem mem_insertFreeBlock_iff {i j : Nat} :
    j ∈ (s.insertFreeBlock i).freeBlocks ↔ j = i ∨ j ∈ s.freeBlocks := by
  unfold FreeListSpace.insertFreeBlock
  split_ifs with hi
  · constructor
    · exact Or.inr
    · rintro (rfl | hj)
      · exact hi
      · exact hj
  · exact SortedSet.mem_insertBefore

/-- `insert` puts the info where `SortByPrevFree` orders it. -/
theorem Ordered.insertFreeBlock (h : s.Ordered) (i : Nat) : (s.insertFreeBlock i).Ordered := by
  unfold FreeListSpace.insertFreeBlock
  split_ifs with hi
  · exact h
  · exact SortedSet.pairwise_insertBefore (sortByPrevFree_eq_true_iff s) h
      fun x hx hkey => hi (eq_of_blockKey_eq s hkey ▸ hx)

theorem mem_eraseFreeBlock_iff (h : s.Ordered) {i j : Nat} :
    j ∈ (s.eraseFreeBlock i).freeBlocks ↔ j ≠ i ∧ j ∈ s.freeBlocks :=
  List.Nodup.mem_erase_iff (h.imp fun hab => ne_of_apply_ne s.blockKey (ne_of_lt hab))

/-- `RemoveFreePrev` of an info of the set with a free block before it takes it out of the set:
`lower_bound` finds it. -/
theorem removeFreePrev_eq (h : s.Ordered) {i : Nat} (hi : i ∈ s.freeBlocks) {a : AllocationInfo}
    (ha : s.info i = some a) (hprev : 0 < a.getPrevFree) :
    s.removeFreePrev i = some (s.eraseFreeBlock i) := by
  have hlb : s.lowerBound i = some i :=
    SortedSet.find?_not_lt_self (sortByPrevFree_eq_true_iff s) h hi
  simp [removeFreePrev, ha, hlb, Nat.ne_of_gt hprev]

/-- `lower_bound(&temp_info)` finds the info of the set with the least key among those whose
`prev_free_` is at least the one asked for. -/
theorem lowerBoundTemp_eq_some (h : s.Ordered) {m i : Nat} (hlb : s.lowerBoundTemp m = some i) :
    i ∈ s.freeBlocks ∧ m ≤ ((s.info i).getD ⟨0, 0⟩).getPrevFree ∧
      ∀ j ∈ s.freeBlocks, m ≤ ((s.info j).getD ⟨0, 0⟩).getPrevFree →
        ((s.info i).getD ⟨0, 0⟩).getPrevFree ≤ ((s.info j).getD ⟨0, 0⟩).getPrevFree := by
  have hmem := List.mem_of_find?_eq_some hlb
  have hfit := List.find?_some hlb
  refine ⟨hmem, by simpa using hfit, fun j hj hjfit => ?_⟩
  have hle := SortedSet.key_le_of_find?_eq_some h hlb j hj (by simpa using hjfit)
  exact (Prod.Lex.le_iff.mp hle).elim (fun hlt => le_of_lt hlt) (fun heq => le_of_eq heq.1)

theorem lowerBoundTemp_eq_none {m : Nat} (hlb : s.lowerBoundTemp m = none) :
    ∀ j ∈ s.freeBlocks, ((s.info j).getD ⟨0, 0⟩).getPrevFree < m := by
  intro j hj
  have := List.find?_eq_none.mp hlb j hj
  simpa using this

/-! ## The objects of a space and the free blocks between them -/

/-- An object of the space: `size` units from the unit `start`. -/
structure Obj where
  start : Nat
  size : Nat
  deriving DecidableEq, Repr

/-- The unit after the object. -/
def Obj.next (o : Obj) : Nat := o.start + o.size

@[simp] theorem Obj.next_mk (start size : Nat) : (Obj.mk start size).next = start + size := rfl

/-- The unit after the objects `L` laid out from the unit `q` on: the first unit of the end free
region. -/
def topFrom : Nat → List Obj → Nat
  | q, [] => q
  | _, o :: os => topFrom o.next os

/-- The free blocks between the objects `L` laid out from the unit `q` on: the first unit and the
units of each gap in front of an object. -/
def gaps : Nat → List Obj → List (Nat × Nat)
  | _, [] => []
  | q, o :: os => (if q < o.start then [(q, o.start - q)] else []) ++ gaps o.next os

/-- The infos after the free blocks: the first units of the objects with a gap in front. -/
def followers (q : Nat) (L : List Obj) : List Nat := (gaps q L).map fun g => g.1 + g.2

/-- The info of unit `i` is there, with `AlignSize()`, `IsFree()` and `GetPrevFree()` as given. -/
def InfoIs (info : Nat → Option AllocationInfo) (i size : Nat) (free : Bool) (prev : Nat) : Prop :=
  ∃ a, info i = some a ∧ a.alignSize = size ∧ a.isFree = free ∧ a.getPrevFree = prev

/-- The infos describe the objects `L` laid out from the unit `q` on: each object starts at or after
the end of the one before and has a unit; the first unit of the free block in front of it, if there
is one, is free with the block's size and no free block before it, and the object's first unit is
live with the object's size and the free block's size before it. -/
def Laid (info : Nat → Option AllocationInfo) : Nat → List Obj → Prop
  | _, [] => True
  | q, o :: os =>
    q ≤ o.start ∧ 0 < o.size ∧ (q < o.start → InfoIs info q (o.start - q) true 0) ∧
      InfoIs info o.start o.size false (o.start - q) ∧ Laid info o.next os

@[simp] theorem topFrom_nil (q : Nat) : topFrom q [] = q := rfl

@[simp] theorem topFrom_cons (q : Nat) (o : Obj) (os : List Obj) :
    topFrom q (o :: os) = topFrom o.next os := rfl

theorem topFrom_append (q : Nat) (L₁ L₂ : List Obj) :
    topFrom q (L₁ ++ L₂) = topFrom (topFrom q L₁) L₂ := by
  induction L₁ generalizing q with
  | nil => rfl
  | cons o os ih => exact ih o.next

theorem gaps_append (q : Nat) (L₁ L₂ : List Obj) :
    gaps q (L₁ ++ L₂) = gaps q L₁ ++ gaps (topFrom q L₁) L₂ := by
  induction L₁ generalizing q with
  | nil => rfl
  | cons o os ih => simp [gaps, ih]

@[simp] theorem followers_nil (q : Nat) : followers q [] = [] := rfl

theorem followers_cons (q : Nat) (o : Obj) (os : List Obj) :
    followers q (o :: os) = (if q < o.start then [o.start] else []) ++ followers o.next os := by
  simp only [followers, gaps, List.map_append]
  split_ifs with h
  · simp [Nat.add_sub_cancel' (Nat.le_of_lt h)]
  · rfl

theorem followers_append (q : Nat) (L₁ L₂ : List Obj) :
    followers q (L₁ ++ L₂) = followers q L₁ ++ followers (topFrom q L₁) L₂ := by
  simp only [followers, gaps_append, List.map_append]

theorem laid_cons {info : Nat → Option AllocationInfo} (q : Nat) (o : Obj) (os : List Obj) :
    Laid info q (o :: os) ↔ q ≤ o.start ∧ 0 < o.size ∧
      (q < o.start → InfoIs info q (o.start - q) true 0) ∧
      InfoIs info o.start o.size false (o.start - q) ∧ Laid info o.next os := Iff.rfl

theorem laid_append {info : Nat → Option AllocationInfo} (q : Nat) (L₁ L₂ : List Obj) :
    Laid info q (L₁ ++ L₂) ↔ Laid info q L₁ ∧ Laid info (topFrom q L₁) L₂ := by
  induction L₁ generalizing q with
  | nil => simp [Laid]
  | cons o os ih => simp only [List.cons_append, Laid, ih, topFrom_cons, and_assoc]

/-- A gap lies in front of an object of the list, after the objects before it. -/
theorem mem_gaps {q : Nat} {L : List Obj} {g : Nat × Nat} :
    g ∈ gaps q L ↔ ∃ pre o post, L = pre ++ o :: post ∧ topFrom q pre < o.start ∧
      g = (topFrom q pre, o.start - topFrom q pre) := by
  induction L generalizing q with
  | nil => simp [gaps]
  | cons o os ih =>
    simp only [gaps, List.mem_append, ih]
    constructor
    · rintro (hg | ⟨pre, o', post, rfl, hlt, rfl⟩)
      · split_ifs at hg with hq
        · exact ⟨[], o, os, rfl, hq, List.mem_singleton.mp hg⟩
        · cases hg
      · exact ⟨o :: pre, o', post, rfl, hlt, rfl⟩
    · rintro ⟨pre, o', post, hL, hlt, rfl⟩
      cases pre with
      | nil =>
        cases hL
        rw [topFrom_nil] at hlt
        left
        simp [hlt]
      | cons p pre =>
        obtain ⟨rfl, rfl⟩ := List.cons.inj hL
        exact Or.inr ⟨pre, o', post, rfl, hlt, rfl⟩

section Laid

variable {info info' : Nat → Option AllocationInfo}

/-- The objects lie between the unit they are laid out from and the end free region. -/
theorem Laid.le_topFrom {q : Nat} {L : List Obj} (h : Laid info q L) : q ≤ topFrom q L := by
  induction L generalizing q with
  | nil => exact le_rfl
  | cons o os ih =>
    obtain ⟨hq, hsize, -, -, hrest⟩ := h
    have := ih hrest
    simp only [topFrom_cons, Obj.next] at this ⊢
    omega

/-- What the infos say of an object in the middle of the list. -/
theorem Laid.of_eq_append {q : Nat} {L pre post : List Obj} {o : Obj} (h : Laid info q L)
    (hL : L = pre ++ o :: post) :
    Laid info q pre ∧ topFrom q pre ≤ o.start ∧ 0 < o.size ∧
      (topFrom q pre < o.start → InfoIs info (topFrom q pre) (o.start - topFrom q pre) true 0) ∧
      InfoIs info o.start o.size false (o.start - topFrom q pre) ∧ Laid info o.next post := by
  subst hL
  obtain ⟨hpre, hq, hsize, hgap, hobj, hpost⟩ := (laid_append q pre (o :: post)).mp h
  exact ⟨hpre, hq, hsize, hgap, hobj, hpost⟩

/-- The infos describe a layout as long as the units of its range keep theirs. -/
theorem Laid.congr {q : Nat} {L : List Obj} (h : Laid info q L)
    (hinfo : ∀ i, q ≤ i → i < topFrom q L → info' i = info i) : Laid info' q L := by
  induction L generalizing q with
  | nil => trivial
  | cons o os ih =>
    obtain ⟨hq, hsize, hgap, ⟨a, ha, hobj⟩, hrest⟩ := h
    have htop : o.next ≤ topFrom q (o :: os) := hrest.le_topFrom
    simp only [Obj.next] at htop
    refine ⟨hq, hsize, fun hlt => ?_, ⟨a, ?_, hobj⟩, ih hrest fun i hi hlt => ?_⟩
    · obtain ⟨b, hb, hgap⟩ := hgap hlt
      exact ⟨b, by rw [hinfo q le_rfl (by omega), hb], hgap⟩
    · rw [hinfo o.start hq (by omega), ha]
    · exact hinfo i (by simp only [Obj.next] at hi; omega) hlt

/-- The free blocks lie after the unit the objects are laid out from, each in front of an object
before the end free region. -/
theorem Laid.mem_gaps {q : Nat} {L : List Obj} (h : Laid info q L) {g : Nat × Nat}
    (hg : g ∈ gaps q L) : q ≤ g.1 ∧ 0 < g.2 ∧ g.1 + g.2 < topFrom q L := by
  obtain ⟨pre, o, post, rfl, hlt, rfl⟩ := FreeListSpace.mem_gaps.mp hg
  obtain ⟨hpre, -, hsize, -, -, hpost⟩ := h.of_eq_append rfl
  have hq := hpre.le_topFrom
  have htop := hpost.le_topFrom
  rw [topFrom_append, topFrom_cons]
  simp only [Obj.next] at htop ⊢
  omega

/-- The objects of a layout lie from its first unit on, each after the one before it. -/
theorem Laid.sorted {q : Nat} {L : List Obj} (h : Laid info q L) :
    (∀ o ∈ L, q ≤ o.start) ∧ L.Pairwise fun o o' => o.next ≤ o'.start := by
  induction L generalizing q with
  | nil => simp
  | cons o os ih =>
    obtain ⟨hq, -, -, -, hrest⟩ := h
    obtain ⟨hge, hpw⟩ := ih hrest
    refine ⟨fun o' ho' => ?_, List.pairwise_cons.mpr ⟨hge, hpw⟩⟩
    rcases List.mem_cons.mp ho' with rfl | ho'
    · exact hq
    · have := hge o' ho'
      simp only [Obj.next] at this
      omega

/-- Each object ends before the end free region. -/
theorem Laid.next_le_topFrom {q : Nat} {L : List Obj} (h : Laid info q L) {o : Obj}
    (ho : o ∈ L) : o.next ≤ topFrom q L := by
  obtain ⟨pre, post, hL⟩ := List.append_of_mem ho
  obtain ⟨-, -, -, -, -, hpost⟩ := h.of_eq_append hL
  rw [hL, topFrom_append, topFrom_cons]
  exact hpost.le_topFrom

/-- The infos after the free blocks lie after the unit the objects are laid out from and before
the end free region. -/
theorem Laid.mem_followers {q : Nat} {L : List Obj} (h : Laid info q L) {x : Nat}
    (hx : x ∈ followers q L) : q < x ∧ x < topFrom q L := by
  obtain ⟨g, hg, rfl⟩ := List.mem_map.mp hx
  have := h.mem_gaps hg
  omega

end Laid

/-- The infos after the free blocks are the first units of the objects with a gap in front. -/
theorem mem_followers_iff {q i : Nat} {L : List Obj} :
    i ∈ followers q L ↔
      ∃ pre o post, L = pre ++ o :: post ∧ topFrom q pre < o.start ∧ i = o.start := by
  simp only [followers, List.mem_map, mem_gaps]
  constructor
  · rintro ⟨_, ⟨pre, o, post, rfl, hlt, rfl⟩, rfl⟩
    exact ⟨pre, o, post, rfl, hlt, by simp only; omega⟩
  · rintro ⟨pre, o, post, rfl, hlt, rfl⟩
    exact ⟨_, ⟨pre, o, post, rfl, hlt, rfl⟩, by simp only; omega⟩

/-! ## The invariant -/

/-- The state of the space holds the objects `L`: its infos describe them, `free_blocks_` holds
the infos after their free blocks in the order of `SortByPrevFree`, `free_end_` is what lies past
the last of them, the counters count them, and no other info reads as a live block. -/
structure Inv (L : List Obj) : Prop where
  aligned : s.begin % kAlignment = 0
  end_eq : s.end_ = s.begin + s.allocationInfo.length * kAlignment
  units_lt : s.allocationInfo.length < 2 ^ 27
  laid : Laid s.info 0 L
  top_le : topFrom 0 L ≤ s.allocationInfo.length
  freeEnd_eq : s.freeEnd = (s.allocationInfo.length - topFrom 0 L) * kAlignment
  mem_freeBlocks : ∀ i, i ∈ s.freeBlocks ↔ i ∈ followers 0 L
  sorted : s.Ordered
  numObjects : s.numObjectsAllocated = L.length
  numBytes : s.numBytesAllocated = (L.map Obj.size).sum * kAlignment
  /-- An info that is not the first unit of an object is marked free, or has size 0 as `Create`
  left it. -/
  stale : ∀ j a, s.info j = some a → (∀ o ∈ L, o.start ≠ j) → a.isFree = true ∨ a.alignSize = 0

theorem exists_info {i : Nat} (hi : i < s.allocationInfo.length) : ∃ a, s.info i = some a :=
  ⟨_, List.getElem?_eq_getElem hi⟩

section

variable {s}

/-- Around an object, `free_blocks_` holds only the object's own first unit, when a free block lies
in front of it. -/
theorem Inv.mem_freeBlocks_split {L pre post : List Obj} {o : Obj} (h : s.Inv L)
    (hL : L = pre ++ o :: post) {x : Nat} (hx : x ∈ s.freeBlocks) :
    x < topFrom 0 pre ∨ (x = o.start ∧ topFrom 0 pre < o.start) ∨ o.next < x := by
  obtain ⟨hpre, -, -, -, -, hpost⟩ := h.laid.of_eq_append hL
  rw [h.mem_freeBlocks, hL, followers_append, followers_cons, List.mem_append,
    List.mem_append] at hx
  rcases hx with hx | hx | hx
  · exact Or.inl (hpre.mem_followers hx).2
  · split_ifs at hx with hlt
    · exact Or.inr (Or.inl ⟨List.mem_singleton.mp hx, hlt⟩)
    · cases hx
  · exact Or.inr (Or.inr (hpost.mem_followers hx).1)

/-! ## `Create` -/

/-- `Create` of a page-aligned space of fewer than `kFlagFree` pages holds no objects. -/
theorem Inv.create {begin size : Nat} (hbegin : begin % kAlignment = 0)
    (hsize : size / kAlignment < 2 ^ 27) (h : FreeListSpace.create begin size = some s) :
    s.Inv [] := by
  unfold FreeListSpace.create at h
  split_ifs at h with hal
  cases h
  have hunits : size / kAlignment * kAlignment = size := Nat.div_mul_cancel (by omega)
  exact { aligned := hbegin
          end_eq := by simp [hunits]
          units_lt := by simpa using hsize
          laid := trivial
          top_le := Nat.zero_le _
          freeEnd_eq := by simp [hunits]
          mem_freeBlocks := by simp
          sorted := List.Pairwise.nil
          numObjects := rfl
          numBytes := rfl
          stale := fun j a ha _ => by
            simp only [info, List.getElem?_replicate] at ha
            split_ifs at ha
            cases ha
            exact Or.inr (by decide) }

end

/-! ## `Walk` -/

/-- What `Walk` passes to its callback for the objects `L`: the address and the size in bytes of
each. -/
def objectRanges (L : List Obj) : List (Nat × Nat) :=
  L.map fun o => (s.getAllocationAddressForSlot o.start, o.size * kAlignment)

/-- A round of the loop of `Walk` below the end free region: it moves on by the info's size, and
reports the block when it is live. -/
theorem walkLoop_succ_of_lt {endInfo cur : Nat} (hcur : cur < endInfo) {a : AllocationInfo}
    (ha : s.info cur = some a) (fuel : Nat) :
    s.walkLoop endInfo (fuel + 1) cur = (s.walkLoop endInfo fuel (cur + a.alignSize)).map
      fun rest => if a.isFree then rest
        else (s.getAllocationAddressForSlot cur, a.byteSize) :: rest := by
  simp only [walkLoop, hcur, if_true, ha, Option.bind_eq_bind, Option.bind_some]
  cases s.walkLoop endInfo fuel (cur + a.alignSize) <;> cases a.isFree <;> rfl

/-- The loop of `Walk` from the unit `q` reports the objects laid out from there, given a round
for each unit up to the end free region and one more. -/
theorem walkLoop_of_laid {q : Nat} {L : List Obj} (h : Laid s.info q L) {fuel : Nat}
    (hfuel : topFrom q L - q < fuel) :
    s.walkLoop (topFrom q L) fuel q = some (s.objectRanges L) := by
  induction L generalizing q fuel with
  | nil =>
    obtain ⟨f, rfl⟩ : ∃ f, fuel = f + 1 := ⟨fuel - 1, by simp at hfuel; omega⟩
    simp [walkLoop, objectRanges]
  | cons o os ih =>
    obtain ⟨hq, hsize, hgap, ⟨a, ha, hsz, hfree, -⟩, hrest⟩ := h
    have htop : o.next ≤ topFrom o.next os := hrest.le_topFrom
    have hnext : o.next = o.start + o.size := rfl
    rw [topFrom_cons] at hfuel ⊢
    have hlive : ∀ f, topFrom o.next os - o.next < f →
        s.walkLoop (topFrom o.next os) (f + 1) o.start = some (s.objectRanges (o :: os)) := by
      intro f hf
      rw [walkLoop_succ_of_lt s (by omega) ha, hsz, ← hnext, ih hrest hf]
      simp [hfree, objectRanges, AllocationInfo.byteSize, hsz]
    by_cases hlt : q < o.start
    · -- the free block in front of the object takes a round of its own
      obtain ⟨b, hb, hbsz, hbfree, -⟩ := hgap hlt
      obtain ⟨f, rfl⟩ : ∃ f, fuel = f + 1 + 1 := ⟨fuel - 2, by omega⟩
      rw [walkLoop_succ_of_lt s (by omega) hb, hbsz, Nat.add_sub_cancel' hq, hlive f (by omega)]
      simp [hbfree]
    · obtain ⟨f, rfl⟩ : ∃ f, fuel = f + 1 := ⟨fuel - 1, by omega⟩
      rw [show q = o.start by omega]
      exact hlive f (by omega)

section

variable {s}

/-- The start of a non-empty end free region is the unit after the last object. -/
theorem Inv.slot_freeEndStart {L : List Obj} (h : s.Inv L) (hfree : 0 < s.freeEnd) :
    s.getSlotIndexForAddress (s.end_ - s.freeEnd) = some (topFrom 0 L) := by
  have hend := h.end_eq
  have hfreeEnd := h.freeEnd_eq
  have htop := h.top_le
  simp only [getSlotIndexForAddress, kAlignment, kPageSize] at hend hfreeEnd hfree ⊢
  rw [if_pos (by constructor <;> omega)]
  congr 1
  omega

/-- `Walk` reports the objects in address order when the end free region is not empty. -/
theorem Inv.walk {L : List Obj} (h : s.Inv L) (hfree : 0 < s.freeEnd) :
    s.walk = some (s.objectRanges L) := by
  rw [walk_eq s (h.slot_freeEndStart hfree)]
  exact walkLoop_of_laid s h.laid (by have := h.top_le; omega)

end

/-- With no end free region, `GetAllocationInfoForAddress(free_end_start)` in `Walk` is past the
map and fails its `DCHECK(Contains)`. -/
theorem walk_of_freeEnd_eq_zero (hfull : s.freeEnd = 0) : s.walk = none := by
  simp [walk, getSlotIndexForAddress, hfull]

end FreeListSpace

end Art
