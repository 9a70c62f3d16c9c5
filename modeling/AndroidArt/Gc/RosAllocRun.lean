import AndroidArt.Gc.RosAlloc
import Mathlib.Algebra.GroupWithZero.Nat

/-!
# The slot bitmaps of a RosAlloc run

Model of the slot level of `RosAlloc` (`runtime/gc/allocator/rosalloc.cc` and `rosalloc.h`): the
size bracket tables that `RosAlloc::Initialize` computes, and the methods of `Run` that read and
write its three bitmaps, `AllocSlot`, `FreeSlot`, `MarkFreeBitMapShared`,
`MergeThreadLocalFreeBitMapToAllocBitMap`, `MergeBulkFreeBitMapIntoAllocBitMap`,
`UnionBulkFreeBitMapToThreadLocalFreeBitMap`, `GetBitmapLastVectorMask`, `IsAllFree`, `IsFull`
and `SetAllocBitMapBitsForInvalidSlots`.

A bitmap is the list of its `uint32_t` words, `NumberOfBitmapVectors()` of them, which the
structure `Run` keeps as a field.  A slot is named by its index, and a pointer into the run by its
offset from the run's start.  A failed `CHECK` or `DCHECK`, a read outside a bitmap and a shift by
32 or more, which C++ leaves undefined, end the call with `none`.

* `getBitmapLastVectorMask_eq_none_iff` — the mask of the invalid slots of the last word is
  undefined exactly when the slots fill the last word: it then shifts a `uint32_t` by 32.
* `getLsbD_getBitmapLastVectorMask` — otherwise it holds the bits from `num_slots % 32` up, and
  `isAllocated_allocRun`: a new run has exactly the bits of its invalid slots set.
* `allocSlot_lowest` — `AllocSlot` hands out the lowest free slot and sets its bit only.
* `numOfSlots_mod_eq_zero_iff`, `rosAllocRun_last_vector_mask_undefined` — bracket 20, with its
  96 slots, is the one bracket that fills its last word, so a new run of it and `IsAllFree` of a
  free run of it make that shift.
-/

set_option autoImplicit false

namespace Art

namespace RosAlloc

/-! ## The size brackets -/

/-- `kNumOfSizeBrackets`, `kNumRosAllocThreadLocalSizeBrackets`. -/
def kNumOfSizeBrackets : Nat := 34

/-- `bracketSizes[i]`: 16-byte steps, then 1 KB and 2 KB. -/
def bracketSizes (i : Nat) : Nat :=
  if i < kNumOfSizeBrackets - 2 then 16 * (i + 1)
  else if i = kNumOfSizeBrackets - 2 then 1024
  else 2048

/-- `numOfPages[i]`. -/
def numOfPages (i : Nat) : Nat :=
  if i < 4 then 1
  else if i < 8 then 1
  else if i < 16 then 4
  else if i < 32 then 8
  else if i = 32 then 16
  else 32

/-- `tmp_header_size` for `s` slots: the fixed header of 8 bytes and the three bitmaps, rounded up
to a multiple of the bracket size. -/
def headerSizeFor (bracketSize s : Nat) : Nat :=
  let unaligned := 8 + 3 * ((s + 31) / 32 * 32 / 8)
  if unaligned % bracketSize = 0 then unaligned
  else unaligned + (bracketSize - unaligned % bracketSize)

/-- The search of `Initialize`, from `s` slots down, for the largest number of slots that fit in
the run together with their header. -/
def slotSearch (bracketSize runSize : Nat) : Nat → Option (Nat × Nat)
  | 0 => if headerSizeFor bracketSize 0 ≤ runSize then some (0, headerSizeFor bracketSize 0) else none
  | s + 1 =>
    if bracketSize * (s + 1) + headerSizeFor bracketSize (s + 1) ≤ runSize then
      some (s + 1, headerSizeFor bracketSize (s + 1))
    else slotSearch bracketSize runSize s

/-- The number of slots and the header size of bracket `i`, as `Initialize` finds them. -/
def slotsAndHeader (i : Nat) : Option (Nat × Nat) :=
  let runSize := kPageSize * numOfPages i
  slotSearch (bracketSizes i) runSize (runSize / bracketSizes i)

/-- `numOfSlots[i]`; zero, its initial value, when the search finds nothing. -/
def numOfSlots (i : Nat) : Nat := ((slotsAndHeader i).map Prod.fst).getD 0

/-- `headerSizes[i]`. -/
def headerSizes (i : Nat) : Nat := ((slotsAndHeader i).map Prod.snd).getD 0

/-- `NumberOfBitmapVectors()`: `RoundUp(numOfSlots[idx], 32) / 32`. -/
def numberOfBitmapVectors (idx : Nat) : Nat := (numOfSlots idx + 31) / 32

/-! ## Runs -/

/-- The header of a `Run` that its slot methods use: the bracket, `is_thread_local_`,
`first_search_vec_idx_` and the three bitmaps, each of `NumberOfBitmapVectors()` words. -/
structure Run where
  sizeBracketIdx : Nat
  isThreadLocal : Bool
  firstSearchVecIdx : Nat
  allocBitMap : List (BitVec 32)
  bulkFreeBitMap : List (BitVec 32)
  threadLocalFreeBitMap : List (BitVec 32)
  length_allocBitMap : allocBitMap.length = numberOfBitmapVectors sizeBracketIdx
  length_bulkFreeBitMap : bulkFreeBitMap.length = numberOfBitmapVectors sizeBracketIdx
  length_threadLocalFreeBitMap :
    threadLocalFreeBitMap.length = numberOfBitmapVectors sizeBracketIdx

/-- `__builtin_ffs`: one more than the index of the lowest set bit, or zero. -/
def ffs (x : BitVec 32) : Nat := if x = 0 then 0 else x.ctz.toNat + 1

/-- `GetBitmapLastVectorMask(num_slots, num_vec)`: `((1U << remain) - 1) << (32 - remain)`. -/
def getBitmapLastVectorMask (numSlots numVec : Nat) : Option (BitVec 32) :=
  if numSlots * 32 < numVec then none
  else
    let remain := numVec * 32 - numSlots
    if remain = 32 then none
    -- both shifts of a `uint32_t` must be by less than 32
    else if remain < 32 ∧ 32 - remain < 32 then some (((1#32 <<< remain) - 1) <<< (32 - remain))
    else none

namespace Run

variable (r : Run)

/-- Whether bit `i` of `alloc_bit_map_` is set. -/
def isAllocated (i : Nat) : Bool := (r.allocBitMap.getD (i / 32) 0).getLsbD (i % 32)

/-- `SetAllocBitMapBitsForInvalidSlots()`: the mask ored into the last word. -/
def setAllocBitMapBitsForInvalidSlots : Option Run := do
  let numSlots := numOfSlots r.sizeBracketIdx
  let numVec := (numSlots + 31) / 32
  if numVec = 0 then none
  let mask ← getBitmapLastVectorMask numSlots numVec
  some { r with
    allocBitMap := r.allocBitMap.modify (numVec - 1) (· ||| mask)
    length_allocBitMap := by rw [List.length_modify, r.length_allocBitMap] }

/-- `IsAllFree()`: the words before the last are zero and the last equals the mask. -/
def isAllFree : Option Bool := do
  let numSlots := numOfSlots r.sizeBracketIdx
  let numVec := numberOfBitmapVectors r.sizeBracketIdx
  if numVec = 0 then none
  if (r.allocBitMap.take (numVec - 1)).any (· ≠ 0) then some false
  else
    let last ← r.allocBitMap[numVec - 1]?
    let mask ← getBitmapLastVectorMask numSlots numVec
    some (decide (last = mask))

/-- `IsFull()`: every word has all its bits set. -/
def isFull : Bool := r.allocBitMap.all (~~~· = 0)

/-- The loop of `AllocSlot` from the word `firstSearchVecIdx` on: the word where `__builtin_ffs`
finds a zero bit, or the last word when there is none.  The debug build first checks that the
words before `first_search_vec_idx_` are full. -/
def allocSlotLoop (numWords : Nat) (bm : List (BitVec 32)) : Nat → Nat → Option (Nat × Bool)
  | 0, _ => none
  | fuel + 1, fsvi => do
    if (bm.take fsvi).any (~~~· ≠ 0) then none
    let w ← bm[fsvi]?
    if ffs (~~~w) ≠ 0 then some (fsvi, true)
    else if numWords ≤ fsvi + 1 then some (fsvi, false)
    else allocSlotLoop numWords bm fuel (fsvi + 1)

/-- `AllocSlot()`: the offset of the slot from the run's start, or `nullptr`, and the run after. -/
def allocSlot : Option (Option Nat × Run) := do
  let idx := r.sizeBracketIdx
  let numWords := (numOfSlots idx + 31) / 32
  let (fsvi, found) ← allocSlotLoop numWords r.allocBitMap numWords r.firstSearchVecIdx
  if found then
    let w ← r.allocBitMap[fsvi]?
    let ffz := ffs (~~~w) - 1
    let slotIdx := ffz + fsvi * 32
    if numOfSlots idx ≤ slotIdx then none
    some (some (headerSizes idx + slotIdx * bracketSizes idx),
      { r with
        firstSearchVecIdx := fsvi
        allocBitMap := r.allocBitMap.set fsvi (w ||| 1#32 <<< ffz)
        length_allocBitMap := by rw [List.length_set, r.length_allocBitMap] })
  else if !{ r with firstSearchVecIdx := fsvi : Run }.isFull then none
  else some (none, { r with firstSearchVecIdx := fsvi })

/-- The slot index of the pointer at `offset` from the run's start, with the checks of `FreeSlot`
and `MarkFreeBitMapShared`. -/
def slotIndexOf (offset : Nat) : Option Nat := do
  let idx := r.sizeBracketIdx
  if offset < headerSizes idx then none
  let fromSlotBase := offset - headerSizes idx
  if fromSlotBase % bracketSizes idx ≠ 0 then none
  let slotIdx := fromSlotBase / bracketSizes idx
  if numOfSlots idx ≤ slotIdx then none
  some slotIdx

/-- `FreeSlot(ptr)`: the slot's bit cleared, and `first_search_vec_idx_` moved back to its word. -/
def freeSlot (offset : Nat) : Option Run := do
  if r.isThreadLocal then none
  let slotIdx ← r.slotIndexOf offset
  let vecIdx := slotIdx / 32
  let vec ← r.allocBitMap[vecIdx]?
  let mask := 1#32 <<< (slotIdx % 32)
  if vec &&& mask = 0 then none
  some { r with
    firstSearchVecIdx := min r.firstSearchVecIdx vecIdx
    allocBitMap := r.allocBitMap.set vecIdx (vec &&& ~~~mask)
    length_allocBitMap := by rw [List.length_set, r.length_allocBitMap] }

/-- `MarkFreeBitMapShared(ptr, free_bit_map_base, ...)` on the bitmap `bm`: the slot's bit set. -/
def markFreeBitMapShared (bm : List (BitVec 32)) (offset : Nat) : Option (List (BitVec 32)) := do
  let slotIdx ← r.slotIndexOf offset
  let vecIdx := slotIdx / 32
  let vec ← bm[vecIdx]?
  let mask := 1#32 <<< (slotIdx % 32)
  if vec &&& mask ≠ 0 then none
  some (bm.set vecIdx (vec ||| mask))

/-- `MarkThreadLocalFreeBitMap(ptr)`. -/
def markThreadLocalFreeBitMap (offset : Nat) : Option Run := do
  if !r.isThreadLocal then none
  let bm ← r.markFreeBitMapShared r.threadLocalFreeBitMap offset
  if h : bm.length = numberOfBitmapVectors r.sizeBracketIdx then
    some { r with threadLocalFreeBitMap := bm, length_threadLocalFreeBitMap := h }
  else none

/-- `MarkBulkFreeBitMap(ptr)`. -/
def markBulkFreeBitMap (offset : Nat) : Option Run := do
  let bm ← r.markFreeBitMapShared r.bulkFreeBitMap offset
  if h : bm.length = numberOfBitmapVectors r.sizeBracketIdx then
    some { r with bulkFreeBitMap := bm, length_bulkFreeBitMap := h }
  else none

/-- `MergeBulkFreeBitMapIntoAllocBitMap()`: the bulk free bits cleared from the alloc bitmap and
from the bulk free bitmap, and `first_search_vec_idx_` moved back to the first word that changed. -/
def mergeBulkFreeBitMapIntoAllocBitMap : Option Run := do
  if r.isThreadLocal then none
  let fsvi := (List.range r.allocBitMap.length).foldl
    (fun fsvi v => if r.bulkFreeBitMap.getD v 0 ≠ 0 then min fsvi v else fsvi) r.firstSearchVecIdx
  some { r with
    firstSearchVecIdx := fsvi
    allocBitMap := List.zipWith (fun vec free => vec &&& ~~~free) r.allocBitMap r.bulkFreeBitMap
    bulkFreeBitMap := r.bulkFreeBitMap.map fun _ => 0
    length_allocBitMap := by
      rw [List.length_zipWith, r.length_allocBitMap, r.length_bulkFreeBitMap, Nat.min_self]
    length_bulkFreeBitMap := by rw [List.length_map, r.length_bulkFreeBitMap] }

/-- `UnionBulkFreeBitMapToThreadLocalFreeBitMap()`. -/
def unionBulkFreeBitMapToThreadLocalFreeBitMap : Option Run := do
  if !r.isThreadLocal then none
  some { r with
    threadLocalFreeBitMap :=
      List.zipWith (fun tl free => tl ||| free) r.threadLocalFreeBitMap r.bulkFreeBitMap
    bulkFreeBitMap := r.bulkFreeBitMap.map fun _ => 0
    length_threadLocalFreeBitMap := by
      rw [List.length_zipWith, r.length_threadLocalFreeBitMap, r.length_bulkFreeBitMap,
        Nat.min_self]
    length_bulkFreeBitMap := by rw [List.length_map, r.length_bulkFreeBitMap] }

/-- One word `v` of the loop of `MergeThreadLocalFreeBitMapToAllocBitMap`: `is_all_free_after`
goes on only through zero words and, at the last word, through a word equal to the mask, which
the `&&` computes only while `is_all_free_after` still holds. -/
def mergeThreadLocalWord (numSlots numVec : Nat) (isAllFreeAfter : Bool) (v : Nat)
    (vecAfter : BitVec 32) : Option Bool :=
  if vecAfter = 0 then some isAllFreeAfter
  else if v = numVec - 1 then
    if isAllFreeAfter then (getBitmapLastVectorMask numSlots numVec).map (· = vecAfter)
    else some false
  else some false

/-- `MergeThreadLocalFreeBitMapToAllocBitMap(&is_all_free_after)`: whether a bit changed, the
reported `is_all_free_after`, and the run after. -/
def mergeThreadLocalFreeBitMapToAllocBitMap : Option (Bool × Bool × Run) := do
  if !r.isThreadLocal then none
  let numSlots := numOfSlots r.sizeBracketIdx
  let numVec := (numSlots + 31) / 32
  let after := List.zipWith (fun vec free => vec &&& ~~~free) r.allocBitMap r.threadLocalFreeBitMap
  let isAllFreeAfter ← (List.range numVec).foldlM
    (fun acc v => mergeThreadLocalWord numSlots numVec acc v (after.getD v 0)) true
  let changed := r.threadLocalFreeBitMap.any (· ≠ 0)
  let fsvi := (List.range numVec).foldl
    (fun fsvi v => if r.threadLocalFreeBitMap.getD v 0 ≠ 0 then min fsvi v else fsvi)
    r.firstSearchVecIdx
  some (changed, isAllFreeAfter, { r with
    firstSearchVecIdx := fsvi
    allocBitMap := after
    threadLocalFreeBitMap := r.threadLocalFreeBitMap.map fun _ => 0
    length_allocBitMap := by
      rw [List.length_zipWith, r.length_allocBitMap, r.length_threadLocalFreeBitMap,
        Nat.min_self]
    length_threadLocalFreeBitMap := by rw [List.length_map, r.length_threadLocalFreeBitMap] })

end Run

/-- The run that `AllocRun(self, idx)` finds on the pages `AllocPages` returns, which hold zeros:
its bracket set and nothing else. -/
def freshRun (idx : Nat) : Run where
  sizeBracketIdx := idx
  isThreadLocal := false
  firstSearchVecIdx := 0
  allocBitMap := List.replicate (numberOfBitmapVectors idx) 0
  bulkFreeBitMap := List.replicate (numberOfBitmapVectors idx) 0
  threadLocalFreeBitMap := List.replicate (numberOfBitmapVectors idx) 0
  length_allocBitMap := List.length_replicate
  length_bulkFreeBitMap := List.length_replicate
  length_threadLocalFreeBitMap := List.length_replicate

/-- `AllocRun(self, idx)` once `AllocPages` has returned the pages: the invalid slots marked. -/
def allocRun (idx : Nat) : Option Run := (freshRun idx).setAllocBitMapBitsForInvalidSlots

/-! ## The mask of the invalid slots -/

theorem toNat_one_shiftLeft {r : Nat} (hr : r < 32) : (1#32 <<< r).toNat = 2 ^ r := by
  have : 2 ^ r < 2 ^ 32 := Nat.pow_lt_pow_right (by decide) hr
  rw [BitVec.toNat_shiftLeft, BitVec.toNat_ofNat, Nat.shiftLeft_eq]
  simpa using this

theorem getLsbD_one_shiftLeft_sub_one {r : Nat} (hr : r < 32) (k : Nat) :
    ((1#32 <<< r) - 1).getLsbD k = decide (k < r) := by
  have hpos : 0 < 2 ^ r := Nat.two_pow_pos r
  have hlt : 2 ^ r < 2 ^ 32 := Nat.pow_lt_pow_right (by decide) hr
  have htoNat : ((1#32 <<< r) - 1).toNat = 2 ^ r - 1 := by
    rw [BitVec.toNat_sub, toNat_one_shiftLeft hr]
    simp
    omega
  rw [BitVec.getLsbD, htoNat, Nat.testBit_two_pow_sub_one]

theorem getLsbD_getBitmapLastVectorMask {numSlots : Nat} {mask : BitVec 32}
    (h : getBitmapLastVectorMask numSlots ((numSlots + 31) / 32) = some mask) (i : Nat) :
    mask.getLsbD i = (decide (numSlots % 32 ≤ i) && decide (i < 32)) := by
  have hremain : (numSlots + 31) / 32 * 32 - numSlots = (32 - numSlots % 32) % 32 := by omega
  unfold getBitmapLastVectorMask at h
  simp only [hremain] at h
  split_ifs at h with h1 h2 h3
  cases h
  have hm : 32 - (32 - numSlots % 32) % 32 = numSlots % 32 := by omega
  rw [BitVec.getLsbD_shiftLeft, getLsbD_one_shiftLeft_sub_one h3.1, hm]
  by_cases hi : i < 32 <;> by_cases hmi : numSlots % 32 ≤ i <;> simp [hi, hmi]
  omega

theorem getBitmapLastVectorMask_eq_none_iff {numSlots : Nat} (h : 0 < numSlots) :
    getBitmapLastVectorMask numSlots ((numSlots + 31) / 32) = none ↔ numSlots % 32 = 0 := by
  have hremain : (numSlots + 31) / 32 * 32 - numSlots = (32 - numSlots % 32) % 32 := by omega
  unfold getBitmapLastVectorMask
  rw [if_neg (by omega)]
  simp only [hremain]
  constructor
  · intro hnone
    by_contra hmod
    rw [if_neg (by omega), if_pos (by omega)] at hnone
    exact Option.some_ne_none _ hnone
  · intro hmod
    rw [hmod, if_neg (by decide), if_neg (by decide)]

/-! ## A new run -/

theorem allocRun_eq {idx : Nat} (h : 0 < numOfSlots idx) :
    allocRun idx = (getBitmapLastVectorMask (numOfSlots idx) ((numOfSlots idx + 31) / 32)).map
      fun mask => { freshRun idx with
        allocBitMap := (freshRun idx).allocBitMap.modify ((numOfSlots idx + 31) / 32 - 1)
          (· ||| mask)
        length_allocBitMap := by
          rw [List.length_modify, (freshRun idx).length_allocBitMap] } := by
  have hidx : (freshRun idx).sizeBracketIdx = idx := rfl
  unfold allocRun Run.setAllocBitMapBitsForInvalidSlots
  simp only [hidx]
  rw [if_neg (by omega)]
  cases getBitmapLastVectorMask (numOfSlots idx) ((numOfSlots idx + 31) / 32) <;> rfl

theorem allocRun_eq_none_iff {idx : Nat} (h : 0 < numOfSlots idx) :
    allocRun idx = none ↔ numOfSlots idx % 32 = 0 := by
  rw [allocRun_eq h, Option.map_eq_none_iff, getBitmapLastVectorMask_eq_none_iff h]

/-- A new run has exactly the bits of the invalid slots set. -/
theorem isAllocated_allocRun {idx : Nat} {r : Run} (h : allocRun idx = some r) {i : Nat}
    (hi : i < 32 * numberOfBitmapVectors idx) : r.isAllocated i = decide (numOfSlots idx ≤ i) := by
  have hpos : 0 < numOfSlots idx := by
    by_contra h0
    simp [numberOfBitmapVectors] at hi
    omega
  rw [allocRun_eq hpos, Option.map_eq_some_iff] at h
  obtain ⟨mask, hmask, rfl⟩ := h
  have hword : i / 32 < numberOfBitmapVectors idx := by omega
  simp only [Run.isAllocated, freshRun, List.getD_eq_getElem?_getD, List.getElem?_modify,
    List.getElem?_replicate, if_pos hword, Option.map_eq_map, Option.map_some, Option.getD_some]
  unfold numberOfBitmapVectors at hword hi
  have hzero : (0 : BitVec 32) = 0#32 := rfl
  by_cases hlast : (numOfSlots idx + 31) / 32 - 1 = i / 32
  · rw [if_pos hlast, hzero, BitVec.zero_or, getLsbD_getBitmapLastVectorMask hmask]
    have hmod : numOfSlots idx % 32 ≠ 0 := by
      intro h0
      rw [(getBitmapLastVectorMask_eq_none_iff hpos).2 h0] at hmask
      cases hmask
    simp only [Nat.mod_lt i (show 0 < 32 by decide), decide_true, Bool.and_true, decide_eq_decide]
    omega
  · rw [if_neg hlast, hzero, BitVec.getLsbD_zero]
    simp only [false_eq_decide_iff, not_le]
    omega

/-! ## `AllocSlot` -/

theorem ffs_of_ne_zero {x : BitVec 32} (hx : x ≠ 0) : ffs x = x.ctz.toNat + 1 := if_neg hx

theorem ffs_ne_zero_iff {x : BitVec 32} : ffs x ≠ 0 ↔ x ≠ 0 := by
  by_cases hx : x = 0
  · simp [ffs, hx]
  · exact ⟨fun _ => hx, fun _ => by rw [ffs_of_ne_zero hx]; omega⟩

theorem toNat_ctz_lt {x : BitVec 32} (hx : x ≠ 0) : x.ctz.toNat < 32 := by
  have h := BitVec.ctz_lt_iff_ne_zero.2 hx
  rw [BitVec.lt_def] at h
  simpa using h

/-- Below the lowest zero bit of a word, found as the lowest set bit of its complement, every bit
is set. -/
theorem getLsbD_of_lt_ctz_not {w : BitVec 32} (hw : ~~~w ≠ 0) {k : Nat}
    (hk : k < (~~~w).ctz.toNat) : w.getLsbD k = true := by
  have hnot := BitVec.getLsbD_false_of_lt_ctz hk
  have hk32 : k < 32 := lt_trans hk (toNat_ctz_lt hw)
  simpa [BitVec.getLsbD_not, hk32] using hnot

theorem getLsbD_ctz_not {w : BitVec 32} (hw : ~~~w ≠ 0) : w.getLsbD (~~~w).ctz.toNat = false := by
  have hbit := BitVec.getLsbD_true_ctz_of_ne_zero hw
  simp only [BitVec.getLsbD_not, Bool.and_eq_true, decide_eq_true_eq, Bool.not_eq_true'] at hbit
  exact hbit.2

theorem getLsbD_of_not_eq_zero {w : BitVec 32} (hw : ~~~w = 0) {k : Nat} (hk : k < 32) :
    w.getLsbD k = true := by
  have hbit := congrArg (BitVec.getLsbD · k) hw
  simp only [BitVec.getLsbD_not, hk, decide_true, Bool.true_and] at hbit
  simpa using hbit

theorem getLsbD_one_shiftLeft {c : Nat} (hc : c < 32) (i : Nat) :
    (1#32 <<< c).getLsbD i = decide (i = c) := by
  rw [BitVec.getLsbD_shiftLeft, BitVec.getLsbD_one]
  by_cases hic : i = c
  · subst hic
    simp [hc]
  · by_cases hlt : i < c <;> simp [hic, hlt]
    omega

theorem isAllocated_set {r r' : Run} {v : Nat} {w : BitVec 32}
    (hbm : r'.allocBitMap = r.allocBitMap.set v w) (j : Nat) :
    r'.isAllocated j = if j / 32 = v ∧ v < r.allocBitMap.length then w.getLsbD (j % 32)
      else r.isAllocated j := by
  unfold Run.isAllocated
  rw [hbm, List.getD_eq_getElem?_getD, List.getD_eq_getElem?_getD, List.getElem?_set]
  by_cases hv : v = j / 32
  · subst hv
    by_cases hlen : j / 32 < r.allocBitMap.length
    · simp [hlen]
    · simp [hlen]
  · simp [hv, Ne.symm hv]

/-- What the loop of `AllocSlot` has seen when it stops at a word with a zero bit: the words
before it are full, which the debug build checks at every round. -/
theorem allocSlotLoop_found {numWords : Nat} {bm : List (BitVec 32)} {fuel fsvi v : Nat}
    (h : Run.allocSlotLoop numWords bm fuel fsvi = some (v, true)) :
    (∀ u < v, ∀ w, bm[u]? = some w → ~~~w = 0) ∧ ∃ w, bm[v]? = some w ∧ ~~~w ≠ 0 := by
  induction fuel generalizing fsvi with
  | zero => simp [Run.allocSlotLoop] at h
  | succ fuel ih =>
    unfold Run.allocSlotLoop at h
    by_cases hcheck : (bm.take fsvi).any (~~~· ≠ 0) = true
    · rw [if_pos hcheck] at h
      simp [Option.bind_eq_bind] at h
    rw [if_neg hcheck] at h
    cases hw : bm[fsvi]? with
    | none => simp [hw] at h
    | some w =>
      simp only [hw, Option.bind_eq_bind, Option.bind_some] at h
      by_cases hfound : ffs (~~~w) ≠ 0
      · rw [if_pos hfound] at h
        cases h
        refine ⟨fun u hu w' hw' => ?_, w, hw, ffs_ne_zero_iff.1 hfound⟩
        have hmem : w' ∈ bm.take v := List.mem_iff_getElem?.2 ⟨u, by rw [List.getElem?_take, if_pos hu, hw']⟩
        have hfull := List.any_eq_false.1 (Bool.not_eq_true _ ▸ hcheck) w' hmem
        exact not_not.1 (by simpa only [decide_eq_true_eq] using hfull)
      · rw [if_neg hfound] at h
        split_ifs at h with hlast
        · simp at h
        · exact ih h

/-- `AllocSlot` hands out the lowest free slot: its bit was clear, every lower bit was set, and
the run after differs from the run before in that bit only. -/
theorem allocSlot_lowest {r r' : Run} {offset : Nat} (h : r.allocSlot = some (some offset, r')) :
    ∃ slot, slot < numOfSlots r.sizeBracketIdx ∧
      offset = headerSizes r.sizeBracketIdx + slot * bracketSizes r.sizeBracketIdx ∧
      r.isAllocated slot = false ∧ (∀ j < slot, r.isAllocated j = true) ∧
      ∀ j, r'.isAllocated j = (decide (j = slot) || r.isAllocated j) := by
  unfold Run.allocSlot at h
  simp only [Option.bind_eq_bind] at h
  obtain ⟨⟨v, found⟩, hloop, h⟩ := Option.bind_eq_some_iff.1 h
  cases found with
  | false => simp at h
  | true =>
    obtain ⟨hbefore, w, hw, hfree⟩ := allocSlotLoop_found hloop
    simp only [if_true, hw, Option.bind_some] at h
    split_ifs at h with hslot
    · simp at h
    simp only [Option.some.injEq, Prod.mk.injEq] at h
    obtain ⟨rfl, rfl⟩ := h
    have hv : v < r.allocBitMap.length := (List.getElem?_eq_some_iff.1 hw).1
    have hword : r.allocBitMap.getD v 0 = w := by rw [List.getD_eq_getElem?_getD, hw, Option.getD_some]
    simp only [ffs_of_ne_zero hfree, Nat.add_sub_cancel] at hslot ⊢
    have hctz := toNat_ctz_lt hfree
    refine ⟨(~~~w).ctz.toNat + v * 32, Nat.lt_of_not_le hslot, rfl, ?_, fun j hj => ?_, fun j => ?_⟩
    · -- the bit of the slot is the lowest zero bit of its word
      have hdiv : ((~~~w).ctz.toNat + v * 32) / 32 = v := by omega
      have hmod : ((~~~w).ctz.toNat + v * 32) % 32 = (~~~w).ctz.toNat := by omega
      rw [Run.isAllocated, hdiv, hmod, hword, getLsbD_ctz_not hfree]
    · -- below it, a full word before `v` or a lower bit of the word `v`
      by_cases hjv : j / 32 < v
      · have hju : j / 32 < r.allocBitMap.length := lt_trans hjv hv
        have hget : r.allocBitMap[j / 32]? = some (r.allocBitMap.getD (j / 32) 0) := by
          rw [List.getD_eq_getElem?_getD, List.getElem?_eq_getElem hju, Option.getD_some]
        exact getLsbD_of_not_eq_zero (hbefore _ hjv _ hget) (Nat.mod_lt _ (by decide))
      · have hjdiv : j / 32 = v := by omega
        rw [Run.isAllocated, hjdiv, hword]
        exact getLsbD_of_lt_ctz_not hfree (by omega)
    · -- after it, the word `v` has that bit set and the other words are unchanged
      rw [isAllocated_set rfl j]
      by_cases hjv : j / 32 = v
      · rw [if_pos ⟨hjv, hv⟩, BitVec.getLsbD_or, Run.isAllocated, hjv, hword,
          getLsbD_one_shiftLeft hctz]
        have hiff : j % 32 = (~~~w).ctz.toNat ↔ j = (~~~w).ctz.toNat + v * 32 := by omega
        rw [decide_eq_decide.2 hiff, Bool.or_comm]
      · have hne : j ≠ (~~~w).ctz.toNat + v * 32 := by omega
        rw [if_neg (fun h => hjv h.1)]
        simp [hne]

/-! ## Bracket 20 -/

theorem numOfSlots_twenty : numOfSlots 20 = 96 := by decide

/-- Of the 34 brackets, only bracket 20 has a number of slots that fills its last bitmap word. -/
theorem numOfSlots_mod_eq_zero_iff :
    ∀ idx < kNumOfSizeBrackets, numOfSlots idx % 32 = 0 ↔ idx = 20 := by
  decide

/-- **The mask of bracket 20 is undefined.**  Bracket 20 (336-byte slots on 8 pages) has 96 slots,
three full words: `GetBitmapLastVectorMask` then shifts `0U` by 32, so `AllocRun` of that bracket,
and `IsAllFree` of a free run of it, are undefined. -/
theorem rosAllocRun_last_vector_mask_undefined :
    numOfSlots 20 = 96 ∧ allocRun 20 = none ∧ (freshRun 20).isAllFree = none := by
  refine ⟨numOfSlots_twenty, ?_, ?_⟩
  · rw [allocRun_eq_none_iff (by rw [numOfSlots_twenty]; decide), numOfSlots_twenty]
  · decide

end RosAlloc

end Art
