import AndroidArt.Gc.RosAlloc
import AndroidArt.Lib.Align

/-!
# The free-list large object space

Model of `FreeListSpace` (`runtime/gc/space/large_object_space.cc` and `large_object_space.h`):
`AllocationInfo`, the order `SortByPrevFree`, `Create`, `RemoveFreePrev`, `Alloc`, `Free`,
`Walk` and `AllocationSize`.

The space is cut into units of `kAlignment` bytes, and `allocation_info_` has one
`AllocationInfo` per unit, named by its slot index.  `free_blocks_` is a `std::set` of slots
ordered by `SortByPrevFree`, which reads the infos as they are when it compares; the model keeps it
as a list in the set's order, looks elements up as `lower_bound` does and inserts them where
`insert` does.  `lower_bound(&temp_info)` in `Alloc` compares the address of a stack object with
the addresses of the infos; the source does not fix that order, and it matters only against an
info with `prev_free_ = allocation_size` and `AlignSize() = 0`: the model puts `temp_info` first.

The model is the debug build: a failed `CHECK` or `DCHECK`, and an info read outside
`allocation_info_`, end the call with `none`; the `DCHECK_ALIGNED` of `SetByteSize` and
`SetPrevFreeBytes` hold for every size the space passes them and are not modelled.  So do the
`DCHECK`s of `GetSlotIndexForAllocationInfo` in `Walk`, which reads only infos below `end_info`;
in `Free` they fail for the info after an object that ends at `End()`.  `Walk` runs its loop with one round more than there are units,
which a loop that advances by at least one unit a round never needs: it is `none` also when the
loop would not end.  The memory of the objects (`madvise`, `mprotect`), the lock and the totals
that only `LargeObjectSpace` reports are not modelled.

* `alloc_zero_clobbers_free_block` — `Alloc(0)`, with a free block to take, marks the first unit
  of that block live with size 0 and leaves the block in `free_blocks_` as before.
* `walkLoop_of_alignSize_zero` — `Walk` does not end once it reaches an info of size 0.
* `freeListSpace_alloc_zero_breaks_partition` — the run `Alloc(4096)`, `Alloc(4096)`, `Free`,
  `Alloc(0)` on a space of three pages: the free block's info is left live with size 0, `Walk`
  never ends, and `Free` of the object `Alloc(0)` returned fails.
-/

set_option autoImplicit false

namespace Art

namespace FreeListSpace

/-- `FreeListSpace::kAlignment`, `kPageSize`. -/
def kAlignment : Nat := kPageSize

/-- `AllocationInfo::kFlagFree`. -/
def kFlagFree : BitVec 32 := 0x8000000

end FreeListSpace

/-- `AllocationInfo`: `prev_free_`, the units of the free block before this one, and
`alloc_size_`, the units of this block with `kFlagFree` for a free one. -/
structure AllocationInfo where
  prevFree : BitVec 32
  allocSize : BitVec 32
  deriving DecidableEq, Repr

namespace AllocationInfo

open FreeListSpace

variable (a : AllocationInfo)

/-- `AlignSize()`. -/
def alignSize : Nat := (a.allocSize &&& ~~~kFlagFree).toNat

/-- `ByteSize()`. -/
def byteSize : Nat := a.alignSize * kAlignment

/-- `SetByteSize(size, free)`. -/
def setByteSize (size : Nat) (free : Bool) : AllocationInfo :=
  { a with allocSize := BitVec.ofNat 32 (size / kAlignment) ||| if free then kFlagFree else 0 }

/-- `IsFree()`. -/
def isFree : Bool := a.allocSize &&& kFlagFree != 0

/-- `GetPrevFree()`. -/
def getPrevFree : Nat := a.prevFree.toNat

/-- `GetPrevFreeBytes()`. -/
def getPrevFreeBytes : Nat := a.getPrevFree * kAlignment

/-- `SetPrevFreeBytes(bytes)`. -/
def setPrevFreeBytes (bytes : Nat) : AllocationInfo :=
  { a with prevFree := BitVec.ofNat 32 (bytes / kAlignment) }

end AllocationInfo

/-- The state of a `FreeListSpace` that `Alloc`, `Free` and `Walk` use. -/
structure FreeListSpace where
  /-- `Begin()`. -/
  begin : Nat
  /-- `End()`. -/
  end_ : Nat
  allocationInfo : List AllocationInfo
  freeEnd : Nat
  freeBlocks : List Nat
  numObjectsAllocated : Nat
  numBytesAllocated : Nat
  deriving DecidableEq, Repr

namespace FreeListSpace

variable (s : FreeListSpace)

/-- `allocation_info_[i]`, undefined past the map. -/
def info (i : Nat) : Option AllocationInfo := s.allocationInfo[i]?

/-- A write to `allocation_info_[i]`. -/
def setInfo (i : Nat) (a : AllocationInfo) : FreeListSpace :=
  { s with allocationInfo := s.allocationInfo.set i a }

/-- `GetSlotIndexForAddress(address)`, with its `DCHECK(Contains(...))`. -/
def getSlotIndexForAddress (address : Nat) : Option Nat :=
  if s.begin ≤ address ∧ address < s.end_ then some ((address - s.begin) / kAlignment) else none

/-- `GetAllocationAddressForSlot(slot)`. -/
def getAllocationAddressForSlot (slot : Nat) : Nat := s.begin + slot * kAlignment

/-- `GetSlotIndexForAllocationInfo(info)`, with its `DCHECK_GE(info, allocation_info_)`, which
every slot passes, and its `DCHECK_LT(info, allocation_info_map_->End())`: the map ends right
after the info of the last unit. -/
def getSlotIndexForAllocationInfo (info : Nat) : Option Nat :=
  if info < s.allocationInfo.length then some info else none

/-- `GetAddressForAllocationInfo(info)`. -/
def getAddressForAllocationInfo (info : Nat) : Option Nat :=
  (s.getSlotIndexForAllocationInfo info).map s.getAllocationAddressForSlot

/-- `Contains(obj)` of `LargeObjectSpace`: the address is in `[Begin(), End())`. -/
def contains (obj : Nat) : Bool := decide (s.begin ≤ obj ∧ obj < s.end_)

/-! ## The set `free_blocks_` -/

/-- `SortByPrevFree` on two infos of the map: by `prev_free_`, then `AlignSize()`, then address. -/
def sortByPrevFree (a b : Nat) : Bool :=
  let ia := (s.info a).getD ⟨0, 0⟩
  let ib := (s.info b).getD ⟨0, 0⟩
  ia.getPrevFree < ib.getPrevFree ||
    ia.getPrevFree == ib.getPrevFree &&
      (ia.alignSize < ib.alignSize || ia.alignSize == ib.alignSize && a < b)

/-- `free_blocks_.lower_bound(info)`: the first element that does not come before `info`. -/
def lowerBound (i : Nat) : Option Nat := s.freeBlocks.find? fun e => !s.sortByPrevFree e i

/-- `free_blocks_.lower_bound(&temp_info)` for a `temp_info` with `prev_free_` set to `prevFree`
units and `AlignSize() = 0`, ordered before the infos it ties with. -/
def lowerBoundTemp (prevFree : Nat) : Option Nat :=
  s.freeBlocks.find? fun e => prevFree ≤ ((s.info e).getD ⟨0, 0⟩).getPrevFree

/-- `free_blocks_.insert(info)`: before the first element that comes after it, unless it is there. -/
def insertFreeBlock (i : Nat) : FreeListSpace :=
  if i ∈ s.freeBlocks then s
  else
    let before := s.freeBlocks.takeWhile fun e => s.sortByPrevFree e i
    { s with freeBlocks := before ++ i :: s.freeBlocks.drop before.length }

/-- `free_blocks_.erase(it)`. -/
def eraseFreeBlock (i : Nat) : FreeListSpace := { s with freeBlocks := s.freeBlocks.erase i }

/-- `RemoveFreePrev(info)`: the `CHECK`s that `info` has a free block before it and is in the set. -/
def removeFreePrev (i : Nat) : Option FreeListSpace := do
  let a ← s.info i
  if a.getPrevFree = 0 then none
  if s.lowerBound i ≠ some i then none
  some (s.eraseFreeBlock i)

/-! ## `Create`, `Alloc`, `Free` and `Walk` -/

/-- `FreeListSpace::Create(name, requested_begin, size)` at `begin`: the whole space is the end
free region, and the anonymous map of infos holds zeros. -/
def create (begin size : Nat) : Option FreeListSpace :=
  if size % kAlignment ≠ 0 then none
  else some ⟨begin, begin + size, List.replicate (size / kAlignment) ⟨0, 0⟩, size, [], 0, 0⟩

/-- The end of `Alloc` once it has chosen the info `newInfo`: the counters, and the info marked
live with the allocation's size. -/
def allocAt (newInfo allocationSize : Nat) : Option (Option (Nat × Nat) × FreeListSpace) := do
  let a ← s.info newInfo
  let s := { s with
    numObjectsAllocated := s.numObjectsAllocated + 1
    numBytesAllocated := s.numBytesAllocated + allocationSize }
  let obj ← s.getAddressForAllocationInfo newInfo
  some (some (obj, allocationSize),
    s.setInfo newInfo ((a.setPrevFreeBytes 0).setByteSize allocationSize false))

/-- `Alloc(self, num_bytes, &bytes_allocated, &usable_size)`: the object's address and
`bytes_allocated`, or `nullptr`. -/
def alloc (numBytes : Nat) : Option (Option (Nat × Nat) × FreeListSpace) :=
  let allocationSize := Align.roundUp numBytes kAlignment
  let tempPrevFree := (BitVec.ofNat 32 (allocationSize / kAlignment)).toNat
  match s.lowerBoundTemp tempPrevFree with
  | some i => do
    let s := s.eraseFreeBlock i
    let a ← s.info i
    if a.getPrevFree = 0 then none
    let newInfo := i - a.getPrevFree
    let a := a.setPrevFreeBytes (a.getPrevFreeBytes - allocationSize)
    let s := s.setInfo i a
    if 0 < a.getPrevFreeBytes then
      let newFree := i - a.getPrevFree
      let f ← s.info newFree
      let s := s.setInfo newFree ((f.setPrevFreeBytes 0).setByteSize a.getPrevFreeBytes true)
      (s.insertFreeBlock i).allocAt newInfo allocationSize
    else s.allocAt newInfo allocationSize
  | none =>
    if allocationSize ≤ s.freeEnd then do
      let newInfo ← s.getSlotIndexForAddress (s.end_ - s.freeEnd)
      { s with freeEnd := s.freeEnd - allocationSize }.allocAt newInfo allocationSize
    else some (none, s)

/-- `Free(self, obj)`: the size it returns, coalescing the block with a free block before it and
with a free block or the end region after it. -/
def free (obj : Nat) : Option (Nat × FreeListSpace) := do
  let i ← s.getSlotIndexForAddress obj
  if obj % kAlignment ≠ 0 then none
  let a ← s.info i
  if a.isFree then none
  let allocationSize := a.byteSize
  if allocationSize = 0 then none
  let a := a.setByteSize allocationSize true
  let s := s.setInfo i a
  let nextInfo := i + a.alignSize
  let freeEndStart := s.end_ - s.freeEnd
  let prevFreeBytes := a.getPrevFreeBytes
  let (cur, newFreeSize, s) ← if prevFreeBytes ≠ 0 then do
      let s ← s.removeFreePrev i
      let cur := i - a.getPrevFree
      let c ← s.info cur
      if c.getPrevFreeBytes ≠ 0 then none
      some (cur, allocationSize + prevFreeBytes, s)
    else some (i, allocationSize, s)
  let nextAddr ← s.getAddressForAllocationInfo nextInfo
  let s ← if freeEndStart ≤ nextAddr then do
      if nextAddr ≠ freeEndStart then none
      some { s with freeEnd := s.freeEnd + newFreeSize }
    else do
      let n ← s.info nextInfo
      let (newFreeInfo, newFreeSize, s) ← if n.isFree then do
          let nextNext := nextInfo + n.alignSize
          let nn ← s.info nextNext
          if nn.isFree then none
          let s ← s.removeFreePrev nextNext
          some (nextNext, newFreeSize + nn.getPrevFreeBytes, s)
        else some (nextInfo, newFreeSize, s)
      let f ← s.info newFreeInfo
      let s := (s.setInfo newFreeInfo (f.setPrevFreeBytes newFreeSize)).insertFreeBlock newFreeInfo
      let c ← s.info cur
      let c := c.setByteSize newFreeSize true
      if cur + c.alignSize ≠ newFreeInfo then none
      some (s.setInfo cur c)
  if s.numBytesAllocated < allocationSize then none
  some (allocationSize, { s with
    numObjectsAllocated := s.numObjectsAllocated - 1
    numBytesAllocated := s.numBytesAllocated - allocationSize })

/-- The loop of `Walk` from the info `cur` to `endInfo`, the start of the end free region: the
start and size of each live block it passes to the callback. -/
def walkLoop (endInfo : Nat) : Nat → Nat → Option (List (Nat × Nat))
  | 0, _ => none
  | fuel + 1, cur =>
    if cur < endInfo then do
      let a ← s.info cur
      let rest ← walkLoop endInfo fuel (cur + a.alignSize)
      if a.isFree then some rest
      else some ((s.getAllocationAddressForSlot cur, a.byteSize) :: rest)
    else if cur = endInfo then some []
    else none

/-- `Walk(callback, arg)`. -/
def walk : Option (List (Nat × Nat)) := do
  let endInfo ← s.getSlotIndexForAddress (s.end_ - s.freeEnd)
  s.walkLoop endInfo (s.allocationInfo.length + 1) 0

/-- `AllocationSize(obj, usable_size)`: the `ByteSize()` of the info of the object's unit, which
is also what it stores to `usable_size`. -/
def allocationSize (obj : Nat) : Option Nat := do
  let i ← s.getSlotIndexForAddress obj
  let a ← s.info i
  if a.isFree then none
  some a.byteSize

/-! ## What `Alloc(0)` does to a free block -/

theorem info_setInfo_self {i : Nat} (h : i < s.allocationInfo.length) (a : AllocationInfo) :
    (s.setInfo i a).info i = some a := by
  simp [info, setInfo, h]

theorem info_setInfo_of_ne {i j : Nat} (h : j ≠ i) (a : AllocationInfo) :
    (s.setInfo i a).info j = s.info j := by
  simp [info, setInfo, Ne.symm h]

@[simp] theorem length_setInfo (i : Nat) (a : AllocationInfo) :
    (s.setInfo i a).allocationInfo.length = s.allocationInfo.length := by
  simp [setInfo]

@[simp] theorem info_insertFreeBlock (i j : Nat) : (s.insertFreeBlock i).info j = s.info j := by
  unfold insertFreeBlock
  split <;> rfl

@[simp] theorem allocationInfo_insertFreeBlock (i : Nat) :
    (s.insertFreeBlock i).allocationInfo = s.allocationInfo := by
  unfold insertFreeBlock
  split <;> rfl

@[simp] theorem begin_insertFreeBlock (i : Nat) : (s.insertFreeBlock i).begin = s.begin := by
  unfold insertFreeBlock
  split <;> rfl

theorem mem_insertFreeBlock (i : Nat) : i ∈ (s.insertFreeBlock i).freeBlocks := by
  unfold insertFreeBlock
  split
  · assumption
  · simp

theorem getAddressForAllocationInfo_of_lt {i : Nat} (h : i < s.allocationInfo.length) :
    s.getAddressForAllocationInfo i = some (s.getAllocationAddressForSlot i) := by
  simp [getAddressForAllocationInfo, getSlotIndexForAllocationInfo, h]

/-- The end of `Alloc` at an info of the map. -/
theorem allocAt_of_info {newInfo bytes : Nat} {a : AllocationInfo}
    (ha : s.info newInfo = some a) :
    s.allocAt newInfo bytes = some (some (s.getAllocationAddressForSlot newInfo, bytes),
      ({ s with numObjectsAllocated := s.numObjectsAllocated + 1
                numBytesAllocated := s.numBytesAllocated + bytes } : FreeListSpace).setInfo
        newInfo ((a.setPrevFreeBytes 0).setByteSize bytes false)) := by
  have hlt : newInfo < s.allocationInfo.length := (List.getElem?_eq_some_iff.1 ha).1
  simp only [allocAt, ha, Option.bind_eq_bind, Option.bind_some]
  rw [getAddressForAllocationInfo_of_lt _ (by exact hlt)]
  rfl

theorem AllocationInfo.setPrevFreeBytes_getPrevFreeBytes (a : AllocationInfo) :
    a.setPrevFreeBytes a.getPrevFreeBytes = a := by
  simp [AllocationInfo.setPrevFreeBytes, AllocationInfo.getPrevFreeBytes,
    AllocationInfo.getPrevFree, kAlignment, kPageSize]

/-- `Alloc(0)` with a free block in the set: `lower_bound` of a `temp_info` with `prev_free_ = 0`
is the first block of the set, and the allocation of no units at its start marks the block's first
unit live with size 0, after it has been written back as a free block; the info after the block,
which keeps `prev_free_`, goes back into the set. -/
theorem alloc_zero_clobbers_free_block {i : Nat} {rest : List Nat} {a : AllocationInfo}
    (hblocks : s.freeBlocks = i :: rest) (ha : s.info i = some a) (hprev : 0 < a.getPrevFree)
    (hstart : a.getPrevFree ≤ i) :
    ∃ s', s.alloc 0 = some (some (s.getAllocationAddressForSlot (i - a.getPrevFree), 0), s') ∧
      s'.info (i - a.getPrevFree) = some ⟨0, 0⟩ ∧ s'.info i = some a ∧ i ∈ s'.freeBlocks := by
  have hround : Align.roundUp 0 kAlignment = 0 := by decide
  have hlb : s.lowerBoundTemp 0 = some i := by
    simp [lowerBoundTemp, hblocks]
  have hi : i < s.allocationInfo.length := (List.getElem?_eq_some_iff.1 ha).1
  have hne : i - a.getPrevFree ≠ i := by omega
  obtain ⟨f, hf⟩ : ∃ f, s.info (i - a.getPrevFree) = some f :=
    ⟨_, List.getElem?_eq_getElem (by omega)⟩
  have hpos : 0 < a.getPrevFreeBytes := by
    simp only [AllocationInfo.getPrevFreeBytes, kAlignment, kPageSize]
    omega
  have herase : (s.eraseFreeBlock i).info i = some a := ha
  have hs₂ : ((s.eraseFreeBlock i).setInfo i a).info (i - a.getPrevFree) = some f := by
    rw [info_setInfo_of_ne _ hne]
    exact hf
  have hlen₂ : i - a.getPrevFree < ((s.eraseFreeBlock i).setInfo i a).allocationInfo.length := by
    simp only [length_setInfo, eraseFreeBlock]
    omega
  have hs₄ : ((((s.eraseFreeBlock i).setInfo i a).setInfo (i - a.getPrevFree)
      ((f.setPrevFreeBytes 0).setByteSize a.getPrevFreeBytes true)).insertFreeBlock i).info
        (i - a.getPrevFree) = some ((f.setPrevFreeBytes 0).setByteSize a.getPrevFreeBytes true) := by
    rw [info_insertFreeBlock, info_setInfo_self _ hlen₂]
  refine ⟨?s', ?alloc, ?clobbered, ?kept, ?inSet⟩
  case alloc =>
    simp only [alloc, hround, Nat.zero_div, BitVec.toNat_ofNat, Nat.zero_mod, hlb, Option.bind_eq_bind, herase, Option.bind_some,
      Nat.ne_of_gt hprev, if_false, Nat.sub_zero, AllocationInfo.setPrevFreeBytes_getPrevFreeBytes,
      hpos, if_true, hs₂, allocAt_of_info _ hs₄]
    simp only [getAllocationAddressForSlot, begin_insertFreeBlock]
    rfl
  case clobbered =>
    rw [info_setInfo_self _ (by simpa [eraseFreeBlock] using hlen₂)]
    rfl
  case kept =>
    rw [info_setInfo_of_ne _ (Ne.symm hne)]
    change ((((s.eraseFreeBlock i).setInfo i a).setInfo (i - a.getPrevFree) _).insertFreeBlock i).info i
      = some a
    rw [info_insertFreeBlock, info_setInfo_of_ne _ (Ne.symm hne),
      info_setInfo_self _ (by simpa [eraseFreeBlock] using hi)]
  case inSet => exact mem_insertFreeBlock _ _

theorem walk_eq {endInfo : Nat}
    (h : s.getSlotIndexForAddress (s.end_ - s.freeEnd) = some endInfo) :
    s.walk = s.walkLoop endInfo (s.allocationInfo.length + 1) 0 := by
  rw [walk, h]
  rfl

/-- `Walk` never gets past a live info of size 0 below the end region: `GetNextInfo()` of that
info is the info itself. -/
theorem walkLoop_of_alignSize_zero {endInfo cur : Nat} {a : AllocationInfo} (hcur : cur < endInfo)
    (ha : s.info cur = some a) (hzero : a.alignSize = 0) (fuel : Nat) :
    s.walkLoop endInfo fuel cur = none := by
  induction fuel with
  | zero => rfl
  | succ fuel ih => simp [walkLoop, hcur, ha, hzero, ih]

/-- The run `Alloc(4096)`, `Alloc(4096)`, `Free` of the first object, `Alloc(0)` on a space of
three pages at address 0.  Before the last call the space is one free page, one live page and the
end region of one page, and `Walk` sees the live page.  `Alloc(0)` returns the address of the free
page with size 0 and leaves its info live with size 0, while the info after it still says one free
unit before it and stays in `free_blocks_`; `Walk` then never ends, and `Free` of the object
`Alloc(0)` returned fails its `DCHECK_GT(allocation_size, 0)`. -/
theorem freeListSpace_alloc_zero_breaks_partition :
    ∃ s₀ s₁ s₂ s₃ s₄ : FreeListSpace, create 0 (3 * kAlignment) = some s₀ ∧
      s₀.alloc kAlignment = some (some (0, kAlignment), s₁) ∧
      s₁.alloc kAlignment = some (some (kAlignment, kAlignment), s₂) ∧
      s₂.free 0 = some (kAlignment, s₃) ∧
      s₃.walk = some [(kAlignment, kAlignment)] ∧
      s₃.alloc 0 = some (some (0, 0), s₄) ∧
      s₄.info 0 = some ⟨0, 0⟩ ∧ s₄.freeBlocks = [1] ∧ s₄.info 1 = some ⟨1, 1⟩ ∧
      s₄.walk = none ∧ s₄.free 0 = none := by
  refine ⟨⟨0, 12288, [⟨0, 0⟩, ⟨0, 0⟩, ⟨0, 0⟩], 12288, [], 0, 0⟩,
    ⟨0, 12288, [⟨0, 1⟩, ⟨0, 0⟩, ⟨0, 0⟩], 8192, [], 1, 4096⟩,
    ⟨0, 12288, [⟨0, 1⟩, ⟨0, 1⟩, ⟨0, 0⟩], 4096, [], 2, 8192⟩,
    ⟨0, 12288, [⟨0, 0x8000001⟩, ⟨1, 1⟩, ⟨0, 0⟩], 4096, [1], 1, 4096⟩,
    ⟨0, 12288, [⟨0, 0⟩, ⟨1, 1⟩, ⟨0, 0⟩], 4096, [1], 2, 4096⟩,
    by decide, by decide, by decide, by decide, by decide, by decide, rfl, rfl, rfl, ?_, by decide⟩
  exact (@walk_eq _ 2 (by decide)).trans
    (walkLoop_of_alignSize_zero (a := ⟨0, 0⟩) _ (show 0 < 2 by decide) rfl rfl _)

end FreeListSpace

end Art
