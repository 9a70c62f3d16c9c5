import AndroidArt.Lib.SortedSet
import Mathlib.Logic.Function.Basic

/-!
# The page allocator of RosAlloc

Model of the page level of `RosAlloc` (`runtime/gc/allocator/rosalloc.cc` and `rosalloc.h`): the
constructor, `AllocPages`, `FreePages`, `Trim` and `SetFootprintLimit`, with `ReleasePageRange`
and the methods of `FreePageRun` they call.

Addresses are byte offsets from `base_`, and a pointer to a page is the page's index.  `page_map_`
gives a kind to every page of its mapping; the mapping is anonymous memory, so a page it has never
written reads as `kPageMapReleased`.  `free_page_run_size_map_` is a vector as long as the page map,
read as zero past its end, and `free_page_runs_` is a `SortedSet` of page indices.  A free page run
is named by its first page; its `ByteSize` is the entry of `free_page_run_size_map_` there.

A `LOG(FATAL)` or a failed `CHECK` ends the call with `none`.  Memory contents (the zeroing,
`already_zero`, `madvise`, the magic numbers), the runs of slots inside a page run, the locks, and
what `art_heap_rosalloc_morecore` does to the space are not modelled.  `kIsDebugBuild` is a
parameter: a debug build keeps the first page of a released free page run.
-/

set_option autoImplicit false

namespace Art

/-- `kPageSize`. -/
def kPageSize : Nat := 4096

/-- `MB`. -/
def MB : Nat := 1024 * 1024

/-- The kinds of `page_map_` entries. -/
inductive PageMapKind where
  | kPageMapReleased
  | kPageMapEmpty
  | kPageMapRun
  | kPageMapRunPart
  | kPageMapLargeObject
  | kPageMapLargeObjectPart
  deriving DecidableEq, Repr

namespace PageMapKind

/-- `IsFreePage`. -/
def isFree : PageMapKind → Bool
  | kPageMapReleased | kPageMapEmpty => true
  | _ => false

/-- The part kind that follows the first page of a run or of a large object, as the switches of
`AllocPages` and `FreePages` choose it. -/
def partKind? : PageMapKind → Option PageMapKind
  | kPageMapRun => some kPageMapRunPart
  | kPageMapLargeObject => some kPageMapLargeObjectPart
  | _ => none

end PageMapKind

/-- `PageReleaseMode`. -/
inductive PageReleaseMode where
  | kPageReleaseModeNone
  | kPageReleaseModeEnd
  | kPageReleaseModeSize
  | kPageReleaseModeSizeAndEnd
  | kPageReleaseModeAll
  deriving DecidableEq, Repr

/-- The fields of `RosAlloc` that its page level reads and writes. -/
structure RosAlloc where
  footprint : Nat
  capacity : Nat
  maxCapacity : Nat
  pageReleaseMode : PageReleaseMode
  pageReleaseSizeThreshold : Nat
  pageMap : Nat → PageMapKind
  pageMapSize : Nat
  maxPageMapSize : Nat
  freePageRunSizeMap : Nat → Nat
  freePageRuns : List Nat

/-- `std::vector::resize` of `free_page_run_size_map_`. -/
def resizeSizeMap (sizeMap : Nat → Nat) (n : Nat) : Nat → Nat :=
  fun i => if i < n then sizeMap i else 0

namespace RosAlloc

variable (kIsDebugBuild : Bool)

/-! ## Free page runs -/

/-- `FreePageRun::ByteSize`. -/
def byteSize (a : RosAlloc) (fpr : Nat) : Nat := a.freePageRunSizeMap fpr

/-- `FreePageRun::SetByteSize`. -/
def setByteSize (a : RosAlloc) (fpr byteSize : Nat) : RosAlloc :=
  { a with freePageRunSizeMap := Function.update a.freePageRunSizeMap fpr byteSize }

/-- `FreePageRun::End`. -/
def fprEnd (a : RosAlloc) (fpr : Nat) : Nat := fpr * kPageSize + a.byteSize fpr

/-- `FreePageRun::IsLargerThanPageReleaseThreshold`. -/
def isLargerThanPageReleaseThreshold (a : RosAlloc) (fpr : Nat) : Bool :=
  decide (a.byteSize fpr ≥ a.pageReleaseSizeThreshold)

/-- `FreePageRun::IsAtEndOfSpace`. -/
def isAtEndOfSpace (a : RosAlloc) (fpr : Nat) : Bool := decide (a.fprEnd fpr = a.footprint)

/-- `FreePageRun::ShouldReleasePages`. -/
def shouldReleasePages (a : RosAlloc) (fpr : Nat) : Bool :=
  match a.pageReleaseMode with
  | .kPageReleaseModeNone => false
  | .kPageReleaseModeEnd => a.isAtEndOfSpace fpr
  | .kPageReleaseModeSize => a.isLargerThanPageReleaseThreshold fpr
  | .kPageReleaseModeSizeAndEnd => a.isLargerThanPageReleaseThreshold fpr && a.isAtEndOfSpace fpr
  | .kPageReleaseModeAll => true

/-- `ReleasePageRange`, from the byte offset `start` to the byte offset `endOffset`. -/
def releasePageRange (a : RosAlloc) (start endOffset : Nat) : RosAlloc :=
  let start := if kIsDebugBuild then start + kPageSize else start
  let pmIdx := start / kPageSize
  let maxIdx := pmIdx + (endOffset - start) / kPageSize
  { a with pageMap := fun i =>
      if pmIdx ≤ i ∧ i < maxIdx ∧ a.pageMap i = .kPageMapEmpty then .kPageMapReleased
      else a.pageMap i }

/-- `FreePageRun::ReleasePages`. -/
def releasePages (a : RosAlloc) (fpr : Nat) : RosAlloc :=
  if a.shouldReleasePages fpr then
    a.releasePageRange kIsDebugBuild (fpr * kPageSize) (a.fprEnd fpr)
  else a

/-- `free_page_runs_.erase(fpr)`. -/
def eraseRun (a : RosAlloc) (fpr : Nat) : RosAlloc :=
  { a with freePageRuns := a.freePageRuns.erase fpr }

/-- `free_page_runs_.insert(fpr)`. -/
def insertRun (a : RosAlloc) (fpr : Nat) : RosAlloc :=
  { a with freePageRuns := SortedSet.insert a.freePageRuns fpr }

/-! ## `AllocPages` -/

/-- The page map update of `AllocPages`: the first page, then the part pages. -/
def markAllocated (a : RosAlloc) (pageMapIdx numPages : Nat) (head part : PageMapKind) :
    RosAlloc :=
  { a with pageMap := fun i =>
      if i = pageMapIdx then head
      else if pageMapIdx < i ∧ i < pageMapIdx + numPages then part
      else a.pageMap i }

/-- `AllocPages` on the free page run it has chosen: erase it, and split off the remainder. -/
def takeFreePageRun (a : RosAlloc) (fpr reqByteSize : Nat) : RosAlloc :=
  let fprByteSize := a.byteSize fpr
  let a := a.eraseRun fpr
  if reqByteSize < fprByteSize then
    let remainder := fpr + reqByteSize / kPageSize
    let a := (a.setByteSize remainder (fprByteSize - reqByteSize)).insertRun remainder
    a.setByteSize fpr reqByteSize
  else a

/-- The size of the free page run at the end of the footprint, zero if there is none. -/
def lastFreePageRunSize (a : RosAlloc) : Nat :=
  match a.freePageRuns.getLast? with
  | some last => if a.fprEnd last = a.footprint then a.byteSize last else 0
  | none => 0

/-- The footprint grown by `increment`: the free page run at its end expanded, or a new one
inserted there. -/
def expandFootprint (a : RosAlloc) (increment : Nat) : RosAlloc :=
  let lastSize := a.lastFreePageRunSize
  let newFootprint := a.footprint + increment
  let newNumOfPages := newFootprint / kPageSize
  let grown := { a with
    pageMapSize := newNumOfPages
    freePageRunSizeMap := resizeSizeMap a.freePageRunSizeMap newNumOfPages }
  let newRun := (grown.setByteSize (a.footprint / kPageSize) increment).insertRun
    (a.footprint / kPageSize)
  let grown := match a.freePageRuns.getLast? with
    | some last => if lastSize > 0 then grown.setByteSize last (lastSize + increment) else newRun
    | none => newRun
  { grown with footprint := newFootprint }

/-- The growth of the footprint in `AllocPages`, when no free page run is large enough, and the
retry of the last free page run. -/
def growFootprint (a : RosAlloc) (reqByteSize : Nat) : Option Nat × RosAlloc :=
  if a.capacity > a.footprint then
    let lastSize := a.lastFreePageRunSize
    if a.capacity - a.footprint + lastSize ≥ reqByteSize then
      let increment := min (max (2 * MB) (reqByteSize - lastSize)) (a.capacity - a.footprint)
      let grown := a.expandFootprint increment
      match grown.freePageRuns.getLast? with
      | some fpr => (some fpr, grown.takeFreePageRun fpr reqByteSize)
      | none => (none, grown)
    else (none, a)
  else (none, a)

/-- `AllocPages`: the first page of the allocation, or none for `NULL`. -/
def allocPages (a : RosAlloc) (numPages : Nat) (pageMapType : PageMapKind) :
    Option (Option Nat × RosAlloc) :=
  let reqByteSize := numPages * kPageSize
  let (res, a) := match a.freePageRuns.find? fun fpr => decide (reqByteSize ≤ a.byteSize fpr) with
    | some fpr => (some fpr, a.takeFreePageRun fpr reqByteSize)
    | none => a.growFootprint reqByteSize
  match res with
  | none => some (none, a)
  | some pageMapIdx =>
    match pageMapType.partKind? with
    | some part => some (some pageMapIdx, a.markAllocated pageMapIdx numPages pageMapType part)
    | none => none

/-! ## `FreePages` -/

/-- The loop of `FreePages` over the part pages from `idx` on, as many as `fuel` below the end
of the page map. -/
def countPartPages (pageMap : Nat → PageMapKind) (part : PageMapKind) : Nat → Nat → Nat
  | 0, _ => 0
  | fuel + 1, idx => if pageMap idx = part then countPartPages pageMap part fuel (idx + 1) + 1 else 0

/-- The coalescing of `fpr` with the free page runs above it, in increasing order. -/
def coalesceHigher (fpr : Nat) : List Nat → RosAlloc → RosAlloc
  | [], a => a
  | h :: higher, a =>
    if a.fprEnd fpr = h * kPageSize then
      coalesceHigher fpr higher ((a.eraseRun h).setByteSize fpr (a.byteSize fpr + a.byteSize h))
    else a

/-- The coalescing of `fpr` with the free page runs below it, in decreasing order; the run that
absorbs `fpr` takes its place. -/
def coalesceLower : Nat → List Nat → RosAlloc → Nat × RosAlloc
  | fpr, [], a => (fpr, a)
  | fpr, l :: lower, a =>
    if a.fprEnd l = fpr * kPageSize then
      coalesceLower l lower ((a.eraseRun l).setByteSize l (a.byteSize l + a.byteSize fpr))
    else (fpr, a)

/-- `FreePages`: the byte size freed. -/
def freePages (a : RosAlloc) (ptr : Nat) : Option (Nat × RosAlloc) := do
  let pmIdx := ptr
  let pmPartType ← (a.pageMap pmIdx).partKind?
  let numPages :=
    countPartPages a.pageMap pmPartType (a.pageMapSize - (pmIdx + 1)) (pmIdx + 1) + 1
  let a := { a with pageMap := fun i =>
    if pmIdx ≤ i ∧ i < pmIdx + numPages then .kPageMapEmpty else a.pageMap i }
  let byteSize := numPages * kPageSize
  let a := a.setByteSize pmIdx byteSize
  let (fpr, a) :=
    if a.freePageRuns.isEmpty then (pmIdx, a)
    else
      let a := coalesceHigher pmIdx (a.freePageRuns.filter (pmIdx < ·)) a
      coalesceLower pmIdx (a.freePageRuns.filter (· < pmIdx)).reverse a
  let a := a.releasePages kIsDebugBuild fpr
  return (byteSize, a.insertRun fpr)

/-! ## `Trim`, `SetFootprintLimit` and the constructor -/

/-- `Trim`: remove the free page run at the end of the footprint, if any. -/
def trim (a : RosAlloc) : Bool × RosAlloc :=
  match a.freePageRuns.getLast? with
  | some last =>
    if a.fprEnd last = a.footprint then
      let decrement := a.byteSize last
      let newFootprint := a.footprint - decrement
      let newNumOfPages := newFootprint / kPageSize
      (true, { a.eraseRun last with
        pageMap := fun i => if i < newNumOfPages then a.pageMap i else .kPageMapReleased
        pageMapSize := newNumOfPages
        freePageRunSizeMap := resizeSizeMap a.freePageRunSizeMap newNumOfPages
        footprint := newFootprint })
    else (false, a)
  | none => (false, a)

/-- `SetFootprintLimit`: only growing is supported. -/
def setFootprintLimit (a : RosAlloc) (newCapacity : Nat) : Option RosAlloc :=
  if a.capacity < newCapacity then
    if newCapacity ≤ a.maxCapacity then some { a with capacity := newCapacity } else none
  else some a

/-- The constructor: one free page run over the whole capacity. -/
def new (capacity maxCapacity : Nat) (pageReleaseMode : PageReleaseMode)
    (pageReleaseSizeThreshold : Nat) : Option RosAlloc :=
  if capacity ≤ maxCapacity ∧ pageReleaseSizeThreshold % kPageSize = 0 then
    let a : RosAlloc :=
      { footprint := capacity
        capacity := capacity
        maxCapacity := maxCapacity
        pageReleaseMode := pageReleaseMode
        pageReleaseSizeThreshold := pageReleaseSizeThreshold
        pageMap := fun _ => .kPageMapReleased
        pageMapSize := capacity / kPageSize
        maxPageMapSize := maxCapacity / kPageSize
        freePageRunSizeMap := fun _ => 0
        freePageRuns := [] }
    let a := (a.setByteSize 0 capacity).releasePages kIsDebugBuild 0
    some (a.insertRun 0)
  else none

/-! ## Runs of calls -/

/-- The calls of the page level. -/
inductive Call where
  | allocPages (numPages : Nat) (pageMapType : PageMapKind)
  | freePages (ptr : Nat)
  | trim
  | setFootprintLimit (newCapacity : Nat)
  deriving DecidableEq, Repr

/-- One call, its result dropped. -/
def step (a : RosAlloc) : Call → Option RosAlloc
  | .allocPages numPages pageMapType => (a.allocPages numPages pageMapType).map Prod.snd
  | .freePages ptr => (a.freePages kIsDebugBuild ptr).map Prod.snd
  | .trim => some a.trim.2
  | .setFootprintLimit newCapacity => a.setFootprintLimit newCapacity

/-- A sequence of calls. -/
def run (a : RosAlloc) : List Call → Option RosAlloc
  | [] => some a
  | c :: calls => (a.step kIsDebugBuild c).bind fun a => run a calls

end RosAlloc

end Art
