import Mathlib.Data.List.Range

/-!
# The space bitmap and its traversals

Model of `SpaceBitmap` (`runtime/gc/accounting/space_bitmap.h`, `space_bitmap-inl.h`,
`space_bitmap.cc`) on a 64-bit target: `OffsetToIndex`, `IndexToOffset`, `OffsetToMask`,
`HeapLimit`, `Test`, and the word-at-a-time traversals `VisitMarkedRange`, `Walk` and
`SweepWalk`.

A bitmap is its words, `bitmap_size_ / kWordSize` of them, and `heap_begin_`; `kAlignment` is the
template parameter.  What a traversal does is the sequence of addresses it passes to its visitor
or callback, and for `SweepWalk` the batches its callback gets.  A read of a word past the end of
the bitmap is undefined, and so is a traversal that makes one (`none`); a failed `CHECK` or
`DCHECK` stops the runtime (`none` as well).

* `visitWord` — the `CTZ` and `xor` loop that every traversal runs on a word.
* `visitMarkedRange_heapLimit` — `VisitMarkedRange` on the empty range at `HeapLimit()` reads the
  word past the end of the bitmap: only the right edge has the guard against that read.
* `spaceBitmap_traversals_overreach` — that read on a bitmap of one word; and `SweepWalk`, which
  does not mask the words at the ends of its range, passes to its callback a live and unmarked
  address before `sweep_begin`.
-/

set_option autoImplicit false

namespace Art

namespace SpaceBitmap

/-- `kBitsPerWord` with `kWordSize = 8`. -/
def kBitsPerWord : Nat := 64

/-- `kWordSize`. -/
def kWordSize : Nat := 8

variable (kAlignment : Nat)

/-- `OffsetToIndex`. -/
def offsetToIndex (offset : Nat) : Nat := offset / kAlignment / kBitsPerWord

/-- `IndexToOffset`. -/
def indexToOffset (index : Nat) : Nat := index * kAlignment * kBitsPerWord

/-- `OffsetToMask`. -/
def offsetToMask (offset : Nat) : BitVec 64 := 1#64 <<< (offset / kAlignment % kBitsPerWord)

/-- The do-while loop over the set bits of a word whose addresses start at `ptrBase`: the lowest
set bit (`CTZ`) gives an address, and the `xor` clears it.  A word has at most 64 set bits, which
bounds the rounds. -/
def visitWord (ptrBase : Nat) : Nat → BitVec 64 → List Nat
  | 0, _ => []
  | fuel + 1, w =>
    if w = 0 then []
    else
      let shift := w.ctz.toNat
      (ptrBase + shift * kAlignment) :: visitWord ptrBase fuel (w ^^^ 1#64 <<< shift)

end SpaceBitmap

/-- The fields of a `SpaceBitmap` that the traversals read: its words and `heap_begin_`. -/
structure SpaceBitmap where
  words : List (BitVec 64)
  heapBegin : Nat

namespace SpaceBitmap

variable (kAlignment : Nat) (b : SpaceBitmap)

/-- `HeapLimit()`: `heap_begin_` plus `HeapSize()`, the bytes the words cover. -/
def heapLimit : Nat := b.heapBegin + indexToOffset kAlignment b.words.length

/-- `bitmap_begin_[i]`; past the end of the bitmap the read is undefined. -/
def read (i : Nat) : Option (BitVec 64) := b.words[i]?

/-- `Test(obj)` for an address the bitmap covers. -/
def test (addr : Nat) : Bool :=
  let offset := addr - b.heapBegin
  (b.words.getD (offsetToIndex kAlignment offset) 0 &&& offsetToMask kAlignment offset) != 0

/-- The set bits of the word `i`, as `visitWord` enumerates them. -/
def visitIndex (i : Nat) (w : BitVec 64) : List Nat :=
  visitWord kAlignment (indexToOffset kAlignment i + b.heapBegin) kBitsPerWord w

/-- `VisitMarkedRange(visit_begin, visit_end, visitor)`: the left edge word masked below
`visit_begin`, the full words between, and the right edge word masked from `visit_end` on, which
is not read when `visit_end` starts a word. -/
def visitMarkedRange (visitBegin visitEnd : Nat) : Option (List Nat) :=
  if visitEnd < visitBegin ∨ visitBegin < b.heapBegin ∨ b.heapLimit kAlignment < visitEnd then none
  else do
    let offsetStart := visitBegin - b.heapBegin
    let offsetEnd := visitEnd - b.heapBegin
    let indexStart := offsetToIndex kAlignment offsetStart
    let indexEnd := offsetToIndex kAlignment offsetEnd
    let bitStart := offsetStart / kAlignment % kBitsPerWord
    let bitEnd := offsetEnd / kAlignment % kBitsPerWord
    let leftEdge := (← b.read indexStart) &&& ~~~((1#64 <<< bitStart) - 1)
    if indexStart < indexEnd then
      let middle ← (List.range' (indexStart + 1) (indexEnd - (indexStart + 1))).mapM fun i =>
        (b.read i).map (b.visitIndex kAlignment i)
      let rightEdge ← if bitEnd = 0 then some 0 else b.read indexEnd
      let rightEdge := rightEdge &&& ((1#64 <<< bitEnd) - 1)
      some (b.visitIndex kAlignment indexStart leftEdge ++ middle.flatten ++
        b.visitIndex kAlignment indexEnd rightEdge)
    else
      some (b.visitIndex kAlignment indexEnd (leftEdge &&& ((1#64 <<< bitEnd) - 1)))

/-- `Walk(callback, arg)`: every word up to the one holding `HeapLimit() - 1`. -/
def walk : Option (List Nat) := do
  let last := offsetToIndex kAlignment (b.heapLimit kAlignment - b.heapBegin - 1)
  let words ← (List.range (last + 1)).mapM fun i => (b.read i).map (b.visitIndex kAlignment i)
  some words.flatten

/-- The state of the loop of `SweepWalk`: the batches passed to the callback so far and the
addresses in `pointer_buf` before `pb`. -/
structure SweepState where
  batches : List (List Nat)
  buffer : List Nat
  deriving DecidableEq, Repr

/-- `buffer_size`, `kWordSize * kBitsPerWord` pointers. -/
def bufferSize : Nat := kWordSize * kBitsPerWord

/-- One word of `SweepWalk`: the live and unmarked bits of the whole word go to the buffer, which
is passed to the callback once fewer than a word of free slots remain. -/
def sweepWord (live mark : SpaceBitmap) (s : SweepState) (i : Nat) : Option SweepState := do
  let garbage := (← live.read i) &&& ~~~(← mark.read i)
  if garbage = 0 then some s
  else
    let buffer := s.buffer ++ live.visitIndex kAlignment i garbage
    if bufferSize - kBitsPerWord ≤ buffer.length then some ⟨s.batches ++ [buffer], []⟩
    else some ⟨s.batches, buffer⟩

/-- `SweepWalk(live_bitmap, mark_bitmap, sweep_begin, sweep_end, callback, arg)`: the batches the
callback gets. -/
def sweepWalk (live mark : SpaceBitmap) (sweepBegin sweepEnd : Nat) :
    Option (List (List Nat)) :=
  if live.heapBegin ≠ mark.heapBegin ∨ live.words.length ≠ mark.words.length ∨
      sweepEnd < sweepBegin ∨ sweepBegin < live.heapBegin then none
  else if sweepEnd ≤ sweepBegin then some []
  else do
    let start := offsetToIndex kAlignment (sweepBegin - live.heapBegin)
    let last := offsetToIndex kAlignment (sweepEnd - live.heapBegin - 1)
    if live.words.length ≤ last then none
    else
      let s ← (List.range' start (last + 1 - start)).foldlM (sweepWord kAlignment live mark) ⟨[], []⟩
      some (if s.buffer = [] then s.batches else s.batches ++ [s.buffer])

/-! ## Reads and addresses outside the range -/

theorem offsetToIndex_indexToOffset {kAlignment : Nat} (h : 0 < kAlignment) (i : Nat) :
    offsetToIndex kAlignment (indexToOffset kAlignment i) = i := by
  rw [offsetToIndex, indexToOffset, Nat.mul_right_comm, Nat.mul_div_cancel _ h,
    Nat.mul_div_cancel _ (by decide)]

/-- `VisitMarkedRange` on the empty range at `HeapLimit()` reads the left edge word, which is the
word past the end of the bitmap. -/
theorem visitMarkedRange_heapLimit {kAlignment : Nat} (h : 0 < kAlignment) (b : SpaceBitmap) :
    b.visitMarkedRange kAlignment (b.heapLimit kAlignment) (b.heapLimit kAlignment) = none := by
  have hread : b.read (offsetToIndex kAlignment (b.heapLimit kAlignment - b.heapBegin)) = none := by
    rw [heapLimit, Nat.add_sub_cancel_left, offsetToIndex_indexToOffset h, read,
      List.getElem?_eq_none (le_refl _)]
  have hguard : ¬ (b.heapLimit kAlignment < b.heapLimit kAlignment ∨
      b.heapLimit kAlignment < b.heapBegin ∨ b.heapLimit kAlignment < b.heapLimit kAlignment) := by
    simp only [heapLimit]
    omega
  rw [visitMarkedRange, if_neg hguard]
  simp [hread]

/-- **The traversals reach outside their ranges.**  On a bitmap of one word with 8-byte
alignment, covering the addresses `0` to `511`, `VisitMarkedRange(512, 512)` reads past the
bitmap; and `SweepWalk` over `[8, 16)` of a live bitmap with the object at `0` and an empty mark
bitmap passes that object, outside the range, to its callback. -/
theorem spaceBitmap_traversals_overreach :
    (⟨[0#64], 0⟩ : SpaceBitmap).visitMarkedRange 8 512 512 = none ∧
      sweepWalk 8 ⟨[1#64], 0⟩ ⟨[0#64], 0⟩ 8 16 = some [[0]] :=
  ⟨visitMarkedRange_heapLimit (by decide) ⟨[0#64], 0⟩, by decide +kernel⟩

end SpaceBitmap

end Art
