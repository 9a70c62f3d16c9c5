import AndroidArt.Lib.SortedMap

/-!
# The large object spaces: `FreeList` and the map space

Model of `LargeObjectSpace::FreeList` and of `LargeObjectMapSpace` (`runtime/gc/space/
large_object_space.cc` and `large_object_space.h`).

`FreeList` is code of the base class: it frees a batch of objects through the space's own
`Contains` and `Free`, so `freeList contains free` takes those as parameters, for either space.
As everywhere in the model, the build is the debug one, where `kDebugSpaces` is set and `FreeList`
`CHECK`s that the space contains each object before it frees it.

`LargeObjectMapSpace` maps each object on its own with `MemMap::MapAnonymous` and keeps its maps
in `mem_maps_`, a `SafeMap` from the object's address to its map; the model keeps each map's
`Size()`, the only thing of a map that the space reads besides its `Begin()`, which is the key.
Where the map comes from is the kernel's choice: `mapAnonymous os byteCount` is `MapAnonymous`
with `os` the address of the new mapping, or `none` when `mmap` fails.  `begin_` and `end_` start
as `nullptr`, here 0.  A failed `CHECK` or `DCHECK`, and the `LOG(FATAL)` of a `Free` of an object
that is not live, end the call with `none`.  `large_objects_`, which `Alloc` appends to and
nothing reads, the lock and the `MemMap` objects themselves are not modelled.
-/

set_option autoImplicit false

namespace Art

namespace LargeObjectSpace

/-- Two ranges of memory, an address and a size in bytes each, that do not overlap. -/
def Separate (x y : Nat × Nat) : Prop := x.1 + x.2 ≤ y.1 ∨ y.1 + y.2 ≤ x.1

theorem Separate.symm {x y : Nat × Nat} (h : Separate x y) : Separate y x := Or.symm h

variable {σ : Type} (contains : σ → Nat → Bool) (free : σ → Nat → Option (Nat × σ))

/-- The loop of `FreeList` from the running `total`, over the pointers left: `CHECK(Contains(p))`
on the state so far, then `Free(self, p)`. -/
def freeListLoop : Nat → List Nat → σ → Option (Nat × σ)
  | total, [], s => some (total, s)
  | total, p :: ps, s => do
    if !contains s p then none
    let (n, s) ← free s p
    freeListLoop (total + n) ps s

/-- `FreeList(self, num_ptrs, ptrs)`, with the space's `Contains` and `Free`. -/
def freeList (ptrs : List Nat) (s : σ) : Option (Nat × σ) := freeListLoop contains free 0 ptrs s

end LargeObjectSpace

/-- `MemMap::MapAnonymous(name, NULL, byte_count, PROT_READ | PROT_WRITE, true, &error_msg)` as
`Alloc` calls it, with the kernel's answer `os`: the `Begin()` and `Size()` of the map it returns.
No bytes give a map at `nullptr` of size 0; otherwise the map begins where the kernel mapped it,
and its `Size()` is `byte_count`, not rounded to pages. -/
def mapAnonymous (os : Option Nat) (byteCount : Nat) : Option (Nat × Nat) :=
  if byteCount = 0 then some (0, 0) else os.map fun b => (b, byteCount)

/-- The state of a `LargeObjectMapSpace`. -/
structure LargeObjectMapSpace where
  /-- `begin_`. -/
  begin : Nat
  /-- `end_`. -/
  end_ : Nat
  /-- `mem_maps_`: each object's address with the `Size()` of its map, in address order. -/
  memMaps : List (Nat × Nat)
  numBytesAllocated : Nat
  numObjectsAllocated : Nat
  totalBytesAllocated : Nat
  totalObjectsAllocated : Nat
  deriving DecidableEq, Repr

namespace LargeObjectMapSpace

/-- `Create(name)`: the constructor `LargeObjectSpace(name, nullptr, nullptr)`, with no maps and
the counters at 0. -/
def create : LargeObjectMapSpace := ⟨0, 0, [], 0, 0, 0, 0⟩

variable (s : LargeObjectMapSpace)

/-- `Alloc(self, num_bytes, bytes_allocated, usable_size)`: the object and `*bytes_allocated`, or
nothing when the mapping fails. -/
def alloc (os : Option Nat) (numBytes : Nat) :
    Option (Option (Nat × Nat) × LargeObjectMapSpace) := do
  let some (obj, allocationSize) := mapAnonymous os numBytes | some (none, s)
  let memMaps ← SortedMap.put s.memMaps obj allocationSize
  let objEnd := obj + allocationSize
  some (some (obj, allocationSize),
    { begin := min s.begin obj
      end_ := if s.end_ = 0 ∨ s.end_ < objEnd then objEnd else s.end_
      memMaps := memMaps
      numBytesAllocated := s.numBytesAllocated + allocationSize
      numObjectsAllocated := s.numObjectsAllocated + 1
      totalBytesAllocated := s.totalBytesAllocated + allocationSize
      totalObjectsAllocated := s.totalObjectsAllocated + 1 })

/-- `Free(self, ptr)`: the size of the object's map, which is unmapped. -/
def free (ptr : Nat) : Option (Nat × LargeObjectMapSpace) := do
  -- `LOG(FATAL)` when no map has the address
  let allocationSize ← s.memMaps.lookup ptr
  if s.numBytesAllocated < allocationSize then none
  some (allocationSize,
    { s with
      memMaps := s.memMaps.erase (ptr, allocationSize)
      numBytesAllocated := s.numBytesAllocated - allocationSize
      numObjectsAllocated := s.numObjectsAllocated - 1 })

/-- `AllocationSize(obj, usable_size)`: the `Size()` of the object's map.  Unlike the free-list
space, this one leaves `*usable_size` alone. -/
def allocationSize (obj : Nat) : Option Nat := s.memMaps.lookup obj

/-- `Contains(obj)`: a map has the address. -/
def contains (obj : Nat) : Bool := (s.memMaps.lookup obj).isSome

/-- `Walk(callback, arg)`: the start and size of each map that the callback gets, in address
order; the `callback(NULL, NULL, 0, arg)` after each is left out, as in `FreeListSpace.walk`. -/
def walk : List (Nat × Nat) := s.memMaps

end LargeObjectMapSpace

end Art
