import AndroidArt.Lib.WordBits
import AndroidArt.Lib.Align

/-!
# BitVector

Model of `BitVector` (`runtime/base/bit_vector.h`, `bit_vector-inl.h`, `bit_vector.cc`).  A vector
is its `storage_`, `storage_size_` words of it, and `expandable_`; the set it stands for is that of
its set bits, `isBitSet`, which reads no bit past the storage.  A failed `DCHECK` gives `none`, and
so does `(1 << 31) - 1` in `SetInitialBits`, a signed overflow; the `1 << 31` of `BitMask` is the
`0x80000000` every compiler gives it.  Sizes are unbounded naturals: `storage_size_ * kWordBits`
would wrap only past `2 ^ 27` words.

* `isBitSet_eq_bit` — `IsBitSet` is bit `i % 32` of word `i / 32`, as `WordBits.bit` reads it.
* `setBit_spec`, `clearBit_spec`, `clearAllBits_spec`, `intersect_spec`, `subtract_spec` — the
  word loops do on the sets what their names say.
* `getHighestBitSet_spec` — the highest set bit, or `-1` for the empty set.
* `union_spec` — `Union` adds the other set and returns whether the set changed.
* `unionIfNotIn_spec` — what `UnionIfNotIn(b, c)` does: it adds `S(b) \ S(c)` and, when it has to
  grow, also the highest bit of `b`, which `SetBit` sets whether or not `c` has it; the flag says
  whether the set changed.
* `unionIfNotIn_adds_excluded_bit` — that bit on a one-word vector with `b = c = {32}`.
-/

set_option autoImplicit false

namespace Art

open WordBits

/-- A `BitVector`: `storage_`, of `storage_size_` words, and `expandable_`. -/
structure BitVector where
  storage : List (BitVec 32)
  expandable : Bool
  deriving DecidableEq, Repr

namespace BitVector

/-- `kWordBits`. -/
def kWordBits : Nat := 32

/-- `BitsToWords`: `RoundUp(bits, 32) / 32`. -/
def bitsToWords (bits : Nat) : Nat := Align.roundUp bits 32 / 32

/-- `WordIndex`. -/
def wordIndex (idx : Nat) : Nat := idx >>> 5

/-- `BitMask`: `1 << (idx & 0x1f)`. -/
def bitMask (idx : Nat) : BitVec 32 := 1#32 <<< (idx &&& 0x1f)

variable (v : BitVector)

/-- `storage_size_`. -/
def storageSize : Nat := v.storage.length

/-- `IsBitSet`: an index past the storage is not set. -/
def isBitSet (idx : Nat) : Bool :=
  decide (idx < v.storageSize * kWordBits) && (v.storage.getD (wordIndex idx) 0 &&& bitMask idx) != 0

/-- `EnsureSize`: past the storage, `DCHECK(expandable_)`, then `BitsToWords(idx + 1)` words with
the new ones zero, after `DCHECK_GT(new_size, storage_size_)`. -/
def ensureSize (idx : Nat) : Option BitVector :=
  if idx ≥ v.storageSize * kWordBits then
    if ¬ v.expandable then none
    else
      let newSize := bitsToWords (idx + 1)
      if newSize ≤ v.storageSize then none
      else some { v with storage := v.storage ++ List.replicate (newSize - v.storageSize) 0 }
  else some v

/-- `SetBit`. -/
def setBit (idx : Nat) : Option BitVector := do
  let v ← if idx ≥ v.storageSize * kWordBits then v.ensureSize idx else some v
  some { v with
    storage := v.storage.set (wordIndex idx) (v.storage.getD (wordIndex idx) 0 ||| bitMask idx) }

/-- `ClearBit`. -/
def clearBit (idx : Nat) : BitVector :=
  if idx < v.storageSize * kWordBits then
    { v with
      storage := v.storage.set (wordIndex idx) (v.storage.getD (wordIndex idx) 0 &&& ~~~bitMask idx) }
  else v

/-- `ClearAllBits`: `memset` of the storage. -/
def clearAllBits : BitVector := { v with storage := List.replicate v.storageSize 0 }

/-- The loop of `GetHighestBitSet` over the words below `idx`, from the top: `31 - CLZ(value)`
plus the bits of the words below, at the first nonzero word. -/
def highestBitBelow (ws : List (BitVec 32)) : Nat → Int
  | 0 => -1
  | idx + 1 =>
    let value := ws.getD idx 0
    if value ≠ 0 then 31 - (value.clz.toNat : Int) + idx * kWordBits
    else highestBitBelow ws idx

/-- `GetHighestBitSet`. -/
def getHighestBitSet : Int := highestBitBelow v.storage v.storageSize

/-- `Intersect`: `&=` on the common words, zero on the rest of ours. -/
def intersect (src : BitVector) : BitVector :=
  let minSize := if v.storageSize < src.storageSize then v.storageSize else src.storageSize
  let ws := mapRange (fun idx x => x &&& src.storage.getD idx 0) 0 minSize v.storage
  { v with storage := mapRange (fun _ _ => 0) minSize (v.storageSize - minSize) ws }

/-- `Subtract`: `&= ~src` on the common words. -/
def subtract (src : BitVector) : BitVector :=
  let minSize := if v.storageSize > src.storageSize then src.storageSize else v.storageSize
  { v with storage := mapRange (fun idx x => x &&& ~~~src.storage.getD idx 0) 0 minSize v.storage }

/-- `Union`: grow by `EnsureSize(highest_bit)` when the storage is smaller than
`BitsToWords(highest_bit + 1)` (a change, with `DCHECK_LT` after it), then the or-loop over those
words. -/
def union (src : BitVector) : Option (BitVector × Bool) :=
  let highestBit := src.getHighestBitSet
  if highestBit = -1 then some (v, false)
  else
    let srcSize := bitsToWords (highestBit.toNat + 1)
    let grown : Option (BitVector × Bool) :=
      if v.storageSize < srcSize then
        (v.ensureSize highestBit.toNat).bind fun v =>
          if highestBit.toNat < v.storageSize * kWordBits then some (v, true) else none
      else some (v, false)
    grown.map fun r =>
      let acc := orRange (fun idx => src.storage.getD idx 0) 0 srcSize (r.1.storage, r.2)
      ({ r.1 with storage := acc.1 }, acc.2)

/-- `UnionIfNotIn`: grow by `SetBit(highest_bit)` when the storage is smaller than
`BitsToWords(highest_bit + 1)` (a change, with `DCHECK_LT` after it), then the or-loop of
`union_with & ~not_in` over the words both have and of `union_with` over the rest. -/
def unionIfNotIn (unionWith notIn : BitVector) : Option (BitVector × Bool) :=
  let highestBit := unionWith.getHighestBitSet
  if highestBit = -1 then some (v, false)
  else
    let unionWithSize := bitsToWords (highestBit.toNat + 1)
    let grown : Option (BitVector × Bool) :=
      if v.storageSize < unionWithSize then
        (v.setBit highestBit.toNat).bind fun v =>
          if highestBit.toNat < v.storageSize * kWordBits then some (v, true) else none
      else some (v, false)
    grown.map fun r =>
      let notInSize := notIn.storageSize
      let m := min notInSize unionWithSize
      let acc := orRange (fun idx => unionWith.storage.getD idx 0 &&& ~~~notIn.storage.getD idx 0)
        0 m (r.1.storage, r.2)
      let acc := orRange (fun idx => unionWith.storage.getD idx 0) m (unionWithSize - m) acc
      ({ r.1 with storage := acc.1 }, acc.2)

theorem wordIndex_eq (idx : Nat) : wordIndex idx = idx / 32 :=
  Nat.shiftRight_eq_div_pow idx 5

theorem bitsToWords_eq (bits : Nat) : bitsToWords bits = (bits + 31) / 32 := by
  have hround : Align.roundUp bits (2 ^ 5) = bits + 31 - (bits + 31) % 32 := Align.roundDown_eq _
  unfold bitsToWords
  rw [show (32 : Nat) = 2 ^ 5 from rfl, hround]
  omega

theorem getLsbD_bitMask (idx j : Nat) : (bitMask idx).getLsbD j = decide (j = idx % 32) := by
  have hmask : idx &&& 0x1f = idx % 32 := Nat.and_two_pow_sub_one_eq_mod idx 5
  rw [bitMask, hmask]
  exact getLsbD_one_shiftLeft (Nat.mod_lt _ (by decide)) j

theorem and_bitMask_ne_zero (x : BitVec 32) (idx : Nat) :
    (x &&& bitMask idx != 0) = x.getLsbD (idx % 32) := by
  by_cases hx : x.getLsbD (idx % 32)
  · have hbit : (x &&& bitMask idx).getLsbD (idx % 32) = true := by
      simp [getLsbD_bitMask, hx]
    rw [hx, bne_iff_ne, ne_eq]
    intro h0
    rw [h0] at hbit
    simp at hbit
  · have h0 : x &&& bitMask idx = 0 := by
      apply BitVec.eq_of_getLsbD_eq
      intro j _
      by_cases hj : j = idx % 32
      · simp [hj, hx]
      · simp [getLsbD_bitMask, hj]
    simp [h0, hx]

/-- `IsBitSet` reads the storage as `WordBits.bit` does. -/
theorem isBitSet_eq_bit (i : Nat) : v.isBitSet i = bit v.storage i := by
  unfold isBitSet
  by_cases hi : i < v.storageSize * kWordBits
  · rw [decide_eq_true hi, Bool.true_and, and_bitMask_ne_zero, wordIndex_eq]
    rfl
  · have hlen : v.storage.length ≤ i / 32 := by
      unfold storageSize kWordBits at hi
      omega
    rw [decide_eq_false hi, Bool.false_and, bit_eq_false_of_length_le hlen]

theorem ensureSize_spec {v v' : BitVector} {idx : Nat} (h : v.ensureSize idx = some v') :
    v'.expandable = v.expandable ∧ idx < v'.storageSize * kWordBits ∧
      ∃ n, v'.storage = v.storage ++ List.replicate n 0 := by
  unfold ensureSize at h
  split at h
  · next hge =>
    split at h
    · cases h
    · dsimp only at h
      split at h
      · cases h
      · next hgt =>
        cases h
        refine ⟨rfl, ?_, _, rfl⟩
        simp only [storageSize, List.length_append, List.length_replicate, kWordBits,
          bitsToWords_eq] at hgt hge ⊢
        omega
  · next hlt =>
    cases h
    exact ⟨rfl, Nat.lt_of_not_le hlt, 0, by simp⟩

/-- `EnsureSize` fails only on a vector that cannot grow and must: its `DCHECK_GT` always holds. -/
theorem ensureSize_eq_none_iff {v : BitVector} {idx : Nat} :
    v.ensureSize idx = none ↔ v.storageSize * kWordBits ≤ idx ∧ v.expandable = false := by
  unfold ensureSize
  split
  · next hge =>
    have hgt : ¬ bitsToWords (idx + 1) ≤ v.storageSize := by
      rw [bitsToWords_eq]
      unfold kWordBits at hge
      omega
    cases v.expandable <;> simp [hge, hgt]
  · next hlt =>
    have hlt' : ¬ v.storageSize * kWordBits ≤ idx := hlt
    simp [hlt']

theorem setBit_eq_bind (v : BitVector) (idx : Nat) :
    v.setBit idx = (v.ensureSize idx).bind fun v => some { v with
      storage := v.storage.set (wordIndex idx) (v.storage.getD (wordIndex idx) 0 ||| bitMask idx) } := by
  unfold setBit
  split
  · rfl
  · next hlt =>
    rw [ensureSize, if_neg hlt]
    rfl

theorem setBit_eq_none_iff {v : BitVector} {idx : Nat} :
    v.setBit idx = none ↔ v.storageSize * kWordBits ≤ idx ∧ v.expandable = false := by
  rw [setBit_eq_bind, Option.bind_eq_none_iff, ← ensureSize_eq_none_iff]
  constructor
  · intro h
    cases hv : v.ensureSize idx with
    | none => rfl
    | some v1 => exact absurd (h v1 hv) (by simp)
  · intro h v1 hv
    rw [h] at hv
    cases hv

/-- `SetBit` adds `idx` to the set, keeps `expandable_` and only grows the storage. -/
theorem setBit_spec {v v' : BitVector} {idx : Nat} (h : v.setBit idx = some v') :
    v'.expandable = v.expandable ∧ v.storageSize ≤ v'.storageSize ∧
      idx < v'.storageSize * kWordBits ∧ ∀ i, v'.isBitSet i = (decide (i = idx) || v.isBitSet i) := by
  rw [setBit_eq_bind, Option.bind_eq_some_iff] at h
  obtain ⟨v1, h1, h2⟩ := h
  simp only [Option.some.injEq] at h2
  subst h2
  obtain ⟨hexp, hidx, n, hstorage⟩ := ensureSize_spec h1
  have hj : idx / 32 < v1.storage.length := by
    unfold storageSize kWordBits at hidx
    omega
  refine ⟨hexp, ?_, ?_, fun i => ?_⟩
  · simp [storageSize, hstorage]
  · simpa [storageSize] using hidx
  · have hv1 : bit v.storage i = bit v1.storage i := by
      rw [hstorage, bit_append_replicate_zero]
    rw [isBitSet_eq_bit, isBitSet_eq_bit, wordIndex_eq, hv1]
    dsimp only
    rw [bit_set hj]
    split
    · next hdiv =>
      have heq : i = idx ↔ i % 32 = idx % 32 := by omega
      rw [BitVec.getLsbD_or, getLsbD_bitMask, bit, hdiv, Bool.or_comm]
      simp only [heq]
    · next hdiv =>
      have hne : i ≠ idx := fun h => hdiv (h ▸ rfl)
      simp [hne]

/-- `ClearBit` removes `idx` from the set. -/
theorem clearBit_spec (v : BitVector) (idx i : Nat) :
    (v.clearBit idx).isBitSet i = (decide (i ≠ idx) && v.isBitSet i) := by
  unfold clearBit
  split
  · next hidx =>
    have hj : idx / 32 < v.storage.length := by
      unfold storageSize kWordBits at hidx
      omega
    rw [isBitSet_eq_bit, isBitSet_eq_bit, wordIndex_eq]
    dsimp only
    rw [bit_set hj]
    split
    · next hdiv =>
      have heq : i = idx ↔ i % 32 = idx % 32 := by omega
      rw [BitVec.getLsbD_and, BitVec.getLsbD_not, getLsbD_bitMask, bit, hdiv, Bool.and_comm]
      simp [heq, Nat.mod_lt i (show 0 < 32 by decide)]
    · next hdiv =>
      have hne : i ≠ idx := fun h => hdiv (h ▸ rfl)
      simp [hne]
  · next hidx =>
    by_cases hi : i = idx
    · subst hi
      have hlen : v.storage.length ≤ i / 32 := by
        unfold storageSize kWordBits at hidx
        omega
      rw [isBitSet_eq_bit, bit_eq_false_of_length_le hlen]
      simp
    · simp [hi]

@[simp] theorem clearAllBits_spec (v : BitVector) (i : Nat) : v.clearAllBits.isBitSet i = false := by
  rw [isBitSet_eq_bit]
  exact bit_replicate_zero _ _

/-- `Intersect` leaves the common bits: past the other vector's storage its bits read as zero. -/
theorem intersect_spec (v src : BitVector) (i : Nat) :
    (v.intersect src).isBitSet i = (v.isBitSet i && src.isBitSet i) := by
  have hv : v.storageSize = v.storage.length := rfl
  have hsrc : src.storageSize = src.storage.length := rfl
  have hm : (if v.storageSize < src.storageSize then v.storageSize else src.storageSize)
      = min v.storage.length src.storage.length := by
    split <;> omega
  simp only [isBitSet_eq_bit, intersect, hm]
  simp only [hv]
  rw [bit_mapRange _ (by rw [length_mapRange]; omega), bit_mapRange _ (by omega)]
  by_cases hlt : i / 32 < min v.storage.length src.storage.length
  · rw [if_neg (by omega), if_pos (by omega), BitVec.getLsbD_and]
    rfl
  · by_cases hin : i / 32 < v.storage.length
    · rw [if_pos (by omega), bit_eq_false_of_length_le (show src.storage.length ≤ i / 32 by omega)]
      simp
    · rw [if_neg (by omega), if_neg (by omega),
        bit_eq_false_of_length_le (show v.storage.length ≤ i / 32 by omega)]
      simp

/-- `Subtract` removes the other vector's bits. -/
theorem subtract_spec (v src : BitVector) (i : Nat) :
    (v.subtract src).isBitSet i = (v.isBitSet i && !src.isBitSet i) := by
  have hv : v.storageSize = v.storage.length := rfl
  have hsrc : src.storageSize = src.storage.length := rfl
  have hm : (if v.storageSize > src.storageSize then src.storageSize else v.storageSize)
      = min v.storage.length src.storage.length := by
    split <;> omega
  simp only [isBitSet_eq_bit, subtract, hm]
  rw [bit_mapRange _ (by omega)]
  by_cases hlt : i / 32 < min v.storage.length src.storage.length
  · rw [if_pos (by omega), BitVec.getLsbD_and, BitVec.getLsbD_not,
      decide_eq_true (Nat.mod_lt i (show 0 < 32 by decide)), Bool.true_and]
    rfl
  · rw [if_neg (by omega)]
    by_cases hsrc : src.storage.length ≤ i / 32
    · rw [bit_eq_false_of_length_le hsrc]
      simp
    · rw [bit_eq_false_of_length_le (show v.storage.length ≤ i / 32 by omega)]
      simp

/-- A nonzero word's highest set bit is bit `31 - CLZ`. -/
theorem getLsbD_clz {x : BitVec 32} (hx : x ≠ 0) :
    x.clz.toNat < 32 ∧ x.getLsbD (31 - x.clz.toNat) = true ∧
      ∀ j, 31 - x.clz.toNat < j → x.getLsbD j = false := by
  have hlt : x.clz.toNat < 32 := by
    have h := BitVec.clz_lt_iff_ne_zero.mpr hx
    rw [BitVec.lt_def] at h
    simpa using h
  refine ⟨hlt, BitVec.getLsbD_true_clz_of_ne_zero (by decide) hx, fun j hj => ?_⟩
  rw [← BitVec.testBit_toNat]
  apply Nat.testBit_eq_false_of_lt
  calc x.toNat < 2 ^ (32 - x.clz.toNat) := BitVec.toNat_lt_two_pow_sub_clz
    _ ≤ 2 ^ j := Nat.pow_le_pow_right (by decide) (by omega)

/-- The loop of `GetHighestBitSet` from word `n` down finds the highest set bit when the words from
`n` on are zero. -/
theorem highestBitBelow_spec (ws : List (BitVec 32)) (n : Nat)
    (hzero : ∀ k, n ≤ k → ws.getD k 0 = 0) :
    (highestBitBelow ws n = -1 ∧ ∀ i, bit ws i = false) ∨
      ∃ h : Nat, highestBitBelow ws n = h ∧ bit ws h = true ∧ ∀ i, h < i → bit ws i = false := by
  induction n with
  | zero =>
    left
    refine ⟨rfl, fun i => ?_⟩
    rw [bit, hzero (i / 32) (Nat.zero_le _)]
    simp
  | succ n ih =>
    by_cases hval : ws.getD n 0 = 0
    · have hzero' : ∀ k, n ≤ k → ws.getD k 0 = 0 := fun k hk => by
        rcases Nat.eq_or_lt_of_le hk with rfl | hlt
        · exact hval
        · exact hzero k hlt
      simp only [highestBitBelow, hval, ne_eq, not_true_eq_false, if_false]
      exact ih hzero'
    · obtain ⟨hclz, htop, habove⟩ := getLsbD_clz hval
      right
      refine ⟨n * 32 + (31 - (ws.getD n 0).clz.toNat), ?_, ?_, fun i hi => ?_⟩
      · simp only [highestBitBelow, ne_eq, hval, not_false_eq_true, if_true, kWordBits]
        omega
      · have hdiv : (n * 32 + (31 - (ws.getD n 0).clz.toNat)) / 32 = n := by omega
        have hmod : (n * 32 + (31 - (ws.getD n 0).clz.toNat)) % 32 = 31 - (ws.getD n 0).clz.toNat := by
          omega
        rw [bit, hdiv, hmod, htop]
      · by_cases hin : i / 32 = n
        · rw [bit, hin]
          exact habove _ (by omega)
        · rw [bit, hzero (i / 32) (by omega)]
          simp

/-- `GetHighestBitSet` is the highest set bit, or `-1` when no bit is set. -/
theorem getHighestBitSet_spec (v : BitVector) :
    (v.getHighestBitSet = -1 ∧ ∀ i, v.isBitSet i = false) ∨
      ∃ h : Nat, v.getHighestBitSet = h ∧ v.isBitSet h = true ∧ ∀ i, h < i → v.isBitSet i = false := by
  simp only [isBitSet_eq_bit]
  exact highestBitBelow_spec v.storage v.storageSize fun k hk => List.getD_eq_default _ _ hk

theorem bitsToWords_succ (h : Nat) : bitsToWords (h + 1) = h / 32 + 1 := by
  rw [bitsToWords_eq]
  omega

theorem union_of_highest {v src : BitVector} {h : Nat} (hh : src.getHighestBitSet = h) :
    v.union src = (if v.storageSize < h / 32 + 1 then
        (v.ensureSize h).bind fun v => if h < v.storageSize * kWordBits then some (v, true) else none
      else some (v, false)).map fun r =>
        let acc := orRange (fun idx => src.storage.getD idx 0) 0 (h / 32 + 1) (r.1.storage, r.2)
        ({ r.1 with storage := acc.1 }, acc.2) := by
  simp only [union, hh, Int.toNat_natCast, bitsToWords_succ]
  rw [if_neg (by omega)]

/-- The growth step of `Union`: `EnsureSize` keeps the set, and the flag says it grew. -/
theorem union_grown {v : BitVector} {h : Nat}
    (hfits : v.expandable = true ∨ h < v.storageSize * kWordBits) :
    ∃ v1 c0, (if v.storageSize < h / 32 + 1 then
          (v.ensureSize h).bind fun v => if h < v.storageSize * kWordBits then some (v, true) else none
        else some (v, false)) = some (v1, c0) ∧
      (∀ i, v1.isBitSet i = v.isBitSet i) ∧ h / 32 + 1 ≤ v1.storageSize ∧
      (c0 = true ↔ v.storageSize * kWordBits ≤ h) := by
  by_cases hlt : v.storageSize < h / 32 + 1
  · have hbeyond : v.storageSize * kWordBits ≤ h := by
      unfold kWordBits
      omega
    have hnone : v.ensureSize h ≠ none := by
      rw [ne_eq, ensureSize_eq_none_iff]
      rintro ⟨-, hexp⟩
      rcases hfits with hexp' | hfit
      · rw [hexp] at hexp'
        cases hexp'
      · omega
    obtain ⟨v1, hv1⟩ := Option.ne_none_iff_exists'.1 hnone
    obtain ⟨-, hidx, n, hstorage⟩ := ensureSize_spec hv1
    refine ⟨v1, true, by rw [if_pos hlt, hv1, Option.bind_some, if_pos hidx], fun i => ?_, ?_,
      by simp [hbeyond]⟩
    · rw [isBitSet_eq_bit, isBitSet_eq_bit, hstorage, bit_append_replicate_zero]
    · unfold kWordBits at hidx
      omega
  · have hle : h / 32 + 1 ≤ v.storageSize := Nat.le_of_not_lt hlt
    have hfit : ¬ v.storageSize * kWordBits ≤ h := by
      unfold kWordBits
      omega
    exact ⟨v, false, by rw [if_neg hlt], fun _ => rfl, hle, by simp [hfit]⟩

/-- `Union` with a vector whose bits fit, or into one that can grow: the set gains the other's
bits, and the result is `true` exactly when the set changed. -/
theorem union_spec {v src : BitVector}
    (hgrow : v.expandable = true ∨ ∀ i, src.isBitSet i = true → i < v.storageSize * kWordBits) :
    ∃ v' changed, v.union src = some (v', changed) ∧
      (∀ i, v'.isBitSet i = (v.isBitSet i || src.isBitSet i)) ∧
      (changed = true ↔ ∃ i, v'.isBitSet i ≠ v.isBitSet i) := by
  rcases getHighestBitSet_spec src with ⟨hneg, hempty⟩ | ⟨h, hh, hset, habove⟩
  · exact ⟨v, false, by simp [union, hneg], fun i => by simp [hempty], by simp⟩
  obtain ⟨v1, c0, hgrown, hbits, hlen, hc0⟩ := union_grown (hgrow.imp_right fun hfit => hfit h hset)
  rw [union_of_highest hh, hgrown, Option.map_some]
  have hn : 0 + (h / 32 + 1) ≤ (v1.storage, c0).1.length := by
    simpa [storageSize] using hlen
  have hfinal : ∀ i, bit (orRange (fun idx => src.storage.getD idx 0) 0 (h / 32 + 1)
      (v1.storage, c0)).1 i = (v.isBitSet i || src.isBitSet i) := by
    intro i
    rw [bit_orRange _ hn, ← hbits i, isBitSet_eq_bit v1]
    by_cases hi : i / 32 < h / 32 + 1
    · simp [hi, isBitSet_eq_bit src, bit]
    · rw [habove i (by omega)]
      simp [hi]
  refine ⟨_, _, rfl, fun i => ?_, ?_⟩
  · rw [isBitSet_eq_bit]
    exact hfinal i
  · simp only [isBitSet_eq_bit] at hfinal hbits ⊢
    rw [orRange_snd_iff _ (by decide) hn]
    constructor
    · rintro (hc | ⟨i, hi⟩)
      · have hvh : bit v.storage h = false := by
          rw [← isBitSet_eq_bit]
          unfold isBitSet
          simp [hc0.1 hc]
        refine ⟨h, ?_⟩
        rw [hfinal h, hvh, ← isBitSet_eq_bit, hset]
        simp
      · exact ⟨i, by rwa [← hbits i]⟩
    · rintro ⟨i, hi⟩
      exact Or.inr ⟨i, by rwa [hbits i]⟩

/-- `UnionIfNotIn` after its growth step: with `union_with`'s highest bit `h`, its two or-loops are
one loop of `union_with & ~not_in` over the words up to `h`'s, since past `not_in`'s storage its
words read as zero. -/
theorem unionIfNotIn_of_highest {v b c : BitVector} {h : Nat} (hh : b.getHighestBitSet = h) :
    v.unionIfNotIn b c = (if v.storageSize < h / 32 + 1 then
        (v.setBit h).bind fun v => if h < v.storageSize * kWordBits then some (v, true) else none
      else some (v, false)).map fun r =>
        let acc := orRange (fun idx => b.storage.getD idx 0 &&& ~~~c.storage.getD idx 0) 0
          (h / 32 + 1) (r.1.storage, r.2)
        ({ r.1 with storage := acc.1 }, acc.2) := by
  simp only [unionIfNotIn, hh, Int.toNat_natCast, bitsToWords_succ]
  rw [if_neg (by omega)]
  congr 1
  funext r
  have hm : min c.storageSize (h / 32 + 1) ≤ h / 32 + 1 := Nat.min_le_right _ _
  have hsecond : ∀ acc, orRange (fun idx => b.storage.getD idx 0) (min c.storageSize (h / 32 + 1))
      (h / 32 + 1 - min c.storageSize (h / 32 + 1)) acc =
      orRange (fun idx => b.storage.getD idx 0 &&& ~~~c.storage.getD idx 0)
        (min c.storageSize (h / 32 + 1)) (h / 32 + 1 - min c.storageSize (h / 32 + 1)) acc := by
    intro acc
    apply orRange_congr
    intro idx hlo hhi
    have hc : c.storage.getD idx 0 = 0 := by
      apply List.getD_eq_default
      unfold storageSize at hlo hhi
      omega
    have hones : ~~~(0 : BitVec 32) = BitVec.allOnes 32 := by decide
    rw [hc, hones, BitVec.and_allOnes]
  have hmerge := orRange_add (fun idx => b.storage.getD idx 0 &&& ~~~c.storage.getD idx 0) 0
    (min c.storageSize (h / 32 + 1)) (h / 32 + 1 - min c.storageSize (h / 32 + 1)) (r.1.storage, r.2)
  rw [Nat.zero_add, Nat.add_sub_cancel' hm] at hmerge
  simp only [hsecond, hmerge]

/-- The growth step of `UnionIfNotIn`: `SetBit(highest_bit)` adds that bit to the set, and the flag
says it grew. -/
theorem unionIfNotIn_grown {v : BitVector} {h : Nat}
    (hfits : v.expandable = true ∨ h < v.storageSize * kWordBits) :
    ∃ v1 c0, (if v.storageSize < h / 32 + 1 then
          (v.setBit h).bind fun v => if h < v.storageSize * kWordBits then some (v, true) else none
        else some (v, false)) = some (v1, c0) ∧
      (∀ i, v1.isBitSet i = ((c0 && decide (i = h)) || v.isBitSet i)) ∧
      h / 32 + 1 ≤ v1.storageSize ∧ (c0 = true ↔ v.storageSize * kWordBits ≤ h) := by
  by_cases hlt : v.storageSize < h / 32 + 1
  · have hbeyond : v.storageSize * kWordBits ≤ h := by
      unfold kWordBits
      omega
    have hnone : v.setBit h ≠ none := by
      rw [ne_eq, setBit_eq_none_iff]
      rintro ⟨-, hexp⟩
      rcases hfits with hexp' | hfit
      · rw [hexp] at hexp'
        cases hexp'
      · omega
    obtain ⟨v1, hv1⟩ := Option.ne_none_iff_exists'.1 hnone
    obtain ⟨-, -, hidx, hbits⟩ := setBit_spec hv1
    refine ⟨v1, true, by rw [if_pos hlt, hv1, Option.bind_some, if_pos hidx], fun i => ?_, ?_,
      by simp [hbeyond]⟩
    · rw [hbits, Bool.true_and]
    · unfold kWordBits at hidx
      omega
  · have hle : h / 32 + 1 ≤ v.storageSize := Nat.le_of_not_lt hlt
    have hfit : ¬ v.storageSize * kWordBits ≤ h := by
      unfold kWordBits
      omega
    exact ⟨v, false, by rw [if_neg hlt], fun _ => by simp, hle, by simp [hfit]⟩

/-- What `UnionIfNotIn(b, c)` does, on a vector that can grow or already holds the bits of `b`:
the set gains the bits of `b` that `c` lacks and, when the storage has to grow, the highest bit of
`b`, which `SetBit` sets whether or not `c` has it; the result is `true` exactly when the set
changed. -/
theorem unionIfNotIn_spec {v b c : BitVector}
    (hgrow : v.expandable = true ∨ ∀ i, b.isBitSet i = true → i < v.storageSize * kWordBits) :
    ∃ v' changed, v.unionIfNotIn b c = some (v', changed) ∧
      (∀ i, v'.isBitSet i = (v.isBitSet i || (b.isBitSet i && !c.isBitSet i) ||
        (decide (v.storageSize * kWordBits ≤ i) && decide (b.getHighestBitSet = i)))) ∧
      (changed = true ↔ ∃ i, v'.isBitSet i ≠ v.isBitSet i) := by
  rcases getHighestBitSet_spec b with ⟨hneg, hempty⟩ | ⟨h, hh, hset, habove⟩
  · exact ⟨v, false, by simp [unionIfNotIn, hneg], fun i => by simp [hempty, hneg], by simp⟩
  obtain ⟨v1, c0, hgrown, hbits, hlen, hc0⟩ :=
    unionIfNotIn_grown (hgrow.imp_right fun hfit => hfit h hset)
  rw [unionIfNotIn_of_highest hh, hgrown, Option.map_some]
  have hn : 0 + (h / 32 + 1) ≤ (v1.storage, c0).1.length := by
    simpa [storageSize] using hlen
  have hextra : ∀ i, (c0 && decide (i = h)) =
      (decide (v.storageSize * kWordBits ≤ i) && decide ((h : Int) = i)) := by
    intro i
    by_cases hih : i = h
    · subst hih
      cases c0 <;> simp_all
    · have hne : ¬ (h : Int) = i := by omega
      simp [hih, hne]
  have hfinal : ∀ i, bit (orRange (fun idx => b.storage.getD idx 0 &&& ~~~c.storage.getD idx 0) 0
      (h / 32 + 1) (v1.storage, c0)).1 i = (v.isBitSet i || (b.isBitSet i && !c.isBitSet i) ||
        (decide (v.storageSize * kWordBits ≤ i) && decide ((h : Int) = i))) := by
    intro i
    rw [bit_orRange _ hn, ← isBitSet_eq_bit v1, hbits, hextra]
    by_cases hi : i / 32 < h / 32 + 1
    · simp only [Nat.zero_le, Nat.zero_add, hi, and_self, decide_true, Bool.true_and,
        BitVec.getLsbD_and, BitVec.getLsbD_not, isBitSet_eq_bit b, isBitSet_eq_bit c, bit,
        Nat.mod_lt i (show 0 < 32 by decide)]
      cases v.isBitSet i <;> simp [Bool.or_comm]
    · rw [habove i (by omega)]
      simp [hi, Bool.or_comm]
  refine ⟨_, _, rfl, fun i => ?_, ?_⟩
  · rw [isBitSet_eq_bit, hh]
    exact hfinal i
  · have hv1 : ∀ i, bit v1.storage i = ((c0 && decide (i = h)) || bit v.storage i) := by
      intro i
      rw [← isBitSet_eq_bit, ← isBitSet_eq_bit, hbits]
    simp only [isBitSet_eq_bit] at hfinal ⊢
    rw [orRange_snd_iff _ (by decide) hn]
    dsimp only
    constructor
    · rintro (hc | ⟨i, hi⟩)
      · have hvh : bit v.storage h = false := by
          rw [← isBitSet_eq_bit]
          unfold isBitSet
          simp [hc0.1 hc]
        refine ⟨h, ?_⟩
        have hfh := hv1 h
        rw [hc, hvh] at hfh
        rw [bit_orRange _ hn, hvh]
        simp [hfh]
      · rw [hv1 i] at hi
        cases c0
        · exact ⟨i, by simpa using hi⟩
        · have hvh : bit v.storage h = false := by
            rw [← isBitSet_eq_bit]
            unfold isBitSet
            simp [hc0.1 rfl]
          have hfh := hv1 h
          exact ⟨h, by rw [bit_orRange _ hn, hfh, hvh]; simp⟩
    · rintro ⟨i, hi⟩
      by_cases hc : c0 = true
      · exact Or.inl hc
      · refine Or.inr ⟨i, ?_⟩
        rw [hv1 i]
        simpa [hc] using hi

/-- `UnionIfNotIn(b, c)` with `b = c = {32}` on an empty vector of one word: `S(a) ∪ (S(b) \ S(c))`
is empty, but the vector has to grow, `SetBit(32)` sets bit 32, and the result says the set
changed. -/
theorem unionIfNotIn_adds_excluded_bit :
    let a : BitVector := ⟨[0], true⟩
    let b : BitVector := ⟨[0, 1], true⟩
    (∀ i, (a.isBitSet i || (b.isBitSet i && !b.isBitSet i)) = false) ∧
      a.unionIfNotIn b b = some (⟨[0, 1], true⟩, true) ∧
      (⟨[0, 1], true⟩ : BitVector).isBitSet 32 = true := by
  intro a b
  have ha : ∀ i, a.isBitSet i = false := fun i => by
    rw [isBitSet_eq_bit]
    cases hk : i / 32 with
    | zero => simp [a, bit, hk]
    | succ k => simp [a, bit, hk]
  exact ⟨fun i => by simp [ha], by decide, by decide⟩

end BitVector

end Art
