import AndroidArt.Quick.Lir

/-!
# A64 logical immediates

The immediate operand of the A64 `AND`, `ORR` and `EOR` instructions is a bitmask: an element
of `2`, `4`, ..., `64` bits holding a rotated run of ones, repeated across the register.  The
quick compiler writes it as `n << 12 | imm_r << 6 | imm_s`, the fields `N`, `immr` and `imms`
of the instruction.

* `rotateRight`, `replicate` — rotating an element and repeating it across a register, on the
  natural number of its bits.
* `decodeBitMasks` — the architecture's `DecodeBitMasks` for a logical immediate: the value the
  machine uses for the encoded operand, or `none` for a reserved encoding.

## The quick compiler's encoder and decoder

* `Arm64.encodeLogicalImmediate` — `Arm64Mir2Lir::EncodeLogicalImmediate` of `utility_arm64.cc`:
  the halving search over element sizes, with the leading and trailing counts taken once on the
  whole register.  `__builtin_clz` and `__builtin_ctz` leave their result for `0` undefined;
  the model gives `none` there.
* `Arm64.decodeLogicalImmediate` — `Arm64Mir2Lir::DecodeLogicalImmediate` of `target_arm64.cc`,
  with `BIT_MASK`, `RotateRight` and `RepeatBitsAcrossReg`.  A shift of a `uint64_t` by `64` or
  more is undefined, and a failed `DCHECK` stops the compiler: both are `none`.
* `encodeLogicalImmediate_of_low_zero`, `decodeLogicalImmediate_of_n` — a W value whose low
  word is zero but not the value itself reaches `__builtin_clz(0)`, and every encoding with
  `N = 1` reaches `BIT_MASK(64)`.
-/

set_option autoImplicit false

namespace Art.Quick

/-- An element of `esize` bits rotated right by `r < esize`. -/
def rotateRight (esize x r : Nat) : Nat :=
  x / 2 ^ r + x % 2 ^ r * 2 ^ (esize - r)

/-- `k` copies of an element of `esize` bits, the first in the low bits. -/
def replicate (esize e : Nat) : Nat → Nat
  | 0 => 0
  | k + 1 => e + replicate esize e k * 2 ^ esize

/-- `DecodeBitMasks(N, imms, immr)` of the A64 architecture for a logical immediate of a
`regSize`-bit register: the element size `2^len` is given by the highest set bit of
`N:NOT(imms)`, the element holds `S + 1` ones rotated right by `R`, and an all-ones `S`, an
element wider than the register or `len = 0` is reserved. -/
def decodeBitMasks (regSize imm : Nat) : Option Nat :=
  let n := imm / 2 ^ 12 % 2
  let immr := imm / 2 ^ 6 % 2 ^ 6
  let imms := imm % 2 ^ 6
  let len := Nat.log2 (n * 2 ^ 6 + (2 ^ 6 - 1 - imms))
  if len = 0 ∨ regSize < 2 ^ len then none
  else
    let s := imms % 2 ^ len
    let r := immr % 2 ^ len
    if s = 2 ^ len - 1 then none
    else some (replicate (2 ^ len) (rotateRight (2 ^ len) (2 ^ (s + 1) - 1) r) (regSize / 2 ^ len))

end Art.Quick

namespace Art.Quick.Arm64

/-! ## The encoder -/

/-- The builtin count of `CountLeadingZeros` or `CountTrailingZeros`: on the value, or on its low
word for a W register; undefined (`none`) for `0`. -/
def countZeros (count : ∀ {w : Nat}, BitVec w → BitVec w) (isWide : Bool) (value : BitVec 64) :
    Option Nat :=
  if isWide then if value = 0 then none else some (count value).toNat
  else if value.setWidth 32 = 0 then none else some (count (value.setWidth 32)).toNat

/-- `CountLeadingZeros`: `__builtin_clzll` or `__builtin_clz`. -/
def countLeadingZeros (isWide : Bool) (value : BitVec 64) : Option Nat :=
  countZeros BitVec.clz isWide value

/-- `CountTrailingZeros`: `__builtin_ctzll` or `__builtin_ctz`. -/
def countTrailingZeros (isWide : Bool) (value : BitVec 64) : Option Nat :=
  countZeros BitVec.ctz isWide value

/-- `CountSetBits`: `__builtin_popcountll` or `__builtin_popcount`. -/
def countSetBits (isWide : Bool) (value : BitVec 64) : Nat :=
  if isWide then value.cpop.toNat else (value.setWidth 32).cpop.toNat

/-- The `for (;;)` loop of `EncodeLogicalImmediate`, on its `unsigned` and `int` locals as 32-bit
words: steps 2 to 6 at the element size `width`, then the next round on the lower half.  The
fuel bounds the rounds; the source's loop ends within six. -/
def encodeLoop (value : BitVec 64) (leadZero leadOne trailZero trailOne : BitVec 32) :
    Nat → BitVec 32 → BitVec 32 → BitVec 32 → Option (BitVec 32)
  | 0, _, _, _ => none
  | fuel + 1, width, setBits, immSFixed =>
    if width = 2 then
      some (0 <<< 12 ||| ((value &&& 3) - 1).setWidth 32 <<< 6 ||| 0x3C)
    else
      let n : BitVec 32 := if width = 64 then 1 else 0
      let immS := (immSFixed ||| (setBits - 1)) &&& 0x3f
      let immR :=
        if leadZero + setBits = width then 0
        else if 0 < leadZero then width - trailZero else leadOne
      if leadZero + trailZero + setBits = width then some (n <<< 12 ||| immR <<< 6 ||| immS)
      else if leadOne + trailOne + (width - setBits) = width then
        some (n <<< 12 ||| immR <<< 6 ||| immS)
      else
        let mask : BitVec 64 := (1#64 <<< (width >>> 1).toNat) - 1
        if value &&& mask = (value >>> (width >>> 1).toNat) &&& mask then
          encodeLoop value leadZero leadOne trailZero trailOne fuel (width >>> 1) (setBits >>> 1)
            (immSFixed.sshiftRight 1)
        else some (-1)

/-- `Arm64Mir2Lir::EncodeLogicalImmediate`: the `int` encoding `N:immr:imms` of `value` as a
logical immediate of a W or X register, or `-1`. -/
def encodeLogicalImmediate (isWide : Bool) (value : BitVec 64) : Option (BitVec 32) :=
  if value = 0 ∨ value = -1 ∨ (isWide = false ∧ value.setWidth 32 = -1) then some (-1)
  else do
    let leadZero ← countLeadingZeros isWide value
    let leadOne ← countLeadingZeros isWide (~~~value)
    let trailZero ← countTrailingZeros isWide value
    let trailOne ← countTrailingZeros isWide (~~~value)
    let setBits := countSetBits isWide value
    let width : BitVec 32 := if isWide then 64 else 32
    let immSFixed : BitVec 32 := if isWide then -128 else -64
    encodeLoop value (.ofNat 32 leadZero) (.ofNat 32 leadOne) (.ofNat 32 trailZero)
      (.ofNat 32 trailOne) width.toNat width (.ofNat 32 setBits) immSFixed

/-! ## The decoder -/

/-- `BIT_MASK(w)`, `(UINT64_C(1) << w) - 1`; undefined for `w ≥ 64`. -/
def bitMask (w : Nat) : Option (BitVec 64) :=
  if w < 64 then some ((1#64 <<< w) - 1) else none

/-- `RotateRight` of `target_arm64.cc`: the low `width` bits of `value` rotated right by
`rotate & 63`, through `BIT_MASK(width)`, `BIT_MASK(rotate)` and a left shift by the `unsigned`
difference `width - rotate`. -/
def rotateRight (value : BitVec 64) (rotate width : Nat) : Option (BitVec 64) :=
  if 64 < width then none
  else do
    let rotate := rotate % 64
    let value := value &&& (← bitMask width)
    let low ← bitMask rotate
    if rotate ≤ width ∧ width - rotate < 64 then
      some (((value &&& low) <<< (width - rotate)) ||| (value >>> rotate))
    else none

/-- The doubling loop of `RepeatBitsAcrossReg` from `i` up to the register size, then its
`DCHECK_EQ(i, reg_size)`; the fuel bounds the rounds. -/
def repeatLoop (regSize : Nat) : Nat → Nat → BitVec 64 → Option (BitVec 64)
  | 0, _, _ => none
  | fuel + 1, i, result =>
    if i < regSize then repeatLoop regSize fuel (i * 2) (result ||| (result <<< i))
    else if i = regSize then some result else none

/-- `RepeatBitsAcrossReg`: the low `width` bits of `value` repeated across a W or X register. -/
def repeatBitsAcrossReg (isWide : Bool) (value : BitVec 64) (width : Nat) :
    Option (BitVec 64) := do
  let regSize := if isWide then 64 else 32
  repeatLoop regSize regSize width (value &&& (← bitMask width))

/-- The loop of `DecodeLogicalImmediate` for `N = 0` over the element sizes `32` down to `2`: the
first size whose bit is clear in `imms` gives the element. -/
def decodeLoop (isWide : Bool) (immS immR : Nat) : List Nat → Option (BitVec 64)
  | [] => some 0
  | width :: widths =>
    if immS &&& width = 0 then
      let mask := width - 1
      if immS &&& mask = mask then none
      else do
        let bits ← bitMask ((immS &&& mask) + 1)
        repeatBitsAcrossReg isWide (← rotateRight bits (immR &&& mask) width) width
    else decodeLoop isWide immS immR widths

/-- `Arm64Mir2Lir::DecodeLogicalImmediate`: the value of the `int` encoding `value`. -/
def decodeLogicalImmediate (isWide : Bool) (value : BitVec 32) : Option (BitVec 64) :=
  let n := (value.sshiftRight 12 &&& 1).toNat
  let immR := (value.sshiftRight 6 &&& 0x3f).toNat
  let immS := (value &&& 0x3f).toNat
  if n = 1 then
    if immS = 0x3f then none
    else do rotateRight (← bitMask (immS + 1)) immR 64
  else if immS >>> 1 = 0x1f then none
  else decodeLoop isWide immS immR [0x20, 0x10, 0x8, 0x4, 0x2]

/-! ## Undefined behaviour -/

theorem bitMask_of_le {w : Nat} (h : 64 ≤ w) : bitMask w = none := by
  simp only [bitMask, if_neg (Nat.not_lt.mpr h)]

/-- A rotation of a whole X register computes `BIT_MASK(64)`. -/
theorem rotateRight_sixtyFour (value : BitVec 64) (rotate : Nat) :
    rotateRight value rotate 64 = none := by
  simp only [rotateRight, Nat.lt_irrefl, ↓reduceIte, bitMask_of_le (le_refl 64), Option.bind_none,
    Option.bind_eq_bind]

/-- Every encoding with `N = 1`, the only ones of a 64-bit element, is decoded through a
rotation of the whole X register. -/
theorem decodeLogicalImmediate_of_n (isWide : Bool) {value : BitVec 32}
    (hn : (value.sshiftRight 12 &&& 1).toNat = 1) : decodeLogicalImmediate isWide value = none := by
  simp only [decodeLogicalImmediate, hn, ↓reduceIte]
  split_ifs
  · rfl
  · cases bitMask ((value &&& 0x3f).toNat + 1) <;> simp [rotateRight_sixtyFour]

/-- A W value whose low word is zero, with bits set above it, passes step 1 of the encoder and
reaches `__builtin_clz(0)`. -/
theorem encodeLogicalImmediate_of_low_zero {value : BitVec 64} (h0 : value ≠ 0)
    (hlow : value.setWidth 32 = 0) : encodeLogicalImmediate false value = none := by
  have hne : value ≠ -1 := by
    rintro rfl
    exact absurd hlow (by decide)
  have hlz : countLeadingZeros false value = none := by
    simp only [countLeadingZeros, countZeros, Bool.false_eq_true, ↓reduceIte, hlow]
  simp only [encodeLogicalImmediate, h0, hne, hlow, hlz, false_or, true_and]
  simp

/-- The encoder's answer for `2^32` on a W register, and the round trip of `1` on an X register,
are undefined: `EncodeLogicalImmediate(false, 2^32)` reaches `__builtin_clz(0)`, and the encoding
`0x1000` that `EncodeLogicalImmediate(true, 1)` returns is decoded through `BIT_MASK(64)`. -/
theorem logicalImmediate_round_trip_undefined :
    encodeLogicalImmediate false (BitVec.ofNat 64 (2 ^ 32)) = none ∧
      encodeLogicalImmediate true 1 = some 0x1000 ∧
      decodeLogicalImmediate true 0x1000 = none :=
  ⟨encodeLogicalImmediate_of_low_zero (by decide) (by decide), by decide +kernel,
    decodeLogicalImmediate_of_n true (by decide)⟩

end Art.Quick.Arm64
