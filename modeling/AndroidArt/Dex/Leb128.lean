import AndroidArt.Lib.Word

/-!
# LEB128 decoding and encoding

Model of the decoders, encoders and size functions of `runtime/leb128.h`.  A decoder reads bytes through a raw pointer, with
no bound: `Bytes` is the memory seen from that pointer, and a decoder returns the value together
with the advanced pointer, so that a caller can tell how far it read.

* `decodeUnsignedLeb128` — up to five bytes, the fifth contributing its whole value shifted by
  28 in `int` arithmetic (garbage in its high bits is tolerated and wraps modulo `2^32`);
* `decodeSignedLeb128` — the same walk, sign-extending from bit 6, 13, 20 or 27 with the
  `(result << k) >> k` idiom of the source.

`decodeUnsignedLeb128_length` and `decodeSignedLeb128_length` bound how many bytes a decoder
consumes.

The two encoders of each kind, `EncodeUnsignedLeb128` into raw memory and
`Leb128Encoder::PushBackUnsigned` onto a vector (and their signed forms), run the same loop with a
different store for each byte: `unsignedLoop` and `signedLoop` take that store as a parameter.
-/

set_option autoImplicit false

namespace Art

/-- The bytes at and after a pointer. -/
abbrev Bytes := Nat → UInt8

namespace Leb128

/-- `DecodeUnsignedLeb128`: the value and the pointer just past it. -/
def decodeUnsignedLeb128 (d : Bytes) (p : Nat) : Nat × Nat :=
  let b0 := (d p).toNat
  if b0 ≤ 0x7f then (b0, p + 1) else
  let b1 := (d (p + 1)).toNat
  let r1 := (b0 &&& 0x7f) ||| ((b1 &&& 0x7f) <<< 7)
  if b1 ≤ 0x7f then (r1, p + 2) else
  let b2 := (d (p + 2)).toNat
  let r2 := r1 ||| ((b2 &&& 0x7f) <<< 14)
  if b2 ≤ 0x7f then (r2, p + 3) else
  let b3 := (d (p + 3)).toNat
  let r3 := r2 ||| ((b3 &&& 0x7f) <<< 21)
  if b3 ≤ 0x7f then (r3, p + 4) else
  let b4 := (d (p + 4)).toNat
  (Word.toUnsigned 32 (r3 ||| (b4 <<< 28)), p + 5)

/-- `DecodeSignedLeb128`: the value and the pointer just past it. -/
def decodeSignedLeb128 (d : Bytes) (p : Nat) : Int × Nat :=
  let b0 := (d p).toNat
  if b0 ≤ 0x7f then (Word.toSigned 7 b0, p + 1) else
  let b1 := (d (p + 1)).toNat
  let r1 := (b0 &&& 0x7f) ||| ((b1 &&& 0x7f) <<< 7)
  if b1 ≤ 0x7f then (Word.toSigned 14 r1, p + 2) else
  let b2 := (d (p + 2)).toNat
  let r2 := r1 ||| ((b2 &&& 0x7f) <<< 14)
  if b2 ≤ 0x7f then (Word.toSigned 21 r2, p + 3) else
  let b3 := (d (p + 3)).toNat
  let r3 := r2 ||| ((b3 &&& 0x7f) <<< 21)
  if b3 ≤ 0x7f then (Word.toSigned 28 r3, p + 4) else
  let b4 := (d (p + 4)).toNat
  (Word.toSigned 32 (r3 ||| (b4 <<< 28)), p + 5)

theorem decodeUnsignedLeb128_length (d : Bytes) (p : Nat) :
    p + 1 ≤ (decodeUnsignedLeb128 d p).2 ∧ (decodeUnsignedLeb128 d p).2 ≤ p + 5 := by
  unfold decodeUnsignedLeb128
  dsimp only
  split_ifs <;> omega

theorem decodeSignedLeb128_length (d : Bytes) (p : Nat) :
    p + 1 ≤ (decodeSignedLeb128 d p).2 ∧ (decodeSignedLeb128 d p).2 ≤ p + 5 := by
  unfold decodeSignedLeb128
  dsimp only
  split_ifs <;> omega

/-! ### Sizes -/

/-- `CLZ` of `utils.h` on a nonzero `uint32_t`: the zero bits above the highest set bit. -/
def clz (x : UInt32) : Nat := 31 - Nat.log2 x.toNat

/-- `UnsignedLeb128Size`: `ceil(bits / 7)` for the bits of `data | 1`, the division by 7 done as
`(x * 37) >> 8`. -/
def unsignedLeb128Size (data : UInt32) : UInt32 :=
  let x : UInt32 := 6 + 32 - (clz (data ||| 1)).toUInt32
  (x * 37) >>> 8

/-- `SignedLeb128Size`: the same for `data ^ (data >> 31)`, the bits that differ from the sign,
with one more bit for the sign itself. -/
def signedLeb128Size (data : Int32) : UInt32 :=
  let data := data ^^^ (data >>> 31)
  let x : UInt32 := 1 + 6 + 32 - (clz (data ||| 1).toUInt32).toUInt32
  (x * 37) >>> 8

/-! ### Encoding -/

/-- `*dest++ = b`: store a byte and advance the pointer. -/
def storeByte (md : Bytes × Nat) (b : UInt8) : Bytes × Nat :=
  (Function.update md.1 md.2 b, md.2 + 1)

/-- The loop of `EncodeUnsignedLeb128` and `PushBackUnsigned` with `emit` for the store:
`out` is the byte in hand and `value` the bits still to go.  The source loops while `value` is
nonzero; a `uint32_t` shifted right by 7 five times is zero, so four rounds after the first
shift always end it. -/
def unsignedLoop {σ : Type} (emit : σ → UInt8 → σ) : Nat → σ → UInt8 → UInt32 → σ
  | 0, s, out, _ => emit s out
  | fuel + 1, s, out, value =>
    if value != 0 then
      unsignedLoop emit fuel (emit s (out ||| 0x80)) (value &&& 0x7f).toUInt8 (value >>> 7)
    else emit s out

/-- `EncodeUnsignedLeb128`: the memory after the bytes are stored at `dest`, and the pointer
past them. -/
def encodeUnsignedLeb128 (mem : Bytes) (dest : Nat) (value : UInt32) : Bytes × Nat :=
  unsignedLoop storeByte 4 (mem, dest) (value &&& 0x7f).toUInt8 (value >>> 7)

/-- `Leb128Encoder::PushBackUnsigned`. -/
def pushBackUnsigned (data : List UInt8) (value : UInt32) : List UInt8 :=
  unsignedLoop (fun l b => l ++ [b]) 4 data (value &&& 0x7f).toUInt8 (value >>> 7)

/-- `Leb128Encoder::InsertBackUnsigned`. -/
def insertBackUnsigned (data : List UInt8) (values : List UInt32) : List UInt8 :=
  values.foldl pushBackUnsigned data

/-- The loop of `EncodeSignedLeb128` and `PushBackSigned`: `extraBits` counts down the bits of
`value ^ (value >> 31)` above the six that the byte in hand holds besides its sign, seven per
round; `value` is shifted arithmetically.  `extraBits` starts below `2^25`, so four rounds end
the loop. -/
def signedLoop {σ : Type} (emit : σ → UInt8 → σ) : Nat → σ → UInt8 → Int32 → UInt32 → σ
  | 0, s, out, _, _ => emit s out
  | fuel + 1, s, out, value, extraBits =>
    if extraBits != 0 then
      let value := value >>> 7
      signedLoop emit fuel (emit s (out ||| 0x80)) (value &&& 0x7f).toUInt32.toUInt8 value
        (extraBits >>> 7)
    else emit s out

/-- The first `extra_bits` of the signed encoders. -/
def extraBits (value : Int32) : UInt32 := (value ^^^ (value >>> 31)).toUInt32 >>> 6

/-- `EncodeSignedLeb128`. -/
def encodeSignedLeb128 (mem : Bytes) (dest : Nat) (value : Int32) : Bytes × Nat :=
  signedLoop storeByte 4 (mem, dest) (value &&& 0x7f).toUInt32.toUInt8 value (extraBits value)

/-- `Leb128Encoder::PushBackSigned`. -/
def pushBackSigned (data : List UInt8) (value : Int32) : List UInt8 :=
  signedLoop (fun l b => l ++ [b]) 4 data (value &&& 0x7f).toUInt32.toUInt8 value (extraBits value)

/-- `Leb128Encoder::InsertBackSigned`. -/
def insertBackSigned (data : List UInt8) (values : List Int32) : List UInt8 :=
  values.foldl pushBackSigned data

end Leb128

end Art
