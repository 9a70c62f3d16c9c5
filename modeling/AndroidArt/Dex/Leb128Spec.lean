import AndroidArt.Dex.Leb128
import AndroidArt.Lib.Leb128

/-!
# The LEB128 encoders and decoders against the format

The encoders and decoders of `runtime/leb128.h` (`Art.Leb128`) against the number format of
`Leb128Format`:

* `pushBackUnsigned_eq`, `encodeUnsignedLeb128_eq` (and the signed forms) — both encoders of a
  kind emit the format's bytes of the value, into a vector or into memory from `dest` on;
* `unsignedLeb128Size_eq`, `signedLeb128Size_eq` — the size functions count those bytes;
* `decodeUnsignedLeb128_of_holdsAt`, `decodeSignedLeb128_of_holdsAt` — a decoder reading memory
  that holds the bytes of a value, whatever follows them, returns the value and the pointer
  just past the bytes;
* `decodeMany_insertBackUnsigned`, `decodeMany_insertBackSigned` — decoding the bytes of a list
  of values, one value after another, gives the list back.
-/

set_option autoImplicit false

namespace Art.Leb128

open Leb128Format

/-! ## Bytes in memory -/

/-- The unsigned LEB128 bytes of `v` as `uint8_t`. -/
def ulebBytes (v : Nat) : List UInt8 := (uleb v).map Nat.toUInt8

/-- The signed LEB128 bytes of `x` as `uint8_t`. -/
def slebBytes (x : Int) : List UInt8 := (sleb x).map Nat.toUInt8

/-- Memory with `bs` stored from `dest` on. -/
def writeBytes (mem : Bytes) (dest : Nat) : List UInt8 → Bytes
  | [] => mem
  | b :: bs => writeBytes (Function.update mem dest b) (dest + 1) bs

/-- The memory holds `bs` from `p` on. -/
def HoldsAt (d : Bytes) (p : Nat) (bs : List UInt8) : Prop :=
  ∀ i (h : i < bs.length), d (p + i) = bs[i]

theorem holdsAt_append {d : Bytes} {p : Nat} {as bs : List UInt8} :
    HoldsAt d p (as ++ bs) ↔ HoldsAt d p as ∧ HoldsAt d (p + as.length) bs := by
  constructor
  · intro h
    refine ⟨fun i hi => ?_, fun i hi => ?_⟩
    · rw [h i (by simp; omega), List.getElem_append_left hi]
    · rw [Nat.add_assoc, h (as.length + i) (by simp; omega), List.getElem_append_right (by omega)]
      simp
  · rintro ⟨ha, hb⟩ i hi
    by_cases hlt : i < as.length
    · rw [ha i hlt, List.getElem_append_left hlt]
    · have := hb (i - as.length) (by simp at hi; omega)
      rw [Nat.add_assoc, Nat.add_sub_cancel' (by omega)] at this
      rw [this, List.getElem_append_right (by omega)]

theorem holdsAt_cons {d : Bytes} {p : Nat} {b : UInt8} {bs : List UInt8} :
    HoldsAt d p (b :: bs) ↔ d p = b ∧ HoldsAt d (p + 1) bs := by
  rw [← List.singleton_append, holdsAt_append]
  simp [HoldsAt]

theorem writeBytes_of_lt (mem : Bytes) (bs : List UInt8) {dest a : Nat} (h : a < dest) :
    writeBytes mem dest bs a = mem a := by
  induction bs generalizing mem dest with
  | nil => rfl
  | cons b bs ih =>
    rw [writeBytes, ih _ (by omega), Function.update_of_ne (by omega)]

theorem holdsAt_writeBytes (mem : Bytes) (dest : Nat) (bs : List UInt8) :
    HoldsAt (writeBytes mem dest bs) dest bs := by
  induction bs generalizing mem dest with
  | nil => intro i hi; simp at hi
  | cons b bs ih =>
    rw [holdsAt_cons, writeBytes]
    exact ⟨by rw [writeBytes_of_lt _ _ (by omega), Function.update_self], ih _ _⟩

/-- Storing bytes one at a time through `storeByte` writes them all and moves the pointer past
them. -/
theorem foldl_storeByte (mem : Bytes) (dest : Nat) (bs : List UInt8) :
    bs.foldl storeByte (mem, dest) = (writeBytes mem dest bs, dest + bs.length) := by
  induction bs generalizing mem dest with
  | nil => rfl
  | cons b bs ih =>
    rw [List.foldl_cons, storeByte, ih, writeBytes, List.length_cons, Nat.add_comm bs.length,
      Nat.add_assoc]

theorem foldl_push (data bs : List UInt8) : bs.foldl (fun l b => l ++ [b]) data = data ++ bs := by
  induction bs generalizing data with
  | nil => simp
  | cons b bs ih => simp [ih]

/-! ## Machine operations as arithmetic -/

theorem toNat_shiftRight_seven (v : UInt32) : (v >>> 7).toNat = v.toNat / 128 := by
  rw [UInt32.toNat_shiftRight]
  simp [Nat.shiftRight_eq_div_pow]

theorem toNat_low7 (v : UInt32) : (v &&& 0x7f).toUInt8.toNat = v.toNat % 128 := by
  rw [UInt32.toNat_toUInt8, UInt32.toNat_and]
  have h : (0x7f : UInt32).toNat = 2 ^ 7 - 1 := rfl
  rw [h, Nat.and_two_pow_sub_one_eq_mod]
  omega

theorem toNat_or_0x80 (b : UInt8) (h : b.toNat < 128) : (b ||| 0x80).toNat = b.toNat + 128 := by
  rw [UInt8.toNat_or]
  have h80 : (0x80 : UInt8).toNat = 1 <<< 7 := rfl
  rw [h80, Word.or_shiftLeft_eq_add h]
  omega

/-- `>>` on `int32_t` is the arithmetic shift: division rounding down. -/
theorem int32_toInt_shiftRight (v s : Int32) {k : Nat} (hs : (s.toBitVec.smod 32).toNat = k) :
    (v >>> s).toInt = v.toInt / 2 ^ k := by
  rw [← Int32.toInt_toBitVec, Int32.toBitVec_shiftRight, BitVec.toInt_sshiftRight', hs,
    Int32.toInt_toBitVec, Int.shiftRight_eq_div_pow, Nat.cast_pow, Nat.cast_ofNat]

/-- `static_cast<uint32_t>` of an `int32_t` is its value modulo `2^32`. -/
theorem int32_toNat_toUInt32 (w : Int32) : (w.toUInt32.toNat : Int) = w.toInt % 2 ^ 32 := by
  have h := BitVec.toInt_eq_toNat_bmod w.toBitVec
  rw [Int32.toInt_toBitVec] at h
  have hw : w.toBitVec.toNat = w.toUInt32.toNat := rfl
  have hlt := w.toUInt32.toNat_lt
  rw [h, hw, Int.bmod_def]
  split_ifs <;> omega

theorem int32_low7 (v : Int32) : (v &&& 0x7f).toUInt32.toUInt8.toNat = (v.toInt % 128).toNat := by
  rw [Int32.toUInt32_and, UInt32.toNat_toUInt8, UInt32.toNat_and]
  have h : (0x7f : Int32).toUInt32.toNat = 2 ^ 7 - 1 := rfl
  rw [h, Nat.and_two_pow_sub_one_eq_mod]
  have := int32_toNat_toUInt32 v
  omega

/-- `value ^ (value >> 31)` keeps the bits of `value` that differ from its sign. -/
theorem toNat_xor_shiftRight (v : Int32) :
    (v ^^^ (v >>> 31)).toUInt32.toNat = signMag v.toInt := by
  have h31 := int32_toInt_shiftRight v 31 (k := 31) (by decide)
  have hlo := v.le_toInt
  have hhi := v.toInt_lt
  unfold signMag
  split_ifs with hx
  · -- a non-negative value shifts to `0`, and `v ^ 0 = v`
    have hz : v >>> 31 = 0 := Int32.toInt_inj.mp (by rw [h31]; simp; omega)
    rw [hz, Int32.xor_zero]
    have := int32_toNat_toUInt32 v
    omega
  · -- a negative one shifts to `-1`, and `v ^ -1 = ~v = -v - 1`
    have hz : v >>> 31 = -1 := Int32.toInt_inj.mp (by rw [h31]; simp; omega)
    rw [hz, Int32.xor_neg_one]
    have := int32_toNat_toUInt32 (~~~v)
    rw [Int32.toInt_not, Int.bmod_def] at this
    split_ifs at this <;> omega

theorem toNat_of_eq_toUInt8 {b : UInt8} {n : Nat} (h : b = n.toUInt8) (hn : n < 256) :
    b.toNat = n := by
  rw [h, Nat.toUInt8_eq, UInt8.toNat_ofNat', Nat.mod_eq_of_lt hn]

theorem toUInt8_toNat (b : UInt8) : b.toNat.toUInt8 = b :=
  UInt8.toNat_inj.mp (toNat_of_eq_toUInt8 rfl b.toNat_lt)

/-! ## The encoding loops -/

theorem ulebBytes_of_lt {v : Nat} (h : v < 128) : ulebBytes v = [v.toUInt8] := by
  rw [ulebBytes, uleb_of_lt h, List.map_singleton]

theorem ulebBytes_of_ge {v : Nat} (h : 128 ≤ v) :
    ulebBytes v = (v % 128 + 128).toUInt8 :: ulebBytes (v / 128) := by
  rw [ulebBytes, uleb_of_ge h, List.map_cons]
  rfl

theorem slebBytes_of_small {x : Int} (hlo : -64 ≤ x) (hhi : x < 64) :
    slebBytes x = [(x % 128).toNat.toUInt8] := by
  rw [slebBytes, sleb_of_small hlo hhi, List.map_singleton]

theorem slebBytes_of_large {x : Int} (h : ¬(-64 ≤ x ∧ x < 64)) :
    slebBytes x = ((x % 128).toNat + 128).toUInt8 :: slebBytes (x / 128) := by
  rw [slebBytes, sleb_of_large h, List.map_cons]
  rfl

section Loops

variable {σ : Type} (emit : σ → UInt8 → σ)

/-- The loop ends by emitting the byte in hand once the rest of the value is zero. -/
theorem foldl_ulebBytes_of_lt (s : σ) {out : UInt8} (hout : out.toNat < 128) :
    (ulebBytes out.toNat).foldl emit s = emit s out := by
  rw [ulebBytes_of_lt hout, List.foldl_cons, List.foldl_nil, toUInt8_toNat]

/-- The unsigned loop, from any state in which `out` holds the low seven bits of what is left
and `value` the rest, emits the LEB128 bytes of what is left, provided the fuel covers the bits
of `value`. -/
theorem unsignedLoop_eq (fuel : Nat) (s : σ) (out : UInt8) (value : UInt32)
    (hout : out.toNat < 128) (hfuel : value.toNat < 2 ^ (7 * fuel)) :
    unsignedLoop emit fuel s out value = (ulebBytes (out.toNat + 128 * value.toNat)).foldl emit s := by
  induction fuel generalizing s out value with
  | zero =>
    have hv : value.toNat = 0 := by simpa using hfuel
    rw [unsignedLoop, hv, Nat.mul_zero, Nat.add_zero, foldl_ulebBytes_of_lt emit s hout]
  | succ fuel ih =>
    rw [unsignedLoop]
    by_cases hz : value = 0
    · subst hz
      rw [if_neg (by decide), UInt32.toNat_zero, Nat.mul_zero, Nat.add_zero,
        foldl_ulebBytes_of_lt emit s hout]
    · have hv : 0 < value.toNat := Nat.pos_of_ne_zero (fun h => hz (UInt32.toNat_inj.mp h))
      have hpow : 2 ^ (7 * (fuel + 1)) = 2 ^ (7 * fuel) * 128 := by rw [Nat.mul_succ, Nat.pow_add]
      have hbyte : out ||| 0x80 = ((out.toNat + 128 * value.toNat) % 128 + 128).toUInt8 := by
        apply UInt8.toNat_inj.mp
        rw [toNat_or_0x80 out hout, toNat_of_eq_toUInt8 rfl (by omega)]
        omega
      have hrest : (value &&& 0x7f).toUInt8.toNat + 128 * (value >>> 7).toNat =
          (out.toNat + 128 * value.toNat) / 128 := by
        rw [toNat_low7, toNat_shiftRight_seven]
        omega
      rw [if_pos (by simpa using hz),
        ih (emit s (out ||| 0x80)) (value &&& 0x7f).toUInt8 (value >>> 7)
          (by rw [toNat_low7]; omega) (by rw [toNat_shiftRight_seven]; omega),
        hrest, hbyte, ulebBytes_of_ge (v := out.toNat + 128 * value.toNat) (by omega),
        List.foldl_cons]

/-- The loops of both unsigned encoders, from their first state, emit the bytes of the value. -/
theorem unsignedLoop_start (s : σ) (v : UInt32) :
    unsignedLoop emit 4 s (v &&& 0x7f).toUInt8 (v >>> 7) = (ulebBytes v.toNat).foldl emit s := by
  have hv := v.toNat_lt
  rw [unsignedLoop_eq emit 4 s _ _ (by rw [toNat_low7]; omega)
      (by rw [toNat_shiftRight_seven]; omega),
    toNat_low7, toNat_shiftRight_seven, Nat.mod_add_div]

theorem foldl_slebBytes_of_lt (s : σ) {x : Int} {out : UInt8} (hx : signMag x < 64)
    (hout : out.toNat = (x % 128).toNat) : (slebBytes x).foldl emit s = emit s out := by
  obtain ⟨hlo, hhi⟩ := signMag_lt_iff (k := 6).mp hx
  rw [slebBytes_of_small (by omega) (by omega), List.foldl_cons, List.foldl_nil, ← hout,
    toUInt8_toNat]

/-- The signed loop, from any state in which `out` holds the low seven bits of `value` and
`extra` the bits of `value` that differ from its sign above the sixth, emits the signed LEB128
bytes of `value`, provided the fuel covers the bits of `extra`. -/
theorem signedLoop_eq (fuel : Nat) (s : σ) (out : UInt8) (value : Int32) (extra : UInt32)
    (hout : out.toNat = (value.toInt % 128).toNat) (hextra : extra.toNat = signMag value.toInt / 64)
    (hfuel : extra.toNat < 2 ^ (7 * fuel)) :
    signedLoop emit fuel s out value extra = (slebBytes value.toInt).foldl emit s := by
  induction fuel generalizing s out value extra with
  | zero =>
    rw [signedLoop, foldl_slebBytes_of_lt emit s (by simp at hfuel; omega) hout]
  | succ fuel ih =>
    rw [signedLoop]
    by_cases hz : extra = 0
    · subst hz
      rw [if_neg (by decide), foldl_slebBytes_of_lt emit s (by simp at hextra; omega) hout]
    · have he : 0 < extra.toNat := Nat.pos_of_ne_zero (fun h => hz (UInt32.toNat_inj.mp h))
      have hpow : 2 ^ (7 * (fuel + 1)) = 2 ^ (7 * fuel) * 128 := by rw [Nat.mul_succ, Nat.pow_add]
      have h7 : (value >>> 7).toInt = value.toInt / 128 :=
        int32_toInt_shiftRight value 7 (k := 7) (by decide)
      have hlarge : ¬(-64 ≤ value.toInt ∧ value.toInt < 64) := fun h => by
        have : signMag value.toInt < 64 := signMag_lt_iff (k := 6) |>.mpr h
        omega
      have hbyte : out ||| 0x80 = ((value.toInt % 128).toNat + 128).toUInt8 := by
        apply UInt8.toNat_inj.mp
        rw [toNat_or_0x80 out (by omega), toNat_of_eq_toUInt8 rfl (by omega), hout]
      rw [if_pos (by simpa using hz)]
      dsimp only
      rw [ih (emit s (out ||| 0x80)) ((value >>> 7) &&& 0x7f).toUInt32.toUInt8 (value >>> 7)
          (extra >>> 7) (int32_low7 _)
          (by rw [toNat_shiftRight_seven, h7, signMag_ediv_128]; omega)
          (by rw [toNat_shiftRight_seven]; omega),
        slebBytes_of_large hlarge, List.foldl_cons, hbyte, h7]

theorem toNat_extraBits (v : Int32) : (extraBits v).toNat = signMag v.toInt / 64 := by
  rw [extraBits, UInt32.toNat_shiftRight, toNat_xor_shiftRight]
  simp [Nat.shiftRight_eq_div_pow]

/-- The loops of both signed encoders, from their first state, emit the bytes of the value. -/
theorem signedLoop_start (s : σ) (v : Int32) :
    signedLoop emit 4 s (v &&& 0x7f).toUInt32.toUInt8 v (extraBits v) =
      (slebBytes v.toInt).foldl emit s := by
  have hm : signMag v.toInt < 2 ^ 31 := signMag_lt_iff.mpr ⟨v.le_toInt, v.toInt_lt⟩
  exact signedLoop_eq emit 4 s _ _ _ (int32_low7 v) (toNat_extraBits v)
    (by rw [toNat_extraBits]; omega)

end Loops

/-! ## The encoders -/

theorem pushBackUnsigned_eq (data : List UInt8) (v : UInt32) :
    pushBackUnsigned data v = data ++ ulebBytes v.toNat := by
  rw [pushBackUnsigned, unsignedLoop_start, foldl_push]

theorem encodeUnsignedLeb128_eq (mem : Bytes) (dest : Nat) (v : UInt32) :
    encodeUnsignedLeb128 mem dest v =
      (writeBytes mem dest (ulebBytes v.toNat), dest + (ulebBytes v.toNat).length) := by
  rw [encodeUnsignedLeb128, unsignedLoop_start, foldl_storeByte]

theorem pushBackSigned_eq (data : List UInt8) (v : Int32) :
    pushBackSigned data v = data ++ slebBytes v.toInt := by
  rw [pushBackSigned, signedLoop_start, foldl_push]

theorem encodeSignedLeb128_eq (mem : Bytes) (dest : Nat) (v : Int32) :
    encodeSignedLeb128 mem dest v =
      (writeBytes mem dest (slebBytes v.toInt), dest + (slebBytes v.toInt).length) := by
  rw [encodeSignedLeb128, signedLoop_start, foldl_storeByte]

theorem insertBackUnsigned_eq (data : List UInt8) (vs : List UInt32) :
    insertBackUnsigned data vs = data ++ vs.flatMap (fun v => ulebBytes v.toNat) := by
  induction vs generalizing data with
  | nil => simp [insertBackUnsigned]
  | cons v vs ih =>
    rw [insertBackUnsigned, List.foldl_cons, ← insertBackUnsigned, ih, pushBackUnsigned_eq,
      List.flatMap_cons, List.append_assoc]

theorem insertBackSigned_eq (data : List UInt8) (vs : List Int32) :
    insertBackSigned data vs = data ++ vs.flatMap (fun v => slebBytes v.toInt) := by
  induction vs generalizing data with
  | nil => simp [insertBackSigned]
  | cons v vs ih =>
    rw [insertBackSigned, List.foldl_cons, ← insertBackSigned, ih, pushBackSigned_eq,
      List.flatMap_cons, List.append_assoc]

/-! ## The sizes -/

theorem log2_or_one (n : Nat) : Nat.log2 (n ||| 1) = Nat.log2 n := by
  rcases Nat.eq_zero_or_pos n with rfl | hn
  · decide
  have h1 : n ||| 1 ≠ 0 := by have : n ≤ n ||| 1 := Nat.left_le_or; omega
  apply Nat.le_antisymm
  · rw [← Nat.lt_succ_iff, Nat.log2_lt h1]
    exact Nat.or_lt_two_pow Nat.lt_log2_self (Nat.one_lt_two_pow (by omega))
  · rw [Nat.le_log2 h1]
    exact Nat.le_trans (Nat.log2_self_le (by omega)) Nat.left_le_or

theorem log2_lt_of_lt {n k : Nat} (hk : 0 < k) (h : n < 2 ^ k) : Nat.log2 n < k := by
  rcases Nat.eq_zero_or_pos n with rfl | hn
  · rw [Nat.log2_zero]
    exact hk
  · exact (Nat.log2_lt hn.ne').mpr h

/-- `(x * 37) >> 8` of `UnsignedLeb128Size` is `ceil(bits / 7)` at every bit position of a
`uint32_t`. -/
theorem unsignedSize_formula :
    ∀ L < 32, (((6 + 32 - (31 - L).toUInt32) * 37) >>> 8 : UInt32).toNat = L / 7 + 1 := by
  decide

/-- The same for `SignedLeb128Size`, which counts one more bit. -/
theorem signedSize_formula :
    ∀ L < 32, (((1 + 6 + 32 - (31 - L).toUInt32) * 37) >>> 8 : UInt32).toNat = (L + 1) / 7 + 1 := by
  decide

theorem unsignedLeb128Size_eq (v : UInt32) :
    (unsignedLeb128Size v).toNat = (ulebBytes v.toNat).length := by
  rw [ulebBytes, List.length_map, length_uleb_eq]
  dsimp only [unsignedLeb128Size, clz]
  rw [UInt32.toNat_or, UInt32.toNat_one, log2_or_one]
  exact unsignedSize_formula _ (log2_lt_of_lt (by omega) v.toNat_lt)

theorem signedLeb128Size_eq (v : Int32) :
    (signedLeb128Size v).toNat = (slebBytes v.toInt).length := by
  have hm : signMag v.toInt < 2 ^ 31 := signMag_lt_iff.mpr ⟨v.le_toInt, v.toInt_lt⟩
  rw [slebBytes, List.length_map, length_sleb_eq]
  dsimp only [signedLeb128Size, clz]
  rw [Int32.toUInt32_or, UInt32.toNat_or, toNat_xor_shiftRight]
  have h1 : (1 : Int32).toUInt32.toNat = 1 := rfl
  rw [h1, log2_or_one]
  exact signedSize_formula _ (log2_lt_of_lt (by omega) (by omega))

theorem length_ulebBytes_bounds (v : UInt32) :
    1 ≤ (ulebBytes v.toNat).length ∧ (ulebBytes v.toNat).length ≤ 5 := by
  have hv := v.toNat_lt
  rw [ulebBytes, List.length_map]
  exact ⟨length_uleb_pos _, (length_uleb_le_iff (by omega)).mpr (by omega)⟩

theorem length_slebBytes_bounds (v : Int32) :
    1 ≤ (slebBytes v.toInt).length ∧ (slebBytes v.toInt).length ≤ 5 := by
  have hlo := v.le_toInt
  have hhi := v.toInt_lt
  rw [slebBytes, List.length_map]
  exact ⟨length_sleb_pos _, (length_sleb_le_iff (by omega)).mpr ⟨by omega, by omega⟩⟩

/-! ## The decoders

Each decoder is first restated with its masks and shifts as arithmetic on the bytes it reads
(`decodeUnsignedLeb128_eq`); the `i`-th byte of an encoding is then described by the position
of `i` in it (`toNat_byte_of_holdsAt_ulebBytes`), and the round trip takes one case for each
length of the encoding. -/

theorem and_0x7f (b : Nat) : b &&& 0x7f = b % 128 :=
  Nat.and_two_pow_sub_one_eq_mod b 7

theorem decodeUnsignedLeb128_eq (d : Bytes) (p : Nat) :
    decodeUnsignedLeb128 d p =
      let b (i : Nat) := (d (p + i)).toNat
      if b 0 ≤ 0x7f then (b 0, p + 1) else
      if b 1 ≤ 0x7f then (b 0 % 128 + b 1 % 128 * 2 ^ 7, p + 2) else
      if b 2 ≤ 0x7f then (b 0 % 128 + b 1 % 128 * 2 ^ 7 + b 2 % 128 * 2 ^ 14, p + 3) else
      if b 3 ≤ 0x7f then
        (b 0 % 128 + b 1 % 128 * 2 ^ 7 + b 2 % 128 * 2 ^ 14 + b 3 % 128 * 2 ^ 21, p + 4) else
      ((b 0 % 128 + b 1 % 128 * 2 ^ 7 + b 2 % 128 * 2 ^ 14 + b 3 % 128 * 2 ^ 21 + b 4 * 2 ^ 28) %
        2 ^ 32, p + 5) := by
  unfold decodeUnsignedLeb128
  simp only [and_0x7f, Nat.add_zero]
  split_ifs <;> simp (disch := omega) only [Word.or_shiftLeft_eq_add, Word.toUnsigned_natCast]

theorem toNat_byte_of_holdsAt_ulebBytes {d : Bytes} {p v : Nat} (hd : HoldsAt d p (ulebBytes v))
    (i : Nat) :
    (128 ^ (i + 1) ≤ v → (d (p + i)).toNat = v / 128 ^ i % 128 + 128) ∧
    (v < 128 ^ (i + 1) → (i = 0 ∨ 128 ^ i ≤ v) → (d (p + i)).toNat = v / 128 ^ i) := by
  induction i generalizing v p with
  | zero =>
    simp only [Nat.zero_add, Nat.pow_one, Nat.pow_zero, Nat.div_one, Nat.add_zero]
    by_cases hv : v < 128
    · rw [ulebBytes_of_lt hv, holdsAt_cons] at hd
      exact ⟨by omega, fun _ _ => toNat_of_eq_toUInt8 hd.1 (by omega)⟩
    · rw [ulebBytes_of_ge (by omega), holdsAt_cons] at hd
      exact ⟨fun _ => by rw [toNat_of_eq_toUInt8 hd.1 (by omega)], by omega⟩
  | succ i ih =>
    have hpow : 128 ^ (i + 1 + 1) = 128 ^ (i + 1) * 128 := by rw [Nat.pow_succ]
    have hq : 128 ≤ 128 ^ (i + 1) := Nat.le_self_pow (by omega) 128
    by_cases hv : v < 128
    · -- a one-byte encoding has no byte at `i + 1`
      exact ⟨by omega, fun _ h => by omega⟩
    rw [ulebBytes_of_ge (by omega), holdsAt_cons] at hd
    obtain ⟨hcont, hlast⟩ := ih hd.2
    have hdiv : v / 128 / 128 ^ i = v / 128 ^ (i + 1) := by
      rw [Nat.div_div_eq_div_mul, Nat.pow_succ']
    rw [Nat.add_assoc p 1 i, Nat.add_comm 1 i, hdiv] at hcont hlast
    have hle : 128 ^ i ≤ v / 128 ↔ 128 ^ (i + 1) ≤ v := by
      rw [Nat.le_div_iff_mul_le (by omega), Nat.pow_succ]
    have hlt : v / 128 < 128 ^ (i + 1) ↔ v < 128 ^ (i + 1 + 1) := by
      rw [Nat.div_lt_iff_lt_mul (by omega), hpow]
    have hle' : 128 ^ (i + 1) ≤ v / 128 ↔ 128 ^ (i + 1 + 1) ≤ v := by
      rw [Nat.le_div_iff_mul_le (by omega), hpow]
    exact ⟨fun h => hcont (hle'.mpr h), fun h h' => hlast (hlt.mpr h) (.inr (hle.mpr (by omega)))⟩

theorem length_ulebBytes_eq {v : Nat} (k : Nat) (hlo : k = 0 ∨ 128 ^ k ≤ v)
    (hhi : v < 128 ^ (k + 1)) : (ulebBytes v).length = k + 1 := by
  have hpow (n : Nat) : 2 ^ (7 * n) = 128 ^ n := by rw [Nat.pow_mul]
  rw [ulebBytes, List.length_map]
  apply Nat.le_antisymm
  · rw [length_uleb_le_iff (by omega), hpow]
    exact hhi
  · rcases Nat.eq_zero_or_pos k with rfl | hk
    · exact length_uleb_pos v
    · by_contra hlt
      have := (length_uleb_le_iff (v := v) hk).mp (by omega)
      rw [hpow] at this
      omega

theorem decodeUnsignedLeb128_of_holdsAt {d : Bytes} {p v : Nat} (hv : v < 2 ^ 32)
    (hd : HoldsAt d p (ulebBytes v)) : decodeUnsignedLeb128 d p = (v, p + (ulebBytes v).length) := by
  have cont (i : Nat) := (toNat_byte_of_holdsAt_ulebBytes hd i).1
  have last (i : Nat) := (toNat_byte_of_holdsAt_ulebBytes hd i).2
  rw [decodeUnsignedLeb128_eq]
  simp only [Nat.add_zero]
  rcases Nat.lt_or_ge v 128 with h1 | h1
  · have b0 : (d p).toNat = v := by simpa using last 0 h1 (.inl rfl)
    rw [length_ulebBytes_eq 0 (.inl rfl) h1, b0, if_pos (by omega)]
  have b0 : (d p).toNat = v % 128 + 128 := by simpa using cont 0 h1
  rcases Nat.lt_or_ge v (2 ^ 14) with h2 | h2
  · have b1 : (d (p + 1)).toNat = v / 128 := by simpa using last 1 h2 (.inr (by simpa using h1))
    rw [length_ulebBytes_eq 1 (.inr (by simpa using h1)) h2, b0, b1, if_neg (by omega),
      if_pos (by omega), Prod.mk.injEq]
    omega
  have b1 : (d (p + 1)).toNat = v / 128 % 128 + 128 := by simpa using cont 1 h2
  rcases Nat.lt_or_ge v (2 ^ 21) with h3 | h3
  · have b2 : (d (p + 2)).toNat = v / 16384 := by simpa using last 2 h3 (.inr (by simpa using h2))
    rw [length_ulebBytes_eq 2 (.inr h2) h3, b0, b1, b2, if_neg (by omega), if_neg (by omega),
      if_pos (by omega), Prod.mk.injEq]
    omega
  have b2 : (d (p + 2)).toNat = v / 16384 % 128 + 128 := by simpa using cont 2 h3
  rcases Nat.lt_or_ge v (2 ^ 28) with h4 | h4
  · have b3 : (d (p + 3)).toNat = v / 2097152 := by simpa using last 3 h4 (.inr (by simpa using h3))
    rw [length_ulebBytes_eq 3 (.inr h3) h4, b0, b1, b2, b3, if_neg (by omega), if_neg (by omega),
      if_neg (by omega), if_pos (by omega), Prod.mk.injEq]
    omega
  have b3 : (d (p + 3)).toNat = v / 2097152 % 128 + 128 := by simpa using cont 3 h4
  have h5 : v < 128 ^ 5 := by omega
  have b4 : (d (p + 4)).toNat = v / 268435456 := by simpa using last 4 h5 (.inr (by simpa using h4))
  rw [length_ulebBytes_eq 4 (.inr h4) h5, b0, b1, b2, b3, b4, if_neg (by omega), if_neg (by omega),
    if_neg (by omega), if_neg (by omega), Prod.mk.injEq]
  omega

theorem decodeSignedLeb128_eq (d : Bytes) (p : Nat) :
    decodeSignedLeb128 d p =
      let b (i : Nat) := (d (p + i)).toNat
      if b 0 ≤ 0x7f then (Word.toSigned 7 (b 0 : Nat), p + 1) else
      if b 1 ≤ 0x7f then (Word.toSigned 14 (b 0 % 128 + b 1 % 128 * 2 ^ 7 : Nat), p + 2) else
      if b 2 ≤ 0x7f then
        (Word.toSigned 21 (b 0 % 128 + b 1 % 128 * 2 ^ 7 + b 2 % 128 * 2 ^ 14 : Nat), p + 3) else
      if b 3 ≤ 0x7f then
        (Word.toSigned 28
          (b 0 % 128 + b 1 % 128 * 2 ^ 7 + b 2 % 128 * 2 ^ 14 + b 3 % 128 * 2 ^ 21 : Nat), p + 4) else
      (Word.toSigned 32
        (b 0 % 128 + b 1 % 128 * 2 ^ 7 + b 2 % 128 * 2 ^ 14 + b 3 % 128 * 2 ^ 21 + b 4 * 2 ^ 28 : Nat),
        p + 5) := by
  unfold decodeSignedLeb128
  simp only [and_0x7f, Nat.add_zero]
  split_ifs <;> simp (disch := omega) only [Word.or_shiftLeft_eq_add]

theorem toNat_byte_of_holdsAt_slebBytes {d : Bytes} {p : Nat} {x : Int}
    (hd : HoldsAt d p (slebBytes x)) (i : Nat) :
    (¬(-(64 * 128 ^ i) ≤ x ∧ x < 64 * 128 ^ i) →
      ((d (p + i)).toNat : Int) = x / 128 ^ i % 128 + 128) ∧
    (-(64 * 128 ^ i) ≤ x → x < 64 * 128 ^ i →
      (i = 0 ∨ ¬(-(64 * 128 ^ i) ≤ 128 * x ∧ 128 * x < 64 * 128 ^ i)) →
      ((d (p + i)).toNat : Int) = x / 128 ^ i % 128) := by
  induction i generalizing x p with
  | zero =>
    simp only [pow_zero, Int.mul_one, Int.ediv_one, Nat.add_zero]
    by_cases hx : -64 ≤ x ∧ x < 64
    · rw [slebBytes_of_small hx.1 hx.2, holdsAt_cons] at hd
      have := toNat_of_eq_toUInt8 hd.1 (by omega)
      exact ⟨fun h => absurd hx h, fun _ _ _ => by omega⟩
    · rw [slebBytes_of_large hx, holdsAt_cons] at hd
      have := toNat_of_eq_toUInt8 hd.1 (by omega)
      exact ⟨fun _ => by omega, fun h1 h2 => absurd ⟨h1, h2⟩ hx⟩
  | succ i ih =>
    have hq : (1 : Int) ≤ 128 ^ i := by exact_mod_cast Nat.one_le_pow i 128 (by omega)
    have hpow : (128 : Int) ^ (i + 1) = 128 ^ i * 128 := pow_succ 128 i
    by_cases hx : -64 ≤ x ∧ x < 64
    · -- a one-byte encoding has no byte at `i + 1`
      rw [hpow]
      generalize (128 : Int) ^ i = Q at hq ⊢
      exact ⟨fun h => absurd ⟨by omega, by omega⟩ h, fun _ _ h => by omega⟩
    rw [slebBytes_of_large hx, holdsAt_cons] at hd
    obtain ⟨hcont, hlast⟩ := ih hd.2
    have hdiv : x / 128 / 128 ^ i = x / 128 ^ (i + 1) := by
      rw [Int.ediv_ediv_of_nonneg (by norm_num), hpow, Int.mul_comm]
    rw [Nat.add_assoc p 1 i, Nat.add_comm 1 i, hdiv] at hcont hlast
    have hmul : i = 0 ∨ (128 : Int) ^ i % 128 = 0 := by
      rcases i with _ | i
      · exact .inl rfl
      · exact .inr (by rw [pow_succ, Int.mul_emod_left])
    rw [hpow] at hcont hlast ⊢
    generalize (128 : Int) ^ i = Q at hq hmul hcont hlast ⊢
    exact ⟨fun h => hcont (by omega), fun h1 h2 _ => hlast (by omega) (by omega) (by omega)⟩

theorem length_slebBytes_eq {x : Int} (k : Nat)
    (hlo : k = 0 ∨ ¬(-2 ^ (7 * k - 1) ≤ x ∧ x < 2 ^ (7 * k - 1)))
    (hhi : -2 ^ (7 * (k + 1) - 1) ≤ x ∧ x < 2 ^ (7 * (k + 1) - 1)) :
    (slebBytes x).length = k + 1 := by
  rw [slebBytes, List.length_map]
  apply Nat.le_antisymm
  · exact (length_sleb_le_iff (by omega)).mpr hhi
  · rcases Nat.eq_zero_or_pos k with rfl | hk
    · exact length_sleb_pos x
    · by_contra hlt
      exact hlo.resolve_left (by omega) ((length_sleb_le_iff hk).mp (by omega))

theorem decodeSignedLeb128_of_holdsAt {d : Bytes} {p : Nat} {x : Int}
    (hlo : -2 ^ 31 ≤ x) (hhi : x < 2 ^ 31) (hd : HoldsAt d p (slebBytes x)) :
    decodeSignedLeb128 d p = (x, p + (slebBytes x).length) := by
  have cont (i : Nat) := (toNat_byte_of_holdsAt_slebBytes hd i).1
  have last (i : Nat) := (toNat_byte_of_holdsAt_slebBytes hd i).2
  rw [decodeSignedLeb128_eq]
  simp only [Nat.add_zero]
  by_cases h1 : -64 ≤ x ∧ x < 64
  · have b0 : ((d p).toNat : Int) = x % 128 := by simpa using last 0 (by omega) (by omega) (.inl rfl)
    rw [length_slebBytes_eq 0 (.inl rfl) (by simpa using h1), if_pos (by omega), Prod.mk.injEq]
    refine ⟨Word.toSigned_eq_of_emod_eq ?_ (by push_cast; omega) (by push_cast; omega), rfl⟩
    rw [b0]
    push_cast
    omega
  have b0 : ((d p).toNat : Int) = x % 128 + 128 := by simpa using cont 0 (by simpa using h1)
  by_cases h2 : -8192 ≤ x ∧ x < 8192
  · have b1 : ((d (p + 1)).toNat : Int) = x / 128 % 128 := by
      simpa using last 1 (by omega) (by omega) (.inr (by omega))
    rw [length_slebBytes_eq 1 (.inr (by simpa using h1)) (by simpa using h2),
      if_neg (by omega), if_pos (by omega), Prod.mk.injEq]
    refine ⟨Word.toSigned_eq_of_emod_eq ?_ (by push_cast; omega) (by push_cast; omega), rfl⟩
    push_cast
    rw [b0, b1]
    omega
  have b1 : ((d (p + 1)).toNat : Int) = x / 128 % 128 + 128 := by
    simpa using cont 1 (by simpa using h2)
  by_cases h3 : -2 ^ 20 ≤ x ∧ x < 2 ^ 20
  · have b2 : ((d (p + 2)).toNat : Int) = x / 16384 % 128 := by
      simpa using last 2 (by omega) (by omega) (.inr (by omega))
    rw [length_slebBytes_eq 2 (.inr (by simpa using h2)) (by simpa using h3),
      if_neg (by omega), if_neg (by omega), if_pos (by omega), Prod.mk.injEq]
    refine ⟨Word.toSigned_eq_of_emod_eq ?_ (by push_cast; omega) (by push_cast; omega), rfl⟩
    push_cast
    rw [b0, b1, b2]
    omega
  have b2 : ((d (p + 2)).toNat : Int) = x / 16384 % 128 + 128 := by
    simpa using cont 2 (by simpa using h3)
  by_cases h4 : -2 ^ 27 ≤ x ∧ x < 2 ^ 27
  · have b3 : ((d (p + 3)).toNat : Int) = x / 2097152 % 128 := by
      simpa using last 3 (by omega) (by omega) (.inr (by omega))
    rw [length_slebBytes_eq 3 (.inr (by simpa using h3)) (by simpa using h4),
      if_neg (by omega), if_neg (by omega), if_neg (by omega), if_pos (by omega), Prod.mk.injEq]
    refine ⟨Word.toSigned_eq_of_emod_eq ?_ (by push_cast; omega) (by push_cast; omega), rfl⟩
    push_cast
    rw [b0, b1, b2, b3]
    omega
  have b3 : ((d (p + 3)).toNat : Int) = x / 2097152 % 128 + 128 := by
    simpa using cont 3 (by simpa using h4)
  have b4 : ((d (p + 4)).toNat : Int) = x / 268435456 % 128 := by
    simpa using last 4 (by omega) (by omega) (.inr (by omega))
  rw [length_slebBytes_eq 4 (.inr (by simpa using h4)) (by norm_num; omega),
    if_neg (by omega), if_neg (by omega), if_neg (by omega), if_neg (by omega), Prod.mk.injEq]
  refine ⟨Word.toSigned_eq_of_emod_eq ?_ (by push_cast; omega) (by push_cast; omega), rfl⟩
  push_cast
  rw [b0, b1, b2, b3, b4]
  omega

/-! ## Lists of values -/

/-- Decoding, one value after another, the bytes that `InsertBackUnsigned` appends for a list of
values gives the list back and stops just past the bytes. -/
theorem decodeMany_insertBackUnsigned (vs : List UInt32) (d : Bytes) (p : Nat)
    (hd : HoldsAt d p (insertBackUnsigned [] vs)) :
    decodeMany decodeUnsignedLeb128 vs.length d p =
      (vs.map UInt32.toNat, p + (insertBackUnsigned [] vs).length) := by
  rw [insertBackUnsigned_eq, List.nil_append] at hd ⊢
  induction vs generalizing p with
  | nil => rfl
  | cons v vs ih =>
    rw [List.flatMap_cons, holdsAt_append] at hd
    rw [List.length_cons, decodeMany, decodeUnsignedLeb128_of_holdsAt v.toNat_lt hd.1]
    dsimp only
    rw [ih _ hd.2, List.flatMap_cons, List.length_append, Nat.add_assoc, List.map_cons]

theorem decodeMany_insertBackSigned (vs : List Int32) (d : Bytes) (p : Nat)
    (hd : HoldsAt d p (insertBackSigned [] vs)) :
    decodeMany decodeSignedLeb128 vs.length d p =
      (vs.map Int32.toInt, p + (insertBackSigned [] vs).length) := by
  rw [insertBackSigned_eq, List.nil_append] at hd ⊢
  induction vs generalizing p with
  | nil => rfl
  | cons v vs ih =>
    rw [List.flatMap_cons, holdsAt_append] at hd
    rw [List.length_cons, decodeMany, decodeSignedLeb128_of_holdsAt v.le_toInt v.toInt_lt hd.1]
    dsimp only
    rw [ih _ hd.2, List.flatMap_cons, List.length_append, Nat.add_assoc, List.map_cons]

/-! ## Encoding and decoding are inverse -/

/-- For every `uint32_t` both unsigned encoders emit the same bytes, as many as
`UnsignedLeb128Size` says and between one and five, and the decoder reads the value back from
them whatever follows; the same for `int32_t` and the signed functions; and decoding, value
after value, the bytes of a list returns the list. -/
theorem leb128_encode_decode_inverse :
    (∀ (v : UInt32) (mem : Bytes) (dest : Nat) (data : List UInt8) (d : Bytes) (p : Nat),
      let bytes : List UInt8 := pushBackUnsigned [] v
      pushBackUnsigned data v = data ++ bytes ∧
      encodeUnsignedLeb128 mem dest v = (writeBytes mem dest bytes, dest + bytes.length) ∧
      bytes.length = (unsignedLeb128Size v).toNat ∧ 1 ≤ bytes.length ∧ bytes.length ≤ 5 ∧
      decodeUnsignedLeb128 (writeBytes d p bytes) p = (v.toNat, p + bytes.length)) ∧
    (∀ (v : Int32) (mem : Bytes) (dest : Nat) (data : List UInt8) (d : Bytes) (p : Nat),
      let bytes : List UInt8 := pushBackSigned [] v
      pushBackSigned data v = data ++ bytes ∧
      encodeSignedLeb128 mem dest v = (writeBytes mem dest bytes, dest + bytes.length) ∧
      bytes.length = (signedLeb128Size v).toNat ∧ 1 ≤ bytes.length ∧ bytes.length ≤ 5 ∧
      decodeSignedLeb128 (writeBytes d p bytes) p = (v.toInt, p + bytes.length)) ∧
    (∀ (vs : List UInt32) (d : Bytes) (p : Nat),
      let bytes : List UInt8 := insertBackUnsigned [] vs
      decodeMany decodeUnsignedLeb128 vs.length (writeBytes d p bytes) p =
        (vs.map UInt32.toNat, p + bytes.length)) ∧
    (∀ (vs : List Int32) (d : Bytes) (p : Nat),
      let bytes : List UInt8 := insertBackSigned [] vs
      decodeMany decodeSignedLeb128 vs.length (writeBytes d p bytes) p =
        (vs.map Int32.toInt, p + bytes.length)) := by
  refine ⟨fun v mem dest data d p => ?_, fun v mem dest data d p => ?_,
    fun vs d p => decodeMany_insertBackUnsigned vs _ p (holdsAt_writeBytes d p _),
    fun vs d p => decodeMany_insertBackSigned vs _ p (holdsAt_writeBytes d p _)⟩
  · have hbytes : pushBackUnsigned [] v = ulebBytes v.toNat := by
      rw [pushBackUnsigned_eq, List.nil_append]
    dsimp only
    rw [hbytes, pushBackUnsigned_eq, encodeUnsignedLeb128_eq, unsignedLeb128Size_eq,
      decodeUnsignedLeb128_of_holdsAt v.toNat_lt (holdsAt_writeBytes d p _)]
    obtain ⟨hpos, hle⟩ := length_ulebBytes_bounds v
    exact ⟨rfl, rfl, rfl, hpos, hle, rfl⟩
  · have hbytes : pushBackSigned [] v = slebBytes v.toInt := by
      rw [pushBackSigned_eq, List.nil_append]
    dsimp only
    rw [hbytes, pushBackSigned_eq, encodeSignedLeb128_eq, signedLeb128Size_eq,
      decodeSignedLeb128_of_holdsAt v.le_toInt v.toInt_lt (holdsAt_writeBytes d p _)]
    obtain ⟨hpos, hle⟩ := length_slebBytes_bounds v
    exact ⟨rfl, rfl, rfl, hpos, hle, rfl⟩

end Art.Leb128
