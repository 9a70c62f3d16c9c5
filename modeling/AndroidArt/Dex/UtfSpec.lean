import AndroidArt.Dex.Utf
import AndroidArt.Lib.BitLength
import AndroidArt.Lib.ModifiedUtf8
import AndroidArt.Lib.StateExcept

/-!
# The Modified UTF-8 conversions against the format

The conversions of `runtime/utf.cc` (`Art.Utf`) and `CheckIntraStringDataItem` against the
format of `ModifiedUtf8`:

* `convertUtf16ToModifiedUtf8_eq` — the encoder writes the `encodeUnit` bytes of each unit, as
  many as `CountUtf8Bytes` counts;
* `countModifiedUtf8Chars_flatMap`, `convertModifiedUtf8ToUtf16_flatMap` — on the encoding of a
  list of units followed by a NUL, the counter counts the units and the decoder returns them;
* `checkIntraStringDataItem_chars` — a string data item that the verifier accepts is a sequence
  of as many units as it declares, followed by a NUL;
* `modifiedUtf8_round_trip` — the round trips of both directions.
-/

set_option autoImplicit false

namespace Art

namespace Utf

open DexFile ModifiedUtf8

/-! ## Bytes as arithmetic -/

theorem and_0x3f (b : Nat) : b &&& 0x3f = b % 64 := Nat.and_two_pow_sub_one_eq_mod b 6

theorem and_0x1f (b : Nat) : b &&& 0x1f = b % 32 := Nat.and_two_pow_sub_one_eq_mod b 5

theorem and_0x0f (b : Nat) : b &&& 0x0f = b % 16 := Nat.and_two_pow_sub_one_eq_mod b 4

-- The masks of the tag bits are runs of ones, read as a field by `BitLength.and_mask`.
theorem and_0x80_eq_zero_iff {b : Nat} (hb : b < 256) : b &&& 0x80 = 0 ↔ b < 0x80 := by
  have hmask : b &&& 0x80 = b / 128 % 2 * 128 := BitLength.and_mask b 7 1
  rw [hmask]
  omega

theorem and_0x20_eq_zero_iff (b : Nat) : b &&& 0x20 = 0 ↔ b % 64 < 32 := by
  have hmask : b &&& 0x20 = b / 32 % 2 * 32 := BitLength.and_mask b 5 1
  rw [hmask]
  omega

theorem and_0xc0 {b : Nat} (hb : b < 256) : b &&& 0xc0 = b / 64 * 64 := by
  have hmask : b &&& 0xc0 = b / 64 % 4 * 64 := BitLength.and_mask b 6 2
  rw [hmask]
  omega

/-- Two fields of a unit, the low one of six bits. -/
theorem shiftLeft_six_or {a d : Nat} (hd : d < 64) : a <<< 6 ||| d = a * 64 + d := by
  rw [Nat.or_comm, Word.or_shiftLeft_eq_add (k := 6) hd]
  omega

/-- Three fields of a unit, the two low ones of six bits each. -/
theorem shiftLeft_twelve_or {a b d : Nat} (hb : b < 64) (hd : d < 64) :
    a <<< 12 ||| b <<< 6 ||| d = a * 4096 + b * 64 + d := by
  have hmid : b <<< 6 < 2 ^ 12 := by rw [Nat.shiftLeft_eq]; omega
  have hhigh : a <<< 12 % 2 ^ 12 = 0 := by rw [Nat.shiftLeft_eq, Nat.mul_mod_left]
  rw [Nat.or_comm (a <<< 12), Word.or_eq_add_of_lt hmid hhigh, Nat.or_comm,
    Word.or_eq_add_of_lt (k := 6) hd (by simp only [Nat.shiftLeft_eq]; omega)]
  simp only [Nat.shiftLeft_eq]
  omega

/-! ## The encoder -/

/-- One round of `ConvertUtf16ToModifiedUtf8` writes the bytes of its unit. -/
theorem convertUnit_eq (ch : UInt16) : convertUnit ch = encodeUnit ch.toNat := by
  have hc := ch.toNat_lt
  unfold convertUnit
  dsimp only
  split_ifs with h1 h2
  · rw [encodeUnit_of_lt_0x80 h1.1 (by omega)]
  · rw [encodeUnit_of_ge_0x800 (by omega)]
    simp only [Nat.shiftRight_eq_div_pow, and_0x3f]
    rw [Word.or_eq_add_of_lt (k := 5) (by omega) (by decide),
      Word.or_eq_add_of_lt (k := 6) (by omega) (by decide),
      Word.or_eq_add_of_lt (k := 6) (by omega) (by decide)]
    simp only [List.cons.injEq, and_true]
    omega
  · rw [encodeUnit_of_lt_0x800 (by omega) (by omega)]
    simp only [Nat.shiftRight_eq_div_pow, and_0x3f]
    rw [Word.or_eq_add_of_lt (k := 6) (by omega) (by decide),
      Word.or_eq_add_of_lt (k := 6) (by omega) (by decide)]
    simp only [List.cons.injEq, and_true]
    omega

theorem foldl_append_convertUnit (acc : List Nat) (u : List UInt16) :
    u.foldl (fun utf8Out ch => utf8Out ++ convertUnit ch) acc =
      acc ++ u.flatMap (fun ch => encodeUnit ch.toNat) := by
  induction u generalizing acc with
  | nil => simp
  | cons ch u ih => rw [List.foldl_cons, ih, convertUnit_eq, List.flatMap_cons, List.append_assoc]

theorem convertUtf16ToModifiedUtf8_eq (u : List UInt16) :
    convertUtf16ToModifiedUtf8 u = u.flatMap (fun ch => encodeUnit ch.toNat) := by
  rw [convertUtf16ToModifiedUtf8, foldl_append_convertUnit, List.nil_append]

/-- `CountUtf8Bytes` counts the bytes that `ConvertUtf16ToModifiedUtf8` writes. -/
theorem countUtf8Bytes_eq (u : List UInt16) :
    countUtf8Bytes u = (convertUtf16ToModifiedUtf8 u).length := by
  rw [convertUtf16ToModifiedUtf8_eq, countUtf8Bytes]
  suffices h : ∀ acc, u.foldl (fun result ch =>
      if ch.toNat > 0 ∧ ch.toNat ≤ 0x7f then result + 1
      else if ch.toNat > 0x7ff then result + 3
      else result + 2) acc = acc + (u.flatMap fun ch => encodeUnit ch.toNat).length by
    rw [h, Nat.zero_add]
  induction u with
  | nil => simp
  | cons ch u ih =>
    intro acc
    have hc := ch.toNat_lt
    rw [List.foldl_cons, ih, List.flatMap_cons, List.length_append]
    unfold encodeUnit
    split_ifs <;> simp <;> omega

/-! ## The decoders on Modified UTF-8 -/

variable {c : Nat}

theorem deref_cons (a : Nat) (l : List Nat) : deref (a :: l) = a := rfl

/-- `GetUtf16FromUtf8` reads back a unit from its bytes, and stops right after them. -/
theorem getUtf16FromUtf8_encodeUnit (hc : c < 2 ^ 16) (rest : List Nat) :
    getUtf16FromUtf8 (encodeUnit c ++ rest) = (c, rest) := by
  unfold getUtf16FromUtf8
  by_cases h1 : 0 < c ∧ c < 0x80
  · rw [encodeUnit_of_lt_0x80 h1.1 h1.2]
    dsimp only [deref, List.cons_append, List.tail_cons, List.nil_append]
    rw [if_pos ((and_0x80_eq_zero_iff (by omega)).mpr h1.2)]
  rcases Nat.lt_or_ge c 0x800 with h2 | h2
  · -- two bytes, the unit 0 among them
    rw [encodeUnit_of_lt_0x800 (by omega) h2]
    have hlead : (0xc0 + c / 64) &&& 0x80 ≠ 0 := by
      rw [Ne, and_0x80_eq_zero_iff (by omega)]; omega
    have htwo : (0xc0 + c / 64) &&& 0x20 = 0 := (and_0x20_eq_zero_iff _).mpr (by omega)
    dsimp only [deref, List.cons_append, List.tail_cons, List.nil_append]
    rw [if_neg hlead, if_pos htwo, and_0x1f, and_0x3f, shiftLeft_six_or (by omega), Prod.mk.injEq]
    exact ⟨by omega, rfl⟩
  · rw [encodeUnit_of_ge_0x800 h2]
    have hlead : (0xe0 + c / 4096) &&& 0x80 ≠ 0 := by
      rw [Ne, and_0x80_eq_zero_iff (by omega)]; omega
    have hthree : (0xe0 + c / 4096) &&& 0x20 ≠ 0 := by
      rw [Ne, and_0x20_eq_zero_iff]; omega
    dsimp only [deref, List.cons_append, List.tail_cons, List.nil_append]
    rw [if_neg hlead, if_neg hthree, and_0x0f, and_0x3f, and_0x3f,
      shiftLeft_twelve_or (by omega) (by omega), Prod.mk.injEq]
    exact ⟨by omega, rfl⟩

theorem deref_encodeUnit_ne_zero (c : Nat) (rest : List Nat) : deref (encodeUnit c ++ rest) ≠ 0 := by
  unfold encodeUnit
  split_ifs with h
  · rw [List.singleton_append, deref]
    omega
  all_goals
    rw [List.cons_append, deref]
    omega

/-- One round of `CountModifiedUtf8Chars` counts a unit and skips its bytes. -/
theorem countModifiedUtf8CharsLoop_encodeUnit (hc : c < 2 ^ 16) (fuel len : Nat) (rest : List Nat) :
    countModifiedUtf8CharsLoop (fuel + 1) len (encodeUnit c ++ rest) =
      countModifiedUtf8CharsLoop fuel (len + 1) rest := by
  by_cases h1 : 0 < c ∧ c < 0x80
  · rw [encodeUnit_of_lt_0x80 h1.1 h1.2, countModifiedUtf8CharsLoop, List.singleton_append,
      deref_cons, List.tail_cons, if_neg (by omega),
      if_pos ((and_0x80_eq_zero_iff (by omega)).mpr h1.2)]
  rcases Nat.lt_or_ge c 0x800 with h2 | h2
  · rw [encodeUnit_of_lt_0x800 (by omega) h2, countModifiedUtf8CharsLoop, List.cons_append,
      deref_cons, List.tail_cons, if_neg (by omega),
      if_neg (by rw [and_0x80_eq_zero_iff (by omega)]; omega),
      if_pos ((and_0x20_eq_zero_iff _).mpr (by omega))]
    rfl
  · rw [encodeUnit_of_ge_0x800 h2, countModifiedUtf8CharsLoop, List.cons_append,
      deref_cons, List.tail_cons, if_neg (by omega),
      if_neg (by rw [and_0x80_eq_zero_iff (by omega)]; omega),
      if_neg (by rw [and_0x20_eq_zero_iff]; omega)]
    rfl

/-- On the encoding of a list of units followed by a NUL, `CountModifiedUtf8Chars` counts the
units, given a round for each unit and one for the NUL. -/
theorem countModifiedUtf8CharsLoop_flatMap {u : List Nat} (hu : ∀ c ∈ u, c < 2 ^ 16) (fuel len : Nat)
    (hfuel : u.length < fuel) (rest : List Nat) :
    countModifiedUtf8CharsLoop fuel len (u.flatMap encodeUnit ++ 0 :: rest) = len + u.length := by
  induction u generalizing fuel len with
  | nil =>
    obtain ⟨fuel, rfl⟩ : ∃ f, fuel = f + 1 := ⟨fuel - 1, by simp at hfuel; omega⟩
    simp [countModifiedUtf8CharsLoop, deref]
  | cons c u ih =>
    obtain ⟨fuel, rfl⟩ : ∃ f, fuel = f + 1 := ⟨fuel - 1, by simp at hfuel; omega⟩
    rw [List.flatMap_cons, List.append_assoc,
      countModifiedUtf8CharsLoop_encodeUnit (hu c (by simp)),
      ih (fun c' h => hu c' (by simp [h])) fuel (len + 1) (by simp at hfuel; omega),
      List.length_cons]
    omega

theorem length_le_length_flatMap_encodeUnit (u : List Nat) : u.length ≤ (u.flatMap encodeUnit).length := by
  induction u with
  | nil => simp
  | cons c u ih =>
    have : 1 ≤ (encodeUnit c).length := by unfold encodeUnit; split_ifs <;> simp
    rw [List.flatMap_cons, List.length_append, List.length_cons]
    omega

theorem countModifiedUtf8Chars_flatMap {u : List Nat} (hu : ∀ c ∈ u, c < 2 ^ 16) (rest : List Nat) :
    countModifiedUtf8Chars (u.flatMap encodeUnit ++ 0 :: rest) = u.length := by
  have hle := length_le_length_flatMap_encodeUnit u
  rw [countModifiedUtf8Chars, countModifiedUtf8CharsLoop_flatMap hu _ 0
    (by rw [List.length_append, List.length_cons]; omega), Nat.zero_add]

/-- On the same, `ConvertModifiedUtf8ToUtf16` writes the units back. -/
theorem convertModifiedUtf8ToUtf16Loop_flatMap {u : List Nat} (hu : ∀ c ∈ u, c < 2 ^ 16) (fuel : Nat)
    (hfuel : u.length < fuel) (rest : List Nat) :
    convertModifiedUtf8ToUtf16Loop fuel (u.flatMap encodeUnit ++ 0 :: rest) = u.map Nat.toUInt16 := by
  induction u generalizing fuel with
  | nil =>
    obtain ⟨fuel, rfl⟩ : ∃ f, fuel = f + 1 := ⟨fuel - 1, by simp at hfuel; omega⟩
    simp [convertModifiedUtf8ToUtf16Loop, deref]
  | cons c u ih =>
    obtain ⟨fuel, rfl⟩ : ∃ f, fuel = f + 1 := ⟨fuel - 1, by simp at hfuel; omega⟩
    have hc := hu c (by simp)
    rw [List.flatMap_cons, List.append_assoc, convertModifiedUtf8ToUtf16Loop,
      if_neg (deref_encodeUnit_ne_zero c _), getUtf16FromUtf8_encodeUnit hc]
    dsimp only
    rw [ih (fun c' h => hu c' (by simp [h])) fuel (by simp at hfuel; omega), List.map_cons]

theorem convertModifiedUtf8ToUtf16_flatMap {u : List Nat} (hu : ∀ c ∈ u, c < 2 ^ 16) (rest : List Nat) :
    convertModifiedUtf8ToUtf16 (u.flatMap encodeUnit ++ 0 :: rest) = u.map Nat.toUInt16 := by
  have hle := length_le_length_flatMap_encodeUnit u
  rw [convertModifiedUtf8ToUtf16, convertModifiedUtf8ToUtf16Loop_flatMap hu _
    (by rw [List.length_append, List.length_cons]; omega)]

theorem convertUtf16ToModifiedUtf8_map {u : List Nat} (hu : ∀ c ∈ u, c < 2 ^ 16) :
    convertUtf16ToModifiedUtf8 (u.map Nat.toUInt16) = u.flatMap encodeUnit := by
  have hmap : (u.map Nat.toUInt16).map UInt16.toNat = u := by
    rw [List.map_map, List.map_congr_left (f := UInt16.toNat ∘ Nat.toUInt16) (g := id)
      fun c hc => UInt16.toNat_ofNat_of_lt' (hu c hc), List.map_id]
  rw [convertUtf16ToModifiedUtf8_eq, ← List.flatMap_map UInt16.toNat encodeUnit, hmap]

/-- On `n` units of Modified UTF-8 and a NUL, `CountModifiedUtf8Chars` counts `n`, and decoding
then encoding again gives the bytes back. -/
theorem chars_round_trip {n : Nat} {bs : List Nat} (h : Chars n bs) (rest : List Nat) :
    countModifiedUtf8Chars (bs ++ 0 :: rest) = n ∧
      convertUtf16ToModifiedUtf8 (convertModifiedUtf8ToUtf16 (bs ++ 0 :: rest)) = bs := by
  obtain ⟨u, rfl, hu, rfl⟩ := h.exists_units
  refine ⟨countModifiedUtf8Chars_flatMap hu rest, ?_⟩
  rw [convertModifiedUtf8ToUtf16_flatMap hu, convertUtf16ToModifiedUtf8_map hu]

end Utf

/-! ## The string data check -/

/-- The `n` bytes at `p`. -/
def bytesAt (d : Bytes) (p : Nat) : Nat → List Nat
  | 0 => []
  | n + 1 => (d p).toNat :: bytesAt d (p + 1) n

theorem bytesAt_add (d : Bytes) (p m n : Nat) :
    bytesAt d p (m + n) = bytesAt d p m ++ bytesAt d (p + m) n := by
  induction m generalizing p with
  | zero => rw [Nat.zero_add, Nat.add_zero, bytesAt, List.nil_append]
  | succ m ih =>
    rw [Nat.add_right_comm, bytesAt, ih, bytesAt, List.cons_append, Nat.add_assoc, Nat.add_comm 1 m]

theorem bytesAt_lt (d : Bytes) (p n : Nat) : ∀ b ∈ bytesAt d p n, b < 256 := by
  induction n generalizing p with
  | zero => simp [bytesAt]
  | succ n ih =>
    intro b hb
    rcases List.mem_cons.mp hb with rfl | hb
    · exact (d p).toNat_lt
    · exact ih (p + 1) b hb

namespace DexFileVerifier

open ModifiedUtf8 Utf

section Run

variable {v : DexFileVerifier} {s s' : VerifierState}

theorem run_get_bind {β : Type} (f : VerifierState → VerifyM β) :
    ((get >>= f).run s).run = ((f s).run s).run := rfl

theorem run_readByte_bind {β : Type} (f : Nat → VerifyM β) :
    ((v.readByte >>= f).run s).run =
      ((f (v.bytes s.ptr).toNat).run
        { s with readEnd := max s.readEnd (s.ptr + 1), ptr := s.ptr + 1 }).run := rfl

theorem run_fail_bind {α β : Type} (msg : String) (f : α → VerifyM β) :
    ((fail msg >>= f).run s).run = (.error (.failure msg), s) := rfl

/-- A check `if c then fail msg` passes only when `c` does not hold, and then changes nothing. -/
theorem run_ite_fail {c : Prop} [Decidable c] {msg : String}
    (h : (((if c then fail msg else pure ()) : VerifyM Unit).run s).run = (.ok (), s')) :
    ¬c ∧ s' = s := by
  split at h
  · cases h
  · exact ⟨‹_›, (Prod.mk.inj h).2.symm⟩

theorem run_pure_eq (h : ((pure () : VerifyM Unit).run s).run = (.ok (), s')) : s' = s :=
  (Prod.mk.inj h).2.symm

/-- `DecodeUnsignedLeb128(&ptr_)` leaves `ptr_` just past the value it reads. -/
theorem run_decodeUnsignedLeb128_bind {β : Type} {f : Nat → VerifyM β} {b : β}
    (h : ((v.decodeUnsignedLeb128 >>= f).run s).run = (.ok b, s')) :
    ∃ s₁ : VerifierState, s₁.ptr = (Leb128.decodeUnsignedLeb128 v.bytes s.ptr).2 ∧
      ((f (Leb128.decodeUnsignedLeb128 v.bytes s.ptr).1).run s₁).run = (.ok b, s') := by
  obtain ⟨a, s₁, hd, h⟩ := StateExcept.bind_run_eq_ok.mp h
  unfold decodeUnsignedLeb128 noteRead at hd
  rw [run_get_bind] at hd
  dsimp only at hd
  split at hd
  all_goals
    obtain ⟨ha, rfl⟩ := Prod.mk.inj hd
    obtain rfl := Except.ok.inj ha
    exact ⟨_, rfl, h⟩

end Run

/-- The byte checks of a unit of one byte. -/
theorem char_of_one {byte : Nat} (hb : byte < 256) (hhigh : byte >>> 4 ≤ 7) (h0 : byte ≠ 0) :
    Char [byte] := by
  rw [Nat.shiftRight_eq_div_pow] at hhigh
  exact .one (by omega) (by omega)

/-- The byte checks of a unit of two bytes. -/
theorem char_of_two {byte byte2 : Nat} (hb : byte < 256) (hb2 : byte2 < 256)
    (hhigh : byte >>> 4 = 0x0c ∨ byte >>> 4 = 0x0d) (hcont : ¬(byte2 &&& 0xc0 ≠ 0x80))
    (hvalue : ¬(((byte &&& 0x1f) <<< 6 ||| (byte2 &&& 0x3f)) ≠ 0 ∧
      ((byte &&& 0x1f) <<< 6 ||| (byte2 &&& 0x3f)) < 0x80)) :
    Char [byte, byte2] := by
  rw [Nat.shiftRight_eq_div_pow] at hhigh
  rw [and_0xc0 hb2] at hcont
  rw [and_0x1f, and_0x3f, shiftLeft_six_or (by omega)] at hvalue
  by_cases hnul : byte % 32 * 64 + byte2 % 64 = 0
  · -- the unit 0: `0xc0 0x80`
    rw [show byte = 0xc0 by omega, show byte2 = 0x80 by omega]
    exact .nul
  · exact .two (by omega) (by omega) ⟨by omega, by omega⟩

/-- The byte checks of a unit of three bytes. -/
theorem char_of_three {byte byte2 byte3 : Nat} (hb : byte < 256) (hb2 : byte2 < 256)
    (hb3 : byte3 < 256) (hhigh : byte >>> 4 = 0x0e) (hcont2 : ¬(byte2 &&& 0xc0 ≠ 0x80))
    (hcont3 : ¬(byte3 &&& 0xc0 ≠ 0x80))
    (hvalue : ¬(((byte &&& 0x0f) <<< 12 ||| (byte2 &&& 0x3f) <<< 6 ||| (byte3 &&& 0x3f)) < 0x800)) :
    Char [byte, byte2, byte3] := by
  rw [Nat.shiftRight_eq_div_pow] at hhigh
  rw [and_0xc0 hb2] at hcont2
  rw [and_0xc0 hb3] at hcont3
  rw [and_0x0f, and_0x3f, and_0x3f, shiftLeft_twelve_or (by omega) (by omega)] at hvalue
  by_cases he0 : byte = 0xe0
  · subst he0
    exact .e0 (by omega) (by omega) ⟨by omega, by omega⟩
  · exact .three (by omega) (by omega) ⟨by omega, by omega⟩ ⟨by omega, by omega⟩

/-- A unit that the check accepts starts inside the file and is one of the shapes. -/
theorem checkStringDataUnit_ok {size : Nat} {v : DexFileVerifier} {s s' : VerifierState}
    (h : ((v.checkStringDataUnit size).run s).run = (.ok (), s')) :
    ∃ k, s'.ptr = s.ptr + k ∧ s.ptr < v.size ∧ Char (bytesAt v.bytes s.ptr k) := by
  unfold checkStringDataUnit at h
  dsimp only at h
  rw [run_get_bind] at h
  split at h
  · rw [run_fail_bind] at h
    cases h
  rename_i hin
  rw [run_readByte_bind] at h
  have hbyte := (v.bytes s.ptr).toNat_lt
  have hdiv : (v.bytes s.ptr).toNat >>> 4 = (v.bytes s.ptr).toNat / 16 :=
    Nat.shiftRight_eq_div_pow _ 4
  split at h
  · obtain ⟨h0, rfl⟩ := run_ite_fail h
    exact ⟨1, rfl, by omega, char_of_one hbyte (by omega) h0⟩
  · exact ⟨1, by rw [run_pure_eq h], by omega, char_of_one hbyte (by omega) (by omega)⟩
  · exact ⟨1, by rw [run_pure_eq h], by omega, char_of_one hbyte (by omega) (by omega)⟩
  · exact ⟨1, by rw [run_pure_eq h], by omega, char_of_one hbyte (by omega) (by omega)⟩
  · exact ⟨1, by rw [run_pure_eq h], by omega, char_of_one hbyte (by omega) (by omega)⟩
  · exact ⟨1, by rw [run_pure_eq h], by omega, char_of_one hbyte (by omega) (by omega)⟩
  · exact ⟨1, by rw [run_pure_eq h], by omega, char_of_one hbyte (by omega) (by omega)⟩
  · exact ⟨1, by rw [run_pure_eq h], by omega, char_of_one hbyte (by omega) (by omega)⟩
  · cases h
  · cases h
  · cases h
  · cases h
  · cases h
  · rw [run_readByte_bind] at h
    split at h
    · rw [run_fail_bind] at h
      cases h
    obtain ⟨hvalue, rfl⟩ := run_ite_fail h
    exact ⟨2, rfl, by omega, char_of_two hbyte (v.bytes _).toNat_lt (.inl ‹_›) ‹_› hvalue⟩
  · rw [run_readByte_bind] at h
    split at h
    · rw [run_fail_bind] at h
      cases h
    obtain ⟨hvalue, rfl⟩ := run_ite_fail h
    exact ⟨2, rfl, by omega, char_of_two hbyte (v.bytes _).toNat_lt (.inr ‹_›) ‹_› hvalue⟩
  · rw [run_readByte_bind] at h
    split at h
    · rw [run_fail_bind] at h
      cases h
    rw [run_readByte_bind] at h
    split at h
    · rw [run_fail_bind] at h
      cases h
    obtain ⟨hvalue, rfl⟩ := run_ite_fail h
    exact ⟨3, rfl, by omega,
      char_of_three hbyte (v.bytes _).toNat_lt (v.bytes _).toNat_lt ‹_› ‹_› ‹_› hvalue⟩
  · -- the default of the switch: every nibble below 16 has a case of its own
    exfalso
    grind

/-- The loop over `count` units accepts only `count` shapes one after another. -/
theorem checkStringDataUnits_ok {size count : Nat} {v : DexFileVerifier} {s s' : VerifierState}
    (h : ((v.checkStringDataUnits size count).run s).run = (.ok (), s')) :
    s.ptr ≤ s'.ptr ∧ Chars count (bytesAt v.bytes s.ptr (s'.ptr - s.ptr)) := by
  induction count generalizing s with
  | zero =>
    rw [run_pure_eq h, Nat.sub_self]
    exact ⟨le_refl _, .nil⟩
  | succ count ih =>
    obtain ⟨_, s₁, hunit, h⟩ := StateExcept.bind_run_eq_ok.mp h
    obtain ⟨k, hk, -, hchar⟩ := checkStringDataUnit_ok hunit
    obtain ⟨hle, hchars⟩ := ih h
    have hsplit : s'.ptr - s.ptr = k + (s'.ptr - s₁.ptr) := by omega
    refine ⟨by omega, ?_⟩
    rw [hsplit, bytesAt_add, ← hk]
    exact .cons hchar hchars

/-- An accepted `string_data_item`: its `utf16_size` units of Modified UTF-8, then a NUL. -/
theorem checkIntraStringDataItem_ok {v : DexFileVerifier} {s s' : VerifierState}
    (h : (v.checkIntraStringDataItem.run s).run = (.ok (), s')) :
    (Leb128.decodeUnsignedLeb128 v.bytes s.ptr).2 < s'.ptr ∧ (v.bytes (s'.ptr - 1)).toNat = 0 ∧
      Chars (Leb128.decodeUnsignedLeb128 v.bytes s.ptr).1
        (bytesAt v.bytes (Leb128.decodeUnsignedLeb128 v.bytes s.ptr).2
          (s'.ptr - 1 - (Leb128.decodeUnsignedLeb128 v.bytes s.ptr).2)) := by
  unfold checkIntraStringDataItem at h
  obtain ⟨s₁, hs₁, h⟩ := run_decodeUnsignedLeb128_bind h
  obtain ⟨_, s₂, hunits, h⟩ := StateExcept.bind_run_eq_ok.mp h
  obtain ⟨hle, hchars⟩ := checkStringDataUnits_ok hunits
  rw [run_readByte_bind] at h
  obtain ⟨hnul, rfl⟩ := run_ite_fail h
  rw [← hs₁]
  exact ⟨by dsimp only; omega, not_not.mp hnul, hchars⟩

end DexFileVerifier

namespace Utf

open DexFileVerifier ModifiedUtf8

/-- Modified UTF-8 round trips.  Any UTF-16 units encode to `CountUtf8Bytes` nonzero bytes that
count and decode back to them; and the data of an accepted `string_data_item`, before its NUL,
holds `utf16_size` units and re-encodes to itself. -/
theorem modifiedUtf8_round_trip :
    (∀ (u : List UInt16) (rest : List Nat),
      let out : List Nat := convertUtf16ToModifiedUtf8 u
      out.length = countUtf8Bytes u ∧ (∀ b ∈ out, 0 < b ∧ b < 256) ∧
        countModifiedUtf8Chars (out ++ 0 :: rest) = u.length ∧
        convertModifiedUtf8ToUtf16 (out ++ 0 :: rest) = u) ∧
    (∀ (v : DexFileVerifier) (s s' : VerifierState),
      (v.checkIntraStringDataItem.run s).run = (.ok (), s') →
      ∀ rest : List Nat,
      let r : Nat × Nat := Leb128.decodeUnsignedLeb128 v.bytes s.ptr
      let data : List Nat := bytesAt v.bytes r.2 (s'.ptr - 1 - r.2)
      r.2 < s'.ptr ∧ (v.bytes (s'.ptr - 1)).toNat = 0 ∧
        countModifiedUtf8Chars (data ++ 0 :: rest) = r.1 ∧
        convertUtf16ToModifiedUtf8 (convertModifiedUtf8ToUtf16 (data ++ 0 :: rest)) = data) := by
  constructor
  · intro u rest
    have hu : ∀ c ∈ u.map UInt16.toNat, c < 2 ^ 16 := by
      simp only [List.mem_map]
      rintro _ ⟨ch, -, rfl⟩
      exact ch.toNat_lt
    have hout : convertUtf16ToModifiedUtf8 u = (u.map UInt16.toNat).flatMap encodeUnit := by
      rw [convertUtf16ToModifiedUtf8_eq, List.flatMap_map]
    refine ⟨(countUtf8Bytes_eq u).symm, ?_, ?_, ?_⟩
    · rw [hout]
      exact (chars_flatMap_encodeUnit hu).mem_byte
    · rw [hout, countModifiedUtf8Chars_flatMap hu, List.length_map]
    · rw [hout, convertModifiedUtf8ToUtf16_flatMap hu, List.map_map]
      exact List.map_id'' (f := Nat.toUInt16 ∘ UInt16.toNat) (fun ch => UInt16.ofNat_toNat) u
  · intro v s s' h rest
    obtain ⟨hlt, hnul, hchars⟩ := checkIntraStringDataItem_ok h
    exact ⟨hlt, hnul, chars_round_trip hchars rest⟩

/-- The item `02 41 c0 80 00`: "A" and the unit 0. -/
theorem modifiedUtf8_round_trip_two_units :
    ((checkIntraStringDataItem ⟨0, 6, fun i => ([2, 0x41, 0xc0, 0x80, 0, 0] : List UInt8).getD i 0⟩).run
      ⟨0, [], 0⟩).run = (.ok (), ⟨5, [], 5⟩) ∧
      countModifiedUtf8Chars [0x41, 0xc0, 0x80, 0] = 2 ∧
      convertUtf16ToModifiedUtf8 (convertModifiedUtf8ToUtf16 [0x41, 0xc0, 0x80, 0]) = [0x41, 0xc0, 0x80] := by
  have hrun : ((checkIntraStringDataItem
      ⟨0, 6, fun i => ([2, 0x41, 0xc0, 0x80, 0, 0] : List UInt8).getD i 0⟩).run ⟨0, [], 0⟩).run =
      (.ok (), ⟨5, [], 5⟩) := by rfl
  obtain ⟨-, -, hcount, hconv⟩ := modifiedUtf8_round_trip.2 _ _ _ hrun []
  exact ⟨hrun, hcount, hconv⟩

end Utf

end Art
