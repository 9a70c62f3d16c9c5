import AndroidArt.Dex.UtfSpec
import AndroidArt.Dex.LookupSpec
import AndroidArt.Lib.BinarySearch
import Mathlib.Data.List.Lex

/-!
# The order of Modified UTF-8 strings

`CompareModifiedUtf8ToModifiedUtf8AsUtf16CodePointValues` of `runtime/utf-inl.h` compares two
Modified UTF-8 strings by the UTF-16 units they encode, comparing bytes while both sides are ASCII
and decoding a unit only where one is not; `CompareModifiedUtf8ToUtf16AsCodePointValues` of
`runtime/utf.cc` compares a Modified UTF-8 string with a UTF-16 one.  The reference order is the
lexicographic order of the decodings by `ConvertModifiedUtf8ToUtf16`, with a proper prefix first.

* `compareModifiedUtf8ToModifiedUtf8Loop_cons` — one round of the fast comparison on two encoded
  units: it goes on with the rest of both strings when the units agree, and returns their
  difference otherwise.
* `compareModifiedUtf8ToModifiedUtf8_sign` — on two well-formed strings the fast comparison has
  the sign of the lexicographic comparison of their decodings; so it is antisymmetric
  (`compareModifiedUtf8ToModifiedUtf8_antisymm`) and zero exactly on strings that decode alike.
* `compareModifiedUtf8_disagree` — on a well-formed string that is not empty and its own decoding,
  the comparison with UTF-16 does not return zero, while the fast comparison of the string with
  itself does.
-/

set_option autoImplicit false

namespace Art

namespace DexFile

open BinarySearch ModifiedUtf8 Utf

/-! ## Lexicographic three-way comparison -/

section Lex

variable {α : Type*} [LinearOrder α]

theorem threeWay_nil_nil : threeWay ([] : List α) [] = 0 := by
  simp [threeWay]

theorem threeWay_nil_cons (c : α) (v : List α) : threeWay [] (c :: v) = -1 := by
  simp [threeWay, List.nil_lt_cons]

theorem threeWay_cons_nil (c : α) (u : List α) : threeWay (c :: u) [] = 1 := by
  simp [threeWay, List.nil_lt_cons]

theorem threeWay_cons_cons_self (c : α) (u v : List α) :
    threeWay (c :: u) (c :: v) = threeWay u v := by
  unfold threeWay
  simp only [gt_iff_lt, List.cons_lt_cons_iff, lt_irrefl, true_and, false_or]
  congr

theorem threeWay_cons_cons_of_ne {c c' : α} (h : c ≠ c') (u v : List α) :
    threeWay (c :: u) (c' :: v) = threeWay c c' := by
  simp only [threeWay, gt_iff_lt, List.cons_lt_cons_iff, h, Ne.symm h, false_and, or_false]

theorem threeWay_swap (x y : α) : threeWay y x = -threeWay x y := by
  unfold threeWay
  rcases lt_trichotomy x y with h | rfl | h
  · simp [h, not_lt_of_gt h]
  · simp
  · simp [h, not_lt_of_gt h]

end Lex

theorem threeWay_nat (a b : Nat) : threeWay a b = ((a : Int) - b).sign := by
  unfold threeWay
  split_ifs with h₁ h₂
  · exact (Int.sign_eq_one_of_pos (by omega)).symm
  · exact (Int.sign_eq_neg_one_of_neg (by omega)).symm
  · rw [show (a : Int) - b = 0 by omega, Int.sign_zero]

/-! ## The fast comparison -/

theorem getUtf16FromUtf8_of_ascii {s : List Nat} (h : deref s &&& 0x80 = 0) :
    getUtf16FromUtf8 s = (deref s, s.tail) := by
  rw [getUtf16FromUtf8, if_pos h]

theorem getUtf16FromUtf8_of_lead {s : List Nat} (h : deref s &&& 0x80 ≠ 0) :
    getUtf16FromUtf8 s = decodeMultiByte (deref s) s.tail := by
  rw [getUtf16FromUtf8, if_neg h, decodeMultiByte]

/-- The first byte of an encoded unit is ASCII exactly when the unit is. -/
theorem ascii_encodeUnit_iff {c : Nat} (hc : c < 2 ^ 16) (rest : List Nat) :
    deref (encodeUnit c ++ rest) &&& 0x80 = 0 ↔ 0 < c ∧ c < 0x80 := by
  by_cases h1 : 0 < c ∧ c < 0x80
  · rw [encodeUnit_of_lt_0x80 h1.1 h1.2, List.singleton_append, deref,
      and_0x80_eq_zero_iff (by omega)]
    exact iff_of_true h1.2 h1
  rcases Nat.lt_or_ge c 0x800 with h2 | h2
  · rw [encodeUnit_of_lt_0x800 (by omega) h2, List.cons_append, deref,
      and_0x80_eq_zero_iff (by omega)]
    exact iff_of_false (by omega) h1
  · rw [encodeUnit_of_ge_0x800 h2, List.cons_append, deref, and_0x80_eq_zero_iff (by omega)]
    exact iff_of_false (by omega) h1

theorem length_encodeUnit_pos (c : Nat) : 0 < (encodeUnit c).length := by
  unfold encodeUnit
  split_ifs <;> simp

/-- **One round of the fast comparison.**  On two encoded units, whatever their encodings, it
goes on with the bytes after both when the units are equal and returns their difference
otherwise. -/
theorem compareModifiedUtf8ToModifiedUtf8Loop_cons {c c' : Nat} (hc : c < 2 ^ 16)
    (hc' : c' < 2 ^ 16) (fuel : Nat) (rest rest' : List Nat) :
    compareModifiedUtf8ToModifiedUtf8Loop (fuel + 1) (encodeUnit c ++ rest)
        (encodeUnit c' ++ rest') =
      if c = c' then compareModifiedUtf8ToModifiedUtf8Loop fuel rest rest' else (c : Int) - c' := by
  have g1 := getUtf16FromUtf8_encodeUnit hc rest
  have g2 := getUtf16FromUtf8_encodeUnit hc' rest'
  have a1 := ascii_encodeUnit_iff hc rest
  have a2 := ascii_encodeUnit_iff hc' rest'
  rw [compareModifiedUtf8ToModifiedUtf8Loop]
  dsimp only
  rw [if_neg (deref_encodeUnit_ne_zero c rest), if_neg (deref_encodeUnit_ne_zero c' rest')]
  by_cases h1 : deref (encodeUnit c ++ rest) &&& 0x80 = 0
  · -- an ASCII unit on the left: its byte is compared first
    rw [getUtf16FromUtf8_of_ascii h1, Prod.mk.injEq] at g1
    obtain ⟨e1, t1⟩ := g1
    rw [if_pos h1]
    by_cases h2 : deref (encodeUnit c' ++ rest') &&& 0x80 = 0
    · rw [getUtf16FromUtf8_of_ascii h2, Prod.mk.injEq] at g2
      obtain ⟨e2, t2⟩ := g2
      have h2' : c' &&& 0x80 = 0 := e2 ▸ h2
      rw [e1, e2, t1, t2, if_pos h2']
    · rw [getUtf16FromUtf8_of_lead h2] at g2
      have hne : c ≠ c' := fun h => h2 (a2.mpr (h ▸ a1.mp h1))
      have hbyte : c ≠ deref (encodeUnit c' ++ rest') := by
        intro h
        rw [← h, ← e1] at h2
        exact h2 h1
      rw [e1, if_neg hbyte, if_neg h2, g2, if_neg hne]
  · -- a multi-byte unit on the left: both units are decoded
    rw [getUtf16FromUtf8_of_lead h1] at g1
    have hd2 : (if deref (encodeUnit c' ++ rest') &&& 0x80 = 0 then
        (deref (encodeUnit c' ++ rest'), (encodeUnit c' ++ rest').tail)
        else decodeMultiByte (deref (encodeUnit c' ++ rest')) (encodeUnit c' ++ rest').tail) =
        (c', rest') := by
      split_ifs with h2
      · rwa [getUtf16FromUtf8_of_ascii h2] at g2
      · rwa [getUtf16FromUtf8_of_lead h2] at g2
    rw [if_neg h1, hd2, g1]

/-- The fast comparison on the encodings of two lists of units has the sign of their
lexicographic comparison, by induction on the first list: each round consumes one unit of
both. -/
theorem compareModifiedUtf8ToModifiedUtf8Loop_flatMap :
    ∀ {u v : List Nat}, (∀ c ∈ u, c < 2 ^ 16) → (∀ c ∈ v, c < 2 ^ 16) → ∀ {fuel : Nat},
      (u.flatMap encodeUnit).length < fuel →
      (compareModifiedUtf8ToModifiedUtf8Loop fuel (u.flatMap encodeUnit)
        (v.flatMap encodeUnit)).sign = threeWay u v
  | [], [], _, _, fuel + 1, _ => by
    simp [compareModifiedUtf8ToModifiedUtf8Loop, deref, threeWay_nil_nil]
  | [], c' :: v, _, _, fuel + 1, _ => by
    rw [List.flatMap_nil, List.flatMap_cons, compareModifiedUtf8ToModifiedUtf8Loop,
      threeWay_nil_cons]
    dsimp only
    rw [if_pos (show deref [] = 0 from rfl), if_neg (deref_encodeUnit_ne_zero c' _)]
    rfl
  | c :: u, [], _, _, fuel + 1, _ => by
    rw [List.flatMap_nil, List.flatMap_cons, compareModifiedUtf8ToModifiedUtf8Loop,
      threeWay_cons_nil]
    dsimp only
    rw [if_neg (deref_encodeUnit_ne_zero c _), if_pos (show deref [] = 0 from rfl)]
    rfl
  | c :: u, c' :: v, hu, hv, fuel + 1, hfuel => by
    have hc := hu c (by simp)
    have hc' := hv c' (by simp)
    have hlen : (u.flatMap encodeUnit).length < fuel := by
      have := length_encodeUnit_pos c
      rw [List.flatMap_cons, List.length_append] at hfuel
      omega
    rw [List.flatMap_cons, List.flatMap_cons, compareModifiedUtf8ToModifiedUtf8Loop_cons hc hc']
    by_cases hcc : c = c'
    · subst hcc
      rw [if_pos rfl, threeWay_cons_cons_self]
      exact compareModifiedUtf8ToModifiedUtf8Loop_flatMap (fun x h => hu x (by simp [h]))
        (fun x h => hv x (by simp [h])) hlen
    · rw [if_neg hcc, threeWay_cons_cons_of_ne hcc, threeWay_nat]

/-- `ConvertModifiedUtf8ToUtf16` decodes the encoding of a list of units to that list. -/
theorem decode_flatMap {u : List Nat} (hu : ∀ c ∈ u, c < 2 ^ 16) :
    (convertModifiedUtf8ToUtf16 (u.flatMap encodeUnit ++ [0])).map UInt16.toNat = u := by
  rw [convertModifiedUtf8ToUtf16_flatMap hu, List.map_map]
  exact (List.map_congr_left fun c hc => UInt16.toNat_ofNat_of_lt' (hu c hc)).trans
    (List.map_id u)

/-- **The fast comparison is the order of the decodings.**  On two well-formed strings,
`CompareModifiedUtf8ToModifiedUtf8AsUtf16CodePointValues` has the sign of the lexicographic
comparison of the units `ConvertModifiedUtf8ToUtf16` decodes from them. -/
theorem compareModifiedUtf8ToModifiedUtf8_sign {n m : Nat} {a b : List Nat} (ha : Chars n a)
    (hb : Chars m b) :
    (compareModifiedUtf8ToModifiedUtf8AsUtf16CodePointValues a b).sign =
      threeWay ((convertModifiedUtf8ToUtf16 (a ++ [0])).map UInt16.toNat)
        ((convertModifiedUtf8ToUtf16 (b ++ [0])).map UInt16.toNat) := by
  obtain ⟨u, -, hu, rfl⟩ := ha.exists_units
  obtain ⟨v, -, hv, rfl⟩ := hb.exists_units
  rw [decode_flatMap hu, decode_flatMap hv]
  exact compareModifiedUtf8ToModifiedUtf8Loop_flatMap hu hv (Nat.lt_succ_self _)

theorem compareModifiedUtf8ToModifiedUtf8_antisymm {n m : Nat} {a b : List Nat}
    (ha : Chars n a) (hb : Chars m b) :
    (compareModifiedUtf8ToModifiedUtf8AsUtf16CodePointValues b a).sign =
      -(compareModifiedUtf8ToModifiedUtf8AsUtf16CodePointValues a b).sign := by
  rw [compareModifiedUtf8ToModifiedUtf8_sign hb ha, compareModifiedUtf8ToModifiedUtf8_sign ha hb,
    threeWay_swap]

/-! ## Against a UTF-16 string -/

/-- **The comparison with UTF-16 disagrees.**  A well-formed string that is not empty compares
equal to itself by the fast comparison, but `CompareModifiedUtf8ToUtf16AsCodePointValues` does not
find it equal to its own decoding. -/
theorem compareModifiedUtf8_disagree {n : Nat} {a : List Nat} (ha : Chars n a) (hn : 0 < n) :
    compareModifiedUtf8ToModifiedUtf8AsUtf16CodePointValues a a = 0 ∧
      compareModifiedUtf8ToUtf16AsCodePointValues a
        ((convertModifiedUtf8ToUtf16 (a ++ [0])).map UInt16.toNat) ≠ 0 := by
  have hsign := compareModifiedUtf8ToModifiedUtf8_sign ha ha
  rw [(threeWay_eq_zero_iff).mpr rfl, Int.sign_eq_zero_iff_zero] at hsign
  refine ⟨hsign, ?_⟩
  obtain ⟨u, hlen, hu, rfl⟩ := ha.exists_units
  rw [decode_flatMap hu]
  cases u with
  | nil => exact absurd hlen (by simp; omega)
  | cons c u =>
    by_cases hc : c = 0
    · -- the unit 0 ends the UTF-16 string at once, while the Modified UTF-8 one goes on
      subst hc
      rw [compareModifiedUtf8ToUtf16AsCodePointValues, compareModifiedUtf8ToUtf16Loop,
        List.flatMap_cons, if_neg (deref_encodeUnit_ne_zero 0 _),
        if_pos (show deref (0 :: u) = 0 from rfl)]
      decide
    · exact compareModifiedUtf8ToUtf16AsCodePointValues_ne_zero hc

theorem compareModifiedUtf8_disagree_letter :
    Chars 1 [0x41] ∧ compareModifiedUtf8ToModifiedUtf8AsUtf16CodePointValues [0x41] [0x41] = 0 ∧
      compareModifiedUtf8ToUtf16AsCodePointValues [0x41]
        ((convertModifiedUtf8ToUtf16 ([0x41] ++ [0])).map UInt16.toNat) ≠ 0 :=
  have h : Chars 1 [0x41] := .cons (.one (by decide) (by decide)) .nil
  ⟨h, compareModifiedUtf8_disagree h (by decide)⟩

end DexFile

end Art
