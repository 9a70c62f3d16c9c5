import Mathlib.Order.Basic
import Mathlib.Algebra.GroupWithZero.Nat

/-!
# Modified UTF-8

The encoding of UTF-16 code units that the JVM and dex files use: each unit on its own, with no
pairing of surrogates, in one, two or three bytes, and the unit 0 in two bytes, so that an
encoded string holds no zero byte and can end at a NUL.

* `Char` — the shapes of the bytes of one unit, one constructor each; `Chars n` — `n` units one
  after another;
* `encodeUnit`, `decodeUnit` — the bytes of a unit, and the unit of a shape;
* `char_encodeUnit`, `decodeUnit_encodeUnit`, `Char.encodeUnit_decodeUnit` — the two are inverse:
  every unit below `2^16` encodes to a shape, and every shape is the encoding of its unit;
* `chars_flatMap_encodeUnit`, `Chars.exists_units` — a sequence of shapes is exactly the
  encoding of a list of units;
* `Chars.mem_byte` — such a sequence holds only bytes, and no zero byte.
-/

set_option autoImplicit false

namespace ModifiedUtf8

/-- A continuation byte, `10xxxxxx`. -/
def Tail (b : Nat) : Prop := 0x80 ≤ b ∧ b ≤ 0xbf

/-- The bytes of one unit. -/
inductive Char : List Nat → Prop where
  /-- The unit 0, in the two bytes `0xc0 0x80`. -/
  | nul : Char [0xc0, 0x80]
  /-- `0x01`-`0x7f`, in one byte. -/
  | one {a : Nat} : 0x01 ≤ a → a ≤ 0x7f → Char [a]
  /-- `0x80`-`0x7ff`, in two bytes `110xxxxx 10xxxxxx`. -/
  | two {a b : Nat} : 0xc2 ≤ a → a ≤ 0xdf → Tail b → Char [a, b]
  /-- `0x800`-`0xfff`, in three bytes whose first is `0xe0`. -/
  | e0 {b c : Nat} : 0xa0 ≤ b → b ≤ 0xbf → Tail c → Char [0xe0, b, c]
  /-- `0x1000`-`0xffff`, in three bytes `1110xxxx 10xxxxxx 10xxxxxx`. -/
  | three {a b c : Nat} : 0xe1 ≤ a → a ≤ 0xef → Tail b → Tail c → Char [a, b, c]

/-- `n` units, one after another. -/
inductive Chars : Nat → List Nat → Prop where
  | nil : Chars 0 []
  | cons {c rest : List Nat} {n : Nat} : Char c → Chars n rest → Chars (n + 1) (c ++ rest)

/-- The bytes of the unit `c`. -/
def encodeUnit (c : Nat) : List Nat :=
  if 0 < c ∧ c < 0x80 then [c]
  else if c < 0x800 then [0xc0 + c / 64, 0x80 + c % 64]
  else [0xe0 + c / 4096, 0x80 + c / 64 % 64, 0x80 + c % 64]

/-- The unit whose bytes are `bs`, for `bs` of one of the shapes. -/
def decodeUnit : List Nat → Nat
  | [a] => a
  | [a, b] => a % 32 * 64 + b % 64
  | [a, b, c] => a % 16 * 4096 + b % 64 * 64 + c % 64
  | _ => 0

variable {c : Nat} {bs : List Nat}

theorem encodeUnit_of_lt_0x80 (h0 : 0 < c) (h : c < 0x80) : encodeUnit c = [c] := by
  rw [encodeUnit, if_pos ⟨h0, h⟩]

theorem encodeUnit_of_lt_0x800 (h0 : c = 0 ∨ 0x80 ≤ c) (h : c < 0x800) :
    encodeUnit c = [0xc0 + c / 64, 0x80 + c % 64] := by
  rw [encodeUnit, if_neg (by omega), if_pos h]

theorem encodeUnit_of_ge_0x800 (h : 0x800 ≤ c) :
    encodeUnit c = [0xe0 + c / 4096, 0x80 + c / 64 % 64, 0x80 + c % 64] := by
  rw [encodeUnit, if_neg (by omega), if_neg (by omega)]

/-- Every unit encodes to one of the shapes. -/
theorem char_encodeUnit (hc : c < 2 ^ 16) : Char (encodeUnit c) := by
  rcases Nat.lt_or_ge c 0x80 with h1 | h1
  · rcases Nat.eq_zero_or_pos c with rfl | h0
    · exact .nul
    · rw [encodeUnit_of_lt_0x80 h0 h1]
      exact .one h0 (by omega)
  rcases Nat.lt_or_ge c 0x800 with h2 | h2
  · rw [encodeUnit_of_lt_0x800 (.inr h1) h2]
    exact .two (by omega) (by omega) ⟨by omega, by omega⟩
  rw [encodeUnit_of_ge_0x800 h2]
  rcases Nat.lt_or_ge c 0x1000 with h3 | h3
  · rw [show 0xe0 + c / 4096 = 0xe0 by omega]
    exact .e0 (by omega) (by omega) ⟨by omega, by omega⟩
  · exact .three (by omega) (by omega) ⟨by omega, by omega⟩ ⟨by omega, by omega⟩

theorem decodeUnit_encodeUnit (hc : c < 2 ^ 16) : decodeUnit (encodeUnit c) = c := by
  rcases Nat.lt_or_ge c 0x80 with h1 | h1
  · rcases Nat.eq_zero_or_pos c with rfl | h0
    · rfl
    · rw [encodeUnit_of_lt_0x80 h0 h1, decodeUnit]
  rcases Nat.lt_or_ge c 0x800 with h2 | h2
  · rw [encodeUnit_of_lt_0x800 (.inr h1) h2, decodeUnit]
    omega
  · rw [encodeUnit_of_ge_0x800 h2, decodeUnit]
    omega

/-- Every shape is the encoding of the unit it decodes to. -/
theorem Char.encodeUnit_decodeUnit (h : Char bs) : encodeUnit (decodeUnit bs) = bs := by
  cases h with
  | nul => rfl
  | one h0 h1 => rw [decodeUnit, encodeUnit_of_lt_0x80 (by omega) (by omega)]
  | two ha ha' hb =>
    obtain ⟨hb, hb'⟩ := hb
    rw [decodeUnit, encodeUnit_of_lt_0x800 (.inr (by omega)) (by omega)]
    simp only [List.cons.injEq, and_true]
    omega
  | e0 hb hb' hc =>
    obtain ⟨hc, hc'⟩ := hc
    rw [decodeUnit, encodeUnit_of_ge_0x800 (by omega)]
    simp only [List.cons.injEq, and_true]
    omega
  | three ha ha' hb hc =>
    obtain ⟨hb, hb'⟩ := hb
    obtain ⟨hc, hc'⟩ := hc
    rw [decodeUnit, encodeUnit_of_ge_0x800 (by omega)]
    simp only [List.cons.injEq, and_true]
    omega

theorem Char.decodeUnit_lt (h : Char bs) : decodeUnit bs < 2 ^ 16 := by
  cases h <;> simp only [decodeUnit] <;> omega

/-- A shape holds bytes, none of them zero. -/
theorem Char.mem_byte (h : Char bs) : ∀ b ∈ bs, 0 < b ∧ b < 256 := by
  intro x hx
  cases h with
  | nul =>
    simp only [List.mem_cons, List.not_mem_nil, or_false] at hx
    omega
  | one h0 h1 =>
    simp only [List.mem_cons, List.not_mem_nil, or_false] at hx
    omega
  | two ha ha' hb =>
    obtain ⟨hb, hb'⟩ := hb
    simp only [List.mem_cons, List.not_mem_nil, or_false] at hx
    omega
  | e0 hb hb' hc =>
    obtain ⟨hc, hc'⟩ := hc
    simp only [List.mem_cons, List.not_mem_nil, or_false] at hx
    omega
  | three ha ha' hb hc =>
    obtain ⟨hb, hb'⟩ := hb
    obtain ⟨hc, hc'⟩ := hc
    simp only [List.mem_cons, List.not_mem_nil, or_false] at hx
    omega

/-- The encoding of a list of units is a sequence of as many shapes. -/
theorem chars_flatMap_encodeUnit {u : List Nat} (hu : ∀ c ∈ u, c < 2 ^ 16) :
    Chars u.length (u.flatMap encodeUnit) := by
  induction u with
  | nil => exact .nil
  | cons c u ih =>
    rw [List.flatMap_cons, List.length_cons]
    exact .cons (char_encodeUnit (hu c (by simp))) (ih fun c' h => hu c' (by simp [h]))

/-- A sequence of `n` shapes is the encoding of `n` units. -/
theorem Chars.exists_units {n : Nat} (h : Chars n bs) :
    ∃ u : List Nat, u.length = n ∧ (∀ c ∈ u, c < 2 ^ 16) ∧ bs = u.flatMap encodeUnit := by
  induction h with
  | nil => exact ⟨[], rfl, by simp, rfl⟩
  | @cons c rest n hc _ ih =>
    obtain ⟨u, hlen, hlt, rfl⟩ := ih
    refine ⟨decodeUnit c :: u, by rw [List.length_cons, hlen], ?_, ?_⟩
    · intro c' hc'
      rcases List.mem_cons.mp hc' with rfl | hc'
      · exact hc.decodeUnit_lt
      · exact hlt c' hc'
    · rw [List.flatMap_cons, hc.encodeUnit_decodeUnit]

theorem Chars.mem_byte {n : Nat} (h : Chars n bs) : ∀ b ∈ bs, 0 < b ∧ b < 256 := by
  induction h with
  | nil => simp
  | cons hc _ ih =>
    intro b hb
    rcases List.mem_append.mp hb with hb | hb
    · exact hc.mem_byte b hb
    · exact ih b hb

end ModifiedUtf8
