import Mathlib.Data.Nat.Basic
import Mathlib.Algebra.GroupWithZero.Nat

/-!
# Binary floating-point encodings and the integer conversions of C

An IEEE 754 binary format has a sign bit, `exponentBits` bits of biased exponent and
`fractionBits` bits of trailing significand.  An encoding is the natural number those bits
spell.  C converts between floating and integer values in two ways:

* `truncToUnsigned` — a floating value to a `w`-bit unsigned integer: the fractional part is
  discarded, and the conversion has no result (undefined behaviour) for an infinity, a NaN, or a
  value whose integral part is out of range.
* `ofNat` — an integer to the format, rounded to nearest with ties to even, as IEEE hardware does;
  an integer beyond the largest finite value gives an infinity.
-/

set_option autoImplicit false

namespace IeeeFloat

/-- A binary interchange format. -/
structure Format where
  exponentBits : Nat
  fractionBits : Nat
  deriving DecidableEq, Repr

/-- `float`. -/
def binary32 : Format := ⟨8, 23⟩

/-- `double`. -/
def binary64 : Format := ⟨11, 52⟩

namespace Format

variable (f : Format)

def bias : Nat := 2 ^ (f.exponentBits - 1) - 1

/-- The biased exponent of the infinities and NaNs. -/
def maxExponent : Nat := 2 ^ f.exponentBits - 1

def sign (x : Nat) : Bool := x.testBit (f.exponentBits + f.fractionBits)

def biasedExponent (x : Nat) : Nat := x / 2 ^ f.fractionBits % 2 ^ f.exponentBits

def trailingSignificand (x : Nat) : Nat := x % 2 ^ f.fractionBits

def isFinite (x : Nat) : Bool := f.biasedExponent x < f.maxExponent

/-- The integer significand, with the leading bit of a normal number. -/
def significand (x : Nat) : Nat :=
  if f.biasedExponent x = 0 then f.trailingSignificand x
  else 2 ^ f.fractionBits + f.trailingSignificand x

/-- The weight of the last bit of the significand: a finite encoding `x` has magnitude
`significand x * 2 ^ quantumExponent x`. -/
def quantumExponent (x : Nat) : Int :=
  (max (f.biasedExponent x) 1 : Nat) - (f.bias + f.fractionBits : Nat)

/-- The magnitude of a finite encoding, rounded toward zero to an integer. -/
def truncMagnitude (x : Nat) : Nat :=
  match f.quantumExponent x with
  | .ofNat k => f.significand x * 2 ^ k
  | .negSucc k => f.significand x / 2 ^ (k + 1)

/-- The conversion of a floating value to a `w`-bit unsigned integer. -/
def truncToUnsigned (w x : Nat) : Option Nat :=
  if f.isFinite x then
    let n := f.truncMagnitude x
    -- a negative value truncates to a negative integer unless it lies in (-1, 0]
    if f.sign x ∧ n ≠ 0 then none
    else if n < 2 ^ w then some n else none
  else none

/-- `n / 2 ^ s` rounded to nearest, ties to even. -/
def roundShift (n s : Nat) : Nat :=
  let q := n / 2 ^ s
  let r := n % 2 ^ s
  let half := 2 ^ s / 2
  if r > half ∨ (r = half ∧ s ≠ 0 ∧ q % 2 = 1) then q + 1 else q

/-- The conversion of an integer to the format. -/
def ofNat (n : Nat) : Nat :=
  if n = 0 then 0
  else
    let l := Nat.log2 n
    let m := f.fractionBits
    let sig := if l ≤ m then n * 2 ^ (m - l) else roundShift n (l - m)
    let bits := (l + f.bias) * 2 ^ m + (sig - 2 ^ m)
    if bits < f.maxExponent * 2 ^ m then bits else f.maxExponent * 2 ^ m

end Format

end IeeeFloat
