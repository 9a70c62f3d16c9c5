import AndroidArt.Lib.Align
import AndroidArt.Lib.Word

/-!
# The tagged encoding of `Location`

Model of `Location` (`compiler/optimizing/locations.h`) with the `BitField` it is built on
(`runtime/base/bit_field.h`).  A location is one `uword`, here a `w`-bit word: either a kind in its
low four bits and a payload above them, or the address of an `HConstant` with the tag `kConstant`
in its two low bits.  `IsConstant()` reads only those two bits.

A failed `DCHECK` (a field value that does not fit, a stack index outside its range, a null
constant) makes a constructor `none`.

* `getKind_kindPayload`, `getPayload_kindPayload` — a location built from a kind and a payload
  gives them back.
* `isConstant_kindPayload` — it reads as a constant exactly when its kind is `1` modulo 4.
* `constantLocation_spec` — a constant location of a 4-byte-aligned pointer reads as a constant
  and gives the pointer back.
* `stackSlot_spec`, `registerLocation_spec`, `unallocatedLocation_spec` — the other constructors
  are not constants and give their kind and argument back.
* `location_quick_parameter_is_constant` — `kQuickParameter = 5` carries the constant tag, so
  every `QuickParameter(p)` reads as a constant, and `ConstantLocation(c)` for the pointer
  `c = 4 + 16 p` is the same word as `QuickParameter(p)`.
-/

set_option autoImplicit false

namespace Art

namespace Locations

/-- `Location::Kind`. -/
inductive Kind where
  | kInvalid
  | kConstant
  | kStackSlot
  | kDoubleStackSlot
  | kRegister
  | kQuickParameter
  | kUnallocated
  deriving DecidableEq, Repr

/-- The values of the enumerators. -/
def Kind.toNat : Kind → Nat
  | .kInvalid => 0
  | .kConstant => 1
  | .kStackSlot => 2
  | .kDoubleStackSlot => 3
  | .kRegister => 4
  | .kQuickParameter => 5
  | .kUnallocated => 6

/-- `Location::Policy`. -/
inductive Policy where
  | kAny
  | kRequiresRegister
  | kSameAsFirstInput
  deriving DecidableEq, Repr

/-- The values of the enumerators. -/
def Policy.toNat : Policy → Nat
  | .kAny => 0
  | .kRequiresRegister => 1
  | .kSameAsFirstInput => 2

/-! ## `BitField` -/

/-- `BitField<T, position, size>::Encode(value)`, with its `DCHECK(IsValid(value))`. -/
def encodeField (position size value : Nat) : Option Nat :=
  if value < 2 ^ size then some (value <<< position) else none

/-- `BitField<T, position, size>::Decode(value)`. -/
def decodeField (position size value : Nat) : Nat := value >>> position &&& ((1 <<< size) - 1)

theorem decodeField_eq (position size value : Nat) :
    decodeField position size value = value / 2 ^ position % 2 ^ size := by
  rw [decodeField, Nat.shiftRight_eq_div_pow, Nat.one_shiftLeft, Nat.and_two_pow_sub_one_eq_mod]

/-! ## Locations -/

/-- `kBitsForKind`. -/
def kBitsForKind : Nat := 4

/-- `kBitsForPayload`, for a `uword` of `w` bits. -/
def kBitsForPayload (w : Nat) : Nat := w - kBitsForKind

/-- `kLocationTagMask`. -/
def kLocationTagMask : Nat := 0x3

/-- `kStackIndexBias`. -/
def kStackIndexBias (w : Nat) : Int := 2 ^ (kBitsForPayload w - 1)

theorem Kind.toNat_lt (kind : Kind) : kind.toNat < 2 ^ kBitsForKind := by
  cases kind <;> decide

/-- A `Location`: its `value_`. -/
structure Location (w : Nat) where
  value : BitVec w
  deriving DecidableEq, Repr

variable {w : Nat}

namespace Location

/-- The constructor `Location(kind, payload)`. -/
def kindPayload (kind : Kind) (payload : Nat) : Option (Location w) := do
  let k ← encodeField 0 kBitsForKind kind.toNat
  let p ← encodeField kBitsForKind (kBitsForPayload w) payload
  some ⟨BitVec.ofNat w (k ||| p)⟩

/-- `IsConstant()`: the two low bits are the tag `kConstant`. -/
def isConstant (l : Location w) : Bool := l.value.toNat &&& kLocationTagMask == Kind.kConstant.toNat

/-- `GetKind()`: the low four bits, as a number. -/
def getKind (l : Location w) : Nat := decodeField 0 kBitsForKind l.value.toNat

/-- `GetPayload()`. -/
def getPayload (l : Location w) : Nat := decodeField kBitsForKind (kBitsForPayload w) l.value.toNat

/-- `Equals(other)`. -/
def equals (l other : Location w) : Bool := l.value == other.value

/-- `ConstantLocation(constant)` for the address `constant` of an `HConstant`. -/
def constantLocation (constant : Nat) : Option (Location w) :=
  if constant = 0 then none else some ⟨BitVec.ofNat w (Kind.kConstant.toNat ||| constant)⟩

/-- `GetConstant()`: the value with the tag bits cleared. -/
def getConstant (l : Location w) : Option Nat :=
  if l.isConstant then some (Align.roundDown l.value.toNat (kLocationTagMask + 1)) else none

/-- `RegisterLocation(reg)`, for the register number `reg.RegId()`. -/
def registerLocation (regId : Nat) : Option (Location w) := kindPayload .kRegister regId

/-- `reg()`. -/
def reg (l : Location w) : Option Nat :=
  if l.getKind = Kind.kRegister.toNat then some l.getPayload else none

/-- `EncodeStackIndex(stack_index)`. -/
def encodeStackIndex (w : Nat) (stackIndex : Int) : Option Nat :=
  if -kStackIndexBias w ≤ stackIndex ∧ stackIndex < kStackIndexBias w then
    some (kStackIndexBias w + stackIndex).toNat
  else none

/-- `GetStackIndex()`: the payload less the bias, for either kind of stack slot. -/
def getStackIndex (l : Location w) : Option Int :=
  if l.getKind = Kind.kStackSlot.toNat ∨ l.getKind = Kind.kDoubleStackSlot.toNat then
    some (l.getPayload - kStackIndexBias w)
  else none

/-- `StackSlot(stack_index)` and `DoubleStackSlot(stack_index)`, which differ in their kind only,
with the `DCHECK` that the index reads back. -/
def stackSlotOf (kind : Kind) (stackIndex : Int) : Option (Location w) := do
  let payload ← encodeStackIndex w stackIndex
  let loc ← kindPayload kind payload
  if loc.getStackIndex ≠ some stackIndex then none
  some loc

/-- `StackSlot(stack_index)`. -/
def stackSlot (stackIndex : Int) : Option (Location w) := stackSlotOf .kStackSlot stackIndex

/-- `DoubleStackSlot(stack_index)`. -/
def doubleStackSlot (stackIndex : Int) : Option (Location w) :=
  stackSlotOf .kDoubleStackSlot stackIndex

/-- `QuickParameter(parameter_index)`. -/
def quickParameter (parameterIndex : Nat) : Option (Location w) :=
  kindPayload .kQuickParameter parameterIndex

/-- `GetQuickParameterIndex()`: the payload as a `uint32_t`. -/
def getQuickParameterIndex (l : Location w) : Option Nat :=
  if l.getKind = Kind.kQuickParameter.toNat then some (l.getPayload % 2 ^ 32) else none

/-- `UnallocatedLocation(policy)`. -/
def unallocatedLocation (policy : Policy) : Option (Location w) := do
  let payload ← encodeField 0 3 policy.toNat
  kindPayload .kUnallocated payload

/-- `GetPolicy()`, as the number of the policy. -/
def getPolicy (l : Location w) : Option Nat :=
  if l.getKind = Kind.kUnallocated.toNat then some (decodeField 0 3 l.getPayload) else none

/-! ## Reading a location back -/

/-- A kind and a payload that fits are packed side by side, with no carry. -/
theorem kindPayload_eq {kind : Kind} {payload : Nat} (hp : payload < 2 ^ kBitsForPayload w) :
    kindPayload kind payload =
      some ⟨BitVec.ofNat w (kind.toNat + payload * 2 ^ kBitsForKind)⟩ := by
  simp only [kindPayload, encodeField, if_pos kind.toNat_lt, if_pos hp, Nat.shiftLeft_zero,
    Option.bind_eq_bind, Option.bind_some, Word.or_shiftLeft_eq_add kind.toNat_lt]

/-- The packed word fits in `w` bits, so the `uword` holds it as it is. -/
theorem toNat_packed {kind : Kind} {payload : Nat} (hw : kBitsForKind ≤ w)
    (hp : payload < 2 ^ kBitsForPayload w) :
    (BitVec.ofNat w (kind.toNat + payload * 2 ^ kBitsForKind)).toNat =
      kind.toNat + payload * 2 ^ kBitsForKind := by
  have hk := kind.toNat_lt
  have hpow : 2 ^ kBitsForPayload w * 2 ^ kBitsForKind = 2 ^ w := by
    rw [← Nat.pow_add, kBitsForPayload, Nat.sub_add_cancel hw]
  have hlt : kind.toNat + payload * 2 ^ kBitsForKind < 2 ^ w := by
    calc kind.toNat + payload * 2 ^ kBitsForKind
        < 2 ^ kBitsForKind + payload * 2 ^ kBitsForKind := by omega
      _ = (payload + 1) * 2 ^ kBitsForKind := by ring
      _ ≤ 2 ^ kBitsForPayload w * 2 ^ kBitsForKind := Nat.mul_le_mul_right _ hp
      _ = 2 ^ w := hpow
  rw [BitVec.toNat_ofNat, Nat.mod_eq_of_lt hlt]

section Packed

variable {kind : Kind} {payload : Nat} {l : Location w}

theorem getKind_kindPayload (hw : kBitsForKind ≤ w) (hp : payload < 2 ^ kBitsForPayload w)
    (h : kindPayload kind payload = some l) : l.getKind = kind.toNat := by
  rw [kindPayload_eq hp, Option.some.injEq] at h
  subst h
  rw [getKind, toNat_packed hw hp, decodeField_eq, Nat.pow_zero, Nat.div_one,
    Nat.add_mul_mod_self_right, Nat.mod_eq_of_lt kind.toNat_lt]

theorem getPayload_kindPayload (hw : kBitsForKind ≤ w) (hp : payload < 2 ^ kBitsForPayload w)
    (h : kindPayload kind payload = some l) : l.getPayload = payload := by
  rw [kindPayload_eq hp, Option.some.injEq] at h
  subst h
  have hk := kind.toNat_lt
  rw [getPayload, toNat_packed hw hp, decodeField_eq, Nat.add_mul_div_right _ _ (by decide),
    Nat.div_eq_of_lt hk, Nat.zero_add, Nat.mod_eq_of_lt hp]

/-- A packed location reads as a constant exactly when its kind has the tag `kConstant`. -/
theorem isConstant_kindPayload (hw : kBitsForKind ≤ w) (hp : payload < 2 ^ kBitsForPayload w)
    (h : kindPayload kind payload = some l) : l.isConstant = decide (kind.toNat % 4 = 1) := by
  rw [kindPayload_eq hp, Option.some.injEq] at h
  subst h
  have hmod : (kind.toNat + payload * 2 ^ kBitsForKind) % 2 ^ 2 = kind.toNat % 4 := by
    simp only [kBitsForKind]
    omega
  rw [isConstant, toNat_packed hw hp, kLocationTagMask,
    show (0x3 : Nat) = 2 ^ 2 - 1 from rfl, Nat.and_two_pow_sub_one_eq_mod, hmod]
  cases kind <;> rfl

end Packed

/-- A packed location reads back its kind and payload, and is a constant only for kinds `1` and
`5`. -/
theorem kindPayload_spec {kind : Kind} {payload : Nat} (hw : kBitsForKind ≤ w)
    (hp : payload < 2 ^ kBitsForPayload w) :
    ∃ l : Location w, kindPayload kind payload = some l ∧ l.getKind = kind.toNat ∧
      l.getPayload = payload ∧ l.isConstant = decide (kind.toNat % 4 = 1) :=
  ⟨_, kindPayload_eq hp, getKind_kindPayload hw hp (kindPayload_eq hp),
    getPayload_kindPayload hw hp (kindPayload_eq hp), isConstant_kindPayload hw hp (kindPayload_eq hp)⟩

/-! ## The constructors -/

theorem registerLocation_spec {regId : Nat} (hw : kBitsForKind ≤ w)
    (hr : regId < 2 ^ kBitsForPayload w) :
    ∃ l : Location w, registerLocation regId = some l ∧ l.isConstant = false ∧
      l.getKind = Kind.kRegister.toNat ∧ l.reg = some regId := by
  obtain ⟨l, hl, hkind, hpayload, hconst⟩ := @kindPayload_spec _ .kRegister _ hw hr
  exact ⟨l, hl, hconst, hkind, by simp [reg, hkind, hpayload]⟩

/-- The payload of a stack index in range fits: the bias is half the payload's range. -/
theorem encodeStackIndex_spec {stackIndex : Int} (hw : kBitsForKind < w)
    (hlo : -kStackIndexBias w ≤ stackIndex) (hhi : stackIndex < kStackIndexBias w) :
    ∃ payload, encodeStackIndex w stackIndex = some payload ∧
      payload < 2 ^ kBitsForPayload w ∧ (payload : Int) - kStackIndexBias w = stackIndex := by
  have hbias : (2 : Int) ^ kBitsForPayload w = 2 * kStackIndexBias w := by
    rw [kStackIndexBias, ← pow_succ', Nat.sub_add_cancel (by simp only [kBitsForPayload]; omega)]
  refine ⟨(kStackIndexBias w + stackIndex).toNat, if_pos ⟨hlo, hhi⟩, ?_, ?_⟩
  · have : ((kStackIndexBias w + stackIndex).toNat : Int) < 2 ^ kBitsForPayload w := by
      rw [Int.toNat_of_nonneg (by omega), hbias]
      omega
    exact_mod_cast this
  · rw [Int.toNat_of_nonneg (by omega)]
    omega

theorem stackSlotOf_spec {kind : Kind} {stackIndex : Int} (hw : kBitsForKind < w)
    (hkind : kind = .kStackSlot ∨ kind = .kDoubleStackSlot)
    (hlo : -kStackIndexBias w ≤ stackIndex) (hhi : stackIndex < kStackIndexBias w) :
    ∃ l : Location w, stackSlotOf kind stackIndex = some l ∧ l.isConstant = false ∧
      l.getKind = kind.toNat ∧ l.getStackIndex = some stackIndex := by
  obtain ⟨payload, henc, hp, hidx⟩ := encodeStackIndex_spec hw hlo hhi
  obtain ⟨l, hl, hgetKind, hpayload, hconst⟩ := @kindPayload_spec _ kind _ (le_of_lt hw) hp
  have hindex : l.getStackIndex = some stackIndex := by
    have hslot : l.getKind = Kind.kStackSlot.toNat ∨ l.getKind = Kind.kDoubleStackSlot.toNat := by
      rcases hkind with rfl | rfl <;> simp [hgetKind]
    rw [getStackIndex, if_pos hslot, hpayload, hidx]
  refine ⟨l, ?_, ?_, hgetKind, hindex⟩
  · simp [stackSlotOf, henc, hl, hindex]
  · rcases hkind with rfl | rfl <;> exact hconst

theorem stackSlot_spec {stackIndex : Int} (hw : kBitsForKind < w)
    (hlo : -kStackIndexBias w ≤ stackIndex) (hhi : stackIndex < kStackIndexBias w) :
    ∃ l : Location w, stackSlot stackIndex = some l ∧ l.isConstant = false ∧
      l.getKind = Kind.kStackSlot.toNat ∧ l.getStackIndex = some stackIndex :=
  stackSlotOf_spec hw (.inl rfl) hlo hhi

theorem doubleStackSlot_spec {stackIndex : Int} (hw : kBitsForKind < w)
    (hlo : -kStackIndexBias w ≤ stackIndex) (hhi : stackIndex < kStackIndexBias w) :
    ∃ l : Location w, doubleStackSlot stackIndex = some l ∧ l.isConstant = false ∧
      l.getKind = Kind.kDoubleStackSlot.toNat ∧ l.getStackIndex = some stackIndex :=
  stackSlotOf_spec hw (.inr rfl) hlo hhi

theorem unallocatedLocation_spec (policy : Policy) (hw : kBitsForKind + 3 ≤ w) :
    ∃ l : Location w, unallocatedLocation policy = some l ∧ l.isConstant = false ∧
      l.getKind = Kind.kUnallocated.toNat ∧ l.getPolicy = some policy.toNat := by
  have hpolicy : policy.toNat < 2 ^ 3 := by cases policy <;> decide
  have hp : policy.toNat < 2 ^ kBitsForPayload w :=
    lt_of_lt_of_le hpolicy (Nat.pow_le_pow_right (by decide) (by simp only [kBitsForPayload]; omega))
  obtain ⟨l, hl, hkind, hpayload, hconst⟩ :=
    @kindPayload_spec _ .kUnallocated _ (by omega) hp
  refine ⟨l, ?_, hconst, hkind, ?_⟩
  · simp only [unallocatedLocation, encodeField, if_pos hpolicy, Nat.shiftLeft_zero,
      Option.bind_eq_bind, Option.bind_some, hl]
  · rw [getPolicy, if_pos hkind, hpayload, decodeField_eq, Nat.pow_zero, Nat.div_one,
      Nat.mod_eq_of_lt hpolicy]

/-- A constant location of a non-null, 4-byte-aligned pointer reads as a constant and gives the
pointer back. -/
theorem constantLocation_spec {constant : Nat} (hw : 2 ≤ w) (h0 : constant ≠ 0)
    (haligned : constant % 4 = 0) (hc : constant < 2 ^ w) :
    ∃ l : Location w, constantLocation constant = some l ∧ l.isConstant = true ∧
      l.getConstant = some constant := by
  have hor : Kind.kConstant.toNat ||| constant = 1 + constant :=
    Word.or_eq_add_of_lt (k := 1) (by decide) (by omega)
  have h4 : 4 ∣ 2 ^ w := (Nat.pow_dvd_pow 2 hw : 2 ^ 2 ∣ 2 ^ w)
  have hlt : 1 + constant < 2 ^ w := by
    obtain ⟨m, hm⟩ := h4
    omega
  have hvalue : (BitVec.ofNat w (Kind.kConstant.toNat ||| constant)).toNat = 1 + constant := by
    rw [hor, BitVec.toNat_ofNat, Nat.mod_eq_of_lt hlt]
  have hconst : (⟨BitVec.ofNat w (Kind.kConstant.toNat ||| constant)⟩ : Location w).isConstant =
      true := by
    rw [isConstant, hvalue, kLocationTagMask, show (0x3 : Nat) = 2 ^ 2 - 1 from rfl,
      Nat.and_two_pow_sub_one_eq_mod]
    simp only [Kind.toNat, beq_iff_eq]
    omega
  refine ⟨_, if_neg h0, hconst, ?_⟩
  rw [getConstant, if_pos hconst, hvalue, show kLocationTagMask + 1 = 2 ^ 2 from rfl,
    Align.roundDown_eq]
  congr 1
  omega

/-- **`QuickParameter` locations read as constants.**  `kQuickParameter = 5` has the tag
`kConstant` in its two low bits, so `IsConstant()` holds of every `QuickParameter(p)`; and the
word of `QuickParameter(p)` is the word of `ConstantLocation(c)` for the aligned pointer
`c = 4 + 16 p`, so `Equals` holds between locations of two constructors. -/
theorem location_quick_parameter_is_constant {w : Nat} (hw : 8 ≤ w) (p : Nat)
    (hp : p < 2 ^ kBitsForPayload w) :
    ∃ l : Location w, quickParameter p = some l ∧ l.getKind = Kind.kQuickParameter.toNat ∧
      l.isConstant = true ∧ constantLocation (4 + p * 16) = some l ∧
      l.getConstant = some (4 + p * 16) := by
  obtain ⟨l, hl, hkind, -, hconst⟩ := @kindPayload_spec _ .kQuickParameter _ (by
    simp only [kBitsForKind]; omega) hp
  have hpow : 2 ^ w = 2 ^ kBitsForPayload w * 16 := by
    rw [show (16 : Nat) = 2 ^ kBitsForKind from rfl, ← Nat.pow_add, kBitsForPayload,
      Nat.sub_add_cancel (by simp only [kBitsForKind]; omega)]
  obtain ⟨c, hc, -, hgetConstant⟩ := @constantLocation_spec w (4 + p * 16)
    (by omega) (by omega) (by omega) (by rw [hpow]; omega)
  have hsame : c = l := by
    rw [kindPayload_eq hp, Option.some.injEq] at hl
    rw [constantLocation, if_neg (by omega), Option.some.injEq] at hc
    rw [← hc, ← hl, Word.or_eq_add_of_lt (k := 1) (by decide) (by omega)]
    congr 2
    simp only [Kind.toNat, kBitsForKind]
    omega
  subst hsame
  exact ⟨c, hl, hkind, hconst, hc, hgetConstant⟩

theorem location_quick_parameter_is_constant_zero :
    (8 ≤ 64 ∧ 0 < 2 ^ kBitsForPayload 64) ∧
      ∃ l : Location 64, quickParameter 0 = some l ∧ l.getKind = Kind.kQuickParameter.toNat ∧
        l.isConstant = true ∧ constantLocation (4 + 0 * 16) = some l ∧
        l.getConstant = some (4 + 0 * 16) :=
  ⟨⟨by decide, by decide⟩, location_quick_parameter_is_constant (by decide) 0 (by decide)⟩

end Location

end Locations

end Art
