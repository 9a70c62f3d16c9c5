import AndroidArt.Lib.Word
import Mathlib.Tactic.IntervalCases

/-!
# The lock word of an object

Model of `runtime/lock_word.h` and `lock_word-inl.h`.  The lock word is the `uint32_t`
`mirror::Object::monitor_`; its top two bits give the state:

* thin or unlocked (`00`): a 16-bit owner thread id in the low bits and a 14-bit recursion count
  above it, the all-zero word being unlocked;
* fat (`01`): the id of a `Monitor`;
* hash (`10`): an identity hash code;
* forwarding address (`11`).

`fromThinLockId`, `fromHashCode` and `fromMonitorId` build words with the source's shifts and
`|`, in `uint32_t`; `getState`, `thinLockOwner`, `thinLockCount`, `fatLockMonitor` and
`getHashCode` read them back.  The round-trip lemmas (`getState_fromThinLockId` and the
others) say what a constructor's fields must fit in for the reading to give them back.

`LockShape` names the words the monitor protocol builds by what they hold; for a `Valid` shape
its word reads back as the shape (`LockShape.getState_toLockWord` and the lemmas after it).

The `DCHECK_EQ` of `GetState` holds of every word, since a two-bit state that is none of the other
three is the fat one.  The `CHECK_LE`s of `FromThinLockId` and `FromHashCode`, which both builds
run, are not modelled: the round-trip lemmas assume what they check.
-/

set_option autoImplicit false

namespace Art

def kThinLockOwnerShift : Nat := 0
def kThinLockOwnerMask : Nat := 2 ^ 16 - 1
def kThinLockCountShift : Nat := 16
def kThinLockCountMask : Nat := 2 ^ 14 - 1
def kThinLockMaxCount : Nat := kThinLockCountMask
def kStateShift : Nat := 30
def kStateMask : Nat := 3
def kStateThinOrUnlocked : Nat := 0
def kStateFat : Nat := 1
def kStateHash : Nat := 2
def kStateForwardingAddress : Nat := 3
def kHashShift : Nat := 0
def kHashMask : Nat := 2 ^ 30 - 1

/-- `LockWord::LockState`. -/
inductive LockState where
  | unlocked
  | thinLocked
  | fatLocked
  | hashCode
  | forwardingAddress
  deriving DecidableEq, Repr

/-- The `uint32_t` lock word. -/
structure LockWord where
  value : Nat
  value_lt : value < 2 ^ 32
  deriving DecidableEq

namespace LockWord

/-- The word holding `v` as a `uint32_t`. -/
def ofValue (v : Nat) : LockWord := ⟨v % 2 ^ 32, Nat.mod_lt _ (Nat.two_pow_pos 32)⟩

/-- `LockWord()`: no owner. -/
def unlockedWord : LockWord := ⟨0, Nat.two_pow_pos 32⟩

/-- `FromThinLockId(thread_id, count)`. -/
def fromThinLockId (threadId count : Nat) : LockWord :=
  ofValue ((threadId <<< kThinLockOwnerShift) ||| (count <<< kThinLockCountShift) |||
    (kStateThinOrUnlocked <<< kStateShift))

/-- `FromHashCode(hash_code)`. -/
def fromHashCode (hashCode : Nat) : LockWord :=
  ofValue ((hashCode <<< kHashShift) ||| (kStateHash <<< kStateShift))

/-- `LockWord(Monitor*)`: the monitor's id with the fat state. -/
def fromMonitorId (monitorId : Nat) : LockWord :=
  ofValue (monitorId ||| (kStateFat <<< kStateShift))

/-- `GetState()`. -/
def getState (lw : LockWord) : LockState :=
  if lw.value = 0 then .unlocked
  else
    let internalState := (lw.value >>> kStateShift) &&& kStateMask
    if internalState = kStateThinOrUnlocked then .thinLocked
    else if internalState = kStateHash then .hashCode
    else if internalState = kStateForwardingAddress then .forwardingAddress
    else .fatLocked

/-- `ThinLockOwner()`. -/
def thinLockOwner (lw : LockWord) : Nat := (lw.value >>> kThinLockOwnerShift) &&& kThinLockOwnerMask

/-- `ThinLockCount()`. -/
def thinLockCount (lw : LockWord) : Nat := (lw.value >>> kThinLockCountShift) &&& kThinLockCountMask

/-- The monitor id of `FatLockMonitor()`: the word without its state bits. -/
def fatLockMonitor (lw : LockWord) : Nat := lw.value &&& (2 ^ kStateShift - 1)

/-- `GetHashCode()`. -/
def getHashCode (lw : LockWord) : Nat := (lw.value >>> kHashShift) &&& kHashMask

/-! ## Reading a word back -/

/-- The state bits are the top two bits of the word. -/
theorem stateBits_eq (lw : LockWord) :
    (lw.value >>> kStateShift) &&& kStateMask = lw.value / 2 ^ 30 := by
  have := lw.value_lt
  rw [kStateShift, kStateMask, Nat.shiftRight_eq_div_pow, show (3 : Nat) = 2 ^ 2 - 1 from rfl,
    Nat.and_two_pow_sub_one_eq_mod]
  omega

/-- `GetState()` of a nonzero word is given by its top two bits. -/
theorem getState_of_ne_zero {lw : LockWord} (h : lw.value ≠ 0) :
    lw.getState = match lw.value / 2 ^ 30 with
      | 0 => .thinLocked
      | 2 => .hashCode
      | 3 => .forwardingAddress
      | _ => .fatLocked := by
  have hlt : lw.value / 2 ^ 30 < 4 := by have := lw.value_lt; omega
  simp only [getState, h, if_false, stateBits_eq, kStateThinOrUnlocked, kStateHash,
    kStateForwardingAddress]
  interval_cases lw.value / 2 ^ 30 <;> rfl

/-- A thin word is `thread_id + count * 2^16` when both fit their fields. -/
theorem fromThinLockId_value {threadId count : Nat} (ht : threadId < 2 ^ 16)
    (hc : count ≤ kThinLockMaxCount) :
    (fromThinLockId threadId count).value = threadId + count * 2 ^ 16 := by
  unfold kThinLockMaxCount kThinLockCountMask at hc
  simp only [fromThinLockId, ofValue, kThinLockOwnerShift, kThinLockCountShift,
    kStateThinOrUnlocked, Nat.shiftLeft_zero, Nat.zero_shiftLeft, Nat.or_zero]
  rw [Word.or_shiftLeft_eq_add ht, Nat.mod_eq_of_lt (by omega)]

theorem getState_fromThinLockId {threadId count : Nat} (ht : threadId < 2 ^ 16)
    (hc : count ≤ kThinLockMaxCount) (hne : threadId ≠ 0 ∨ count ≠ 0) :
    (fromThinLockId threadId count).getState = .thinLocked := by
  have hv := fromThinLockId_value ht hc
  unfold kThinLockMaxCount kThinLockCountMask at hc
  rw [getState_of_ne_zero (by omega), show (fromThinLockId threadId count).value / 2 ^ 30 = 0 by
    omega]
  rfl

theorem thinLockOwner_fromThinLockId {threadId count : Nat} (ht : threadId < 2 ^ 16)
    (hc : count ≤ kThinLockMaxCount) : (fromThinLockId threadId count).thinLockOwner = threadId := by
  have hv := fromThinLockId_value ht hc
  simp only [thinLockOwner, kThinLockOwnerShift, Nat.shiftRight_zero, kThinLockOwnerMask,
    Nat.and_two_pow_sub_one_eq_mod, hv]
  omega

theorem thinLockCount_fromThinLockId {threadId count : Nat} (ht : threadId < 2 ^ 16)
    (hc : count ≤ kThinLockMaxCount) : (fromThinLockId threadId count).thinLockCount = count := by
  have hv := fromThinLockId_value ht hc
  unfold kThinLockMaxCount kThinLockCountMask at hc
  simp only [thinLockCount, kThinLockCountShift, kThinLockCountMask, Nat.and_two_pow_sub_one_eq_mod,
    Nat.shiftRight_eq_div_pow, hv]
  omega

/-- The all-zero thin word is the unlocked word. -/
theorem fromThinLockId_zero : fromThinLockId 0 0 = unlockedWord := rfl

@[simp] theorem getState_unlockedWord : unlockedWord.getState = .unlocked := rfl

/-- A hash word is `hash_code + 2^31` when the hash fits in 30 bits. -/
theorem fromHashCode_value {hashCode : Nat} (hh : hashCode ≤ kHashMask) :
    (fromHashCode hashCode).value = hashCode + 2 ^ 31 := by
  unfold kHashMask at hh
  simp only [fromHashCode, ofValue, kHashShift, kStateHash, kStateShift, Nat.shiftLeft_zero]
  rw [Word.or_shiftLeft_eq_add (by omega), Nat.mod_eq_of_lt (by omega)]
  omega

theorem getState_fromHashCode {hashCode : Nat} (hh : hashCode ≤ kHashMask) :
    (fromHashCode hashCode).getState = .hashCode := by
  have hv := fromHashCode_value hh
  unfold kHashMask at hh
  rw [getState_of_ne_zero (by omega), show (fromHashCode hashCode).value / 2 ^ 30 = 2 by omega]
  rfl

theorem getHashCode_fromHashCode {hashCode : Nat} (hh : hashCode ≤ kHashMask) :
    (fromHashCode hashCode).getHashCode = hashCode := by
  have hv := fromHashCode_value hh
  unfold kHashMask at hh
  simp only [getHashCode, kHashShift, Nat.shiftRight_zero, kHashMask,
    Nat.and_two_pow_sub_one_eq_mod, hv]
  omega

/-- A fat word is `monitor_id + 2^30` when the id fits in 30 bits. -/
theorem fromMonitorId_value {monitorId : Nat} (hm : monitorId < 2 ^ 30) :
    (fromMonitorId monitorId).value = monitorId + 2 ^ 30 := by
  simp only [fromMonitorId, ofValue, kStateFat, kStateShift]
  rw [Word.or_shiftLeft_eq_add hm, Nat.mod_eq_of_lt (by omega)]
  omega

theorem getState_fromMonitorId {monitorId : Nat} (hm : monitorId < 2 ^ 30) :
    (fromMonitorId monitorId).getState = .fatLocked := by
  have hv := fromMonitorId_value hm
  rw [getState_of_ne_zero (by omega), show (fromMonitorId monitorId).value / 2 ^ 30 = 1 by omega]
  rfl

theorem fatLockMonitor_fromMonitorId {monitorId : Nat} (hm : monitorId < 2 ^ 30) :
    (fromMonitorId monitorId).fatLockMonitor = monitorId := by
  have hv := fromMonitorId_value hm
  simp only [fatLockMonitor, kStateShift, Nat.and_two_pow_sub_one_eq_mod, hv]
  omega

end LockWord

/-! ## The words the protocol builds -/

/-- A lock word by what it holds. -/
inductive LockShape where
  | unlocked
  | thin (owner count : Nat)
  | fat (monitorId : Nat)
  | hash (hashCode : Nat)
  deriving DecidableEq, Repr

namespace LockShape

open LockWord

/-- The word of a shape. -/
def toLockWord : LockShape → LockWord
  | unlocked => unlockedWord
  | thin owner count => fromThinLockId owner count
  | fat monitorId => fromMonitorId monitorId
  | hash hashCode => fromHashCode hashCode

/-- The fields fit: a thin owner is a thread id in `[1, 0xFFFF]` and its count at most
`kThinLockMaxCount`, a monitor id has 30 bits, a hash code is a nonzero 30-bit value. -/
def Valid : LockShape → Prop
  | unlocked => True
  | thin owner count => 1 ≤ owner ∧ owner < 2 ^ 16 ∧ count ≤ kThinLockMaxCount
  | fat monitorId => monitorId < 2 ^ 30
  | hash hashCode => 1 ≤ hashCode ∧ hashCode ≤ kHashMask

/-- The state of a shape. -/
def state : LockShape → LockState
  | unlocked => .unlocked
  | thin .. => .thinLocked
  | fat _ => .fatLocked
  | hash _ => .hashCode

theorem getState_toLockWord {v : LockShape} (hv : v.Valid) : v.toLockWord.getState = v.state := by
  cases v with
  | unlocked => rfl
  | thin owner count => exact getState_fromThinLockId hv.2.1 hv.2.2 (Or.inl (Nat.one_le_iff_ne_zero.mp hv.1))
  | fat monitorId => exact getState_fromMonitorId hv
  | hash hashCode => exact getState_fromHashCode hv.2

end LockShape

end Art
