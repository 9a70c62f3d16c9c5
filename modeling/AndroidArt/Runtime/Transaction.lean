import Mathlib.Data.Multiset.AddSub
import AndroidArt.Lib.IeeeFloat
import AndroidArt.Lib.UndoLog
import AndroidArt.Lib.Word

/-!
# Transactions of the runtime

Model of `Transaction` of `runtime/transaction.cc`, which the compiler runs class initialisers in:
every write to the heap and to the intern table made while a transaction is active is logged, and
`Abort` undoes them.

* `Transaction.write` — one transactional write: `SetField32`, `SetField64` and `SetFieldObject`
  of `Object`, `SetWithoutChecks` of `PrimitiveArray<T>`, and `InsertStrong`, `InsertWeak` and
  `RemoveWeak` of `InternTable`, each with the `Record*` call it makes first.
* `recordWriteField`, `recordWriteArray` — `ObjectLog::Log*Value` and `ArrayLog::LogValue`, which
  keep the first value logged for a field or an element (`UndoLog.record`).
* `Transaction.abort` — `Abort`: `UndoObjectModifications`, `UndoArrayModifications` and
  `UndoInternStringTableModifications`, in that order.

`object_logs_` maps each object to the map of its logged fields, and `array_logs_` each array to
the map of its logged elements; the model keys one log by (object, offset) and one by
(array, index).  The maps of the source are ordered by address and offset; undoing writes each
key once, so the order is immaterial, and the model's logs keep the order of the first writes.

A field holds the bits of a 32- or 64-bit value, or the address of an object.  An element of a
primitive array holds the bits of a value of its component type.  The conversions between an
element of type `T` and the `uint64_t` the array log keeps are C's: `toUInt64` and `ofUInt64`.
An intern table holds strings, which it compares by their characters: the model keeps the
multiset of their contents.

The model is the debug build: a write that fails the `DCHECK`s of `RecordWriteArray` on the
array's class is `none`.  The null checks on the written object are left out.
-/

set_option autoImplicit false

namespace Art

/-- `Primitive::Type`, for the component type of a primitive array. -/
inductive PrimitiveType
  | boolean | byte | char | short | int | long | float | double
  deriving DecidableEq, Repr

namespace PrimitiveType

/-- `ComponentSize` in bits. -/
def width : PrimitiveType → Nat
  | boolean | byte => 8
  | char | short => 16
  | int | float => 32
  | long | double => 64

/-- `array->AsXArray()` for the `PrimitiveArray<T>` of element type `access`, as its `DCHECK`s
allow: `AsIntArray` also takes a float array, and `AsLongArray` a double array. -/
def accessibleAs : PrimitiveType → PrimitiveType → Bool
  | float, int | double, long => true
  | t, access => t == access

/-- An element of type `T` converted to the `uint64_t` parameter of `RecordWriteArray`: unsigned
types are widened, signed ones sign-extended modulo `2^64`, and floating types truncated, with no
result where C leaves the conversion undefined. -/
def toUInt64 : PrimitiveType → Nat → Option Nat
  | boolean, x | char, x => some x
  | byte, x => some (Word.toUnsigned 64 (Word.toSigned 8 x))
  | short, x => some (Word.toUnsigned 64 (Word.toSigned 16 x))
  | int, x => some (Word.toUnsigned 64 (Word.toSigned 32 x))
  | long, x => some (Word.toUnsigned 64 (Word.toSigned 64 x))
  | float, x => IeeeFloat.binary32.truncToUnsigned 64 x
  | double, x => IeeeFloat.binary64.truncToUnsigned 64 x

/-- `static_cast<T>(value)` of `UndoArrayWrite`, as the bits it stores: integers keep their low
bits, and floating types round the integer `value` to the nearest value of the format. -/
def ofUInt64 : PrimitiveType → Nat → Nat
  | float, v => IeeeFloat.binary32.ofNat v
  | double, v => IeeeFloat.binary64.ofNat v
  | t, v => Word.toUnsigned t.width v

end PrimitiveType

/-- `ObjectLog::FieldValueKind`. -/
inductive FieldValueKind
  | k32Bits | k64Bits | kReference
  deriving DecidableEq, Repr

/-- A field's value as the getter of its kind reads it: the low 32 or 64 bits, or the address. -/
def FieldValueKind.bits : FieldValueKind → Nat → Nat
  | .k32Bits, x => x % 2 ^ 32
  | .k64Bits, x => x % 2 ^ 64
  | .kReference, x => x

/-- `ObjectLog::FieldValue`: the logged value and its kind. -/
structure FieldValue where
  value : Nat
  kind : FieldValueKind
  deriving DecidableEq, Repr

/-- `InternStringLog::StringKind`. -/
inductive StringKind
  | kStrongString | kWeakString
  deriving DecidableEq, Repr

/-- `InternStringLog::StringOp`. -/
inductive StringOp
  | kInsert | kRemove
  deriving DecidableEq, Repr

/-- `InternStringLog`. -/
structure InternStringLog where
  str : String
  stringKind : StringKind
  stringOp : StringOp
  deriving DecidableEq, Repr

/-- `strong_interns_` and `weak_interns_` of `InternTable`; each table is the union of its pre-
and post-zygote sets. -/
structure InternTable where
  strongInterns : Multiset String
  weakInterns : Multiset String

namespace InternTable

/-- `Table::Remove`: a string equal to `s` is erased; with none, the source erases past the end
of its set. -/
def Table.remove (table : Multiset String) (s : String) : Option (Multiset String) :=
  if s ∈ table then some (table.erase s) else none

/-- `Table::Insert`. -/
def Table.insert (table : Multiset String) (s : String) : Multiset String := s ::ₘ table

end InternTable

/-- `InternStringLog::Undo`, through `RemoveStrongFromTransaction` and the others. -/
def InternStringLog.undo (table : InternTable) (log : InternStringLog) : Option InternTable :=
  match log.stringOp, log.stringKind with
  | .kInsert, .kStrongString =>
    (InternTable.Table.remove table.strongInterns log.str).map fun s => { table with strongInterns := s }
  | .kInsert, .kWeakString =>
    (InternTable.Table.remove table.weakInterns log.str).map fun w => { table with weakInterns := w }
  | .kRemove, .kStrongString =>
    some { table with strongInterns := InternTable.Table.insert table.strongInterns log.str }
  | .kRemove, .kWeakString =>
    some { table with weakInterns := InternTable.Table.insert table.weakInterns log.str }

/-- The heap as transactions read and write it. -/
structure Heap where
  /-- The value of each field, by object and offset. -/
  fields : Nat × Nat → Nat
  /-- The bits of each element of a primitive array, by array and index. -/
  elements : Nat × Nat → Nat
  componentType : Nat → PrimitiveType
  isArrayInstance : Nat → Bool
  internTable : InternTable

namespace Heap

/-- `GetField32`, `GetField64` and `GetFieldObject`. -/
def getField (h : Heap) (kind : FieldValueKind) (obj offset : Nat) : Nat :=
  kind.bits (h.fields (obj, offset))

def getField32 (h : Heap) := h.getField .k32Bits
def getField64 (h : Heap) := h.getField .k64Bits
def getFieldObject (h : Heap) := h.getField .kReference

/-- `Object::SetField32` and the others, with no transaction. -/
def setField (h : Heap) (obj offset value : Nat) : Heap :=
  { h with fields := Function.update h.fields (obj, offset) value }

end Heap

/-- A write made while the transaction is active. -/
inductive TransactionalWrite
  | setField32 (obj offset : Nat) (value : UInt32)
  | setField64 (obj offset : Nat) (value : UInt64)
  | setFieldObject (obj offset : Nat) (ref : Nat)
  /-- `PrimitiveArray<T>::SetWithoutChecks<true>` with `T` the type `access`. -/
  | setArrayElement (array index : Nat) (access : PrimitiveType) (value : Nat)
  | insertStrong (s : String)
  | insertWeak (s : String)
  | removeWeak (s : String)
  deriving DecidableEq, Repr

/-- The logs of a `Transaction`. -/
structure Transaction where
  objectLogs : List ((Nat × Nat) × FieldValue)
  arrayLogs : List ((Nat × Nat) × Nat)
  /-- `intern_string_logs_`, the most recent first. -/
  internStringLogs : List InternStringLog

namespace Transaction

def empty : Transaction := ⟨[], [], []⟩

/-- `RecordWriteField32`, `RecordWriteField64` and `RecordWriteFieldReference`, through
`ObjectLog::Log32BitsValue` and the others. -/
def recordWriteField (t : Transaction) (kind : FieldValueKind) (obj offset value : Nat) :
    Transaction :=
  { t with objectLogs := UndoLog.record t.objectLogs (obj, offset) ⟨value, kind⟩ }

def recordWriteField32 (t : Transaction) := t.recordWriteField .k32Bits
def recordWriteField64 (t : Transaction) := t.recordWriteField .k64Bits
def recordWriteFieldReference (t : Transaction) := t.recordWriteField .kReference

/-- `RecordWriteArray`, through `ArrayLog::LogValue`. -/
def recordWriteArray (t : Transaction) (array index value : Nat) : Transaction :=
  { t with arrayLogs := UndoLog.record t.arrayLogs (array, index) value }

/-- `LogInternedString`: `push_front`. -/
def logInternedString (t : Transaction) (log : InternStringLog) : Transaction :=
  { t with internStringLogs := log :: t.internStringLogs }

/-- One write, and what the transaction logs of it; none where the source fails a `DCHECK` or
has undefined behaviour. -/
def write (t : Transaction) (h : Heap) : TransactionalWrite → Option (Heap × Transaction)
  | .setField32 obj offset value =>
    some (h.setField obj offset value.toNat,
      t.recordWriteField32 obj offset (h.getField32 obj offset))
  | .setField64 obj offset value =>
    some (h.setField obj offset value.toNat,
      t.recordWriteField64 obj offset (h.getField64 obj offset))
  | .setFieldObject obj offset ref =>
    some (h.setField obj offset ref,
      t.recordWriteFieldReference obj offset (h.getFieldObject obj offset))
  | .setArrayElement array index access value =>
    if (h.componentType array).accessibleAs access then
      -- `GetWithoutChecks(i)` is converted to the `uint64_t` parameter of `RecordWriteArray`
      match access.toUInt64 (h.elements (array, index)) with
      | none => none
      | some old =>
        some ({ h with
            elements := Function.update h.elements (array, index) (value % 2 ^ access.width) },
          t.recordWriteArray array index old)
    else none
  | .insertStrong s =>
    some ({ h with internTable.strongInterns := InternTable.Table.insert h.internTable.strongInterns s },
      t.logInternedString ⟨s, .kStrongString, .kInsert⟩)
  | .insertWeak s =>
    some ({ h with internTable.weakInterns := InternTable.Table.insert h.internTable.weakInterns s },
      t.logInternedString ⟨s, .kWeakString, .kInsert⟩)
  | .removeWeak s =>
    (InternTable.Table.remove h.internTable.weakInterns s).map fun weak =>
      ({ h with internTable.weakInterns := weak }, t.logInternedString ⟨s, .kWeakString, .kRemove⟩)

/-- A sequence of writes, from the first. -/
def run : Heap × Transaction → List TransactionalWrite → Option (Heap × Transaction)
  | st, [] => some st
  | (h, t), w :: ws => (t.write h w).bind fun st => run st ws

/-- The offset of `Object::klass_`. -/
def classOffset : Nat := 0

/-- `Array::LengthOffset()`: after `klass_` and `monitor_`, in a build without read barriers. -/
def lengthOffset : Nat := 8

/-- `ObjectLog::UndoFieldWrite`: the `uint32_t`, `uint64_t` or address that the setter of the
logged kind stores. -/
def undoFieldWrite (fieldValue : FieldValue) : Nat :=
  match fieldValue.kind with
  | .k32Bits => fieldValue.value % 2 ^ 32
  | .k64Bits => fieldValue.value % 2 ^ 64
  | .kReference => fieldValue.value

/-- The fields `ObjectLog::Undo` skips: `Object::class`, and the length of an array. -/
def skipsUndo (h : Heap) (key : Nat × Nat) : Bool :=
  key.2 == classOffset || (h.isArrayInstance key.1 && key.2 == lengthOffset)

/-- `UndoObjectModifications`. -/
def undoObjectModifications (h : Heap) (objectLogs : List ((Nat × Nat) × FieldValue)) : Heap :=
  { h with
    fields := UndoLog.restore (fun _ fieldValue => undoFieldWrite fieldValue)
      (objectLogs.filter fun e => !skipsUndo h e.1) h.fields }

/-- `ArrayLog::UndoArrayWrite` on an array of component type `arrayType`. -/
def undoArrayWrite (arrayType : PrimitiveType) (value : Nat) : Nat := arrayType.ofUInt64 value

/-- `UndoArrayModifications`. -/
def undoArrayModifications (h : Heap) (arrayLogs : List ((Nat × Nat) × Nat)) : Heap :=
  { h with
    elements := UndoLog.restore (fun key value => undoArrayWrite (h.componentType key.1) value)
      arrayLogs h.elements }

/-- `UndoInternStringTableModifications`: the most recent operation first. -/
def undoInternStringTableModifications (table : InternTable) (logs : List InternStringLog) :
    Option InternTable :=
  logs.foldlM InternStringLog.undo table

/-- `Abort`. -/
def abort (t : Transaction) (h : Heap) : Option Heap :=
  let h := undoArrayModifications (undoObjectModifications h t.objectLogs) t.arrayLogs
  (undoInternStringTableModifications h.internTable t.internStringLogs).map fun table =>
    { h with internTable := table }

end Transaction

end Art
