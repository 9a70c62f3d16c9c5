import AndroidArt.Dex.Utf

/-!
# The dex file verifier: the items of the data sections and the intra-section pass

Model of the item checks of `DexFileVerifier` (`runtime/dex_file_verifier.cc`) that
`AndroidArt.Dex.FileVerifier` and `AndroidArt.Dex.Utf` leave: `CheckEncodedValue`,
`CheckEncodedArray` and `CheckEncodedAnnotation`, `CheckIntraClassDataItem` with
`CheckClassDataItemField`, `CheckClassDataItemMethod` and the `ClassDataItemIterator` of
`runtime/dex_file.h`, `CheckIntraDebugInfoItem`, `CheckIntraAnnotationItem` and
`CheckIntraAnnotationsDirectoryItem`; and of the pass that runs every item check over the sections
of the map: `CheckIntraSectionIterate`, `CheckIntraIdSection`, `CheckIntraDataSection` and
`CheckIntraSection`.

Three loops of the source have no bound of their own, and the model gives them one: encoded
values nest no deeper than the file is long, since each level's header byte passes
`CheckListSize` after the level above it; the class data loops
and the opcode loop of a debug info item take one member or opcode a round, at most once for each
32-bit position.  Past its bound a loop throws `pastBound`.

`ReadUnsignedLittleEndian` checks its range with `CheckListSize`, which records a message, but
it returns `0` on a range past the file and the check goes on: the release build drops the message,
or overwrites it with the next one.  The iterator's `CHECK(!HasNext())` in `EndDataPointer` holds
after the four loops of `CheckIntraClassDataItem` (`checkClassDataMembers_endDataPointer` in
`AndroidArt.Dex.SectionSpec`); its `DCHECK`s are left out, as in the release build.
-/

set_option autoImplicit false

namespace Art

/-! ## Access flags of `runtime/modifiers.h` -/

def kAccPrivate : Nat := 0x0002
def kAccStatic : Nat := 0x0008
def kAccSynchronized : Nat := 0x0020
def kAccNative : Nat := 0x0100
def kAccAbstract : Nat := 0x0400
def kAccJavaFlagsMask : Nat := 0xffff
def kAccConstructor : Nat := 0x00010000
def kAccDeclaredSynchronized : Nat := 0x00020000

/-- `~x` of a `uint32_t`. -/
def complement32 (x : Nat) : Nat := 0xFFFFFFFF ^^^ x

namespace DexFileVerifier

/-! ## Loops and messages -/

/-- `while (count--) body`. -/
def repeatM (body : VerifyM Unit) : Nat → VerifyM Unit
  | 0 => pure ()
  | count + 1 => do
    body
    repeatM body count

/-- `ptr_ += n` over bytes the check does not read. -/
def skip (n : Nat) : VerifyM Unit := modify fun s => { s with ptr := s.ptr + n }

/-- `DecodeUnsignedLeb128(&p)` for a pointer `p` other than `ptr_`: the value and `p` past it. -/
def decodeUnsignedLeb128At (v : DexFileVerifier) (p : Nat) : VerifyM (Nat × Nat) := do
  let r := Leb128.decodeUnsignedLeb128 v.bytes p
  noteRead p (r.2 - p)
  return r

/-! ## Encoded values -/

def kDexAnnotationByte : Nat := 0x00
def kDexAnnotationShort : Nat := 0x02
def kDexAnnotationChar : Nat := 0x03
def kDexAnnotationInt : Nat := 0x04
def kDexAnnotationLong : Nat := 0x06
def kDexAnnotationFloat : Nat := 0x10
def kDexAnnotationDouble : Nat := 0x11
def kDexAnnotationString : Nat := 0x17
def kDexAnnotationType : Nat := 0x18
def kDexAnnotationField : Nat := 0x19
def kDexAnnotationMethod : Nat := 0x1a
def kDexAnnotationEnum : Nat := 0x1b
def kDexAnnotationArray : Nat := 0x1c
def kDexAnnotationAnnotation : Nat := 0x1d
def kDexAnnotationNull : Nat := 0x1e
def kDexAnnotationBoolean : Nat := 0x1f
def kDexAnnotationValueTypeMask : Nat := 0x1f
def kDexAnnotationValueArgShift : Nat := 5

/-- `ReadUnsignedLittleEndian(size)`: `size` bytes at `ptr_`, little-endian, or `0` with `ptr_`
left where it is when its `CheckListSize` fails. -/
def readUnsignedLittleEndian (v : DexFileVerifier) (size : Nat) : VerifyM Nat := do
  let ptr := (← get).ptr
  let fits ← tryCatch (do v.checkListSize ptr size 1 "encoded_value"; pure true) fun _ => pure false
  if fits then
    let result ← v.readLE ptr size
    modify fun s => { s with ptr := ptr + size }
    return result
  else return 0

/-- The index of a string, type, field, enum or method value: `value_arg + 1` bytes, at most
four, and an index below `limit`. -/
def checkEncodedIndex (v : DexFileVerifier) (valueArg limit : Nat) (sizeMsg label : String) :
    VerifyM Unit := do
  if valueArg > 3 then fail (sizeMsg ++ hex valueArg)
  let idx ← v.readUnsignedLittleEndian (valueArg + 1)
  checkIndex idx limit label

/-- The failure of `check`, with `failure_reason_` behind `pre`. -/
def prefixFailure (pre : String) (check : VerifyM Unit) : VerifyM Unit :=
  tryCatch check fun
    | .failure msg => fail (pre ++ msg)
    | e => throw e

/-- `CheckEncodedArray()`, with `checkValue` for its `CheckEncodedValue()`. -/
def checkEncodedArrayWith (v : DexFileVerifier) (checkValue : VerifyM Unit) : VerifyM Unit := do
  let size ← v.decodeUnsignedLeb128
  repeatM (prefixFailure "Bad encoded_array value: " checkValue) size

/-- The loop of `CheckEncodedAnnotation` over the `count` elements left; `i` and `last_idx` are
its locals. -/
def checkAnnotationElements (v : DexFileVerifier) (h : Header) (checkValue : VerifyM Unit) :
    Nat → Nat → Nat → VerifyM Unit
  | 0, _, _ => pure ()
  | count + 1, i, lastIdx => do
    let idx ← v.decodeUnsignedLeb128
    checkIndex idx h.stringIdsSize "annotation_element name_idx"
    if lastIdx ≥ idx ∧ i ≠ 0 then
      fail ("Out-of-order annotation_element name_idx: " ++ hex lastIdx ++ " then " ++ hex idx)
    checkValue
    v.checkAnnotationElements h checkValue count (i + 1) idx

/-- `CheckEncodedAnnotation()`, with `checkValue` for its `CheckEncodedValue()`. -/
def checkEncodedAnnotationWith (v : DexFileVerifier) (h : Header) (checkValue : VerifyM Unit) :
    VerifyM Unit := do
  let idx ← v.decodeUnsignedLeb128
  checkIndex idx h.typeIdsSize "encoded_annotation type_idx"
  let size ← v.decodeUnsignedLeb128
  v.checkAnnotationElements h checkValue size 0 0

/-- `CheckEncodedValue()`, with arrays and annotations nested at most `fuel` deep. -/
def checkEncodedValue (v : DexFileVerifier) (h : Header) (fuel : Nat) : VerifyM Unit := do
  v.checkListSize (← get).ptr 1 1 "encoded_value header"
  let headerByte ← v.readByte
  let valueType := headerByte &&& kDexAnnotationValueTypeMask
  let valueArg := headerByte >>> kDexAnnotationValueArgShift
  if valueType = kDexAnnotationByte then
    if valueArg ≠ 0 then fail ("Bad encoded_value byte size " ++ hex valueArg)
    skip 1
  else if valueType = kDexAnnotationShort ∨ valueType = kDexAnnotationChar then
    if valueArg > 1 then fail ("Bad encoded_value char/short size " ++ hex valueArg)
    skip (valueArg + 1)
  else if valueType = kDexAnnotationInt ∨ valueType = kDexAnnotationFloat then
    if valueArg > 3 then fail ("Bad encoded_value int/float size " ++ hex valueArg)
    skip (valueArg + 1)
  else if valueType = kDexAnnotationLong ∨ valueType = kDexAnnotationDouble then
    skip (valueArg + 1)
  else if valueType = kDexAnnotationString then
    v.checkEncodedIndex valueArg h.stringIdsSize "Bad encoded_value string size "
      "encoded_value string"
  else if valueType = kDexAnnotationType then
    v.checkEncodedIndex valueArg h.typeIdsSize "Bad encoded_value type size " "encoded_value type"
  else if valueType = kDexAnnotationField ∨ valueType = kDexAnnotationEnum then
    v.checkEncodedIndex valueArg h.fieldIdsSize "Bad encoded_value field/enum size "
      "encoded_value field"
  else if valueType = kDexAnnotationMethod then
    v.checkEncodedIndex valueArg h.methodIdsSize "Bad encoded_value method size "
      "encoded_value method"
  else if valueType = kDexAnnotationArray then
    if valueArg ≠ 0 then fail ("Bad encoded_value array value_arg " ++ hex valueArg)
    match fuel with
    | 0 => throw (.pastBound "encoded values nested deeper than the file is long")
    | fuel + 1 => v.checkEncodedArrayWith (v.checkEncodedValue h fuel)
  else if valueType = kDexAnnotationAnnotation then
    if valueArg ≠ 0 then fail ("Bad encoded_value annotation value_arg " ++ hex valueArg)
    match fuel with
    | 0 => throw (.pastBound "encoded values nested deeper than the file is long")
    | fuel + 1 => v.checkEncodedAnnotationWith h (v.checkEncodedValue h fuel)
  else if valueType = kDexAnnotationNull then
    if valueArg ≠ 0 then fail ("Bad encoded_value null value_arg " ++ hex valueArg)
  else if valueType = kDexAnnotationBoolean then
    if valueArg > 1 then fail ("Bad encoded_value boolean size " ++ hex valueArg)
  else fail ("Bogus encoded_value value_type " ++ hex valueType)

/-- `CheckEncodedArray()` of an encoded array item, its values nested at most as deep as the file
is long. -/
def checkEncodedArray (v : DexFileVerifier) (h : Header) : VerifyM Unit :=
  v.checkEncodedArrayWith (v.checkEncodedValue h v.size)

/-- `CheckEncodedAnnotation()` of an annotation item. -/
def checkEncodedAnnotation (v : DexFileVerifier) (h : Header) : VerifyM Unit :=
  v.checkEncodedAnnotationWith h (v.checkEncodedValue h v.size)

/-! ## Class data items -/

/-- `ClassDataItemIterator`: the header it decoded, `pos_`, `ptr_pos_`, `last_idx_`, and the
field and the method it read last. -/
structure ClassDataIterator where
  staticFieldsSize : Nat
  instanceFieldsSize : Nat
  directMethodsSize : Nat
  virtualMethodsSize : Nat
  pos : Nat
  ptrPos : Nat
  lastIdx : Nat
  fieldIdxDelta : Nat
  fieldAccessFlags : Nat
  methodIdxDelta : Nat
  methodAccessFlags : Nat
  methodCodeOff : Nat

namespace ClassDataIterator

variable (it : ClassDataIterator)

/-- The end positions are `uint32_t` sums. -/
def endOfStaticFieldsPos : Nat := it.staticFieldsSize
def endOfInstanceFieldsPos : Nat := (it.endOfStaticFieldsPos + it.instanceFieldsSize) % 2 ^ 32
def endOfDirectMethodsPos : Nat := (it.endOfInstanceFieldsPos + it.directMethodsSize) % 2 ^ 32
def endOfVirtualMethodsPos : Nat := (it.endOfDirectMethodsPos + it.virtualMethodsSize) % 2 ^ 32

def hasNextStaticField : Bool := it.pos < it.endOfStaticFieldsPos
def hasNextInstanceField : Bool :=
  it.pos ≥ it.endOfStaticFieldsPos && it.pos < it.endOfInstanceFieldsPos
def hasNextDirectMethod : Bool :=
  it.pos ≥ it.endOfInstanceFieldsPos && it.pos < it.endOfDirectMethodsPos
def hasNextVirtualMethod : Bool :=
  it.pos ≥ it.endOfDirectMethodsPos && it.pos < it.endOfVirtualMethodsPos
def hasNext : Bool := it.pos < it.endOfVirtualMethodsPos

/-- `GetMemberIndex()`. -/
def getMemberIndex : Nat :=
  if it.pos < it.endOfInstanceFieldsPos then (it.lastIdx + it.fieldIdxDelta) % 2 ^ 32
  else (it.lastIdx + it.methodIdxDelta) % 2 ^ 32

/-- `GetRawMemberAccessFlags()`. -/
def getRawMemberAccessFlags : Nat :=
  if it.pos < it.endOfInstanceFieldsPos then it.fieldAccessFlags else it.methodAccessFlags

end ClassDataIterator

open ClassDataIterator

/-- `ReadClassDataField()`. -/
def readClassDataField (v : DexFileVerifier) (it : ClassDataIterator) : VerifyM ClassDataIterator := do
  let (fieldIdxDelta, p) ← v.decodeUnsignedLeb128At it.ptrPos
  let (accessFlags, p) ← v.decodeUnsignedLeb128At p
  return { it with fieldIdxDelta := fieldIdxDelta, fieldAccessFlags := accessFlags, ptrPos := p }

/-- `ReadClassDataMethod()`. -/
def readClassDataMethod (v : DexFileVerifier) (it : ClassDataIterator) : VerifyM ClassDataIterator := do
  let (methodIdxDelta, p) ← v.decodeUnsignedLeb128At it.ptrPos
  let (accessFlags, p) ← v.decodeUnsignedLeb128At p
  let (codeOff, p) ← v.decodeUnsignedLeb128At p
  return { it with
    methodIdxDelta := methodIdxDelta, methodAccessFlags := accessFlags, methodCodeOff := codeOff
    ptrPos := p }

/-- `ClassDataItemIterator(dex_file, raw_class_data_item)` at offset `p`. -/
def classDataIterator (v : DexFileVerifier) (p : Nat) : VerifyM ClassDataIterator := do
  let (staticFieldsSize, p) ← v.decodeUnsignedLeb128At p
  let (instanceFieldsSize, p) ← v.decodeUnsignedLeb128At p
  let (directMethodsSize, p) ← v.decodeUnsignedLeb128At p
  let (virtualMethodsSize, p) ← v.decodeUnsignedLeb128At p
  let it : ClassDataIterator := ⟨staticFieldsSize, instanceFieldsSize, directMethodsSize,
    virtualMethodsSize, 0, p, 0, 0, 0, 0, 0, 0⟩
  if it.endOfInstanceFieldsPos > 0 then v.readClassDataField it
  else if it.endOfVirtualMethodsPos > 0 then v.readClassDataMethod it
  else return it

/-- `Next()`: `last_idx_` is the index of the member at the new position, or `0` at the first
member of a kind. -/
def next (v : DexFileVerifier) (it : ClassDataIterator) : VerifyM ClassDataIterator := do
  let it := { it with pos := (it.pos + 1) % 2 ^ 32 }
  if it.pos < it.endOfStaticFieldsPos then
    v.readClassDataField { it with lastIdx := it.getMemberIndex }
  else if it.pos = it.endOfStaticFieldsPos ∧ it.instanceFieldsSize > 0 then
    v.readClassDataField { it with lastIdx := 0 }
  else if it.pos < it.endOfInstanceFieldsPos then
    v.readClassDataField { it with lastIdx := it.getMemberIndex }
  else if it.pos = it.endOfInstanceFieldsPos ∧ it.directMethodsSize > 0 then
    v.readClassDataMethod { it with lastIdx := 0 }
  else if it.pos < it.endOfDirectMethodsPos then
    v.readClassDataMethod { it with lastIdx := it.getMemberIndex }
  else if it.pos = it.endOfDirectMethodsPos ∧ it.virtualMethodsSize > 0 then
    v.readClassDataMethod { it with lastIdx := 0 }
  else if it.pos < it.endOfVirtualMethodsPos then
    v.readClassDataMethod { it with lastIdx := it.getMemberIndex }
  else return it

/-- `for (; cond(it); it.Next()) body(it)`, for at most `fuel` rounds. -/
def classDataLoop (v : DexFileVerifier) (cond : ClassDataIterator → Bool)
    (body : ClassDataIterator → VerifyM Unit) : Nat → ClassDataIterator → VerifyM ClassDataIterator
  | 0, it =>
    if cond it then throw (.pastBound "a class data loop past the 32-bit positions") else pure it
  | fuel + 1, it =>
    if cond it then do
      body it
      v.classDataLoop cond body fuel (← v.next it)
    else pure it

/-- `CheckClassDataItemField(idx, access_flags, expect_static)`. -/
def checkClassDataItemField (h : Header) (idx accessFlags : Nat) (expectStatic : Bool) :
    VerifyM Unit := do
  checkIndex idx h.fieldIdsSize "class_data_item field_idx"
  let isStatic := accessFlags &&& kAccStatic ≠ 0
  if isStatic ≠ expectStatic then fail "Static/instance field not in expected list"
  if accessFlags &&& complement32 kAccJavaFlagsMask ≠ 0 then
    fail ("Bad class_data_item field access_flags " ++ hex accessFlags)

/-- `CheckClassDataItemMethod(idx, access_flags, code_offset, expect_direct)`. -/
def checkClassDataItemMethod (h : Header) (idx accessFlags codeOffset : Nat) (expectDirect : Bool) :
    VerifyM Unit := do
  checkIndex idx h.methodIdsSize "class_data_item method_idx"
  let isDirect := accessFlags &&& (kAccStatic ||| kAccPrivate ||| kAccConstructor) ≠ 0
  let expectCode := accessFlags &&& (kAccNative ||| kAccAbstract) = 0
  let isSynchronized := accessFlags &&& kAccSynchronized ≠ 0
  let allowSynchronized := accessFlags &&& kAccNative ≠ 0
  if isDirect ≠ expectDirect then fail "Direct/virtual method not in expected list"
  let accessMethodMask := kAccJavaFlagsMask ||| kAccConstructor ||| kAccDeclaredSynchronized
  if accessFlags &&& complement32 accessMethodMask ≠ 0 ∨ (isSynchronized ∧ ¬allowSynchronized) then
    fail ("Bad class_data_item method access_flags " ++ hex accessFlags)
  if expectCode ∧ codeOffset = 0 then
    fail ("Unexpected zero value for class_data_item method code_off with access flags " ++
      hex accessFlags)
  else if ¬expectCode ∧ codeOffset ≠ 0 then
    fail ("Unexpected non-zero value " ++ hex codeOffset ++
      " for class_data_item method code_off with access flags " ++ hex accessFlags)

/-- The four loops of `CheckIntraClassDataItem`, from the iterator at the first member. -/
def checkClassDataMembers (v : DexFileVerifier) (h : Header) (it : ClassDataIterator) :
    VerifyM ClassDataIterator := do
  let it ← v.classDataLoop hasNextStaticField
    (fun it => checkClassDataItemField h it.getMemberIndex it.getRawMemberAccessFlags true) (2 ^ 32) it
  let it ← v.classDataLoop hasNextInstanceField
    (fun it => checkClassDataItemField h it.getMemberIndex it.getRawMemberAccessFlags false) (2 ^ 32) it
  let it ← v.classDataLoop hasNextDirectMethod
    (fun it => checkClassDataItemMethod h it.getMemberIndex it.getRawMemberAccessFlags
      it.methodCodeOff true) (2 ^ 32) it
  v.classDataLoop hasNextVirtualMethod
    (fun it => checkClassDataItemMethod h it.getMemberIndex it.getRawMemberAccessFlags
      it.methodCodeOff false) (2 ^ 32) it

/-- `EndDataPointer()`, with its `CHECK(!HasNext())`. -/
def endDataPointer (it : ClassDataIterator) : VerifyM Nat :=
  if it.hasNext then throw (.abort "CHECK(!HasNext())") else pure it.ptrPos

/-- `CheckIntraClassDataItem()`. -/
def checkIntraClassDataItem (v : DexFileVerifier) (h : Header) : VerifyM Unit := do
  let it ← v.classDataIterator (← get).ptr
  let it ← v.checkClassDataMembers h it
  let p ← endDataPointer it
  modify fun s => { s with ptr := p }

/-! ## Debug info items -/

def dbgEndSequence : Nat := 0x00
def dbgAdvancePc : Nat := 0x01
def dbgAdvanceLine : Nat := 0x02
def dbgStartLocal : Nat := 0x03
def dbgStartLocalExtended : Nat := 0x04
def dbgEndLocal : Nat := 0x05
def dbgRestartLocal : Nat := 0x06
def dbgSetFile : Nat := 0x09

/-- A ULEB128 index plus one, `0` for none: the index is checked against `limit` unless it is
none. -/
def checkIndexPlusOne (v : DexFileVerifier) (limit : Nat) (label : String) : VerifyM Unit := do
  let idx ← v.decodeUnsignedLeb128
  if idx ≠ 0 then checkIndex (idx - 1) limit label

/-- The register of a local-variable opcode: below `65536`. -/
def checkRegNum (v : DexFileVerifier) (opcode : Nat) : VerifyM Unit := do
  let regNum ← v.decodeUnsignedLeb128
  if regNum ≥ 65536 then fail ("Bad reg_num for opcode " ++ hex opcode)

/-- The opcode loop `while (true)` of `CheckIntraDebugInfoItem`, for at most `fuel` opcodes.  The
indices of local names, types and signatures are all checked against `string_ids_size_`. -/
def checkDebugInfoOpcodes (v : DexFileVerifier) (h : Header) : Nat → VerifyM Unit
  | 0 => throw (.pastBound "a debug info item past the 32-bit address space")
  | fuel + 1 => do
    let opcode ← v.readByte
    if opcode = dbgEndSequence then pure ()
    else
      if opcode = dbgAdvancePc then discard v.decodeUnsignedLeb128
      else if opcode = dbgAdvanceLine then discard v.decodeSignedLeb128
      else if opcode = dbgStartLocal then
        v.checkRegNum opcode
        v.checkIndexPlusOne h.stringIdsSize "DBG_START_LOCAL name_idx"
        v.checkIndexPlusOne h.stringIdsSize "DBG_START_LOCAL type_idx"
      else if opcode = dbgEndLocal ∨ opcode = dbgRestartLocal then v.checkRegNum opcode
      else if opcode = dbgStartLocalExtended then
        v.checkRegNum opcode
        v.checkIndexPlusOne h.stringIdsSize "DBG_START_LOCAL_EXTENDED name_idx"
        v.checkIndexPlusOne h.stringIdsSize "DBG_START_LOCAL_EXTENDED type_idx"
        v.checkIndexPlusOne h.stringIdsSize "DBG_START_LOCAL_EXTENDED sig_idx"
      else if opcode = dbgSetFile then
        v.checkIndexPlusOne h.stringIdsSize "DBG_SET_FILE name_idx"
      v.checkDebugInfoOpcodes h fuel

/-- `CheckIntraDebugInfoItem()`. -/
def checkIntraDebugInfoItem (v : DexFileVerifier) (h : Header) : VerifyM Unit := do
  discard v.decodeUnsignedLeb128
  let parametersSize ← v.decodeUnsignedLeb128
  if parametersSize > 65536 then fail ("Invalid parameters_size: " ++ hex parametersSize)
  repeatM (v.checkIndexPlusOne h.stringIdsSize "debug_info_item parameter_name") parametersSize
  v.checkDebugInfoOpcodes h (2 ^ 32)

/-! ## Annotation items and annotations directories -/

def kDexVisibilityBuild : Nat := 0x00
def kDexVisibilityRuntime : Nat := 0x01
def kDexVisibilitySystem : Nat := 0x02

/-- `CheckIntraAnnotationItem()`.  The message on a bad visibility prints the byte after it. -/
def checkIntraAnnotationItem (v : DexFileVerifier) (h : Header) : VerifyM Unit := do
  v.checkListSize (← get).ptr 1 1 "annotation visibility"
  let visibility ← v.readByte
  if visibility ≠ kDexVisibilityBuild ∧ visibility ≠ kDexVisibilityRuntime ∧
      visibility ≠ kDexVisibilitySystem then
    fail ("Bad annotation visibility: " ++ hex (← v.readLE (← get).ptr 1))
  v.checkEncodedAnnotation h

/-- A list of `count` annotation items of 8 bytes from `item`, whose first words must increase;
`i` and `last_idx` are the loop's locals. -/
def checkAnnotationsOrder (v : DexFileVerifier) (msg : String) : Nat → Nat → Nat → Nat → VerifyM Unit
  | 0, _, _, _ => pure ()
  | count + 1, item, i, lastIdx => do
    let idx ← v.readLE item 4
    if lastIdx ≥ idx ∧ i ≠ 0 then fail (msg ++ hex lastIdx ++ " then " ++ hex idx)
    v.checkAnnotationsOrder msg count (item + 8) (i + 1) idx

/-- `CheckIntraAnnotationsDirectoryItem()`: the field, method and parameter annotations follow
the 16 bytes of the directory, each a list of (index, offset) pairs. -/
def checkIntraAnnotationsDirectoryItem (v : DexFileVerifier) : VerifyM Unit := do
  let item := (← get).ptr
  v.checkListSize item 1 16 "annotations_directory"
  let fieldItem := item + 16
  let fieldCount ← v.readLE (item + 4) 4
  v.checkListSize fieldItem fieldCount 8 "field_annotations list"
  v.checkAnnotationsOrder "Out-of-order field_idx for annotation: " fieldCount fieldItem 0 0
  let methodItem := fieldItem + 8 * fieldCount
  let methodCount ← v.readLE (item + 8) 4
  v.checkListSize methodItem methodCount 8 "method_annotations list"
  v.checkAnnotationsOrder "Out-of-order method_idx for annotation: " methodCount methodItem 0 0
  let parameterItem := methodItem + 8 * methodCount
  let parameterCount ← v.readLE (item + 12) 4
  v.checkListSize parameterItem parameterCount 8 "parameter_annotations list"
  v.checkAnnotationsOrder "Out-of-order method_idx for annotation: " parameterCount parameterItem 0 0
  modify fun s => { s with ptr := parameterItem + 8 * parameterCount }

/-! ## The intra-section pass -/

/-- The size of an item of an id section. -/
def idItemSize (type : Nat) : Nat :=
  if type = kDexTypeStringIdItem then 4
  else if type = kDexTypeTypeIdItem then 4
  else if type = kDexTypeProtoIdItem then 12
  else if type = kDexTypeFieldIdItem then 8
  else if type = kDexTypeMethodIdItem then 8
  else 32

/-- The name of an id section in the labels of `CheckListSize`. -/
def idItemLabel (type : Nat) : String :=
  if type = kDexTypeStringIdItem then "string_ids"
  else if type = kDexTypeTypeIdItem then "type_ids"
  else if type = kDexTypeProtoIdItem then "proto_ids"
  else if type = kDexTypeFieldIdItem then "field_ids"
  else if type = kDexTypeMethodIdItem then "method_ids"
  else "class_defs"

/-- The check of one item of `CheckIntraSectionIterate`, by the section's type. -/
def checkIntraItem (v : DexFileVerifier) (h : Header) (type : Nat) : VerifyM Unit := do
  if type ≤ kDexTypeClassDefItem ∧ type ≠ kDexTypeHeaderItem then
    let ptr := (← get).ptr
    v.checkListSize ptr 1 (idItemSize type) (idItemLabel type)
    modify fun s => { s with ptr := ptr + idItemSize type }
  else if type = kDexTypeTypeList then v.checkList 2 "type_list"
  else if type = kDexTypeAnnotationSetRefList then v.checkList 4 "annotation_set_ref_list"
  else if type = kDexTypeAnnotationSetItem then v.checkList 4 "annotation_set_item"
  else if type = kDexTypeClassDataItem then v.checkIntraClassDataItem h
  else if type = kDexTypeCodeItem then v.checkIntraCodeItem h
  else if type = kDexTypeStringDataItem then v.checkIntraStringDataItem
  else if type = kDexTypeDebugInfoItem then v.checkIntraDebugInfoItem h
  else if type = kDexTypeAnnotationItem then v.checkIntraAnnotationItem h
  else if type = kDexTypeEncodedArrayItem then v.checkEncodedArray h
  else if type = kDexTypeAnnotationsDirectoryItem then v.checkIntraAnnotationsDirectoryItem
  else fail ("Unknown map item type " ++ hex type)

/-- The loop of `CheckIntraSectionIterate` over the `count` items left, the next at `offset`;
`alignmentMask` is the section's. -/
def checkIntraSectionItems (v : DexFileVerifier) (h : Header) (type alignmentMask : Nat) : Nat → Nat → Nat → VerifyM Unit
  | 0, _, _ => pure ()
  | count + 1, i, offset => do
    let alignedOffset := (offset + alignmentMask) / (alignmentMask + 1) * (alignmentMask + 1)
    v.checkPadding offset alignedOffset
    v.checkIntraItem h type
    if isDataSectionType type then
      modify fun s => { s with offsetToTypeMap := s.offsetToTypeMap ++ [(alignedOffset, type)] }
    let alignedOffset := (← get).ptr
    if alignedOffset > v.size then fail ("Item " ++ toString i ++ " at ends out of bounds")
    v.checkIntraSectionItems h type alignmentMask count (i + 1) alignedOffset

/-- `CheckIntraSectionIterate(offset, section_count, type)`. -/
def checkIntraSectionIterate (v : DexFileVerifier) (h : Header) (offset sectionCount type : Nat) : VerifyM Unit :=
  let alignmentMask :=
    if type = kDexTypeClassDataItem ∨ type = kDexTypeStringDataItem ∨ type = kDexTypeDebugInfoItem ∨
      type = kDexTypeAnnotationItem ∨ type = kDexTypeEncodedArrayItem then 0 else 3
  v.checkIntraSectionItems h type alignmentMask sectionCount 0 offset

/-- The offset and size the header gives an id section. -/
def idSectionOfHeader (h : Header) (type : Nat) : Nat × Nat :=
  if type = kDexTypeStringIdItem then (h.stringIdsOff, h.stringIdsSize)
  else if type = kDexTypeTypeIdItem then (h.typeIdsOff, h.typeIdsSize)
  else if type = kDexTypeProtoIdItem then (h.protoIdsOff, h.protoIdsSize)
  else if type = kDexTypeFieldIdItem then (h.fieldIdsOff, h.fieldIdsSize)
  else if type = kDexTypeMethodIdItem then (h.methodIdsOff, h.methodIdsSize)
  else (h.classDefsOff, h.classDefsSize)

/-- `CheckIntraIdSection(offset, count, type)`. -/
def checkIntraIdSection (v : DexFileVerifier) (h : Header) (offset count type : Nat) : VerifyM Unit := do
  let (expectedOffset, expectedSize) := idSectionOfHeader h type
  if offset ≠ expectedOffset then
    fail ("Bad offset for section: got " ++ hex offset ++ ", expected " ++ hex expectedOffset)
  if count ≠ expectedSize then
    fail ("Bad size for section: got " ++ hex count ++ ", expected " ++ hex expectedSize)
  v.checkIntraSectionIterate h offset count type

/-- `CheckIntraDataSection(offset, count, type)`. -/
def checkIntraDataSection (v : DexFileVerifier) (h : Header) (offset count type : Nat) : VerifyM Unit := do
  let dataStart := h.dataOff
  let dataEnd := dataStart + h.dataSize
  if offset < dataStart ∨ offset > dataEnd then
    fail ("Bad offset for data subsection: " ++ hex offset)
  v.checkIntraSectionIterate h offset count type
  let nextOffset := (← get).ptr
  if nextOffset > dataEnd then fail ("Out-of-bounds end of data subsection: " ++ hex nextOffset)

/-- The loop of `CheckIntraSection` over the `count` map items left, from the one at `item`;
`offset` is the end of the sections checked so far. -/
def checkIntraSectionMap (v : DexFileVerifier) (h : Header) (mapSize : Nat) : Nat → Nat → Nat → VerifyM Unit
  | 0, _, _ => pure ()
  | count + 1, item, offset => do
    let it ← v.readMapItem item
    let sectionOffset := it.offset
    let sectionCount := it.size
    let type := it.type
    v.checkPadding offset sectionOffset
    if offset > sectionOffset then
      fail ("Section overlap or out-of-order map: " ++ hex offset ++ ", " ++ hex sectionOffset)
    let offset ←
      if type = kDexTypeHeaderItem then do
        if sectionCount ≠ 1 then fail "Multiple header items"
        if sectionOffset ≠ 0 then fail ("Header at " ++ hex sectionOffset ++ ", not at start of file")
        modify fun s => { s with ptr := h.headerSize }
        pure h.headerSize
      else if type ≤ kDexTypeClassDefItem then do
        v.checkIntraIdSection h sectionOffset sectionCount type
        pure (← get).ptr
      else if type = kDexTypeMapList then do
        if sectionCount ≠ 1 then fail "Multiple map list items"
        if sectionOffset ≠ h.mapOff then
          fail ("Map not at header-defined offset: " ++ hex sectionOffset ++ ", expected " ++ hex h.mapOff)
        modify fun s => { s with ptr := s.ptr + 4 + mapSize * 12 }
        pure (sectionOffset + 4 + mapSize * 12)
      else if kDexTypeTypeList ≤ type ∧ type ≤ kDexTypeAnnotationSetItem ∨
          kDexTypeClassDataItem ≤ type ∧ type ≤ kDexTypeAnnotationsDirectoryItem then do
        v.checkIntraDataSection h sectionOffset sectionCount type
        pure (← get).ptr
      else fail ("Unknown map item type " ++ hex type)
    v.checkIntraSectionMap h mapSize count (item + 12) offset

/-- `CheckIntraSection()`. -/
def checkIntraSection (v : DexFileVerifier) (h : Header) : VerifyM Unit := do
  let map := h.mapOff
  let count ← v.readLE map 4
  modify fun s => { s with ptr := 0 }
  v.checkIntraSectionMap h count count (map + 4) 0

end DexFileVerifier

end Art
