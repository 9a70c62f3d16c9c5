import AndroidArt.Dex.Leb128

/-!
# The dex file verifier: its state, the header, the map and the code items

Model of `DexFileVerifier` (`runtime/dex_file_verifier.cc`): `CheckListSize`, `CheckList`,
`CheckIndex`, `CheckValidOffsetAndSize`, `CheckHeader`, `CheckMap`, `CheckPadding`,
`CheckAndGetHandlerOffsets` and `CheckIntraCodeItem`.  The other item checks and the two section
passes are in `AndroidArt.Dex.IntraSection` and `AndroidArt.Dex.InterSection`.

The verifier reads the file through raw pointers.  `DexFileVerifier.bytes` is the memory from
`begin_` on, past `size_` too, and every read goes through `readLE` or a LEB128 decoder, which
record in the ghost field `readEnd` of the state one past the furthest byte read: the verifier
stays inside the file exactly when `readEnd ≤ size` at the end.

A check that fails returns `false` after `ErrorStringPrintf`; here it throws its message, without
the location prefix.  A failed `CHECK` stops the runtime (`abort`).

The model is the release build: the `DCHECK`s on the way, among them the one of
`ErrorStringPrintf` that no message was recorded before, are left out.  Every call of
`CheckListSize` passes a non-zero element size, so its `CHECK_NE` holds.
-/

set_option autoImplicit false

namespace Art

/-- `%x`. -/
def hex (n : Nat) : String := String.ofList (Nat.toDigits 16 n)

/-- `%08x`. -/
def hex08 (n : Nat) : String :=
  let s := hex n
  String.ofList (List.replicate (8 - s.length) '0') ++ s

/-- The `n` bytes at `offset`, little-endian. -/
def littleEndian (d : Bytes) (offset : Nat) : Nat → Nat
  | 0 => 0
  | n + 1 => (d offset).toNat + 256 * littleEndian d (offset + 1) n

/-- `adler32(adler, buf, len)` of zlib. -/
def adler32 (adler : Nat) (buf : List Nat) : Nat :=
  let sums := buf.foldl (fun (s : Nat × Nat) b =>
    let s1 := (s.1 + b) % 65521
    (s1, (s.2 + s1) % 65521)) (adler % 65536, adler / 65536)
  sums.2 * 65536 + sums.1

/-! ## The map item types -/

def kDexTypeHeaderItem : Nat := 0x0000
def kDexTypeStringIdItem : Nat := 0x0001
def kDexTypeTypeIdItem : Nat := 0x0002
def kDexTypeProtoIdItem : Nat := 0x0003
def kDexTypeFieldIdItem : Nat := 0x0004
def kDexTypeMethodIdItem : Nat := 0x0005
def kDexTypeClassDefItem : Nat := 0x0006
def kDexTypeMapList : Nat := 0x1000
def kDexTypeTypeList : Nat := 0x1001
def kDexTypeAnnotationSetRefList : Nat := 0x1002
def kDexTypeAnnotationSetItem : Nat := 0x1003
def kDexTypeClassDataItem : Nat := 0x2000
def kDexTypeCodeItem : Nat := 0x2001
def kDexTypeStringDataItem : Nat := 0x2002
def kDexTypeDebugInfoItem : Nat := 0x2003
def kDexTypeAnnotationItem : Nat := 0x2004
def kDexTypeEncodedArrayItem : Nat := 0x2005
def kDexTypeAnnotationsDirectoryItem : Nat := 0x2006

def kDexEndianConstant : Nat := 0x12345678

/-- The map item types in the order of their bits in `MapTypeToBitMask`. -/
def mapTypes : List Nat :=
  [kDexTypeHeaderItem, kDexTypeStringIdItem, kDexTypeTypeIdItem, kDexTypeProtoIdItem,
    kDexTypeFieldIdItem, kDexTypeMethodIdItem, kDexTypeClassDefItem, kDexTypeMapList,
    kDexTypeTypeList, kDexTypeAnnotationSetRefList, kDexTypeAnnotationSetItem,
    kDexTypeClassDataItem, kDexTypeCodeItem, kDexTypeStringDataItem, kDexTypeDebugInfoItem,
    kDexTypeAnnotationItem, kDexTypeEncodedArrayItem, kDexTypeAnnotationsDirectoryItem]

/-- `MapTypeToBitMask`: bit `i` for the `i`-th type, `0` for an unknown type. -/
def mapTypeToBitMask (mapType : Nat) : Nat :=
  match mapTypes.idxOf? mapType with
  | some i => 1 <<< i
  | none => 0

/-- `IsDataSectionType`: every type but the header and the six id sections. -/
def isDataSectionType (mapType : Nat) : Bool :=
  !([kDexTypeHeaderItem, kDexTypeStringIdItem, kDexTypeTypeIdItem, kDexTypeProtoIdItem,
    kDexTypeFieldIdItem, kDexTypeMethodIdItem, kDexTypeClassDefItem].contains mapType)

/-! ## The verifier -/

/-- `DexFile::Header`, as the verifier reads it. -/
structure Header where
  checksum : Nat
  fileSize : Nat
  headerSize : Nat
  endianTag : Nat
  linkSize : Nat
  linkOff : Nat
  mapOff : Nat
  stringIdsSize : Nat
  stringIdsOff : Nat
  typeIdsSize : Nat
  typeIdsOff : Nat
  protoIdsSize : Nat
  protoIdsOff : Nat
  fieldIdsSize : Nat
  fieldIdsOff : Nat
  methodIdsSize : Nat
  methodIdsOff : Nat
  classDefsSize : Nat
  classDefsOff : Nat
  dataSize : Nat
  dataOff : Nat

/-- `sizeof(DexFile::Header)`. -/
def kHeaderSize : Nat := 0x70

/-- The file under verification. -/
structure DexFileVerifier where
  /-- The address of `begin_`; a dex file is mapped at a 4-byte aligned address. -/
  begin : Nat
  /-- `size_`. -/
  size : Nat
  /-- The memory from `begin_` on. -/
  bytes : Bytes

/-- The verifier's mutable state. -/
structure VerifierState where
  /-- `ptr_`, as an offset from `begin_`. -/
  ptr : Nat
  /-- `offset_to_type_map_`. -/
  offsetToTypeMap : List (Nat × Nat)
  /-- One past the furthest byte read so far (ghost). -/
  readEnd : Nat

/-- Why verification stops. -/
inductive VerifyError where
  /-- A check fails with the message of its `ErrorStringPrintf`. -/
  | failure (msg : String)
  /-- A failed `CHECK`, or a read through a null pointer: the runtime stops. -/
  | abort (what : String)
  /-- A loop that the model bounds, by the address space or by the length of the file, ran
  past its bound, which the source cannot do. -/
  | pastBound (what : String)
  deriving DecidableEq, Repr

abbrev VerifyM := ExceptT VerifyError (StateM VerifierState)

namespace DexFileVerifier

def fail {α : Type} (msg : String) : VerifyM α := throw (.failure msg)

/-- Note a read of `width` bytes at `offset`. -/
def noteRead (offset width : Nat) : VerifyM Unit :=
  if width = 0 then pure ()
  else modify fun s => { s with readEnd := max s.readEnd (offset + width) }

/-- Read `width` bytes at `offset`, little-endian. -/
def readLE (v : DexFileVerifier) (offset width : Nat) : VerifyM Nat := do
  noteRead offset width
  return littleEndian v.bytes offset width

/-- `DecodeUnsignedLeb128(&ptr_)`. -/
def decodeUnsignedLeb128 (v : DexFileVerifier) : VerifyM Nat := do
  let s ← get
  let r := Leb128.decodeUnsignedLeb128 v.bytes s.ptr
  noteRead s.ptr (r.2 - s.ptr)
  modify fun s => { s with ptr := r.2 }
  return r.1

/-- `DecodeSignedLeb128(&ptr_)`. -/
def decodeSignedLeb128 (v : DexFileVerifier) : VerifyM Int := do
  let s ← get
  let r := Leb128.decodeSignedLeb128 v.bytes s.ptr
  noteRead s.ptr (r.2 - s.ptr)
  modify fun s => { s with ptr := r.2 }
  return r.1

/-- The header at `begin_`. -/
def readHeader (v : DexFileVerifier) : VerifyM Header := do
  let f (offset : Nat) := v.readLE offset 4
  return ⟨← f 8, ← f 32, ← f 36, ← f 40, ← f 44, ← f 48, ← f 52, ← f 56, ← f 60, ← f 64, ← f 68,
    ← f 72, ← f 76, ← f 80, ← f 84, ← f 88, ← f 92, ← f 96, ← f 100, ← f 104, ← f 108⟩

/-- `CheckListSize(start, count, elem_size, label)` for `start` at offset `start` of the file:
no overflow past the top of the 32-bit address space, and the range inside the file. -/
def checkListSize (v : DexFileVerifier) (start count elemSize : Nat) (label : String) : VerifyM Unit := do
  let availableBytesTillEndOfMem := (2 ^ 32 - 1) - (v.begin + start)
  let maxCount := availableBytesTillEndOfMem / elemSize
  if maxCount < count then
    fail ("Overflow in range for " ++ label ++ ": " ++ hex start ++ " for " ++ toString count ++
      "@" ++ toString elemSize)
  let rangeEnd := start + count * elemSize
  if rangeEnd > v.size then
    fail ("Bad range for " ++ label ++ ": " ++ hex start ++ " to " ++ hex rangeEnd)

/-- `CheckList(element_size, label, &ptr_)`. -/
def checkList (v : DexFileVerifier) (elementSize : Nat) (label : String) : VerifyM Unit := do
  let ptr := (← get).ptr
  v.checkListSize ptr 1 4 label
  let count ← v.readLE ptr 4
  if count > 0 then
    v.checkListSize (ptr + 4) count elementSize label
  modify fun s => { s with ptr := ptr + 4 + count * elementSize }

/-- `CheckIndex(field, limit, label)`. -/
def checkIndex (field limit : Nat) (label : String) : VerifyM Unit :=
  if field ≥ limit then fail ("Bad index for " ++ label ++ ": " ++ hex field ++ " >= " ++ hex limit)
  else pure ()

/-- `CheckValidOffsetAndSize(offset, size, label)`. -/
def checkValidOffsetAndSize (v : DexFileVerifier) (offset size : Nat) (label : String) : VerifyM Unit := do
  if size = 0 ∧ offset ≠ 0 then
    fail ("Offset(" ++ toString offset ++ ") should be zero when size is zero for " ++ label ++ ".")
  if v.size ≤ offset then
    fail ("Offset(" ++ toString offset ++ ") should be within file size(" ++ toString v.size ++
      ") for " ++ label ++ ".")

/-- `CheckHeader()`. -/
def checkHeader (v : DexFileVerifier) (h : Header) : VerifyM Unit := do
  let expectedSize := h.fileSize
  if v.size ≠ expectedSize then
    fail ("Bad file size (" ++ toString v.size ++ ", expected " ++ toString expectedSize ++ "d)")
  let nonSum := 12
  let mut sumBytes : List Nat := []
  for i in List.range (expectedSize - nonSum) do
    sumBytes := sumBytes ++ [← v.readLE (nonSum + i) 1]
  let adlerChecksum := adler32 1 sumBytes
  if adlerChecksum ≠ h.checksum then
    fail ("Bad checksum (" ++ hex08 adlerChecksum ++ ", expected " ++ hex08 h.checksum ++ ")")
  if h.endianTag ≠ kDexEndianConstant then
    fail ("Unexpected endian_tag: " ++ hex h.endianTag)
  if h.headerSize ≠ kHeaderSize then
    fail ("Bad header size: " ++ toString h.headerSize ++ "d")
  v.checkValidOffsetAndSize h.linkOff h.linkSize "link"
  -- the source passes `map_off_` as the size of the map
  v.checkValidOffsetAndSize h.mapOff h.mapOff "map"
  v.checkValidOffsetAndSize h.stringIdsOff h.stringIdsSize "string-ids"
  v.checkValidOffsetAndSize h.typeIdsOff h.typeIdsSize "type-ids"
  v.checkValidOffsetAndSize h.protoIdsOff h.protoIdsSize "proto-ids"
  v.checkValidOffsetAndSize h.fieldIdsOff h.fieldIdsSize "field-ids"
  v.checkValidOffsetAndSize h.methodIdsOff h.methodIdsSize "method-ids"
  v.checkValidOffsetAndSize h.classDefsOff h.classDefsSize "class-defs"
  v.checkValidOffsetAndSize h.dataOff h.dataSize "data"

/-- A `DexFile::MapItem`. -/
structure MapItem where
  type : Nat
  size : Nat
  offset : Nat

/-- The map item at `offset`. -/
def readMapItem (v : DexFileVerifier) (offset : Nat) : VerifyM MapItem := do
  return ⟨← v.readLE offset 2, ← v.readLE (offset + 4) 4, ← v.readLE (offset + 8) 4⟩

/-- The loop of `CheckMap` over the `count` items left, from the one at `item`; its locals are
`i`, `last_offset`, `data_item_count`, `data_items_left` and `used_bits`. -/
def checkMapItems (v : DexFileVerifier) (h : Header) :
    Nat → Nat → Nat → Nat → Nat → Nat → Nat → VerifyM Nat
  | 0, _, _, _, _, _, usedBits => pure usedBits
  | count + 1, item, i, lastOffset, dataItemCount, dataItemsLeft, usedBits => do
    let it ← v.readMapItem item
    if lastOffset ≥ it.offset ∧ i ≠ 0 then
      fail ("Out of order map item: " ++ hex lastOffset ++ " then " ++ hex it.offset)
    if it.offset ≥ h.fileSize then
      fail ("Map item after end of file: " ++ hex it.offset ++ ", size " ++ hex h.fileSize)
    let (dataItemCount, dataItemsLeft) ←
      if isDataSectionType it.type then do
        let icount := it.size
        if icount > dataItemsLeft then
          fail ("Too many items in data section: " ++ toString (dataItemCount + icount) ++ "d")
        pure (dataItemCount + icount, dataItemsLeft - icount)
      else pure (dataItemCount, dataItemsLeft)
    let bit := mapTypeToBitMask it.type
    if bit = 0 then fail ("Unknown map section type " ++ hex it.type)
    if usedBits &&& bit ≠ 0 then fail ("Duplicate map section of type " ++ hex it.type)
    v.checkMapItems h count (item + 12) (i + 1) it.offset dataItemCount dataItemsLeft
      (usedBits ||| bit)

/-- A required section of `CheckMap`: present in the map when the header gives it an offset or
a size. -/
def checkMapSection (usedBits type offset size : Nat) (msg : String) : VerifyM Unit :=
  if usedBits &&& mapTypeToBitMask type = 0 ∧ (offset ≠ 0 ∨ size ≠ 0) then fail msg else pure ()

/-- `CheckMap()`. -/
def checkMap (v : DexFileVerifier) (h : Header) : VerifyM Unit := do
  let map := h.mapOff
  -- `sizeof(DexFile::MapList)`: the count and one item
  v.checkListSize map 1 16 "maplist content"
  let count ← v.readLE map 4
  v.checkListSize (map + 4) count 12 "map size"
  let usedBits ← v.checkMapItems h count (map + 4) 0 0 0 h.dataSize 0
  if usedBits &&& mapTypeToBitMask kDexTypeHeaderItem = 0 then fail "Map is missing header entry"
  if usedBits &&& mapTypeToBitMask kDexTypeMapList = 0 then fail "Map is missing map_list entry"
  checkMapSection usedBits kDexTypeStringIdItem h.stringIdsOff h.stringIdsSize
    "Map is missing string_ids entry"
  checkMapSection usedBits kDexTypeTypeIdItem h.typeIdsOff h.typeIdsSize
    "Map is missing type_ids entry"
  checkMapSection usedBits kDexTypeProtoIdItem h.protoIdsOff h.protoIdsSize
    "Map is missing proto_ids entry"
  checkMapSection usedBits kDexTypeFieldIdItem h.fieldIdsOff h.fieldIdsSize
    "Map is missing field_ids entry"
  checkMapSection usedBits kDexTypeMethodIdItem h.methodIdsOff h.methodIdsSize
    "Map is missing method_ids entry"
  checkMapSection usedBits kDexTypeClassDefItem h.classDefsOff h.classDefsSize
    "Map is missing class_defs entry"

/-- `CheckPadding(offset, aligned_offset)`: the bytes at `ptr_` up to the aligned offset are
zero. -/
def checkPadding (v : DexFileVerifier) (offset alignedOffset : Nat) : VerifyM Unit := do
  if offset < alignedOffset then
    v.checkListSize offset (alignedOffset - offset) 1 "section"
    for _ in List.range (alignedOffset - offset) do
      let ptr := (← get).ptr
      let b ← v.readLE ptr 1
      if b ≠ 0 then
        fail ("Non-zero padding " ++ hex b ++ " before section start at " ++ hex offset)
      modify fun s => { s with ptr := ptr + 1 }

/-- The handler entries of one handler: `size` pairs of a type index and an address. -/
def checkHandlerPairs (v : DexFileVerifier) (h : Header) (insnsSize : Nat) : Nat → VerifyM Unit
  | 0 => pure ()
  | size + 1 => do
    let typeIdx ← v.decodeUnsignedLeb128
    checkIndex typeIdx h.typeIdsSize "handler type_idx"
    let addr ← v.decodeUnsignedLeb128
    if addr ≥ insnsSize then fail ("Invalid handler addr: " ++ hex addr)
    v.checkHandlerPairs h insnsSize size

/-- `CheckAndGetHandlerOffsets(code_item, handler_offsets, handlers_size)` for the handler data
at `handlersBase`: the offsets of the `handlersSize` handlers from `ptr_` on. -/
def checkAndGetHandlerOffsets (v : DexFileVerifier) (h : Header) (insnsSize handlersBase : Nat) :
    Nat → VerifyM (List Nat)
  | 0 => pure []
  | handlersSize + 1 => do
    let offset := (← get).ptr - handlersBase
    let size ← v.decodeSignedLeb128
    if size < -65536 ∨ size > 65536 then
      fail ("Invalid exception handler size: " ++ toString size)
    let catchAll := size ≤ 0
    v.checkHandlerPairs h insnsSize size.natAbs
    if catchAll then
      let addr ← v.decodeUnsignedLeb128
      if addr ≥ insnsSize then fail ("Invalid handler catch_all_addr: " ++ hex addr)
    let rest ← v.checkAndGetHandlerOffsets h insnsSize handlersBase handlersSize
    return offset :: rest

/-- A `DexFile::TryItem`. -/
structure TryItem where
  startAddr : Nat
  insnCount : Nat
  handlerOff : Nat

/-- The loop of `CheckIntraCodeItem` over the `count` try items left, from the one at `item`. -/
def checkTryItems (v : DexFileVerifier) (insnsSize : Nat) (handlerOffsets : List Nat) : Nat → Nat → Nat → VerifyM Unit
  | 0, _, _ => pure ()
  | count + 1, item, lastAddr => do
    let t : TryItem := ⟨← v.readLE item 4, ← v.readLE (item + 4) 2, ← v.readLE (item + 6) 2⟩
    if t.startAddr < lastAddr then
      fail ("Out-of_order try_item with start_addr: " ++ hex t.startAddr)
    if t.startAddr ≥ insnsSize then fail ("Invalid try_item start_addr: " ++ hex t.startAddr)
    if !handlerOffsets.contains t.handlerOff then
      fail ("Bogus handler offset: " ++ hex t.handlerOff)
    let lastAddr := Word.toUnsigned 32 (t.startAddr + t.insnCount)
    if lastAddr > insnsSize then fail ("Invalid try_item insn_count: " ++ hex t.insnCount)
    v.checkTryItems insnsSize handlerOffsets count (item + 8) lastAddr

/-- `CheckIntraCodeItem()` for the code item at `ptr_`. -/
def checkIntraCodeItem (v : DexFileVerifier) (h : Header) : VerifyM Unit := do
  let codeItem := (← get).ptr
  -- `sizeof(DexFile::CodeItem)`: 16 bytes of fields and `insns_[1]`, padded to 4
  v.checkListSize codeItem 1 20 "code"
  let registersSize ← v.readLE codeItem 2
  let insSize ← v.readLE (codeItem + 2) 2
  if insSize > registersSize then
    fail ("ins_size (" ++ toString insSize ++ "d) > registers_size (" ++ toString registersSize ++ "d)")
  let outsSize ← v.readLE (codeItem + 4) 2
  if outsSize > 5 ∧ outsSize > registersSize then
    fail ("outs_size (" ++ toString outsSize ++ "d) > registers_size (" ++ toString registersSize ++ "d)")
  let insns := codeItem + 16
  let insnsSize ← v.readLE (codeItem + 12) 4
  v.checkListSize insns insnsSize 2 "insns size"
  let triesSize ← v.readLE (codeItem + 6) 2
  let insnsEnd := insns + 2 * insnsSize
  if triesSize = 0 then
    modify fun s => { s with ptr := insnsEnd }
  else
    if (v.begin + insnsEnd) % 4 ≠ 0 then
      let spacer ← v.readLE insnsEnd 2
      if spacer ≠ 0 then fail ("Non-zero padding: " ++ hex spacer)
    -- `GetTryItems`: the end of the insns rounded up to 4 bytes
    let tryItems := insnsEnd + (4 - (v.begin + insnsEnd) % 4) % 4
    -- `GetCatchHandlerData`: just past the try items
    let handlersBase := tryItems + 8 * triesSize
    modify fun s => { s with ptr := handlersBase }
    let handlersSize ← v.decodeUnsignedLeb128
    v.checkListSize tryItems triesSize 8 "try_items size"
    if handlersSize = 0 ∨ handlersSize ≥ 65536 then
      fail ("Invalid handlers_size: " ++ toString handlersSize ++ "d")
    let handlerOffsets ← v.checkAndGetHandlerOffsets h insnsSize handlersBase handlersSize
    v.checkTryItems insnsSize handlerOffsets triesSize tryItems 0

/-- `CheckListSize` changes nothing, and passes only for a range inside the file. -/
theorem checkListSize_ok {v : DexFileVerifier} {start count elemSize : Nat} {label : String}
    {s s' : VerifierState} (h : ((v.checkListSize start count elemSize label).run s).run = (.ok (), s')) :
    start + count * elemSize ≤ v.size ∧ s' = s := by
  simp only [checkListSize] at h
  split_ifs at h with h1 h2
  · cases h
  · cases h
  · cases h
  · cases h
    exact ⟨by omega, rfl⟩

end DexFileVerifier

end Art
