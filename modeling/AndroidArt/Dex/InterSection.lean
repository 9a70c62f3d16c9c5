import AndroidArt.Dex.IntraSection
import AndroidArt.Dex.Descriptor

/-!
# The dex file verifier: the inter-section pass and `Verify`

Model of the inter-section pass of `DexFileVerifier` (`runtime/dex_file_verifier.cc`):
`CheckInterSection`, `CheckInterSectionIterate` and the item checks it runs,
`CheckInterStringIdItem`, `CheckInterTypeIdItem`, `CheckInterProtoIdItem`,
`CheckInterFieldIdItem`, `CheckInterMethodIdItem`, `CheckInterClassDefItem`,
`CheckInterAnnotationSetRefList`, `CheckInterAnnotationSetItem`, `CheckInterClassDataItem` and
`CheckInterAnnotationsDirectoryItem`, with what they call: `CheckOffsetToTypeMap`,
`FindFirstClassDataDefiner`, `FindFirstAnnotationsDirectoryDefiner`, `CheckShortyDescriptorMatch`,
the `CheckLoad...` helpers, and the readers of `DexFile` they go through (`GetStringData`,
`StringDataByIdx`, `StringByTypeIdx` and `DexFileParameterIterator`).  `verify` is `Verify()`,
the four passes in turn.

The checks read the file where its ids and offsets point, through the same memory as the other
passes, so every read moves the ghost `readEnd`.  A string is read up to its NUL
(`readCString`); what the checks do with it is the model of `AndroidArt.Dex.Lookup` and
`AndroidArt.Dex.Descriptor`, and the ordering checks between consecutive ids are the ones of
`AndroidArt.Dex.Lookup`, run on the ids read from the file.  An id, a field and an offset are read
when the source reads them, so that a check that fails reads no further.  `defined_classes_`,
which only `CheckInterClassDefItem` reads and writes, is passed along the pass.

As in the other modules of the verifier, the model is the release build.
-/

set_option autoImplicit false

namespace Art

namespace DexFileVerifier

open DexFile

/-! ## What the checks read -/

/-- `DexFile::kDexNoIndex`. -/
def kDexNoIndex : Nat := 0xFFFFFFFF

/-- The failure of an ordering check of `AndroidArt.Dex.Lookup`. -/
def liftCheck : Except String Unit → VerifyM Unit
  | .ok () => pure ()
  | .error msg => fail msg

/-- The bytes of the NUL-terminated string at `offset`, at most `fuel` of them. -/
def readCString (v : DexFileVerifier) : Nat → Nat → VerifyM (List Nat)
  | 0, _ => throw (.pastBound "a string past the 32-bit address space")
  | fuel + 1, offset => do
    let c ← v.readLE offset 1
    if c = 0 then pure [] else return c :: (← v.readCString fuel (offset + 1))

/-- `GetStringData(string_id)` of the string id at `stringId`: the bytes after the ULEB128
length at `string_data_off_`. -/
def getStringData (v : DexFileVerifier) (stringId : Nat) : VerifyM (List Nat) := do
  let stringDataOff ← v.readLE stringId 4
  let (_, p) ← v.decodeUnsignedLeb128At stringDataOff
  v.readCString (2 ^ 32) p

/-- `StringDataByIdx(idx)`: none for `kDexNoIndex`. -/
def stringDataByIdx (v : DexFileVerifier) (h : Header) (idx : Nat) : VerifyM (Option (List Nat)) :=
  if idx = kDexNoIndex then pure none
  else some <$> v.getStringData (h.stringIdsOff + 4 * idx)

/-- `StringByTypeIdx(idx)`. -/
def stringByTypeIdx (v : DexFileVerifier) (h : Header) (idx : Nat) : VerifyM (Option (List Nat)) := do
  v.stringDataByIdx h (← v.readLE (h.typeIdsOff + 4 * idx) 4)

/-- `CheckLoadStringByIdx(idx, error_string)`.  An index below `NumStringIds()` is not
`kDexNoIndex`, so the string is never null. -/
def checkLoadStringByIdx (v : DexFileVerifier) (h : Header) (idx : Nat) (errorString : String) :
    VerifyM (List Nat) := do
  checkIndex idx h.stringIdsSize errorString
  v.getStringData (h.stringIdsOff + 4 * idx)

/-- `CheckLoadStringByTypeIdx(type_idx, error_string)`. -/
def checkLoadStringByTypeIdx (v : DexFileVerifier) (h : Header) (typeIdx : Nat)
    (errorString : String) : VerifyM (List Nat) := do
  checkIndex typeIdx h.typeIdsSize errorString
  v.checkLoadStringByIdx h (← v.readLE (h.typeIdsOff + 4 * typeIdx) 4) errorString

/-- `CheckLoadFieldId(idx, error_string)`: the offset of the field id. -/
def checkLoadFieldId (h : Header) (idx : Nat) (errorString : String) : VerifyM Nat := do
  checkIndex idx h.fieldIdsSize errorString
  return h.fieldIdsOff + 8 * idx

/-- `CheckLoadMethodId(idx, error_string)`: the offset of the method id. -/
def checkLoadMethodId (h : Header) (idx : Nat) (errorString : String) : VerifyM Nat := do
  checkIndex idx h.methodIdsSize errorString
  return h.methodIdsOff + 8 * idx

/-- `CheckOffsetToTypeMap(offset, type)`: the data map has an item of `type` at `offset`. -/
def checkOffsetToTypeMap (offset type : Nat) : VerifyM Unit := do
  match (← get).offsetToTypeMap.lookup offset with
  | none => fail ("No data map entry found @ " ++ hex offset ++ "; expected " ++ hex type)
  | some found =>
    if found ≠ type then
      fail ("Unexpected data map entry @ " ++ hex offset ++ "; expected " ++ hex type ++
        ", found " ++ hex found)

/-- The characters of a descriptor that `StringByTypeIdx` found, or a read through a null
pointer when it found none. -/
def derefDescriptor : Option (List Nat) → VerifyM (List Nat)
  | none => throw (.abort "a read through a null descriptor")
  | some descriptor => pure descriptor

/-- `CheckShortyDescriptorMatch(shorty_char, descriptor, is_return_type)`.  The descriptor is
read only where the shorty character is a type's. -/
def checkShortyDescriptorMatch (shortyChar : Nat) (descriptor : Option (List Nat))
    (isReturnType : Bool) : VerifyM Unit := do
  if shortyChar = 'V'.toNat ∧ !isReturnType then fail "Invalid use of void"
  if shortyChar = 'V'.toNat ∨ shortyChar ∈ primitiveDescriptors then
    let descriptor ← derefDescriptor descriptor
    if deref descriptor ≠ shortyChar ∨ deref descriptor.tail ≠ 0 then
      fail ("Shorty vs. primitive type mismatch: '" ++ asText [shortyChar] ++ "', '" ++
        asText descriptor ++ "'")
  else if shortyChar = 'L'.toNat then
    let descriptor ← derefDescriptor descriptor
    if deref descriptor ≠ 'L'.toNat ∧ deref descriptor ≠ '['.toNat then
      fail ("Shorty vs. type mismatch: '" ++ asText [shortyChar] ++ "', '" ++ asText descriptor ++
        "'")
  else fail ("Bad shorty character: '" ++ asText [shortyChar] ++ "'")

/-- `FindFirstClassDataDefiner(ptr, &success)`: the class of the first member of the class data
at `p`, or `kDexNoIndex16` when it has none. -/
def findFirstClassDataDefiner (v : DexFileVerifier) (h : Header) (p : Nat) : VerifyM Nat := do
  let it ← v.classDataIterator p
  if it.hasNextStaticField || it.hasNextInstanceField then
    let field ← checkLoadFieldId h it.getMemberIndex "first_class_data_definer field_id"
    v.readLE field 2
  else if it.hasNextDirectMethod || it.hasNextVirtualMethod then
    let method ← checkLoadMethodId h it.getMemberIndex "first_class_data_definer method_id"
    v.readLE method 2
  else pure kDexNoIndex16

/-- `FindFirstAnnotationsDirectoryDefiner(ptr, &success)`: the class of the first annotated
member of the directory at `p`.  The first field, method or parameter item is the one right after
the directory's 16 bytes. -/
def findFirstAnnotationsDirectoryDefiner (v : DexFileVerifier) (h : Header) (p : Nat) :
    VerifyM Nat := do
  if (← v.readLE (p + 4) 4) ≠ 0 then
    let field ← checkLoadFieldId h (← v.readLE (p + 16) 4) "first_annotations_dir_definer field_id"
    v.readLE field 2
  else if (← v.readLE (p + 8) 4) ≠ 0 then
    let method ← checkLoadMethodId h (← v.readLE (p + 16) 4) "first_annotations_dir_definer method id"
    v.readLE method 2
  else if (← v.readLE (p + 12) 4) ≠ 0 then
    let method ← checkLoadMethodId h (← v.readLE (p + 16) 4) "first_annotations_dir_definer method id"
    v.readLE method 2
  else pure kDexNoIndex16

/-! ## The id items -/

/-- `CheckInterStringIdItem()`, after the string id at `prevItem` if there is one. -/
def checkInterStringIdItem (v : DexFileVerifier) (prevItem : Option Nat) : VerifyM Unit := do
  let item := (← get).ptr
  checkOffsetToTypeMap (← v.readLE item 4) kDexTypeStringDataItem
  if let some prev := prevItem then
    liftCheck (checkInterStringIdOrder (← v.getStringData prev) (← v.getStringData item))
  modify fun s => { s with ptr := item + 4 }

/-- `CheckInterTypeIdItem()`. -/
def checkInterTypeIdItem (v : DexFileVerifier) (h : Header) (prevItem : Option Nat) :
    VerifyM Unit := do
  let item := (← get).ptr
  let descriptor ← v.checkLoadStringByIdx h (← v.readLE item 4) "inter_type_id_item descriptor_idx"
  if !isValidDescriptor descriptor then
    fail ("Invalid type descriptor: '" ++ asText descriptor ++ "'")
  if let some prev := prevItem then
    liftCheck (checkInterTypeIdOrder ⟨← v.readLE prev 4⟩ ⟨← v.readLE item 4⟩)
  modify fun s => { s with ptr := item + 4 }

/-- `DexFileParameterIterator`: the type list it walks (`0` for none), `size_` and `pos_`. -/
structure ParameterIterator where
  typeList : Nat
  size : Nat
  pos : Nat

/-- `DexFileParameterIterator(dex_file, proto_id)` for a proto whose `parameters_off_` is
`parametersOff`. -/
def parameterIterator (v : DexFileVerifier) (parametersOff : Nat) : VerifyM ParameterIterator := do
  if parametersOff = 0 then return ⟨0, 0, 0⟩
  return ⟨parametersOff, ← v.readLE parametersOff 4, 0⟩

/-- `HasNext()`. -/
def ParameterIterator.hasNext (it : ParameterIterator) : Bool := it.pos < it.size

/-- `GetTypeIdx()`. -/
def getTypeIdx (v : DexFileVerifier) (it : ParameterIterator) : VerifyM Nat :=
  v.readLE (it.typeList + 4 + 2 * it.pos) 2

/-- The loop of `CheckInterProtoIdItem` over the parameters and the shorty after its return
type, which ends at the end of either. -/
def checkProtoParameters (v : DexFileVerifier) (h : Header) (it : ParameterIterator) :
    List Nat → VerifyM (ParameterIterator × List Nat)
  | [] => pure (it, [])
  | c :: shorty => do
    if it.hasNext then
      checkIndex (← v.getTypeIdx it) h.typeIdsSize "inter_proto_id_item shorty type_idx"
      checkShortyDescriptorMatch c (← v.stringByTypeIdx h (← v.getTypeIdx it)) false
      v.checkProtoParameters h { it with pos := it.pos + 1 } shorty
    else pure (it, c :: shorty)

/-- The parameter loop of the ordering check of `CheckInterProtoIdItem`, for at most `fuel`
rounds; it stops at the end of either list. -/
def checkProtoArgumentOrder (v : DexFileVerifier) :
    Nat → ParameterIterator → ParameterIterator → VerifyM Unit
  | 0, _, _ => pure ()
  | fuel + 1, currIt, prevIt => do
    if currIt.hasNext && prevIt.hasNext then
      let prevIdx ← v.getTypeIdx prevIt
      let currIdx ← v.getTypeIdx currIt
      if prevIdx = kDexNoIndex16 then pure ()
      else if currIdx = kDexNoIndex16 then fail "Out-of-order proto_id arguments"
      else if prevIdx < currIdx then pure ()
      else if prevIdx > currIdx then fail "Out-of-order proto_id arguments"
      else
        v.checkProtoArgumentOrder fuel { currIt with pos := currIt.pos + 1 }
          { prevIt with pos := prevIt.pos + 1 }

/-- `CheckInterProtoIdItem()`. -/
def checkInterProtoIdItem (v : DexFileVerifier) (h : Header) (prevItem : Option Nat) :
    VerifyM Unit := do
  let item := (← get).ptr
  let shorty ← v.checkLoadStringByIdx h (← v.readLE item 4) "inter_proto_id_item shorty_idx"
  let parametersOff ← v.readLE (item + 8) 4
  if parametersOff ≠ 0 then checkOffsetToTypeMap parametersOff kDexTypeTypeList
  let returnType ← v.checkLoadStringByTypeIdx h (← v.readLE (item + 4) 2)
    "inter_proto_id_item return_type_idx"
  checkShortyDescriptorMatch (deref shorty) (some returnType) true
  let (it, shorty) ← v.checkProtoParameters h (← v.parameterIterator parametersOff) shorty.tail
  if it.hasNext || deref shorty != 0 then fail "Mismatched length for parameters and shorty"
  if let some prev := prevItem then
    let prevReturnTypeIdx ← v.readLE (prev + 4) 2
    let returnTypeIdx ← v.readLE (item + 4) 2
    if prevReturnTypeIdx > returnTypeIdx then fail "Out-of-order proto_id return types"
    else if prevReturnTypeIdx = returnTypeIdx then
      let currIt ← v.parameterIterator parametersOff
      let prevIt ← v.parameterIterator (← v.readLE (prev + 8) 4)
      v.checkProtoArgumentOrder currIt.size currIt prevIt
  modify fun s => { s with ptr := item + 12 }

/-- The `FieldId` at `offset`. -/
def readFieldId (v : DexFileVerifier) (offset : Nat) : VerifyM FieldId := do
  return ⟨← v.readLE offset 2, ← v.readLE (offset + 2) 2, ← v.readLE (offset + 4) 4⟩

/-- The `MethodId` at `offset`. -/
def readMethodId (v : DexFileVerifier) (offset : Nat) : VerifyM MethodId := do
  return ⟨← v.readLE offset 2, ← v.readLE (offset + 2) 2, ← v.readLE (offset + 4) 4⟩

/-- The descriptor of a class whose members an id names: valid, and starting with one of
`starts`. -/
def checkClassDescriptor (descriptor : List Nat) (starts : List Nat) : VerifyM Unit :=
  if !isValidDescriptor descriptor || !starts.contains (deref descriptor) then
    fail ("Invalid descriptor for class_idx: '" ++ asText descriptor ++ "'")
  else pure ()

/-- `CheckInterFieldIdItem()`. -/
def checkInterFieldIdItem (v : DexFileVerifier) (h : Header) (prevItem : Option Nat) :
    VerifyM Unit := do
  let item := (← get).ptr
  checkClassDescriptor (← v.checkLoadStringByTypeIdx h (← v.readLE item 2)
    "inter_field_id_item class_idx") ['L'.toNat]
  let typeDescriptor ← v.checkLoadStringByTypeIdx h (← v.readLE (item + 2) 2)
    "inter_field_id_item type_idx"
  if !isValidDescriptor typeDescriptor || deref typeDescriptor == 'V'.toNat then
    fail ("Invalid descriptor for type_idx: '" ++ asText typeDescriptor ++ "'")
  let descriptor ← v.checkLoadStringByIdx h (← v.readLE (item + 4) 4) "inter_field_id_item name_idx"
  if !isValidMemberName descriptor then fail ("Invalid field name: '" ++ asText descriptor ++ "'")
  if let some prev := prevItem then
    liftCheck (checkInterFieldIdOrder (← v.readFieldId prev) (← v.readFieldId item))
  modify fun s => { s with ptr := item + 8 }

/-- `CheckInterMethodIdItem()`. -/
def checkInterMethodIdItem (v : DexFileVerifier) (h : Header) (prevItem : Option Nat) :
    VerifyM Unit := do
  let item := (← get).ptr
  checkClassDescriptor (← v.checkLoadStringByTypeIdx h (← v.readLE item 2)
    "inter_method_id_item class_idx") ['L'.toNat, '['.toNat]
  let descriptor ← v.checkLoadStringByIdx h (← v.readLE (item + 4) 4) "inter_method_id_item name_idx"
  if !isValidMemberName descriptor then fail ("Invalid method name: '" ++ asText descriptor ++ "'")
  checkIndex (← v.readLE (item + 2) 2) h.protoIdsSize "inter_method_id_item proto_idx"
  if let some prev := prevItem then
    liftCheck (checkInterMethodIdOrder (← v.readMethodId prev) (← v.readMethodId item))
  modify fun s => { s with ptr := item + 8 }

/-! ## Class defs -/

/-- The first loop over the interfaces of a class def, from the `i`-th of the type list at
`interfaces`: each names a class. -/
def checkInterfaces (v : DexFileVerifier) (h : Header) (interfaces : Nat) : Nat → Nat → VerifyM Unit
  | 0, _ => pure ()
  | count + 1, i => do
    let infDescriptor ← v.checkLoadStringByTypeIdx h (← v.readLE (interfaces + 4 + 2 * i) 2)
      "inter_class_def_item interface type_idx"
    if !isValidDescriptor infDescriptor || deref infDescriptor != 'L'.toNat then
      fail ("Invalid interface: '" ++ asText infDescriptor ++ "'")
    v.checkInterfaces h interfaces count (i + 1)

/-- The duplicate test over the interfaces of a class def: the `i`-th against every one before
it, for `i` from `1`. -/
def checkDuplicateInterfaces (v : DexFileVerifier) (h : Header) (interfaces size : Nat) :
    VerifyM Unit := do
  for i in List.range' 1 (size - 1) do
    let idx1 ← v.readLE (interfaces + 4 + 2 * i) 2
    for j in List.range i do
      if idx1 = (← v.readLE (interfaces + 4 + 2 * j) 2) then
        fail ("Duplicate interface: '" ++ asText ((← v.stringByTypeIdx h idx1).getD []) ++ "'")

/-- `CheckInterClassDefItem()`, with `defined_classes_` before the item: the set after it.  The
flags are printed with `%d`, as a signed `int`. -/
def checkInterClassDefItem (v : DexFileVerifier) (h : Header) (definedClasses : List Nat) :
    VerifyM (List Nat) := do
  let item := (← get).ptr
  let classIdx ← v.readLE item 2
  if classIdx ∈ definedClasses then
    fail ("Redefinition of class with type idx: '" ++ toString classIdx ++ "'")
  let definedClasses := classIdx :: definedClasses
  let classDescriptor ← v.checkLoadStringByTypeIdx h classIdx "inter_class_def_item class_idx"
  if !isValidDescriptor classDescriptor || deref classDescriptor != 'L'.toNat then
    fail ("Invalid class descriptor: '" ++ asText classDescriptor ++ "'")
  let accessFlags ← v.readLE (item + 4) 4
  if accessFlags &&& complement32 kAccJavaFlagsMask ≠ 0 then
    fail ("Invalid class flags: '" ++ toString (Word.toSigned 32 accessFlags) ++ "'")
  let interfacesOff ← v.readLE (item + 12) 4
  if interfacesOff ≠ 0 then checkOffsetToTypeMap interfacesOff kDexTypeTypeList
  let annotationsOff ← v.readLE (item + 20) 4
  if annotationsOff ≠ 0 then checkOffsetToTypeMap annotationsOff kDexTypeAnnotationsDirectoryItem
  let classDataOff ← v.readLE (item + 24) 4
  if classDataOff ≠ 0 then checkOffsetToTypeMap classDataOff kDexTypeClassDataItem
  let staticValuesOff ← v.readLE (item + 28) 4
  if staticValuesOff ≠ 0 then checkOffsetToTypeMap staticValuesOff kDexTypeEncodedArrayItem
  let superclassIdx ← v.readLE (item + 8) 2
  if superclassIdx ≠ kDexNoIndex16 then
    let superclassDescriptor ← v.checkLoadStringByTypeIdx h superclassIdx
      "inter_class_def_item superclass_idx"
    if !isValidDescriptor superclassDescriptor || deref superclassDescriptor != 'L'.toNat then
      fail ("Invalid superclass: '" ++ asText superclassDescriptor ++ "'")
  -- `GetInterfacesList` is null when `interfaces_off_` is zero
  if interfacesOff ≠ 0 then
    let size ← v.readLE interfacesOff 4
    v.checkInterfaces h interfacesOff size 0
    v.checkDuplicateInterfaces h interfacesOff size
  if classDataOff ≠ 0 then
    let dataDefiner ← v.findFirstClassDataDefiner h classDataOff
    if dataDefiner ≠ classIdx ∧ dataDefiner ≠ kDexNoIndex16 then fail "Invalid class_data_item"
  if annotationsOff ≠ 0 then
    let annotationsDefiner ← v.findFirstAnnotationsDirectoryDefiner h annotationsOff
    if annotationsDefiner ≠ classIdx ∧ annotationsDefiner ≠ kDexNoIndex16 then
      fail "Invalid annotations_directory_item"
  modify fun s => { s with ptr := item + 32 }
  return definedClasses

/-! ## The items of the data section that refer to others -/

/-- The loop of `CheckInterAnnotationSetRefList` over the `count` items left from `item`. -/
def checkAnnotationSetRefs (v : DexFileVerifier) : Nat → Nat → VerifyM Unit
  | 0, _ => pure ()
  | count + 1, item => do
    let annotationsOff ← v.readLE item 4
    if annotationsOff ≠ 0 then checkOffsetToTypeMap annotationsOff kDexTypeAnnotationSetItem
    v.checkAnnotationSetRefs count (item + 4)

/-- `CheckInterAnnotationSetRefList()`. -/
def checkInterAnnotationSetRefList (v : DexFileVerifier) : VerifyM Unit := do
  let list := (← get).ptr
  let count ← v.readLE list 4
  v.checkAnnotationSetRefs count (list + 4)
  modify fun s => { s with ptr := list + 4 + 4 * count }

/-- The loop of `CheckInterAnnotationSetItem` over the `count` offsets left from `offsets`; `i`
and `last_idx` are its locals.  The type index is read after the visibility byte of the
annotation, even at offset `0`. -/
def checkAnnotationSetEntries (v : DexFileVerifier) : Nat → Nat → Nat → Nat → VerifyM Unit
  | 0, _, _, _ => pure ()
  | count + 1, offsets, i, lastIdx => do
    let annotationOff ← v.readLE offsets 4
    if annotationOff ≠ 0 then checkOffsetToTypeMap annotationOff kDexTypeAnnotationItem
    let (idx, _) ← v.decodeUnsignedLeb128At (annotationOff + 1)
    if lastIdx ≥ idx ∧ i ≠ 0 then
      fail ("Out-of-order entry types: " ++ hex lastIdx ++ " then " ++ hex idx)
    v.checkAnnotationSetEntries count (offsets + 4) (i + 1) idx

/-- `CheckInterAnnotationSetItem()`. -/
def checkInterAnnotationSetItem (v : DexFileVerifier) : VerifyM Unit := do
  let set := (← get).ptr
  let count ← v.readLE set 4
  v.checkAnnotationSetEntries count (set + 4) 0 0
  modify fun s => { s with ptr := set + 4 + 4 * count }

/-- The two loops of `CheckInterClassDataItem`, from the iterator at the first member: each
member belongs to `definingClass`, and a method's code is a code item. -/
def checkInterClassDataMembers (v : DexFileVerifier) (h : Header) (definingClass : Nat)
    (it : ClassDataIterator) : VerifyM ClassDataIterator := do
  let it ← v.classDataLoop (fun it => it.hasNextStaticField || it.hasNextInstanceField)
    (fun it => do
      let field ← checkLoadFieldId h it.getMemberIndex "inter_class_data_item field_id"
      if (← v.readLE field 2) ≠ definingClass then
        fail "Mismatched defining class for class_data_item field") (2 ^ 32) it
  v.classDataLoop (fun it => it.hasNextDirectMethod || it.hasNextVirtualMethod)
    (fun it => do
      if it.methodCodeOff ≠ 0 then checkOffsetToTypeMap it.methodCodeOff kDexTypeCodeItem
      let method ← checkLoadMethodId h it.getMemberIndex "inter_class_data_item method_id"
      if (← v.readLE method 2) ≠ definingClass then
        fail "Mismatched defining class for class_data_item method") (2 ^ 32) it

/-- `CheckInterClassDataItem()`. -/
def checkInterClassDataItem (v : DexFileVerifier) (h : Header) : VerifyM Unit := do
  let p := (← get).ptr
  let it ← v.classDataIterator p
  let definingClass ← v.findFirstClassDataDefiner h p
  let it ← v.checkInterClassDataMembers h definingClass it
  let p ← endDataPointer it
  modify fun s => { s with ptr := p }

/-- The loop over the `count` (index, annotations offset) items left from `item` of an
annotations directory: the member `load` finds belongs to `definingClass`, and the offset is of
an item of `type`. -/
def checkAnnotatedMembers (v : DexFileVerifier) (load : Nat → VerifyM Nat) (mismatch : String)
    (type definingClass : Nat) : Nat → Nat → VerifyM Unit
  | 0, _ => pure ()
  | count + 1, item => do
    let member ← load (← v.readLE item 4)
    if (← v.readLE member 2) ≠ definingClass then fail mismatch
    checkOffsetToTypeMap (← v.readLE (item + 4) 4) type
    v.checkAnnotatedMembers load mismatch type definingClass count (item + 8)

/-- `CheckInterAnnotationsDirectoryItem()`. -/
def checkInterAnnotationsDirectoryItem (v : DexFileVerifier) (h : Header) : VerifyM Unit := do
  let item := (← get).ptr
  let definingClass ← v.findFirstAnnotationsDirectoryDefiner h item
  let classAnnotationsOff ← v.readLE item 4
  if classAnnotationsOff ≠ 0 then
    checkOffsetToTypeMap classAnnotationsOff kDexTypeAnnotationSetItem
  let fieldItem := item + 16
  let fieldCount ← v.readLE (item + 4) 4
  v.checkAnnotatedMembers
    (fun idx => checkLoadFieldId h idx "inter_annotations_directory_item field_id")
    "Mismatched defining class for field_annotation" kDexTypeAnnotationSetItem definingClass
    fieldCount fieldItem
  let methodItem := fieldItem + 8 * fieldCount
  let methodCount ← v.readLE (item + 8) 4
  v.checkAnnotatedMembers
    (fun idx => checkLoadMethodId h idx "inter_annotations_directory_item method_id")
    "Mismatched defining class for method_annotation" kDexTypeAnnotationSetItem definingClass
    methodCount methodItem
  let parameterItem := methodItem + 8 * methodCount
  let parameterCount ← v.readLE (item + 12) 4
  v.checkAnnotatedMembers
    (fun idx => checkLoadMethodId h idx "inter_annotations_directory_item parameter method_id")
    "Mismatched defining class for parameter_annotation" kDexTypeAnnotationSetRefList
    definingClass parameterCount parameterItem
  modify fun s => { s with ptr := parameterItem + 8 * parameterCount }

/-! ## The pass -/

/-- The check of one item of `CheckInterSectionIterate`, by the section's type, after the item at
`prevItem` if there is one; `defined_classes_` before and after it. -/
def checkInterItem (v : DexFileVerifier) (h : Header) (type : Nat) (prevItem : Option Nat)
    (definedClasses : List Nat) : VerifyM (List Nat) :=
  if type = kDexTypeClassDefItem then v.checkInterClassDefItem h definedClasses
  else do
    if type = kDexTypeStringIdItem then v.checkInterStringIdItem prevItem
    else if type = kDexTypeTypeIdItem then v.checkInterTypeIdItem h prevItem
    else if type = kDexTypeProtoIdItem then v.checkInterProtoIdItem h prevItem
    else if type = kDexTypeFieldIdItem then v.checkInterFieldIdItem h prevItem
    else if type = kDexTypeMethodIdItem then v.checkInterMethodIdItem h prevItem
    else if type = kDexTypeAnnotationSetRefList then v.checkInterAnnotationSetRefList
    else if type = kDexTypeAnnotationSetItem then v.checkInterAnnotationSetItem
    else if type = kDexTypeClassDataItem then v.checkInterClassDataItem h
    else if type = kDexTypeAnnotationsDirectoryItem then v.checkInterAnnotationsDirectoryItem h
    else fail ("Unknown map item type " ++ hex type)
    return definedClasses

/-- The loop of `CheckInterSectionIterate` over the `count` items left, the next at or after
`offset`; `prevItem` is `previous_item_`. -/
def checkInterSectionItems (v : DexFileVerifier) (h : Header) (type alignmentMask : Nat) :
    Nat → Nat → Option Nat → List Nat → VerifyM (List Nat)
  | 0, _, _, definedClasses => pure definedClasses
  | count + 1, offset, prevItem, definedClasses => do
    let newOffset := (offset + alignmentMask) / (alignmentMask + 1) * (alignmentMask + 1)
    modify fun s => { s with ptr := newOffset }
    let definedClasses ← v.checkInterItem h type prevItem definedClasses
    v.checkInterSectionItems h type alignmentMask count (← get).ptr (some newOffset) definedClasses

/-- `CheckInterSectionIterate(offset, count, type)`. -/
def checkInterSectionIterate (v : DexFileVerifier) (h : Header) (offset count type : Nat)
    (definedClasses : List Nat) : VerifyM (List Nat) :=
  let alignmentMask := if type = kDexTypeClassDataItem then 0 else 3
  v.checkInterSectionItems h type alignmentMask count offset none definedClasses

/-- The map item types that `CheckInterSection` passes over. -/
def interSectionSkipped : List Nat :=
  [kDexTypeHeaderItem, kDexTypeMapList, kDexTypeTypeList, kDexTypeCodeItem, kDexTypeStringDataItem,
    kDexTypeDebugInfoItem, kDexTypeAnnotationItem, kDexTypeEncodedArrayItem]

/-- The map item types that `CheckInterSection` iterates over. -/
def interSectionChecked : List Nat :=
  [kDexTypeStringIdItem, kDexTypeTypeIdItem, kDexTypeProtoIdItem, kDexTypeFieldIdItem,
    kDexTypeMethodIdItem, kDexTypeClassDefItem, kDexTypeAnnotationSetRefList,
    kDexTypeAnnotationSetItem, kDexTypeClassDataItem, kDexTypeAnnotationsDirectoryItem]

/-- The loop of `CheckInterSection` over the `count` map items left, from the one at `item`. -/
def checkInterSectionMap (v : DexFileVerifier) (h : Header) :
    Nat → Nat → List Nat → VerifyM Unit
  | 0, _, _ => pure ()
  | count + 1, item, definedClasses => do
    let it ← v.readMapItem item
    let definedClasses ←
      if it.type ∈ interSectionSkipped then pure definedClasses
      else if it.type ∈ interSectionChecked then
        v.checkInterSectionIterate h it.offset it.size it.type definedClasses
      else fail ("Unknown map item type " ++ hex it.type)
    v.checkInterSectionMap h count (item + 12) definedClasses

/-- `CheckInterSection()`; `defined_classes_` starts empty. -/
def checkInterSection (v : DexFileVerifier) (h : Header) : VerifyM Unit := do
  let map := h.mapOff
  let count ← v.readLE map 4
  v.checkInterSectionMap h count (map + 4) []

/-- `Verify()`. -/
def verify (v : DexFileVerifier) : VerifyM Unit := do
  let h ← v.readHeader
  v.checkHeader h
  v.checkMap h
  v.checkIntraSection h
  v.checkInterSection h

/-- The state of a new verifier: `ptr_` null, nothing read. -/
def initialState : VerifierState := ⟨0, [], 0⟩

/-! ## Handler data past the end of the file

`CheckIntraCodeItem` decodes `handlers_size` at `GetCatchHandlerData`, just past the try items,
before `CheckListSize` checks that the try items are inside the file.  In this file of `0xAC`
bytes a header, one code item at `0x70` and the map list at `0x84` pass `CheckHeader` and
`CheckMap`; the code item has two code units and five try items, so that its handler data starts
at `0x84 + 5 * 8 = 0xAC`, the end of the file.  The memory after the file is zero. -/

/-- The bytes of the file. -/
def handlerPastEndBytes : List UInt8 :=
  [0x64, 0x65, 0x78, 0x0a, 0x30, 0x33, 0x35, 0x00, 0xb0, 0x04, 0x35, 0xa5, 0x00, 0x00, 0x00, 0x00, 
    0x00, 0x00, 0x00, 0x00, 0x00, 0x00, 0x00, 0x00, 0x00, 0x00, 0x00, 0x00, 0x00, 0x00, 0x00, 0x00, 
    0xac, 0x00, 0x00, 0x00, 0x70, 0x00, 0x00, 0x00, 0x78, 0x56, 0x34, 0x12, 0x00, 0x00, 0x00, 0x00, 
    0x00, 0x00, 0x00, 0x00, 0x84, 0x00, 0x00, 0x00, 0x00, 0x00, 0x00, 0x00, 0x00, 0x00, 0x00, 0x00, 
    0x00, 0x00, 0x00, 0x00, 0x00, 0x00, 0x00, 0x00, 0x00, 0x00, 0x00, 0x00, 0x00, 0x00, 0x00, 0x00, 
    0x00, 0x00, 0x00, 0x00, 0x00, 0x00, 0x00, 0x00, 0x00, 0x00, 0x00, 0x00, 0x00, 0x00, 0x00, 0x00, 
    0x00, 0x00, 0x00, 0x00, 0x00, 0x00, 0x00, 0x00, 0x3c, 0x00, 0x00, 0x00, 0x70, 0x00, 0x00, 0x00, 
    0x01, 0x00, 0x00, 0x00, 0x00, 0x00, 0x05, 0x00, 0x00, 0x00, 0x00, 0x00, 0x02, 0x00, 0x00, 0x00, 
    0x0e, 0x00, 0x0e, 0x00, 0x03, 0x00, 0x00, 0x00, 0x00, 0x00, 0x00, 0x00, 0x01, 0x00, 0x00, 0x00, 
    0x00, 0x00, 0x00, 0x00, 0x01, 0x20, 0x00, 0x00, 0x01, 0x00, 0x00, 0x00, 0x70, 0x00, 0x00, 0x00, 
    0x00, 0x10, 0x00, 0x00, 0x01, 0x00, 0x00, 0x00, 0x84, 0x00, 0x00, 0x00]

/-- The file, mapped at `0x10000`. -/
def handlerPastEndFile : DexFileVerifier := ⟨0x10000, 0xAC, fun i => handlerPastEndBytes.getD i 0⟩

theorem verify_reads_past_end :
    kHeaderSize ≤ handlerPastEndFile.size ∧ handlerPastEndBytes.length = handlerPastEndFile.size ∧
      (handlerPastEndFile.verify.run initialState).run.1 =
        .error (.failure "Invalid handlers_size: 0d") ∧
      (handlerPastEndFile.verify.run initialState).run.2.readEnd = handlerPastEndFile.size + 1 := by
  refine ⟨by decide, rfl, by decide +kernel, by decide +kernel⟩

end DexFileVerifier

end Art
