import AndroidArt.Lib.BinarySearch
import AndroidArt.Dex.FileVerifier

/-!
# The dex id lookups and the verifier's ordering of the id sections

Model of `DexFile::FindStringId` (both overloads), `FindTypeId`, `FindProtoId`, `FindFieldId` and
`FindMethodId` of `runtime/dex_file.cc`, of the string comparisons of `runtime/utf.cc` and
`runtime/utf-inl.h` they use, and of the ordering checks between consecutive items in
`DexFileVerifier::CheckInterStringIdItem`, `CheckInterTypeIdItem`, `CheckInterProtoIdItem`,
`CheckInterFieldIdItem` and `CheckInterMethodIdItem`.

The id sections are taken as decoded tables: a string is the list of bytes of its string data
before the terminating NUL, a parameter list the type indices of its type list (empty when
`parameters_off_` is zero).  Reading a string past its end reads the terminator.

Every lookup is the loop of `BinarySearch.search` with the comparison the source writes at the
midpoint; a lookup returns the index of the entry it finds.
-/

set_option autoImplicit false

namespace Art

namespace DexFile

/-! ## Strings -/

/-- `*p` on a NUL-terminated string. -/
def deref : List Nat → Nat
  | [] => 0
  | c :: _ => c

/-- `GetUtf16FromUtf8`: the UTF-16 unit at the front of a Modified UTF-8 string, and the rest. -/
def getUtf16FromUtf8 (utf8Data : List Nat) : Nat × List Nat :=
  let one := deref utf8Data
  let utf8Data := utf8Data.tail
  if one &&& 0x80 = 0 then (one, utf8Data)
  else
    let two := deref utf8Data
    let utf8Data := utf8Data.tail
    if one &&& 0x20 = 0 then (((one &&& 0x1f) <<< 6) ||| (two &&& 0x3f), utf8Data)
    else
      let three := deref utf8Data
      (((one &&& 0x0f) <<< 12) ||| ((two &&& 0x3f) <<< 6) ||| (three &&& 0x3f), utf8Data.tail)

/-- The loop of `CompareModifiedUtf8ToUtf16AsCodePointValues`, with a fuel argument.  The source
decodes a unit of the first string at each iteration but never advances the second. -/
def compareModifiedUtf8ToUtf16Loop : Nat → List Nat → List Nat → Int
  | 0, _, _ => 0
  | fuel + 1, utf8_1, utf8_2 =>
    if deref utf8_1 = 0 then (if deref utf8_2 = 0 then 0 else -1)
    else if deref utf8_2 = 0 then 1
    else
      let c1 := (getUtf16FromUtf8 utf8_1).1
      let c2 := deref utf8_2
      if c1 ≠ c2 then (if c1 > c2 then 1 else -1)
      else compareModifiedUtf8ToUtf16Loop fuel (getUtf16FromUtf8 utf8_1).2 utf8_2

/-- `CompareModifiedUtf8ToUtf16AsCodePointValues`; each iteration consumes a byte of the first
string, so its length bounds the iterations. -/
def compareModifiedUtf8ToUtf16AsCodePointValues (utf8_1 utf8_2 : List Nat) : Int :=
  compareModifiedUtf8ToUtf16Loop (utf8_1.length + 1) utf8_1 utf8_2

/-- The value of a two- or three-byte sequence led by `c`, `rest` the bytes after it, and the
bytes after the sequence. -/
def decodeMultiByte (c : Nat) (rest : List Nat) : Nat × List Nat :=
  if c &&& 0x20 = 0 then (((c &&& 0x1f) <<< 6) ||| (deref rest &&& 0x3f), rest.tail)
  else
    (((c &&& 0x0f) <<< 12) ||| ((deref rest &&& 0x3f) <<< 6) ||| (deref rest.tail &&& 0x3f),
      rest.tail.tail)

/-- The loop of `CompareModifiedUtf8ToModifiedUtf8AsUtf16CodePointValues`, with a fuel
argument. -/
def compareModifiedUtf8ToModifiedUtf8Loop : Nat → List Nat → List Nat → Int
  | 0, _, _ => 0
  | fuel + 1, utf8_1, utf8_2 =>
    let c1 := deref utf8_1
    let c2 := deref utf8_2
    if c1 = 0 then (if c2 = 0 then 0 else -1)
    else if c2 = 0 then 1
    else if c1 &&& 0x80 = 0 then
      if c1 = c2 then compareModifiedUtf8ToModifiedUtf8Loop fuel utf8_1.tail utf8_2.tail
      -- a one-byte value against another value: compare without advancing
      else if c2 &&& 0x80 = 0 then (c1 : Int) - c2
      else (c1 : Int) - (decodeMultiByte c2 utf8_2.tail).1
    else
      let d1 := decodeMultiByte c1 utf8_1.tail
      let d2 := if c2 &&& 0x80 = 0 then (c2, utf8_2.tail) else decodeMultiByte c2 utf8_2.tail
      if d1.1 = d2.1 then compareModifiedUtf8ToModifiedUtf8Loop fuel d1.2 d2.2
      else (d1.1 : Int) - d2.1

/-- `CompareModifiedUtf8ToModifiedUtf8AsUtf16CodePointValues`; each iteration consumes a byte of
the first string. -/
def compareModifiedUtf8ToModifiedUtf8AsUtf16CodePointValues (utf8_1 utf8_2 : List Nat) : Int :=
  compareModifiedUtf8ToModifiedUtf8Loop (utf8_1.length + 1) utf8_1 utf8_2

/-! ## The id items -/

/-- `TypeId`. -/
structure TypeId where
  descriptorIdx : Nat
  deriving DecidableEq, Repr

/-- `ProtoId`, its `parameters_off_` read as the type list it points to. -/
structure ProtoId where
  returnTypeIdx : Nat
  parameters : List Nat
  deriving DecidableEq, Repr

/-- `FieldId`. -/
structure FieldId where
  classIdx : Nat
  typeIdx : Nat
  nameIdx : Nat
  deriving DecidableEq, Repr

/-- `MethodId`. -/
structure MethodId where
  classIdx : Nat
  protoIdx : Nat
  nameIdx : Nat
  deriving DecidableEq, Repr

/-- The id sections a lookup reads. -/
structure Ids where
  stringData : List (List Nat)
  typeIds : List TypeId
  protoIds : List ProtoId
  fieldIds : List FieldId
  methodIds : List MethodId

/-! ## The lookups -/

/-- The comparison of `FindFieldId` and `FindMethodId`: class index, then name index, then the
third index. -/
def compareIndexTriple (classIdx nameIdx thirdIdx : Nat) (entryClassIdx entryNameIdx entryThirdIdx : Nat) :
    Int :=
  if classIdx > entryClassIdx then 1
  else if classIdx < entryClassIdx then -1
  else if nameIdx > entryNameIdx then 1
  else if nameIdx < entryNameIdx then -1
  else BinarySearch.threeWay thirdIdx entryThirdIdx

/-- The parameter loop of `FindProtoId` and the comparison after it: the signature against the
parameters of a proto, `-1` when the proto has more. -/
def compareParameters : List Nat → List Nat → Int
  | s :: signature, p :: parameters =>
    let compare : Int := (s : Int) - p
    if compare = 0 then compareParameters signature parameters else compare
  | [], _ :: _ => -1
  | _ :: _, [] => 1
  | [], [] => 0

/-- The comparison of `FindProtoId`: return type, then parameters. -/
def compareProtoId (returnTypeIdx : Nat) (signatureTypeIdxs : List Nat) (proto : ProtoId) : Int :=
  let compare : Int := (returnTypeIdx : Int) - proto.returnTypeIdx
  if compare = 0 then compareParameters signatureTypeIdxs proto.parameters else compare

namespace Ids

variable (d : Ids)

/-- `FindStringId(const char*)`. -/
def findStringId (string : List Nat) : Option Nat :=
  BinarySearch.search (fun mid =>
    compareModifiedUtf8ToModifiedUtf8AsUtf16CodePointValues string (d.stringData.getD mid []))
    d.stringData.length

/-- `FindStringId(const uint16_t*)`: the string data and the query stand in the comparison the
other way round from `findStringId`. -/
def findStringIdUtf16 (string : List Nat) : Option Nat :=
  BinarySearch.search (fun mid =>
    compareModifiedUtf8ToUtf16AsCodePointValues (d.stringData.getD mid []) string)
    d.stringData.length

/-- `FindTypeId`. -/
def findTypeId (stringIdx : Nat) : Option Nat :=
  BinarySearch.search (fun mid =>
    BinarySearch.threeWay stringIdx (d.typeIds.getD mid ⟨0⟩).descriptorIdx) d.typeIds.length

/-- `FindProtoId`. -/
def findProtoId (returnTypeIdx : Nat) (signatureTypeIdxs : List Nat) : Option Nat :=
  BinarySearch.search (fun mid =>
    compareProtoId returnTypeIdx signatureTypeIdxs (d.protoIds.getD mid ⟨0, []⟩)) d.protoIds.length

/-- `FindFieldId`, from the indices of the declaring class, the name and the type. -/
def findFieldId (classIdx nameIdx typeIdx : Nat) : Option Nat :=
  BinarySearch.search (fun mid =>
    let field := d.fieldIds.getD mid ⟨0, 0, 0⟩
    compareIndexTriple classIdx nameIdx typeIdx field.classIdx field.nameIdx field.typeIdx)
    d.fieldIds.length

/-- `FindMethodId`, from the indices of the declaring class, the name and the proto. -/
def findMethodId (classIdx nameIdx protoIdx : Nat) : Option Nat :=
  BinarySearch.search (fun mid =>
    let method := d.methodIds.getD mid ⟨0, 0, 0⟩
    compareIndexTriple classIdx nameIdx protoIdx method.classIdx method.nameIdx method.protoIdx)
    d.methodIds.length

end Ids

/-! ## The verifier's ordering checks -/

/-- A string's bytes as the text `%s` prints. -/
def asText (s : List Nat) : String := String.ofList (s.map Char.ofNat)

/-- The ordering check of `CheckInterStringIdItem`. -/
def checkInterStringIdOrder (prevStr str : List Nat) : Except String Unit :=
  if compareModifiedUtf8ToModifiedUtf8AsUtf16CodePointValues prevStr str ≥ 0 then
    .error ("Out-of-order string_ids: '" ++ asText prevStr ++ "' then '" ++ asText str ++ "'")
  else .ok ()

/-- The ordering check of `CheckInterTypeIdItem`. -/
def checkInterTypeIdOrder (prevItem item : TypeId) : Except String Unit :=
  if prevItem.descriptorIdx ≥ item.descriptorIdx then
    .error ("Out-of-order type_ids: " ++ hex prevItem.descriptorIdx ++ " then " ++
      hex item.descriptorIdx)
  else .ok ()

/-- `DexFile::kDexNoIndex16`. -/
def kDexNoIndex16 : Nat := 0xFFFF

/-- The parameter loop of the ordering check of `CheckInterProtoIdItem`, over the parameters of
the item and of the previous one; it stops at the end of either. -/
def checkProtoParameterOrder : List Nat → List Nat → Except String Unit
  | currIdx :: curr, prevIdx :: prev =>
    if prevIdx = kDexNoIndex16 then .ok ()
    else if currIdx = kDexNoIndex16 then .error "Out-of-order proto_id arguments"
    else if prevIdx < currIdx then .ok ()
    else if prevIdx > currIdx then .error "Out-of-order proto_id arguments"
    else checkProtoParameterOrder curr prev
  | _, _ => .ok ()

/-- The ordering check of `CheckInterProtoIdItem`. -/
def checkInterProtoIdOrder (prev item : ProtoId) : Except String Unit :=
  if prev.returnTypeIdx > item.returnTypeIdx then .error "Out-of-order proto_id return types"
  else if prev.returnTypeIdx = item.returnTypeIdx then
    checkProtoParameterOrder item.parameters prev.parameters
  else .ok ()

/-- The ordering check of `CheckInterFieldIdItem` and `CheckInterMethodIdItem` on the index
triples of the previous item and of the item. -/
def checkIndexTripleOrder (msg : String) (prevClassIdx prevNameIdx prevThirdIdx classIdx nameIdx thirdIdx : Nat) :
    Except String Unit :=
  if prevClassIdx > classIdx then .error msg
  else if prevClassIdx = classIdx then
    if prevNameIdx > nameIdx then .error msg
    else if prevNameIdx = nameIdx then
      if prevThirdIdx ≥ thirdIdx then .error msg else .ok ()
    else .ok ()
  else .ok ()

/-- The ordering check of `CheckInterFieldIdItem`. -/
def checkInterFieldIdOrder (prevItem item : FieldId) : Except String Unit :=
  checkIndexTripleOrder "Out-of-order field_ids" prevItem.classIdx prevItem.nameIdx
    prevItem.typeIdx item.classIdx item.nameIdx item.typeIdx

/-- The ordering check of `CheckInterMethodIdItem`. -/
def checkInterMethodIdOrder (prevItem item : MethodId) : Except String Unit :=
  checkIndexTripleOrder "Out-of-order method_ids" prevItem.classIdx prevItem.nameIdx
    prevItem.protoIdx item.classIdx item.nameIdx item.protoIdx

/-- The walk of `CheckInterSectionIterate` over a section, each item checked against the
previous one. -/
def checkInterItems {α : Type} (check : α → α → Except String Unit) : List α → Except String Unit
  | prev :: item :: rest => do
    check prev item
    checkInterItems check (item :: rest)
  | _ => .ok ()

/-- The ordering checks of the inter-section pass over the id sections. -/
def Ids.checkOrder (d : Ids) : Except String Unit := do
  checkInterItems checkInterStringIdOrder d.stringData
  checkInterItems checkInterTypeIdOrder d.typeIds
  checkInterItems checkInterProtoIdOrder d.protoIds
  checkInterItems checkInterFieldIdOrder d.fieldIds
  checkInterItems checkInterMethodIdOrder d.methodIds

end DexFile

end Art
