import AndroidArt.Verifier.RegisterLine
import Mathlib.Data.Finset.Basic

/-!
# Register types and their merge

Model of `RegType` (`runtime/verifier/reg_type.h`), of `RegType::Merge` and `RegType::ClassJoin`
(`reg_type.cc`), and of the factories of `RegTypeCache` that `Merge` calls.

* `RegType` — one constructor for each concrete subclass of `RegType`, with the data that
  subclass holds: the `int32_t` of a constant, the class and allocation pc of an uninitialized
  type, the descriptor of an unresolved one, and the set of merged type ids of an
  `UnresolvedMergedType`.  The cache interns its entries, so that two entries are `Equals` (the
  same id) exactly when they are the same value here.
* `ClassHierarchy` — what `ClassJoin` and `IsJavaLangObject` ask of `mirror::Class`.
* `RegTypeCache` — the ids of the cache's entries, and which classes it already holds a precise
  entry for first: `FromClass(descriptor, klass, false)` returns that entry for a class that
  `CannotBeAssignedFromOtherTypes`.
* `merge` — `RegType::Merge`, branch for branch in the order of the source; `classJoin` —
  `RegType::ClassJoin`.
* `regTypes` — the merge and the predicates that `RegisterLine` asks of the types, with the
  primitive part `primitiveTypes`, for the model of the code-flow pass.

The model is the release build: the `DCHECK` of `ConstantValue` that its type is a constant is
left out.
-/

set_option autoImplicit false

namespace Art

namespace Verifier

/-- The register types, one constructor for each concrete subclass of `RegType`. -/
inductive RegType (κ : Type) where
  | undefined
  | conflict
  | boolean
  | byte
  | short
  | char
  | integer
  | float
  | longLo
  | longHi
  | doubleLo
  | doubleHi
  | preciseConst (value : Int32)
  | impreciseConst (value : Int32)
  | preciseConstLo (value : Int32)
  | impreciseConstLo (value : Int32)
  | preciseConstHi (value : Int32)
  | impreciseConstHi (value : Int32)
  /-- The result of `new-instance` at `allocationPc`, before its constructor has run. -/
  | uninitializedReference (klass : κ) (allocationPc : Nat)
  | unresolvedUninitializedRef (descriptor : String) (allocationPc : Nat)
  /-- `this` in a constructor, before the superclass constructor has run. -/
  | uninitializedThisReference (klass : κ)
  | unresolvedUninitializedThisRef (descriptor : String)
  | reference (klass : κ)
  | preciseReference (klass : κ)
  | unresolvedReference (descriptor : String)
  | unresolvedSuperClass (childId : Nat)
  /-- `UnresolvedMergedType`, by the set its `GetMergedTypes` returns. -/
  | unresolvedMerged (types : Finset Nat)
  deriving DecidableEq

/-- What `RegType` asks of `mirror::Class`. -/
structure ClassHierarchy (κ : Type) where
  /-- The class of `java.lang.Object`. -/
  javaLangObject : κ
  getSuperClass : κ → κ
  /-- `Depth`: the number of superclasses. -/
  depth : κ → Nat
  /-- `Class::IsAssignableFrom`. -/
  isAssignableFrom : κ → κ → Bool
  isArrayClass : κ → Bool
  getComponentType : κ → κ
  isPrimitive : κ → Bool
  /-- `ClassLinker::FindArrayClass`: the class of arrays of a component type. -/
  findArrayClass : κ → κ
  cannotBeAssignedFromOtherTypes : κ → Bool
  /-- The number of dimensions of an array class, one more than its component type has: the
  measure of the recursion of `ClassJoin` on two array classes. -/
  dimensions : κ → Nat
  dimensions_componentType : ∀ c, isArrayClass c = true → dimensions (getComponentType c) < dimensions c

/-- What `Merge` reads of the `RegTypeCache`. -/
structure RegTypeCache (κ : Type) where
  /-- `GetId` of the entries. -/
  getId : RegType κ → Nat
  /-- Whether the first entry of the class in `entries_` that `FromClass` finds is a precise
  reference. -/
  preciseFirst : κ → Bool

namespace RegType

variable {κ : Type}

/-- `IsConstantTypes`: the subclasses of `ConstantType`. -/
def isConstantTypes : RegType κ → Bool
  | preciseConst _ | impreciseConst _ | preciseConstLo _ | impreciseConstLo _
  | preciseConstHi _ | impreciseConstHi _ => true
  | _ => false

/-- `ConstantValue`, `ConstantValueLo`, `ConstantValueHi`: the `constant_` of a constant. -/
def constantValue : RegType κ → Int32
  | preciseConst v | impreciseConst v | preciseConstLo v | impreciseConstLo v
  | preciseConstHi v | impreciseConstHi v => v
  | _ => 0

def isConflict : RegType κ → Bool
  | conflict => true
  | _ => false

def isUndefined : RegType κ → Bool
  | undefined => true
  | _ => false

/-- `IsBoolean`, `IsByte`, ...: the primitive types, one subclass each. -/
def isBoolean : RegType κ → Bool
  | boolean => true
  | _ => false

def isByte : RegType κ → Bool
  | byte => true
  | _ => false

def isShort : RegType κ → Bool
  | short => true
  | _ => false

def isChar : RegType κ → Bool
  | char => true
  | _ => false

def isInteger : RegType κ → Bool
  | integer => true
  | _ => false

def isFloat : RegType κ → Bool
  | float => true
  | _ => false

def isLongLo : RegType κ → Bool
  | longLo => true
  | _ => false

def isLongHi : RegType κ → Bool
  | longHi => true
  | _ => false

def isDoubleLo : RegType κ → Bool
  | doubleLo => true
  | _ => false

def isDoubleHi : RegType κ → Bool
  | doubleHi => true
  | _ => false

def isPreciseConstant : RegType κ → Bool
  | preciseConst _ => true
  | _ => false

/-- `IsConstant`: a 32-bit constant, precise or not. -/
def isConstant : RegType κ → Bool
  | preciseConst _ | impreciseConst _ => true
  | _ => false

def isConstantLo : RegType κ → Bool
  | preciseConstLo _ | impreciseConstLo _ => true
  | _ => false

def isConstantHi : RegType κ → Bool
  | preciseConstHi _ | impreciseConstHi _ => true
  | _ => false

/-- `IsZero`: the precise constant 0, which is also the null reference. -/
def isZero (t : RegType κ) : Bool := t.isPreciseConstant && t.constantValue == 0

def isConstantBoolean (t : RegType κ) : Bool :=
  t.isConstant && 0 ≤ t.constantValue && t.constantValue ≤ 1

def isConstantByte (t : RegType κ) : Bool :=
  t.isConstant && -128 ≤ t.constantValue && t.constantValue ≤ 127

def isConstantShort (t : RegType κ) : Bool :=
  t.isConstant && -32768 ≤ t.constantValue && t.constantValue ≤ 32767

def isConstantChar (t : RegType κ) : Bool :=
  t.isConstant && 0 ≤ t.constantValue && t.constantValue ≤ 65535

def isBooleanTypes (t : RegType κ) : Bool := t.isBoolean || t.isConstantBoolean

def isByteTypes (t : RegType κ) : Bool := t.isConstantByte || t.isByte || t.isBoolean

def isShortTypes (t : RegType κ) : Bool :=
  t.isShort || t.isByte || t.isBoolean || t.isConstantShort

def isCharTypes (t : RegType κ) : Bool := t.isChar || t.isBooleanTypes || t.isConstantChar

def isIntegralTypes (t : RegType κ) : Bool :=
  t.isInteger || t.isConstant || t.isByte || t.isShort || t.isChar || t.isBoolean

/-- `IsFloatTypes`: a float may come from any 32-bit constant. -/
def isFloatTypes (t : RegType κ) : Bool := t.isFloat || t.isConstant

def isLongTypes (t : RegType κ) : Bool := t.isLongLo || t.isConstantLo

def isLongHighTypes (t : RegType κ) : Bool := t.isLongHi || t.isConstantHi

def isDoubleTypes (t : RegType κ) : Bool := t.isDoubleLo || t.isConstantLo

def isDoubleHighTypes (t : RegType κ) : Bool := t.isDoubleHi || t.isConstantHi

def isUninitializedTypes : RegType κ → Bool
  | uninitializedReference _ _ | unresolvedUninitializedRef _ _
  | uninitializedThisReference _ | unresolvedUninitializedThisRef _ => true
  | _ => false

def isUnresolvedTypes : RegType κ → Bool
  | unresolvedReference _ | unresolvedUninitializedRef _ _ | unresolvedUninitializedThisRef _
  | unresolvedMerged _ | unresolvedSuperClass _ => true
  | _ => false

/-- `IsNonZeroReferenceTypes`: the uninitialized, resolved and unresolved references. -/
def isNonZeroReferenceTypes (t : RegType κ) : Bool :=
  t.isUninitializedTypes || t.isUnresolvedTypes ||
    match t with
    | reference _ | preciseReference _ => true
    | _ => false

def isReferenceTypes (t : RegType κ) : Bool := t.isNonZeroReferenceTypes || t.isZero

def isPreciseReference : RegType κ → Bool
  | preciseReference _ => true
  | _ => false

/-- `klass_`, which the types with a class hold. -/
def getClass : RegType κ → Option κ
  | uninitializedReference k _ | uninitializedThisReference k | reference k
  | preciseReference k => some k
  | _ => none

/-- `IsJavaLangObject`: `IsReference() && GetClass()->IsObjectClass()`; `IsReference` holds of the
imprecise `ReferenceType` only. -/
def isJavaLangObject [DecidableEq κ] (H : ClassHierarchy κ) : RegType κ → Bool
  | reference k => k == H.javaLangObject
  | _ => false

def isUnresolvedMergedReference : RegType κ → Bool
  | unresolvedMerged _ => true
  | _ => false

def isLowHalf (t : RegType κ) : Bool := t.isLongLo || t.isDoubleLo || t.isConstantLo

def isHighHalf (t : RegType κ) : Bool := t.isLongHi || t.isDoubleHi || t.isConstantHi

def isCategory1Types (t : RegType κ) : Bool :=
  t.isChar || t.isInteger || t.isFloat || t.isConstant || t.isByte || t.isShort || t.isBoolean

/-- `CheckWidePair(type_h)`: a low half whose high half is `th`, a constant half matching a
constant half of either precision. -/
def checkWidePair (t th : RegType κ) : Bool :=
  t.isLowHalf &&
    ((t.isConstantLo && th.isConstantHi) || (t.isDoubleLo && th.isDoubleHi) ||
      (t.isLongLo && th.isLongHi))

end RegType

open RegType

variable {κ : Type} [DecidableEq κ] (H : ClassHierarchy κ)

/-- The walk up from two classes of the same depth: `while (s != t)` both move to their
superclass.  In a hierarchy rooted at `java.lang.Object` the walk takes at most as many rounds as
the depth; `fuel` is that depth. -/
def commonSuperClass : Nat → κ → κ → κ
  | 0, s, _ => s
  | fuel + 1, s, t => if s = t then s else commonSuperClass fuel (H.getSuperClass s) (H.getSuperClass t)

/-- `RegType::ClassJoin(s, t)`: the least common superclass, with arrays joined by their
component types. -/
def classJoin (s t : κ) : κ :=
  if s = t then s
  else if H.isAssignableFrom s t then s
  else if H.isAssignableFrom t s then t
  else if h : H.isArrayClass s = true ∧ H.isArrayClass t = true then
    let sCt := H.getComponentType s
    let tCt := H.getComponentType t
    -- a primitive array joins another array only at `java.lang.Object`, the superclass of every
    -- array class
    if H.isPrimitive sCt || H.isPrimitive tCt then H.getSuperClass s
    else
      have := H.dimensions_componentType s h.1
      H.findArrayClass (classJoin sCt tCt)
  else
    let sDepth := H.depth s
    let tDepth := H.depth t
    commonSuperClass H (min sDepth tDepth) (H.getSuperClass^[sDepth - tDepth] s)
      (H.getSuperClass^[tDepth - sDepth] t)
termination_by H.dimensions s

variable (cache : RegTypeCache κ)

/-- `SelectNonConstant(a, b)`. -/
def selectNonConstant (a b : RegType κ) : RegType κ := if a.isConstantTypes then b else a

/-- `FromCat1Const(value, false)`. -/
def fromCat1Const (value : Int32) : RegType κ := impreciseConst value

/-- `ByteConstant()`, `ShortConstant()`, `IntConstant()`: the imprecise constants at the end of
the ranges. -/
def byteConstant : RegType κ := fromCat1Const (-128)

def shortConstant : RegType κ := fromCat1Const (-32768)

def intConstant : RegType κ := fromCat1Const 2147483647

/-- `JavaLangObject(false)`: the imprecise reference type of `java.lang.Object`, which is not
final. -/
def javaLangObject : RegType κ := reference H.javaLangObject

/-- `FromClass(descriptor, klass, false)`: the first entry of the class whose precision matches,
where a precise entry matches a class that cannot be assigned from other types. -/
def fromClass (klass : κ) : RegType κ :=
  if H.cannotBeAssignedFromOtherTypes klass && cache.preciseFirst klass then preciseReference klass
  else reference klass

/-- The ids that an operand of `FromUnresolvedMerge` contributes to the merged set. -/
def mergedTypes (t : RegType κ) : Finset Nat :=
  match t with
  | unresolvedMerged types => types
  | _ => {cache.getId t}

/-- `FromUnresolvedMerge(left, right)`: the entry for the union of the merged sets. -/
def fromUnresolvedMerge (left right : RegType κ) : RegType κ :=
  unresolvedMerged (mergedTypes cache left ∪ mergedTypes cache right)

/-- The constant branch of `Merge`: two 32-bit constants. -/
def mergeConstants (a b : RegType κ) : RegType κ :=
  let val1 := a.constantValue
  let val2 := b.constantValue
  if val1 ≥ 0 && val2 ≥ 0 then
    -- +ve1 MERGE +ve2 => MAX(+ve1, +ve2)
    if val1 ≥ val2 then (if !a.isPreciseConstant then a else fromCat1Const val1)
    else (if !b.isPreciseConstant then b else fromCat1Const val2)
  else if val1 < 0 && val2 < 0 then
    -- -ve1 MERGE -ve2 => MIN(-ve1, -ve2)
    if val1 ≤ val2 then (if !a.isPreciseConstant then a else fromCat1Const val1)
    else (if !b.isPreciseConstant then b else fromCat1Const val2)
  -- values of both signs: the smallest signed type in which both fit
  else if a.isConstantByte then
    if b.isConstantByte then byteConstant
    else if b.isConstantShort then shortConstant
    else intConstant
  else if a.isConstantShort then
    if b.isConstantShort then shortConstant else intConstant
  else intConstant

/-- The integral branch of `Merge`. -/
def mergeIntegral (a b : RegType κ) : RegType κ :=
  if a.isBooleanTypes && b.isBooleanTypes then boolean
  else if a.isByteTypes && b.isByteTypes then byte
  else if a.isShortTypes && b.isShortTypes then short
  else if a.isCharTypes && b.isCharTypes then char
  else integer

/-- The join of two resolved, initialized references: the joined class, as one of the operands
when it is that operand's class and the operand is imprecise. -/
def mergeClasses (a b : RegType κ) : RegType κ :=
  match a.getClass, b.getClass with
  | some c1, some c2 =>
    let joinClass := classJoin H c1 c2
    if c1 = joinClass && !a.isPreciseReference then a
    else if c2 = joinClass && !b.isPreciseReference then b
    else fromClass H cache joinClass
  | _, _ => conflict

/-- The reference branch of `Merge`. -/
def mergeReferences (a b : RegType κ) : RegType κ :=
  if a.isZero || b.isZero then selectNonConstant a b
  else if a.isJavaLangObject H || b.isJavaLangObject H then javaLangObject H
  else if a.isUnresolvedTypes || b.isUnresolvedTypes then fromUnresolvedMerge cache a b
  else if a.isUninitializedTypes || b.isUninitializedTypes then conflict
  else mergeClasses H cache a b

/-- `a.Merge(b, reg_types)`, which the verifier calls on two different types. -/
def merge (a b : RegType κ) : RegType κ :=
  if a.isConflict then a
  else if b.isConflict then b
  else if a.isUndefined || b.isUndefined then conflict
  else if a.isConstant && b.isConstant then mergeConstants a b
  else if a.isConstantLo && b.isConstantLo then impreciseConstLo (a.constantValue ||| b.constantValue)
  else if a.isConstantHi && b.isConstantHi then impreciseConstHi (a.constantValue ||| b.constantValue)
  else if a.isIntegralTypes && b.isIntegralTypes then mergeIntegral a b
  else if (a.isFloatTypes && b.isFloatTypes) || (a.isLongTypes && b.isLongTypes) ||
      (a.isLongHighTypes && b.isLongHighTypes) || (a.isDoubleTypes && b.isDoubleTypes) ||
      (a.isDoubleHighTypes && b.isDoubleHighTypes) then
    selectNonConstant a b
  else if a.isReferenceTypes && b.isReferenceTypes then mergeReferences H cache a b
  else conflict

/-- The primitive part of the cache: its entries of the primitive types and of the constants,
`FromCat1Const` and its wide forms giving the precise or the imprecise entry. -/
def primitiveTypes (needPreciseConstants : Bool) : PrimitiveTypes (RegType κ) where
  boolean := boolean
  byte := byte
  short := short
  char := char
  integer := integer
  float := float
  longLo := longLo
  longHi := longHi
  doubleLo := doubleLo
  doubleHi := doubleHi
  fromCat1Const value precise := if precise then preciseConst value else impreciseConst value
  fromCat2ConstLo value precise := if precise then preciseConstLo value else impreciseConstLo value
  fromCat2ConstHi value precise := if precise then preciseConstHi value else impreciseConstHi value
  isZero := isZero
  isBooleanTypes := isBooleanTypes
  isByteTypes := isByteTypes
  isShortTypes := isShortTypes
  isCharTypes := isCharTypes
  isFloatTypes := isFloatTypes
  isLongTypes := isLongTypes
  isDoubleTypes := isDoubleTypes
  checkWidePair := checkWidePair
  needPreciseConstants := needPreciseConstants

/-- The register types of the model of the code-flow pass, with `Merge` for this hierarchy and
cache; `dump` prints a type. -/
def regTypes (dump : RegType κ → String) (needPreciseConstants : Bool) : RegTypes (RegType κ) where
  undefined := undefined
  conflict := conflict
  merge := merge H cache
  isReferenceTypes := isReferenceTypes
  isIntegralTypes := isIntegralTypes
  isCategory1Types := isCategory1Types
  isLowHalf := isLowHalf
  isHighHalf := isHighHalf
  dump := dump
  primitives := some (primitiveTypes needPreciseConstants)

end Verifier

end Art
