import AndroidArt.Lib.LinearProbe
import Mathlib.Algebra.GroupWithZero.Nat

/-!
# Virtual-method linking

Model of `ClassLinker::LinkVirtualMethods` (`runtime/class_linker.cc`) with what it calls:
`MethodNameAndSignatureComparator`, `LinkVirtualHashTable` (`Add`, `FindAndRemove`),
`ComputeModifiedUtf8Hash` (`runtime/utf.cc`) and `Class::CanAccessMember` with
`Class::IsSubClass` and `Class::IsInSamePackage` (`runtime/mirror/class.h`, `class.cc`,
`class-inl.h`).

The hash table is the open-addressing table of `AndroidArt.Lib.LinearProbe`, of
`3 * num_virtual_methods` slots holding indices of the class's own virtual methods, each at the
home slot given by the hash of its name.

The linking class `klass` has its own virtual methods, in declaration order, and the vtable of
its superclass, if it has one.  A vtable entry is either a method of the superclass's vtable or
one of `klass`'s own methods; a pointer comparison between an own method and an entry is a
comparison of `VTableEntry`s.  The method index of each own method is state: the loaded value,
then the slot that linking assigns, stored in `uint16_t`.

The loops of `Add` and `FindAndRemove` do not end on a full table; `linkVirtualMethods`
returns `none` for such a run.

Allocations do not fail here.  The `CHECK`s of `LinkVirtualMethods` hold of every input the model
takes (`actual_count` is at most `max_count`, and a class without a superclass is
`java.lang.Object`), and no method compared is a proxy method, as the `DCHECK` of
`HasSameNameAndSignature` wants: a debug and a release build run the model alike.
-/

set_option autoImplicit false

namespace Art

namespace ClassLinker

open LinearProbe

/-! ## Methods and classes -/

def kAccPublic : Nat := 0x0001
def kAccPrivate : Nat := 0x0002
def kAccProtected : Nat := 0x0004
def kAccFinal : Nat := 0x0010

/-- What linking reads of a class other than the one being linked. -/
structure ClassInfo where
  descriptor : String
  classLoader : Nat
  /-- The superclass, its superclass, and so on to `java.lang.Object`. -/
  superChain : List Nat
  isInterface : Bool

/-- The classes of the runtime, by identity. -/
abbrev ClassEnv := Nat → ClassInfo

/-- A virtual method as linking sees it: the modified UTF-8 bytes of its name, its signature,
its declaring class and its access flags. -/
structure ArtMethod where
  name : List UInt8
  signature : String
  declaringClass : Nat
  accessFlags : Nat
  deriving DecidableEq, Repr

instance : Inhabited ArtMethod := ⟨⟨[], "", 0, 0⟩⟩

/-- `ArtMethod::IsFinal`. -/
def ArtMethod.isFinal (m : ArtMethod) : Bool := m.accessFlags &&& kAccFinal != 0

/-- `MethodNameAndSignatureComparator::HasSameNameAndSignature`.  Within one dex file the source
compares `name_idx_` and `proto_idx_`, which in a verified file are equal exactly when the strings
and the signatures are. -/
def hasSameNameAndSignature (m other : ArtMethod) : Bool :=
  m.name == other.name && m.signature == other.signature

/-- `ComputeModifiedUtf8Hash`, `hash = hash * 31 + *chars++`, taken as the `uint32_t` that
`LinkVirtualHashTable` keeps.  `char` is unsigned on the ARM targets of this tree. -/
def computeModifiedUtf8Hash (name : List UInt8) : Nat :=
  name.foldl (fun hash c => (hash * 31 + c.toNat) % 2 ^ 32) 0

/-- The length of the common prefix of two descriptors. -/
def commonPrefixLength : List Char → List Char → Nat
  | c :: cs, d :: ds => if c = d then commonPrefixLength cs ds + 1 else 0
  | _, _ => 0

/-- `Class::IsInSamePackage(descriptor1, descriptor2)`: no `/` after the common prefix. -/
def isInSamePackageDescriptors (descriptor1 descriptor2 : String) : Bool :=
  let i := commonPrefixLength descriptor1.toList descriptor2.toList
  !(descriptor1.toList.drop i).contains '/' && !(descriptor2.toList.drop i).contains '/'

/-- `Class::IsInSamePackage(Class*)`: the same class, or the same class loader and package. -/
def isInSamePackage (env : ClassEnv) (klass1 klass2 : Nat) : Bool :=
  if klass1 = klass2 then true
  else if (env klass1).classLoader ≠ (env klass2).classLoader then false
  else isInSamePackageDescriptors (env klass1).descriptor (env klass2).descriptor

/-- `Class::IsSubClass`: `klass` is `this` or on its superclass chain. -/
def isSubClass (env : ClassEnv) (this klass : Nat) : Bool :=
  this = klass || (env this).superChain.contains klass

/-- `Class::CanAccessMember`. -/
def canAccessMember (env : ClassEnv) (this accessTo memberFlags : Nat) : Bool :=
  if this = accessTo then true
  else if memberFlags &&& kAccPublic ≠ 0 then true
  else if memberFlags &&& kAccPrivate ≠ 0 then false
  else if memberFlags &&& kAccProtected ≠ 0 ∧ !(env this).isInterface ∧ isSubClass env this accessTo then
    true
  else isInSamePackage env this accessTo

/-- The class being linked. -/
structure LinkingClass where
  id : Nat
  /-- `GetVirtualMethodDuringLinking(i)`, in declaration order. -/
  virtualMethods : List ArtMethod
  /-- The method indices set when the methods were loaded. -/
  loadedMethodIndex : Nat → Nat
  /-- The vtable of the superclass; `none` for `java.lang.Object`. -/
  superVTable : Option (List ArtMethod)

/-- An entry of the vtable being built. -/
inductive VTableEntry where
  | inherited (m : ArtMethod)
  | own (i : Nat)
  | null
  deriving DecidableEq, Repr

/-- Why linking fails. -/
inductive LinkError where
  /-- `ThrowLinkageError`: own method `i` overrides the final method of super slot `j`. -/
  | overridesFinal (i j : Nat)
  /-- `ThrowClassFormatError`: more vtable entries than a `uint16_t` method index holds. -/
  | tooManyMethods (count : Nat)
  deriving DecidableEq, Repr

/-- What a successful link produces: the vtable and the method index of each own method. -/
structure Linked where
  vtable : List VTableEntry
  methodIndex : Nat → Nat

/-! ## `LinkVirtualHashTable` -/

/-- The hash table: `hash_size_` slots of own-method indices. -/
structure LinkVirtualHashTable where
  hashSize : Nat
  hashTable : Nat → Slot Nat

namespace LinkVirtualHashTable

variable (klass : LinkingClass)

/-- The constructor: every slot `invalid_index_`. -/
def init (hashSize : Nat) : LinkVirtualHashTable := ⟨hashSize, fun _ => .empty⟩

/-- The home slot of own method `i`: the hash of its name modulo the size. -/
def home (i : Nat) : Nat := computeModifiedUtf8Hash (klass.virtualMethods.getD i default).name

/-- `Add(virtual_method_index)`. -/
def add (t : LinkVirtualHashTable) (i : Nat) : Option LinkVirtualHashTable :=
  (LinearProbe.add t.hashSize i t.hashSize (home klass i % t.hashSize) t.hashTable).map
    fun slots => ⟨t.hashSize, slots⟩

/-- `FindAndRemove(comparator)` for the comparator of `superMethod`: the own method index it
removes, or `none` for `GetNotFoundIndex()`. -/
def findAndRemove (t : LinkVirtualHashTable) (superMethod : ArtMethod) :
    Option (Option Nat × LinkVirtualHashTable) :=
  (LinearProbe.findAndRemove t.hashSize
      (fun i => hasSameNameAndSignature superMethod (klass.virtualMethods.getD i default))
      t.hashSize (computeModifiedUtf8Hash superMethod.name % t.hashSize) t.hashTable).map
    fun r => (r.1, ⟨t.hashSize, r.2⟩)

/-- The loop `for (i = 0; i < num_virtual_methods; ++i) hash_table.Add(i)`, from index `i`. -/
def addAll (t : LinkVirtualHashTable) : Nat → Nat → Option LinkVirtualHashTable
  | 0, _ => some t
  | n + 1, i =>
    match add klass t i with
    | none => none
    | some t => addAll t n (i + 1)

end LinkVirtualHashTable

/-! ## `LinkVirtualMethods` -/

section Link

variable (env : ClassEnv) (klass : LinkingClass)

/-- The loop over the super vtable: for slot `j` holding `superMethod`, the own method of the
same name and signature, if the table still holds one, overrides the slot when `klass` can
access `superMethod`, and linking fails when `superMethod` is final. -/
def overrideSuperMethods :
    List ArtMethod → Nat → LinkVirtualHashTable → List VTableEntry → (Nat → Nat) →
      Option (Except LinkError Linked)
  | [], _, _, vtable, methodIndex => some (.ok ⟨vtable, methodIndex⟩)
  | superMethod :: rest, j, table, vtable, methodIndex =>
    match table.findAndRemove klass superMethod with
    | none => none
    | some (none, table) => overrideSuperMethods rest (j + 1) table vtable methodIndex
    | some (some i, table) =>
      if canAccessMember env klass.id superMethod.declaringClass superMethod.accessFlags then
        if superMethod.isFinal then some (.error (.overridesFinal i j))
        else
          overrideSuperMethods rest (j + 1) table (vtable.set j (.own i))
            (Function.update methodIndex i (j % 2 ^ 16))
      else
        -- `LOG(WARNING) << "Before Android 4.1, method ... would have incorrectly overridden"`
        overrideSuperMethods rest (j + 1) table vtable methodIndex

/-- The loop that appends the own methods no super slot took, from own method `i`:
`actual_count` is the length of the vtable so far. -/
def addNonOverridden (superVTableLength : Nat) : Nat → Nat → Linked → Linked
  | 0, _, l => l
  | n + 1, i, l =>
    let methodIdx := l.methodIndex i
    if methodIdx < superVTableLength ∧ l.vtable.getD methodIdx .null = .own i then
      addNonOverridden superVTableLength n (i + 1) l
    else
      addNonOverridden superVTableLength n (i + 1)
        ⟨l.vtable ++ [.own i], Function.update l.methodIndex i (l.vtable.length % 2 ^ 16)⟩

/-- `ClassLinker::LinkVirtualMethods`. -/
def linkVirtualMethods : Option (Except LinkError Linked) :=
  let numVirtualMethods := klass.virtualMethods.length
  match klass.superVTable with
  | some superVTable =>
    let superVTableLength := superVTable.length
    let vtable := superVTable.map .inherited
    if numVirtualMethods = 0 then some (.ok ⟨vtable, klass.loadedMethodIndex⟩)
    else
      let hashTableSize := numVirtualMethods * 3
      match (LinkVirtualHashTable.init hashTableSize).addAll klass numVirtualMethods 0 with
      | none => none
      | some table =>
        match overrideSuperMethods env klass superVTable 0 table vtable klass.loadedMethodIndex with
        | none => none
        | some (.error e) => some (.error e)
        | some (.ok l) =>
          let l := addNonOverridden superVTableLength numVirtualMethods 0 l
          if l.vtable.length ≥ 2 ^ 16 then some (.error (.tooManyMethods l.vtable.length))
          else some (.ok l)
  | none =>
    if numVirtualMethods ≥ 2 ^ 16 then some (.error (.tooManyMethods numVirtualMethods))
    else
      some (.ok ⟨(List.range numVirtualMethods).map .own,
        fun i => if i < numVirtualMethods then i % 2 ^ 16 else klass.loadedMethodIndex i⟩)

end Link

end ClassLinker

end Art
