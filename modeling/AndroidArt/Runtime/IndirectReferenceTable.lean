import Mathlib.Data.List.Basic
import AndroidArt.Lib.Word

/-!
# The indirect reference table

Model of `IndirectReferenceTable` of `runtime/indirect_reference_table.{h,cc}` and of the local
reference frames of `JNIEnvExt` in `runtime/jni_internal.cc`.

The table is split into segments.  A cookie is the `IRTSegmentState` at the start of a segment:
the entries below its `topIndex` belong to the outer segments.  Holes are not tracked, only
counted: `numHoles` counts the null entries below `topIndex`.

* `add` — `Add(cookie, obj)`: the highest hole of the current segment, found by scanning down
  from the top, or else the top.
* `remove` — `Remove(cookie, iref)`: an entry below the top leaves a hole; the top entry is
  removed with the holes right below it.
* `get` — `Get(iref)`, through `GetChecked` and `CheckEntry`.
* `JNIEnvExt` — `NewLocalRef`, `DeleteLocalRef`, `PushFrame` and `PopFrame`, which keep the
  cookies of the open frames on a stack.

An `IndirectRef` is the number `serial << 20 | index << 2 | kind`.  Objects are addresses, with
`0` for null.  The table's memory is zeroed when it is mapped, so every entry starts with serial
`0` and null references.  A `LOG(FATAL)` (also `AbortIfNoCheckJNI` without CheckJNI) and a read
outside the table are `none`.  The fields of `IRTSegmentState` are 16-bit bit-fields, and the
model reduces what the source stores into them modulo `2^16`.

The model is the release build, which is also what `kIRTPrevCount` is taken from: the `DCHECK`s of
`Add` and `Remove` on the table pointer, the hole counts and the scan are left out.
-/

set_option autoImplicit false

namespace Art

/-- `IndirectRefKind`. -/
inductive IndirectRefKind
  | kHandleScopeOrInvalid | kLocal | kGlobal | kWeakGlobal
  deriving DecidableEq, Repr

namespace IndirectRefKind

def toNat : IndirectRefKind → Nat
  | kHandleScopeOrInvalid => 0
  | kLocal => 1
  | kGlobal => 2
  | kWeakGlobal => 3

def ofBits (n : Nat) : IndirectRefKind :=
  match n % 4 with
  | 1 => kLocal
  | 2 => kGlobal
  | 3 => kWeakGlobal
  | _ => kHandleScopeOrInvalid

end IndirectRefKind

/-- `kIRTPrevCount` of a release build. -/
def kIRTPrevCount : Nat := 3

/-- `IrtEntry`: the serial of the current reference, and the references by serial. -/
structure IrtEntry where
  serial : Nat
  references : Nat → Nat

namespace IrtEntry

/-- An entry of the zeroed table. -/
def empty : IrtEntry := ⟨0, fun _ => 0⟩

/-- `Add`: the next serial holds `obj`. -/
def add (e : IrtEntry) (obj : Nat) : IrtEntry :=
  let serial := e.serial + 1
  let serial := if serial = kIRTPrevCount then 0 else serial
  ⟨serial, Function.update e.references serial obj⟩

/-- `*GetReference()`. -/
def getReference (e : IrtEntry) : Nat := e.references e.serial

/-- `*GetReference() = GcRoot<mirror::Object>(nullptr)`. -/
def clear (e : IrtEntry) : IrtEntry :=
  { e with references := Function.update e.references e.serial 0 }

end IrtEntry

/-- `IRTSegmentState`, through its `parts`; a cookie is one. -/
structure IRTSegmentState where
  topIndex : Nat
  numHoles : Nat
  deriving DecidableEq, Repr

def IRT_FIRST_SEGMENT : IRTSegmentState := ⟨0, 0⟩

/-- `IndirectReferenceTable`, with the `CHECK`s of its constructor as fields; `JNIEnvExt` has at
most `kLocalsMax` local references, and the maximum of any table fits the 16 bits of
`topIndex`. -/
structure IndirectReferenceTable where
  table : Nat → IrtEntry
  segmentState : IRTSegmentState
  maxEntries : Nat
  kind : IndirectRefKind
  maxEntries_lt : maxEntries < 2 ^ 16
  kind_ne : kind ≠ .kHandleScopeOrInvalid

namespace IndirectReferenceTable

/-- The table the constructor maps. -/
def new (maxCount : Nat) (desiredKind : IndirectRefKind) (hmax : maxCount < 2 ^ 16)
    (hkind : desiredKind ≠ .kHandleScopeOrInvalid) : IndirectReferenceTable :=
  ⟨fun _ => .empty, IRT_FIRST_SEGMENT, maxCount, desiredKind, hmax, hkind⟩

variable (t : IndirectReferenceTable)

/-- The object the entry at `i` refers to. -/
def ref (i : Nat) : Nat := (t.table i).getReference

def toIndirectRef (tableIndex : Nat) : Nat :=
  (t.table tableIndex).serial <<< 20 ||| tableIndex <<< 2 ||| t.kind.toNat

def extractIndex (iref : Nat) : Nat := (iref >>> 2) &&& 0xffff

def getIndirectRefKind (iref : Nat) : IndirectRefKind := IndirectRefKind.ofBits (iref &&& 3)

/-- `CheckEntry`: the reference names the entry's current serial. -/
def checkEntry (iref idx : Nat) : Bool := t.toIndirectRef idx == iref

/-- `GetSegmentState` and `SetSegmentState`. -/
def setSegmentState (newState : IRTSegmentState) : IndirectReferenceTable :=
  { t with segmentState := newState }

/-- The scan of `Add` for a hole, from `i` down; none when it runs below the table. -/
def scanForHole : Nat → Option Nat
  | 0 => if t.ref 0 = 0 then some 0 else none
  | i + 1 => if t.ref (i + 1) = 0 then some (i + 1) else scanForHole i

/-- `table_[index].Add(obj)` with the new segment state. -/
def addAt (index : Nat) (obj : Nat) (newState : IRTSegmentState) : IndirectReferenceTable :=
  { t with
    table := Function.update t.table index ((t.table index).add obj)
    segmentState := newState }

/-- `Add(cookie, obj)`: the new reference and the table. -/
def add (cookie : IRTSegmentState) (obj : Nat) : Option (Nat × IndirectReferenceTable) :=
  let topIndex := t.segmentState.topIndex
  if obj = 0 then none
  else if topIndex = t.maxEntries then none
  else
    let numHoles : Int := (t.segmentState.numHoles : Int) - cookie.numHoles
    let slot : Option (Nat × IRTSegmentState) :=
      if numHoles > 0 then
        -- the scan starts below the top entry; with fewer than two entries it starts below the
        -- table
        if topIndex < 2 then none
        else (t.scanForHole (topIndex - 2)).map fun index =>
          (index, { t.segmentState with numHoles := t.segmentState.numHoles - 1 })
      else some (topIndex, { t.segmentState with topIndex := (topIndex + 1) % 2 ^ 16 })
    slot.map fun (index, newState) =>
      let t := t.addAt index obj newState
      (t.toIndirectRef index, t)

/-- The entry at `idx` cleared, with the new segment state. -/
def clearAt (idx : Nat) (newState : IRTSegmentState) : IndirectReferenceTable :=
  { t with
    table := Function.update t.table idx (t.table idx).clear
    segmentState := newState }

/-- The loop of `Remove` that consumes the holes below a removed top entry: `topIndex` is the
value before its decrement. -/
def consumeHoles (bottomIndex : Nat) : Nat → Int → Nat × Int
  | 0, numHoles => (0, numHoles)
  | topIndex + 1, numHoles =>
    if topIndex > bottomIndex ∧ numHoles ≠ 0 then
      if t.ref (topIndex - 1) ≠ 0 then (topIndex, numHoles)
      else consumeHoles bottomIndex topIndex (numHoles - 1)
    else (topIndex, numHoles)

section Checks

variable (checkJni : Bool)

/-- `AbortIfNoCheckJNI` after a failed check: the check fails with CheckJNI, and the runtime
aborts without it. -/
def failCheck : Option Bool := if checkJni then some false else none

/-- `GetChecked`. -/
def getChecked (iref : Nat) : Option Bool :=
  if iref = 0 then some false
  else if getIndirectRefKind iref = .kHandleScopeOrInvalid then failCheck checkJni
  else
    let idx := extractIndex iref
    if idx ≥ t.segmentState.topIndex then failCheck checkJni
    else if t.ref idx = 0 then failCheck checkJni
    else if !t.checkEntry iref idx then failCheck checkJni
    else some true

/-- `kInvalidIndirectRefObject`. -/
def kInvalidIndirectRefObject : Nat := 0xdead4321

/-- `Get(iref)`. -/
def get (iref : Nat) : Option Nat :=
  (t.getChecked checkJni iref).map fun ok =>
    if ok then t.ref (extractIndex iref) else kInvalidIndirectRefObject

variable (handleScopeContains : Nat → Bool)

/-- `Remove(cookie, iref)`: whether an entry was removed, and the table. -/
def remove (cookie : IRTSegmentState) (iref : Nat) : Option (Bool × IndirectReferenceTable) :=
  let topIndex := t.segmentState.topIndex
  let bottomIndex := cookie.topIndex
  if getIndirectRefKind iref = .kHandleScopeOrInvalid ∧ handleScopeContains iref then
    some (true, t)
  else
    let idx := extractIndex iref
    if idx < bottomIndex then some (false, t)
    else if idx ≥ topIndex then some (false, t)
    else if idx = topIndex - 1 then
      if !t.checkEntry iref idx then (failCheck checkJni).map (·, t)
      else
        let numHoles : Int := (t.segmentState.numHoles : Int) - cookie.numHoles
        if numHoles ≠ 0 then
          let (topIndex, numHoles) := (t.clearAt idx t.segmentState).consumeHoles bottomIndex
            topIndex numHoles
          some (true, t.clearAt idx ⟨topIndex, Word.toUnsigned 16 (numHoles + cookie.numHoles)⟩)
        else some (true, t.clearAt idx { t.segmentState with topIndex := topIndex - 1 })
    else if t.ref idx = 0 then some (false, t)
    else if !t.checkEntry iref idx then (failCheck checkJni).map (·, t)
    else
      some (true, t.clearAt idx
        { t.segmentState with numHoles := (t.segmentState.numHoles + 1) % 2 ^ 16 })

end Checks

end IndirectReferenceTable

/-- The local references of a `JNIEnvExt`. -/
structure JNIEnvExt where
  locals : IndirectReferenceTable
  localRefCookie : IRTSegmentState
  /-- `stacked_local_ref_cookies`, its back first. -/
  stackedLocalRefCookies : List IRTSegmentState

/-- A call on the local references of a thread's `JNIEnvExt`. -/
inductive LocalRefOp
  | newLocalRef (obj : Nat)
  | deleteLocalRef (iref : Nat)
  | pushFrame
  | popFrame
  deriving DecidableEq, Repr

namespace JNIEnvExt

variable (checkJni : Bool) (handleScopeContains : Nat → Bool)

/-- A new environment: `local_ref_cookie(IRT_FIRST_SEGMENT)`. -/
def new (locals : IndirectReferenceTable) : JNIEnvExt := ⟨locals, IRT_FIRST_SEGMENT, []⟩

/-- `NewLocalRef`: the reference, or `0` for a null object. -/
def newLocalRef (env : JNIEnvExt) (obj : Nat) : Option (Nat × JNIEnvExt) :=
  if obj = 0 then some (0, env)
  else (env.locals.add env.localRefCookie obj).map fun (iref, locals) =>
    (iref, { env with locals := locals })

/-- `DeleteLocalRef`. -/
def deleteLocalRef (env : JNIEnvExt) (iref : Nat) : Option JNIEnvExt :=
  if iref = 0 then some env
  else (env.locals.remove checkJni handleScopeContains env.localRefCookie iref).map fun r =>
    { env with locals := r.2 }

/-- `PushFrame`. -/
def pushFrame (env : JNIEnvExt) : JNIEnvExt :=
  { env with
    stackedLocalRefCookies := env.localRefCookie :: env.stackedLocalRefCookies
    localRefCookie := env.locals.segmentState }

/-- `PopFrame`: none when no frame is open, where the source reads `back()` of an empty
vector. -/
def popFrame (env : JNIEnvExt) : Option JNIEnvExt :=
  match env.stackedLocalRefCookies with
  | [] => none
  | cookie :: rest =>
    some ⟨env.locals.setSegmentState env.localRefCookie, cookie, rest⟩

/-- One call. -/
def step (env : JNIEnvExt) : LocalRefOp → Option JNIEnvExt
  | .newLocalRef obj => (env.newLocalRef obj).map Prod.snd
  | .deleteLocalRef iref => env.deleteLocalRef checkJni handleScopeContains iref
  | .pushFrame => some env.pushFrame
  | .popFrame => env.popFrame

/-- A sequence of calls. -/
def run (env : JNIEnvExt) : List LocalRefOp → Option JNIEnvExt
  | [] => some env
  | op :: ops => (env.step checkJni handleScopeContains op).bind fun env => run env ops

end JNIEnvExt

end Art
