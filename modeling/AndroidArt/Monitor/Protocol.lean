import AndroidArt.Monitor.LockWord

/-!
# The monitor protocol of one object

Model of the locking code of `runtime/monitor.cc` for one object: `Monitor::MonitorEnter`,
`Monitor::MonitorExit`, the inflation loop of the static `Monitor::Wait`,
`Object::IdentityHashCode` (`runtime/mirror/object.cc`) and `Monitor::Deflate`, with what they
call: `Monitor::Lock`, `Monitor::Unlock`, `Monitor::Inflate`, `Monitor::InflateThinLocked`,
`Monitor::Install` and `Monitor::GetHashCode`.

The state is the object's lock word and the monitors of `MonitorPool` by id.  Each `Event` is
one atomic step of a thread: one pass of the loop of the operation it names, with the lock word
read, compared and swapped at once.  A step's `Outcome` is what the operation does next: it
returns, its loop goes round again (after spinning, blocking on the monitor, or inflating the
lock), or the runtime aborts on a failed `CHECK` or `LOG(FATAL)`.

The choices the code leaves to other threads are parameters of the events: the id of the
monitor that `MonitorPool::CreateMonitor` would allocate, the value `GenerateIdentityHashCode`
returns, and whether a contending `MonitorEnter` has spun `GetMaxSpinsBeforeThinkLockInflation`
times.  Thread suspension in `InflateThinLocked` succeeds; its timing out leaves the state as
it is, as a step not taken does.
-/

set_option autoImplicit false

namespace Art

open LockWord

/-- What the lock protocol reads and writes of a `Monitor` (`runtime/monitor.h`). -/
structure Monitor where
  /-- `owner_`, by thread id; `none` for `nullptr`. -/
  owner : Option Nat
  /-- `int lock_count_`: the acquisitions beyond the first. -/
  lockCount : Int32
  /-- `hash_code_`, `0` while the monitor has none. -/
  hashCode : Nat
  /-- `num_waiters_`. -/
  numWaiters : Nat
  deriving DecidableEq, Repr

instance : Inhabited Monitor := ⟨⟨none, 0, 0, 0⟩⟩

/-- The lock state of one object: its lock word, and the monitors by id
(`MonitorPool::MonitorFromMonitorId`). -/
structure ObjectLock where
  lockWord : LockWord
  monitors : Nat → Monitor

/-- How one atomic step of an operation ends. -/
inductive Outcome where
  /-- The operation returns; `ok` is the `bool` of `MonitorExit`, `Wait`'s failure to find the
  lock held, or `Deflate`'s result. -/
  | returns (ok : Bool)
  /-- The operation's loop goes round again. -/
  | again
  /-- A `CHECK` fails or `LOG(FATAL)` is reached. -/
  | abort
  deriving DecidableEq, Repr

namespace Monitor

/-- The constructor `Monitor(self, owner, obj, hash_code)`. -/
def create (owner : Option Nat) (hashCode : Nat) : Monitor := ⟨owner, 0, hashCode, 0⟩

/-- `HasHashCode()`. -/
def hasHashCode (m : Monitor) : Bool := m.hashCode != 0

/-- `GetHashCode()`: a monitor without a hash code takes `hashCode`, the value of
`GenerateIdentityHashCode()`. -/
def getHashCode (hashCode : Nat) (m : Monitor) : Monitor :=
  if m.hasHashCode then m else { m with hashCode := hashCode }

/-- `Lock(self)`, one pass of its loop. -/
def lock (self : Nat) (m : Monitor) : Outcome × Monitor :=
  match m.owner with
  | none =>
    -- `CHECK_EQ(lock_count_, 0)`
    if m.lockCount = 0 then (.returns true, { m with owner := some self }) else (.abort, m)
  | some owner =>
    if owner = self then (.returns true, { m with lockCount := m.lockCount + 1 })
    else (.again, m)

/-- `Unlock(self)`. -/
def unlock (self : Nat) (m : Monitor) : Bool × Monitor :=
  if m.owner = some self then
    if m.lockCount = 0 then (true, { m with owner := none })
    else (true, { m with lockCount := m.lockCount - 1 })
  -- `FailedUnlock`
  else (false, m)

end Monitor

namespace ObjectLock

/-- `obj->SetLockWord(lw)`, or a successful `CasLockWord` to `lw`. -/
def setLockWord (s : ObjectLock) (lw : LockWord) : ObjectLock := { s with lockWord := lw }

/-- The monitor of id `monitorId` becomes `m`. -/
def setMonitor (s : ObjectLock) (monitorId : Nat) (m : Monitor) : ObjectLock :=
  { s with monitors := Function.update s.monitors monitorId m }

/-- `Monitor::Install(self)` for the new monitor `m` of id `monitorId`: copy the thin count or
check the hash of the current word into `m`, then publish the fat word. -/
def install (monitorId : Nat) (m : Monitor) (s : ObjectLock) : Outcome × ObjectLock :=
  let lw := s.lockWord
  match lw.getState with
  | .thinLocked =>
    -- `CHECK_EQ(owner_->GetThreadId(), lw.ThinLockOwner())`
    if m.owner = some lw.thinLockOwner then
      (.returns true, (s.setMonitor monitorId { m with lockCount := Int32.ofNat lw.thinLockCount }).setLockWord
        (fromMonitorId monitorId))
    else (.abort, s)
  | .hashCode =>
    if m.hashCode = lw.getHashCode then
      (.returns true, (s.setMonitor monitorId m).setLockWord (fromMonitorId monitorId))
    else (.abort, s)
  | .fatLocked => (.returns false, s)
  | .unlocked => (.abort, s)
  | .forwardingAddress => (.abort, s)

/-- `Monitor::Inflate(self, owner, obj, hash_code)`: create a monitor and install it.  Every
caller then goes round its loop again. -/
def inflate (owner : Option Nat) (hashCode monitorId : Nat) (s : ObjectLock) : Outcome × ObjectLock :=
  match install monitorId (Monitor.create owner hashCode) s with
  | (.abort, s') => (.abort, s')
  | (_, s') => (.again, s')

/-- `Monitor::InflateThinLocked(self, obj, lock_word, hash_code)` for the thin word `lw` read in
the same step.  The owner is `self`, or another thread that is suspended first and whose word is
still `lw`: either way the monitor is inflated for the thread of `lw.ThinLockOwner()`. -/
def inflateThinLocked (lw : LockWord) (hashCode monitorId : Nat) (s : ObjectLock) :
    Outcome × ObjectLock :=
  inflate (some lw.thinLockOwner) hashCode monitorId s

/-- One pass of the loop of `Monitor::MonitorEnter(self, obj)`.  `inflateNow` says that the
contention count has passed `GetMaxSpinsBeforeThinkLockInflation()`. -/
def monitorEnter (self monitorId : Nat) (inflateNow : Bool) (s : ObjectLock) : Outcome × ObjectLock :=
  let lockWord := s.lockWord
  match lockWord.getState with
  | .unlocked => (.returns true, s.setLockWord (fromThinLockId self 0))
  | .thinLocked =>
    let ownerThreadId := lockWord.thinLockOwner
    if ownerThreadId = self then
      let newCount := lockWord.thinLockCount + 1
      if newCount ≤ kThinLockMaxCount then
        (.returns true, s.setLockWord (fromThinLockId self newCount))
      else inflateThinLocked lockWord 0 monitorId s
    else if inflateNow then inflateThinLocked lockWord 0 monitorId s
    else (.again, s)
  | .fatLocked =>
    let mon := lockWord.fatLockMonitor
    let r := (s.monitors mon).lock self
    (r.1, s.setMonitor mon r.2)
  | .hashCode => inflate none lockWord.getHashCode monitorId s
  | .forwardingAddress => (.abort, s)

/-- `Monitor::MonitorExit(self, obj)`. -/
def monitorExit (self : Nat) (s : ObjectLock) : Outcome × ObjectLock :=
  let lockWord := s.lockWord
  match lockWord.getState with
  | .hashCode => (.returns false, s)
  | .unlocked => (.returns false, s)
  | .thinLocked =>
    if lockWord.thinLockOwner ≠ self then (.returns false, s)
    else if lockWord.thinLockCount ≠ 0 then
      (.returns true, s.setLockWord (fromThinLockId self (lockWord.thinLockCount - 1)))
    else (.returns true, s.setLockWord unlockedWord)
  | .fatLocked =>
    let mon := lockWord.fatLockMonitor
    let r := (s.monitors mon).unlock self
    (.returns r.1, s.setMonitor mon r.2)
  | .forwardingAddress => (.abort, s)

/-- One pass of the inflation loop of the static `Monitor::Wait(self, obj, ...)`: a thin lock of
`self` is inflated; on a fat lock the wait itself begins (`returns true`); without the lock the
call throws `IllegalMonitorStateException` (`returns false`). -/
def wait (self monitorId : Nat) (s : ObjectLock) : Outcome × ObjectLock :=
  let lockWord := s.lockWord
  match lockWord.getState with
  | .fatLocked => (.returns true, s)
  | .hashCode => (.returns false, s)
  | .unlocked => (.returns false, s)
  | .thinLocked =>
    if lockWord.thinLockOwner ≠ self then (.returns false, s)
    else inflate (some self) 0 monitorId s
  | .forwardingAddress => (.abort, s)

/-- One pass of the loop of `Object::IdentityHashCode()`; `hashCode` is the value of
`GenerateIdentityHashCode()`. -/
def identityHashCode (hashCode monitorId : Nat) (s : ObjectLock) : Outcome × ObjectLock :=
  let lw := s.lockWord
  match lw.getState with
  | .unlocked => (.returns true, s.setLockWord (fromHashCode hashCode))
  | .thinLocked => inflateThinLocked lw hashCode monitorId s
  | .fatLocked =>
    let mon := lw.fatLockMonitor
    (.returns true, s.setMonitor mon ((s.monitors mon).getHashCode hashCode))
  | .hashCode => (.returns true, s)
  | .forwardingAddress => (.abort, s)

/-- `Monitor::Deflate(self, obj)`, with the mutators suspended. -/
def deflate (s : ObjectLock) : Outcome × ObjectLock :=
  let lw := s.lockWord
  if lw.getState = .fatLocked then
    let monitor := s.monitors lw.fatLockMonitor
    if monitor.numWaiters > 0 then (.returns false, s)
    else
      match monitor.owner with
      | some owner =>
        if monitor.hasHashCode then (.returns false, s)
        -- `lock_count_ > kThinLockMaxCount`, compared as `int`
        else if monitor.lockCount.toInt > kThinLockMaxCount then (.returns false, s)
        else
          (.returns true,
            s.setLockWord (fromThinLockId owner (Word.toUnsigned 32 monitor.lockCount.toInt)))
      | none =>
        if monitor.hasHashCode then (.returns true, s.setLockWord (fromHashCode monitor.hashCode))
        else (.returns true, s.setLockWord unlockedWord)
  else (.returns true, s)

end ObjectLock

/-- One atomic step of a thread. -/
inductive Event where
  | monitorEnter (self monitorId : Nat) (inflateNow : Bool)
  | monitorExit (self : Nat)
  | wait (self monitorId : Nat)
  | identityHashCode (hashCode monitorId : Nat)
  | deflate
  deriving DecidableEq, Repr

open ObjectLock in
/-- The step of an event. -/
def step : Event → ObjectLock → Outcome × ObjectLock
  | .monitorEnter self monitorId inflateNow => monitorEnter self monitorId inflateNow
  | .monitorExit self => monitorExit self
  | .wait self monitorId => wait self monitorId
  | .identityHashCode hashCode monitorId => identityHashCode hashCode monitorId
  | .deflate => deflate

/-- What the runtime guarantees of the events: thread ids are thin lock ids in `[1, 0xFFFF]`;
a monitor id is a monitor's address shifted right by 3, so nonzero and below `2^29`; a
generated hash code is nonzero and masked by `kHashMask`. -/
def Event.Valid : Event → Prop
  | .monitorEnter self monitorId _ => (1 ≤ self ∧ self < 2 ^ 16) ∧ (1 ≤ monitorId ∧ monitorId < 2 ^ 29)
  | .monitorExit self => 1 ≤ self ∧ self < 2 ^ 16
  | .wait self monitorId => (1 ≤ self ∧ self < 2 ^ 16) ∧ (1 ≤ monitorId ∧ monitorId < 2 ^ 29)
  | .identityHashCode hashCode monitorId =>
    (1 ≤ hashCode ∧ hashCode ≤ kHashMask) ∧ (1 ≤ monitorId ∧ monitorId < 2 ^ 29)
  | .deflate => True

instance (e : Event) : Decidable e.Valid := by
  cases e <;> unfold Event.Valid <;> infer_instance

/-- A new object: an unlocked word, and no monitors yet. -/
def initialState : ObjectLock := ⟨unlockedWord, fun _ => default⟩

end Art
