import AndroidArt.Monitor.Protocol
import AndroidArt.Lib.ReentrantLock

/-!
# The monitor protocol refines a reentrant lock, up to `lock_count_` overflow

What an object's lock is for (`ObjectSpec`): a reentrant lock over thread ids, and an identity
hash that once installed never changes.  `abstraction` reads it off the protocol's state as the
lock word defines it: a thin word is held by `ThinLockOwner()` at depth `ThinLockCount() + 1`, a
fat word by the monitor's `owner_` at depth `lock_count_ + 1`; the hash is that of a hash word or
of the monitor.

`Inv` is the invariant of the protocol's states: the word is one of the `LockShape`s with fields
that fit, and the monitor a fat word names has an owner with a thin lock id, a count of zero when
free and never negative, and no waiters.

`step_spec` is the step lemma: every valid step from a state of `Inv`, other than the one that
takes a fat `lock_count_` past `INT32_MAX` (`Overflows`), keeps `Inv`, does not abort, and is a
step of the abstract object: a successful `MonitorEnter` acquires, a successful `MonitorExit`
releases, a failed `MonitorExit` is a release by a thread that does not hold the lock and changes
nothing, `IdentityHashCode` installs a hash unless one is installed, and every other step
(spinning, blocking, inflation, `Wait`'s inflation, deflation) leaves the abstract object alone.
`run_refines` carries it over every run, by `Simulation.run_simulates`.

The excepted step is a real one.  `Monitor::Lock` increments the `int lock_count_` of a fat lock
with no bound, where the thin path checks `kThinLockMaxCount` before it increments.  A thread
that enters the monitor `2^31` times reaches `lock_count_ = INT32_MAX`
(`reach_heldFat_maxValue`), and its next `MonitorEnter` succeeds with `lock_count_ = -2^31`:
`monitorEnter_wraps_lock_count`.
-/

set_option autoImplicit false

namespace Art

open LockWord ObjectLock Simulation

/-! ## What an object's lock is for -/

/-- The abstract object: a reentrant lock over thread ids, and the identity hash once one is
installed. -/
abbrev ObjectSpec := ReentrantLock.State Nat × Option Nat

/-- The operations of the abstract object. -/
inductive SpecOp where
  | lock (op : ReentrantLock.Op Nat)
  /-- A release by a thread that does not hold the lock: it fails and changes nothing. -/
  | failedRelease (t : Nat)
  /-- The identity hash: `h` is installed unless one already is. -/
  | hash (h : Nat)
  deriving DecidableEq, Repr

/-- The abstract object as a machine. -/
def SpecOp.exec : SpecOp → ObjectSpec → Option ObjectSpec
  | .lock op, (l, h) => (ReentrantLock.exec op l).map fun l' => (l', h)
  | .failedRelease t, (l, h) => if ReentrantLock.release t l = none then some (l, h) else none
  | .hash x, (l, h) => some (l, some (h.getD x))

/-! ## The abstraction of a protocol state -/

/-- The owner and depth of the lock. -/
def lockState (s : ObjectLock) : ReentrantLock.State Nat :=
  match s.lockWord.getState with
  | .thinLocked => some (s.lockWord.thinLockOwner, s.lockWord.thinLockCount + 1)
  | .fatLocked =>
    let m := s.monitors s.lockWord.fatLockMonitor
    m.owner.map fun o => (o, m.lockCount.toInt.toNat + 1)
  | _ => none

/-- The identity hash installed in the word or in its monitor. -/
def installedHash (s : ObjectLock) : Option Nat :=
  match s.lockWord.getState with
  | .hashCode => some s.lockWord.getHashCode
  | .fatLocked =>
    let m := s.monitors s.lockWord.fatLockMonitor
    if m.hasHashCode then some m.hashCode else none
  | _ => none

def abstraction (s : ObjectLock) : ObjectSpec := (lockState s, installedHash s)

/-- The abstract operation a step performs, by its event and outcome. -/
def label : Event → Outcome → Option SpecOp
  | .monitorEnter self _ _, .returns true => some (.lock (.acquire self))
  | .monitorExit self, .returns true => some (.lock (.release self))
  | .monitorExit self, .returns false => some (.failedRelease self)
  | .identityHashCode h _, _ => some (.hash h)
  | _, _ => none

/-! ## The invariant -/

/-- A monitor as a fat word names it. -/
structure Monitor.Valid (m : Monitor) : Prop where
  owner_lt : ∀ o, m.owner = some o → 1 ≤ o ∧ o < 2 ^ 16
  unowned : m.owner = none → m.lockCount = 0
  lockCount_nonneg : 0 ≤ m.lockCount.toInt
  hashCode_le : m.hashCode ≤ kHashMask
  numWaiters_eq : m.numWaiters = 0

/-- The state has the shape `v`: its word is `v`'s, and a fat word names a valid monitor. -/
structure Shaped (v : LockShape) (s : ObjectLock) : Prop where
  valid : v.Valid
  word : s.lockWord = v.toLockWord
  monitor : ∀ mon, v = .fat mon → (s.monitors mon).Valid

/-- The invariant of the protocol. -/
def Inv (s : ObjectLock) : Prop := ∃ v, Shaped v s

/-- The step would take a fat `lock_count_` past `INT32_MAX`. -/
def Overflows : Event → ObjectLock → Prop
  | .monitorEnter self _ _, s =>
    s.lockWord.getState = .fatLocked ∧ (s.monitors s.lockWord.fatLockMonitor).owner = some self ∧
      (s.monitors s.lockWord.fatLockMonitor).lockCount = Int32.maxValue
  | _, _ => False

/-- The events the refinement covers. -/
def Allowed (e : Event) (s : ObjectLock) : Prop := e.Valid ∧ ¬ Overflows e s

theorem initialState_inv : Inv initialState := ⟨.unlocked, trivial, rfl, by simp⟩

/-! ## Reading a shaped state -/

section Shaped

variable {s : ObjectLock}

theorem Shaped.getState {v : LockShape} (hs : Shaped v s) : s.lockWord.getState = v.state := by
  rw [hs.word, LockShape.getState_toLockWord hs.valid]

theorem Shaped.thinLockOwner {o c : Nat} (hs : Shaped (.thin o c) s) : s.lockWord.thinLockOwner = o := by
  rw [hs.word]
  exact thinLockOwner_fromThinLockId hs.valid.2.1 hs.valid.2.2

theorem Shaped.thinLockCount {o c : Nat} (hs : Shaped (.thin o c) s) : s.lockWord.thinLockCount = c := by
  rw [hs.word]
  exact thinLockCount_fromThinLockId hs.valid.2.1 hs.valid.2.2

theorem Shaped.fatLockMonitor {mon : Nat} (hs : Shaped (.fat mon) s) : s.lockWord.fatLockMonitor = mon := by
  rw [hs.word]
  exact fatLockMonitor_fromMonitorId hs.valid

theorem Shaped.getHashCode {h : Nat} (hs : Shaped (.hash h) s) : s.lockWord.getHashCode = h := by
  rw [hs.word]
  exact getHashCode_fromHashCode hs.valid.2

/-- The abstract object of a monitor. -/
def Monitor.spec (m : Monitor) : ObjectSpec :=
  (m.owner.map fun o => (o, m.lockCount.toInt.toNat + 1), if m.hasHashCode then some m.hashCode else none)

/-- The abstract object of a shape. -/
def LockShape.spec (ms : Nat → Monitor) : LockShape → ObjectSpec
  | .unlocked => (none, none)
  | .thin o c => (some (o, c + 1), none)
  | .fat mon => (ms mon).spec
  | .hash h => (none, some h)

theorem Shaped.abstraction_eq {v : LockShape} (hs : Shaped v s) :
    abstraction s = v.spec s.monitors := by
  cases v with
  | unlocked => simp [abstraction, lockState, installedHash, hs.getState, LockShape.state,
      LockShape.spec]
  | thin o c => simp [abstraction, lockState, installedHash, hs.getState, LockShape.state,
      hs.thinLockOwner, hs.thinLockCount, LockShape.spec]
  | fat mon => simp [abstraction, lockState, installedHash, hs.getState, LockShape.state,
      hs.fatLockMonitor, LockShape.spec, Monitor.spec]
  | hash h => simp [abstraction, lockState, installedHash, hs.getState, LockShape.state,
      hs.getHashCode, LockShape.spec]

/-- A word of a valid non-fat shape written over a state. -/
theorem shaped_setLockWord {w : LockShape} (hw : w.Valid) (hfat : ∀ mon, w ≠ .fat mon) :
    Shaped w (s.setLockWord w.toLockWord) :=
  ⟨hw, rfl, fun mon h => absurd h (hfat mon)⟩

/-- A valid monitor published with its fat word. -/
theorem shaped_install {mon : Nat} {m : Monitor} (hmon : mon < 2 ^ 30) (hm : m.Valid) :
    Shaped (.fat mon) ((s.setMonitor mon m).setLockWord (fromMonitorId mon)) :=
  ⟨hmon, rfl, fun _ h => by cases h; simpa [setMonitor, setLockWord] using hm⟩

/-- The monitor of a fat shape replaced by a valid one. -/
theorem Shaped.setMonitor {mon : Nat} {m : Monitor} (hs : Shaped (.fat mon) s) (hm : m.Valid) :
    Shaped (.fat mon) (s.setMonitor mon m) :=
  ⟨hs.valid, hs.word, fun _ h => by cases h; simpa [ObjectLock.setMonitor] using hm⟩

@[simp] theorem abstraction_install {mon : Nat} {m : Monitor} (hmon : mon < 2 ^ 30) (hm : m.Valid) :
    abstraction ((s.setMonitor mon m).setLockWord (fromMonitorId mon)) = m.spec := by
  rw [(shaped_install hmon hm).abstraction_eq]
  simp [LockShape.spec, setMonitor, setLockWord]

/-- Installing a monitor over a thin lock: the monitor takes the thin owner and count. -/
theorem Shaped.install_thin {o c : Nat} (hs : Shaped (.thin o c) s) (h mon : Nat) :
    install mon (Monitor.create (some o) h) s =
      (.returns true, (s.setMonitor mon ⟨some o, Int32.ofNat c, h, 0⟩).setLockWord (fromMonitorId mon)) := by
  simp [install, hs.getState, LockShape.state, hs.thinLockOwner, hs.thinLockCount, Monitor.create]

/-- Installing a monitor over a hash word with its hash. -/
theorem Shaped.install_hash {h : Nat} (hs : Shaped (.hash h) s) (mon : Nat) :
    install mon (Monitor.create none h) s =
      (.returns true, (s.setMonitor mon (Monitor.create none h)).setLockWord (fromMonitorId mon)) := by
  simp [install, hs.getState, LockShape.state, hs.getHashCode, Monitor.create]

theorem Shaped.inflate_thin {o c : Nat} (hs : Shaped (.thin o c) s) (h mon : Nat) :
    inflate (some o) h mon s =
      (.again, (s.setMonitor mon ⟨some o, Int32.ofNat c, h, 0⟩).setLockWord (fromMonitorId mon)) := by
  simp [inflate, hs.install_thin]

theorem Shaped.inflate_hash {h : Nat} (hs : Shaped (.hash h) s) (mon : Nat) :
    inflate none h mon s =
      (.again, (s.setMonitor mon (Monitor.create none h)).setLockWord (fromMonitorId mon)) := by
  simp [inflate, hs.install_hash]

/-- The monitor that inflating a thin lock creates is valid, and the abstract object is as it
was, with the hash `h` installed if it is nonzero. -/
theorem thinMonitor_valid {o c h : Nat} (hv : (LockShape.thin o c).Valid) (hh : h ≤ kHashMask) :
    Monitor.Valid ⟨some o, Int32.ofNat c, h, 0⟩ where
  owner_lt := by rintro _ ⟨⟩; exact ⟨hv.1, hv.2.1⟩
  unowned := by simp
  lockCount_nonneg := by
    have hc : c < 2 ^ 31 := by have := hv.2.2; unfold kThinLockMaxCount kThinLockCountMask at this; omega
    rw [Int32.toInt_ofNat_of_lt hc]
    omega
  hashCode_le := hh
  numWaiters_eq := rfl

theorem thinMonitor_abstraction {o c h : Nat} (hv : (LockShape.thin o c).Valid) :
    Monitor.spec ⟨some o, Int32.ofNat c, h, 0⟩ =
      (some (o, c + 1), if h ≠ 0 then some h else none) := by
  have hc : c < 2 ^ 31 := by have := hv.2.2; unfold kThinLockMaxCount kThinLockCountMask at this; omega
  simp [Monitor.spec, Monitor.hasHashCode, Int32.toInt_ofNat_of_lt hc]

end Shaped

/-! ## The monitor's operations -/

namespace Monitor

variable {m : Monitor} {self : Nat}

/-- `Lock` of a valid monitor acquires it as the reentrant lock does, or waits for the other
thread that holds it. -/
theorem lock_spec (hm : m.Valid) (hself : 1 ≤ self ∧ self < 2 ^ 16)
    (hno : ¬ (m.owner = some self ∧ m.lockCount = Int32.maxValue)) :
    (m.lock self).2.Valid ∧
      ((m.lock self).1 = .returns true ∧
          SpecOp.exec (.lock (.acquire self)) m.spec = some (m.lock self).2.spec ∨
        (m.lock self).1 = .again ∧ (m.lock self).2 = m) := by
  rcases hown : m.owner with _ | o
  · -- a free monitor has a zero count
    have hc := hm.unowned hown
    have hl : m.lock self = (.returns true, { m with owner := some self }) := by
      simp [lock, hown, hc]
    rw [hl]
    refine ⟨⟨?_, by simp, ?_, hm.hashCode_le, hm.numWaiters_eq⟩, Or.inl ⟨rfl, ?_⟩⟩
    · rintro o ⟨⟩
      exact hself
    · simp [hc]
    · simp [spec, SpecOp.exec, ReentrantLock.exec, hown, hc, hasHashCode]
  · by_cases ho : o = self
    · subst ho
      have hk : m.lockCount.toInt < 2 ^ 31 - 1 := by
        have hlt := m.lockCount.toInt_lt
        have hne : m.lockCount.toInt ≠ 2 ^ 31 - 1 := fun h =>
          hno ⟨hown, Int32.toInt_inj.mp (by rw [h]; rfl)⟩
        omega
      have hk1 := Word.int32_toInt_add_one hk
      have hl : m.lock o = (.returns true, { m with lockCount := m.lockCount + 1 }) := by
        simp [lock, hown]
      rw [hl]
      refine ⟨⟨hm.owner_lt, by simp [hown], ?_, hm.hashCode_le, hm.numWaiters_eq⟩, Or.inl ⟨rfl, ?_⟩⟩
      · have := hm.lockCount_nonneg
        show 0 ≤ (m.lockCount + 1).toInt
        omega
      · have := hm.lockCount_nonneg
        simp [spec, SpecOp.exec, ReentrantLock.exec, hown, hk1, hasHashCode, -Int32.toNat_toInt]
        omega
    · have hl : m.lock self = (.again, m) := by simp [lock, hown, ho]
      rw [hl]
      exact ⟨hm, Or.inr ⟨rfl, rfl⟩⟩

/-- `Unlock` of a valid monitor releases it as the reentrant lock does, or fails, changing
nothing, for a thread that does not hold it. -/
theorem unlock_spec (hm : m.Valid) :
    (m.unlock self).2.Valid ∧
      ((m.unlock self).1 = true ∧
          SpecOp.exec (.lock (.release self)) m.spec = some (m.unlock self).2.spec ∨
        (m.unlock self).1 = false ∧ SpecOp.exec (.failedRelease self) m.spec = some m.spec ∧
          (m.unlock self).2 = m) := by
  have h0 := hm.lockCount_nonneg
  by_cases hown : m.owner = some self
  · by_cases hc : m.lockCount = 0
    · -- the last acquisition: the monitor becomes free
      have hl : m.unlock self = (true, { m with owner := none }) := by simp [unlock, hown, hc]
      rw [hl]
      refine ⟨⟨by simp, fun _ => hc, h0, hm.hashCode_le, hm.numWaiters_eq⟩, Or.inl ⟨rfl, ?_⟩⟩
      simp [spec, SpecOp.exec, ReentrantLock.exec, hown, hc, hasHashCode]
    · have hpos : 0 < m.lockCount.toInt := by
        have : m.lockCount.toInt ≠ 0 := fun h => hc (Int32.toInt_inj.mp (by rw [h]; rfl))
        omega
      have hk1 := Word.int32_toInt_sub_one hpos
      have hl : m.unlock self = (true, { m with lockCount := m.lockCount - 1 }) := by
        simp [unlock, hown, hc]
      rw [hl]
      refine ⟨⟨hm.owner_lt, by simp [hown], ?_, hm.hashCode_le, hm.numWaiters_eq⟩, Or.inl ⟨rfl, ?_⟩⟩
      · show 0 ≤ (m.lockCount - 1).toInt
        rw [hk1]
        omega
      · simp [spec, SpecOp.exec, ReentrantLock.exec, hown, hk1, hasHashCode, -Int32.toNat_toInt]
        omega
  · have hl : m.unlock self = (false, m) := by simp [unlock, hown]
    rw [hl]
    refine ⟨hm, Or.inr ⟨rfl, ?_, rfl⟩⟩
    rcases ho : m.owner with _ | o
    · simp [spec, SpecOp.exec, ho]
    · have hne : o ≠ self := fun h => hown (by rw [ho, h])
      simp [spec, SpecOp.exec, ho, ReentrantLock.release_other _ hne]

/-- `GetHashCode` installs `h` unless the monitor has a hash code. -/
theorem getHashCode_spec {h : Nat} (hm : m.Valid) (hh : 1 ≤ h ∧ h ≤ kHashMask) :
    (m.getHashCode h).Valid ∧ SpecOp.exec (.hash h) m.spec = some (m.getHashCode h).spec := by
  by_cases hhas : m.hasHashCode
  · simp only [getHashCode, hhas, if_true]
    exact ⟨hm, by simp [spec, SpecOp.exec, hhas]⟩
  · simp only [getHashCode, hhas, Bool.false_eq_true, if_false]
    refine ⟨⟨hm.owner_lt, hm.unowned, hm.lockCount_nonneg, hh.2, hm.numWaiters_eq⟩, ?_⟩
    have hne : h ≠ 0 := by omega
    have h0 : m.hashCode = 0 := by simpa [hasHashCode] using hhas
    simp [spec, SpecOp.exec, hasHashCode, hne, h0]

end Monitor

theorem Shaped.abstraction_setMonitor {s : ObjectLock} {mon : Nat} {m : Monitor}
    (hs : Shaped (.fat mon) s) (hm : m.Valid) : abstraction (s.setMonitor mon m) = m.spec := by
  rw [(hs.setMonitor hm).abstraction_eq]
  simp [LockShape.spec, ObjectLock.setMonitor]

/-! ## One step -/

section Step

variable {s : ObjectLock}

/-- A step of `e` from `s` to `t` with outcome `o` meets the step lemma's three conditions. -/
theorem stepSpec_of_eq {e : Event} {t : ObjectLock} {o : Outcome} (h : step e s = (o, t))
    (hinv : Inv t) (ho : o ≠ .abort)
    (hp : Performs SpecOp.exec (label e o) (abstraction s) (abstraction t)) :
    StepSpec step abstraction SpecOp.exec label Inv (· ≠ .abort) e s := by
  constructor <;> rw [h] <;> assumption

/-- A step that inflates a thin lock, with hash code `h`. -/
theorem Shaped.stepSpec_inflate_thin {e : Event} {o c h mon : Nat} (hs : Shaped (.thin o c) s)
    (hstep : step e s = inflate (some o) h mon s) (hmon : mon < 2 ^ 29) (hh : h ≤ kHashMask)
    (hp : Performs SpecOp.exec (label e .again) (some (o, c + 1), none)
      (some (o, c + 1), if h ≠ 0 then some h else none)) :
    StepSpec step abstraction SpecOp.exec label Inv (· ≠ .abort) e s := by
  rw [hs.inflate_thin] at hstep
  have hm := thinMonitor_valid hs.valid hh
  refine stepSpec_of_eq hstep ⟨_, shaped_install (by omega) hm⟩ (by simp) ?_
  rw [hs.abstraction_eq, abstraction_install (by omega) hm, thinMonitor_abstraction hs.valid]
  exact hp

/-- A step that changes nothing. -/
theorem Shaped.stepSpec_self {e : Event} {v : LockShape} {o : Outcome} (hs : Shaped v s)
    (hstep : step e s = (o, s)) (ho : o ≠ .abort)
    (hp : Performs SpecOp.exec (label e o) (abstraction s) (abstraction s)) :
    StepSpec step abstraction SpecOp.exec label Inv (· ≠ .abort) e s :=
  stepSpec_of_eq hstep ⟨v, hs⟩ ho hp

/-- `MonitorEnter` by the owner of a thin lock whose count can grow. -/
theorem Shaped.monitorEnter_own {o c mon : Nat} {b : Bool} (hs : Shaped (.thin o c) s)
    (hc : c + 1 ≤ kThinLockMaxCount) :
    step (.monitorEnter o mon b) s = (.returns true, s.setLockWord (fromThinLockId o (c + 1))) := by
  simp [step, monitorEnter, hs.getState, LockShape.state, hs.thinLockOwner, hs.thinLockCount, hc]

/-- `MonitorEnter` by the owner of a thin lock at `kThinLockMaxCount` inflates it. -/
theorem Shaped.monitorEnter_own_max {o c mon : Nat} {b : Bool} (hs : Shaped (.thin o c) s)
    (hc : ¬ c + 1 ≤ kThinLockMaxCount) : step (.monitorEnter o mon b) s = inflate (some o) 0 mon s := by
  simp [step, monitorEnter, hs.getState, LockShape.state, hs.thinLockOwner, hs.thinLockCount, hc,
    inflateThinLocked]

/-- `MonitorEnter` on a fat word is `Monitor::Lock` of its monitor, whatever the monitor holds. -/
theorem monitorEnter_fat {self mon id : Nat} {b : Bool} (hw : s.lockWord = fromMonitorId id)
    (hid : id < 2 ^ 30) :
    step (.monitorEnter self mon b) s =
      (((s.monitors id).lock self).1, s.setMonitor id ((s.monitors id).lock self).2) := by
  simp [step, monitorEnter, hw, getState_fromMonitorId hid, fatLockMonitor_fromMonitorId hid]

theorem monitorEnter_spec {v : LockShape} {self mon : Nat} {b : Bool} (hs : Shaped v s)
    (he : (Event.monitorEnter self mon b).Valid) (hno : ¬ Overflows (.monitorEnter self mon b) s) :
    StepSpec step abstraction SpecOp.exec label Inv (· ≠ .abort) (.monitorEnter self mon b) s := by
  obtain ⟨hself, hmon1, hmon2⟩ := he
  cases v with
  | unlocked =>
    have hstep : step (.monitorEnter self mon b) s =
        (.returns true, s.setLockWord (fromThinLockId self 0)) := by
      simp [step, monitorEnter, hs.getState, LockShape.state]
    have ht : Shaped (.thin self 0) (s.setLockWord (fromThinLockId self 0)) :=
      shaped_setLockWord ⟨hself.1, hself.2, Nat.zero_le _⟩ (by simp)
    refine stepSpec_of_eq hstep ⟨_, ht⟩ (by simp) ?_
    rw [hs.abstraction_eq, ht.abstraction_eq]
    simp [label, Performs, SpecOp.exec, LockShape.spec, ReentrantLock.exec]
  | thin o c =>
    by_cases ho : o = self
    · subst ho
      by_cases hc : c + 1 ≤ kThinLockMaxCount
      · have hstep : step (.monitorEnter o mon b) s = _ := hs.monitorEnter_own hc
        have ht : Shaped (.thin o (c + 1)) (s.setLockWord (fromThinLockId o (c + 1))) :=
          shaped_setLockWord ⟨hs.valid.1, hs.valid.2.1, hc⟩ (by simp)
        refine stepSpec_of_eq hstep ⟨_, ht⟩ (by simp) ?_
        rw [hs.abstraction_eq, ht.abstraction_eq]
        simp [label, Performs, SpecOp.exec, LockShape.spec, ReentrantLock.exec]
      · -- the thin count would overflow: the lock is inflated
        exact hs.stepSpec_inflate_thin (hs.monitorEnter_own_max hc) hmon2 (Nat.zero_le _)
          (by simp [label, Performs])
    · cases b with
      | true =>
        refine hs.stepSpec_inflate_thin ?_ hmon2 (Nat.zero_le _) (by simp [label, Performs])
        simp [step, monitorEnter, hs.getState, LockShape.state, hs.thinLockOwner, ho,
          inflateThinLocked]
      | false =>
        have hstep : step (.monitorEnter self mon false) s = (.again, s) := by
          simp [step, monitorEnter, hs.getState, LockShape.state, hs.thinLockOwner, ho]
        exact hs.stepSpec_self hstep (by simp) (by simp [label, Performs])
  | fat id =>
    have hm := hs.monitor id rfl
    have hno' : ¬ ((s.monitors id).owner = some self ∧ (s.monitors id).lockCount = Int32.maxValue) :=
      fun h => hno ⟨by rw [hs.getState]; rfl, by rw [hs.fatLockMonitor]; exact h.1,
        by rw [hs.fatLockMonitor]; exact h.2⟩
    have hstep : step (.monitorEnter self mon b) s = _ := monitorEnter_fat hs.word hs.valid
    obtain ⟨hm', hlock⟩ := Monitor.lock_spec hm hself hno'
    refine stepSpec_of_eq hstep ⟨_, hs.setMonitor hm'⟩ ?_ ?_
    · rcases hlock with ⟨h, -⟩ | ⟨h, -⟩ <;> simp [h]
    · rw [hs.abstraction_eq, hs.abstraction_setMonitor hm']
      rcases hlock with ⟨h, hexec⟩ | ⟨h, heq⟩
      · simpa [h, label, Performs, LockShape.spec] using hexec
      · simp [h, heq, label, Performs, LockShape.spec]
  | hash h =>
    have hstep : step (.monitorEnter self mon b) s =
        (.again, (s.setMonitor mon (Monitor.create none h)).setLockWord (fromMonitorId mon)) := by
      simp [step, monitorEnter, hs.getState, LockShape.state, hs.getHashCode, hs.inflate_hash]
    have hm : (Monitor.create none h).Valid :=
      ⟨by simp [Monitor.create], fun _ => rfl, by simp [Monitor.create], hs.valid.2, rfl⟩
    refine stepSpec_of_eq hstep ⟨_, shaped_install (by omega) hm⟩ (by simp) ?_
    rw [hs.abstraction_eq, abstraction_install (by omega) hm]
    have hne : h ≠ 0 := by have := hs.valid.1; omega
    simp [label, Performs, LockShape.spec, Monitor.spec, Monitor.create, Monitor.hasHashCode, hne]

theorem monitorExit_spec {v : LockShape} {self : Nat} (hs : Shaped v s) :
    StepSpec step abstraction SpecOp.exec label Inv (· ≠ .abort) (.monitorExit self) s := by
  cases v with
  | unlocked =>
    have hstep : step (.monitorExit self) s = (.returns false, s) := by
      simp [step, monitorExit, hs.getState, LockShape.state]
    refine hs.stepSpec_self hstep (by simp) ?_
    rw [hs.abstraction_eq]
    simp [label, Performs, SpecOp.exec, LockShape.spec]
  | hash h =>
    have hstep : step (.monitorExit self) s = (.returns false, s) := by
      simp [step, monitorExit, hs.getState, LockShape.state]
    refine hs.stepSpec_self hstep (by simp) ?_
    rw [hs.abstraction_eq]
    simp [label, Performs, SpecOp.exec, LockShape.spec]
  | thin o c =>
    by_cases ho : o = self
    · subst ho
      by_cases hc : c = 0
      · -- the last acquisition: the word becomes unlocked
        subst hc
        have hstep : step (.monitorExit o) s = (.returns true, s.setLockWord unlockedWord) := by
          simp [step, monitorExit, hs.getState, LockShape.state, hs.thinLockOwner, hs.thinLockCount]
        have ht : Shaped .unlocked (s.setLockWord unlockedWord) := shaped_setLockWord trivial (by simp)
        refine stepSpec_of_eq hstep ⟨_, ht⟩ (by simp) ?_
        rw [hs.abstraction_eq, ht.abstraction_eq]
        simp [label, Performs, SpecOp.exec, LockShape.spec, ReentrantLock.exec]
      · have hstep : step (.monitorExit o) s =
            (.returns true, s.setLockWord (fromThinLockId o (c - 1))) := by
          simp [step, monitorExit, hs.getState, LockShape.state, hs.thinLockOwner, hs.thinLockCount, hc]
        have ht : Shaped (.thin o (c - 1)) (s.setLockWord (fromThinLockId o (c - 1))) :=
          shaped_setLockWord ⟨hs.valid.1, hs.valid.2.1, le_trans (Nat.sub_le c 1) hs.valid.2.2⟩ (by simp)
        refine stepSpec_of_eq hstep ⟨_, ht⟩ (by simp) ?_
        rw [hs.abstraction_eq, ht.abstraction_eq]
        simp [label, Performs, SpecOp.exec, LockShape.spec, ReentrantLock.exec]
        omega
    · have hstep : step (.monitorExit self) s = (.returns false, s) := by
        simp [step, monitorExit, hs.getState, LockShape.state, hs.thinLockOwner, ho]
      refine hs.stepSpec_self hstep (by simp) ?_
      rw [hs.abstraction_eq]
      simp [label, Performs, SpecOp.exec, LockShape.spec, ReentrantLock.release_other _ ho]
  | fat id =>
    have hm := hs.monitor id rfl
    have hstep : step (.monitorExit self) s =
        (.returns ((s.monitors id).unlock self).1, s.setMonitor id ((s.monitors id).unlock self).2) := by
      simp [step, monitorExit, hs.getState, LockShape.state, hs.fatLockMonitor]
    obtain ⟨hm', hunlock⟩ := @Monitor.unlock_spec (s.monitors id) self hm
    refine stepSpec_of_eq hstep ⟨_, hs.setMonitor hm'⟩ (by simp) ?_
    rw [hs.abstraction_eq, hs.abstraction_setMonitor hm']
    rcases hunlock with ⟨h, hexec⟩ | ⟨h, hexec, heq⟩
    · simpa [h, label, Performs, LockShape.spec] using hexec
    · simpa [h, heq, label, Performs, LockShape.spec] using hexec

theorem wait_spec {v : LockShape} {self mon : Nat} (hs : Shaped v s)
    (he : (Event.wait self mon).Valid) :
    StepSpec step abstraction SpecOp.exec label Inv (· ≠ .abort) (.wait self mon) s := by
  obtain ⟨-, -, hmon⟩ := he
  cases v with
  | unlocked =>
    have hstep : step (.wait self mon) s = (.returns false, s) := by
      simp [step, wait, hs.getState, LockShape.state]
    exact hs.stepSpec_self hstep (by simp) (by simp [label, Performs])
  | fat id =>
    have hstep : step (.wait self mon) s = (.returns true, s) := by
      simp [step, wait, hs.getState, LockShape.state]
    exact hs.stepSpec_self hstep (by simp) (by simp [label, Performs])
  | hash h =>
    have hstep : step (.wait self mon) s = (.returns false, s) := by
      simp [step, wait, hs.getState, LockShape.state]
    exact hs.stepSpec_self hstep (by simp) (by simp [label, Performs])
  | thin o c =>
    by_cases ho : o = self
    · subst ho
      refine hs.stepSpec_inflate_thin ?_ hmon (Nat.zero_le _) (by simp [label, Performs])
      simp [step, wait, hs.getState, LockShape.state, hs.thinLockOwner]
    · have hstep : step (.wait self mon) s = (.returns false, s) := by
        simp [step, wait, hs.getState, LockShape.state, hs.thinLockOwner, ho]
      exact hs.stepSpec_self hstep (by simp) (by simp [label, Performs])

theorem identityHashCode_spec {v : LockShape} {h mon : Nat} (hs : Shaped v s)
    (he : (Event.identityHashCode h mon).Valid) :
    StepSpec step abstraction SpecOp.exec label Inv (· ≠ .abort) (.identityHashCode h mon) s := by
  obtain ⟨hh, -, hmon⟩ := he
  have hne : h ≠ 0 := by omega
  cases v with
  | unlocked =>
    have hstep : step (.identityHashCode h mon) s = (.returns true, s.setLockWord (fromHashCode h)) := by
      simp [step, identityHashCode, hs.getState, LockShape.state]
    have ht : Shaped (.hash h) (s.setLockWord (fromHashCode h)) := shaped_setLockWord hh (by simp)
    refine stepSpec_of_eq hstep ⟨_, ht⟩ (by simp) ?_
    rw [hs.abstraction_eq, ht.abstraction_eq]
    simp [label, Performs, SpecOp.exec, LockShape.spec]
  | thin o c =>
    refine hs.stepSpec_inflate_thin ?_ hmon hh.2 (by simp [label, Performs, SpecOp.exec, hne])
    simp [step, identityHashCode, hs.getState, LockShape.state, inflateThinLocked, hs.thinLockOwner]
  | fat id =>
    have hm := hs.monitor id rfl
    have hstep : step (.identityHashCode h mon) s =
        (.returns true, s.setMonitor id ((s.monitors id).getHashCode h)) := by
      simp [step, identityHashCode, hs.getState, LockShape.state, hs.fatLockMonitor]
    obtain ⟨hm', hexec⟩ := Monitor.getHashCode_spec hm hh
    refine stepSpec_of_eq hstep ⟨_, hs.setMonitor hm'⟩ (by simp) ?_
    rw [hs.abstraction_eq, hs.abstraction_setMonitor hm']
    simpa [label, Performs, LockShape.spec] using hexec
  | hash x =>
    have hstep : step (.identityHashCode h mon) s = (.returns true, s) := by
      simp [step, identityHashCode, hs.getState, LockShape.state]
    refine hs.stepSpec_self hstep (by simp) ?_
    rw [hs.abstraction_eq]
    simp [label, Performs, SpecOp.exec, LockShape.spec]

/-- `Deflate` of a fat lock whose monitor is owned, has no hash code and a count that fits a thin
word. -/
theorem Shaped.deflate_owned {id o : Nat} (hs : Shaped (.fat id) s) (hown : (s.monitors id).owner = some o)
    (hhas : (s.monitors id).hasHashCode = false)
    (hk : ¬ (s.monitors id).lockCount.toInt > (kThinLockMaxCount : Int)) :
    step .deflate s = (.returns true,
      s.setLockWord (fromThinLockId o (Word.toUnsigned 32 (s.monitors id).lockCount.toInt))) := by
  have hm := hs.monitor id rfl
  simp [step, deflate, hs.getState, LockShape.state, hs.fatLockMonitor, hm.numWaiters_eq, hown, hhas, hk]

theorem deflate_spec {v : LockShape} (hs : Shaped v s) :
    StepSpec step abstraction SpecOp.exec label Inv (· ≠ .abort) .deflate s := by
  cases v with
  | fat id =>
    have hm := hs.monitor id rfl
    have hsm : abstraction s = (s.monitors id).spec := by rw [hs.abstraction_eq]; rfl
    rcases hown : (s.monitors id).owner with _ | o
    · by_cases hhas : (s.monitors id).hasHashCode
      · -- deflated to the hash word of the monitor's hash code
        have hstep : step .deflate s =
            (.returns true, s.setLockWord (fromHashCode (s.monitors id).hashCode)) := by
          simp [step, deflate, hs.getState, LockShape.state, hs.fatLockMonitor, hm.numWaiters_eq, hown, hhas]
        have h1 : 1 ≤ (s.monitors id).hashCode := by
          simp only [Monitor.hasHashCode, bne_iff_ne, ne_eq] at hhas
          omega
        have ht : Shaped (.hash (s.monitors id).hashCode) (s.setLockWord (fromHashCode (s.monitors id).hashCode)) :=
          shaped_setLockWord ⟨h1, hm.hashCode_le⟩ (by simp)
        refine stepSpec_of_eq hstep ⟨_, ht⟩ (by simp) ?_
        rw [hsm, ht.abstraction_eq]
        simp [label, Performs, LockShape.spec, Monitor.spec, hown, hhas]
      · have hstep : step .deflate s = (.returns true, s.setLockWord unlockedWord) := by
          simp [step, deflate, hs.getState, LockShape.state, hs.fatLockMonitor, hm.numWaiters_eq, hown, hhas]
        have ht : Shaped .unlocked (s.setLockWord unlockedWord) := shaped_setLockWord trivial (by simp)
        refine stepSpec_of_eq hstep ⟨_, ht⟩ (by simp) ?_
        rw [hsm, ht.abstraction_eq]
        simp [label, Performs, LockShape.spec, Monitor.spec, hown, hhas]
    · by_cases hhas : (s.monitors id).hasHashCode
      · have hstep : step .deflate s = (.returns false, s) := by
          simp [step, deflate, hs.getState, LockShape.state, hs.fatLockMonitor, hm.numWaiters_eq, hown, hhas]
        exact hs.stepSpec_self hstep (by simp) (by simp [label, Performs])
      by_cases hk : (s.monitors id).lockCount.toInt > (kThinLockMaxCount : Int)
      · have hstep : step .deflate s = (.returns false, s) := by
          simp [step, deflate, hs.getState, LockShape.state, hs.fatLockMonitor, hm.numWaiters_eq, hown, hhas, hk]
        exact hs.stepSpec_self hstep (by simp) (by simp [label, Performs])
      · -- deflated to a thin word of the owner and the count
        have h0 := hm.lockCount_nonneg
        have hlt := (s.monitors id).lockCount.toInt_lt
        have hc : (Word.toUnsigned 32 (s.monitors id).lockCount.toInt : Int) =
            (s.monitors id).lockCount.toInt :=
          Word.toUnsigned_eq_self h0 (by simp; omega)
        have hmax : Word.toUnsigned 32 (s.monitors id).lockCount.toInt ≤ kThinLockMaxCount := by
          unfold kThinLockMaxCount kThinLockCountMask at hk ⊢
          push_cast at hk
          omega
        have ht : Shaped (.thin o (Word.toUnsigned 32 (s.monitors id).lockCount.toInt))
            (s.setLockWord (fromThinLockId o (Word.toUnsigned 32 (s.monitors id).lockCount.toInt))) :=
          shaped_setLockWord ⟨(hm.owner_lt o hown).1, (hm.owner_lt o hown).2, hmax⟩ (by simp)
        refine stepSpec_of_eq (hs.deflate_owned hown (by simpa using hhas) hk) ⟨_, ht⟩ (by simp) ?_
        rw [hsm, ht.abstraction_eq]
        simp [label, Performs, LockShape.spec, Monitor.spec, hown, hhas, -Int32.toNat_toInt]
        omega
  | unlocked =>
    have hstep : step .deflate s = (.returns true, s) := by
      simp [step, deflate, hs.getState, LockShape.state]
    exact hs.stepSpec_self hstep (by simp) (by simp [label, Performs])
  | thin o c =>
    have hstep : step .deflate s = (.returns true, s) := by
      simp [step, deflate, hs.getState, LockShape.state]
    exact hs.stepSpec_self hstep (by simp) (by simp [label, Performs])
  | hash h =>
    have hstep : step .deflate s = (.returns true, s) := by
      simp [step, deflate, hs.getState, LockShape.state]
    exact hs.stepSpec_self hstep (by simp) (by simp [label, Performs])

end Step

/-! ## Every run -/

/-- **The step lemma.** -/
theorem step_spec {e : Event} {s : ObjectLock} (hs : Inv s) (he : Allowed e s) :
    StepSpec step abstraction SpecOp.exec label Inv (· ≠ .abort) e s := by
  obtain ⟨v, hs⟩ := hs
  obtain ⟨hvalid, hno⟩ := he
  cases e with
  | monitorEnter self mon b => exact monitorEnter_spec hs hvalid hno
  | monitorExit self => exact monitorExit_spec hs
  | wait self mon => exact wait_spec hs hvalid
  | identityHashCode h mon => exact identityHashCode_spec hs hvalid
  | deflate => exact deflate_spec hs

/-- **The protocol refines the abstract object.**  Every run of allowed events from a state of
the invariant ends in the invariant, never aborts, and ends in the abstract object that the
operations of its successful `MonitorEnter`s and `MonitorExit`s, its failed `MonitorExit`s and
its `IdentityHashCode`s compute. -/
theorem run_refines (es : List Event) {s : ObjectLock} (hs : Inv s) (hok : RunOk step Allowed es s) :
    Inv (run step es s).2 ∧ (∀ o ∈ (run step es s).1, o ≠ .abort) ∧
      execAll SpecOp.exec (trace label es (run step es s).1) (abstraction s) =
        some (abstraction (run step es s).2) :=
  run_simulates step abstraction SpecOp.exec label Inv (· ≠ .abort)
    (fun _ _ hs he => step_spec hs he) es s hs hok

/-- Lock operations of the abstract object run on its lock alone. -/
theorem execAll_lock (ops : List (ReentrantLock.Op Nat)) (l : ReentrantLock.State Nat) (h : Option Nat) :
    execAll SpecOp.exec (ops.map .lock) (l, h) =
      (execAll ReentrantLock.exec ops l).map fun l' => (l', h) := by
  induction ops generalizing l with
  | nil => rfl
  | cons op ops ih =>
    rw [List.map_cons, execAll_cons, execAll_cons]
    cases hop : ReentrantLock.exec op l with
    | none => simp [SpecOp.exec, hop]
    | some l' => simp [SpecOp.exec, hop, ih]

/-- A new object that a thread locks `n + 1` times and unlocks as many times, whatever the other
threads' steps that perform no operation, is unlocked again. -/
theorem run_nested_unlocks (es : List Event) (t n : Nat) (hok : RunOk step Allowed es initialState)
    (htrace : trace label es (run step es initialState).1 =
      (List.replicate (n + 1) (ReentrantLock.Op.acquire t) ++
        List.replicate (n + 1) (ReentrantLock.Op.release t)).map .lock) :
    lockState (run step es initialState).2 = none := by
  obtain ⟨-, -, hexec⟩ := run_refines es initialState_inv hok
  rw [htrace, show abstraction initialState = (none, none) from rfl, execAll_lock,
    ReentrantLock.execAll_nested] at hexec
  have h := (Option.some.inj hexec).symm
  exact congrArg Prod.fst h

/-- **A failed `MonitorExit` changes nothing.**  A thread that does not hold the lock gets
`false` and leaves the word and every monitor as they were. -/
theorem monitorExit_not_owner {s : ObjectLock} {self : Nat} (hs : Inv s)
    (hown : ∀ d, lockState s ≠ some (self, d)) : step (.monitorExit self) s = (.returns false, s) := by
  obtain ⟨v, hs⟩ := hs
  have hl : ∀ d, (abstraction s).1 ≠ some (self, d) := hown
  rw [hs.abstraction_eq] at hl
  cases v with
  | unlocked => simp [step, monitorExit, hs.getState, LockShape.state]
  | hash h => simp [step, monitorExit, hs.getState, LockShape.state]
  | thin o c =>
    have ho : o ≠ self := fun h => hl (c + 1) (by simp [LockShape.spec, h])
    simp [step, monitorExit, hs.getState, LockShape.state, hs.thinLockOwner, ho]
  | fat id =>
    have hown' : (s.monitors id).owner ≠ some self := fun h =>
      hl ((s.monitors id).lockCount.toInt.toNat + 1) (by simp [LockShape.spec, Monitor.spec, h])
    simp [step, monitorExit, hs.getState, LockShape.state, hs.fatLockMonitor, Monitor.unlock, hown',
      ObjectLock.setMonitor]

/-! ## `lock_count_` past `INT32_MAX` -/

/-- The states that valid steps reach from a new object without aborting. -/
abbrev Reachable : ObjectLock → Prop :=
  Reach step (fun e s => e.Valid ∧ (step e s).1 ≠ .abort) initialState

/-- Thread 1 holds the object's thin lock `c + 1` times. -/
def heldThin (c : Nat) : ObjectLock := initialState.setLockWord (fromThinLockId 1 c)

/-- Thread 1 holds the object's lock through monitor 1, with `lock_count_ = k`. -/
def heldFat (k : Int32) : ObjectLock :=
  (initialState.setMonitor 1 ⟨some 1, k, 0, 0⟩).setLockWord (fromMonitorId 1)

/-- `MonitorEnter` by thread 1, monitor 1 being the one an inflation creates. -/
def enterByOne : Event := .monitorEnter 1 1 false

theorem enterByOne_valid : enterByOne.Valid := by decide

theorem shaped_heldThin {c : Nat} (hc : c ≤ kThinLockMaxCount) : Shaped (.thin 1 c) (heldThin c) :=
  shaped_setLockWord ⟨le_refl 1, by norm_num, hc⟩ (by simp)

theorem step_enterByOne_initialState : step enterByOne initialState = (.returns true, heldThin 0) := by
  simp [enterByOne, step, monitorEnter, initialState, heldThin]

theorem step_enterByOne_heldThin {c : Nat} (hc : c + 1 ≤ kThinLockMaxCount) :
    step enterByOne (heldThin c) = (.returns true, heldThin (c + 1)) :=
  (shaped_heldThin (Nat.le_of_succ_le hc)).monitorEnter_own hc

/-- At `kThinLockMaxCount` the thin count would overflow: the lock is inflated to monitor 1. -/
theorem step_enterByOne_heldThin_max :
    step enterByOne (heldThin kThinLockMaxCount) = (.again, heldFat 16383) := by
  have hs := shaped_heldThin (le_refl kThinLockMaxCount)
  rw [enterByOne, hs.monitorEnter_own_max (by omega), hs.inflate_thin]
  rfl

/-- On the fat lock, `Monitor::Lock` increments `lock_count_`, for every value of it. -/
theorem step_enterByOne_heldFat (k : Int32) :
    step enterByOne (heldFat k) = (.returns true, heldFat (k + 1)) := by
  rw [enterByOne, monitorEnter_fat rfl (by norm_num)]
  simp [heldFat, ObjectLock.setLockWord, ObjectLock.setMonitor, initialState, Monitor.lock]

theorem reach_heldThin : ∀ c, c ≤ kThinLockMaxCount → Reachable (heldThin c) := by
  intro c
  induction c with
  | zero =>
    intro _
    rw [← show (step enterByOne initialState).2 = heldThin 0 by rw [step_enterByOne_initialState]]
    exact .step .init ⟨enterByOne_valid, by rw [step_enterByOne_initialState]; simp⟩
  | succ c ih =>
    intro hc
    rw [← show (step enterByOne (heldThin c)).2 = heldThin (c + 1) by rw [step_enterByOne_heldThin hc]]
    exact .step (ih (by omega)) ⟨enterByOne_valid, by rw [step_enterByOne_heldThin hc]; simp⟩

theorem reach_heldFat : ∀ n : Nat, Reachable (heldFat (Int32.ofNat (16383 + n))) := by
  intro n
  induction n with
  | zero =>
    rw [← show (step enterByOne (heldThin kThinLockMaxCount)).2 = heldFat (Int32.ofNat (16383 + 0)) by
      rw [step_enterByOne_heldThin_max]; rfl]
    exact .step (reach_heldThin _ (le_refl _))
      ⟨enterByOne_valid, by rw [step_enterByOne_heldThin_max]; simp⟩
  | succ n ih =>
    rw [← show (step enterByOne (heldFat (Int32.ofNat (16383 + n)))).2 =
        heldFat (Int32.ofNat (16383 + (n + 1))) by
      rw [step_enterByOne_heldFat, ← Nat.add_assoc, Int32.ofNat_add (16383 + n) 1]; rfl]
    exact .step ih ⟨enterByOne_valid, by rw [step_enterByOne_heldFat]; simp⟩

/-- Thread 1 reaches `lock_count_ = INT32_MAX` by entering the monitor `2^31` times. -/
theorem reach_heldFat_maxValue : Reachable (heldFat Int32.maxValue) := by
  have h := reach_heldFat (2 ^ 31 - 1 - 16383)
  rwa [show Int32.ofNat (16383 + (2 ^ 31 - 1 - 16383)) = Int32.maxValue by decide] at h

theorem monitorEnter_wraps_lock_count :
    Reachable (heldFat Int32.maxValue) ∧
      abstraction (heldFat Int32.maxValue) = (some (1, 2 ^ 31), none) ∧
      step enterByOne (heldFat Int32.maxValue) = (.returns true, heldFat (Int32.maxValue + 1)) ∧
      (Int32.maxValue + 1).toInt = -2 ^ 31 ∧
      SpecOp.exec (.lock (.acquire 1)) (abstraction (heldFat Int32.maxValue)) =
        some (some (1, 2 ^ 31 + 1), none) ∧
      abstraction (heldFat (Int32.maxValue + 1)) = (some (1, 1), none) := by
  refine ⟨reach_heldFat_maxValue, by decide, step_enterByOne_heldFat _, by decide,
    by decide, by decide⟩

end Art
