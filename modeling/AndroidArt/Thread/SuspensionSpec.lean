import AndroidArt.Thread.Suspension
import AndroidArt.Lib.Simulation
import Mathlib.Data.List.Perm.Basic

/-!
# Suspension is sound

The invariant `Inv` of every reachable state of the threads (`Reachable`), and what it gives:

* a thread in `kRunnable` holds a share of `mutator_lock_`, so while a thread holds it
  exclusively, as it does from the end of `SuspendAll` to the start of `ResumeAll`, no other
  thread is runnable;
* a thread's CAS into `kRunnable` succeeds only with its `kSuspendRequest` flag clear, and while
  `thread_suspend_count_lock_` is free the flag is set exactly when the suspend count is
  positive;
* the closures installed by successful `RequestCheckpoint`s on a thread are the closures it has
  run, those in its slots, and those it has taken out of them to run: so it never runs one twice,
  and has run them all when it leaves `kRunnable`, which it does only with its checkpoint flag
  clear and so with its slots empty.

The invariant is a statement per thread about where the thread is (`PcOk`), and statements about
the shared state.  `Pc.sameRole` says when moving a thread to another point of its code cannot
change what the invariant says of the shared state; `Inv.setPc` is then the step lemma of all
such moves, and `Inv.acquireCount` and `Inv.releaseCount` those of the lock operations.  The
other steps have a lemma each.  What runs from a reachable state can do, and the theorem that
puts it together with the invariant, are in `Thread/SuspensionProgress.lean`.
-/

set_option autoImplicit false

namespace Art

/-! ## The points of the code, by what holds there -/

namespace Pc

/-- The thread holds a share of `mutator_lock_` here while not runnable: from its CAS out of
`kRunnable` to the `SharedUnlock` after it, and from `SharedLock` to its CAS into `kRunnable` or
the `SharedUnlock` of a failed try. -/
def holdsShare : Pc → Bool
  | r2sUnlock _ | s2rLoad2 | s2rCas _ | s2rSharedUnlock => true
  | _ => false

/-- The thread is runnable here: in the suspend check, before the CAS of
`TransitionFromRunnableToSuspended`, and in `RunCheckpointFunction`. -/
def whileRunnable : Pc → Bool
  | checkSuspend | checkSuspendRequest | r2sLoad _ _ | r2sCas _ _ _ | rcfLock _ | rcfCopy _
  | rcfClearFlag _ _ | rcfUnlock _ _ | rcfRun _ _ => true
  | _ => false

/-- The thread is not runnable here: after the CAS out of `kRunnable`, and in
`TransitionFromSuspendedToRunnable`. -/
def whileSuspended : Pc → Bool
  | r2sUnlock _ | s2rLoad | s2rLockCount | s2rRecheck | s2rWait | s2rWaiting | s2rUnlockCount
  | s2rSharedLock | s2rLoad2 | s2rCas _ | s2rSharedUnlock => true
  | _ => false

/-- The thread holds `thread_suspend_count_lock_` here (a thread in no call may hold it too). -/
def holdsCountLock : Pc → Bool
  | s2rRecheck | s2rWait | s2rUnlockCount | rcfCopy _ | rcfClearFlag _ _ | rcfUnlock _ _
  | mscCount _ _ _ | mscFlag _ _ | rcLoad _ _ | rcInstall _ _ _ | rcCas _ _ _ _ | saIncrement
  | saLoop _ | saUnlockCount | raDecrement | raLoop _ | raBroadcast | raUnlockCount => true
  | _ => false

/-- What the locals of a point are known to be: the word a CAS compares against was loaded with
the flag the code tested clear, and `delta` is at least `-1`. -/
def LocalsOk : Pc → Prop
  | r2sCas _ old _ => old.checkpointRequest = false
  | s2rCas old => old.suspendRequest = false
  | mscCount _ delta _ => -1 ≤ delta
  | _ => True

/-- `RunCheckpointFunction` before it moves the closures out of the slots. -/
def beforeCopy : Pc → Bool
  | rcfLock _ | rcfCopy _ => true
  | _ => false

/-- `RunCheckpointFunction` after it moved the closures out of the slots. -/
def afterCopy : Pc → Bool
  | rcfClearFlag _ _ | rcfUnlock _ _ | rcfRun _ _ => true
  | _ => false

/-- `RunCheckpointFunction` between emptying the slots and clearing the flag. -/
def clearingFlag : Pc → Bool
  | rcfClearFlag _ _ => true
  | _ => false

/-- The closures a thread has taken out of its slots and not yet run. -/
def taken : Pc → List Nat
  | rcfClearFlag taken _ | rcfUnlock taken _ | rcfRun taken _ => taken
  | _ => []

/-- `ModifySuspendCount` between its update of the count and of the flag. -/
def isFlag : Pc → Bool
  | mscFlag _ _ => true
  | _ => false

/-- `RequestCheckpoint` between its install and its CAS. -/
def isCas : Pc → Bool
  | rcCas _ _ _ _ => true
  | _ => false

/-- `ResumeAll` before it releases `mutator_lock_`. -/
def isResume : Pc → Bool
  | raExclusiveUnlock => true
  | _ => false

/-- The slot of `u` that a `RequestCheckpoint` here has filled and not yet published. -/
def casSlot : Pc → Nat → Option Nat
  | rcCas target _ _ i, u => if target = u then some i else none
  | _, _ => none

/-- Moving a thread from `q` to `p` changes nothing the invariant says of the checkpoint slots
and the suspend flag: the thread has the same closures taken out of its slots at both, and
leaves no point between two halves of an update (of the suspend count and flag, or of a slot and
the flag). -/
def sameRole (p q : Pc) : Bool :=
  p.taken == q.taken && !q.isFlag && !p.isCas && !q.isCas

/-- The obligations of `p`, but for the count lock, are among those of `q`. -/
def weaker (p q : Pc) : Bool :=
  (!p.whileRunnable || q.whileRunnable) && (!p.whileSuspended || q.whileSuspended) &&
    (!p.beforeCopy || q.beforeCopy) && (!p.afterCopy || q.afterCopy)

/-- A move from `q` to `p` keeps what the invariant says of the shared state: `p` has the role of
`q`, clears the checkpoint flag as `q` does, and is at the start of `ResumeAll` exactly where `q`
is. -/
def similar (p q : Pc) : Bool :=
  p.sameRole q && p.clearingFlag == q.clearingFlag && p.isResume == q.isResume

/-- A thread may go on from `q` to `p` with what holds at `q`: the move keeps the shared state,
and `p` has fewer obligations but for the count lock. -/
def follows (p q : Pc) : Bool := p.similar q && p.weaker q

/-- A move from `q` to `p` that changes nothing but the point: `p` follows `q`, holds a share as
`q` does, and holds the count lock only where `q` does. -/
def plainFrom (p q : Pc) : Bool :=
  p.follows q && p.holdsShare == q.holdsShare && (!p.holdsCountLock || q.holdsCountLock)

theorem sameRole_iff {p q : Pc} :
    p.sameRole q = true ↔ p.taken = q.taken ∧ q.isFlag = false ∧ p.isCas = false ∧
      q.isCas = false := by
  simp [sameRole, and_assoc]

theorem weaker_iff {p q : Pc} :
    p.weaker q = true ↔ (p.whileRunnable = true → q.whileRunnable = true) ∧
      (p.whileSuspended = true → q.whileSuspended = true) ∧
      (p.beforeCopy = true → q.beforeCopy = true) ∧ (p.afterCopy = true → q.afterCopy = true) := by
  simp only [weaker, Bool.and_eq_true, Bool.or_eq_true, Bool.not_eq_true', ← Bool.not_eq_true,
    imp_iff_not_or, and_assoc]

theorem similar_iff {p q : Pc} :
    p.similar q = true ↔ p.sameRole q = true ∧ p.clearingFlag = q.clearingFlag ∧
      p.isResume = q.isResume := by
  simp [similar, and_assoc]

theorem follows_iff {p q : Pc} : p.follows q = true ↔ p.similar q = true ∧ p.weaker q = true := by
  simp [follows]

theorem plainFrom_iff {p q : Pc} :
    p.plainFrom q = true ↔ p.follows q = true ∧ p.holdsShare = q.holdsShare ∧
      (p.holdsCountLock = true → q.holdsCountLock = true) := by
  simp only [plainFrom, Bool.and_eq_true, beq_iff_eq, Bool.or_eq_true, Bool.not_eq_true',
    ← Bool.not_eq_true, imp_iff_not_or, and_assoc]

theorem casSlot_of_isCas {p : Pc} (h : p.isCas = false) (u : Nat) : p.casSlot u = none := by
  cases p <;> simp_all [isCas, casSlot]

theorem casSlot_eq_some {p : Pc} {u i : Nat} (h : p.casSlot u = some i) :
    ∃ function old, p = .rcCas u function old i := by
  cases p <;> simp [casSlot] at h
  obtain ⟨rfl, rfl⟩ := h
  exact ⟨_, _, rfl⟩

theorem holdsCountLock_of_clearingFlag {p : Pc} (h : p.clearingFlag = true) :
    p.holdsCountLock = true := by
  cases p <;> simp_all [clearingFlag, holdsCountLock]

theorem isCas_of_holdsCountLock {p : Pc} (h : p.holdsCountLock = false) : p.isCas = false := by
  cases p <;> simp_all [isCas, holdsCountLock]

theorem eq_of_isResume {p : Pc} (h : p.isResume = true) : p = .raExclusiveUnlock := by
  cases p <;> simp_all [isResume]

end Pc

/-- A call returns to a point other than the start of `ResumeAll`. -/
theorem AfterSuspend.next_ne (k : AfterSuspend) : k.next ≠ .raExclusiveUnlock := by
  cases k <;> nofun

theorem CheckpointCaller.next_ne (k : CheckpointCaller) : k.next ≠ .raExclusiveUnlock := by
  cases k <;> nofun

theorem SuspendCountCaller.next_ne (k : SuspendCountCaller) : k.next ≠ .raExclusiveUnlock := by
  cases k <;> nofun

namespace Threads

/-! ## The updates -/

section Updates

variable (s : Threads) (t u : Nat)

@[simp] theorem setPc_threads (p : Pc) : (s.setPc t p).threads = s.threads := rfl
@[simp] theorem setPc_pc (p : Pc) : (s.setPc t p).pc = Function.update s.pc t p := rfl
@[simp] theorem setPc_mutatorLock (p : Pc) : (s.setPc t p).mutatorLock = s.mutatorLock := rfl
@[simp] theorem setPc_threadSuspendCountLock (p : Pc) :
    (s.setPc t p).threadSuspendCountLock = s.threadSuspendCountLock := rfl
@[simp] theorem setPc_threadListLock (p : Pc) : (s.setPc t p).threadListLock = s.threadListLock :=
  rfl
@[simp] theorem setPc_suspendAllCount (p : Pc) :
    (s.setPc t p).suspendAllCount = s.suspendAllCount := rfl
@[simp] theorem setPc_installed (p : Pc) : (s.setPc t p).installed = s.installed := rfl
@[simp] theorem setPc_ran (p : Pc) : (s.setPc t p).ran = s.ran := rfl

@[simp] theorem setWord_pc (w : StateAndFlags) : (s.setWord t w).pc = s.pc := rfl
@[simp] theorem setWord_mutatorLock (w : StateAndFlags) :
    (s.setWord t w).mutatorLock = s.mutatorLock := rfl
@[simp] theorem setWord_threadSuspendCountLock (w : StateAndFlags) :
    (s.setWord t w).threadSuspendCountLock = s.threadSuspendCountLock := rfl
@[simp] theorem setWord_threadListLock (w : StateAndFlags) :
    (s.setWord t w).threadListLock = s.threadListLock := rfl
@[simp] theorem setWord_suspendAllCount (w : StateAndFlags) :
    (s.setWord t w).suspendAllCount = s.suspendAllCount := rfl
@[simp] theorem setWord_installed (w : StateAndFlags) : (s.setWord t w).installed = s.installed :=
  rfl
@[simp] theorem setWord_ran (w : StateAndFlags) : (s.setWord t w).ran = s.ran := rfl

@[simp] theorem word_setPc (p : Pc) : (s.setPc t p).word u = s.word u := rfl

theorem word_setWord (w : StateAndFlags) :
    (s.setWord t w).word u = if u = t then w else s.word u := by
  by_cases h : u = t
  · subst h; simp [setWord, word]
  · simp [setWord, word, h]

theorem threads_setWord (w : StateAndFlags) :
    ((s.setWord t w).threads u).suspendCount = (s.threads u).suspendCount ∧
      ((s.setWord t w).threads u).checkpointFunctions = (s.threads u).checkpointFunctions := by
  by_cases h : u = t
  · subst h; simp [setWord]
  · simp [setWord, h]

theorem threads_setWord_of_ne (w : StateAndFlags) (h : u ≠ t) :
    (s.setWord t w).threads u = s.threads u := by
  simp [setWord, h]

@[simp] theorem setCheckpointFunctions_pc (fs : List (Option Nat)) :
    (s.setCheckpointFunctions t fs).pc = s.pc := rfl
@[simp] theorem setCheckpointFunctions_mutatorLock (fs : List (Option Nat)) :
    (s.setCheckpointFunctions t fs).mutatorLock = s.mutatorLock := rfl
@[simp] theorem setCheckpointFunctions_threadSuspendCountLock (fs : List (Option Nat)) :
    (s.setCheckpointFunctions t fs).threadSuspendCountLock = s.threadSuspendCountLock := rfl

@[simp] theorem setCheckpointFunctions_threadListLock (fs : List (Option Nat)) :
    (s.setCheckpointFunctions t fs).threadListLock = s.threadListLock := rfl
@[simp] theorem setCheckpointFunctions_suspendAllCount (fs : List (Option Nat)) :
    (s.setCheckpointFunctions t fs).suspendAllCount = s.suspendAllCount := rfl
@[simp] theorem setCheckpointFunctions_installed (fs : List (Option Nat)) :
    (s.setCheckpointFunctions t fs).installed = s.installed := rfl
@[simp] theorem setCheckpointFunctions_ran (fs : List (Option Nat)) :
    (s.setCheckpointFunctions t fs).ran = s.ran := rfl

theorem setCheckpointFunctions_threads (fs : List (Option Nat)) :
    (s.setCheckpointFunctions t fs).threads u =
      if u = t then { s.threads t with checkpointFunctions := fs } else s.threads u := by
  simp [setCheckpointFunctions, Function.update_apply]

theorem word_setCheckpointFunctions (fs : List (Option Nat)) :
    (s.setCheckpointFunctions t fs).word u = s.word u := by
  by_cases h : u = t
  · subst h; simp [word, setCheckpointFunctions]
  · simp [word, setCheckpointFunctions, h]

@[simp] theorem setSuspendCount_pc (n : Int) : (s.setSuspendCount t n).pc = s.pc := rfl
@[simp] theorem setSuspendCount_mutatorLock (n : Int) :
    (s.setSuspendCount t n).mutatorLock = s.mutatorLock := rfl
@[simp] theorem setSuspendCount_threadSuspendCountLock (n : Int) :
    (s.setSuspendCount t n).threadSuspendCountLock = s.threadSuspendCountLock := rfl

theorem setSuspendCount_threads (n : Int) :
    (s.setSuspendCount t n).threads u =
      if u = t then { s.threads t with suspendCount := n } else s.threads u := by
  simp [setSuspendCount, Function.update_apply]

theorem word_setSuspendCount (n : Int) : (s.setSuspendCount t n).word u = s.word u := by
  by_cases h : u = t
  · subst h; simp [word, setSuspendCount]
  · simp [word, setSuspendCount, h]

end Updates

/-! ## The invariant -/

/-- Thread `u` is in `kRunnable`. -/
def Runnable (s : Threads) (u : Nat) : Prop := (s.word u).state = .runnable

/-- The closures that successful `RequestCheckpoint`s installed for `u`. -/
def installedFor (s : Threads) (u : Nat) : List Nat :=
  (s.installed.filter (·.1 = u)).map Prod.snd

/-- The closures that `u` has run. -/
def ranFor (s : Threads) (u : Nat) : List Nat := (s.ran.filter (·.1 = u)).map Prod.snd

/-- The slot of `u` that the thread holding `thread_suspend_count_lock_` has filled in
`RequestCheckpoint` and not yet published by its CAS. -/
def pendingSlot (s : Threads) (u : Nat) : Option Nat :=
  s.threadSuspendCountLock.bind fun h => (s.pc h).casSlot u

/-- The closures of `u`'s slots that a successful CAS has published. -/
def committed (s : Threads) (u : Nat) : List Nat :=
  (match s.pendingSlot u with
    | some i => (s.threads u).checkpointFunctions.set i none
    | none => (s.threads u).checkpointFunctions).filterMap id

/-- What the invariant says of thread `u` at `p`: its state, the lock it holds, its locals, and
in `RunCheckpointFunction`, its flag or the closures it took. -/
structure PcOk (s : Threads) (u : Nat) (p : Pc) : Prop where
  runnable : p.whileRunnable = true → s.Runnable u
  suspended : p.whileSuspended = true → ¬ s.Runnable u
  count : p.holdsCountLock = true → s.threadSuspendCountLock = some u
  locals : p.LocalsOk
  before_copy : p.beforeCopy = true → (s.word u).checkpointRequest = true
  taken : p.afterCopy = true → p.taken ≠ []

/-- The invariant of the reachable states. -/
structure Inv (s : Threads) : Prop where
  lock_valid : s.mutatorLock.Valid
  shares_nodup : s.mutatorLock.shares.Nodup
  /-- A thread holds a share exactly while runnable, or at a point that holds one. -/
  mem_shares : ∀ u, u ∈ s.mutatorLock.shares ↔ s.Runnable u ∨ (s.pc u).holdsShare = true
  pc_ok : ∀ u, PcOk s u (s.pc u)
  count_nonneg : ∀ u, 0 ≤ (s.threads u).suspendCount
  /-- The suspend flag follows the count, but between the two updates of `ModifySuspendCount`. -/
  suspend_flag : ∀ u, (s.word u).suspendRequest = decide (0 < (s.threads u).suspendCount) ∨
    ∃ h r, s.pc h = .mscFlag u r
  pending_slot : ∀ h target function old i, s.pc h = .rcCas target function old i →
    (s.threads target).checkpointFunctions[i]? = some (some function)
  /-- Every installed closure is run, published, or taken out to run, once. -/
  checkpoints : ∀ u, (s.installedFor u).Perm (s.ranFor u ++ s.committed u ++ (s.pc u).taken)
  committed_flag : ∀ u, s.committed u ≠ [] → (s.word u).checkpointRequest = true
  flag_committed : ∀ u, (s.word u).checkpointRequest = true →
    s.committed u ≠ [] ∨ (s.pc u).clearingFlag = true
  clearing_empty : ∀ u, (s.pc u).clearingFlag = true → s.committed u = []
  /-- The caller of `ResumeAll` holds `mutator_lock_` exclusively until its first step. -/
  resume_writer : ∀ u, s.pc u = .raExclusiveUnlock → s.mutatorLock.writer = some u

/-! ## Frames -/

section Frames

variable {s s' : Threads}

theorem runnable_iff_of_state {u : Nat} (h : (s'.word u).state = (s.word u).state) :
    s'.Runnable u ↔ s.Runnable u := by
  unfold Runnable
  rw [h]

theorem installedFor_eq (h : s'.installed = s.installed) : s'.installedFor = s.installedFor := by
  funext u
  simp [installedFor, h]

theorem ranFor_eq (h : s'.ran = s.ran) : s'.ranFor = s.ranFor := by
  funext u
  simp [ranFor, h]

theorem committed_eq
    (h : ∀ u, (s'.threads u).checkpointFunctions = (s.threads u).checkpointFunctions)
    (hp : s'.pendingSlot = s.pendingSlot) : s'.committed = s.committed := by
  funext u
  simp [committed, h, hp]

/-- When only thread `t` moves, and its new point has the closures and the flag phase of its old
one, every thread's `taken` and `clearingFlag` are as they were. -/
theorem taken_clearingFlag_of_move {t v : Nat} (hpco : ∀ u, u ≠ t → s'.pc u = s.pc u)
    (ht : (s'.pc t).taken = (s.pc t).taken ∧ (s'.pc t).clearingFlag = (s.pc t).clearingFlag) :
    (s'.pc v).taken = (s.pc v).taken ∧ (s'.pc v).clearingFlag = (s.pc v).clearingFlag := by
  by_cases hv : v = t
  · subst hv
    exact ht
  · rw [hpco v hv]
    exact ⟨rfl, rfl⟩

end Frames

/-! ## Moves of one thread -/

namespace PcOk

variable {s s' : Threads} {u : Nat} {p : Pc}

/-- What holds of a thread stays true while its state, its checkpoint flag once set, and the
holder of `thread_suspend_count_lock_` stay as they are. -/
theorem mono (h : PcOk s u p) (hstate : (s'.word u).state = (s.word u).state)
    (hflag : (s.word u).checkpointRequest = true → (s'.word u).checkpointRequest = true)
    (hlock : s'.threadSuspendCountLock = s.threadSuspendCountLock) : PcOk s' u p where
  runnable hp := (runnable_iff_of_state hstate).mpr (h.runnable hp)
  suspended hp := by rw [runnable_iff_of_state hstate]; exact h.suspended hp
  count hp := hlock ▸ h.count hp
  locals := h.locals
  before_copy hp := hflag (h.before_copy hp)
  taken := h.taken

/-- A thread may move to a point with fewer obligations. -/
theorem weaken {q : Pc} (h : PcOk s u q) (hw : p.weaker q = true) (hloc : p.LocalsOk)
    (htaken : p.taken = q.taken)
    (hcount : p.holdsCountLock = true → s.threadSuspendCountLock = some u) : PcOk s u p := by
  obtain ⟨hr, hs, hb, ha⟩ := Pc.weaker_iff.mp hw
  exact ⟨fun hp => h.runnable (hr hp), fun hp => h.suspended (hs hp), hcount, hloc,
    fun hp => h.before_copy (hb hp), fun hp => htaken ▸ h.taken (ha hp)⟩

/-- A thread goes on from `q` to `p`, holding the count lock if `p` does. -/
theorem follow {q : Pc} (h : PcOk s u q) (hf : p.follows q = true) (hloc : p.LocalsOk)
    (hcount : p.holdsCountLock = true → s.threadSuspendCountLock = some u) : PcOk s u p :=
  h.weaken (Pc.follows_iff.mp hf).2 hloc
    (Pc.sameRole_iff.mp (Pc.similar_iff.mp (Pc.follows_iff.mp hf).1).1).1 hcount

theorem idle (s : Threads) (u : Nat) : PcOk s u .idle :=
  ⟨nofun, nofun, nofun, trivial, nofun, nofun⟩

end PcOk

section Moves

variable {s s' : Threads} {t : Nat} {p : Pc}

theorem pendingSlot_update (hq : (s.pc t).isCas = false) (hp : p.isCas = false) (u : Nat) :
    (s.threadSuspendCountLock.bind fun h => (Function.update s.pc t p h).casSlot u) =
      s.pendingSlot u := by
  unfold pendingSlot
  cases s.threadSuspendCountLock with
  | none => rfl
  | some h =>
    simp only [Option.bind_some]
    by_cases hh : h = t
    · subst hh
      rw [Function.update_self, Pc.casSlot_of_isCas hq, Pc.casSlot_of_isCas hp]
    · rw [Function.update_of_ne hh]

/-- The caller of `ResumeAll` still holds `mutator_lock_` exclusively at its first step after a
move that keeps the writer, and keeps whether the moving thread is at that step. -/
theorem Inv.resume_writer_of (hi : Inv s) (hpc : s'.pc = Function.update s.pc t p)
    (hresume : p.isResume = (s.pc t).isResume)
    (hwriter : s'.mutatorLock.writer = s.mutatorLock.writer) :
    ∀ u, s'.pc u = .raExclusiveUnlock → s'.mutatorLock.writer = some u := by
  intro u hu
  rw [hwriter]
  apply hi.resume_writer u
  rw [hpc] at hu
  by_cases hut : u = t
  · subst hut
    rw [Function.update_self] at hu
    subst hu
    exact Pc.eq_of_isResume hresume.symm
  · rwa [Function.update_of_ne hut] at hu

/-- **The step lemma of a move.**  Thread `t` moves to `p`, and its word and `mutator_lock_` may
change.  The invariant holds after it if `p` has the role of the old point and its obligations
hold, the change of the word keeps the suspend flag and publishes no closure, and the lock is
valid with the shares of the threads that are runnable or hold one at their points. -/
theorem Inv.move (hi : Inv s) (hpc : s'.pc = Function.update s.pc t p)
    (hlock : s'.threadSuspendCountLock = s.threadSuspendCountLock)
    (hinst : s'.installed = s.installed) (hran : s'.ran = s.ran)
    (hcount : ∀ u, (s'.threads u).suspendCount = (s.threads u).suspendCount)
    (hslots : ∀ u, (s'.threads u).checkpointFunctions = (s.threads u).checkpointFunctions)
    (hword : ∀ u, u ≠ t → s'.word u = s.word u)
    (hsusp : (s'.word t).suspendRequest = (s.word t).suspendRequest)
    (hrole : p.sameRole (s.pc t) = true) (hok : PcOk s' t p)
    (hcf : s.committed t ≠ [] → (s'.word t).checkpointRequest = true)
    (hfc : (s'.word t).checkpointRequest = true → s.committed t ≠ [] ∨ p.clearingFlag = true)
    (hce : p.clearingFlag = true → s.committed t = [])
    (hres : ∀ u, s'.pc u = .raExclusiveUnlock → s'.mutatorLock.writer = some u)
    (hvalid : s'.mutatorLock.Valid) (hnodup : s'.mutatorLock.shares.Nodup)
    (hmem : ∀ u, u ∈ s'.mutatorLock.shares ↔ s'.Runnable u ∨ (s'.pc u).holdsShare = true) :
    Inv s' := by
  obtain ⟨htaken, hflag, hpcas, hqcas⟩ := Pc.sameRole_iff.mp hrole
  have hcommitted : s'.committed = s.committed := by
    refine committed_eq hslots (funext fun u => ?_)
    rw [← pendingSlot_update hqcas hpcas u, pendingSlot, hpc, hlock]
  refine ⟨hvalid, hnodup, hmem, fun u => ?_, fun u => ?_, fun u => ?_, ?_, fun u => ?_,
    fun u => ?_, fun u => ?_, fun u => ?_, hres⟩
  · rw [hpc]
    by_cases hu : u = t
    · subst hu
      rw [Function.update_self]
      exact hok
    · rw [Function.update_of_ne hu]
      exact (hi.pc_ok u).mono (by rw [hword u hu]) (by rw [hword u hu]; exact id) hlock
  · rw [hcount]
    exact hi.count_nonneg u
  · have hw : (s'.word u).suspendRequest = (s.word u).suspendRequest := by
      by_cases hu : u = t
      · subst hu
        exact hsusp
      · rw [hword u hu]
    rw [hw, hcount]
    rcases hi.suspend_flag u with h | ⟨h, r, hh⟩
    · exact .inl h
    · -- the thread between the two updates of `ModifySuspendCount` is not `t`
      refine .inr ⟨h, r, ?_⟩
      have hht : h ≠ t := by
        rintro rfl
        simp [hh, Pc.isFlag] at hflag
      rw [hpc, Function.update_of_ne hht]
      exact hh
  · intro h target function old i hh
    rw [hpc] at hh
    have hht : h ≠ t := by
      rintro rfl
      rw [Function.update_self] at hh
      simp [hh, Pc.isCas] at hpcas
    rw [Function.update_of_ne hht] at hh
    rw [hslots]
    exact hi.pending_slot h target function old i hh
  · have ht : (s'.pc u).taken = (s.pc u).taken := by
      rw [hpc]
      by_cases hu : u = t
      · subst hu
        rw [Function.update_self, htaken]
      · rw [Function.update_of_ne hu]
    rw [installedFor_eq hinst, ranFor_eq hran, hcommitted, ht]
    exact hi.checkpoints u
  · rw [hcommitted]
    by_cases hu : u = t
    · subst hu
      exact hcf
    · rw [hword u hu]
      exact hi.committed_flag u
  · rw [hcommitted]
    by_cases hu : u = t
    · subst hu
      rw [hpc, Function.update_self]
      exact hfc
    · rw [hword u hu, hpc, Function.update_of_ne hu]
      exact hi.flag_committed u
  · rw [hcommitted]
    by_cases hu : u = t
    · subst hu
      rw [hpc, Function.update_self]
      exact hce
    · rw [hpc, Function.update_of_ne hu]
      exact hi.clearing_empty u

/-- A move that leaves the word and `mutator_lock_` alone and keeps whether the thread holds a
share and clears its flag. -/
theorem Inv.setPc (hi : Inv s) (hsim : p.similar (s.pc t) = true)
    (hshare : p.holdsShare = (s.pc t).holdsShare) (hok : PcOk s t p) : Inv (s.setPc t p) := by
  obtain ⟨hrole, hclear, hresume⟩ := Pc.similar_iff.mp hsim
  refine hi.move rfl rfl rfl rfl (fun _ => rfl) (fun _ => rfl) (fun _ _ => rfl) rfl hrole
    (hok.mono rfl id rfl) (hi.committed_flag t) (by rw [hclear]; exact hi.flag_committed t)
    (by rw [hclear]; exact hi.clearing_empty t) (hi.resume_writer_of rfl hresume rfl)
    hi.lock_valid hi.shares_nodup fun u => ?_
  by_cases hu : u = t
  · subst hu
    rw [setPc_pc, Function.update_self, hshare]
    exact hi.mem_shares u
  · rw [setPc_pc, Function.update_of_ne hu]
    exact hi.mem_shares u

/-- `t` takes the free `thread_suspend_count_lock_`. -/
theorem Inv.acquireCount (hi : Inv s) (hfree : s.threadSuspendCountLock = none)
    (hcas : (s.pc t).isCas = false) : Inv { s with threadSuspendCountLock := some t } := by
  have hcommitted : ({ s with threadSuspendCountLock := some t } : Threads).committed =
      s.committed := by
    refine committed_eq (fun _ => rfl) (funext fun u => ?_)
    simp [pendingSlot, hfree, Pc.casSlot_of_isCas hcas]
  refine ⟨hi.lock_valid, hi.shares_nodup, hi.mem_shares, fun u => ?_, hi.count_nonneg,
    hi.suspend_flag, hi.pending_slot, fun u => ?_, fun u => ?_, fun u => ?_, fun u => ?_,
    hi.resume_writer⟩
  · -- no thread held the lock, so no thread is at a point that holds it
    have h := hi.pc_ok u
    exact ⟨h.runnable, h.suspended, fun hp => absurd (h.count hp) (by simp [hfree]), h.locals,
      h.before_copy, h.taken⟩
  · rw [hcommitted]; exact hi.checkpoints u
  · rw [hcommitted]; exact hi.committed_flag u
  · rw [hcommitted]; exact hi.flag_committed u
  · rw [hcommitted]; exact hi.clearing_empty u

/-- `t` releases `thread_suspend_count_lock_`, at a point that does not hold it. -/
theorem Inv.releaseCount (hi : Inv s) (hheld : s.threadSuspendCountLock = some t)
    (hnot : (s.pc t).holdsCountLock = false) : Inv { s with threadSuspendCountLock := none } := by
  have hcommitted : ({ s with threadSuspendCountLock := none } : Threads).committed =
      s.committed := by
    refine committed_eq (fun _ => rfl) (funext fun u => ?_)
    simp [pendingSlot, hheld, Pc.casSlot_of_isCas (Pc.isCas_of_holdsCountLock hnot)]
  refine ⟨hi.lock_valid, hi.shares_nodup, hi.mem_shares, fun u => ?_, hi.count_nonneg,
    hi.suspend_flag, hi.pending_slot, fun u => ?_, fun u => ?_, fun u => ?_, fun u => ?_,
    hi.resume_writer⟩
  · -- only `t` held the lock, and `t` is at a point that does not hold it
    have h := hi.pc_ok u
    refine ⟨h.runnable, h.suspended, fun hp => ?_, h.locals, h.before_copy, h.taken⟩
    have hu : u = t := Option.some.inj ((h.count hp).symm.trans hheld)
    subst hu
    simp [hnot] at hp
  · rw [hcommitted]; exact hi.checkpoints u
  · rw [hcommitted]; exact hi.committed_flag u
  · rw [hcommitted]; exact hi.flag_committed u
  · rw [hcommitted]; exact hi.clearing_empty u

/-- The invariant does not look at `thread_list_lock_` or `suspend_all_count_`. -/
theorem Inv.withListLock (hi : Inv s) (x : Option Nat) (n : Int) :
    Inv { s with threadListLock := x, suspendAllCount := n } :=
  ⟨hi.lock_valid, hi.shares_nodup, hi.mem_shares, fun u => (hi.pc_ok u).mono rfl id rfl,
    hi.count_nonneg, hi.suspend_flag, hi.pending_slot, hi.checkpoints, hi.committed_flag,
    hi.flag_committed, hi.clearing_empty, hi.resume_writer⟩

theorem pendingSlot_of_move (hpc : s'.pc = Function.update s.pc t p)
    (hlock : s'.threadSuspendCountLock = s.threadSuspendCountLock)
    (hq : (s.pc t).isCas = false) (hp : p.isCas = false) : s'.pendingSlot = s.pendingSlot := by
  funext u
  rw [← pendingSlot_update hq hp u, pendingSlot, hpc, hlock]

/-- **The step lemma.**  Thread `t` moves to `p`, and the data of thread `v` may change: its word,
suspend count and slots, and the closures installed for it and run by it.  The invariant holds
after the step if `p` takes the place of the old point for the threads other than `v`, what the
invariant says of `v` holds, and `mutator_lock_` is valid with the right shares. -/
theorem Inv.update (hi : Inv s) (v : Nat) (hpc : s'.pc = Function.update s.pc t p)
    (hlock : s'.threadSuspendCountLock = s.threadSuspendCountLock)
    (hthreads : ∀ u, u ≠ v → s'.threads u = s.threads u)
    (hinst : ∀ u, u ≠ v → s'.installedFor u = s.installedFor u)
    (hran : ∀ u, u ≠ v → s'.ranFor u = s.ranFor u)
    (htaken : t ≠ v → p.taken = (s.pc t).taken)
    (hclear : t ≠ v → p.clearingFlag = (s.pc t).clearingFlag)
    (hflag : ∀ u r, s.pc t = .mscFlag u r → u = v)
    (hcasq : ∀ u, u ≠ v → (s.pc t).casSlot u = none)
    (hcasp : ∀ u function old i, p = .rcCas u function old i → u = v)
    (hok : PcOk s' t p) (hokv : t ≠ v → PcOk s' v (s.pc v))
    (hcount : 0 ≤ (s'.threads v).suspendCount)
    (hsusp : (s'.word v).suspendRequest = decide (0 < (s'.threads v).suspendCount) ∨
      ∃ h r, s'.pc h = .mscFlag v r)
    (hpend : ∀ h function old i, s'.pc h = .rcCas v function old i →
      (s'.threads v).checkpointFunctions[i]? = some (some function))
    (hck : (s'.installedFor v).Perm (s'.ranFor v ++ s'.committed v ++ (s'.pc v).taken))
    (hcf : s'.committed v ≠ [] → (s'.word v).checkpointRequest = true)
    (hfc : (s'.word v).checkpointRequest = true →
      s'.committed v ≠ [] ∨ (s'.pc v).clearingFlag = true)
    (hce : (s'.pc v).clearingFlag = true → s'.committed v = [])
    (hres : ∀ u, s'.pc u = .raExclusiveUnlock → s'.mutatorLock.writer = some u)
    (hvalid : s'.mutatorLock.Valid) (hnodup : s'.mutatorLock.shares.Nodup)
    (hmem : ∀ u, u ∈ s'.mutatorLock.shares ↔ s'.Runnable u ∨ (s'.pc u).holdsShare = true) :
    Inv s' := by
  have hword : ∀ u, u ≠ v → s'.word u = s.word u := fun u hu => by simp [word, hthreads u hu]
  have hpco : ∀ u, u ≠ t → s'.pc u = s.pc u := fun u hu => by rw [hpc, Function.update_of_ne hu]
  have hpct : s'.pc t = p := by rw [hpc, Function.update_self]
  have hcasp' : ∀ u, u ≠ v → p.casSlot u = none := by
    intro u hu
    cases hcs : p.casSlot u with
    | none => rfl
    | some i =>
      obtain ⟨function, old, hp⟩ := Pc.casSlot_eq_some hcs
      exact absurd (hcasp u function old i hp) hu
  have hcommitted : ∀ u, u ≠ v → s'.committed u = s.committed u := by
    intro u hu
    have hpend : s'.pendingSlot u = s.pendingSlot u := by
      unfold pendingSlot
      rw [hlock]
      cases s.threadSuspendCountLock with
      | none => rfl
      | some h =>
        simp only [Option.bind_some]
        by_cases hh : h = t
        · subst hh
          rw [hpct, hcasp' u hu, hcasq u hu]
        · rw [hpco h hh]
    simp [committed, hpend, hthreads u hu]
  have hpcu : ∀ u, u ≠ v → (s'.pc u).taken = (s.pc u).taken ∧
      (s'.pc u).clearingFlag = (s.pc u).clearingFlag := by
    intro u hu
    by_cases hut : u = t
    · subst hut
      rw [hpct]
      exact ⟨htaken hu, hclear hu⟩
    · rw [hpco u hut]
      exact ⟨rfl, rfl⟩
  refine ⟨hvalid, hnodup, hmem, fun u => ?_, fun u => ?_, fun u => ?_, ?_, fun u => ?_,
    fun u => ?_, fun u => ?_, fun u => ?_, hres⟩
  · by_cases hut : u = t
    · subst hut
      rw [hpct]
      exact hok
    · rw [hpco u hut]
      by_cases huv : u = v
      · subst huv
        exact hokv (Ne.symm hut)
      · exact (hi.pc_ok u).mono (by rw [hword u huv]) (by rw [hword u huv]; exact id) hlock
  · by_cases huv : u = v
    · subst huv
      exact hcount
    · rw [hthreads u huv]
      exact hi.count_nonneg u
  · by_cases huv : u = v
    · subst huv
      exact hsusp
    · rw [hword u huv, hthreads u huv]
      rcases hi.suspend_flag u with h | ⟨h, r, hh⟩
      · exact .inl h
      · -- the thread between the two updates of `ModifySuspendCount` on `u` is not `t`
        refine .inr ⟨h, r, ?_⟩
        have hht : h ≠ t := by
          rintro rfl
          exact huv (hflag u r hh)
        rw [hpco h hht]
        exact hh
  · intro h target function old i hh
    by_cases htv : target = v
    · subst htv
      exact hpend h function old i hh
    · have hht : h ≠ t := by
        rintro rfl
        rw [hpct] at hh
        exact htv (hcasp target function old i hh)
      rw [hpco h hht] at hh
      rw [hthreads target htv]
      exact hi.pending_slot h target function old i hh
  · by_cases huv : u = v
    · subst huv
      exact hck
    · rw [hinst u huv, hran u huv, hcommitted u huv, (hpcu u huv).1]
      exact hi.checkpoints u
  · by_cases huv : u = v
    · subst huv
      exact hcf
    · rw [hcommitted u huv, hword u huv]
      exact hi.committed_flag u
  · by_cases huv : u = v
    · subst huv
      exact hfc
    · rw [hcommitted u huv, hword u huv, (hpcu u huv).2]
      exact hi.flag_committed u
  · by_cases huv : u = v
    · subst huv
      exact hce
    · rw [hcommitted u huv, (hpcu u huv).2]
      exact hi.clearing_empty u

/-- Only the holder of `thread_suspend_count_lock_` is at a point that holds it. -/
theorem Inv.eq_of_holdsCountLock (hi : Inv s) (hheld : s.threadSuspendCountLock = some t)
    {h : Nat} (hh : (s.pc h).holdsCountLock = true) : h = t :=
  Option.some.inj (((hi.pc_ok h).count hh).symm.trans hheld)

/-- The suspend flag of `v` still follows its count when neither changes, and the thread between
the two updates of `ModifySuspendCount` on `v`, if any, stays there. -/
theorem Inv.suspend_flag_of (hi : Inv s) (v : Nat)
    (hsusp : (s'.word v).suspendRequest = (s.word v).suspendRequest)
    (hcount : (s'.threads v).suspendCount = (s.threads v).suspendCount)
    (hwit : ∀ h r, s.pc h = .mscFlag v r → s'.pc h = .mscFlag v r) :
    (s'.word v).suspendRequest = decide (0 < (s'.threads v).suspendCount) ∨
      ∃ h r, s'.pc h = .mscFlag v r := by
  rw [hsusp, hcount]
  rcases hi.suspend_flag v with h | ⟨h, r, hh⟩
  · exact .inl h
  · exact .inr ⟨h, r, hwit h r hh⟩

/-- What the invariant says of the checkpoints of `v` carries over when its published closures,
its logs, its flag and what its point has taken stay. -/
theorem Inv.checkpoints_of (hi : Inv s) (v : Nat) (hcommitted : s'.committed v = s.committed v)
    (hinst : s'.installedFor v = s.installedFor v) (hran : s'.ranFor v = s.ranFor v)
    (hflag : (s'.word v).checkpointRequest = (s.word v).checkpointRequest)
    (htaken : (s'.pc v).taken = (s.pc v).taken)
    (hclear : (s'.pc v).clearingFlag = (s.pc v).clearingFlag) :
    (s'.installedFor v).Perm (s'.ranFor v ++ s'.committed v ++ (s'.pc v).taken) ∧
      (s'.committed v ≠ [] → (s'.word v).checkpointRequest = true) ∧
      ((s'.word v).checkpointRequest = true →
        s'.committed v ≠ [] ∨ (s'.pc v).clearingFlag = true) ∧
      ((s'.pc v).clearingFlag = true → s'.committed v = []) := by
  rw [hcommitted, hinst, hran, hflag, htaken, hclear]
  exact ⟨hi.checkpoints v, hi.committed_flag v, hi.flag_committed v, hi.clearing_empty v⟩

/-- The shares of `mutator_lock_` stay right when no thread's state changes, the lock keeps its
shares, and the moving thread holds a share as before. -/
theorem Inv.mem_shares_of (hi : Inv s) (hl : s'.mutatorLock.shares = s.mutatorLock.shares)
    (hstate : ∀ u, (s'.word u).state = (s.word u).state)
    (hpc : s'.pc = Function.update s.pc t p) (hshare : p.holdsShare = (s.pc t).holdsShare) :
    ∀ u, u ∈ s'.mutatorLock.shares ↔ s'.Runnable u ∨ (s'.pc u).holdsShare = true := by
  intro u
  rw [hl, runnable_iff_of_state (hstate u), hi.mem_shares u, hpc]
  by_cases hu : u = t
  · subst hu
    rw [Function.update_self, hshare]
  · rw [Function.update_of_ne hu]

end Moves

/-! ## Checkpoint slots -/

section Slots

/-- The slot `RequestCheckpoint` finds is free. -/
theorem firstFree_spec : ∀ {l : List (Option Nat)} {i : Nat}, firstFree l = some i →
    l[i]? = some none
  | [], _, h => by simp [firstFree] at h
  | none :: _, i, h => by
    simp only [firstFree, Option.some.injEq] at h
    subst h
    rfl
  | some _ :: _, i, h => by
    simp only [firstFree, Option.map_eq_some_iff] at h
    obtain ⟨j, hj, rfl⟩ := h
    simpa using firstFree_spec hj

/-- Emptying a slot that holds `a` takes `a` out of the closures of the slots. -/
theorem filterMap_perm_set_none {α : Type} :
    ∀ {l : List (Option α)} {i : Nat} {a : α}, l[i]? = some (some a) →
      (l.filterMap id).Perm (a :: (l.set i none).filterMap id)
  | [], _, _, h => by simp at h
  | x :: l, 0, a, h => by
    simp only [List.getElem?_cons_zero, Option.some.injEq] at h
    subst h
    simp
  | x :: l, i + 1, a, h => by
    simp only [List.getElem?_cons_succ] at h
    have ih := filterMap_perm_set_none h
    cases x with
    | none => simpa using ih
    | some b =>
      simp only [List.filterMap_cons, id, List.set_cons_succ]
      exact (ih.cons b).trans (List.Perm.swap a b _)

/-- Publishing `a` into the closures `C` of a thread's slots keeps the count of its checkpoints:
what was installed, with `a`, is what was run, published or taken. -/
theorem perm_publish {α : Type} {I A C C' T : List α} {a : α} (h : I.Perm (A ++ C ++ T))
    (hc : C'.Perm (a :: C)) : (I ++ [a]).Perm (A ++ C' ++ T) := by
  have hmid : (a :: (A ++ C ++ T)).Perm (A ++ (a :: C) ++ T) := by
    simp only [List.append_assoc, List.cons_append]
    exact List.perm_middle.symm
  exact ((h.append_right _).trans (List.perm_append_singleton _ _)).trans
    (hmid.trans ((hc.symm.append_left A).append_right T))

theorem set_none_of_free {α : Type} {l : List (Option α)} {i : Nat} (h : l[i]? = some none) :
    l.set i none = l := by
  obtain ⟨hi, hget⟩ := List.getElem?_eq_some_iff.mp h
  conv_rhs => rw [← List.set_getElem_self hi]
  rw [hget]

end Slots

/-! ## Steps -/

/-- What a step from a state of the invariant guarantees: the invariant after it; of a thread it
makes runnable, that its suspend flag was clear and stays so; of a thread it takes out of
`kRunnable`, that the closures installed for it are those it has run; and that the closures the
step records as run were run by the thread that steps. -/
structure StepOk (s : Threads) (e : SuspendEvent) (s' : Threads) : Prop where
  inv : Inv s'
  into_runnable : ∀ u, ¬ s.Runnable u → s'.Runnable u →
    (s.word u).suspendRequest = false ∧ (s'.word u).suspendRequest = false
  out_of_runnable : ∀ u, s.Runnable u → ¬ s'.Runnable u → (s.installedFor u).Perm (s.ranFor u)
  ran_by : ∃ l : List Nat, s'.ran = s.ran ++ l.map (Prod.mk e.thread)
  /-- Only the end of `SuspendAll` makes a thread the writer of `mutator_lock_`, and only the
  start of `ResumeAll` ends that. -/
  writer : s'.mutatorLock.writer = s.mutatorLock.writer ∨
    (s.pc e.thread = .saExclusiveLock ∧ s'.mutatorLock.writer = some e.thread ∧
      s'.pc e.thread = .idle) ∨
    (s.pc e.thread = .raExclusiveUnlock ∧ s.mutatorLock.writer = some e.thread ∧
      s'.mutatorLock.writer = none)

section Steps

variable {s s' : Threads} {t : Nat} {p : Pc} {e : SuspendEvent}

/-- A step that changes no thread's state, runs no closure and leaves the writer alone. -/
theorem StepOk.of_state (hinv : Inv s') (hstate : ∀ u, (s'.word u).state = (s.word u).state)
    (hran : s'.ran = s.ran) (hwriter : s'.mutatorLock.writer = s.mutatorLock.writer) :
    StepOk s e s' where
  inv := hinv
  into_runnable u h h' := absurd ((runnable_iff_of_state (hstate u)).mp h') h
  out_of_runnable u h h' := absurd ((runnable_iff_of_state (hstate u)).mpr h) h'
  ran_by := ⟨[], by simp [hran]⟩
  writer := .inl hwriter

/-- A move to a point like the old one, whose obligations hold. -/
theorem StepOk.setPc (hi : Inv s) (hsim : p.similar (s.pc t) = true)
    (hshare : p.holdsShare = (s.pc t).holdsShare) (hok : PcOk s t p) : StepOk s e (s.setPc t p) :=
  .of_state (hi.setPc hsim hshare hok) (fun _ => rfl) rfl rfl

/-- A move that changes nothing but the point. -/
theorem StepOk.plain (hi : Inv s) (hp : p.plainFrom (s.pc t) = true) (hloc : p.LocalsOk) :
    StepOk s e (s.setPc t p) := by
  obtain ⟨hf, hshare, hcount⟩ := Pc.plainFrom_iff.mp hp
  exact .setPc hi (Pc.follows_iff.mp hf).1 hshare
    ((hi.pc_ok t).follow hf hloc fun h => (hi.pc_ok t).count (hcount h))

theorem lockCount_eq_some (h : s.lockCount t p = some s') :
    s.threadSuspendCountLock = none ∧
      s' = ({ s with threadSuspendCountLock := some t } : Threads).setPc t p := by
  unfold lockCount at h
  obtain ⟨hfree, h⟩ := Option.ite_none_right_eq_some.mp h
  exact ⟨hfree, (Option.some.inj h).symm⟩

/-- `t` takes `thread_suspend_count_lock_` and goes on to `p`. -/
theorem StepOk.lockCount (hi : Inv s) (h : s.lockCount t p = some s')
    (hf : p.follows (s.pc t) = true) (hshare : p.holdsShare = (s.pc t).holdsShare)
    (hloc : p.LocalsOk) : StepOk s e s' := by
  obtain ⟨hfree, rfl⟩ := lockCount_eq_some h
  have hsim := (Pc.follows_iff.mp hf).1
  have hcas := (Pc.sameRole_iff.mp (Pc.similar_iff.mp hsim).1).2.2.2
  have hi' := hi.acquireCount hfree hcas
  exact .of_state (hi'.setPc hsim hshare ((hi'.pc_ok t).follow hf hloc fun _ => rfl))
    (fun _ => rfl) rfl rfl

/-- `t` goes on to `p` and releases `thread_suspend_count_lock_`. -/
theorem StepOk.unlockCount (hi : Inv s) (hheld : s.threadSuspendCountLock = some t)
    (hf : p.follows (s.pc t) = true) (hshare : p.holdsShare = (s.pc t).holdsShare)
    (hloc : p.LocalsOk) (hnot : p.holdsCountLock = false) : StepOk s e (s.unlockCount t p) := by
  have hok := (hi.pc_ok t).follow hf hloc fun h => by simp [hnot] at h
  have hi' := hi.setPc (Pc.follows_iff.mp hf).1 hshare hok
  exact .of_state (hi'.releaseCount hheld (by simp [hnot])) (fun _ => rfl) rfl rfl

/-- A move that changes `thread_list_lock_` or `suspend_all_count_`. -/
theorem StepOk.withListLock (hi : Inv s) (hp : p.plainFrom (s.pc t) = true) (hloc : p.LocalsOk)
    (x : Option Nat) (n : Int) :
    StepOk s e { s.setPc t p with threadListLock := x, suspendAllCount := n } :=
  .of_state ((StepOk.plain (e := e) hi hp hloc).inv.withListLock x n) (fun _ => rfl) rfl rfl

/-- A move that changes the writer of `mutator_lock_` but not its shares. -/
theorem Inv.setPcWriter (hi : Inv s) (hrole : p.sameRole (s.pc t) = true)
    (hclear : p.clearingFlag = (s.pc t).clearingFlag) (hshare : p.holdsShare = (s.pc t).holdsShare)
    (hok : PcOk s t p) (l : RwLock Nat) (hvalid : l.Valid)
    (hshares : l.shares = s.mutatorLock.shares)
    (hres : ∀ u, Function.update s.pc t p u = .raExclusiveUnlock → l.writer = some u) :
    Inv { s.setPc t p with mutatorLock := l } :=
  hi.move rfl rfl rfl rfl (fun _ => rfl) (fun _ => rfl) (fun _ _ => rfl) rfl
    hrole (hok.mono rfl id rfl) (hi.committed_flag t) (by rw [hclear]; exact hi.flag_committed t)
    (by rw [hclear]; exact hi.clearing_empty t) hres hvalid
    (by rw [hshares]; exact hi.shares_nodup) (hi.mem_shares_of hshares (fun _ => rfl) rfl hshare)

/-- `SuspendAll` takes `mutator_lock_` exclusively and returns. -/
theorem StepOk.exclusiveLock (hi : Inv s) (hpc : s.pc t = .saExclusiveLock) {l : RwLock Nat}
    (hl : s.mutatorLock.exclusiveLock t = some l) (he : e.thread = t) :
    StepOk s e { s.setPc t .idle with mutatorLock := l } := by
  have hvalid := RwLock.Valid.exclusiveLock hl
  obtain ⟨hfree, -, rfl⟩ := RwLock.exclusiveLock_eq_some hl
  have hres : ∀ u, Function.update s.pc t .idle u = .raExclusiveUnlock →
      ({ s.mutatorLock with writer := some t } : RwLock Nat).writer = some u := by
    intro u hu
    by_cases hut : u = t
    · subst hut
      simp at hu
    · rw [Function.update_of_ne hut] at hu
      rw [hi.resume_writer u hu] at hfree
      cases hfree
  have hinv := @Inv.setPcWriter s t Pc.idle hi (by rw [hpc]; rfl) (by rw [hpc]; rfl)
    (by rw [hpc]; rfl) (PcOk.idle _ _) _ hvalid rfl hres
  refine ⟨hinv, fun u h h' => absurd h' h, fun u h h' => absurd h h', ⟨[], by simp⟩, ?_⟩
  subst he
  exact .inr (.inl ⟨hpc, rfl, by simp⟩)

/-- `ResumeAll` releases `mutator_lock_`, which its caller holds exclusively. -/
theorem StepOk.exclusiveUnlock (hi : Inv s) (hpc : s.pc t = .raExclusiveUnlock)
    (he : e.thread = t) :
    StepOk s e { s.setPc t .raLockList with mutatorLock := s.mutatorLock.exclusiveUnlock } := by
  have hw : s.mutatorLock.writer = some t := hi.resume_writer t hpc
  have hres : ∀ u, Function.update s.pc t .raLockList u = .raExclusiveUnlock →
      s.mutatorLock.exclusiveUnlock.writer = some u := by
    intro u hu
    by_cases hut : u = t
    · subst hut
      simp at hu
    · rw [Function.update_of_ne hut] at hu
      rw [hi.resume_writer u hu] at hw
      exact absurd (Option.some.inj hw) hut
  have hinv := @Inv.setPcWriter s t Pc.raLockList hi (by rw [hpc]; rfl) (by rw [hpc]; rfl)
    (by rw [hpc]; rfl) ⟨nofun, nofun, nofun, trivial, nofun, nofun⟩ _
    RwLock.Valid.exclusiveUnlock rfl hres
  refine ⟨hinv, fun u h h' => absurd h' h, fun u h h' => absurd h h', ⟨[], by simp⟩, ?_⟩
  subst he
  exact .inr (.inr ⟨hpc, hw, rfl⟩)

/-- `SharedUnlock`: `t`, not runnable, gives back its share and goes on to `p`. -/
theorem StepOk.sharedUnlock (hi : Inv s) (hf : p.follows (s.pc t) = true)
    (hloc : p.LocalsOk) (hsusp : (s.pc t).whileSuspended = true)
    (hcount : p.holdsCountLock = true → (s.pc t).holdsCountLock = true)
    (hp : p.holdsShare = false) :
    StepOk s e { s.setPc t p with mutatorLock := s.mutatorLock.sharedUnlock t } := by
  obtain ⟨hrole, hclear, hresume⟩ := Pc.similar_iff.mp (Pc.follows_iff.mp hf).1
  have hok := (hi.pc_ok t).follow hf hloc fun h => (hi.pc_ok t).count (hcount h)
  have hnotrun := (hi.pc_ok t).suspended hsusp
  refine .of_state (hi.move rfl rfl rfl rfl (fun _ => rfl) (fun _ => rfl) (fun _ _ => rfl) rfl
    hrole (hok.mono rfl id rfl) (hi.committed_flag t) (by rw [hclear]; exact hi.flag_committed t)
    (by rw [hclear]; exact hi.clearing_empty t) (hi.resume_writer_of rfl hresume rfl)
    hi.lock_valid.sharedUnlock
    (hi.shares_nodup.erase t) fun u => ?_) (fun _ => rfl) rfl rfl
  simp only [RwLock.sharedUnlock_shares, setPc_pc]
  by_cases hu : u = t
  · subst hu
    simp only [Function.update_self, hp, hi.shares_nodup.not_mem_erase, false_iff, not_or]
    exact ⟨hnotrun, by simp⟩
  · rw [List.mem_erase_of_ne hu, Function.update_of_ne hu]
    exact hi.mem_shares u

/-- The CAS of `TransitionFromRunnableToSuspended` succeeds: `t` leaves `kRunnable` with its
checkpoint flag clear, so with every closure installed for it run. -/
theorem StepOk.r2sCas (hi : Inv s) {newState : SuspendedState} {old : StateAndFlags}
    {k : AfterSuspend} (hpc : s.pc t = .r2sCas newState old k) (hold : s.word t = old) :
    StepOk s e ((s.setWord t { old with state := newState.state }).setPc t (.r2sUnlock k)) := by
  have hok := hi.pc_ok t
  rw [hpc] at hok
  have hrun : s.Runnable t := hok.runnable rfl
  have hclear : old.checkpointRequest = false := hok.locals
  have hnone : s.committed t = [] := by
    by_contra hne
    have := hi.committed_flag t hne
    rw [hold, hclear] at this
    exact absurd this (by decide)
  have hw : ∀ u, ((s.setWord t { old with state := newState.state }).setPc t
      (.r2sUnlock k)).word u = if u = t then { old with state := newState.state } else s.word u :=
    fun u => word_setWord s t u _
  have hother : ∀ u, u ≠ t → (((s.setWord t { old with state := newState.state }).setPc t
      (.r2sUnlock k)).Runnable u ↔ s.Runnable u) :=
    fun u hu => runnable_iff_of_state (by rw [hw, if_neg hu])
  have hinv : Inv ((s.setWord t { old with state := newState.state }).setPc t (.r2sUnlock k)) := by
    refine hi.move rfl rfl rfl rfl (fun u => (threads_setWord s t u _).1)
      (fun u => (threads_setWord s t u _).2) (fun u hu => by rw [hw, if_neg hu])
      (by rw [hw, if_pos rfl, ← hold]) (by rw [hpc]; rfl)
      ⟨nofun, fun _ => ?_, nofun, trivial, nofun, nofun⟩ (fun h => absurd hnone h)
      (by rw [hw, if_pos rfl]; simp [hclear]) nofun
      (hi.resume_writer_of rfl (by rw [hpc]; rfl) rfl) hi.lock_valid hi.shares_nodup fun u => ?_
    · unfold Runnable
      rw [hw, if_pos rfl]
      exact newState.ne_runnable
    · by_cases hu : u = t
      · subst hu
        exact iff_of_true ((hi.mem_shares u).mpr (.inl hrun)) (.inr (by simp [Pc.holdsShare]))
      · rw [hother u hu, setPc_pc, Function.update_of_ne hu]
        exact hi.mem_shares u
  refine ⟨hinv, fun u h h' => ?_, fun u h h' => ?_, ⟨[], by simp⟩, .inl rfl⟩
  · by_cases hu : u = t
    · subst hu
      exact absurd hrun h
    · exact absurd ((hother u hu).mp h') h
  · by_cases hu : u = t
    · subst hu
      simpa [hnone, hpc, Pc.taken] using hi.checkpoints u
    · exact absurd ((hother u hu).mpr h) h'

/-- The CAS of `TransitionFromSuspendedToRunnable` succeeds: `t` becomes runnable, with its
suspend flag clear. -/
theorem StepOk.s2rCas (hi : Inv s) {old : StateAndFlags} (hpc : s.pc t = .s2rCas old)
    (hold : s.word t = old) :
    StepOk s e ((s.setWord t { old with state := .runnable }).setPc t .idle) := by
  have hok := hi.pc_ok t
  rw [hpc] at hok
  have hnotrun : ¬ s.Runnable t := hok.suspended rfl
  have hclear : old.suspendRequest = false := hok.locals
  have hshare : t ∈ s.mutatorLock.shares := (hi.mem_shares t).mpr (.inr (by rw [hpc]; rfl))
  have hw : ∀ u, ((s.setWord t { old with state := .runnable }).setPc t .idle).word u =
      if u = t then { old with state := .runnable } else s.word u :=
    fun u => word_setWord s t u _
  have hother : ∀ u, u ≠ t → (((s.setWord t { old with state := .runnable }).setPc t
      .idle).Runnable u ↔ s.Runnable u) :=
    fun u hu => runnable_iff_of_state (by rw [hw, if_neg hu])
  have hinv : Inv ((s.setWord t { old with state := .runnable }).setPc t .idle) := by
    refine hi.move rfl rfl rfl rfl (fun u => (threads_setWord s t u _).1)
      (fun u => (threads_setWord s t u _).2) (fun u hu => by rw [hw, if_neg hu])
      (by rw [hw, if_pos rfl, ← hold]) (by rw [hpc]; rfl) (PcOk.idle _ _)
      (fun h => by rw [hw, if_pos rfl]; rw [← hold]; exact hi.committed_flag t h)
      (fun h => .inl ?_) nofun
      (hi.resume_writer_of rfl (by rw [hpc]; rfl) rfl) hi.lock_valid hi.shares_nodup fun u => ?_
    · rw [hw, if_pos rfl] at h
      rcases hi.flag_committed t (by rw [hold]; exact h) with h | h
      · exact h
      · simp [hpc, Pc.clearingFlag] at h
    · by_cases hu : u = t
      · subst hu
        refine iff_of_true hshare (.inl ?_)
        unfold Runnable
        rw [hw, if_pos rfl]
      · rw [hother u hu, setPc_pc, Function.update_of_ne hu]
        exact hi.mem_shares u
  refine ⟨hinv, fun u h h' => ?_, fun u h h' => ?_, ⟨[], by simp⟩, .inl rfl⟩
  · by_cases hu : u = t
    · subst hu
      rw [hw, if_pos rfl, hold]
      exact ⟨hclear, hclear⟩
    · exact absurd ((hother u hu).mp h') h
  · by_cases hu : u = t
    · subst hu
      exact absurd h hnotrun
    · exact absurd ((hother u hu).mpr h) h'

/-- `RunCheckpointFunction` clears the checkpoint flag, its slots already empty. -/
theorem StepOk.rcfClearFlag (hi : Inv s) {taken : List Nat} {ret : CheckpointCaller}
    (hpc : s.pc t = .rcfClearFlag taken ret) :
    StepOk s e ((s.setWord t { s.word t with checkpointRequest := false }).setPc t
      (.rcfUnlock taken ret)) := by
  have hok := hi.pc_ok t
  rw [hpc] at hok
  have hnone : s.committed t = [] := hi.clearing_empty t (by rw [hpc]; rfl)
  have hw : ∀ u, ((s.setWord t { s.word t with checkpointRequest := false }).setPc t
      (.rcfUnlock taken ret)).word u =
        if u = t then { s.word t with checkpointRequest := false } else s.word u :=
    fun u => word_setWord s t u _
  have hstate : ∀ u, (((s.setWord t { s.word t with checkpointRequest := false }).setPc t
      (.rcfUnlock taken ret)).word u).state = (s.word u).state := by
    intro u
    rw [hw]
    split_ifs with hu
    · subst hu; rfl
    · rfl
  refine .of_state (hi.move rfl rfl rfl rfl (fun u => (threads_setWord s t u _).1)
    (fun u => (threads_setWord s t u _).2) (fun u hu => by rw [hw, if_neg hu])
    (by rw [hw, if_pos rfl]) (by rw [hpc]; simp [Pc.sameRole, Pc.taken, Pc.isFlag, Pc.isCas])
    ⟨fun _ => (runnable_iff_of_state (hstate t)).mpr (hok.runnable rfl), nofun,
      fun _ => hok.count rfl, trivial, nofun, fun _ => hok.taken rfl⟩
    (fun h => absurd hnone h) (by rw [hw, if_pos rfl]; simp) nofun
    (hi.resume_writer_of rfl (by rw [hpc]; rfl) rfl) hi.lock_valid hi.shares_nodup
    (hi.mem_shares_of rfl hstate rfl (by rw [hpc]; rfl))) hstate rfl rfl

/-- `SharedLock` in `TransitionFromSuspendedToRunnable`. -/
theorem StepOk.s2rSharedLock (hi : Inv s) (hpc : s.pc t = .s2rSharedLock) {l : RwLock Nat}
    (hl : s.mutatorLock.sharedLock t = some l) :
    StepOk s e { s.setPc t .s2rLoad2 with mutatorLock := l } := by
  have hvalid := RwLock.Valid.sharedLock hl
  obtain ⟨-, rfl⟩ := RwLock.sharedLock_eq_some hl
  have hok := hi.pc_ok t
  rw [hpc] at hok
  have hnotrun := hok.suspended rfl
  have hnot : t ∉ s.mutatorLock.shares := by
    rw [hi.mem_shares t, hpc]
    rintro (h | h)
    · exact hnotrun h
    · exact absurd h (by decide)
  refine .of_state (hi.move rfl rfl rfl rfl (fun _ => rfl) (fun _ => rfl) (fun _ _ => rfl) rfl
    (by rw [hpc]; rfl) ⟨nofun, fun _ => hnotrun, nofun, trivial, nofun, nofun⟩
    (hi.committed_flag t) (fun h => ?_) nofun
    (hi.resume_writer_of rfl (by rw [hpc]; rfl) rfl) hvalid
    (List.nodup_cons.mpr ⟨hnot, hi.shares_nodup⟩) fun u => ?_) (fun _ => rfl) rfl rfl
  · rcases hi.flag_committed t h with h | h
    · exact .inl h
    · simp [hpc, Pc.clearingFlag] at h
  · show u ∈ t :: s.mutatorLock.shares ↔ s.Runnable u ∨ (Function.update s.pc t _ u).holdsShare = true
    by_cases hu : u = t
    · subst hu
      exact iff_of_true List.mem_cons_self (.inr (by simp [Pc.holdsShare]))
    · rw [List.mem_cons, or_iff_right hu, Function.update_of_ne hu]
      exact hi.mem_shares u

/-- `RunCheckpointFunction` moves the closures out of its slots, under the lock. -/
theorem StepOk.rcfCopy (hi : Inv s) {ret : CheckpointCaller} (hpc : s.pc t = .rcfCopy ret) :
    StepOk s e ((s.setCheckpointFunctions t (List.replicate kMaxCheckpoints none)).setPc t
      (.rcfClearFlag ((s.threads t).checkpointFunctions.filterMap id) ret)) := by
  have hok := hi.pc_ok t
  rw [hpc] at hok
  have hheld : s.threadSuspendCountLock = some t := hok.count rfl
  have hcommitted : s.committed t = (s.threads t).checkpointFunctions.filterMap id := by
    simp [committed, pendingSlot, hheld, hpc, Pc.casSlot]
  have htaken : (s.threads t).checkpointFunctions.filterMap id ≠ [] := by
    rw [← hcommitted]
    rcases hi.flag_committed t (hok.before_copy rfl) with h | h
    · exact h
    · simp [hpc, Pc.clearingFlag] at h
  have hw : ∀ u, ((s.setCheckpointFunctions t (List.replicate kMaxCheckpoints none)).setPc t
      (.rcfClearFlag ((s.threads t).checkpointFunctions.filterMap id) ret)).word u = s.word u :=
    fun u => word_setCheckpointFunctions s t u _
  have hcommitted' : ((s.setCheckpointFunctions t (List.replicate kMaxCheckpoints none)).setPc t
      (.rcfClearFlag ((s.threads t).checkpointFunctions.filterMap id) ret)).committed t = [] := by
    simp [committed, pendingSlot, hheld, Pc.casSlot, setCheckpointFunctions_threads,
      kMaxCheckpoints]
  refine .of_state (hi.update t rfl rfl
    (fun u hu => by rw [setPc_threads, setCheckpointFunctions_threads, if_neg hu])
    (fun _ _ => rfl) (fun _ _ => rfl) (fun h => absurd rfl h) (fun h => absurd rfl h)
    (fun u r h => by rw [hpc] at h; cases h) (fun u _ => by rw [hpc]; rfl)
    (fun _ _ _ _ h => by cases h)
    ⟨fun _ => (runnable_iff_of_state (by rw [hw])).mpr (hok.runnable rfl), nofun,
      fun _ => hheld, trivial, nofun, fun _ => htaken⟩ (fun h => absurd rfl h)
    (by rw [setPc_threads, setCheckpointFunctions_threads, if_pos rfl]; exact hi.count_nonneg t)
    (hi.suspend_flag_of t (by rw [hw])
      (by rw [setPc_threads, setCheckpointFunctions_threads, if_pos rfl]) fun h r hh => ?_)
    (fun h function old i hh => ?_) ?_ (fun h => absurd hcommitted' h)
    (fun _ => .inr (by simp [Pc.clearingFlag])) (fun _ => hcommitted')
    (hi.resume_writer_of rfl (by rw [hpc]; rfl) rfl) hi.lock_valid
    hi.shares_nodup (hi.mem_shares_of rfl (fun u => by rw [hw]) rfl (by rw [hpc]; rfl)))
    (fun u => by rw [hw]) rfl rfl
  · have hht : h ≠ t := by rintro rfl; rw [hpc] at hh; cases hh
    simpa [Function.update_of_ne hht] using hh
  · -- no other thread is at the CAS of a `RequestCheckpoint`: `t` holds the lock
    have hht : h ≠ t := by
      rintro rfl
      simp at hh
    simp only [setPc_pc, Function.update_of_ne hht, setCheckpointFunctions_pc] at hh
    exact absurd (hi.eq_of_holdsCountLock hheld (by rw [hh]; rfl)) hht
  · show (s.installedFor t).Perm (s.ranFor t ++ _ ++ _)
    rw [hcommitted']
    simpa [hcommitted, hpc, Pc.taken] using hi.checkpoints t

/-- `RunCheckpointFunction` runs the closures it took. -/
theorem StepOk.rcfRun (hi : Inv s) {taken : List Nat} {ret : CheckpointCaller}
    (hpc : s.pc t = .rcfRun taken ret) (he : e.thread = t) :
    StepOk s e { s.setPc t ret.next with ran := s.ran ++ taken.map (t, ·) } := by
  have hok := hi.pc_ok t
  rw [hpc] at hok
  have hnext : ret.next.isCas = false ∧ ret.next.taken = [] ∧ ret.next.clearingFlag = false ∧
      ret.next.holdsShare = false ∧ ret.next.isResume = false ∧ PcOk s t ret.next := by
    cases ret with
    | checkSuspend => exact ⟨rfl, rfl, rfl, rfl, rfl, PcOk.idle _ _⟩
    | transition newState k =>
      exact ⟨rfl, rfl, rfl, rfl, rfl,
        ⟨fun _ => hok.runnable rfl, nofun, nofun, trivial, nofun, nofun⟩⟩
  obtain ⟨hcas, htaken, hclear, hshare, hresume, hoknext⟩ := hnext
  have hpend : ({ s.setPc t ret.next with ran := s.ran ++ taken.map (t, ·) } : Threads).pendingSlot
      = s.pendingSlot := pendingSlot_of_move rfl rfl (by rw [hpc]; rfl) hcas
  have hcommitted : ({ s.setPc t ret.next with ran := s.ran ++ taken.map (t, ·) } :
      Threads).committed = s.committed := committed_eq (fun _ => rfl) hpend
  have hran : ∀ u, ({ s.setPc t ret.next with ran := s.ran ++ taken.map (t, ·) } :
      Threads).ranFor u = s.ranFor u ++ if u = t then taken else [] := by
    intro u
    by_cases hu : u = t
    · subst hu
      simp [ranFor, List.filter_append, List.filter_map, Function.comp_def]
    · simp [ranFor, List.filter_append, List.filter_map, Function.comp_def, hu, Ne.symm hu]
  have hinv : Inv { s.setPc t ret.next with ran := s.ran ++ taken.map (t, ·) } := by
    refine hi.update t rfl rfl (fun _ _ => rfl) (fun _ _ => rfl)
      (fun u hu => by rw [hran, if_neg hu, List.append_nil]) (fun h => absurd rfl h)
      (fun h => absurd rfl h) (fun u r h => by rw [hpc] at h; cases h)
      (fun u _ => by rw [hpc]; rfl) (fun u function old i h => by simp [h, Pc.isCas] at hcas)
      (hoknext.mono rfl id rfl) (fun h => absurd rfl h) (hi.count_nonneg t)
      (hi.suspend_flag_of t rfl rfl fun h r hh => ?_) (fun h function old i hh => ?_) ?_
      (by rw [hcommitted]; exact hi.committed_flag t) (fun h => .inl ?_)
      (by simp [hclear])
      (hi.resume_writer_of rfl (by rw [hpc, hresume]; rfl) rfl) hi.lock_valid hi.shares_nodup
      (hi.mem_shares_of rfl (fun _ => rfl) rfl (by rw [hpc, hshare]; rfl))
    · have hht : h ≠ t := by rintro rfl; rw [hpc] at hh; cases hh
      simpa [Function.update_of_ne hht] using hh
    · have hht : h ≠ t := by
        rintro rfl
        simp only [setPc_pc, Function.update_self] at hh
        simp [hh, Pc.isCas] at hcas
      simp only [setPc_pc, Function.update_of_ne hht] at hh
      exact hi.pending_slot h t function old i hh
    · rw [hcommitted, hran, if_pos rfl]
      simp only [setPc_pc, Function.update_self, htaken, List.append_nil]
      refine (hi.checkpoints t).trans ?_
      rw [hpc, List.append_assoc, List.append_assoc]
      exact List.Perm.append_left _ List.perm_append_comm
    · rw [hcommitted]
      rcases hi.flag_committed t h with h | h
      · exact h
      · simp [hpc, Pc.clearingFlag] at h
  refine ⟨hinv, fun u h h' => absurd h' h, fun u h h' => absurd h h', ⟨taken, ?_⟩, .inl rfl⟩
  rw [he]


/-- `ModifySuspendCount` updates the count of `target`, under the lock. -/
theorem StepOk.mscCount (hi : Inv s) {target : Nat} {delta : Int} {ret : SuspendCountCaller}
    (hpc : s.pc t = .mscCount target delta ret)
    (hno : ¬ (delta < 0 ∧ (s.threads target).suspendCount ≤ 0)) :
    StepOk s e ((s.setSuspendCount target ((s.threads target).suspendCount + delta)).setPc t
      (.mscFlag target ret)) := by
  have hok := hi.pc_ok t
  rw [hpc] at hok
  have hheld : s.threadSuspendCountLock = some t := hok.count rfl
  have hdelta : -1 ≤ delta := hok.locals
  set s' := (s.setSuspendCount target ((s.threads target).suspendCount + delta)).setPc t
    (.mscFlag target ret) with hs'
  have hw : ∀ u, s'.word u = s.word u := fun u => word_setSuspendCount s target u _
  have hpco : ∀ u, u ≠ t → s'.pc u = s.pc u := fun u hu => by simp [s', Function.update_of_ne hu]
  have hpcv := taken_clearingFlag_of_move (v := target) hpco
    (by simp [s', hpc, Pc.taken, Pc.clearingFlag])
  have hslots : ∀ u, (s'.threads u).checkpointFunctions = (s.threads u).checkpointFunctions := by
    intro u
    rw [hs', setPc_threads, setSuspendCount_threads]
    split_ifs with h
    · subst h; rfl
    · rfl
  have hcommitted : s'.committed target = s.committed target := by
    rw [committed_eq hslots (@pendingSlot_of_move s s' t (.mscFlag target ret) rfl rfl
      (by rw [hpc]; rfl) rfl)]
  obtain ⟨hck, hcf, hfc, hce⟩ := @Inv.checkpoints_of s s' hi target hcommitted rfl rfl
    (by rw [hw]) hpcv.1 hpcv.2
  refine .of_state (hi.update target rfl rfl
    (fun u hu => by rw [setPc_threads, setSuspendCount_threads, if_neg hu]) (fun _ _ => rfl)
    (fun _ _ => rfl) (fun _ => by rw [hpc]; rfl) (fun _ => by rw [hpc]; rfl)
    (fun u r h => by rw [hpc] at h; cases h) (fun u _ => by rw [hpc]; rfl)
    (fun _ _ _ _ h => by cases h) ⟨nofun, nofun, fun _ => hheld, trivial, nofun, nofun⟩
    (fun ht => (hi.pc_ok target).mono (by rw [hw]) (by rw [hw]; exact id) rfl) ?_
    (.inr ⟨t, ret, by simp [s']⟩) (fun h function old i hh => ?_) hck hcf hfc hce
    (hi.resume_writer_of rfl (by rw [hpc]; rfl) rfl) hi.lock_valid
    hi.shares_nodup (hi.mem_shares_of rfl (fun u => by rw [hw]) rfl (by rw [hpc]; rfl)))
    (fun u => by rw [hw]) rfl rfl
  · -- `delta` is at least `-1`, and only taken from a positive count
    have := hi.count_nonneg target
    show 0 ≤ (s'.threads target).suspendCount
    rw [hs', setPc_threads, setSuspendCount_threads, if_pos rfl]
    show 0 ≤ (s.threads target).suspendCount + delta
    omega
  · have hht : h ≠ t := by
      rintro rfl
      simp [s'] at hh
    rw [hpco h hht] at hh
    rw [hs', setPc_threads, setSuspendCount_threads]
    split_ifs
    · exact hi.pending_slot h target function old i hh
    · exact hi.pending_slot h target function old i hh

/-- `ModifySuspendCount` sets the suspend flag of `target` from its count, under the lock. -/
theorem StepOk.mscFlag (hi : Inv s) {target : Nat} {ret : SuspendCountCaller}
    (hpc : s.pc t = .mscFlag target ret) :
    StepOk s e ((s.setWord target
      { s.word target with suspendRequest := (s.threads target).suspendCount ≠ 0 }).setPc t
      ret.next) := by
  have hok := hi.pc_ok t
  rw [hpc] at hok
  have hheld : s.threadSuspendCountLock = some t := hok.count rfl
  have hnext : ret.next.isCas = false ∧ ret.next.taken = [] ∧ ret.next.clearingFlag = false ∧
      ret.next.holdsShare = false ∧ ret.next.isResume = false ∧ PcOk s t ret.next := by
    cases ret with
    | caller => exact ⟨rfl, rfl, rfl, rfl, rfl, PcOk.idle _ _⟩
    | suspendAll rest =>
      exact ⟨rfl, rfl, rfl, rfl, rfl, ⟨nofun, nofun, fun _ => hheld, trivial, nofun, nofun⟩⟩
    | resumeAll rest =>
      exact ⟨rfl, rfl, rfl, rfl, rfl, ⟨nofun, nofun, fun _ => hheld, trivial, nofun, nofun⟩⟩
  obtain ⟨hcas, htaken, hclear, hshare, hresume, hoknext⟩ := hnext
  set s' := (s.setWord target
    { s.word target with suspendRequest := (s.threads target).suspendCount ≠ 0 }).setPc t
    ret.next with hs'
  have hw : ∀ u, s'.word u = if u = target then
      { s.word target with suspendRequest := (s.threads target).suspendCount ≠ 0 } else s.word u :=
    fun u => word_setWord s target u _
  have hstate : ∀ u, (s'.word u).state = (s.word u).state ∧
      (s'.word u).checkpointRequest = (s.word u).checkpointRequest := by
    intro u
    rw [hw]
    split_ifs with h
    · subst h; exact ⟨rfl, rfl⟩
    · exact ⟨rfl, rfl⟩
  have hthr : ∀ u, (s'.threads u).suspendCount = (s.threads u).suspendCount ∧
      (s'.threads u).checkpointFunctions = (s.threads u).checkpointFunctions :=
    fun u => threads_setWord s target u _
  have hpco : ∀ u, u ≠ t → s'.pc u = s.pc u := fun u hu => by simp [s', Function.update_of_ne hu]
  have hpct : s'.pc t = ret.next := by simp [s']
  have hpcv := taken_clearingFlag_of_move (v := target) hpco
    (by rw [hpct, hpc, htaken, hclear]; exact ⟨rfl, rfl⟩)
  have hcommitted : s'.committed target = s.committed target := by
    rw [committed_eq (fun u => (hthr u).2) (@pendingSlot_of_move s s' t ret.next rfl rfl
      (by rw [hpc]; rfl) hcas)]
  obtain ⟨hck, hcf, hfc, hce⟩ := @Inv.checkpoints_of s s' hi target hcommitted rfl rfl
    (hstate target).2 hpcv.1 hpcv.2
  refine .of_state (hi.update target rfl rfl (fun u hu => threads_setWord_of_ne s target u _ hu)
    (fun _ _ => rfl) (fun _ _ => rfl) (fun _ => by rw [htaken, hpc]; rfl)
    (fun _ => by rw [hclear, hpc]; rfl) (fun u r h => by rw [hpc] at h; cases h; rfl)
    (fun u _ => by rw [hpc]; rfl) (fun u function old i h => by simp [h, Pc.isCas] at hcas)
    (hoknext.mono (hstate t).1 (by rw [(hstate t).2]; exact id) rfl)
    (fun _ => (hi.pc_ok target).mono (hstate target).1 (by rw [(hstate target).2]; exact id) rfl)
    (by rw [(hthr target).1]; exact hi.count_nonneg target) (.inl ?_)
    (fun h function old i hh => ?_) hck hcf hfc hce
    (hi.resume_writer_of rfl (by rw [hpc, hresume]; rfl) rfl) hi.lock_valid hi.shares_nodup
    (hi.mem_shares_of rfl (fun u => (hstate u).1) rfl (by rw [hpc, hshare]; rfl)))
    (fun u => (hstate u).1) rfl rfl
  · -- the flag now follows the count, which is never negative
    rw [hw, if_pos rfl, (hthr target).1]
    have := hi.count_nonneg target
    simp only [decide_eq_decide]
    omega
  · have hht : h ≠ t := by
      rintro rfl
      simp only [s', setPc_pc, Function.update_self] at hh
      simp [hh, Pc.isCas] at hcas
    rw [hpco h hht] at hh
    rw [(hthr target).2]
    exact hi.pending_slot h target function old i hh

/-- `RequestCheckpoint` fills the first free slot of `target`, under the lock. -/
theorem StepOk.rcInstall (hi : Inv s) {target function i : Nat} {old : StateAndFlags}
    (hpc : s.pc t = .rcInstall target function old)
    (hfree : firstFree (s.threads target).checkpointFunctions = some i) :
    StepOk s e ((s.setCheckpointFunctions target
      ((s.threads target).checkpointFunctions.set i (some function))).setPc t
      (.rcCas target function old i)) := by
  have hok := hi.pc_ok t
  rw [hpc] at hok
  have hheld : s.threadSuspendCountLock = some t := hok.count rfl
  have hslot := firstFree_spec hfree
  have hlen : i < (s.threads target).checkpointFunctions.length :=
    (List.getElem?_eq_some_iff.mp hslot).1
  set s' := (s.setCheckpointFunctions target
    ((s.threads target).checkpointFunctions.set i (some function))).setPc t
    (.rcCas target function old i) with hs'
  have hw : ∀ u, s'.word u = s.word u := fun u => word_setCheckpointFunctions s target u _
  have hpco : ∀ u, u ≠ t → s'.pc u = s.pc u := fun u hu => by simp [s', Function.update_of_ne hu]
  have hpct : s'.pc t = .rcCas target function old i := by simp [s']
  have hthr : ∀ u, u ≠ target → s'.threads u = s.threads u := fun u hu => by
    rw [hs', setPc_threads, setCheckpointFunctions_threads, if_neg hu]
  have htarget : s'.threads target =
      { s.threads target with
        checkpointFunctions := (s.threads target).checkpointFunctions.set i (some function) } := by
    rw [hs', setPc_threads, setCheckpointFunctions_threads, if_pos rfl]
  have hcommitted : s'.committed target = s.committed target := by
    have hp' : s'.pendingSlot target = some i := by
      simp [pendingSlot, s', hheld, Pc.casSlot]
    have hp : s.pendingSlot target = none := by simp [pendingSlot, hheld, hpc, Pc.casSlot]
    simp only [committed, hp', hp, htarget, List.set_set, set_none_of_free hslot]
  have hpcv := taken_clearingFlag_of_move (v := target) hpco
    (by simp [hpct, hpc, Pc.taken, Pc.clearingFlag])
  obtain ⟨hck, hcf, hfc, hce⟩ := @Inv.checkpoints_of s s' hi target hcommitted rfl rfl
    (by rw [hw]) hpcv.1 hpcv.2
  refine .of_state (hi.update target rfl rfl hthr (fun _ _ => rfl) (fun _ _ => rfl)
    (fun _ => by rw [hpc]; rfl) (fun _ => by rw [hpc]; rfl)
    (fun u r h => by rw [hpc] at h; cases h) (fun u _ => by rw [hpc]; rfl)
    (fun u f o j h => by cases h; rfl) ⟨nofun, nofun, fun _ => hheld, trivial, nofun, nofun⟩
    (fun _ => (hi.pc_ok target).mono (by rw [hw]) (by rw [hw]; exact id) rfl)
    (by rw [htarget]; exact hi.count_nonneg target)
    (hi.suspend_flag_of target (by rw [hw]) (by rw [htarget]) fun h r hh => ?_)
    (fun h f o j hh => ?_) hck hcf hfc hce
    (hi.resume_writer_of rfl (by rw [hpc]; rfl) rfl) hi.lock_valid hi.shares_nodup
    (hi.mem_shares_of rfl (fun u => by rw [hw]) rfl (by rw [hpc]; rfl))) (fun u => by rw [hw]) rfl rfl
  · have hht : h ≠ t := by rintro rfl; rw [hpc] at hh; cases hh
    rw [hpco h hht]
    exact hh
  · -- only `t` is at the CAS, with the slot it filled
    by_cases hht : h = t
    · subst hht
      rw [hpct] at hh
      cases hh
      rw [htarget]
      exact List.getElem?_set_self hlen
    · rw [hpco h hht] at hh
      exact absurd (hi.eq_of_holdsCountLock hheld (by rw [hh]; rfl)) hht

/-- The CAS of `RequestCheckpoint` succeeds: the closure is published, and the flag set. -/
theorem StepOk.rcCasOk (hi : Inv s) {target function i : Nat} {old : StateAndFlags}
    (hpc : s.pc t = .rcCas target function old i) (hold : s.word target = old) :
    StepOk s e { (s.setWord target { old with checkpointRequest := true }).setPc t .idle with
      installed := s.installed ++ [(target, function)] } := by
  have hok := hi.pc_ok t
  rw [hpc] at hok
  have hheld : s.threadSuspendCountLock = some t := hok.count rfl
  have hslot := hi.pending_slot t target function old i hpc
  set s' := { (s.setWord target { old with checkpointRequest := true }).setPc t .idle with
    installed := s.installed ++ [(target, function)] } with hs'
  have hw : ∀ u, s'.word u = if u = target then { old with checkpointRequest := true }
      else s.word u := fun u => word_setWord s target u _
  have hstate : ∀ u, (s'.word u).state = (s.word u).state := by
    intro u
    rw [hw]
    split_ifs with h
    · subst h; rw [hold]
    · rfl
  have hthr : ∀ u, (s'.threads u).suspendCount = (s.threads u).suspendCount ∧
      (s'.threads u).checkpointFunctions = (s.threads u).checkpointFunctions :=
    fun u => threads_setWord s target u _
  have hpco : ∀ u, u ≠ t → s'.pc u = s.pc u := fun u hu => by simp [s', Function.update_of_ne hu]
  have hpct : s'.pc t = .idle := by simp [s']
  have hlockers : ∀ h, (s.pc h).holdsCountLock = true → h = t :=
    fun h hh => hi.eq_of_holdsCountLock hheld hh
  have hcommitted : (s'.committed target).Perm (function :: s.committed target) := by
    have hp : s.pendingSlot target = some i := by simp [pendingSlot, hheld, hpc, Pc.casSlot]
    have hp' : s'.pendingSlot target = none := by simp [pendingSlot, s', hheld, Pc.casSlot]
    simp only [committed, hp, hp', (hthr target).2]
    exact filterMap_perm_set_none hslot
  have hne : s'.committed target ≠ [] := fun h => by
    have := hcommitted.length_eq
    rw [h] at this
    simp at this
  have hinst : ∀ u, s'.installedFor u = s.installedFor u ++ if u = target then [function]
      else [] := by
    intro u
    by_cases hu : u = target
    · subst hu
      simp [installedFor, s', List.filter_append]
    · simp [installedFor, s', List.filter_append, hu, Ne.symm hu]
  have hpcv : (s'.pc target).taken = (s.pc target).taken ∧
      (s'.pc target).clearingFlag = false := by
    by_cases ht : target = t
    · subst ht
      simp [hpct, hpc, Pc.taken, Pc.clearingFlag]
    · rw [hpco target ht]
      refine ⟨rfl, ?_⟩
      cases hc : (s.pc target).clearingFlag
      · rfl
      · -- at `rcfClearFlag` the target would hold the lock that `t` holds
        exact absurd (hlockers target (Pc.holdsCountLock_of_clearingFlag hc)) ht
  refine .of_state (hi.update target rfl rfl (fun u hu => threads_setWord_of_ne s target u _ hu)
    (fun u hu => by rw [hinst, if_neg hu, List.append_nil]) (fun _ _ => rfl)
    (fun _ => by rw [hpc]; rfl) (fun _ => by rw [hpc]; rfl)
    (fun u r h => by rw [hpc] at h; cases h)
    (fun u hu => by rw [hpc]; simp [Pc.casSlot, Ne.symm hu]) (fun _ _ _ _ h => by cases h)
    (PcOk.idle _ _) (fun _ => (hi.pc_ok target).mono (hstate target)
      (fun _ => by rw [hw, if_pos rfl]) rfl)
    (by rw [(hthr target).1]; exact hi.count_nonneg target) ?_ (fun h f o j hh => ?_) ?_
    (fun _ => by rw [hw, if_pos rfl]) (fun _ => .inl hne)
    (fun h => by rw [hpcv.2] at h; cases h)
    (hi.resume_writer_of rfl (by rw [hpc]; rfl) rfl) hi.lock_valid hi.shares_nodup
    (hi.mem_shares_of rfl hstate rfl (by rw [hpc]; rfl))) hstate rfl rfl
  · rcases hi.suspend_flag target with h | ⟨h, r, hh⟩
    · left
      rw [hw, if_pos rfl, (hthr target).1, ← h, hold]
    · -- the thread between the two updates of `ModifySuspendCount` would hold the lock
      have := hlockers h (by rw [hh]; rfl)
      subst this
      rw [hpc] at hh
      cases hh
  · -- no thread is at a `RequestCheckpoint` CAS any more
    have hht : h ≠ t := by
      rintro rfl
      rw [hpct] at hh
      cases hh
    rw [hpco h hht] at hh
    exact absurd (hlockers h (by rw [hh]; rfl)) hht
  · rw [hinst, if_pos rfl, hpcv.1]
    exact perm_publish (hi.checkpoints target) hcommitted

/-- The CAS of `RequestCheckpoint` fails: the closure is taken out of its slot again. -/
theorem StepOk.rcCasFail (hi : Inv s) {target function i : Nat} {old : StateAndFlags}
    (hpc : s.pc t = .rcCas target function old i) :
    StepOk s e ((s.setCheckpointFunctions target
      ((s.threads target).checkpointFunctions.set i none)).setPc t .idle) := by
  have hok := hi.pc_ok t
  rw [hpc] at hok
  have hheld : s.threadSuspendCountLock = some t := hok.count rfl
  set s' := (s.setCheckpointFunctions target
    ((s.threads target).checkpointFunctions.set i none)).setPc t .idle with hs'
  have hw : ∀ u, s'.word u = s.word u := fun u => word_setCheckpointFunctions s target u _
  have hpco : ∀ u, u ≠ t → s'.pc u = s.pc u := fun u hu => by simp [s', Function.update_of_ne hu]
  have hpct : s'.pc t = .idle := by simp [s']
  have hlockers : ∀ h, (s.pc h).holdsCountLock = true → h = t :=
    fun h hh => hi.eq_of_holdsCountLock hheld hh
  have hthr : ∀ u, u ≠ target → s'.threads u = s.threads u := fun u hu => by
    rw [hs', setPc_threads, setCheckpointFunctions_threads, if_neg hu]
  have htarget : s'.threads target =
      { s.threads target with
        checkpointFunctions := (s.threads target).checkpointFunctions.set i none } := by
    rw [hs', setPc_threads, setCheckpointFunctions_threads, if_pos rfl]
  have hcommitted : s'.committed target = s.committed target := by
    have hp : s.pendingSlot target = some i := by simp [pendingSlot, hheld, hpc, Pc.casSlot]
    have hp' : s'.pendingSlot target = none := by simp [pendingSlot, s', hheld, Pc.casSlot]
    simp only [committed, hp, hp', htarget]
  have hpcv := taken_clearingFlag_of_move (v := target) hpco
    (by simp [hpct, hpc, Pc.taken, Pc.clearingFlag])
  obtain ⟨hck, hcf, hfc, hce⟩ := @Inv.checkpoints_of s s' hi target hcommitted rfl rfl
    (by rw [hw]) hpcv.1 hpcv.2
  refine .of_state (hi.update target rfl rfl hthr (fun _ _ => rfl) (fun _ _ => rfl)
    (fun _ => by rw [hpc]; rfl) (fun _ => by rw [hpc]; rfl)
    (fun u r h => by rw [hpc] at h; cases h)
    (fun u hu => by rw [hpc]; simp [Pc.casSlot, Ne.symm hu]) (fun _ _ _ _ h => by cases h)
    (PcOk.idle _ _) (fun _ => (hi.pc_ok target).mono (by rw [hw]) (by rw [hw]; exact id) rfl)
    (by rw [htarget]; exact hi.count_nonneg target)
    (hi.suspend_flag_of target (by rw [hw]) (by rw [htarget]) fun h r hh => ?_)
    (fun h f o j hh => ?_) hck hcf hfc hce
    (hi.resume_writer_of rfl (by rw [hpc]; rfl) rfl) hi.lock_valid hi.shares_nodup
    (hi.mem_shares_of rfl (fun u => by rw [hw]) rfl (by rw [hpc]; rfl))) (fun u => by rw [hw]) rfl rfl
  · have := hlockers h (by rw [hh]; rfl)
    subst this
    rw [hpc] at hh
    cases hh
  · have hht : h ≠ t := by
      rintro rfl
      rw [hpct] at hh
      cases hh
    rw [hpco h hht] at hh
    exact absurd (hlockers h (by rw [hh]; rfl)) hht

/-- `ResumeAll` is called by the thread that holds `mutator_lock_` exclusively. -/
theorem StepOk.resumeAll (hi : Inv s) (hpc : s.pc t = .idle) (hw : s.mutatorLock.writer = some t) :
    StepOk s e (s.setPc t .raExclusiveUnlock) := by
  have hres : ∀ u, Function.update s.pc t .raExclusiveUnlock u = .raExclusiveUnlock →
      s.mutatorLock.writer = some u := by
    intro u hu
    by_cases hut : u = t
    · subst hut
      exact hw
    · rw [Function.update_of_ne hut] at hu
      exact hi.resume_writer u hu
  exact .of_state (@Inv.setPcWriter s t .raExclusiveUnlock hi (by rw [hpc]; rfl) (by rw [hpc]; rfl)
    (by rw [hpc]; rfl) ⟨nofun, nofun, nofun, trivial, nofun, nofun⟩ _ hi.lock_valid rfl hres)
    (fun _ => rfl) rfl rfl

/-- **Calls.**  Every call a thread can make from a state of the invariant is a good step. -/
theorem StepOk.of_call (hi : Inv s) {c : Call} (h : call t c s = some s') :
    StepOk s (.call t c) s' := by
  unfold call at h
  split_ifs at h with hidle
  have hpc : s.pc t = .idle := not_not.mp hidle
  cases c with
  | transitionFromRunnableToSuspended newState =>
    simp only at h
    split_ifs at h with hc
    cases h
    exact .setPc hi (by rw [hpc]; rfl) (by rw [hpc]; rfl)
      ⟨fun _ => hc.1, nofun, nofun, trivial, nofun, nofun⟩
  | transitionFromSuspendedToRunnable =>
    simp only at h
    split_ifs at h with hc
    cases h
    exact .setPc hi (by rw [hpc]; rfl) (by rw [hpc]; rfl)
      ⟨nofun, fun _ => hc.1, nofun, trivial, nofun, nofun⟩
  | fullSuspendCheck =>
    simp only at h
    split_ifs at h with hc
    cases h
    exact .setPc hi (by rw [hpc]; rfl) (by rw [hpc]; rfl)
      ⟨fun _ => hc.1, nofun, nofun, trivial, nofun, nofun⟩
  | checkSuspend =>
    simp only at h
    split_ifs at h with hc
    cases h
    exact .setPc hi (by rw [hpc]; rfl) (by rw [hpc]; rfl)
      ⟨fun _ => hc.1, nofun, nofun, trivial, nofun, nofun⟩
  | lockThreadSuspendCountLock =>
    exact .lockCount hi h (by rw [hpc]; rfl) (by rw [hpc]) trivial
  | unlockThreadSuspendCountLock =>
    simp only at h
    split_ifs at h with hc
    cases h
    exact .unlockCount hi hc (by rw [hpc]; rfl) (by rw [hpc]) trivial rfl
  | modifySuspendCount target delta =>
    simp only at h
    split_ifs at h with hc
    cases h
    have hdelta : -1 ≤ delta := by omega
    exact .setPc hi (by rw [hpc]; rfl) (by rw [hpc]; rfl)
      ⟨nofun, nofun, fun _ => hc.1, hdelta, nofun, nofun⟩
  | requestCheckpoint target function =>
    simp only at h
    split_ifs at h with hc
    cases h
    exact .setPc hi (by rw [hpc]; rfl) (by rw [hpc]; rfl)
      ⟨nofun, nofun, fun _ => hc, trivial, nofun, nofun⟩
  | suspendAll =>
    simp only at h
    split_ifs at h with hc
    cases h
    exact .plain hi (by rw [hpc]; rfl) trivial
  | resumeAll =>
    simp only at h
    split_ifs at h with hc
    cases h
    exact .resumeAll hi hpc hc.1

theorem lockList_eq_some (h : s.lockList t p = some s') :
    s.threadListLock = none ∧ s' = { s.setPc t p with threadListLock := some t } := by
  unfold lockList at h
  obtain ⟨hfree, h⟩ := Option.ite_none_right_eq_some.mp h
  exact ⟨hfree, (Option.some.inj h).symm⟩

/-- The thread at a point that holds `thread_suspend_count_lock_` holds it. -/
theorem Inv.count_of (hi : Inv s) {q : Pc} (hpc : s.pc t = q) (hq : q.holdsCountLock = true) :
    s.threadSuspendCountLock = some t :=
  (hi.pc_ok t).count (hpc ▸ hq)

/-- **Steps.**  Every step a thread can take in its call, from a state of the invariant, is a
good step. -/
theorem StepOk.of_advance (hi : Inv s) {list : List Nat} {spurious : Bool}
    (h : advance list t spurious s = some s') : StepOk s (.step t spurious) s' := by
  unfold advance at h
  have hok := hi.pc_ok t
  cases hpc : s.pc t with
  | idle => simp only [hpc] at h; cases h
  | aborted reason => simp only [hpc] at h; cases h
  | checkSuspend =>
    simp only [hpc] at h
    rw [hpc] at hok
    split_ifs at h with hflag <;> cases h
    · exact .setPc hi (by rw [hpc]; rfl) (by rw [hpc]; rfl)
        ⟨fun _ => hok.runnable rfl, nofun, nofun, trivial, fun _ => hflag, nofun⟩
    · exact .plain hi (by rw [hpc]; rfl) trivial
  | checkSuspendRequest =>
    simp only [hpc] at h
    split_ifs at h <;> cases h
    · exact .plain hi (by rw [hpc]; rfl) trivial
    · exact .plain hi (by rw [hpc]; rfl) trivial
  | r2sLoad newState k =>
    simp only [hpc] at h
    rw [hpc] at hok
    split_ifs at h with hflag <;> cases h
    · exact .setPc hi (by rw [hpc]; rfl) (by rw [hpc]; rfl)
        ⟨fun _ => hok.runnable rfl, nofun, nofun, trivial, fun _ => hflag, nofun⟩
    · exact .plain hi (by rw [hpc]; rfl) (Bool.eq_false_iff.mpr hflag)
  | r2sCas newState old k =>
    simp only [hpc] at h
    split_ifs at h with hcas <;> cases h
    · exact .r2sCas hi hpc hcas.1
    · exact .plain hi (by rw [hpc]; rfl) trivial
  | r2sUnlock k =>
    simp only [hpc] at h
    cases h
    cases k <;> exact .sharedUnlock hi (by rw [hpc]; rfl) trivial (by rw [hpc]; rfl) nofun rfl
  | rcfLock ret =>
    simp only [hpc] at h
    exact .lockCount hi h (by rw [hpc]; rfl) (by rw [hpc]; rfl) trivial
  | rcfCopy ret =>
    simp only [hpc] at h
    cases h
    exact .rcfCopy hi hpc
  | rcfClearFlag taken ret =>
    simp only [hpc] at h
    cases h
    exact .rcfClearFlag hi hpc
  | rcfUnlock taken ret =>
    simp only [hpc] at h
    cases h
    exact .unlockCount hi (hi.count_of hpc rfl)
      (by rw [hpc]; simp only [Pc.follows, Pc.similar, Pc.sameRole, Pc.taken, beq_self_eq_true]; rfl)
      (by rw [hpc]; rfl) trivial rfl
  | rcfRun taken ret =>
    simp only [hpc] at h
    rw [hpc] at hok
    split_ifs at h with hempty <;> cases h
    · exact absurd hempty (hok.taken rfl)
    · exact .rcfRun hi hpc rfl
  | s2rLoad =>
    simp only [hpc] at h
    split_ifs at h <;> cases h
    · exact .plain hi (by rw [hpc]; rfl) trivial
    · exact .plain hi (by rw [hpc]; rfl) trivial
  | s2rLockCount =>
    simp only [hpc] at h
    exact .lockCount hi h (by rw [hpc]; rfl) (by rw [hpc]; rfl) trivial
  | s2rRecheck =>
    simp only [hpc] at h
    split_ifs at h <;> cases h
    · exact .plain hi (by rw [hpc]; rfl) trivial
    · exact .plain hi (by rw [hpc]; rfl) trivial
  | s2rWait =>
    simp only [hpc] at h
    cases h
    exact .unlockCount hi (hi.count_of hpc rfl) (by rw [hpc]; rfl) (by rw [hpc]; rfl) trivial rfl
  | s2rWaiting =>
    simp only [hpc] at h
    exact .lockCount hi h (by rw [hpc]; rfl) (by rw [hpc]; rfl) trivial
  | s2rUnlockCount =>
    simp only [hpc] at h
    cases h
    exact .unlockCount hi (hi.count_of hpc rfl) (by rw [hpc]; rfl) (by rw [hpc]; rfl) trivial rfl
  | s2rSharedLock =>
    simp only [hpc] at h
    obtain ⟨l, hl, rfl⟩ := Option.map_eq_some_iff.mp h
    exact .s2rSharedLock hi hpc hl
  | s2rLoad2 =>
    simp only [hpc] at h
    split_ifs at h with hsusp <;> cases h
    · exact .plain hi (by rw [hpc]; rfl) hsusp
    · exact .plain hi (by rw [hpc]; rfl) trivial
  | s2rCas old =>
    simp only [hpc] at h
    split_ifs at h with hcas <;> cases h
    · exact .s2rCas hi hpc hcas.1
    · exact .plain hi (by rw [hpc]; rfl) trivial
  | s2rSharedUnlock =>
    simp only [hpc] at h
    cases h
    exact .sharedUnlock hi (by rw [hpc]; rfl) trivial (by rw [hpc]; rfl) nofun rfl
  | mscCount target delta ret =>
    simp only [hpc] at h
    split_ifs at h with hneg <;> cases h
    · exact .plain hi (by rw [hpc]; rfl) trivial
    · exact .mscCount hi hpc hneg
  | mscFlag target ret =>
    simp only [hpc] at h
    cases h
    exact .mscFlag hi hpc
  | rcLoad target function =>
    simp only [hpc] at h
    split_ifs at h <;> cases h
    · exact .plain hi (by rw [hpc]; rfl) trivial
    · exact .plain hi (by rw [hpc]; rfl) trivial
  | rcInstall target function old =>
    simp only [hpc] at h
    cases hfree : firstFree (s.threads target).checkpointFunctions with
    | none =>
      rw [hfree] at h
      cases h
      exact .plain hi (by rw [hpc]; rfl) trivial
    | some i =>
      rw [hfree] at h
      cases h
      exact .rcInstall hi hpc hfree
  | rcCas target function old i =>
    simp only [hpc] at h
    split_ifs at h with hold <;> cases h
    · exact .rcCasOk hi hpc hold
    · exact .rcCasFail hi hpc
  | saLockList =>
    simp only [hpc] at h
    obtain ⟨-, rfl⟩ := lockList_eq_some h
    exact .withListLock hi (by rw [hpc]; rfl) (by trivial) (some t) s.suspendAllCount
  | saLockCount =>
    simp only [hpc] at h
    exact .lockCount hi h (by rw [hpc]; rfl) (by rw [hpc]; rfl) trivial
  | saIncrement =>
    simp only [hpc] at h
    cases h
    exact .withListLock hi (by rw [hpc]; rfl) (by trivial) s.threadListLock (s.suspendAllCount + 1)
  | saLoop rest =>
    cases rest with
    | nil =>
      simp only [hpc] at h
      cases h
      exact .plain hi (by rw [hpc]; rfl) trivial
    | cons u rest =>
      simp only [hpc] at h
      split_ifs at h <;> cases h
      · exact .plain hi (by rw [hpc]; rfl) trivial
      · exact .plain hi (by rw [hpc]; rfl) (show (-1 : Int) ≤ 1 by decide)
  | saUnlockCount =>
    simp only [hpc] at h
    cases h
    exact .unlockCount hi (hi.count_of hpc rfl) (by rw [hpc]; rfl) (by rw [hpc]; rfl) trivial rfl
  | saUnlockList =>
    simp only [hpc] at h
    cases h
    exact .withListLock hi (by rw [hpc]; rfl) (by trivial) none s.suspendAllCount
  | saExclusiveLock =>
    simp only [hpc] at h
    obtain ⟨l, hl, rfl⟩ := Option.map_eq_some_iff.mp h
    exact .exclusiveLock hi hpc hl rfl
  | raExclusiveUnlock =>
    simp only [hpc] at h
    cases h
    exact .exclusiveUnlock hi hpc rfl
  | raLockList =>
    simp only [hpc] at h
    obtain ⟨-, rfl⟩ := lockList_eq_some h
    exact .withListLock hi (by rw [hpc]; rfl) (by trivial) (some t) s.suspendAllCount
  | raLockCount =>
    simp only [hpc] at h
    exact .lockCount hi h (by rw [hpc]; rfl) (by rw [hpc]; rfl) trivial
  | raDecrement =>
    simp only [hpc] at h
    cases h
    exact .withListLock hi (by rw [hpc]; rfl) (by trivial) s.threadListLock (s.suspendAllCount - 1)
  | raLoop rest =>
    cases rest with
    | nil =>
      simp only [hpc] at h
      cases h
      exact .plain hi (by rw [hpc]; rfl) trivial
    | cons u rest =>
      simp only [hpc] at h
      split_ifs at h <;> cases h
      · exact .plain hi (by rw [hpc]; rfl) trivial
      · exact .plain hi (by rw [hpc]; rfl) (Int.le_refl (-1))
  | raBroadcast =>
    simp only [hpc] at h
    cases h
    exact .plain hi (by rw [hpc]; rfl) trivial
  | raUnlockCount =>
    simp only [hpc] at h
    cases h
    exact .unlockCount hi (hi.count_of hpc rfl) (by rw [hpc]; rfl) (by rw [hpc]; rfl) trivial rfl
  | raUnlockList =>
    simp only [hpc] at h
    cases h
    exact .withListLock hi (by rw [hpc]; rfl) (by trivial) none s.suspendAllCount

/-- A step of the system from a state of the invariant is a good step. -/
theorem StepOk.of_step {list : List Nat} (hi : Inv s) (h : step list e s = some s') :
    StepOk s e s' := by
  cases e with
  | call t c => exact .of_call hi h
  | step t spurious => exact .of_advance hi h

/-- Only the thread of an event moves, and it comes to the start of `ResumeAll` only by calling
it. -/
theorem step_pc {list : List Nat} (h : step list e s = some s') :
    ∃ p, s'.pc = Function.update s.pc e.thread p ∧
      (p = .raExclusiveUnlock → e = .call e.thread .resumeAll) := by
  cases e with
  | call t c =>
    change call t c s = some s' at h
    unfold call at h
    split_ifs at h
    cases c with
    | lockThreadSuspendCountLock =>
      obtain ⟨-, rfl⟩ := lockCount_eq_some h
      exact ⟨_, rfl, nofun⟩
    | resumeAll =>
      simp only at h
      split_ifs at h
      cases h
      exact ⟨_, rfl, fun _ => rfl⟩
    | _ =>
      simp only at h
      split_ifs at h
      cases h
      exact ⟨_, rfl, nofun⟩
  | step t spurious =>
    change advance list t spurious s = some s' at h
    unfold advance at h
    split at h <;> (try simp only at h) <;> (try split at h) <;> first
      | (cases h <;> exact ⟨_, rfl, fun hp => by cases hp⟩)
      | (cases h; exact ⟨_, rfl, fun hp => absurd hp (AfterSuspend.next_ne _)⟩)
      | (cases h; exact ⟨_, rfl, fun hp => absurd hp (CheckpointCaller.next_ne _)⟩)
      | (cases h; exact ⟨_, rfl, fun hp => absurd hp (SuspendCountCaller.next_ne _)⟩)
      | (obtain ⟨-, rfl⟩ := lockCount_eq_some h; exact ⟨_, rfl, fun hp => by cases hp⟩)
      | (obtain ⟨-, rfl⟩ := lockList_eq_some h; exact ⟨_, rfl, fun hp => by cases hp⟩)
      | (obtain ⟨_, -, rfl⟩ := Option.map_eq_some_iff.mp h; exact ⟨_, rfl, fun hp => by cases hp⟩)

end Steps

/-! ## Runs -/

theorem inv_init : Inv init where
  lock_valid := RwLock.valid_free
  shares_nodup := List.nodup_nil
  mem_shares u := by simp [init, Runnable, word, Thread.init, Pc.holdsShare, RwLock.free]
  pc_ok u := PcOk.idle _ _
  count_nonneg u := Int.le_refl 0
  suspend_flag u := .inl rfl
  pending_slot _ _ _ _ _ h := by cases h
  checkpoints u := List.Perm.refl _
  committed_flag u h := absurd rfl h
  flag_committed u h := by cases h
  clearing_empty u h := by cases h
  resume_writer u h := by cases h

/-- The states that the threads of `list` reach from `init`, in any interleaving of their calls
and steps. -/
def Reachable (list : List Nat) : Threads → Prop := Simulation.Reachable (step list) init

section Runs

variable {list : List Nat} {s : Threads}

theorem Reachable.inv (hs : Reachable list s) : Inv s :=
  Simulation.Reachable.invariant inv_init (fun _ _ _ hi h => (StepOk.of_step hi h).inv) hs

/-- (a) A runnable thread holds a share of `mutator_lock_`. -/
theorem Inv.mem_shares_of_runnable (hi : Inv s) {u : Nat} (h : s.Runnable u) :
    u ∈ s.mutatorLock.shares :=
  (hi.mem_shares u).mpr (.inl h)

/-- (b) While a thread holds `mutator_lock_` exclusively, no thread is runnable. -/
theorem Inv.not_runnable_of_writer (hi : Inv s) {w : Nat} (hw : s.mutatorLock.writer = some w)
    (u : Nat) : ¬ s.Runnable u := fun h =>
  hi.lock_valid.not_mem_shares hw u (hi.mem_shares_of_runnable h)

/-- (c) While `thread_suspend_count_lock_` is free, the suspend flag of every thread is set
exactly when its suspend count is positive. -/
theorem Inv.suspendRequest_of_free (hi : Inv s) (hfree : s.threadSuspendCountLock = none)
    (u : Nat) : (s.word u).suspendRequest = decide (0 < (s.threads u).suspendCount) := by
  rcases hi.suspend_flag u with h | ⟨h, r, hh⟩
  · exact h
  · -- the thread between the two updates of `ModifySuspendCount` would hold the lock
    have := (hi.pc_ok h).count (by rw [hh]; rfl)
    rw [hfree] at this
    cases this

/-- (d) A thread has run only closures installed for it, each as often as it was installed. -/
theorem Inv.ranFor_subperm (hi : Inv s) (u : Nat) : (s.ranFor u).Subperm (s.installedFor u) :=
  ((List.sublist_append_left _ _).trans (List.sublist_append_left _ _)).subperm.trans
    (hi.checkpoints u).symm.subperm

end Runs

end Threads

end Art
