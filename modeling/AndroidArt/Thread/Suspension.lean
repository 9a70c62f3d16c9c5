import AndroidArt.Lib.RwLock
import Mathlib.Logic.Function.Basic

/-!
# Thread suspension and checkpoints

Model of the code that suspends the runtime's threads and runs checkpoints on them:
`Thread::TransitionFromRunnableToSuspended` and `Thread::TransitionFromSuspendedToRunnable`
(`runtime/thread-inl.h`), `Thread::ModifySuspendCount`, `Thread::RunCheckpointFunction`,
`Thread::RequestCheckpoint` and `Thread::FullSuspendCheck` (`runtime/thread.cc`), the suspend
check loop `CheckSuspend` of the entrypoints (`runtime/entrypoints/entrypoint_utils-inl.h`), and
`ThreadList::SuspendAll` and `ThreadList::ResumeAll` (`runtime/thread_list.cc`).

The shared state (`Threads`) is, for each thread, its `state_and_flags` word, its suspend count
and its checkpoint slots, together with `Locks::mutator_lock_` as an abstract readers-writer lock,
`Locks::thread_list_lock_` and `Locks::thread_suspend_count_lock_` as the thread holding them, and
`ThreadList::suspend_all_count_`.  Each thread runs its calls one atomic step at a time: `Pc`
says where it is, with the locals the code keeps between steps (the word a CAS compares against,
the closures it copied out of its slots, the threads a loop has still to visit).  A step is one
load or CAS of a word, one atomic flag update, one lock operation, or one update of data that the
thread holds `thread_suspend_count_lock_` for.

`Threads.step` makes one step of one thread; `none` means the step cannot be taken: the thread
is blocked on a lock, or is not in a call, or a call was made without the locks and the state its
thread-safety annotations and `DCHECK`s require.  What the scheduler and the hardware choose is
an argument of the event: which thread steps, and whether a weak CAS fails spuriously.

`resume_cond_` is modelled as a wait that releases `thread_suspend_count_lock_` and may wake at
any later step, as a condition variable may wake spuriously; `Broadcast` then has nothing to do.
So every run of the code is a run of the model.  A `LOG(FATAL)` or failed `CHECK` stops the
thread that hits it (`Pc.aborted`); the process would end there.

Two ghost fields record, for the statements about checkpoints, which closures were installed by
a successful `RequestCheckpoint` and which were run, with the thread they were for.
-/

set_option autoImplicit false

namespace Art

/-- `enum ThreadState` (`runtime/thread_state.h`). -/
inductive ThreadState where
  | terminated | runnable | timedWaiting | sleeping | blocked | waiting
  | waitingForGcToComplete | waitingForCheckPointsToRun | waitingPerformingGc
  | waitingForDebuggerSend | waitingForDebuggerToAttach | waitingInMainDebuggerLoop
  | waitingForDebuggerSuspension | waitingForJniOnLoad | waitingForSignalCatcherOutput
  | waitingInMainSignalCatcherLoop | waitingForDeoptimization | waitingForMethodTracingStart
  | starting | native | suspended
  deriving DecidableEq, Repr

/-- The state a thread leaves `kRunnable` for: `new_state` of
`TransitionFromRunnableToSuspended`, with its `DCHECK_NE(new_state, kRunnable)`. -/
structure SuspendedState where
  state : ThreadState
  ne_runnable : state ≠ .runnable
  deriving DecidableEq

/-- `kSuspended`, the state of `FullSuspendCheck`. -/
def SuspendedState.suspended : SuspendedState := ⟨.suspended, by decide⟩

/-- `union StateAndFlags`, compared as one 32-bit word by every CAS.  Of `enum ThreadFlag` the
word has the two flags these paths set and test, `kSuspendRequest` (bit 0) and
`kCheckpointRequest` (bit 1). -/
structure StateAndFlags where
  suspendRequest : Bool
  checkpointRequest : Bool
  state : ThreadState
  deriving DecidableEq, Repr

/-- `Thread::kMaxCheckpoints`. -/
def kMaxCheckpoints : Nat := 3

/-- What suspension reads and writes of a `Thread`: `tls32_.state_and_flags`,
`tls32_.suspend_count` and `tlsPtr_.checkpoint_functions`, whose closures are named by numbers
(`none` for `nullptr`). -/
structure Thread where
  stateAndFlags : StateAndFlags
  suspendCount : Int
  checkpointFunctions : List (Option Nat)
  deriving DecidableEq, Repr

/-- A thread as the `Thread` constructor leaves it: no flag, in `kNative`, suspend count `0` and
no checkpoint. -/
def Thread.init : Thread :=
  ⟨⟨false, false, .native⟩, 0, List.replicate kMaxCheckpoints none⟩

/-- The index of the first free checkpoint slot, as `RequestCheckpoint` searches for it. -/
def firstFree : List (Option Nat) → Option Nat
  | [] => none
  | none :: _ => some 0
  | some _ :: rest => (firstFree rest).map (· + 1)

/-- Where `TransitionFromRunnableToSuspended` returns to: its caller, or, in `FullSuspendCheck`,
`TransitionFromSuspendedToRunnable`. -/
inductive AfterSuspend where
  | caller
  | fullSuspendCheck
  deriving DecidableEq, Repr

/-- Where `RunCheckpointFunction` returns to: the suspend check that called it, or the loop of
`TransitionFromRunnableToSuspended`. -/
inductive CheckpointCaller where
  | checkSuspend
  | transition (newState : SuspendedState) (k : AfterSuspend)
  deriving DecidableEq

/-- Where `ModifySuspendCount` returns to: its caller, or the loop of `SuspendAll` or of
`ResumeAll`, with the threads of `list_` still to visit. -/
inductive SuspendCountCaller where
  | caller
  | suspendAll (rest : List Nat)
  | resumeAll (rest : List Nat)
  deriving DecidableEq, Repr

/-- Where a thread is: in no call (`idle`), or before one atomic step of a call. -/
inductive Pc where
  | idle
  /-- `CheckSuspend`: `ReadFlag(kCheckpointRequest)`, then `ReadFlag(kSuspendRequest)`. -/
  | checkSuspend
  | checkSuspendRequest
  /-- `TransitionFromRunnableToSuspended`: the load of the word, the weak CAS, and
  `SharedUnlock`. -/
  | r2sLoad (newState : SuspendedState) (k : AfterSuspend)
  | r2sCas (newState : SuspendedState) (old : StateAndFlags) (k : AfterSuspend)
  | r2sUnlock (k : AfterSuspend)
  /-- `RunCheckpointFunction`: take the lock, move the closures out of the slots, clear the flag,
  release the lock, run what was taken. -/
  | rcfLock (ret : CheckpointCaller)
  | rcfCopy (ret : CheckpointCaller)
  | rcfClearFlag (taken : List Nat) (ret : CheckpointCaller)
  | rcfUnlock (taken : List Nat) (ret : CheckpointCaller)
  | rcfRun (taken : List Nat) (ret : CheckpointCaller)
  /-- `TransitionFromSuspendedToRunnable`. -/
  | s2rLoad
  | s2rLockCount
  | s2rRecheck
  | s2rWait
  | s2rWaiting
  | s2rUnlockCount
  | s2rSharedLock
  | s2rLoad2
  | s2rCas (old : StateAndFlags)
  | s2rSharedUnlock
  /-- `ModifySuspendCount(self, delta, false)` on `target`: the count, then the flag. -/
  | mscCount (target : Nat) (delta : Int) (ret : SuspendCountCaller)
  | mscFlag (target : Nat) (ret : SuspendCountCaller)
  /-- `RequestCheckpoint` on `target`: the load, the install into a free slot, the strong CAS. -/
  | rcLoad (target : Nat) (function : Nat)
  | rcInstall (target : Nat) (function : Nat) (old : StateAndFlags)
  | rcCas (target : Nat) (function : Nat) (old : StateAndFlags) (slot : Nat)
  /-- `SuspendAll`. -/
  | saLockList
  | saLockCount
  | saIncrement
  | saLoop (rest : List Nat)
  | saUnlockCount
  | saUnlockList
  | saExclusiveLock
  /-- `ResumeAll`. -/
  | raExclusiveUnlock
  | raLockList
  | raLockCount
  | raDecrement
  | raLoop (rest : List Nat)
  | raBroadcast
  | raUnlockCount
  | raUnlockList
  /-- The thread hit a `LOG(FATAL)` or a failed `CHECK`. -/
  | aborted (reason : String)
  deriving DecidableEq

/-- The next step after `ModifySuspendCount` returns. -/
def SuspendCountCaller.next : SuspendCountCaller → Pc
  | .caller => .idle
  | .suspendAll rest => .saLoop rest
  | .resumeAll rest => .raLoop rest

/-- The next step after `RunCheckpointFunction` returns. -/
def CheckpointCaller.next : CheckpointCaller → Pc
  | .checkSuspend => .idle
  | .transition newState k => .r2sLoad newState k

/-- The next step after `TransitionFromRunnableToSuspended` returns. -/
def AfterSuspend.next : AfterSuspend → Pc
  | .caller => .idle
  | .fullSuspendCheck => .s2rLoad

/-- The calls a thread in no call can make, with their arguments. -/
inductive Call where
  | transitionFromRunnableToSuspended (newState : SuspendedState)
  | transitionFromSuspendedToRunnable
  | fullSuspendCheck
  | checkSuspend
  /-- `MutexLock` and its release on `thread_suspend_count_lock_`, which callers of
  `ModifySuspendCount` and `RequestCheckpoint` hold around them. -/
  | lockThreadSuspendCountLock
  | unlockThreadSuspendCountLock
  | modifySuspendCount (target : Nat) (delta : Int)
  | requestCheckpoint (target : Nat) (function : Nat)
  | suspendAll
  | resumeAll

/-- One atomic step: thread `t` makes a call, or takes the next step of the call it is in; a weak
CAS in that step fails if `spurious`. -/
inductive SuspendEvent where
  | call (t : Nat) (c : Call)
  | step (t : Nat) (spurious : Bool)

/-- The thread an event is a step of. -/
def SuspendEvent.thread : SuspendEvent → Nat
  | .call t _ => t
  | .step t _ => t

/-- The threads, and the locks and counts of their suspension. -/
structure Threads where
  threads : Nat → Thread
  pc : Nat → Pc
  mutatorLock : RwLock Nat
  threadListLock : Option Nat
  threadSuspendCountLock : Option Nat
  suspendAllCount : Int
  /-- Ghost: `(target, closure)` for each successful `RequestCheckpoint`, in order. -/
  installed : List (Nat × Nat)
  /-- Ghost: `(thread, closure)` for each closure a thread's `RunCheckpointFunction` ran. -/
  ran : List (Nat × Nat)

namespace Threads

/-- Every thread new and in no call, and no lock held. -/
def init : Threads :=
  ⟨fun _ => Thread.init, fun _ => .idle, RwLock.free, none, none, 0, [], []⟩

section Updates

variable (s : Threads) (t : Nat)

/-- The `state_and_flags` word of thread `t`. -/
def word : StateAndFlags := (s.threads t).stateAndFlags

def setPc (p : Pc) : Threads := { s with pc := Function.update s.pc t p }

def setWord (w : StateAndFlags) : Threads :=
  { s with threads := Function.update s.threads t { s.threads t with stateAndFlags := w } }

def setSuspendCount (n : Int) : Threads :=
  { s with threads := Function.update s.threads t { s.threads t with suspendCount := n } }

def setCheckpointFunctions (fs : List (Option Nat)) : Threads :=
  { s with threads := Function.update s.threads t { s.threads t with checkpointFunctions := fs } }

/-- `MutexLock` on `thread_suspend_count_lock_` by `t`, blocked while another thread holds it. -/
def lockCount (p : Pc) : Option Threads :=
  if s.threadSuspendCountLock = none then
    some { s.setPc t p with threadSuspendCountLock := some t }
  else none

/-- `t` releases `thread_suspend_count_lock_`. -/
def unlockCount (p : Pc) : Threads := { s.setPc t p with threadSuspendCountLock := none }

/-- `MutexLock` on `thread_list_lock_` by `t`. -/
def lockList (p : Pc) : Option Threads :=
  if s.threadListLock = none then some { s.setPc t p with threadListLock := some t } else none

/-- `t` releases `thread_list_lock_`. -/
def unlockList (p : Pc) : Threads := { s.setPc t p with threadListLock := none }

end Updates

variable (list : List Nat)

/-- A call by thread `t`, in no call; `none` unless the thread holds the locks and is in the
state that the call's annotations and `DCHECK`s require.  The lock calls take and release
`thread_suspend_count_lock_` in one step. -/
def call (t : Nat) (c : Call) (s : Threads) : Option Threads :=
  if s.pc t ≠ .idle then none else
  let runnable := (s.word t).state = .runnable
  let holdsCount := s.threadSuspendCountLock = some t
  match c with
  -- `DCHECK_EQ(GetState(), kRunnable)`; `LOCKS_EXCLUDED(thread_suspend_count_lock_)`
  | .transitionFromRunnableToSuspended newState =>
    if runnable ∧ ¬ holdsCount then some (s.setPc t (.r2sLoad newState .caller)) else none
  -- `DCHECK_NE(old_state, kRunnable)`; `mutator_lock_->AssertNotHeld(this)`
  | .transitionFromSuspendedToRunnable =>
    if ¬ runnable ∧ ¬ holdsCount ∧ t ∉ s.mutatorLock.shares ∧ s.mutatorLock.writer ≠ some t then
      some (s.setPc t .s2rLoad)
    else none
  | .fullSuspendCheck =>
    if runnable ∧ ¬ holdsCount then
      some (s.setPc t (.r2sLoad .suspended .fullSuspendCheck))
    else none
  | .checkSuspend =>
    if runnable ∧ ¬ holdsCount then some (s.setPc t .checkSuspend) else none
  | .lockThreadSuspendCountLock => s.lockCount t .idle
  | .unlockThreadSuspendCountLock => if holdsCount then some (s.unlockCount t .idle) else none
  -- `EXCLUSIVE_LOCKS_REQUIRED(thread_suspend_count_lock_)`; `DCHECK(delta == -1 || delta == +1
  -- || delta == -debug_suspend_count)`, with no debugger suspension
  | .modifySuspendCount target delta =>
    if holdsCount ∧ (delta = -1 ∨ delta = 0 ∨ delta = 1) then
      some (s.setPc t (.mscCount target delta .caller))
    else none
  | .requestCheckpoint target function =>
    if holdsCount then some (s.setPc t (.rcLoad target function)) else none
  -- `mutator_lock_->AssertNotHeld(self)`, `LOCKS_EXCLUDED(thread_list_lock_,
  -- thread_suspend_count_lock_)`, `CHECK_NE(self->GetState(), kRunnable)`
  | .suspendAll =>
    if ¬ runnable ∧ ¬ holdsCount ∧ s.threadListLock ≠ some t ∧ t ∉ s.mutatorLock.shares ∧
        s.mutatorLock.writer ≠ some t then
      some (s.setPc t .saLockList)
    else none
  -- `UNLOCK_FUNCTION(mutator_lock_)`: the caller holds it exclusively
  | .resumeAll =>
    if s.mutatorLock.writer = some t ∧ ¬ holdsCount ∧ s.threadListLock ≠ some t then
      some (s.setPc t .raExclusiveUnlock)
    else none

/-- The next atomic step of thread `t` in its call. -/
def advance (t : Nat) (spurious : Bool) (s : Threads) : Option Threads :=
  match s.pc t with
  | .idle => none
  | .aborted _ => none
  -- `CheckSuspend`: one turn of its loop, which the caller may repeat
  | .checkSuspend =>
    if (s.word t).checkpointRequest then some (s.setPc t (.rcfLock .checkSuspend))
    else some (s.setPc t .checkSuspendRequest)
  | .checkSuspendRequest =>
    if (s.word t).suspendRequest then
      some (s.setPc t (.r2sLoad .suspended .fullSuspendCheck))
    else some (s.setPc t .idle)
  -- `TransitionFromRunnableToSuspended`
  | .r2sLoad newState k =>
    let old := s.word t
    if old.checkpointRequest then some (s.setPc t (.rcfLock (.transition newState k)))
    else some (s.setPc t (.r2sCas newState old k))
  | .r2sCas newState old k =>
    if s.word t = old ∧ spurious = false then
      some ((s.setWord t { old with state := newState.state }).setPc t (.r2sUnlock k))
    else some (s.setPc t (.r2sLoad newState k))
  | .r2sUnlock k =>
    some { s.setPc t k.next with mutatorLock := s.mutatorLock.sharedUnlock t }
  -- `RunCheckpointFunction`
  | .rcfLock ret => s.lockCount t (.rcfCopy ret)
  | .rcfCopy ret =>
    some ((s.setCheckpointFunctions t (List.replicate kMaxCheckpoints none)).setPc t
      (.rcfClearFlag ((s.threads t).checkpointFunctions.filterMap id) ret))
  | .rcfClearFlag taken ret =>
    some ((s.setWord t { s.word t with checkpointRequest := false }).setPc t
      (.rcfUnlock taken ret))
  | .rcfUnlock taken ret => some (s.unlockCount t (.rcfRun taken ret))
  | .rcfRun taken ret =>
    -- `CHECK(found_checkpoint)`
    if taken = [] then some (s.setPc t (.aborted "found_checkpoint"))
    else some { s.setPc t ret.next with ran := s.ran ++ taken.map (t, ·) }
  -- `TransitionFromSuspendedToRunnable`
  | .s2rLoad =>
    if (s.word t).suspendRequest then some (s.setPc t .s2rLockCount)
    else some (s.setPc t .s2rSharedLock)
  | .s2rLockCount => s.lockCount t .s2rRecheck
  | .s2rRecheck =>
    if (s.word t).suspendRequest then some (s.setPc t .s2rWait)
    else some (s.setPc t .s2rUnlockCount)
  | .s2rWait => some (s.unlockCount t .s2rWaiting)
  | .s2rWaiting => s.lockCount t .s2rRecheck
  | .s2rUnlockCount => some (s.unlockCount t .s2rSharedLock)
  | .s2rSharedLock =>
    (s.mutatorLock.sharedLock t).map fun l => { s.setPc t .s2rLoad2 with mutatorLock := l }
  | .s2rLoad2 =>
    let old := s.word t
    if old.suspendRequest = false then some (s.setPc t (.s2rCas old))
    else some (s.setPc t .s2rSharedUnlock)
  | .s2rCas old =>
    if s.word t = old ∧ spurious = false then
      some ((s.setWord t { old with state := .runnable }).setPc t .idle)
    else some (s.setPc t .s2rSharedUnlock)
  | .s2rSharedUnlock =>
    some { s.setPc t .s2rLoad with mutatorLock := s.mutatorLock.sharedUnlock t }
  -- `ModifySuspendCount`
  | .mscCount target delta ret =>
    if delta < 0 ∧ (s.threads target).suspendCount ≤ 0 then
      some (s.setPc t (.aborted "UnsafeLogFatalForSuspendCount"))
    else
      some ((s.setSuspendCount target ((s.threads target).suspendCount + delta)).setPc t
        (.mscFlag target ret))
  | .mscFlag target ret =>
    some ((s.setWord target
      { s.word target with suspendRequest := (s.threads target).suspendCount ≠ 0 }).setPc t
      ret.next)
  -- `RequestCheckpoint`
  | .rcLoad target function =>
    let old := s.word target
    if old.state ≠ .runnable then some (s.setPc t .idle)
    else some (s.setPc t (.rcInstall target function old))
  | .rcInstall target function old =>
    let slots := (s.threads target).checkpointFunctions
    match firstFree slots with
    | none => some (s.setPc t .idle)
    | some i =>
      some ((s.setCheckpointFunctions target (slots.set i (some function))).setPc t
        (.rcCas target function old i))
  | .rcCas target function old i =>
    if s.word target = old then
      some { (s.setWord target { old with checkpointRequest := true }).setPc t .idle with
        installed := s.installed ++ [(target, function)] }
    else
      -- the failed CAS and the removal of the closure, under the lock that the caller holds
      some ((s.setCheckpointFunctions target
        ((s.threads target).checkpointFunctions.set i none)).setPc t .idle)
  -- `SuspendAll`
  | .saLockList => s.lockList t .saLockCount
  | .saLockCount => s.lockCount t .saIncrement
  | .saIncrement => some { s.setPc t (.saLoop list) with suspendAllCount := s.suspendAllCount + 1 }
  | .saLoop [] => some (s.setPc t .saUnlockCount)
  | .saLoop (u :: rest) =>
    if u = t then some (s.setPc t (.saLoop rest))
    else some (s.setPc t (.mscCount u 1 (.suspendAll rest)))
  | .saUnlockCount => some (s.unlockCount t .saUnlockList)
  | .saUnlockList => some (s.unlockList t .saExclusiveLock)
  | .saExclusiveLock =>
    (s.mutatorLock.exclusiveLock t).map fun l => { s.setPc t .idle with mutatorLock := l }
  -- `ResumeAll`
  | .raExclusiveUnlock =>
    some { s.setPc t .raLockList with mutatorLock := s.mutatorLock.exclusiveUnlock }
  | .raLockList => s.lockList t .raLockCount
  | .raLockCount => s.lockCount t .raDecrement
  | .raDecrement => some { s.setPc t (.raLoop list) with suspendAllCount := s.suspendAllCount - 1 }
  | .raLoop [] => some (s.setPc t .raBroadcast)
  | .raLoop (u :: rest) =>
    if u = t then some (s.setPc t (.raLoop rest))
    else some (s.setPc t (.mscCount u (-1) (.resumeAll rest)))
  | .raBroadcast => some (s.setPc t .raUnlockCount)
  | .raUnlockCount => some (s.unlockCount t .raUnlockList)
  | .raUnlockList => some (s.unlockList t .idle)

/-- One step of the system, for the threads `list` of `ThreadList::list_`. -/
def step : SuspendEvent → Threads → Option Threads
  | .call t c => call t c
  | .step t spurious => advance list t spurious

end Threads

end Art
