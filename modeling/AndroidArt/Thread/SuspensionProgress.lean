import AndroidArt.Thread.SuspensionSpec

/-!
# Suspension makes progress

`Thread/SuspensionSpec.lean` shows what no interleaving can break.  This module shows that the
calls do what they are for, by runs that the scheduler may choose from a quiet state (`Quiet`: no
thread in a call, no lock held, each runnable thread in `list_`):

* `Inv.resumes` — a thread with no suspension pending completes
  `TransitionFromSuspendedToRunnable` and is runnable;
* `Inv.checkpoint_runs` — `RequestCheckpoint` on a runnable thread with a free slot installs the
  closure, and the thread's next suspend check runs it, with every closure installed for it
  before;
* `Inv.suspendAll_returns` — `SuspendAll` returns once the runnable threads pass their suspend
  checks: its caller then holds `mutator_lock_` exclusively, each other thread of `list_` has one
  more suspension, and each thread that was runnable has run every closure installed for it.

Each run is put together from the runs of one call of one thread, whose end states are the
closed forms `resumed`, `requested`, `checkpointsRun`, `suspendedSelf` and, for the loop of
`SuspendAll`, `raised`; what the invariant says of the states they reach does the rest.

`suspension_sound` puts these runs together with the invariant: every reachable state is
`Sound`.
-/

set_option autoImplicit false

namespace Art

/-- A thread after `ModifySuspendCount(+1)`: one more suspension, and its suspend flag set from the
new count. -/
def Thread.suspendedOnce (th : Thread) : Thread :=
  { th with
    stateAndFlags := { th.stateAndFlags with suspendRequest := decide (th.suspendCount + 1 ≠ 0) }
    suspendCount := th.suspendCount + 1 }

namespace Threads

variable {list : List Nat} {s : Threads}

theorem ext {s s' : Threads} (hthreads : s.threads = s'.threads) (hpc : s.pc = s'.pc)
    (hlock : s.mutatorLock = s'.mutatorLock) (hlist : s.threadListLock = s'.threadListLock)
    (hcount : s.threadSuspendCountLock = s'.threadSuspendCountLock)
    (hall : s.suspendAllCount = s'.suspendAllCount) (hinstalled : s.installed = s'.installed)
    (hran : s.ran = s'.ran) : s = s' := by
  cases s
  cases s'
  simp only at *
  subst_vars
  rfl

@[simp] theorem setPc_setPc (t : Nat) (p q : Pc) : (s.setPc t p).setPc t q = s.setPc t q := by
  simp [setPc]

theorem setPc_eq_self {t : Nat} {p : Pc} (h : s.pc t = p) : s.setPc t p = s := by
  subst h
  simp [setPc]

/-- The invariant holds all along a run from a state of the invariant. -/
theorem Inv.of_reachable {s' : Threads} (hi : Inv s) (h : Simulation.Reachable (step list) s s') :
    Inv s' :=
  Simulation.Reachable.invariant hi (fun _ _ _ hi h => (StepOk.of_step hi h).inv) h

/-- While `thread_suspend_count_lock_` is free, no slot is pending: the closures of a thread's
slots are published. -/
theorem committed_of_free (hfree : s.threadSuspendCountLock = none) (u : Nat) :
    s.committed u = (s.threads u).checkpointFunctions.filterMap id := by
  simp [committed, pendingSlot, hfree]

/-- A thread in no call holds a share only while runnable. -/
theorem Inv.not_mem_shares (hi : Inv s) {u : Nat} (hidle : s.pc u = .idle) (hr : ¬ s.Runnable u) :
    u ∉ s.mutatorLock.shares := fun h => by
  rcases (hi.mem_shares u).mp h with h | h
  · exact hr h
  · simp [hidle, Pc.holdsShare] at h

/-- A thread in no call and with its checkpoint flag clear has nothing left to run: the closures
installed for it are those it has run. -/
theorem Inv.ranFor_perm (hi : Inv s) {u : Nat} (hflag : (s.word u).checkpointRequest = false)
    (htaken : (s.pc u).taken = []) :
    (s.ranFor u).Perm (s.installedFor u) := by
  have hc : s.committed u = [] := by
    by_contra hne
    rw [hi.committed_flag u hne] at hflag
    cases hflag
  have := hi.checkpoints u
  rw [hc, htaken, List.append_nil, List.append_nil] at this
  exact this.symm

/-! ## Runs of one call -/

section Calls

variable (s : Threads) (u : Nat)

/-- Where `TransitionFromSuspendedToRunnable` leaves thread `u` when no suspension is pending:
runnable, with a share of `mutator_lock_`. -/
def resumed : Threads :=
  { s.setWord u { s.word u with state := .runnable } with
    mutatorLock := { s.mutatorLock with shares := u :: s.mutatorLock.shares } }

/-- Where a successful `RequestCheckpoint` of `function` into slot `i` of `u` leaves the
threads. -/
def requested (function i : Nat) : Threads :=
  { (s.setCheckpointFunctions u ((s.threads u).checkpointFunctions.set i (some function))).setWord
      u { s.word u with checkpointRequest := true } with
    installed := s.installed ++ [(u, function)] }

/-- Where `RunCheckpointFunction` from `CheckSuspend` leaves thread `u`: its slots empty, its flag
clear, and the closures of its slots run. -/
def checkpointsRun : Threads :=
  { (s.setCheckpointFunctions u (List.replicate kMaxCheckpoints none)).setWord u
      { s.word u with checkpointRequest := false } with
    ran := s.ran ++ ((s.threads u).checkpointFunctions.filterMap id).map (u, ·) }

/-- Where the suspend check leaves a runnable thread `u` with a suspend request: suspended in
`FullSuspendCheck`, its share given back, about to load its word in
`TransitionFromSuspendedToRunnable`. -/
def suspendedSelf : Threads :=
  { (s.setWord u { s.word u with state := .suspended }).setPc u .s2rLoad with
    mutatorLock := s.mutatorLock.sharedUnlock u }

theorem word_resumed (v : Nat) :
    (s.resumed u).word v = if v = u then { s.word u with state := .runnable } else s.word v :=
  word_setWord s u v _

theorem word_suspendedSelf (v : Nat) :
    (s.suspendedSelf u).word v = if v = u then { s.word u with state := .suspended } else s.word v :=
  word_setWord s u v _

theorem suspendCount_suspendedSelf (v : Nat) :
    ((s.suspendedSelf u).threads v).suspendCount = (s.threads v).suspendCount :=
  (threads_setWord s u v _).1

theorem word_requested (function i v : Nat) :
    (s.requested u function i).word v =
      if v = u then { s.word u with checkpointRequest := true } else s.word v := by
  rw [show (s.requested u function i).word v = ((s.setCheckpointFunctions u
    ((s.threads u).checkpointFunctions.set i (some function))).setWord u
      { s.word u with checkpointRequest := true }).word v from rfl, word_setWord,
    word_setCheckpointFunctions]

theorem word_checkpointsRun (v : Nat) :
    (s.checkpointsRun u).word v =
      if v = u then { s.word u with checkpointRequest := false } else s.word v := by
  rw [show (s.checkpointsRun u).word v = (((s.setCheckpointFunctions u
    (List.replicate kMaxCheckpoints none)).setWord u { s.word u with checkpointRequest := false })).word
      v from rfl, word_setWord, word_setCheckpointFunctions]

theorem suspendCount_checkpointsRun (v : Nat) :
    ((s.checkpointsRun u).threads v).suspendCount = (s.threads v).suspendCount := by
  rw [show (s.checkpointsRun u).threads v = ((s.setCheckpointFunctions u
    (List.replicate kMaxCheckpoints none)).setWord u { s.word u with checkpointRequest := false
      }).threads v from rfl, (threads_setWord _ u v _).1, setCheckpointFunctions_threads]
  split_ifs with hv
  · rw [hv]
  · rfl

/-- The threads after the loop of `SuspendAll` by `S` over the threads `l`: one more suspension
for each of them but `S`. -/
def raised (S : Nat) (l : List Nat) (ts : Nat → Thread) : Nat → Thread :=
  fun v => if v ∈ l ∧ v ≠ S then (ts v).suspendedOnce else ts v

theorem raised_state (S : Nat) (l : List Nat) (ts : Nat → Thread) (v : Nat) :
    (raised S l ts v).stateAndFlags.state = (ts v).stateAndFlags.state := by
  unfold raised
  split_ifs <;> rfl

theorem raised_of_mem {S : Nat} {l : List Nat} (ts : Nat → Thread) {v : Nat} (hv : v ∈ l)
    (hvS : v ≠ S) : raised S l ts v = (ts v).suspendedOnce := by
  simp [raised, hv, hvS]

/-- Where `SuspendAll` by `S` waits for `mutator_lock_`: the threads of `list_` have one more
suspension, and `thread_list_lock_` and `thread_suspend_count_lock_` are free again. -/
def suspendRequested (list : List Nat) (S : Nat) : Threads :=
  { s.setPc S .saExclusiveLock with
    threads := raised S list s.threads
    suspendAllCount := s.suspendAllCount + 1 }

/-- The suspend check of a runnable thread `u` with a suspend request: `RunCheckpointFunction`
first if its checkpoint flag is set, then the suspension. -/
def suspendChecked : Threads :=
  if (s.word u).checkpointRequest then (s.checkpointsRun u).suspendedSelf u else s.suspendedSelf u

end Calls

variable {u : Nat}

theorem reachable_resumed (hi : Inv s) (hidle : s.pc u = .idle) (hr : ¬ s.Runnable u)
    (hflag : (s.word u).suspendRequest = false) (hw : s.mutatorLock.writer = none)
    (hc : s.threadSuspendCountLock ≠ some u) :
    Simulation.Reachable (step list) s (s.resumed u) := by
  have hshare := hi.not_mem_shares hidle hr
  have hr' : (s.threads u).stateAndFlags.state ≠ .runnable := hr
  simp only [word] at hflag
  refine Simulation.Reachable.of_foldlM [.call u .transitionFromSuspendedToRunnable,
    .step u false, .step u false, .step u false, .step u false] ?_
  simp [step, call, advance, word, hidle, hr', hc, hshare, hw, hflag, RwLock.sharedLock]
  refine ext ?_ ?_ ?_ rfl rfl rfl rfl rfl
  · simp [setWord, resumed, word, hflag]
  · simp [resumed, setWord, hidle]
  · simp [resumed, setWord, hw]

/-- `RequestCheckpoint` by a thread `r` in no call, with `thread_suspend_count_lock_` free, on a
runnable thread whose first free slot is `i`. -/
theorem reachable_requested {r function i : Nat} (hidle : s.pc r = .idle)
    (hfree : s.threadSuspendCountLock = none) (hr : s.Runnable u)
    (hslot : firstFree (s.threads u).checkpointFunctions = some i) :
    Simulation.Reachable (step list) s (s.requested u function i) := by
  have hr' : (s.threads u).stateAndFlags.state = .runnable := hr
  refine Simulation.Reachable.of_foldlM [.call r .lockThreadSuspendCountLock,
    .call r (.requestCheckpoint u function), .step r false, .step r false, .step r false,
    .call r .unlockThreadSuspendCountLock] ?_
  simp [step, call, advance, word, lockCount, unlockCount, setCheckpointFunctions_threads, hidle,
    hfree, hr', hslot]
  apply ext <;> simp [requested, setWord, setCheckpointFunctions, setPc, word, hidle, hfree, hr']

/-- `CheckSuspend` of a runnable thread in no call whose checkpoint flag is set, while
`thread_suspend_count_lock_` is free: it runs `RunCheckpointFunction`, whose `CHECK` holds since
the flag is set only with a closure published. -/
theorem reachable_checkpointsRun (hi : Inv s) (hidle : s.pc u = .idle) (hr : s.Runnable u)
    (hflag : (s.word u).checkpointRequest = true) (hfree : s.threadSuspendCountLock = none) :
    Simulation.Reachable (step list) s (s.checkpointsRun u) := by
  have htaken : ¬ ∀ f ∈ (s.threads u).checkpointFunctions, f = none := by
    rcases hi.flag_committed u hflag with h | h
    · rw [committed_of_free hfree] at h
      simpa using h
    · simp [hidle, Pc.clearingFlag] at h
  have hr' : (s.threads u).stateAndFlags.state = .runnable := hr
  simp only [word] at hflag
  refine Simulation.Reachable.of_foldlM [.call u .checkSuspend, .step u false, .step u false,
    .step u false, .step u false, .step u false, .step u false] ?_
  simp [step, call, advance, word, lockCount, unlockCount, setCheckpointFunctions_threads, hidle,
    hfree, hr', hflag, htaken]
  apply ext <;> simp [checkpointsRun, setWord, setCheckpointFunctions, setPc, word,
    CheckpointCaller.next, hidle, hfree, hr']

/-- `CheckSuspend` of a runnable thread in no call with a suspend request and its checkpoint flag
clear: `FullSuspendCheck` takes it out of `kRunnable`, and it waits to come back. -/
theorem reachable_suspendedSelf (hidle : s.pc u = .idle) (hr : s.Runnable u)
    (hflag : (s.word u).checkpointRequest = false) (hreq : (s.word u).suspendRequest = true)
    (hc : s.threadSuspendCountLock ≠ some u) :
    Simulation.Reachable (step list) s (s.suspendedSelf u) := by
  have hr' : (s.threads u).stateAndFlags.state = .runnable := hr
  simp only [word] at hflag hreq
  refine Simulation.Reachable.of_foldlM [.call u .checkSuspend, .step u false, .step u false,
    .step u false, .step u false, .step u false] ?_
  simp [step, call, advance, word, hidle, hc, hr', hflag, hreq]
  apply ext <;> simp [suspendedSelf, setWord, setPc, word, AfterSuspend.next,
    SuspendedState.suspended, hflag, hreq]

/-- The loop of `SuspendAll` by `S` over the threads `rest` still to visit: `ModifySuspendCount(+1)`
on each but `S`. -/
theorem reachable_saLoop {S : Nat} : ∀ (rest : List Nat) (s : Threads), rest.Nodup →
    s.pc S = .saLoop rest →
    Simulation.Reachable (step list) s
      { s.setPc S (.saLoop []) with threads := raised S rest s.threads }
  | [], s, _, hpc => by
    have hend : { s.setPc S (.saLoop []) with threads := raised S [] s.threads } = s :=
      ext (funext fun v => by simp [raised]) (by simp [← hpc]) rfl rfl rfl rfl rfl rfl
    rw [hend]
    exact .init
  | u :: rest, s, hnd, hpc => by
    obtain ⟨hu, hnd'⟩ := List.nodup_cons.mp hnd
    by_cases huS : u = S
    · -- `SuspendAll` skips its own thread
      have h₁ : Simulation.Reachable (step list) s (s.setPc S (.saLoop rest)) :=
        .of_foldlM [.step S false] (by simp [step, advance, hpc, huS])
      have h₂ := reachable_saLoop (S := S) rest (s.setPc S (.saLoop rest)) hnd' (by simp)
      convert h₁.trans h₂ using 2
      simp only [setPc_setPc, setPc_threads]
      congr 1
      funext v
      by_cases hv : v = S <;> simp [raised, hv, huS]
    · -- `ModifySuspendCount(+1)` on `u`: the count, then the flag
      let s₁ : Threads := { s.setPc S (.saLoop rest) with
        threads := Function.update s.threads u (s.threads u).suspendedOnce }
      have h₁ : Simulation.Reachable (step list) s s₁ := by
        refine .of_foldlM [.step S false, .step S false, .step S false] ?_
        simp [step, advance, hpc, huS, setSuspendCount_threads, word_setSuspendCount,
          SuspendCountCaller.next]
        refine ext (funext fun v => ?_) (by simp [s₁]) rfl rfl rfl rfl rfl rfl
        by_cases hv : v = u <;> simp [s₁, setWord, setSuspendCount, word, Thread.suspendedOnce, hv]
      have h₂ := reachable_saLoop (S := S) rest s₁ hnd' (by simp [s₁])
      convert h₁.trans h₂ using 1
      refine ext (funext fun v => ?_) (by simp [s₁]) rfl rfl rfl rfl rfl rfl
      by_cases hv : v = u
      · subst hv
        simp [s₁, raised, hu, huS]
      · simp [s₁, raised, hv]

/-- `SuspendAll` by a thread `S` in no call that is not runnable, with both locks free and no
writer: it takes the locks, raises the suspend counts of `list_`, gives the locks back and waits
for `mutator_lock_`. -/
theorem reachable_suspendRequested {S : Nat} (hi : Inv s) (hnd : list.Nodup)
    (hidle : s.pc S = .idle) (hr : ¬ s.Runnable S) (hlist : s.threadListLock = none)
    (hfree : s.threadSuspendCountLock = none) (hw : s.mutatorLock.writer = none) :
    Simulation.Reachable (step list) s (s.suspendRequested list S) := by
  have hshare := hi.not_mem_shares hidle hr
  have hr' : (s.threads S).stateAndFlags.state ≠ .runnable := hr
  let s₁ : Threads := { s.setPc S (.saLoop list) with
    threadListLock := some S
    threadSuspendCountLock := some S
    suspendAllCount := s.suspendAllCount + 1 }
  have h₁ : Simulation.Reachable (step list) s s₁ := by
    refine .of_foldlM [.call S .suspendAll, .step S false, .step S false, .step S false] ?_
    simp [step, call, advance, word, lockList, lockCount, hidle, hr', hlist, hfree, hshare, hw]
    apply ext <;> simp [s₁]
  let s₂ : Threads := { s₁.setPc S (.saLoop []) with threads := raised S list s₁.threads }
  have h₂ : Simulation.Reachable (step list) s₁ s₂ := reachable_saLoop list s₁ hnd (by simp [s₁])
  have h₃ : Simulation.Reachable (step list) s₂ (s.suspendRequested list S) := by
    refine .of_foldlM [.step S false, .step S false, .step S false] ?_
    simp [step, advance, unlockCount, unlockList, s₁, s₂]
    apply ext <;> simp [suspendRequested, hlist, hfree]
  exact h₁.trans (h₂.trans h₃)

/-! ## The suspend checks of the runnable threads -/

section Checked

variable (s : Threads) (u : Nat)

@[simp] theorem pc_suspendChecked : (s.suspendChecked u).pc = Function.update s.pc u .s2rLoad := by
  unfold suspendChecked
  split_ifs <;> simp [suspendedSelf, checkpointsRun]

theorem word_suspendChecked (v : Nat) :
    (s.suspendChecked u).word v =
      if v = u then { s.word u with state := .suspended, checkpointRequest := false }
      else s.word v := by
  unfold suspendChecked
  split_ifs with hflag hv hv
  · simp [word_suspendedSelf, word_checkpointsRun, hv]
  · simp [word_suspendedSelf, word_checkpointsRun, hv]
  · simp only [Bool.not_eq_true] at hflag
    simp [word_suspendedSelf, hv, ← hflag]
  · simp [word_suspendedSelf, hv]

@[simp] theorem suspendCount_suspendChecked (v : Nat) :
    ((s.suspendChecked u).threads v).suspendCount = (s.threads v).suspendCount := by
  unfold suspendChecked
  split_ifs <;> simp [suspendCount_suspendedSelf, suspendCount_checkpointsRun]

@[simp] theorem threadSuspendCountLock_suspendChecked :
    (s.suspendChecked u).threadSuspendCountLock = s.threadSuspendCountLock := by
  unfold suspendChecked
  split_ifs <;> simp [suspendedSelf, checkpointsRun]

@[simp] theorem suspendAllCount_suspendChecked :
    (s.suspendChecked u).suspendAllCount = s.suspendAllCount := by
  unfold suspendChecked
  split_ifs <;> simp [suspendedSelf, checkpointsRun]

@[simp] theorem writer_suspendChecked :
    (s.suspendChecked u).mutatorLock.writer = s.mutatorLock.writer := by
  unfold suspendChecked
  split_ifs <;> simp [suspendedSelf, checkpointsRun]

end Checked

/-- The suspend check of a runnable thread in no call with a suspend request, while
`thread_suspend_count_lock_` is free. -/
theorem reachable_suspendChecked (hi : Inv s) (hidle : s.pc u = .idle) (hr : s.Runnable u)
    (hreq : (s.word u).suspendRequest = true) (hfree : s.threadSuspendCountLock = none) :
    Simulation.Reachable (step list) s (s.suspendChecked u) := by
  unfold suspendChecked
  split_ifs with hflag
  · -- the checkpoints first, which leave the thread where it was with its flag clear
    refine (reachable_checkpointsRun hi hidle hr hflag hfree).trans
      (reachable_suspendedSelf (by simpa [checkpointsRun] using hidle) ?_ ?_ ?_
        (by simp [checkpointsRun, hfree]))
    · simpa [Runnable, word_checkpointsRun] using hr
    · simp [word_checkpointsRun]
    · simpa [word_checkpointsRun] using hreq
  · exact reachable_suspendedSelf hidle hr (by simpa using hflag) hreq (by simp [hfree])

/-- The suspend checks of the runnable threads `rs`, one after another. -/
theorem reachable_foldl_suspendChecked : ∀ (rs : List Nat) (s : Threads), Inv s → rs.Nodup →
    s.threadSuspendCountLock = none →
    (∀ v ∈ rs, s.pc v = .idle ∧ s.Runnable v ∧ (s.word v).suspendRequest = true) →
    Simulation.Reachable (step list) s (rs.foldl suspendChecked s)
  | [], s, _, _, _, _ => .init
  | u :: rest, s, hi, hnd, hfree, hrs => by
    obtain ⟨hu, hnd'⟩ := List.nodup_cons.mp hnd
    obtain ⟨hidle, hr, hreq⟩ := hrs u List.mem_cons_self
    have h₁ : Simulation.Reachable (step list) s (s.suspendChecked u) :=
      reachable_suspendChecked hi hidle hr hreq hfree
    refine h₁.trans (reachable_foldl_suspendChecked rest _ (hi.of_reachable h₁) hnd'
      (by simp [hfree]) fun v hv => ?_)
    have hvu : v ≠ u := fun h => hu (h ▸ hv)
    obtain ⟨hidle', hr', hreq'⟩ := hrs v (List.mem_cons_of_mem _ hv)
    refine ⟨by simp [hvu, hidle'], ?_, ?_⟩
    · simpa [Runnable, word_suspendChecked, hvu] using hr'
    · simpa [word_suspendChecked, hvu] using hreq'

section Fold

theorem pc_foldl_suspendChecked : ∀ (rs : List Nat) (s : Threads) (v : Nat),
    (rs.foldl suspendChecked s).pc v = if v ∈ rs then .s2rLoad else s.pc v
  | [], s, v => by simp
  | u :: rest, s, v => by
    rw [List.foldl_cons, pc_foldl_suspendChecked rest]
    by_cases hv : v = u <;> by_cases hr : v ∈ rest <;> simp [hv, hr]

theorem word_foldl_suspendChecked : ∀ (rs : List Nat) (s : Threads) (v : Nat),
    (rs.foldl suspendChecked s).word v =
      if v ∈ rs then { s.word v with state := .suspended, checkpointRequest := false }
      else s.word v
  | [], s, v => by simp
  | u :: rest, s, v => by
    rw [List.foldl_cons, word_foldl_suspendChecked rest, word_suspendChecked]
    by_cases hv : v = u <;> by_cases hr : v ∈ rest <;> simp [hv, hr]

theorem suspendCount_foldl_suspendChecked : ∀ (rs : List Nat) (s : Threads) (v : Nat),
    ((rs.foldl suspendChecked s).threads v).suspendCount = (s.threads v).suspendCount
  | [], s, v => rfl
  | u :: rest, s, v => by
    rw [List.foldl_cons, suspendCount_foldl_suspendChecked rest, suspendCount_suspendChecked]

/-- The suspend checks leave the locks and `suspend_all_count_` alone. -/
theorem foldl_suspendChecked_locks : ∀ (rs : List Nat) (s : Threads),
    (rs.foldl suspendChecked s).threadSuspendCountLock = s.threadSuspendCountLock ∧
      (rs.foldl suspendChecked s).mutatorLock.writer = s.mutatorLock.writer ∧
      (rs.foldl suspendChecked s).suspendAllCount = s.suspendAllCount
  | [], s => ⟨rfl, rfl, rfl⟩
  | u :: rest, s => by
    obtain ⟨h₁, h₂, h₃⟩ := foldl_suspendChecked_locks rest (s.suspendChecked u)
    simp only [List.foldl_cons, h₁, h₂, h₃, threadSuspendCountLock_suspendChecked,
      writer_suspendChecked, suspendAllCount_suspendChecked, and_self]

end Fold

/-! ## From a quiet state -/

/-- No thread is in a call, no lock is held, and every runnable thread is one of `list_`. -/
structure Quiet (list : List Nat) (s : Threads) : Prop where
  idle : ∀ u, s.pc u = .idle
  threadListLock : s.threadListLock = none
  threadSuspendCountLock : s.threadSuspendCountLock = none
  writer : s.mutatorLock.writer = none
  mem_list : ∀ u, s.Runnable u → u ∈ list

/-- `RequestCheckpoint` finds a slot when one is free. -/
theorem firstFree_of_mem_none : ∀ {l : List (Option Nat)}, none ∈ l → ∃ i, firstFree l = some i
  | none :: _, _ => ⟨0, rfl⟩
  | some _ :: l, h => by
    obtain ⟨i, hi⟩ := firstFree_of_mem_none (l := l) (by simpa using h)
    exact ⟨i + 1, by simp [firstFree, hi]⟩

/-- From a quiet state, a thread of `list_` that is not runnable and has no suspension pending
completes `TransitionFromSuspendedToRunnable`: the state is quiet again, with the thread runnable
and every other thread's word as it was. -/
theorem Inv.resumes (hi : Inv s) (hq : Quiet list s) (hu : u ∈ list) (hr : ¬ s.Runnable u)
    (hcount : (s.threads u).suspendCount = 0) :
    ∃ s', Simulation.Reachable (step list) s s' ∧ Quiet list s' ∧ s'.Runnable u ∧
      ∀ v, v ≠ u → s'.word v = s.word v := by
  have hflag : (s.word u).suspendRequest = false := by
    rw [hi.suspendRequest_of_free hq.threadSuspendCountLock, hcount]
    rfl
  refine ⟨s.resumed u, reachable_resumed hi (hq.idle u) hr hflag hq.writer
    (by simp [hq.threadSuspendCountLock]), ?_, by simp [Runnable, word_resumed],
    fun v hv => by simp [word_resumed, hv]⟩
  refine ⟨fun v => by simp [resumed, hq.idle v], by simp [resumed, hq.threadListLock],
    by simp [resumed, hq.threadSuspendCountLock], by simp [resumed, hq.writer], fun v hv => ?_⟩
  by_cases hvu : v = u
  · exact hvu ▸ hu
  · exact hq.mem_list v (by simpa [Runnable, word_resumed, hvu] using hv)

/-- From a quiet state, `RequestCheckpoint` of `function` on a runnable thread with a free slot
succeeds, and the thread's next suspend check runs it: the state is quiet again, `function` is
installed for the thread, and the thread has run every closure installed for it. -/
theorem Inv.checkpoint_runs (hi : Inv s) (hq : Quiet list s) (function : Nat) (hr : s.Runnable u)
    (hslot : none ∈ (s.threads u).checkpointFunctions) :
    ∃ s', Simulation.Reachable (step list) s s' ∧ Quiet list s' ∧ s'.Runnable u ∧
      s'.installedFor u = s.installedFor u ++ [function] ∧ (s'.ranFor u).Perm (s'.installedFor u) := by
  obtain ⟨i, hi'⟩ := firstFree_of_mem_none hslot
  have h₁ : Simulation.Reachable (step list) s (s.requested u function i) :=
    reachable_requested (r := u) (hq.idle u) hq.threadSuspendCountLock hr hi'
  set s₁ := s.requested u function i
  have hr₁ : s₁.Runnable u := by simpa [s₁, Runnable, word_requested] using hr
  have h₂ : Simulation.Reachable (step list) s₁ (s₁.checkpointsRun u) :=
    reachable_checkpointsRun (hi.of_reachable h₁) (by simp [s₁, requested, hq.idle u]) hr₁
      (by simp [s₁, word_requested]) (by simp [s₁, requested, hq.threadSuspendCountLock])
  have hi₂ := hi.of_reachable (h₁.trans h₂)
  have hq₂ : Quiet list (s₁.checkpointsRun u) := by
    refine ⟨fun v => by simp [s₁, checkpointsRun, requested, hq.idle v],
      by simp [s₁, checkpointsRun, requested, hq.threadListLock],
      by simp [s₁, checkpointsRun, requested, hq.threadSuspendCountLock],
      by simp [s₁, checkpointsRun, requested, hq.writer], fun v hv => hq.mem_list v ?_⟩
    by_cases hvu : v = u
    · exact hvu ▸ hr
    · simpa [s₁, Runnable, word_checkpointsRun, word_requested, hvu] using hv
  refine ⟨_, h₁.trans h₂, hq₂, by simpa [Runnable, word_checkpointsRun] using hr₁, ?_,
    hi₂.ranFor_perm (by simp [word_checkpointsRun]) (by simp [hq₂.idle u, Pc.taken])⟩
  simp [s₁, installedFor, requested, checkpointsRun]

/-- From a quiet state, `SuspendAll` by a thread `S` that is not runnable returns once the
runnable threads pass their suspend checks: `S` holds `mutator_lock_` exclusively, each other
thread of `list_` has one more suspension and its suspend flag set, and each thread that was
runnable has run every closure installed for it. -/
theorem Inv.suspendAll_returns (hi : Inv s) (hq : Quiet list s) (hnd : list.Nodup) {S : Nat}
    (hS : ¬ s.Runnable S) :
    ∃ s', Simulation.Reachable (step list) s s' ∧ s'.mutatorLock.writer = some S ∧
      s'.pc S = .idle ∧ s'.suspendAllCount = s.suspendAllCount + 1 ∧
      (∀ u ∈ list, u ≠ S → (s'.threads u).suspendCount = (s.threads u).suspendCount + 1 ∧
        (s'.word u).suspendRequest = true) ∧
      ∀ u, s.Runnable u → (s'.ranFor u).Perm (s'.installedFor u) := by
  have hM := reachable_suspendRequested hi hnd (hq.idle S) hS hq.threadListLock
    hq.threadSuspendCountLock hq.writer
  set M := s.suspendRequested list S
  have hMword : ∀ v, M.word v = (raised S list s.threads v).stateAndFlags := fun v => rfl
  have hMreq : ∀ v ∈ list, v ≠ S → (M.word v).suspendRequest = true := by
    intro v hv hvS
    have hc := hi.count_nonneg v
    rw [hMword, raised_of_mem _ hv hvS]
    simp [Thread.suspendedOnce]
    omega
  set rs := list.filter fun v => decide ((s.word v).state = .runnable)
  have hrs : ∀ v, v ∈ rs ↔ s.Runnable v := fun v => by
    simp only [rs, List.mem_filter, decide_eq_true_eq]
    exact ⟨fun h => h.2, fun h => ⟨hq.mem_list v h, h⟩⟩
  have hvS : ∀ v ∈ rs, v ≠ S := fun v hv he => hS (he ▸ (hrs v).mp hv)
  have hSrs : S ∉ rs := fun h => hvS S h rfl
  have hN : Simulation.Reachable (step list) M (rs.foldl suspendChecked M) :=
    reachable_foldl_suspendChecked rs M (hi.of_reachable hM) (hnd.filter _)
    (by simp [M, suspendRequested, hq.threadSuspendCountLock]) fun v hv =>
      ⟨by simp [M, suspendRequested, hvS v hv, hq.idle v],
        by rw [Runnable, hMword, raised_state]; exact (hrs v).mp hv,
        hMreq v (List.mem_of_mem_filter hv) (hvS v hv)⟩
  set N := rs.foldl suspendChecked M
  have hiN := hi.of_reachable (hM.trans hN)
  have hNwriter : N.mutatorLock.writer = none := by
    rw [(foldl_suspendChecked_locks rs M).2.1]
    simp [M, suspendRequested, hq.writer]
  have hNall : N.suspendAllCount = s.suspendAllCount + 1 := by
    rw [(foldl_suspendChecked_locks rs M).2.2]
    simp [M, suspendRequested]
  have hNrunnable : ∀ v, ¬ N.Runnable v := by
    intro v hv
    rw [Runnable, word_foldl_suspendChecked] at hv
    split_ifs at hv with hmem
    rw [hMword, raised_state] at hv
    exact hmem ((hrs v).mpr hv)
  have hNpc : ∀ v, (N.pc v).holdsShare = false := by
    intro v
    simp only [N, pc_foldl_suspendChecked]
    split_ifs
    · rfl
    · by_cases hv : v = S <;> simp [M, suspendRequested, hv, hq.idle v, Pc.holdsShare]
  have hshares : N.mutatorLock.shares = [] := List.eq_nil_iff_forall_not_mem.mpr fun v hv => by
    rcases (hiN.mem_shares v).mp hv with h | h
    · exact hNrunnable v h
    · rw [hNpc v] at h
      cases h
  let F : Threads := { N.setPc S .idle with mutatorLock := { N.mutatorLock with writer := some S } }
  have hF : Simulation.Reachable (step list) N F := by
    have hpcS : N.pc S = .saExclusiveLock := by
      simp [N, pc_foldl_suspendChecked, M, suspendRequested, hSrs]
    refine .of_foldlM [.step S false] ?_
    simp [step, advance, hpcS, RwLock.exclusiveLock, hNwriter, hshares, F]
  have hiF := hiN.of_reachable hF
  refine ⟨F, hM.trans (hN.trans hF), rfl, by simp [F], by simp [F, hNall],
    fun u hu huS => ⟨?_, ?_⟩, fun u hu => ?_⟩
  · simp [F, N, suspendCount_foldl_suspendChecked, M, suspendRequested, raised_of_mem _ hu huS,
      Thread.suspendedOnce]
  · have : F.word u = N.word u := rfl
    rw [this, word_foldl_suspendChecked]
    split_ifs <;> simp [hMreq u hu huS]
  · have huS : u ≠ S := fun he => hS (he ▸ hu)
    refine hiF.ranFor_perm ?_ ?_
    · have : F.word u = N.word u := rfl
      rw [this, word_foldl_suspendChecked, if_pos ((hrs u).mpr hu)]
    · simp [F, huS, N, pc_foldl_suspendChecked, (hrs u).mpr hu, Pc.taken]

/-! ## Soundness -/

/-- What soundness of suspension says of a reachable state: what every step from it keeps, and
what runs from it can do. -/
structure Sound (list : List Nat) (s : Threads) : Prop where
  /-- (a) A runnable thread holds a share of `mutator_lock_`. -/
  runnable_shares : ∀ u, s.Runnable u → u ∈ s.mutatorLock.shares
  /-- (b) While a thread holds `mutator_lock_` exclusively, no thread is runnable; a step makes a
  thread the writer only at the return of its `SuspendAll`, and ends that only at the first step
  of its `ResumeAll`, which it comes to only by calling it. -/
  writer_alone : ∀ w, s.mutatorLock.writer = some w → ∀ u, ¬ s.Runnable u
  /-- (c) While `thread_suspend_count_lock_` is free, a suspend flag is set exactly when the
  suspend count is positive; a step makes a thread runnable only with its flag clear. -/
  suspend_flag : s.threadSuspendCountLock = none →
    ∀ u, (s.word u).suspendRequest = decide (0 < (s.threads u).suspendCount)
  /-- (d) A thread has run each closure at most as often as it was installed for it; it leaves
  `kRunnable` only having run them all, and the closures it runs are recorded for it. -/
  ran_installed : ∀ u, (s.ranFor u).Subperm (s.installedFor u)
  steps : ∀ e s', step list e s = some s' → StepOk s e s' ∧
    ∃ p, s'.pc = Function.update s.pc e.thread p ∧
      (p = .raExclusiveUnlock → e = .call e.thread .resumeAll)
  /-- (e) From a quiet state, a thread with no suspension pending becomes runnable. -/
  resumes : Quiet list s → ∀ u ∈ list, ¬ s.Runnable u → (s.threads u).suspendCount = 0 →
    ∃ s', Simulation.Reachable (step list) s s' ∧ Quiet list s' ∧ s'.Runnable u ∧
      ∀ v, v ≠ u → s'.word v = s.word v
  /-- (f) From a quiet state, a checkpoint requested on a runnable thread with a free slot is
  installed, and run by that thread with every closure installed for it before. -/
  checkpoint_runs : Quiet list s → ∀ u function, s.Runnable u →
    none ∈ (s.threads u).checkpointFunctions →
    ∃ s', Simulation.Reachable (step list) s s' ∧ Quiet list s' ∧ s'.Runnable u ∧
      s'.installedFor u = s.installedFor u ++ [function] ∧ (s'.ranFor u).Perm (s'.installedFor u)
  /-- (g) From a quiet state, `SuspendAll` by a thread that is not runnable returns, with every
  other thread of `list_` suspended once more and every thread that was runnable done with its
  checkpoints. -/
  suspendAll_returns : Quiet list s → list.Nodup → ∀ S, ¬ s.Runnable S →
    ∃ s', Simulation.Reachable (step list) s s' ∧ s'.mutatorLock.writer = some S ∧
      s'.pc S = .idle ∧ s'.suspendAllCount = s.suspendAllCount + 1 ∧
      (∀ u ∈ list, u ≠ S → (s'.threads u).suspendCount = (s.threads u).suspendCount + 1 ∧
        (s'.word u).suspendRequest = true) ∧
      ∀ u, s.Runnable u → (s'.ranFor u).Perm (s'.installedFor u)

/-- **Suspension is sound.**  Every state reached by any interleaving of the calls and steps of
the threads is as `Sound` says: every step from it keeps the invariant, and from it the threads
can resume, run their checkpoints and be suspended by `SuspendAll`. -/
theorem suspension_sound (hs : Reachable list s) : Sound list s := by
  have hi := hs.inv
  exact ⟨fun _ h => hi.mem_shares_of_runnable h, fun _ hw => hi.not_runnable_of_writer hw,
    hi.suspendRequest_of_free, hi.ranFor_subperm, fun _ _ h => ⟨.of_step hi h, step_pc h⟩,
    fun hq _ hu hr hcount => hi.resumes hq hu hr hcount,
    fun hq _ function hr hslot => hi.checkpoint_runs hq function hr hslot,
    fun hq hnd _ hS => hi.suspendAll_returns hq hnd hS⟩

/-- Thread 1 of `[0, 1]` made runnable from the start: a quiet reachable state with a runnable
thread, from which every run that `Sound` promises exists. -/
theorem suspension_sound_run :
    Reachable [0, 1] (init.resumed 1) ∧ Quiet [0, 1] (init.resumed 1) ∧
      (init.resumed 1).Runnable 1 ∧ ¬ (init.resumed 1).Runnable 0 ∧
      Sound [0, 1] (init.resumed 1) := by
  have hnot : ∀ v, ¬ init.Runnable v := fun v => by simp [Runnable, init, word, Thread.init]
  have hreach : Reachable [0, 1] (init.resumed 1) :=
    Simulation.Reachable.trans Simulation.Reachable.init
      (reachable_resumed inv_init rfl (hnot 1) rfl rfl (by simp [init]))
  refine ⟨hreach, ⟨fun v => rfl, rfl, rfl, rfl, fun v hv => ?_⟩,
    by simp [Runnable, word_resumed], by simpa [Runnable, word_resumed] using hnot 0,
    suspension_sound hreach⟩
  by_cases hv1 : v = 1
  · simp [hv1]
  · exact absurd (by simpa [Runnable, word_resumed, hv1] using hv) (hnot v)

end Threads

end Art
