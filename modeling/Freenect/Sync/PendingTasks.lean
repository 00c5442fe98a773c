import Freenect.Library.Locks
import Freenect.Library.Runs
import Mathlib.Algebra.BigOperators.Group.Finset.Basic
import Mathlib.Data.Fintype.Basic
import Mathlib.Logic.Function.Basic

/-!
# Tasks that wait for the run loop

The run loop thread holds `runloop_lock` while libfreenect processes events, and would take it again
at once. So clients announce themselves in `pending_runloop_tasks`, and between two rounds the run
loop waits for this count to become zero (`pending_runloop_tasks_wait_zero`); it then takes
`runloop_lock` in a separate step, and a client that comes in between waits for one more round.

Here the functions of `libfreenect_sync.c` are cut at every lock, unlock and wait, and wherever they
read or write `thread_running`: each client and each run loop thread has a place in its code, and an
action lets one of them go on. Both locks are there with their holder. A waiting thread may wake up
at any time, since conditions allow for that; so `pthread_cond_signal` needs no step of its own.

A step that cannot be taken, since a lock is held by somebody else or a thread has not ended, leaves
everything as it is; so any sequence of actions is a run, and being blocked is not a state of its
own. What `freenect_process_events`, `freenect_init` and the others answer is part of the action.
-/

namespace Freenect.Tasks

/-! ### The code -/

/-- What a client calls. The get functions come to nothing or `setup_kinect`, as far as the run loop
is concerned, and the functions for the motor and the LED to a `setup_kinect`, if it is needed, and
what is between `runloop_enter` and `runloop_exit`. -/
inductive ClientCall
  | setupKinect
  | runloopEnter
  | syncStop
  deriving DecidableEq, Repr

/-- Where a client is: what it does next. -/
inductive ClientPc
  | idle
  /-- `pending_runloop_tasks_inc`, of `setup_kinect` or of `runloop_enter`. -/
  | incLock (setup : Bool)
  | incAdd (setup : Bool)
  | incUnlock (setup : Bool)
  | runloopLock (setup : Bool)
  /-- Between `runloop_enter` and `runloop_exit`. -/
  | inside
  /-- `setup_kinect`. -/
  | readPrev
  | testRunning (prev : Bool)
  | initThread (prev : Bool)
  | createThread (prev : Bool)
  | allocKinect (prev : Bool)
  | setFormat
  | clearRunning
  | runloopUnlock (join : Bool)
  /-- `pending_runloop_tasks_dec`. -/
  | decLock (join : Bool)
  | decSub (join : Bool)
  | decUnlock (join : Bool)
  | joinThread
  | joining (thread : Option ℕ)
  /-- `freenect_sync_stop`. -/
  | stopTest
  | stopClear
  deriving DecidableEq, Repr

/-- Where a run loop thread is in `init`. -/
inductive LoopPc
  /-- `pending_runloop_tasks_wait_zero`. -/
  | waitLock
  | waitTest
  | sleeping
  | waitUnlock
  | runloopLock
  /-- The test of `thread_running`. -/
  | testRunning
  /-- Inside `freenect_process_events`. -/
  | processing
  | runloopUnlock
  /-- Closing the devices and the context. -/
  | cleanup
  | lastUnlock
  | dead
  deriving DecidableEq, Repr

/-- A thread: a client, or a run loop thread by its number. -/
inductive Agent (ι : Type)
  | client (i : ι)
  | loop (t : ℕ)

/-- The wrapper with all its threads. -/
structure Threads (ι : Type) where
  client : ι → ClientPc
  /-- The run loop threads that have been created. -/
  loops : List LoopPc
  pendingLock : Option (Agent ι)
  runloopLock : Option (Agent ι)
  pending : ℤ
  threadRunning : Bool
  /-- The last run loop thread. -/
  thread : Option ℕ

namespace Threads

variable {ι : Type} [DecidableEq ι]

/-- Before the first call. -/
def initial : Threads ι where
  client _ := .idle
  loops := []
  pendingLock := none
  runloopLock := none
  pending := 0
  threadRunning := false
  thread := none

/-- `pthread_mutex_lock(&pending_runloop_tasks_lock)`: the thread goes on as `next` if the lock is
free. -/
def lockPending (s : Threads ι) (a : Agent ι) (next : Threads ι) : Threads ι :=
  if s.pendingLock.isNone then { next with pendingLock := some a } else s

/-- `pthread_mutex_lock(&runloop_lock)`. -/
def lockRunloop (s : Threads ι) (a : Agent ι) (next : Threads ι) : Threads ι :=
  if s.runloopLock.isNone then { next with runloopLock := some a } else s

/-- The client goes on. -/
def goto (s : Threads ι) (i : ι) (pc : ClientPc) : Threads ι :=
  { s with client := Function.update s.client i pc }

/-- The run loop thread goes on. -/
def loopTo (s : Threads ι) (t : ℕ) (pc : LoopPc) : Threads ι := { s with loops := s.loops.set t pc }

/-- `pthread_join` returns: the thread has terminated. Nothing is waited for if there never was
one. -/
def Joined (s : Threads ι) (thread : Option ℕ) : Prop :=
  ∀ t ∈ thread, s.loops[t]? = some .dead

instance (s : Threads ι) (thread : Option ℕ) : Decidable (s.Joined thread) :=
  inferInstanceAs (Decidable (∀ t ∈ thread, _))

/-- A client takes its next step. `ok` is the answer of what it calls there. -/
def clientStep (s : Threads ι) (i : ι) (call : ClientCall) (ok : Bool) : Threads ι :=
  match s.client i with
  | .idle =>
    match call with
    | .setupKinect => s.goto i (.incLock true)
    | .runloopEnter => s.goto i (.incLock false)
    | .syncStop => s.goto i .stopTest
  | .incLock setup => s.lockPending (.client i) (s.goto i (.incAdd setup))
  | .incAdd setup => { s.goto i (.incUnlock setup) with pending := s.pending + 1 }
  | .incUnlock setup => { s.goto i (.runloopLock setup) with pendingLock := none }
  | .runloopLock setup =>
    s.lockRunloop (.client i) (s.goto i (if setup then .readPrev else .inside))
  | .inside => s.goto i (.runloopUnlock false)
  | .readPrev => s.goto i (.testRunning s.threadRunning)
  | .testRunning prev => s.goto i (if s.threadRunning then .allocKinect prev else .initThread prev)
  | .initThread prev =>
    -- `thread_running` is set in any case
    { s.goto i (if ok then .createThread prev else .runloopUnlock false) with
      threadRunning := true }
  | .createThread prev =>
    if ok then
      { s.goto i (.allocKinect prev) with
        loops := s.loops ++ [.waitLock]
        thread := some s.loops.length }
    else { s.goto i (.runloopUnlock false) with thread := none }
  | .allocKinect prev =>
    s.goto i (if ok then .setFormat else if prev then .runloopUnlock false else .clearRunning)
  | .setFormat => s.goto i (.runloopUnlock false)
  | .clearRunning => { s.goto i (.runloopUnlock true) with threadRunning := false }
  | .runloopUnlock join => { s.goto i (.decLock join) with runloopLock := none }
  | .decLock join => s.lockPending (.client i) (s.goto i (.decSub join))
  | .decSub join => { s.goto i (.decUnlock join) with pending := s.pending - 1 }
  | .decUnlock join => { s.goto i (if join then .joinThread else .idle) with pendingLock := none }
  | .joinThread => s.goto i (.joining s.thread)
  | .joining thread => if s.Joined thread then s.goto i .idle else s
  | .stopTest => s.goto i (if s.threadRunning then .stopClear else .idle)
  | .stopClear => { s.goto i .joinThread with threadRunning := false }

/-- A run loop thread takes its next step. `ok` is whether `freenect_process_events` has not
failed. The number is reported of a thread that enters `freenect_process_events`. -/
def loopStep (s : Threads ι) (t : ℕ) (ok : Bool) : Threads ι × Option ℕ :=
  match s.loops[t]? with
  | none | some .sleeping | some .dead => (s, none)
  | some .waitLock => (s.lockPending (.loop t) (s.loopTo t .waitTest), none)
  | some .waitTest =>
    if s.pending ≠ 0 then ({ s.loopTo t .sleeping with pendingLock := none }, none)
    else (s.loopTo t .waitUnlock, none)
  | some .waitUnlock => ({ s.loopTo t .runloopLock with pendingLock := none }, none)
  | some .runloopLock => (s.lockRunloop (.loop t) (s.loopTo t .testRunning), none)
  | some .testRunning =>
    if s.threadRunning then (s.loopTo t .processing, some t) else (s.loopTo t .cleanup, none)
  | some .processing => (s.loopTo t (if ok then .runloopUnlock else .cleanup), none)
  | some .runloopUnlock => ({ s.loopTo t .waitLock with runloopLock := none }, none)
  | some .cleanup => (s.loopTo t .lastUnlock, none)
  | some .lastUnlock => ({ s.loopTo t .dead with runloopLock := none }, none)

/-- A run loop thread that waits for the condition wakes up, signalled or not. -/
def wakeStep (s : Threads ι) (t : ℕ) : Threads ι :=
  if s.loops[t]? = some .sleeping then s.loopTo t .waitLock else s

/-- What happens next. -/
inductive Action (ι : Type)
  | client (i : ι) (call : ClientCall) (ok : Bool)
  | loop (t : ℕ) (ok : Bool)
  | wake (t : ℕ)

/-- One step. -/
def step (s : Threads ι) : Action ι → Threads ι × Option ℕ
  | .client i call ok => (s.clientStep i call ok, none)
  | .loop t ok => s.loopStep t ok
  | .wake t => (s.wakeStep t, none)

end Threads

/-! ### Places in the code -/

namespace ClientPc

/-- The client holds `pending_runloop_tasks_lock`. -/
def holdsPending : ClientPc → Bool
  | .incAdd _ | .incUnlock _ | .decSub _ | .decUnlock _ => true
  | _ => false

/-- The client holds `runloop_lock`: it is inside its locked section. -/
def locked : ClientPc → Bool
  | .inside | .readPrev | .testRunning _ | .initThread _ | .createThread _ | .allocKinect _
  | .setFormat | .clearRunning | .runloopUnlock _ => true
  | _ => false

/-- The client has announced itself and waits for `runloop_lock`. -/
def waiting : ClientPc → Bool
  | .incUnlock _ | .runloopLock _ => true
  | _ => false

/-- The client is between `++pending_runloop_tasks` and `--pending_runloop_tasks`. -/
def counted (pc : ClientPc) : Bool :=
  pc.waiting || pc.locked ||
    match pc with
    | .decLock _ | .decSub _ => true
    | _ => false

/-- The client is about to create a run loop thread. -/
def creates : ClientPc → Bool
  | .createThread _ => true
  | _ => false

end ClientPc

namespace LoopPc

/-- The thread holds `pending_runloop_tasks_lock`. -/
def holdsPending : LoopPc → Bool
  | .waitTest | .waitUnlock => true
  | _ => false

/-- The thread holds `runloop_lock`. -/
def locked : LoopPc → Bool
  | .testRunning | .processing | .runloopUnlock | .cleanup | .lastUnlock => true
  | _ => false

/-- The thread has seen that no task is pending, and has not yet entered
`freenect_process_events`. -/
def armed : LoopPc → Bool
  | .waitUnlock | .runloopLock | .testRunning => true
  | _ => false

/-- The thread is in its loop. -/
def looping : LoopPc → Bool
  | .cleanup | .lastUnlock | .dead => false
  | _ => true

end LoopPc

end Freenect.Tasks
