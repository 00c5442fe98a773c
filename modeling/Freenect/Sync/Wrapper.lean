import Freenect.Library.Runs
import Freenect.Sync.Kinect

/-!
# The synchronous wrapper

The static data of `libfreenect_sync.c` and what its functions do to it, cut where a lock is taken
or given back. A `call` of a get function goes as far as `sync_get`, which is the separate event
`fetch`. The run loop thread gives the lock back after every `freenect_process_events`; once it
leaves its loop it keeps it to the end. `freenect_sync_stop` takes no lock. That a client waits for
a thread to end is not an event: nothing changes.

A get function reads `thread_running` and the ring without a lock to see whether `setup_kinect` is
needed. As long as the lock is free, finding that it is not it skips a `setup_kinect` that would do
nothing (`setupKinect_of_not_needsSetup`), so it makes no difference that this is one event. While a
thread is on its way out it does: a call that needs `setup_kinect` waits for the lock, and one that
does not goes on to `sync_get` all the same (`getWithRes`).

A device that is opened on a context that is not live is undefined behaviour of the source, which
follows a pointer that is `NULL` or has been freed. Here the call does not return.

Any number of clients may call in any order, and several run loop threads may be there at a time,
since one that is to stop need not have noticed when the next call starts another.
-/

namespace Freenect

/-- `MAX_KINECTS`. -/
def maxKinects : ℤ := 64

/-- The devices of the wrapper, by their index. -/
abbrev Kinects := ℤ → Option SyncKinect

/-- The static data of the wrapper. Of `ctx` it is known whether it is a context that has been
initialised and not shut down. -/
structure Wrapper where
  threadRunning : Bool
  ctxLive : Bool
  /-- The run loop thread that was created last, if that succeeded. -/
  thread : Option ℕ
  /-- For every thread that was created, whether it has not terminated. -/
  threads : List Bool
  /-- The thread that has left its loop, and holds `runloop_lock`. -/
  exiting : Option ℕ
  kinects : Kinects
  heap : Heap
  /-- History: a device was opened on a context that is not live. -/
  openedDead : Bool

/-- What is answered during a call: `freenect_init`, `pthread_create`, `freenect_open_device`, the
memory `malloc` returns for a new `sync_kinect_t`, and what is asked while the format is changed. -/
structure CallAnswers where
  init : ℤ
  create : ℤ
  openDevice : ℤ
  videoJunk : BufferRing
  depthJunk : BufferRing
  format : FormatAnswers

/-- A device that has just been opened, with rings that are not set up. -/
def SyncKinect.fresh (videoJunk depthJunk : BufferRing) : SyncKinect where
  dev := .opened
  video := { videoJunk with buf0 := NULL, buf1 := NULL, buf2 := NULL, fmt := -1, res := -1 }
  depth := { depthJunk with buf0 := NULL, buf1 := NULL, buf2 := NULL, fmt := -1, res := -1 }

/-- A packet for a stream. If it completes a frame, the producer callback passes the frame on and
gives libfreenect the other buffer. -/
def SyncKinect.packet (k : SyncKinect) (pkt : List UInt8) : StreamKind → SyncKinect
  | .video =>
    let o := processPacket k.dev.video.strm
      { pkt := pkt, chunkCb := false, newBuf := some k.video.buf1 }
    { k with
      dev := { k.dev with video := { k.dev.video with strm := o.1 } }
      video := k.video.pass o.2 }
  | .depth =>
    let o := processPacket k.dev.depth.strm
      { pkt := pkt, chunkCb := false, newBuf := some k.depth.buf1 }
    { k with
      dev := { k.dev with depth := { k.dev.depth with strm := o.1 } }
      depth := k.depth.pass o.2 }

/-- The two callbacks differ in the stream only. -/
theorem SyncKinect.packet_eq (k : SyncKinect) (pkt : List UInt8) (kind : StreamKind) :
    let o := processPacket (k.dev.stream kind).strm
      { pkt := pkt, chunkCb := false, newBuf := some (k.ring kind).buf1 }
    k.packet pkt kind =
      { k with dev := k.dev.withStrm kind o.1 }.withRing kind ((k.ring kind).pass o.2) := by
  cases kind with
  | video => rfl
  | depth => rfl

namespace Wrapper

/-- Before the first call. -/
def initial : Wrapper where
  threadRunning := false
  ctxLive := false
  thread := none
  threads := []
  exiting := none
  kinects := fun _ ↦ none
  heap := .empty
  openedDead := false

/-- Another device for an index. -/
def setKinect (s : Wrapper) (index : ℤ) (k : SyncKinect) : Wrapper :=
  { s with kinects := fun i ↦ if i = index then some k else s.kinects i }

/-- `init_thread`. -/
def initThread (s : Wrapper) (a : CallAnswers) : Wrapper × ℤ :=
  let s := { s with threadRunning := true, ctxLive := a.init = 0 }
  if a.init ≠ 0 then (s, a.init)
  else if a.create ≠ 0 then ({ s with thread := none }, a.create)
  else ({ s with thread := some s.threads.length, threads := s.threads ++ [true] }, 0)

/-- `alloc_kinect`, and the assignment of its result. A context that is not live is one that
`freenect_open_device` does not come back from. -/
def allocKinect (s : Wrapper) (index : ℤ) (a : CallAnswers) : Option Wrapper :=
  if s.ctxLive = false then none
  else if a.openDevice < 0 then some s
  else some (s.setKinect index (.fresh a.videoJunk a.depthJunk))

/-- `setup_kinect`, and what it returns, if it does. -/
def setupKinect (s : Wrapper) (index : ℤ) (m : Mode) (a : CallAnswers) : Wrapper × Option ℤ :=
  let prev := s.threadRunning
  let o := if s.threadRunning then (s, 0) else s.initThread a
  if o.2 ≠ 0 then (o.1, some o.2)
  else
    match (if (o.1.kinects index).isNone then o.1.allocKinect index a else some o.1) with
    | none => ({ o.1 with openedDead := true }, none)
    | some s =>
      match s.kinects index with
      | none => ({ s with threadRunning := if prev then s.threadRunning else false }, some (-1))
      | some k =>
        if ¬ k.Labelled m then
          let o := k.changeFormat s.heap a.format m
          ({ s.setKinect index o.1 with heap := o.2.1 }, some 0)
        else (s, some 0)

/-- The test of a get function: `setup_kinect` is needed. -/
def NeedsSetup (s : Wrapper) (index : ℤ) (m : Mode) : Prop :=
  s.threadRunning = false ∨ ∀ k ∈ s.kinects index, ¬ k.Labelled m

instance (s : Wrapper) (index : ℤ) (m : Mode) : Decidable (s.NeedsSetup index m) :=
  inferInstanceAs (Decidable (_ ∨ _))

/-- What a get function does next. -/
inductive Next
  | returns (ret : ℤ)
  | syncGet
  /-- It waits for `runloop_lock`, and has done nothing yet. -/
  | waits
  /-- It has a device opened on a context that is not live. -/
  | crashes
  deriving DecidableEq

/-- What it does when `setup_kinect` has returned, if that does. -/
def Next.afterSetup : Option ℤ → Next
  | none => .crashes
  | some ret => if ret ≠ 0 then .returns (-1) else .syncGet

/-- `freenect_sync_get_video_with_res` and `freenect_sync_get_depth_with_res`, up to `sync_get`. -/
def getWithRes (s : Wrapper) (index : ℤ) (m : Mode) (a : CallAnswers) : Wrapper × Next :=
  if index < 0 ∨ maxKinects ≤ index then (s, .returns (-1))
  else if s.NeedsSetup index m then
    if s.exiting.isSome then (s, .waits)
    else ((s.setupKinect index m a).1, .afterSetup (s.setupKinect index m a).2)
  -- no lock is taken here, so that a thread may be on its way out
  else (s, .syncGet)

/-- The stream `runloop_enter` sets up. -/
def enterMode : Mode := .depth .medium .d11Bit

/-- `runloop_enter`, and what it returns, if it does. -/
def runloopEnter (s : Wrapper) (index : ℤ) (a : CallAnswers) : Wrapper × Option ℤ :=
  if index < 0 ∨ maxKinects ≤ index then (s, some (-1))
  else if s.threadRunning = false ∨ (s.kinects index).isNone then
    ((s.setupKinect index enterMode a).1,
      (s.setupKinect index enterMode a).2.map fun ret ↦ if ret ≠ 0 then -1 else 0)
  else (s, some 0)

/-- The rings of all devices are freed. -/
def freeRings (s : Wrapper) : Heap :=
  (List.range maxKinects.toNat).foldl
    (fun heap (i : ℕ) ↦
      match s.kinects i with
      | none => heap
      | some k => k.depth.free (k.video.free heap))
    s.heap

/-- What can happen to the wrapper. -/
inductive Event
  /-- A get function, up to `sync_get`. -/
  | call (index : ℤ) (m : Mode) (a : CallAnswers)
  /-- Any other function of the wrapper for an index, up to the end of `runloop_enter`. -/
  | enter (index : ℤ) (a : CallAnswers)
  /-- `sync_get`. -/
  | fetch (index : ℤ) (kind : StreamKind)
  /-- libfreenect processes a packet. -/
  | packet (index : ℤ) (kind : StreamKind) (pkt : List UInt8)
  /-- `freenect_sync_stop`. -/
  | stop
  /-- A run loop thread takes the lock and tests its condition; `res` is what
  `freenect_process_events` returns. The streams of a device that is gone, which that function stops
  itself, are stopped here when the thread exits: in between nobody looks at them. -/
  | iterate (i : ℕ) (res : ℤ)
  /-- A thread that has left its loop closes the devices, shuts the context down and terminates. -/
  | exit (i : ℕ)

/-- One event. While a thread is on its way out, nothing happens that needs `runloop_lock`: a packet
has nobody to process it, and `runloop_enter` takes the lock in any case. -/
def next (s : Wrapper) : Event → Wrapper
  | .call index m a => (s.getWithRes index m a).1
  | .enter index a => if s.exiting.isSome then s else (s.runloopEnter index a).1
  | .fetch index kind =>
    match s.kinects index with
    | none => s
    | some k =>
      match (k.ring kind).syncGet with
      | none => s
      | some o => s.setKinect index (k.withRing kind o.1)
  | .packet index kind pkt =>
    if s.exiting.isSome then s
    else
      match s.kinects index with
      | none => s
      | some k => s.setKinect index (k.packet pkt kind)
  | .stop => { s with threadRunning := false }
  | .iterate i res =>
    if s.exiting.isSome ∨ s.threads[i]? ≠ some true then s
    else if s.threadRunning = true ∧ 0 ≤ res then s
    else { s with exiting := some i }
  | .exit i =>
    if s.exiting ≠ some i then s
    else { s with
      kinects := fun _ ↦ none
      heap := s.freeRings
      ctxLive := false
      threads := s.threads.set i false
      exiting := none }

/-- One event, as a step of a machine. -/
def step (s : Wrapper) (e : Event) : Wrapper × Unit := (s.next e, ())

variable (s : Wrapper) (index : ℤ) (m : Mode) (a : CallAnswers)

/-- The run loop thread runs, or can be started. -/
def Starts : Prop :=
  s.threadRunning = true ∨ (a.init = 0 ∧ a.create = 0)

/-- What `setup_kinect` works with, once it has seen to the run loop thread. -/
def looped : Wrapper × ℤ :=
  if s.threadRunning then (s, 0) else s.initThread a

/-- The device for an index, if it is open or can be opened. -/
def kinectFor : Option SyncKinect :=
  match s.kinects index with
  | some k => some k
  | none => if a.openDevice < 0 then none else some (.fresh a.videoJunk a.depthJunk)

/-- **What `setup_kinect` does about the thread**: nothing if it runs, and else `init_thread` fails
in one of two places or starts one. -/
theorem looped_cases (s : Wrapper) (a : CallAnswers) :
    (s.threadRunning = true ∧ s.looped a = (s, 0)) ∨
    (s.threadRunning = false ∧ a.init ≠ 0 ∧
      s.looped a = ({ s with threadRunning := true, ctxLive := false }, a.init)) ∨
    (s.threadRunning = false ∧ a.init = 0 ∧ a.create ≠ 0 ∧
      s.looped a =
        ({ s with threadRunning := true, ctxLive := true, thread := none }, a.create)) ∨
    (s.threadRunning = false ∧ a.init = 0 ∧ a.create = 0 ∧
      s.looped a =
        ({ s with
          threadRunning := true
          ctxLive := true
          thread := some s.threads.length
          threads := s.threads ++ [true] }, 0)) := by
  rw [looped, initThread]
  cases hrun : s.threadRunning with
  | true => exact Or.inl ⟨rfl, rfl⟩
  | false =>
    refine Or.inr ?_
    by_cases hinit : a.init = 0
    · refine Or.inr ?_
      by_cases hcreate : a.create = 0
      · exact Or.inr ⟨rfl, hinit, hcreate, by simp [hinit, hcreate]⟩
      · exact Or.inl ⟨rfl, hinit, hcreate, by simp [hinit, hcreate]⟩
    · exact Or.inl ⟨rfl, hinit, by simp [hinit]⟩

variable {s a}

/-- `init_thread` succeeds, or is not called. -/
theorem looped_ret_iff : (s.looped a).2 = 0 ↔ s.Starts a := by
  rcases looped_cases s a with ⟨hrun, hloop⟩ | ⟨hrun, hinit, hloop⟩ |
    ⟨hrun, hinit, hcreate, hloop⟩ | ⟨hrun, hinit, hcreate, hloop⟩ <;> rw [hloop, Starts, hrun]
  · exact iff_of_true rfl (Or.inl rfl)
  · exact iff_of_false hinit fun h ↦ h.elim Bool.false_ne_true fun h' ↦ hinit h'.1
  · exact iff_of_false hcreate fun h ↦ h.elim Bool.false_ne_true fun h' ↦ hcreate h'.2
  · exact iff_of_true rfl (Or.inr ⟨hinit, hcreate⟩)

/-- Nothing else changes but the context and the threads. -/
theorem looped_frame (s : Wrapper) (a : CallAnswers) :
    (s.looped a).1.exiting = s.exiting ∧ (s.looped a).1.kinects = s.kinects ∧
      (s.looped a).1.heap = s.heap := by
  rcases looped_cases s a with ⟨-, hloop⟩ | ⟨-, -, hloop⟩ | ⟨-, -, -, hloop⟩ | ⟨-, -, -, hloop⟩ <;>
  · rw [hloop]
    exact ⟨rfl, rfl, rfl⟩

variable (s a)

/-- Without need there is a device whose ring is labelled with the mode, and the thread is said to
run. -/
theorem not_needsSetup_iff : ¬ s.NeedsSetup index m ↔
    s.threadRunning = true ∧ ∃ k, s.kinects index = some k ∧ k.Labelled m := by
  rw [NeedsSetup, not_or, Bool.not_eq_false]
  refine and_congr_right fun _ ↦ ?_
  rw [not_forall]
  exact exists_congr fun k ↦ by rw [not_forall, exists_prop, not_not, Option.mem_def]

/-- Without need `setup_kinect` does nothing. -/
theorem setupKinect_of_not_needsSetup (h : ¬ s.NeedsSetup index m) :
    s.setupKinect index m a = (s, some 0) := by
  obtain ⟨hrun, k, hk, hlabelled⟩ := (not_needsSetup_iff s index m).1 h
  rw [setupKinect]
  simp [hrun, hk, hlabelled]

/-- What `setup_kinect` works with, once it has seen to the device. -/
def opened : Option Wrapper :=
  if (s.kinects index).isNone then s.allocKinect index a else some s

/-- **What `setup_kinect` does about the device**: it has one opened if there is none, which needs a
live context. -/
theorem opened_cases (s : Wrapper) (index : ℤ) (a : CallAnswers) :
    (s.kinects index = none ∧ s.ctxLive = false ∧ s.opened index a = none) ∨
    (s.kinects index = none ∧ s.ctxLive = true ∧ s.kinectFor index a = none ∧
      s.opened index a = some s) ∨
    ∃ k, (s.kinects index = none → s.ctxLive = true) ∧ s.kinectFor index a = some k ∧
      s.opened index a = some (s.setKinect index k) := by
  rw [opened, kinectFor]
  cases hk : s.kinects index with
  | some k =>
    refine Or.inr (Or.inr ⟨k, fun h ↦ (nomatch h), rfl, ?_⟩)
    rw [Option.isNone_some, if_neg Bool.false_ne_true, setKinect]
    have hsame : (fun i ↦ if i = index then some k else s.kinects i) = s.kinects := by
      funext i
      split
      next hi => rw [hi, hk]
      next => rfl
    rw [hsame]
  | none =>
    rw [Option.isNone_none, if_pos rfl, allocKinect]
    cases hctx : s.ctxLive with
    | false => exact Or.inl ⟨rfl, rfl, rfl⟩
    | true =>
      rw [if_neg (by decide)]
      by_cases hopen : a.openDevice < 0
      · exact Or.inr (Or.inl ⟨rfl, rfl, if_pos hopen, if_pos hopen⟩)
      · exact Or.inr (Or.inr ⟨_, fun _ ↦ rfl, if_neg hopen, if_neg hopen⟩)

/-- A device that has to be opened is opened on a live context: if `thread_running` is set, the one
that is there. -/
def OnLive (s : Wrapper) (index : ℤ) : Prop :=
  s.threadRunning = true → s.kinects index = none → s.ctxLive = true

/-- Where the thread runs or can be started, `init_thread` leaves a dead context only if it is not
called. -/
theorem looped_ctxLive (hstarts : s.Starts a) :
    (s.looped a).1.ctxLive = true ↔ (s.threadRunning = true → s.ctxLive = true) := by
  rcases looped_cases s a with ⟨hrun, hloop⟩ | ⟨hrun, hinit, -⟩ | ⟨hrun, -, hcreate, -⟩ |
    ⟨hrun, -, -, hloop⟩
  · rw [hloop]
    exact ⟨fun h _ ↦ h, fun h ↦ h hrun⟩
  · rcases hstarts with h | ⟨h, -⟩
    exacts [absurd (hrun.symm.trans h) Bool.false_ne_true, absurd h hinit]
  · rcases hstarts with h | ⟨-, h⟩
    exacts [absurd (hrun.symm.trans h) Bool.false_ne_true, absurd h hcreate]
  · rw [hloop, hrun]
    exact iff_of_true rfl fun h ↦ absurd h Bool.false_ne_true

/-- The devices are not touched by that. -/
theorem looped_kinectFor : (s.looped a).1.kinectFor index a = s.kinectFor index a := by
  rw [kinectFor, kinectFor, (looped_frame s a).2.1]

/-- **What `setup_kinect` does**, by what it finds: it fails without a run loop thread, does not
come back from a dead context, fails without a device, and else changes the format unless the label
says that it is the right one. -/
theorem setupKinect_eq (s : Wrapper) (index : ℤ) (m : Mode) (a : CallAnswers) :
    (¬ s.Starts a ∧ s.setupKinect index m a = ((s.looped a).1, some (s.looped a).2)) ∨
    (s.Starts a ∧ ¬ s.OnLive index ∧
      s.setupKinect index m a = ({ (s.looped a).1 with openedDead := true }, none)) ∨
    (s.Starts a ∧ s.OnLive index ∧ s.kinectFor index a = none ∧
      s.setupKinect index m a = ({ (s.looped a).1 with
        threadRunning := if s.threadRunning then (s.looped a).1.threadRunning else false },
        some (-1))) ∨
    ∃ k, s.Starts a ∧ s.OnLive index ∧ s.kinectFor index a = some k ∧
      s.setupKinect index m a =
        if ¬ k.Labelled m then
          ({ ((s.looped a).1.setKinect index k).setKinect index
              (k.changeFormat s.heap a.format m).1 with
            heap := (k.changeFormat s.heap a.format m).2.1 }, some 0)
        else ((s.looped a).1.setKinect index k, some 0) := by
  obtain ⟨-, hkinects, hheap⟩ := looped_frame s a
  by_cases hstarts : s.Starts a
  swap
  · have hne : (s.looped a).2 ≠ 0 := fun h ↦ hstarts (looped_ret_iff.1 h)
    refine Or.inl ⟨hstarts, ?_⟩
    rw [setupKinect, ← looped]
    exact if_pos hne
  have hzero : ¬ (s.looped a).2 ≠ 0 := not_not.2 (looped_ret_iff.2 hstarts)
  refine Or.inr ?_
  rcases opened_cases (s.looped a).1 index a with ⟨hnone, hdead, hopened⟩ |
    ⟨hnone, hlive, hfor, hopened⟩ | ⟨k, hlive, hfor, hopened⟩
  · refine Or.inl ⟨hstarts, fun hon ↦ ?_, ?_⟩
    · have hctx := (looped_ctxLive s a hstarts).2 fun hrun ↦ hon hrun (hkinects ▸ hnone)
      exact Bool.false_ne_true (hdead.symm.trans hctx)
    · rw [setupKinect, ← looped]
      dsimp only
      rw [if_neg hzero, ← opened, hopened]
  · refine Or.inr (Or.inl ⟨hstarts, fun hrun _ ↦ (looped_ctxLive s a hstarts).1 hlive hrun,
      looped_kinectFor s index a ▸ hfor, ?_⟩)
    rw [setupKinect, ← looped]
    dsimp only
    rw [if_neg hzero, ← opened, hopened]
    dsimp only
    rw [hnone]
  · refine Or.inr (Or.inr ⟨k, hstarts, fun hrun hno ↦ ?_, looped_kinectFor s index a ▸ hfor, ?_⟩)
    · exact (looped_ctxLive s a hstarts).1 (hlive (hkinects ▸ hno)) hrun
    · rw [setupKinect, ← looped]
      dsimp only
      rw [if_neg hzero, ← opened, hopened]
      have hat : ((s.looped a).1.setKinect index k).kinects index = some k := if_pos rfl
      have hheap' : ((s.looped a).1.setKinect index k).heap = s.heap := hheap
      dsimp only
      rw [hat, hheap']

/-- **A get function with the lock free**: it does as `setup_kinect` says, whether that is needed or
not. -/
theorem getWithRes_of_free (hin : 0 ≤ index ∧ index < maxKinects) (hlock : s.exiting = none) :
    s.getWithRes index m a =
      ((s.setupKinect index m a).1, .afterSetup (s.setupKinect index m a).2) := by
  rw [getWithRes, if_neg (by omega)]
  split
  next => exact if_neg (by simp [hlock])
  next hno =>
    rw [setupKinect_of_not_needsSetup s index m a hno]
    rfl

/-- **A get function while a thread is on its way out**: it waits for the lock only if it needs
it. -/
theorem getWithRes_of_exiting (hin : 0 ≤ index ∧ index < maxKinects) (hexit : s.exiting ≠ none) :
    s.getWithRes index m a = (s, if s.NeedsSetup index m then .waits else .syncGet) := by
  rw [getWithRes, if_neg (by omega)]
  split
  next => exact if_pos (Option.isSome_iff_ne_none.2 hexit)
  next => rfl

/-- **A call of a get function** is `setup_kinect`, if the lock is free and the index in range. -/
theorem next_call : s.next (.call index m a) =
    if s.exiting = none ∧ 0 ≤ index ∧ index < maxKinects then (s.setupKinect index m a).1
    else s := by
  rw [next]
  by_cases hin : 0 ≤ index ∧ index < maxKinects
  swap
  · rw [if_neg fun h ↦ hin h.2, getWithRes, if_pos (by omega)]
  by_cases hlock : s.exiting = none
  · rw [if_pos ⟨hlock, hin⟩, getWithRes_of_free s index m a hin hlock]
  · rw [if_neg fun h ↦ hlock h.1, getWithRes_of_exiting s index m a hin hlock]

/-- **Entering the run loop** is `setup_kinect` for the default depth mode, if that is needed. -/
theorem next_enter : s.next (.enter index a) =
    if s.exiting = none ∧ (0 ≤ index ∧ index < maxKinects) ∧
        (s.threadRunning = false ∨ (s.kinects index).isNone) then
      (s.setupKinect index enterMode a).1
    else s := by
  unfold next runloopEnter
  dsimp only
  split
  next hexit =>
    exact (if_neg fun h ↦ absurd (h.1 ▸ hexit) (by decide)).symm
  next hexit =>
    have hlock : s.exiting = none := by simpa using hexit
    split
    next hout => exact (if_neg fun h ↦ by omega).symm
    next hin =>
      split
      next hneeds => exact (if_pos ⟨hlock, by omega, hneeds⟩).symm
      next hno => exact (if_neg fun h ↦ hno h.2.2).symm

end Wrapper

end Freenect
