import Freenect.Camera.StreamSpec
import Freenect.Library.Runs
import Freenect.Usb.Isoc

/-!
# The life of a camera stream

`freenect_start_depth`, `freenect_start_video` and the two functions that stop the streams again,
with everything libusb may do in between. Each of the four is cut where libusb can run a callback:
around the register writes and in the wait loop of `fnusb_stop_iso`. The cuts are the constructors
of `CameraStream.Step`, a `Phase` says which of them the client's thread has reached, and a
completed transfer (`event`) may come in every phase as long as the transfer is in flight.

A stream that is started from inside a callback of the other stream, while it is itself being
stopped, is not modelled: a call is finished before the next one is made.

`StreamInv` is what holds in every reachable state; the accounting of the transfers is
`transfers_accounted`.

The proof has three parts. Of a single callback only two things are used: it leaves `running` as it
is, and while that is clear it calls no frame callback (`onEvent_running`, `onEvent_frames`). The
invariant relates the phase to `running`, to the flag of the transfers, and to what is in flight;
each constructor of `Step` is one case of `Step.streamInv`. From there the statements about runs are
inductions over a path with one step lemma each (`Step.frames_of_not_running`, `Step.stopped`), and
that the wait loop comes to an end is a count of what is in flight (`exists_drained`).
-/

namespace Freenect

/-! ### The packet callback

Of what a packet does, this module needs the stream and the frame callback, not the contents of the
buffers. `frameProcess_eq_processPacket` is the link to the processing with memory. -/

/-- A packet of a completed transfer, with what the client's callbacks would do to it: take it in
place of the library, and set a new buffer when it completes a frame. -/
structure IsoPacket where
  pkt : List UInt8
  chunkCb : Bool
  newBuf : Option Ptr
  deriving DecidableEq, Repr

/-- `depth_process` and `video_process` without their effect on memory. -/
def processPacket (strm : PacketStream) (p : IsoPacket) : PacketStream × Option FrameOut :=
  if p.pkt.length = 0 then (strm, none)
  else if ¬ strm.running then (strm, none)
  else
    let o := streamProcess strm p.pkt p.chunkCb
    if o.gotFrameSize = 0 then (o.strm, none)
    else
      (frameCallback o.strm p.newBuf,
        some { frame := o.strm.procBuf, timestamp := o.strm.timestamp })

/-- Memory and the conversion decide neither the stream nor the frame callback. -/
theorem frameProcess_eq_processPacket (convert : Option Conversion) (strm : PacketStream)
    (mem : Memory) (p : IsoPacket) :
    ((frameProcess convert strm mem p.pkt p.chunkCb p.newBuf).1,
      (frameProcess convert strm mem p.pkt p.chunkCb p.newBuf).2.2) = processPacket strm p := by
  rw [frameProcess, processPacket]
  split
  · rfl
  · split
    · rfl
    · dsimp only
      split
      · rfl
      · rfl

/-- A client that replaces its buffer does not touch `running`. -/
theorem frameCallback_running (strm : PacketStream) (newBuf : Option Ptr) :
    (frameCallback strm newBuf).running = strm.running := by
  cases newBuf with
  | none => rfl
  | some pbuf => exact streamSetbuf_running strm pbuf

/-- Nor does a packet. -/
theorem processPacket_running (strm : PacketStream) (p : IsoPacket) :
    (processPacket strm p).1.running = strm.running := by
  rw [processPacket]
  split
  · rfl
  · split
    · rfl
    · dsimp only
      split
      · exact streamProcess_running
      · rw [frameCallback_running]
        exact streamProcess_running

/-- A packet that comes while `running` is clear is dropped. -/
theorem processPacket_of_not_running {strm : PacketStream} (h : strm.running = false)
    (p : IsoPacket) : processPacket strm p = (strm, none) := by
  rw [processPacket]
  simp [h]

/-! ### States and steps

A start function is two steps and a stop function is three, with the callbacks in between. What
`malloc` and libusb answer is in the arguments of the steps. -/

/-- How far the client's thread has come in starting or stopping the stream. -/
inductive Phase
  /-- No transfers. -/
  | stopped
  /-- The transfers are submitted, `running` is not set yet. -/
  | starting
  /-- No call is under way and the stream runs. -/
  | streaming
  /-- `running` is cleared, `fnusb_stop_iso` not yet called. -/
  | stopping
  /-- In the wait loop of `fnusb_stop_iso`. -/
  | draining
  deriving DecidableEq, Repr

/-- A camera stream with its transfers and, as history, the frame callbacks it made. -/
structure CameraStream where
  strm : PacketStream
  isoc : IsocStream
  phase : Phase
  frames : List FrameOut
  deriving DecidableEq, Repr

/-- A stream of a freshly opened device. -/
def CameraStream.zero : CameraStream where
  strm := .zero
  isoc := .zero
  phase := .stopped
  frames := []

/-- What `freenect_start_depth` or `freenect_start_video` calls `stream_init` and `fnusb_start_iso`
with, and what `malloc` and libusb answer. -/
structure StartArgs where
  pktSize : ℕ
  flag : UInt8
  rlen : ℕ
  plen : ℕ
  libMalloc : Ptr
  rawMalloc : Ptr
  results : List StartResult
  deriving DecidableEq, Repr

/-- The first lines of a start function, which it runs whatever the format is. -/
def setPacketFormat (strm : PacketStream) (pktSize : ℕ) (flag : UInt8) : PacketStream :=
  { strm with pktSize := pktSize, flag := flag, variableLength := false }

/-- The packet callback of a camera stream: the stream, and the frames delivered so far. -/
def packetCallback (c : PacketStream × List FrameOut) (p : IsoPacket) :
    PacketStream × List FrameOut :=
  ((processPacket c.1 p).1, c.2 ++ (processPacket c.1 p).2.toList)

namespace CameraStream

/-- What can happen to a stream. -/
inductive Action
  | refuse (pktSize : ℕ) (flag : UInt8)
  | start (args : StartArgs)
  | started
  | setbuf (pbuf : Ptr)
  | event (i : ℕ) (status : TransferStatus) (packets : List IsoPacket) (r : SubmitResult)
  | stop
  | cancel
  | finish
  deriving DecidableEq, Repr

/-- The stream after the callback of transfer `i`. -/
def onEvent (s : CameraStream) (i : ℕ) (status : TransferStatus) (packets : List IsoPacket)
    (r : SubmitResult) : CameraStream :=
  let o := isoCallback packetCallback s.isoc (s.strm, s.frames) i status packets r
  { s with isoc := o.1, strm := o.2.1, frames := o.2.2 }

/-- The stream after the first assignment of its stop function. -/
def beginStop (s : CameraStream) : CameraStream :=
  { s with strm := { s.strm with running := false }, phase := .stopping }

/-- The steps of a stream. -/
inductive Step : CameraStream → Action → CameraStream → Prop
  /-- A start function rejects the format or the resolution. -/
  | refuse {s : CameraStream} {pktSize : ℕ} {flag : UInt8} (stopped : s.phase = .stopped)
      (idle : s.strm.running = false) :
      Step s (.refuse pktSize flag) { s with strm := setPacketFormat s.strm pktSize flag }
  /-- A start function up to the end of `fnusb_start_iso`. -/
  | start {s : CameraStream} {args : StartArgs} (stopped : s.phase = .stopped)
      (idle : s.strm.running = false) :
      Step s (.start args) { s with
        strm := streamInit (setPacketFormat s.strm args.pktSize args.flag) args.rlen args.plen
          args.libMalloc args.rawMalloc
        isoc := startIso s.isoc args.results
        phase := .starting }
  /-- The end of a start function, after the register writes. -/
  | started {s : CameraStream} (starting : s.phase = .starting) :
      Step s .started { s with strm := { s.strm with running := true }, phase := .streaming }
  /-- `freenect_set_depth_buffer` or `freenect_set_video_buffer`. -/
  | setbuf {s : CameraStream} {pbuf : Ptr} :
      Step s (.setbuf pbuf) { s with strm := (streamSetbuf s.strm pbuf).1 }
  /-- libusb completes a transfer. -/
  | event {s : CameraStream} {i : ℕ} {status : TransferStatus} {packets : List IsoPacket}
      {r : SubmitResult} (inFlight : s.isoc.xfers[i]? = some .inFlight) :
      Step s (.event i status packets r) (s.onEvent i status packets r)
  /-- The beginning of a stop function. -/
  | stop {s : CameraStream} (streaming : s.phase = .streaming) (running : s.strm.running = true) :
      Step s .stop s.beginStop
  /-- `fnusb_stop_iso` up to its wait loop. -/
  | cancel {s : CameraStream} (stopping : s.phase = .stopping) :
      Step s .cancel { s with isoc := beginStopIso s.isoc, phase := .draining }
  /-- `fnusb_stop_iso` leaves its wait loop and frees the transfers and their buffer. The transfers
  stay in the state as they are: an event of one of them would now be a use of freed memory. -/
  | finish {s : CameraStream} (draining : s.phase = .draining)
      (done : ¬ s.isoc.deadXfers < s.isoc.numXfers) :
      Step s .finish { s with strm := (streamFreebufs s.strm).1, phase := .stopped }

/-- A stream of a fresh device and all it can do. -/
def machine : Machine CameraStream Action where
  init s := s = .zero
  step := Step

/-! ### What one callback does

The packets of a completed transfer are handled in one loop, so each fact about a packet is lifted
to the fold over them first. -/

variable {s t : CameraStream} {a : Action} {i : ℕ} {status : TransferStatus}
  {packets : List IsoPacket} {r : SubmitResult}

/-- All packets of a transfer leave `running` as it is. -/
theorem foldl_packetCallback_running (packets : List IsoPacket)
    (c : PacketStream × List FrameOut) :
    (packets.foldl packetCallback c).1.running = c.1.running := by
  induction packets generalizing c with
  | nil => rfl
  | cons p packets ih => rw [List.foldl_cons, ih, packetCallback, processPacket_running]

/-- Nothing reaches the client while `running` is clear. -/
theorem foldl_packetCallback_of_not_running {c : PacketStream × List FrameOut}
    (h : c.1.running = false) (packets : List IsoPacket) :
    packets.foldl packetCallback c = c := by
  induction packets with
  | nil => rfl
  | cons p packets ih =>
    have hp : packetCallback c p = c := by
      rw [packetCallback, processPacket_of_not_running h]
      simp
    rw [List.foldl_cons, hp, ih]

/-- So does the callback. -/
theorem onEvent_running : (s.onEvent i status packets r).strm.running = s.strm.running := by
  show (isoCallback packetCallback s.isoc (s.strm, s.frames) i status packets r).2.1.running = _
  obtain ⟨-, hstrm⟩ :=
    IsocStream.isoCallback_cases packetCallback s.isoc (s.strm, s.frames) i status packets r
  rcases hstrm with h | h
  · rw [h]
  · rw [h, foldl_packetCallback_running]

/-- **A callback calls no frame callback while `running` is clear.** -/
theorem onEvent_frames (h : s.strm.running = false) :
    (s.onEvent i status packets r).frames = s.frames := by
  show (isoCallback packetCallback s.isoc (s.strm, s.frames) i status packets r).2.2 = _
  obtain ⟨-, hstrm⟩ :=
    IsocStream.isoCallback_cases packetCallback s.isoc (s.strm, s.frames) i status packets r
  rcases hstrm with h' | h'
  · rw [h']
  · rw [h', foldl_packetCallback_of_not_running h]

/-! ### The invariant

A stream runs in the phase `streaming` and in no other, nothing is in flight while it is stopped,
and in the wait loop the flag is set that makes the transfers retire. -/

/-- What holds of a stream at any time. -/
structure StreamInv (s : CameraStream) : Prop where
  accounted : s.isoc.Accounted
  running_iff : s.strm.running = true ↔ s.phase = .streaming
  draining : s.phase = .draining → s.isoc.dead = true
  stopped : s.phase = .stopped → s.isoc.inFlight = 0

/-- A stream runs in one phase only. -/
theorem StreamInv.not_running (h : s.StreamInv) (hp : s.phase ≠ .streaming) :
    s.strm.running = false := by
  by_contra hrun
  exact hp (h.running_iff.1 (by simpa using hrun))

/-- A stopped stream has no transfer whose callback could be called. -/
theorem StreamInv.no_event (h : s.StreamInv) (hp : s.phase = .stopped) :
    s.isoc.xfers[i]? ≠ some .inFlight := by
  intro hi
  have hpos : 0 < s.isoc.inFlight := List.count_pos_iff.2 (List.mem_of_getElem? hi)
  have := h.stopped hp
  omega

/-- A fresh device. -/
theorem streamInv_zero : StreamInv .zero :=
  ⟨⟨rfl, rfl⟩, by decide, fun h ↦ (nomatch h), fun _ ↦ rfl⟩

/-- **Every step keeps the invariant.** -/
theorem Step.streamInv (h : Step s a t) (hs : s.StreamInv) : t.StreamInv := by
  cases h with
  | refuse stopped idle => exact ⟨hs.accounted, hs.running_iff, hs.draining, hs.stopped⟩
  | start stopped idle =>
    refine ⟨IsocStream.accounted_startIso _ _, ?_, fun hp ↦ (nomatch hp), fun hp ↦ nomatch hp⟩
    simp [setPacketFormat, idle]
  | started starting =>
    exact ⟨hs.accounted, by simp, fun hp ↦ (nomatch hp), fun hp ↦ nomatch hp⟩
  | setbuf =>
    refine ⟨hs.accounted, ?_, hs.draining, hs.stopped⟩
    rw [streamSetbuf_running]
    exact hs.running_iff
  | event inFlight =>
    refine ⟨IsocStream.accounted_isoCallback hs.accounted inFlight, ?_, fun hp ↦ ?_, fun hp ↦ ?_⟩
    · rw [onEvent_running]
      exact hs.running_iff
    · exact IsocStream.isoCallback_dead.trans (hs.draining hp)
    · exact absurd inFlight (hs.no_event hp)
  | stop streaming running =>
    exact ⟨hs.accounted, by simp [beginStop], fun hp ↦ (nomatch hp), fun hp ↦ nomatch hp⟩
  | cancel stopping =>
    refine ⟨⟨hs.accounted.length, hs.accounted.count⟩, ?_, fun _ ↦ rfl, fun hp ↦ nomatch hp⟩
    simpa [stopping] using hs.running_iff
  | finish draining done =>
    -- the loop has ended, so the account says that nothing is in flight
    refine ⟨hs.accounted, ?_, fun hp ↦ (nomatch hp),
      fun _ ↦ hs.accounted.inFlight_eq_zero_iff.2 done⟩
    simpa [streamFreebufs, draining] using hs.running_iff

/-- **The invariant holds in every reachable state.** -/
theorem streamInv_of_reachable (h : machine.Reachable s) : s.StreamInv :=
  machine.invariant (fun _ hs ↦ hs ▸ streamInv_zero) (fun _ _ _ hs hst ↦ hst.streamInv hs) h

/-! ### Runs

What has been shown of one step is carried over a path by the induction rule for paths. -/

/-- Only the end of a start function sets `running`, and a step from a stream that does not run
calls no frame callback. -/
theorem Step.frames_of_not_running (h : Step s a t) (hrun : s.strm.running = false)
    (ha : a ≠ .started) : t.strm.running = false ∧ t.frames = s.frames := by
  cases h with
  | refuse stopped idle => exact ⟨idle, rfl⟩
  | start stopped idle =>
    refine ⟨?_, rfl⟩
    rw [streamInit_running]
    exact idle
  | started starting => exact absurd rfl ha
  | setbuf => exact ⟨by rw [streamSetbuf_running]; exact hrun, rfl⟩
  | event inFlight => exact ⟨by rw [onEvent_running]; exact hrun, onEvent_frames hrun⟩
  | stop streaming running => exact ⟨rfl, rfl⟩
  | cancel stopping => exact ⟨hrun, rfl⟩
  | finish draining done => exact ⟨hrun, rfl⟩

/-- No frame callback is called from a stop until the end of the next start. -/
theorem frames_of_path {as : List Action} (h : machine.Path s as t)
    (hrun : s.strm.running = false) (has : Action.started ∉ as) : t.frames = s.frames := by
  refine (h.invariant_on (A := fun a ↦ a ≠ .started)
    (I := fun u ↦ u.strm.running = false ∧ u.frames = s.frames) ?_ ⟨hrun, rfl⟩ ?_).2
  · intro u a v hu ha hstep
    have hv := Step.frames_of_not_running hstep hu.1 ha
    exact ⟨hv.1, hv.2.trans hu.2⟩
  · rintro a ha rfl
    exact has ha

/-- A stream stays stopped until the next start. -/
theorem Step.stopped (h : Step s a t) (hp : s.phase = .stopped)
    (ha : ∀ args, a ≠ .start args) : t.phase = .stopped := by
  cases h with
  | refuse stopped idle => exact hp
  | start stopped idle => exact absurd rfl (ha _)
  | started starting => rw [hp] at starting; cases starting
  | setbuf => exact hp
  | event inFlight => exact hp
  | stop streaming running => rw [hp] at streaming; cases streaming
  | cancel stopping => rw [hp] at stopping; cases stopping
  | finish draining done => rfl

/-- A stream stays stopped along any path without a start. -/
theorem stopped_of_path {as : List Action} (h : machine.Path s as t) (hp : s.phase = .stopped)
    (has : ∀ args, Action.start args ∉ as) : t.phase = .stopped :=
  h.invariant_on (A := fun a ↦ ∀ args, a ≠ .start args) (I := fun u ↦ u.phase = .stopped)
    (fun _ _ _ hu ha hstep ↦ Step.stopped hstep hu ha) hp
    fun _ ha args hargs ↦ has args (hargs ▸ ha)

/-- In the wait loop every event retires a transfer. -/
theorem inFlight_of_draining (hs : s.StreamInv) (hp : s.phase = .draining)
    (hi : s.isoc.xfers[i]? = some .inFlight) :
    (s.onEvent i status packets r).isoc.inFlight + 1 = s.isoc.inFlight := by
  show (isoCallback packetCallback s.isoc (s.strm, s.frames) i status packets r).1.inFlight + 1 = _
  rw [IsocStream.isoCallback_of_dead (hs.draining hp)]
  exact IsocStream.count_set_idle hi

/-- While the wait loop has to wait, there is a transfer to wait for. -/
theorem StreamInv.exists_inFlight (hs : s.StreamInv)
    (hlt : s.isoc.deadXfers < s.isoc.numXfers) :
    ∃ i : ℕ, s.isoc.xfers[i]? = some Xfer.inFlight := by
  have hpos : 0 < s.isoc.xfers.count .inFlight := by
    have := hs.accounted.count
    show 0 < s.isoc.inFlight
    omega
  obtain ⟨i, hi, hx⟩ := List.getElem_of_mem (List.count_pos_iff.1 hpos)
  exact ⟨i, by rw [List.getElem?_eq_getElem hi, hx]⟩

/-- **The wait loop of `fnusb_stop_iso` ends**: one event for each transfer in flight. -/
theorem exists_drained (n : ℕ) (hn : s.isoc.inFlight = n) (hs : s.StreamInv)
    (hp : s.phase = .draining) :
    ∃ as t, machine.Path s as t ∧ (∀ a ∈ as, ∃ i, a = .event i .cancelled [] .ok) ∧
      t.phase = .draining ∧ ¬ t.isoc.deadXfers < t.isoc.numXfers := by
  induction n generalizing s with
  | zero =>
    exact ⟨[], s, .nil s, by simp, hp, hs.accounted.inFlight_eq_zero_iff.1 hn⟩
  | succ n ih =>
    have hlt : s.isoc.deadXfers < s.isoc.numXfers := by
      have := hs.accounted.count
      omega
    obtain ⟨i, hi⟩ := hs.exists_inFlight hlt
    have hstep : Step s (.event i .cancelled [] .ok) (s.onEvent i .cancelled [] .ok) := .event hi
    have hcount : (s.onEvent i .cancelled [] .ok).isoc.inFlight + 1 = s.isoc.inFlight :=
      inFlight_of_draining hs hp hi
    obtain ⟨as, t, hpath, has, ht⟩ := ih (by omega) (hstep.streamInv hs) hp
    refine ⟨_ :: as, t, .cons hstep hpath, ?_, ht⟩
    intro a ha
    rcases List.mem_cons.1 ha with rfl | ha
    · exact ⟨i, rfl⟩
    · exact has a ha

/-- **The accounting of the transfers.** In every state a stream can reach:

* the transfers in flight and the dead ones are all of them, and never too many are dead;
* while the wait loop of `fnusb_stop_iso` has to wait, some transfer is in flight to wait for, and
  each event leaves one less of them;
* when it ends none is, and until the next start no transfer is ever delivered;
* after a stop function has cleared `running`, no frame callback is called until the stream has
  been started again. -/
theorem transfers_accounted (hs : machine.Reachable s) :
    s.isoc.inFlight + s.isoc.deadXfers = s.isoc.numXfers ∧
      s.isoc.deadXfers ≤ s.isoc.numXfers ∧
      (s.isoc.deadXfers < s.isoc.numXfers → ∃ i : ℕ, s.isoc.xfers[i]? = some Xfer.inFlight) ∧
      (s.phase = .draining → ∀ i status packets r t, Step s (.event i status packets r) t →
        t.isoc.inFlight + 1 = s.isoc.inFlight) ∧
      (∀ t, Step s .finish t → t.isoc.inFlight = 0 ∧
        ∀ as u, machine.Path t as u → (∀ args, Action.start args ∉ as) →
          ∀ i status packets r v, ¬ Step u (.event i status packets r) v) ∧
      ∀ t, Step s .stop t → ∀ as u, machine.Path t as u → Action.started ∉ as →
        u.frames = s.frames := by
  have hinv := streamInv_of_reachable hs
  -- the first three parts are read off the invariant; the last three are about the steps from here
  refine ⟨hinv.accounted.count, hinv.accounted.deadXfers_le, hinv.exists_inFlight,
    fun hp i status packets r t ht ↦ ?_, fun t ht ↦ ?_, fun t ht as u hu has ↦ ?_⟩
  · cases ht with
    | event inFlight => exact inFlight_of_draining hinv hp inFlight
  · have htinv := ht.streamInv hinv
    have hphase : t.phase = .stopped := by cases ht; rfl
    refine ⟨htinv.stopped hphase, fun as u hu has i status packets r v hv ↦ ?_⟩
    have huinv : u.StreamInv :=
      hu.invariant (I := StreamInv) (fun _ _ _ h hst ↦ Step.streamInv hst h) htinv
    cases hv with
    | event inFlight => exact huinv.no_event (stopped_of_path hu hphase has) inFlight
  · have hst : t.strm.running = false ∧ t.frames = s.frames := by
      cases ht
      exact ⟨rfl, rfl⟩
    rw [frames_of_path hu hst.1 has, hst.2]

/-- A stream that has just been started. -/
def running (args : StartArgs) : CameraStream where
  strm := { streamInit (setPacketFormat .zero args.pktSize args.flag) args.rlen args.plen
    args.libMalloc args.rawMalloc with running := true }
  isoc := startIso .zero args.results
  phase := .streaming
  frames := []

/-- The two steps that start a stream. -/
theorem path_running (args : StartArgs) :
    machine.Path .zero [.start args, .started] (running args) :=
  .cons (.start rfl rfl) (.cons (.started rfl) (.nil _))

/-- A stream that has been started is reachable. -/
theorem reachable_running (args : StartArgs) : machine.Reachable (running args) :=
  (Machine.Reachable.init rfl).path (path_running args)

/-- A depth stream of two transfers, one of which libusb could not allocate. -/
def tinyArgs : StartArgs where
  pktSize := 1748
  flag := 0x70
  rlen := 422400
  plen := 614400
  libMalloc := 1
  rawMalloc := 2
  results := [.submitted .ok, .allocFailed]

/-- One of its transfers is in flight and one is dead; stopped, it delivers nothing. -/
theorem transfers_accounted_tiny :
    (running tinyArgs).isoc.inFlight = 1 ∧
      (running tinyArgs).isoc.inFlight + (running tinyArgs).isoc.deadXfers = 2 ∧
      ∀ t, Step (running tinyArgs) .stop t → ∀ as u, machine.Path t as u → Action.started ∉ as →
        u.frames = [] := by
  obtain ⟨hcount, -, -, -, -, hframes⟩ := transfers_accounted (reachable_running tinyArgs)
  exact ⟨rfl, hcount, hframes⟩

end CameraStream

end Freenect
