import Freenect.Sync.Kinect

/-!
# What a change of format comes to

`change_video_format` and `change_depth_format` go through six steps and look at the result of one.
What they leave behind is said for both at once: if no ring can be allocated for the format, a
stopped stream without a ring (`Rejected`), and else a ring that is labelled with the mode, whatever
has become of the stream (`Changed`). On the device a change is four calls, and what these come to
(`CameraDevice.run_change`) is put together from what each does to its stream. `serves_iff` gives
the exact condition under which the label is right.

The device sees four calls, stop, set the mode, set the buffer and start, and each is described by
what it does to the stream it is about and by what it leaves alone. The description is by
`StreamKind`, with one lemma for each call (`step_stop`, `step_setMode`, `step_setBuffer`,
`step_start`), so that only these look at the difference between the two streams.

That a mode is `Accepted` depends on the other stream: high-resolution infrared is refused next to
depth. For the depth stream itself nothing next to it matters (`accepted_congr`).
-/

namespace Freenect

namespace FormatAnswers

/-- `malloc` has three new blocks for the ring of a stream. -/
def RingSucceeds (a : FormatAnswers) (heap : Heap) : StreamKind → Prop
  | .video => a.video.ring.Succeeds heap
  | .depth => a.depth.ring.Succeeds heap

instance (a : FormatAnswers) (heap : Heap) : DecidablePred (a.RingSucceeds heap)
  | .video => inferInstanceAs (Decidable (a.video.ring.Succeeds heap))
  | .depth => inferInstanceAs (Decidable (a.depth.ring.Succeeds heap))

variable (a : FormatAnswers)

/-- The call that sets a mode. -/
def setMode : Mode → CameraDevice.Call
  | .video res fmt => .setVideoMode (findVideoMode a.video.junk res fmt).reserved
  | .depth res fmt => .setDepthMode (findDepthMode a.depth.junk res fmt).reserved

/-- The call that starts a stream. -/
def start : StreamKind → CameraDevice.Call
  | .video => .startVideo a.video.start
  | .depth => .startDepth a.depth.start a.tables

/-- The blocks of a new ring, if `malloc` succeeds. -/
def ringPtrs : StreamKind → List Ptr
  | .video => [a.video.ring.ptr0, a.video.ring.ptr1, a.video.ring.ptr2]
  | .depth => [a.depth.ring.ptr0, a.depth.ring.ptr1, a.depth.ring.ptr2]

end FormatAnswers

/-- The call that stops a stream. -/
def CameraDevice.Call.stop : StreamKind → CameraDevice.Call
  | .video => .stopVideo
  | .depth => .stopDepth

/-- The call that sets a buffer. -/
def CameraDevice.Call.setBuffer (buf : Ptr) : StreamKind → CameraDevice.Call
  | .video => .setVideoBuffer buf
  | .depth => .setDepthBuffer buf

/-- A start function goes on with the mode; `depthRunning` is whether the depth stream runs. -/
def Mode.Accepted (depthRunning : Bool) : Mode → Prop
  | .video res fmt => videoAccepted fmt res depthRunning = true
  | .depth _ fmt => fmt ≠ .dummy

/-- The mode is high-resolution infrared, which cannot be had next to depth. -/
def Mode.HighResIr : Mode → Prop
  | .video res fmt => res = .high ∧ fmt.IsIr
  | .depth .. => False

instance : DecidablePred VideoFormat.IsIr := fun fmt ↦
  inferInstanceAs (Decidable (fmt = .ir8Bit ∨ fmt = .ir10Bit ∨ fmt = .ir10BitPacked))

instance : DecidablePred Mode.HighResIr
  | .video _ _ => inferInstanceAs (Decidable (_ ∧ _))
  | .depth _ _ => inferInstanceAs (Decidable False)

/-- Of the modes that the device has, the start functions refuse high-resolution infrared next to
depth. -/
theorem Mode.accepted_iff {m : Mode} (hsup : m.Supported) (depthRunning : Bool) :
    m.Accepted depthRunning ↔ ¬ (m.HighResIr ∧ depthRunning = true) := by
  match m with
  | .video res fmt =>
    rw [Supported] at hsup
    rw [Accepted, HighResIr]
    revert hsup
    cases res <;> cases fmt <;> cases depthRunning <;> decide
  | .depth res fmt =>
    refine iff_of_true (fun hdummy ↦ ?_) fun h ↦ h.1
    revert hsup
    rw [hdummy]
    cases res <;> decide

/-! ### The two outcomes

A result is the device and its rings, the heap, and what the function returned. What the two
outcomes have in common is `Apart`. -/

section Outcomes

variable (k : SyncKinect) (heap : Heap) (a : FormatAnswers) (m : Mode)

/-- What does not change: the other stream and its ring. -/
structure Apart (o : SyncKinect × Heap × ℤ) : Prop where
  ring : ∀ i, i ≠ m.kind → o.1.ring i = k.ring i
  stream : ∀ i, i ≠ m.kind → o.1.dev.stream i = k.dev.stream i
  mode : ∀ i, i ≠ m.kind → o.1.dev.mode i = k.dev.mode i

/-- No ring can be allocated: the stream is stopped and has none. -/
structure Rejected (o : SyncKinect × Heap × ℤ) : Prop where
  apart : Apart k m o
  ring : o.1.ring m.kind = .empty
  heap : o.2.1 = (k.ring m.kind).free heap
  running : (o.1.dev.stream m.kind).strm.running = false
  mode : o.1.dev.mode m.kind = k.dev.mode m.kind

/-- A ring is allocated, and the stream set up and started, as far as that succeeds. -/
structure Changed (o : SyncKinect × Heap × ℤ) : Prop where
  apart : Apart k m o
  label : o.1.Labelled m
  notValid : (o.1.ring m.kind).valid = false
  grown : ∃ sz, (m.Supported → sz = m.bytes) ∧
    ((k.ring m.kind).free heap).Grown o.2.1 (o.1.ring m.kind).bufs sz
  bufs : (∀ p ∈ (o.1.ring m.kind).bufs, p ≠ NULL) ↔
    a.RingSucceeds ((k.ring m.kind).free heap) m.kind
  mode : (k.dev.mode m.kind).Supported →
    (o.1.dev.mode m.kind).Supported ∧ (m.Supported → o.1.dev.mode m.kind = m)
  running : (o.1.dev.stream m.kind).strm.running = true ↔
    (o.1.dev.mode m.kind).Accepted k.dev.depth.strm.running
  usrBuf : (o.1.dev.stream m.kind).strm.usrBuf = (o.1.ring m.kind).buf2
  procBuf : (o.1.dev.stream m.kind).strm.running = true → (o.1.ring m.kind).buf2 ≠ NULL →
    (o.1.dev.stream m.kind).strm.procBuf = (o.1.ring m.kind).buf2

end Outcomes

/-! ### The calls on the device

The start functions and the functions that set a mode are described first by what they do not
change, and then together. -/

section Device

variable {s : CameraDevice} {i : StreamKind}

/-- The stream that a call is about. -/
def CameraDevice.Call.kind : Call → StreamKind
  | .setVideoMode _ | .setVideoBuffer _ | .startVideo _ | .stopVideo => .video
  | .setDepthMode _ | .setDepthBuffer _ | .startDepth _ _ | .stopDepth => .depth

/-- Setting the mode of a stream leaves all else. -/
theorem setVideoMode_frame (s : CameraDevice) (reserved : ℕ) :
    (s.setVideoMode reserved).1.video = s.video ∧ (s.setVideoMode reserved).1.depth = s.depth ∧
      (s.setVideoMode reserved).1.mode .depth = s.mode .depth := by
  rw [CameraDevice.setVideoMode]
  split
  · exact ⟨rfl, rfl, rfl⟩
  · split
    · exact ⟨rfl, rfl, rfl⟩
    · exact ⟨rfl, rfl, rfl⟩

theorem setDepthMode_frame (s : CameraDevice) (reserved : ℕ) :
    (s.setDepthMode reserved).1.depth = s.depth ∧ (s.setDepthMode reserved).1.video = s.video ∧
      (s.setDepthMode reserved).1.mode .video = s.mode .video := by
  rw [CameraDevice.setDepthMode]
  split
  · exact ⟨rfl, rfl, rfl⟩
  · split
    · exact ⟨rfl, rfl, rfl⟩
    · exact ⟨rfl, rfl, rfl⟩

/-- Starting a stream leaves the other stream and both modes. -/
theorem startVideo_frame (s : CameraDevice) (a : StartAnswers VideoFormat) :
    (s.startVideo a).1.depth = s.depth ∧ (s.startVideo a).1.mode = s.mode := by
  rw [CameraDevice.startVideo]
  split
  · exact ⟨rfl, rfl⟩
  · dsimp only
    split
    · exact ⟨rfl, rfl⟩
    · exact ⟨rfl, rfl⟩

theorem startDepth_frame (s : CameraDevice) (a : StartAnswers DepthFormat) (t : TableAnswers) :
    (s.startDepth a t).1.video = s.video ∧ (s.startDepth a t).1.mode = s.mode := by
  rw [CameraDevice.startDepth]
  split
  · exact ⟨rfl, rfl⟩
  · dsimp only
    split
    · exact ⟨rfl, rfl⟩
    · exact ⟨rfl, rfl⟩

namespace CameraDevice

/-- **A call leaves the other stream** and its mode. -/
theorem step_apart (s : CameraDevice) (call : Call) (hi : i ≠ call.kind) :
    (s.step call).1.stream i = s.stream i ∧ (s.step call).1.mode i = s.mode i := by
  cases call with
  | setVideoMode reserved =>
    obtain ⟨-, hdepth, hmode⟩ := setVideoMode_frame s reserved
    cases i with
    | video => exact absurd rfl hi
    | depth => exact ⟨hdepth, hmode⟩
  | setDepthMode reserved =>
    obtain ⟨-, hvideo, hmode⟩ := setDepthMode_frame s reserved
    cases i with
    | video => exact ⟨hvideo, hmode⟩
    | depth => exact absurd rfl hi
  | startVideo a =>
    obtain ⟨hdepth, hmode⟩ := startVideo_frame s a
    cases i with
    | video => exact absurd rfl hi
    | depth => exact ⟨hdepth, congrFun hmode .depth⟩
  | startDepth a t =>
    obtain ⟨hvideo, hmode⟩ := startDepth_frame s a t
    cases i with
    | video => exact ⟨hvideo, congrFun hmode .video⟩
    | depth => exact absurd rfl hi
  | setVideoBuffer | setDepthBuffer | stopVideo | stopDepth =>
    cases i <;> first | exact ⟨rfl, rfl⟩ | exact absurd rfl hi

/-- Calls on one stream leave the other. -/
theorem run_apart {kind : StreamKind} (hi : i ≠ kind) :
    ∀ (s : CameraDevice) (calls : List Call), (∀ call ∈ calls, call.kind = kind) →
      (Mealy.run step s calls).stream i = s.stream i ∧ (Mealy.run step s calls).mode i = s.mode i
  | _, [], _ => ⟨rfl, rfl⟩
  | s, call :: calls, hcalls => by
    obtain ⟨hcall, hrest⟩ := List.forall_mem_cons.1 hcalls
    obtain ⟨hstream, hmode⟩ := s.step_apart call (hcall.symm ▸ hi)
    obtain ⟨hstreams, hmodes⟩ := run_apart hi (s.step call).1 calls hrest
    exact ⟨hstreams.trans hstream, hmodes.trans hmode⟩

/-- Stopping a stream leaves its mode. -/
theorem step_stop (s : CameraDevice) (kind : StreamKind) :
    (((s.step (.stop kind)).1.stream kind).strm.running = false) ∧
      (s.step (.stop kind)).1.mode kind = s.mode kind := by
  cases kind with
  | video => exact ⟨OwnedStream.stop_running, rfl⟩
  | depth => exact ⟨OwnedStream.stop_running, rfl⟩

/-- A mode is set of a stopped stream if it is supported, and the stream itself is left alone. -/
theorem step_setMode {m : Mode} (hrun : (s.stream m.kind).strm.running = false)
    (a : FormatAnswers) :
    (s.step (a.setMode m)).1.stream = s.stream ∧ ((s.mode m.kind).Supported →
      ((s.step (a.setMode m)).1.mode m.kind).Supported ∧
        (m.Supported → (s.step (a.setMode m)).1.mode m.kind = m)) := by
  cases m with
  | video res fmt =>
    obtain ⟨hvideo, hdepth, -⟩ :=
      setVideoMode_frame s (findVideoMode a.video.junk res fmt).reserved
    refine ⟨funext fun i ↦ ?_, fun hsup ↦ setVideoMode_mode hrun hsup a.video.junk res fmt⟩
    cases i
    exacts [hvideo, hdepth]
  | depth res fmt =>
    obtain ⟨hdepth, hvideo, -⟩ :=
      setDepthMode_frame s (findDepthMode a.depth.junk res fmt).reserved
    refine ⟨funext fun i ↦ ?_, fun hsup ↦ setDepthMode_mode hrun hsup a.depth.junk res fmt⟩
    cases i
    exacts [hvideo, hdepth]

/-- A stopped stream takes any buffer. -/
theorem step_setBuffer {kind : StreamKind} (hrun : (s.stream kind).strm.running = false)
    (p : Ptr) :
    ((s.step (.setBuffer p kind)).1.stream kind).strm.usrBuf = p ∧
      ((s.step (.setBuffer p kind)).1.stream kind).strm.running = false ∧
      (s.step (.setBuffer p kind)).1.mode = s.mode := by
  have hset : ∀ {o : OwnedStream}, o.strm.running = false → (o.setbuf p).1.strm.usrBuf = p := by
    intro o ho
    have hstrm : streamSetbuf o.strm p = ({ o.strm with usrBuf := p }, 0) := by
      exact if_pos (by rw [ho]; decide)
    show (streamSetbuf o.strm p).1.usrBuf = p
    rw [hstrm]
  cases kind with
  | video => exact ⟨hset hrun, OwnedStream.setbuf_running.trans hrun, rfl⟩
  | depth => exact ⟨hset hrun, OwnedStream.setbuf_running.trans hrun, rfl⟩

/-- **Starting a stopped stream.** -/
theorem step_start {kind : StreamKind} (hrun : (s.stream kind).strm.running = false)
    (a : FormatAnswers) :
    (((s.step (a.start kind)).1.stream kind).strm.running = true ↔
      (s.mode kind).Accepted s.depth.strm.running) ∧
    (((s.step (a.start kind)).1.stream kind).strm.running = true →
      (s.stream kind).strm.usrBuf ≠ NULL →
      ((s.step (a.start kind)).1.stream kind).strm.procBuf = (s.stream kind).strm.usrBuf) ∧
    ((s.step (a.start kind)).1.stream kind).strm.usrBuf = (s.stream kind).strm.usrBuf ∧
    (s.step (a.start kind)).1.mode = s.mode := by
  cases kind with
  | video =>
    obtain ⟨hstart, hfills, hkept⟩ := startVideo_running hrun a.video.start
    exact ⟨hstart, hfills, hkept, (startVideo_frame s a.video.start).2⟩
  | depth =>
    obtain ⟨hstart, hfills, hkept⟩ := startDepth_running hrun a.depth.start a.tables
    exact ⟨hstart, hfills, hkept, (startDepth_frame s a.depth.start a.tables).2⟩

/-- The four calls of a change of format are on one stream. -/
theorem kind_calls (a : FormatAnswers) (m : Mode) (p : Ptr) :
    ∀ call ∈ [.stop m.kind, a.setMode m, .setBuffer p m.kind, a.start m.kind],
      call.kind = m.kind := by
  intro call hcall
  simp only [List.mem_cons, List.not_mem_nil, or_false] at hcall
  rcases hcall with rfl | rfl | rfl | rfl <;> cases m <;> rfl

/-- Whether the depth stream runs matters to the video stream only. -/
theorem accepted_congr {m : Mode} {t : CameraDevice}
    (h : ∀ i, i ≠ m.kind → t.stream i = s.stream i) :
    m.Accepted t.depth.strm.running ↔ m.Accepted s.depth.strm.running := by
  cases m with
  | video res fmt =>
    have hdepth : t.depth = s.depth := h .depth (fun heq ↦ nomatch heq)
    rw [hdepth]
  | depth res fmt => exact Iff.rfl

/-- **The four calls of a change of format**: the stream gets the mode and the buffer, and runs if
the mode is accepted. -/
theorem run_change (s : CameraDevice) (a : FormatAnswers) (m : Mode) (p : Ptr) {t : CameraDevice}
    (ht : t = Mealy.run step s
      [.stop m.kind, a.setMode m, .setBuffer p m.kind, a.start m.kind]) :
    ((s.mode m.kind).Supported →
      (t.mode m.kind).Supported ∧ (m.Supported → t.mode m.kind = m)) ∧
    ((t.stream m.kind).strm.running = true ↔
      (t.mode m.kind).Accepted s.depth.strm.running) ∧
    (t.stream m.kind).strm.usrBuf = p ∧
    ((t.stream m.kind).strm.running = true → p ≠ NULL →
      (t.stream m.kind).strm.procBuf = p) := by
  have hother := fun i (hi : i ≠ m.kind) ↦ (run_apart hi s
    [.stop m.kind, a.setMode m, .setBuffer p m.kind] fun call hcall ↦
      kind_calls a m p call (List.mem_append_left [a.start m.kind] hcall)).1
  -- the four calls, one after the other, each on the stream that the one before has left
  obtain ⟨hstopped, hmode₁⟩ := s.step_stop m.kind
  obtain ⟨hstream, hmode₂⟩ := step_setMode hstopped a
  rw [hmode₁] at hmode₂
  rw [← hstream] at hstopped
  obtain ⟨husr, hrun, hmode₃⟩ := step_setBuffer hstopped p
  obtain ⟨hstart, hfills, hkept, hmode₄⟩ := step_start hrun a
  simp only [Mealy.run_cons, Mealy.run_nil] at ht hother
  rw [← ht] at hstart hfills hkept hmode₄
  rw [husr] at hfills hkept
  rw [← hmode₃, ← hmode₄] at hmode₂
  -- the depth stream runs as before, unless it is the one that is changed
  have hkind : (t.mode m.kind).kind = m.kind := by cases m <;> rfl
  rw [← hmode₄, accepted_congr fun i hi ↦ hother i (hkind ▸ hi)] at hstart
  exact ⟨hmode₂, hstart, hkept, hfills⟩

end CameraDevice

end Device

/-! ### The ring

The allocation looks at the format, and for the size at the whole mode. A ring that is allocated for
a mode that the device does not have gets a size from whatever the lookup returns. -/

section Ring

variable {m : Mode} {res : Resolution}

/-- A ring is allocated for a format that the function knows. -/
theorem allocBufferRingVideo_of_allocated {fmt : VideoFormat} (h : (Mode.video res fmt).Allocated)
    (buf : BufferRing) (heap : Heap) (a : RingAnswers VideoFormat) :
    allocBufferRingVideo res fmt buf heap a =
      buf.alloc heap (some (findVideoMode a.junk res fmt).bytes) res.toNat fmt.toNat a := by
  obtain ⟨hrgb, hraw, hdummy⟩ := h
  cases fmt <;> first | rfl | contradiction

/-- A ring is allocated for no other format. -/
theorem allocBufferRingVideo_of_not_allocated {fmt : VideoFormat}
    (h : ¬ (Mode.video res fmt).Allocated) (buf : BufferRing) (heap : Heap)
    (a : RingAnswers VideoFormat) :
    allocBufferRingVideo res fmt buf heap a = (buf, heap, -1) := by
  rw [Mode.Allocated] at h
  revert h
  cases fmt <;> first | exact fun _ ↦ rfl | exact fun h ↦ absurd ⟨by decide, by decide, by decide⟩ h

/-- The function for depth knows its own formats. -/
theorem allocBufferRingDepth_of_allocated {fmt : DepthFormat} (h : (Mode.depth res fmt).Allocated)
    (buf : BufferRing) (heap : Heap) (a : RingAnswers DepthFormat) :
    allocBufferRingDepth res fmt buf heap a =
      buf.alloc heap (some (findDepthMode a.junk res fmt).bytes) res.toNat fmt.toNat a := by
  rw [Mode.Allocated] at h
  cases fmt <;> first | rfl | contradiction

/-- What `malloc` returned for a ring. -/
theorem BufferRing.mem_alloc_bufs {φ : Type} (buf : BufferRing) (heap : Heap) (sz : ℕ)
    (res fmt : ℤ) (r : RingAnswers φ) (p : Ptr)
    (hp : p ∈ (buf.alloc heap (some sz) res fmt r).1.bufs) (hne : p ≠ NULL) :
    p ∈ [r.ptr0, r.ptr1, r.ptr2] := by
  have hallocate : ∀ (heap : Heap) (q : Ptr), (heap.allocate q sz).2 = p → p = q := by
    intro heap q hq
    rw [Heap.allocate] at hq
    split at hq
    exacts [hq.symm, absurd hq.symm hne]
  simp only [List.mem_cons, List.not_mem_nil, or_false]
  exact (BufferRing.mem_bufs.1 hp).imp (fun h ↦ hallocate _ _ h.symm)
    (Or.imp (fun h ↦ hallocate _ _ h.symm) fun h ↦ hallocate _ _ h.symm)

variable (k : SyncKinect) (heap : Heap) (a : FormatAnswers)

/-- **The new ring**: labelled with the mode, without a frame, and of new blocks. -/
theorem changeFormat_ring (h : m.Allocated) :
    (∀ i, i ≠ m.kind → (k.changeFormat heap a m).1.ring i = k.ring i) ∧
    (k.changeFormat heap a m).1.Labelled m ∧
    ((k.changeFormat heap a m).1.ring m.kind).valid = false ∧
    (∃ sz, (m.Supported → sz = m.bytes) ∧ ((k.ring m.kind).free heap).Grown
      (k.changeFormat heap a m).2.1 ((k.changeFormat heap a m).1.ring m.kind).bufs sz) ∧
    ((∀ p ∈ ((k.changeFormat heap a m).1.ring m.kind).bufs, p ≠ NULL) ↔
      a.RingSucceeds ((k.ring m.kind).free heap) m.kind) ∧
    ∀ p ∈ ((k.changeFormat heap a m).1.ring m.kind).bufs, p ≠ NULL → p ∈ a.ringPtrs m.kind := by
  cases m with
  | video res fmt =>
    obtain ⟨-, hfmt, hres, hvalid, hgrown⟩ := BufferRing.alloc_some .empty (k.video.free heap)
      (findVideoMode a.video.ring.junk res fmt).bytes res.toNat fmt.toNat a.video.ring
    have hbufs := BufferRing.alloc_bufs_iff .empty (k.video.free heap)
      (findVideoMode a.video.ring.junk res fmt).bytes res.toNat fmt.toNat a.video.ring
    have hptrs := BufferRing.mem_alloc_bufs .empty (k.video.free heap)
      (findVideoMode a.video.ring.junk res fmt).bytes res.toNat fmt.toNat a.video.ring
    rw [SyncKinect.changeFormat, SyncKinect.changeVideoFormat]
    dsimp only
    rw [allocBufferRingVideo_of_allocated h]
    refine ⟨fun i hi ↦ ?_, ⟨hfmt, hres⟩, hvalid,
      ⟨_, fun hsup ↦ (findVideoMode_of_supported hsup _).2, hgrown⟩, hbufs, hptrs⟩
    cases i <;> first | rfl | exact absurd rfl hi
  | depth res fmt =>
    obtain ⟨-, hfmt, hres, hvalid, hgrown⟩ := BufferRing.alloc_some .empty (k.depth.free heap)
      (findDepthMode a.depth.ring.junk res fmt).bytes res.toNat fmt.toNat a.depth.ring
    have hbufs := BufferRing.alloc_bufs_iff .empty (k.depth.free heap)
      (findDepthMode a.depth.ring.junk res fmt).bytes res.toNat fmt.toNat a.depth.ring
    have hptrs := BufferRing.mem_alloc_bufs .empty (k.depth.free heap)
      (findDepthMode a.depth.ring.junk res fmt).bytes res.toNat fmt.toNat a.depth.ring
    rw [SyncKinect.changeFormat, SyncKinect.changeDepthFormat]
    dsimp only
    rw [allocBufferRingDepth_of_allocated h]
    refine ⟨fun i hi ↦ ?_, ⟨hfmt, hres⟩, hvalid,
      ⟨_, fun hsup ↦ (findDepthMode_of_supported hsup _).2, hgrown⟩, hbufs, hptrs⟩
    cases i <;> first | rfl | exact absurd rfl hi

/-- **A change of format is four calls** on the device. -/
theorem changeFormat_calls (h : m.Allocated) :
    (k.changeFormat heap a m).1.dev = Mealy.run CameraDevice.step k.dev
      [.stop m.kind, a.setMode m, .setBuffer ((k.changeFormat heap a m).1.ring m.kind).buf2 m.kind,
        a.start m.kind] := by
  cases m with
  | video res fmt =>
    rw [SyncKinect.changeFormat, SyncKinect.changeVideoFormat]
    dsimp only
    rw [allocBufferRingVideo_of_allocated h]
    rfl
  | depth res fmt =>
    rw [SyncKinect.changeFormat, SyncKinect.changeDepthFormat]
    dsimp only
    rw [allocBufferRingDepth_of_allocated h]
    rfl

end Ring

/-! ### Both streams -/

section Both

variable (k : SyncKinect) (heap : Heap) (a : FormatAnswers)

/-- Without a ring the device is only stopped. -/
theorem changeFormat_of_not_allocated {m : Mode} (h : ¬ m.Allocated) :
    k.changeFormat heap a m =
      ({ k.withRing m.kind .empty with dev := (k.dev.step (.stop m.kind)).1 },
        (k.ring m.kind).free heap, -1) := by
  match m with
  | .video res fmt =>
    rw [SyncKinect.changeFormat, SyncKinect.changeVideoFormat]
    dsimp only
    rw [allocBufferRingVideo_of_not_allocated h]
    rfl
  | .depth res fmt =>
    obtain rfl : fmt = .dummy := not_not.1 h
    rfl

/-- **Without a ring** nothing but the stop has been done. -/
theorem changeFormat_rejected {m : Mode} (h : ¬ m.Allocated) :
    Rejected k heap m (k.changeFormat heap a m) := by
  obtain ⟨hstopped, hmode⟩ := k.dev.step_stop m.kind
  have hkind : (CameraDevice.Call.stop m.kind).kind = m.kind := by cases m <;> rfl
  rw [changeFormat_of_not_allocated k heap a h]
  refine ⟨⟨fun i hi ↦ ?_, fun i hi ↦ ?_, fun i hi ↦ ?_⟩, ?_, rfl, hstopped, hmode⟩
  · cases m <;> cases i <;> first | rfl | exact absurd rfl hi
  · exact (k.dev.step_apart _ (hkind.symm ▸ hi)).1
  · exact (k.dev.step_apart _ (hkind.symm ▸ hi)).2
  · cases m <;> rfl

/-- **With a ring** the stream is set up as far as that succeeds. -/
theorem changeFormat_changed {m : Mode} (h : m.Allocated) :
    Changed k heap a m (k.changeFormat heap a m) := by
  obtain ⟨hring, hlabel, hvalid, hgrown, hbufs, -⟩ := changeFormat_ring k heap a h
  have hdev := changeFormat_calls k heap a h
  have hother := fun i (hi : i ≠ m.kind) ↦ CameraDevice.run_apart hi k.dev _
    (CameraDevice.kind_calls a m ((k.changeFormat heap a m).1.ring m.kind).buf2)
  rw [← hdev] at hother
  obtain ⟨hmode, hrun, husr, hfills⟩ := k.dev.run_change a m _ hdev
  exact ⟨⟨hring, fun i hi ↦ (hother i hi).1, fun i hi ↦ (hother i hi).2⟩, hlabel, hvalid, hgrown,
    hbufs, hmode, hrun, husr, hfills⟩

/-- Either way the other stream is left alone. -/
theorem changeFormat_apart (m : Mode) : Apart k m (k.changeFormat heap a m) := by
  by_cases h : m.Allocated
  · exact (changeFormat_changed k heap a h).apart
  · exact (changeFormat_rejected k heap a h).apart

end Both

/-- **A stream serves its mode**: it runs in exactly that mode, the ring is labelled with it and has
three buffers of its size, and libfreenect fills the third. -/
structure Serves (k : SyncKinect) (heap : Heap) (m : Mode) : Prop where
  running : (k.dev.stream m.kind).strm.running = true
  mode : k.dev.mode m.kind = m
  label : k.Labelled m
  bufs : ∀ p ∈ (k.ring m.kind).bufs, ∃ n, heap.live p = some n ∧ m.bytes ≤ n
  fills : (k.dev.stream m.kind).strm.procBuf = (k.ring m.kind).buf2

/-- Every step of a change of format succeeds: a ring can be allocated for the format and is, and
the device has the mode and can be in it next to what else is running. -/
structure ChangeSucceeds (k : SyncKinect) (heap : Heap) (a : FormatAnswers) (m : Mode) : Prop where
  allocated : m.Allocated
  supported : m.Supported
  accepted : ¬ (m.HighResIr ∧ k.dev.depth.strm.running = true)
  ring : a.RingSucceeds ((k.ring m.kind).free heap) m.kind

instance (k : SyncKinect) (heap : Heap) (a : FormatAnswers) (m : Mode) :
    Decidable (ChangeSucceeds k heap a m) :=
  decidable_of_iff (m.Allocated ∧ m.Supported ∧
      ¬ (m.HighResIr ∧ k.dev.depth.strm.running = true) ∧
      a.RingSucceeds ((k.ring m.kind).free heap) m.kind)
    ⟨fun ⟨h₁, h₂, h₃, h₄⟩ ↦ ⟨h₁, h₂, h₃, h₄⟩, fun ⟨h₁, h₂, h₃, h₄⟩ ↦ ⟨h₁, h₂, h₃, h₄⟩⟩

/-- **When a change of format takes effect**, for a device in a mode of its own and a heap in which
the null pointer is no block. -/
theorem serves_iff {k : SyncKinect} {heap : Heap} {m : Mode} (a : FormatAnswers)
    (hmode : (k.dev.mode m.kind).Supported) (hnull : heap.live NULL = none) :
    Serves (k.changeFormat heap a m).1 (k.changeFormat heap a m).2.1 m ↔
      ChangeSucceeds k heap a m := by
  constructor
  · rintro ⟨hrun, hm, hlabel, hbufs, -⟩
    -- a ring that is labelled with the mode has been allocated
    have hall : m.Allocated := by
      refine not_not.1 fun hall ↦ ?_
      have hring := (changeFormat_rejected k heap a hall).ring
      exact m.fmt_ne (hlabel.1.symm.trans (by rw [hring]; rfl))
    have hc := changeFormat_changed k heap a hall
    have hsup : m.Supported := hm ▸ (hc.mode hmode).1
    have hacc := hc.running.1 hrun
    rw [hm] at hacc
    refine ⟨hall, hsup, (Mode.accepted_iff hsup _).1 hacc, hc.bufs.1 fun p hp heq ↦ ?_⟩
    -- the null pointer is not a block of the new heap either
    obtain ⟨sz, -, hgrown⟩ := hc.grown
    obtain ⟨n, hlive, -⟩ := hbufs p hp
    rcases hgrown.only p (by rw [hlive]; simp) with hold | ⟨-, hne⟩
    · have hfree : ((k.ring m.kind).free heap).live NULL = none := by
        rw [BufferRing.free]
        rw [Heap.live_freeAll hnull]
        split
        · rfl
        · exact hnull
      exact hold (heq ▸ hfree)
    · exact hne heq
  · rintro ⟨hall, hsup, hacc, hring⟩
    have hc := changeFormat_changed k heap a hall
    have hm := (hc.mode hmode).2 hsup
    have hrun := hc.running.2 (hm.symm ▸ (Mode.accepted_iff hsup _).2 hacc)
    have hne := hc.bufs.2 hring
    obtain ⟨sz, hsz, hgrown⟩ := hc.grown
    refine ⟨hrun, hm, hc.label, fun p hp ↦ ⟨sz, (hgrown.new p hp (hne p hp)).1, ?_⟩,
      hc.procBuf hrun (hne _ (BufferRing.mem_bufs.2 (Or.inr (Or.inr rfl))))⟩
    exact Nat.le_of_eq (hsz hsup).symm

end Freenect
