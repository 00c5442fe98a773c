import Freenect.Sync.ChangeFormat
import Freenect.Sync.Session

/-!
# The library's buffers, seen from the wrapper

A change of format is four calls on the device: stop, set the mode, set the buffer, start. So the
library's buffers stay in order (`CameraDevice.BuffersOwned`) if `malloc` succeeds, and the blocks
of the wrapper stay apart from those of the library if `malloc` returns no block that either of them
has. A packet and a new buffer leave all blocks where they are.

Both sides allocate from one heap and each keeps its own books: the wrapper of the three blocks of a
ring, the library of what its streams and tables use. `changeFormat_owned` is where the books are
compared, after the stop, when the old ring has been freed and the new one has not been handed over.

`LibrarySucceeds` is the one thing that is assumed of `malloc`, and it is decidable: the blocks that
are returned for the ring and for the library during one change are different ones, and none is in
use.
-/

namespace Freenect

/-! ### A change of format -/

namespace FormatAnswers

variable (a : FormatAnswers)

/-- All blocks that `malloc` returns. -/
def blocks (kind : StreamKind) : List Ptr := a.ringPtrs kind ++ (a.start kind).granted

end FormatAnswers

/-- **What is assumed of `malloc`** while a stream is changed: it returns different blocks, none of
which the wrapper or the library has. -/
structure LibrarySucceeds (k : SyncKinect) (heap : Heap) (a : FormatAnswers) (m : Mode) : Prop where
  nodup : (a.blocks m.kind).Nodup
  fresh : ∀ p ∈ a.blocks m.kind, ((k.ring m.kind).free heap).Fresh p ∧
    ¬ (k.dev.step (.stop m.kind)).1.IsLive p

instance (k : SyncKinect) (heap : Heap) (a : FormatAnswers) (m : Mode) :
    Decidable (LibrarySucceeds k heap a m) :=
  decidable_of_iff ((a.blocks m.kind).Nodup ∧
      ∀ p ∈ a.blocks m.kind, ((k.ring m.kind).free heap).Fresh p ∧
        ¬ (k.dev.step (.stop m.kind)).1.IsLive p)
    ⟨fun ⟨h₁, h₂⟩ ↦ ⟨h₁, h₂⟩, fun ⟨h₁, h₂⟩ ↦ ⟨h₁, h₂⟩⟩

section

variable {k : SyncKinect} {heap : Heap} {a : FormatAnswers} {m : Mode}

/-- A stop is granted no block. -/
theorem CameraDevice.Call.stop_granted (kind : StreamKind) : (Call.stop kind).granted = [] := by
  cases kind with
  | video => rfl
  | depth => rfl

theorem FormatAnswers.setMode_granted (a : FormatAnswers) (m : Mode) :
    (a.setMode m).granted = [] := by
  cases m <;> rfl

theorem CameraDevice.Call.setBuffer_granted (p : Ptr) (kind : StreamKind) :
    (Call.setBuffer p kind).granted = [] := by
  cases kind with
  | video => rfl
  | depth => rfl

namespace CameraDevice

variable {d : CameraDevice}

/-- Without a block there is nothing to grant. -/
theorem grants_nil (d : CameraDevice) : d.Grants [] :=
  ⟨List.nodup_nil, fun _ hp ↦ absurd hp List.not_mem_nil⟩

/-- Nothing is assumed of a stop. -/
theorem succeeds_stop (d : CameraDevice) (kind : StreamKind) : d.Succeeds (.stop kind) := by
  cases kind
  exacts [⟨d.grants_nil, trivial⟩, ⟨d.grants_nil, trivial⟩]

/-- A call that is granted nothing gives the library no block. -/
theorem IsLive.of_ungranted {call : Call} (hcall : call.granted = []) {p : Ptr}
    (h : (d.step call).1.IsLive p) : d.IsLive p := by
  refine (of_step call h).resolve_right ?_
  rw [hcall]
  exact List.not_mem_nil

/-- **A mode and a buffer of the client** leave the library's buffers in order. -/
theorem BuffersOwned.reset (h : d.BuffersOwned) (a : FormatAnswers) (m : Mode) {p : Ptr}
    (hp : ¬ d.IsLive p) :
    ((d.step (a.setMode m)).1.step (.setBuffer p m.kind)).1.BuffersOwned := by
  have hmode : (d.step (a.setMode m)).1.BuffersOwned := by
    refine h.step _ _ ⟨?_, ?_⟩
    · rw [a.setMode_granted m]
      exact d.grants_nil
    · cases m <;> trivial
  have hnot : ¬ (d.step (a.setMode m)).1.IsLive p :=
    fun hlive ↦ hp (hlive.of_ungranted (a.setMode_granted m))
  refine hmode.step _ _ ⟨?_, ?_⟩
  · rw [Call.setBuffer_granted]
    exact grants_nil _
  · cases m <;> exact hnot

/-- A mode and a buffer give the library no block. -/
theorem IsLive.of_reset (a : FormatAnswers) (m : Mode) {p q : Ptr}
    (h : ((d.step (a.setMode m)).1.step (.setBuffer p m.kind)).1.IsLive q) : d.IsLive q :=
  (h.of_ungranted (Call.setBuffer_granted p m.kind)).of_ungranted (a.setMode_granted m)

/-- Starting a stream leaves the buffers of the client. -/
theorem start_usrBuf (d : CameraDevice) (a : FormatAnswers) (kind i : StreamKind) :
    ((d.step (a.start kind)).1.stream i).strm.usrBuf = (d.stream i).strm.usrBuf := by
  cases kind <;> cases i
  exacts [(startVideo_usrBuf _).1, (startVideo_usrBuf _).2, (startDepth_usrBuf _ _).1,
    (startDepth_usrBuf _ _).2]

/-- **The four calls of a change of format** leave the library's buffers in order, if the blocks
granted for them are new to the library and are no buffers of the client. It gets no others. -/
theorem run_change_owned (howned : d.BuffersOwned) {p : Ptr}
    (hp : ¬ (d.step (.stop m.kind)).1.IsLive p) (hnodup : (a.start m.kind).granted.Nodup)
    (hfresh : ∀ q ∈ (a.start m.kind).granted,
      q ≠ NULL ∧ ¬ (d.step (.stop m.kind)).1.IsLive q ∧ q ≠ p)
    (hclient : ∀ q ∈ (a.start m.kind).granted, ∀ i, i ≠ m.kind → q ≠ (d.stream i).strm.usrBuf)
    {t : CameraDevice}
    (ht : t = Mealy.run step d
      [.stop m.kind, a.setMode m, .setBuffer p m.kind, a.start m.kind]) :
    t.BuffersOwned ∧ ∀ q, t.IsLive q →
      (d.step (.stop m.kind)).1.IsLive q ∨ q ∈ (a.start m.kind).granted := by
  have husr := (d.run_change a m p ht).2.2.1
  have hother := fun i (hi : i ≠ m.kind) ↦ (run_apart hi d _ (kind_calls a m p)).1
  rw [← ht] at hother
  -- the device once it has its mode and its buffer
  have hset := (howned.step _ _ (d.succeeds_stop m.kind)).reset a m hp
  have hlive := fun q ↦ IsLive.of_reset (d := (d.step (.stop m.kind)).1) a m (p := p) (q := q)
  simp only [Mealy.run_cons, Mealy.run_nil] at ht
  generalize (((d.step (.stop m.kind)).1.step (a.setMode m)).1.step
    (.setBuffer p m.kind)).1 = d₃ at *
  rw [ht] at husr hother ⊢
  -- what the start is granted is no buffer of a client, neither the new one nor that of the other
  -- stream
  have hclients : ∀ i, ∀ q ∈ (a.start m.kind).granted, q ≠ (d₃.stream i).strm.usrBuf := by
    intro i q hq
    rw [← d₃.start_usrBuf a m.kind i]
    by_cases hi : i = m.kind
    · rw [hi, husr]
      exact (hfresh q hq).2.2
    · rw [hother i hi]
      exact hclient q hq i hi
  have hgrants : d₃.Grants (a.start m.kind).granted := ⟨hnodup, fun q hq ↦
    ⟨(hfresh q hq).1, fun hl ↦ (hfresh q hq).2.1 (hlive q hl), hclients .video q hq,
      hclients .depth q hq⟩⟩
  refine ⟨hset.step _ _ ?_, fun q hq ↦ (IsLive.of_step _ hq).imp_left (hlive q)⟩
  cases m <;> exact ⟨hgrants, trivial⟩

end CameraDevice

/-- **The library's buffers stay in order**, and apart from the wrapper's. -/
theorem changeFormat_owned (howned : k.dev.BuffersOwned)
    (hapart : ∀ p, heap.live p ≠ none → ¬ k.dev.IsLive p)
    (hclient : ∀ i, i ≠ m.kind → (k.dev.stream i).strm.usrBuf = NULL ∨
      ((k.ring m.kind).free heap).live (k.dev.stream i).strm.usrBuf ≠ none)
    (hok : ChangeSucceeds k heap a m) (hlib : LibrarySucceeds k heap a m) :
    (k.changeFormat heap a m).1.dev.BuffersOwned ∧
      ∀ p, (k.changeFormat heap a m).2.1.live p ≠ none →
        ¬ (k.changeFormat heap a m).1.dev.IsLive p := by
  have hc := changeFormat_changed k heap a hok.allocated
  have hdev := changeFormat_calls k heap a hok.allocated
  obtain ⟨-, -, -, -, -, hptrs⟩ := changeFormat_ring k heap a hok.allocated
  obtain ⟨sz, -, hgrown⟩ := hc.grown
  obtain ⟨-, hnodup, hdisjoint⟩ := List.nodup_append.1 hlib.nodup
  have hring := fun p hp ↦ hlib.fresh p (List.mem_append_left _ hp)
  have hlibrary := fun p hp ↦ hlib.fresh p (List.mem_append_right (a.ringPtrs m.kind) hp)
  have hbuf2 : ((k.changeFormat heap a m).1.ring m.kind).buf2 ∈ a.ringPtrs m.kind := by
    have hmem := BufferRing.mem_bufs.2 (Or.inr (Or.inr rfl) :
      ((k.changeFormat heap a m).1.ring m.kind).buf2 =
        ((k.changeFormat heap a m).1.ring m.kind).buf0 ∨ _)
    exact hptrs _ hmem (hc.bufs.2 hok.ring _ hmem)
  -- no client has a block that `malloc` returns to the library
  have hclients : ∀ q ∈ (a.start m.kind).granted, ∀ i, i ≠ m.kind →
      q ≠ (k.dev.stream i).strm.usrBuf := by
    intro q hq i hi
    rcases hclient i hi with husr | husr
    · rw [husr]
      exact (hlibrary q hq).1.1
    · rintro rfl
      exact husr (hlibrary _ hq).1.2
  obtain ⟨howned', hlive⟩ := CameraDevice.run_change_owned howned (hring _ hbuf2).2 hnodup
    (fun q hq ↦ ⟨(hlibrary q hq).1.1, (hlibrary q hq).2, (hdisjoint _ hbuf2 _ hq).symm⟩) hclients
    hdev
  refine ⟨howned', fun p hp hl ↦ ?_⟩
  -- a block of the wrapper is an old one, or it is new in its ring
  rcases hgrown.only p hp with hold | ⟨hmem, hp0⟩
  · rcases hlive p hl with hl | hl
    · exact hapart p (fun hnone ↦ hold (Heap.live_freeAll_of_none hnone))
        (hl.of_ungranted (CameraDevice.Call.stop_granted m.kind))
    · exact hold (hlibrary p hl).1.2
  · have hmem := hptrs p hmem hp0
    rcases hlive p hl with hl | hl
    · exact (hring p hmem).2 hl
    · exact hdisjoint _ hmem _ hl rfl

end

/-! ### A packet -/

/-- A packet leaves the set-up of the stream. -/
theorem frameProcess_strm (convert : Option Conversion) (strm : PacketStream) (mem : Memory)
    (pkt : List UInt8) :
    (frameProcess convert strm mem pkt false none).1.toStreamBufs = strm.toStreamBufs ∧
      (frameProcess convert strm mem pkt false none).1.toStreamGeometry = strm.toStreamGeometry ∧
      (frameProcess convert strm mem pkt false none).1.running = strm.running := by
  rw [frameProcess]
  split
  · exact ⟨rfl, rfl, rfl⟩
  · split
    · exact ⟨rfl, rfl, rfl⟩
    · dsimp only
      split
      · exact ⟨streamProcess_bufs, streamProcess_geometry, streamProcess_running⟩
      · exact ⟨streamProcess_bufs, streamProcess_geometry, streamProcess_running⟩

/-- A frame is completed in the buffer that is filled, and no other block is written to than that
one and the raw buffer. -/
theorem frameProcess_mem (convert : Option Conversion) (strm : PacketStream) (mem : Memory)
    (pkt : List UInt8) :
    (∀ f, (frameProcess convert strm mem pkt false none).2.2 = some f →
      strm.running = true ∧ f.frame = strm.procBuf) ∧
    ∀ q, (strm.running = true → q ≠ strm.procBuf ∧ q ≠ strm.rawBuf) →
      (frameProcess convert strm mem pkt false none).2.1 q = mem q := by
  have hbufs : (streamProcess strm pkt false).strm.toStreamBufs = strm.toStreamBufs :=
    streamProcess_bufs
  have hproc := congrArg StreamBufs.procBuf hbufs
  have hraw := congrArg StreamBufs.rawBuf hbufs
  -- the payload of a packet goes to the raw buffer
  have hmemory : ∀ q, q ≠ strm.rawBuf → (streamProcess strm pkt false).memory mem q = mem q := by
    intro q hq
    unfold Processed.memory
    cases (streamProcess strm pkt false).payload with
    | none => rfl
    | some op =>
      cases op with
      | memcpy off data => exact BlockMemory.store_of_ne (hraw.symm ▸ hq)
      | chunk => rfl
  unfold frameProcess
  split
  · exact ⟨fun f hf ↦ (nomatch hf), fun _ _ ↦ rfl⟩
  · split
    · exact ⟨fun f hf ↦ (nomatch hf), fun _ _ ↦ rfl⟩
    next hrun =>
      have hrun := not_not.1 hrun
      dsimp only
      split
      · exact ⟨fun f hf ↦ (nomatch hf), fun q hq ↦ hmemory q (hq hrun).2⟩
      · refine ⟨fun f hf ↦ ⟨hrun, Option.some.inj hf ▸ hproc⟩, fun q hq ↦ ?_⟩
        dsimp only
        split
        · exact (BlockMemory.store_of_ne (hproc.symm ▸ (hq hrun).1)).trans (hmemory q (hq hrun).2)
        · exact hmemory q (hq hrun).2

/-- The buffers of a stream are in order as long as its set-up stays. -/
theorem OwnedStream.WellOwned.congr {s : OwnedStream} (h : s.WellOwned) {strm : PacketStream}
    (hbufs : strm.toStreamBufs = s.strm.toStreamBufs)
    (hgeometry : strm.toStreamGeometry = s.strm.toStreamGeometry)
    (hrun : strm.running = s.strm.running) : WellOwned { s with strm := strm } := by
  have hsize := congrArg StreamGeometry.frameSize hgeometry
  have hblocks : OwnedStream.blocks { s with strm := strm } = s.blocks := by
    unfold OwnedStream.blocks streamFreebufs
    dsimp only
    rw [hbufs]
  refine ⟨fun h' ↦ ?_, fun h' ↦ h.freed (hrun.symm.trans h'), h.noFault, ?_, h.null⟩
  · obtain ⟨hproc, hlib, hunsplit, hsplit, hstart, hlive⟩ := h.inUse (hrun.symm.trans h')
    constructor <;> dsimp only
    · rw [hbufs]; exact hproc
    · rw [hbufs]; exact hlib
    · rw [hbufs]; exact hunsplit
    · rw [hbufs, hsize]; exact hsplit
    · rw [hbufs]; exact hstart
    · rw [hblocks]; exact hlive
  · dsimp only
    rw [hbufs]
    exact h.client

namespace CameraDevice

variable {s : CameraDevice} {kind i : StreamKind} {strm : PacketStream}

/-- The stream that is put there. -/
theorem withStrm_stream_self : ((s.withStrm kind strm).stream kind).strm = strm := by
  cases kind with
  | video => rfl
  | depth => rfl

/-- The other stream. -/
theorem withStrm_stream_of_ne (h : i ≠ kind) : (s.withStrm kind strm).stream i = s.stream i := by
  cases kind <;> cases i <;> first | rfl | exact absurd rfl h

/-- The modes stay. -/
@[simp] theorem withStrm_mode : (s.withStrm kind strm).mode i = s.mode i := by
  cases kind <;> cases i <;> rfl

/-- So do the blocks. -/
@[simp] theorem withStrm_isLive {p : Ptr} : (s.withStrm kind strm).IsLive p ↔ s.IsLive p := by
  cases kind with
  | video => exact Iff.rfl
  | depth => exact Iff.rfl

/-- A packet stream with the same buffers and sizes leaves the library's buffers in order. -/
theorem BuffersOwned.withStrm (h : s.BuffersOwned)
    (hbufs : strm.toStreamBufs = (s.stream kind).strm.toStreamBufs)
    (hgeometry : strm.toStreamGeometry = (s.stream kind).strm.toStreamGeometry)
    (hrun : strm.running = (s.stream kind).strm.running) : (s.withStrm kind strm).BuffersOwned := by
  have husr := congrArg StreamBufs.usrBuf hbufs
  cases kind with
  | video =>
    refine ⟨h.video.congr hbufs hgeometry hrun, h.depth, h.registered, h.absent, fun p hp ↦ ?_⟩
    exact ⟨husr.symm ▸ (h.client p hp).1, (h.client p hp).2⟩
  | depth =>
    refine ⟨h.video, h.depth.congr hbufs hgeometry hrun, fun h' ↦ h.registered (hrun.symm.trans h'),
      fun h' ↦ h.absent fun h'' ↦ h' ⟨hrun.trans h''.1, h''.2⟩, fun p hp ↦ ?_⟩
    exact ⟨(h.client p hp).1, husr.symm ▸ (h.client p hp).2⟩

/-! ### A new buffer -/

/-- The stream that gets the buffer. -/
theorem setBuffer_stream_self {p : Ptr} :
    ((s.setBuffer kind p).1.stream kind).strm = (streamSetbuf (s.stream kind).strm p).1 := by
  cases kind with
  | video => rfl
  | depth => rfl

/-- The other stream. -/
theorem setBuffer_stream_of_ne {p : Ptr} (h : i ≠ kind) :
    (s.setBuffer kind p).1.stream i = s.stream i := by
  cases kind <;> cases i <;> first | rfl | exact absurd rfl h

/-- The modes stay. -/
@[simp] theorem setBuffer_mode {p : Ptr} : (s.setBuffer kind p).1.mode i = s.mode i := by
  cases kind <;> cases i <;> rfl

/-- So do the blocks. -/
@[simp] theorem setBuffer_isLive {p q : Ptr} : (s.setBuffer kind p).1.IsLive q ↔ s.IsLive q := by
  cases kind with
  | video => exact Iff.rfl
  | depth => exact Iff.rfl

/-- A buffer of the client leaves the library's buffers in order, if it is none of them. -/
theorem BuffersOwned.setBuffer (h : s.BuffersOwned) {p : Ptr} (hp : ¬ s.IsLive p) :
    (s.setBuffer kind p).1.BuffersOwned := by
  cases kind
  exacts [h.setVideoBuffer hp, h.setDepthBuffer hp]

/-- Either stream. -/
theorem BuffersOwned.stream (h : s.BuffersOwned) (kind : StreamKind) :
    (s.stream kind).WellOwned := by
  cases kind
  exacts [h.video, h.depth]

/-- A block of a stream is one of the device. -/
theorem isLive_of_stream (kind : StreamKind) {p : Ptr} (h : (s.stream kind).heap.live p ≠ none) :
    s.IsLive p := by
  cases kind
  exacts [Or.inl h, Or.inr (Or.inl h)]

end CameraDevice

end Freenect
