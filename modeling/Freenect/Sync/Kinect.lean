import Freenect.Device.Buffers
import Freenect.Device.Exclusion
import Freenect.Sync.Ring

/-!
# A device of the synchronous wrapper

`sync_kinect_t`, a device with a ring for each of its two streams, and the functions that change the
format of a stream. Changing it means: stop the stream, free its ring and allocate a new one, set
the mode and the buffer, and start the stream again. All results but that of the allocation are
ignored, and the result of the whole is ignored by the caller.

The two functions are the same up to the stream they are about. `Mode` has the arguments of either,
and what is said of them is said once, in terms of `CameraDevice.stream` and `SyncKinect.ring`.

What a client asks for is looked up in a table, and the device is given the packed form of what is
found there; so the lemmas here say that a supported mode survives the way through the table
(`setVideoMode_of_supported`), and that any other leaves the device in a mode that it has
(`setVideoMode_mode`). They come twice, for video and for depth, as the tables are two.
-/

namespace Freenect

/-- The two camera streams. -/
inductive StreamKind
  | video
  | depth
  deriving DecidableEq, Repr

/-- What a client asks for: the stream, its resolution and its format. -/
inductive Mode
  | video (res : Resolution) (fmt : VideoFormat)
  | depth (res : Resolution) (fmt : DepthFormat)
  deriving DecidableEq, Repr

namespace Mode

/-- The stream a mode is about. -/
def kind : Mode → StreamKind
  | video .. => .video
  | depth .. => .depth

/-- The format as an integer. -/
def fmt : Mode → ℤ
  | video _ fmt => fmt.toNat
  | depth _ fmt => fmt.toNat

/-- The resolution as an integer. -/
def res : Mode → ℤ
  | video res _ => res.toNat
  | depth res _ => res.toNat

/-- A ring can be allocated for the format. -/
def Allocated : Mode → Prop
  | video _ fmt => fmt ≠ .yuvRgb ∧ fmt ≠ .yuvRaw ∧ fmt ≠ .dummy
  | depth _ fmt => fmt ≠ .dummy

instance : DecidablePred Allocated
  | video _ _ => inferInstanceAs (Decidable (_ ∧ _ ∧ _))
  | depth _ _ => inferInstanceAs (Decidable (_ ≠ _))

/-- The mode is one of the device's. -/
def Supported : Mode → Prop
  | video res fmt => VideoSupported res fmt
  | depth res fmt => DepthSupported res fmt

instance : DecidablePred Supported
  | video res fmt => inferInstanceAs (Decidable (VideoSupported res fmt))
  | depth res fmt => inferInstanceAs (Decidable (DepthSupported res fmt))

/-- The size of a frame. -/
def bytes : Mode → ℕ
  | video res fmt =>
    ((supportedVideoModes.find? fun mode ↦
      mode.reserved = makeReserved res.toNat fmt.toNat).map FrameMode.bytes).getD 0
  | depth res fmt =>
    ((supportedDepthModes.find? fun mode ↦
      mode.reserved = makeReserved res.toNat fmt.toNat).map FrameMode.bytes).getD 0

/-- A mode is known by its stream and the two integers. -/
theorem eq_of_codes {m m' : Mode} (hkind : m.kind = m'.kind) (hfmt : m.fmt = m'.fmt)
    (hres : m.res = m'.res) : m = m' := by
  have hresolution : ∀ r r' : Resolution, (r.toNat : ℤ) = r'.toNat → r = r' := by
    intro r r' h
    cases r <;> cases r' <;> first | rfl | exact absurd h (by decide)
  have hvideo : ∀ f f' : VideoFormat, (f.toNat : ℤ) = f'.toNat → f = f' := by
    intro f f' h
    cases f <;> cases f' <;> first | rfl | exact absurd h (by decide)
  have hdepth : ∀ f f' : DepthFormat, (f.toNat : ℤ) = f'.toNat → f = f' := by
    intro f f' h
    cases f <;> cases f' <;> first | rfl | exact absurd h (by decide)
  match m, m' with
  | video r f, video r' f' => rw [hresolution r r' hres, hvideo f f' hfmt]
  | depth r f, depth r' f' => rw [hresolution r r' hres, hdepth f f' hfmt]
  | video _ _, depth _ _ => cases hkind
  | depth _ _, video _ _ => cases hkind

/-- No format is the one that a ring without buffers is labelled with. -/
theorem fmt_ne (m : Mode) : m.fmt ≠ -1 := by
  have hne (n : ℕ) : (n : ℤ) ≠ -1 := by omega
  cases m <;> exact hne _

end Mode

namespace CameraDevice

/-- One of the two streams. -/
def stream (s : CameraDevice) : StreamKind → OwnedStream
  | .video => s.video
  | .depth => s.depth

/-- The mode one of the two streams is in. -/
def mode (s : CameraDevice) : StreamKind → Mode
  | .video => .video s.videoResolution s.videoFormat
  | .depth => .depth s.depthResolution s.depthFormat

/-- Another packet stream for one of the two streams. -/
def withStrm (s : CameraDevice) (kind : StreamKind) (strm : PacketStream) : CameraDevice :=
  match kind with
  | .video => { s with video := { s.video with strm := strm } }
  | .depth => { s with depth := { s.depth with strm := strm } }

/-- `freenect_set_video_buffer` or `freenect_set_depth_buffer`. -/
def setBuffer (s : CameraDevice) : StreamKind → Ptr → CameraDevice × ℤ
  | .video => s.setVideoBuffer
  | .depth => s.setDepthBuffer

end CameraDevice

/-- `sync_kinect_t`. -/
structure SyncKinect where
  dev : CameraDevice
  video : BufferRing
  depth : BufferRing

/-- What is answered while the format of a stream is changed: by `malloc`, by the lookup of the mode
that is set, and while the stream is started. -/
structure ChangeAnswers (φ : Type) where
  ring : RingAnswers φ
  junk : FrameMode φ
  start : StartAnswers φ

/-- The answers for either stream. -/
structure FormatAnswers where
  video : ChangeAnswers VideoFormat
  depth : ChangeAnswers DepthFormat
  tables : TableAnswers

namespace SyncKinect

/-- The ring of a stream. -/
def ring (k : SyncKinect) : StreamKind → BufferRing
  | .video => k.video
  | .depth => k.depth

/-- Another ring for a stream. -/
def withRing (k : SyncKinect) (kind : StreamKind) (buf : BufferRing) : SyncKinect :=
  match kind with
  | .video => { k with video := buf }
  | .depth => { k with depth := buf }

/-- `change_video_format`. -/
def changeVideoFormat (k : SyncKinect) (heap : Heap) (res : Resolution) (fmt : VideoFormat)
    (a : ChangeAnswers VideoFormat) : SyncKinect × Heap × ℤ :=
  let dev := k.dev.stopVideo.1
  let buf := allocBufferRingVideo res fmt .empty (k.video.free heap) a.ring
  let k := { k with dev := dev, video := buf.1 }
  if buf.2.2 ≠ 0 then (k, buf.2.1, -1)
  else
    let dev := (dev.setVideoMode (findVideoMode a.junk res fmt).reserved).1
    let dev := (dev.setVideoBuffer buf.1.buf2).1
    let dev := (dev.startVideo a.start).1
    ({ k with dev := dev }, buf.2.1, 0)

/-- `change_depth_format`. -/
def changeDepthFormat (k : SyncKinect) (heap : Heap) (res : Resolution) (fmt : DepthFormat)
    (a : ChangeAnswers DepthFormat) (t : TableAnswers) : SyncKinect × Heap × ℤ :=
  let dev := k.dev.stopDepth.1
  let buf := allocBufferRingDepth res fmt .empty (k.depth.free heap) a.ring
  let k := { k with dev := dev, depth := buf.1 }
  if buf.2.2 ≠ 0 then (k, buf.2.1, -1)
  else
    let dev := (dev.setDepthMode (findDepthMode a.junk res fmt).reserved).1
    let dev := (dev.setDepthBuffer buf.1.buf2).1
    let dev := (dev.startDepth a.start t).1
    ({ k with dev := dev }, buf.2.1, 0)

/-- The change of format that a mode asks for. -/
def changeFormat (k : SyncKinect) (heap : Heap) (a : FormatAnswers) : Mode → SyncKinect × Heap × ℤ
  | .video res fmt => k.changeVideoFormat heap res fmt a.video
  | .depth res fmt => k.changeDepthFormat heap res fmt a.depth a.tables

/-- The ring of a stream is labelled with a mode. -/
def Labelled (k : SyncKinect) (m : Mode) : Prop :=
  (k.ring m.kind).fmt = m.fmt ∧ (k.ring m.kind).res = m.res

instance (k : SyncKinect) (m : Mode) : Decidable (k.Labelled m) :=
  inferInstanceAs (Decidable (_ ∧ _))

end SyncKinect

/-! ### Modes of the device

That the rows of the two tables decode to their modes is checked row by row; everything else about
the lookup is the same for any table. -/

/-- A supported mode is decoded from its packed form. -/
theorem videoMode_decode {res : Resolution} {fmt : VideoFormat} (h : VideoSupported res fmt) :
    reservedToResolution (makeReserved res.toNat fmt.toNat) = res ∧
      reservedToVideoFormat (makeReserved res.toNat fmt.toNat) = fmt := by
  revert h
  cases res <;> cases fmt <;> decide

theorem depthMode_decode {res : Resolution} {fmt : DepthFormat} (h : DepthSupported res fmt) :
    reservedToResolution (makeReserved res.toNat fmt.toNat) = res ∧
      reservedToDepthFormat (makeReserved res.toNat fmt.toNat) = fmt := by
  revert h
  cases res <;> cases fmt <;> decide

/-- The rows of the video table decode to modes of the table. -/
theorem videoSupported_of_mem : ∀ mode ∈ supportedVideoModes,
    VideoSupported (reservedToResolution mode.reserved) (reservedToVideoFormat mode.reserved) := by
  decide

/-- The same for the rows of the depth table. -/
theorem depthSupported_of_mem : ∀ mode ∈ supportedDepthModes,
    DepthSupported (reservedToResolution mode.reserved) (reservedToDepthFormat mode.reserved) := by
  decide

/-- What is found in a table is a row of it, with the packed mode that was looked for. -/
theorem of_find_reserved {φ : Type} {modes : List (FrameMode φ)} {reserved : ℕ}
    {mode : FrameMode φ} (h : modes.find? (fun mode ↦ mode.reserved = reserved) = some mode) :
    mode ∈ modes ∧ mode.reserved = reserved :=
  ⟨List.mem_of_find?_eq_some h, by simpa using List.find?_some h⟩

/-- A stream that is started fills the client's buffer, if there is one. -/
theorem OwnedStream.start_procBuf {φ : Type} {s : OwnedStream} {rlen plen : ℕ}
    {a : StartAnswers φ} (h : s.strm.usrBuf ≠ NULL) :
    (s.start rlen plen a).1.strm.procBuf = s.strm.usrBuf :=
  streamInit_procBuf.trans (if_neg h)

/-- Looking a mode up: of a supported one the lookup finds the row. -/
theorem findVideoMode_of_supported {res : Resolution} {fmt : VideoFormat}
    (h : VideoSupported res fmt) (junk : FrameMode VideoFormat) :
    (findVideoMode junk res fmt).reserved = makeReserved res.toNat fmt.toNat ∧
      (findVideoMode junk res fmt).bytes = (Mode.video res fmt).bytes := by
  obtain ⟨mode, hmode⟩ := Option.isSome_iff_exists.1 h
  unfold findVideoMode findMode Mode.bytes
  dsimp only
  rw [hmode]
  exact ⟨(of_find_reserved hmode).2, rfl⟩

/-- The same for depth. -/
theorem findDepthMode_of_supported {res : Resolution} {fmt : DepthFormat}
    (h : DepthSupported res fmt) (junk : FrameMode DepthFormat) :
    (findDepthMode junk res fmt).reserved = makeReserved res.toNat fmt.toNat ∧
      (findDepthMode junk res fmt).bytes = (Mode.depth res fmt).bytes := by
  obtain ⟨mode, hmode⟩ := Option.isSome_iff_exists.1 h
  unfold findDepthMode findMode Mode.bytes
  dsimp only
  rw [hmode]
  exact ⟨(of_find_reserved hmode).2, rfl⟩

namespace CameraDevice

variable {s : CameraDevice}

/-- A supported mode is set of a stopped stream. -/
theorem setVideoMode_of_supported {res : Resolution} {fmt : VideoFormat}
    (hrun : s.video.strm.running = false) (hsup : VideoSupported res fmt)
    (junk : FrameMode VideoFormat) :
    s.setVideoMode (findVideoMode junk res fmt).reserved =
      ({ s with videoFormat := fmt, videoResolution := res }, 0) := by
  obtain ⟨hdecres, hdecfmt⟩ := videoMode_decode hsup
  obtain ⟨mode, hmode⟩ := Option.isSome_iff_exists.1 hsup
  rw [(findVideoMode_of_supported hsup junk).1, setVideoMode, if_neg (by rw [hrun]; decide), hmode,
    Option.isNone_some, if_neg Bool.false_ne_true, hdecres, hdecfmt]

/-- The same for depth. -/
theorem setDepthMode_of_supported {res : Resolution} {fmt : DepthFormat}
    (hrun : s.depth.strm.running = false) (hsup : DepthSupported res fmt)
    (junk : FrameMode DepthFormat) :
    s.setDepthMode (findDepthMode junk res fmt).reserved =
      ({ s with depthFormat := fmt, depthResolution := res }, 0) := by
  obtain ⟨hdecres, hdecfmt⟩ := depthMode_decode hsup
  obtain ⟨mode, hmode⟩ := Option.isSome_iff_exists.1 hsup
  rw [(findDepthMode_of_supported hsup junk).1, setDepthMode, if_neg (by rw [hrun]; decide), hmode,
    Option.isNone_some, if_neg Bool.false_ne_true, hdecres, hdecfmt]

/-- Setting a mode of a stopped stream: a supported one is set, and whatever else the lookup returns
leaves the stream in a supported mode. -/
theorem setVideoMode_mode (hrun : s.video.strm.running = false)
    (hs : (s.mode .video).Supported) (junk : FrameMode VideoFormat) (res : Resolution)
    (fmt : VideoFormat) :
    ((s.setVideoMode (findVideoMode junk res fmt).reserved).1.mode .video).Supported ∧
      (VideoSupported res fmt →
        (s.setVideoMode (findVideoMode junk res fmt).reserved).1.mode .video = .video res fmt) := by
  constructor
  · rw [setVideoMode]
    rw [if_neg (by rw [hrun]; decide)]
    cases hfind : supportedVideoModes.find? (fun mode ↦
      mode.reserved = (findVideoMode junk res fmt).reserved) with
    | none => exact hs
    | some mode =>
      obtain ⟨hmem, hres⟩ := of_find_reserved hfind
      rw [← hres]
      exact videoSupported_of_mem mode hmem
  · intro hsup
    rw [setVideoMode_of_supported hrun hsup]
    rfl

/-- The same for depth. -/
theorem setDepthMode_mode (hrun : s.depth.strm.running = false)
    (hs : (s.mode .depth).Supported) (junk : FrameMode DepthFormat) (res : Resolution)
    (fmt : DepthFormat) :
    ((s.setDepthMode (findDepthMode junk res fmt).reserved).1.mode .depth).Supported ∧
      (DepthSupported res fmt →
        (s.setDepthMode (findDepthMode junk res fmt).reserved).1.mode .depth = .depth res fmt) := by
  constructor
  · rw [setDepthMode]
    rw [if_neg (by rw [hrun]; decide)]
    cases hfind : supportedDepthModes.find? (fun mode ↦
      mode.reserved = (findDepthMode junk res fmt).reserved) with
    | none => exact hs
    | some mode =>
      obtain ⟨hmem, hres⟩ := of_find_reserved hfind
      rw [← hres]
      exact depthSupported_of_mem mode hmem
  · intro hsup
    rw [setDepthMode_of_supported hrun hsup]
    rfl

/-! ### Starting a stopped stream -/

/-- The stream runs exactly if its mode is accepted, and it then fills the client's buffer. -/
theorem startVideo_running (hrun : s.video.strm.running = false) (a : StartAnswers VideoFormat) :
    ((s.startVideo a).1.video.strm.running = true ↔
      videoAccepted s.videoFormat s.videoResolution s.depth.strm.running = true) ∧
    ((s.startVideo a).1.video.strm.running = true → s.video.strm.usrBuf ≠ NULL →
      (s.startVideo a).1.video.strm.procBuf = s.video.strm.usrBuf) ∧
    (s.startVideo a).1.video.strm.usrBuf = s.video.strm.usrBuf := by
  rw [startVideo]
  rw [if_neg (by rw [hrun]; decide)]
  dsimp only
  cases hacc : videoAccepted s.videoFormat s.videoResolution s.depth.strm.running with
  | false =>
    rw [if_pos rfl]
    refine ⟨iff_of_false (by simp [setPacketFormat, hrun]) Bool.false_ne_true, fun h ↦ ?_, rfl⟩
    exact absurd (hrun.symm.trans h) (by decide)
  | true =>
    rw [if_neg (by decide)]
    exact ⟨iff_of_true OwnedStream.start_running rfl,
      fun _ hne ↦ OwnedStream.start_procBuf hne, OwnedStream.start_usrBuf⟩

/-- The same for depth, where every format is accepted but the one that is none. -/
theorem startDepth_running (hrun : s.depth.strm.running = false) (a : StartAnswers DepthFormat)
    (t : TableAnswers) :
    ((s.startDepth a t).1.depth.strm.running = true ↔ s.depthFormat ≠ .dummy) ∧
    ((s.startDepth a t).1.depth.strm.running = true → s.depth.strm.usrBuf ≠ NULL →
      (s.startDepth a t).1.depth.strm.procBuf = s.depth.strm.usrBuf) ∧
    (s.startDepth a t).1.depth.strm.usrBuf = s.depth.strm.usrBuf := by
  unfold startDepth
  rw [if_neg (by rw [hrun]; decide)]
  dsimp only
  cases hformats : depthFormats s.depthFormat with
  | none =>
    have hdummy : s.depthFormat = .dummy := by
      revert hformats
      cases s.depthFormat <;> first | exact fun _ ↦ rfl | exact fun h ↦ (nomatch h)
    refine ⟨iff_of_false (by simp [setPacketFormat, hrun]) fun h ↦ h hdummy, fun h ↦ ?_, rfl⟩
    exact absurd (hrun.symm.trans h) (by decide)
  | some formats =>
    have hne : s.depthFormat ≠ .dummy := fun h ↦ by
      rw [h] at hformats
      cases hformats
    obtain ⟨raw, fmt⟩ := formats
    exact ⟨iff_of_true OwnedStream.start_running hne,
      fun _ hne ↦ OwnedStream.start_procBuf hne, OwnedStream.start_usrBuf⟩

end CameraDevice

end Freenect
