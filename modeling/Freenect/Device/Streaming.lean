import Freenect.Camera.Modes
import Freenect.Library.Heap
import Freenect.Registration.Tables
import Freenect.Usb.Lifecycle

/-!
# Modes, buffers, start and stop

The functions of `cameras.c` with which a client sets up the two camera streams of a device, each as
one step. What `malloc` answers is an argument of the step; the results of the register writes are
ignored by the source, and the writes themselves are left out.

The start and stop functions hand on what `fnusb_start_iso` and `fnusb_stop_iso` return if it is
negative. Both always return zero, whatever becomes of the transfers: one that libusb does not take
is counted dead (`startIso`), and the stream runs all the same. So those branches are never taken,
and only the calls that were refused before a transfer was made fail.

Three heaps record what the library allocates: one for the buffers of each stream and one for the
registration tables. They and `startBuf` are history, which no function reads.

A stream together with its heap is `OwnedStream`, and the device has two of them and the tables.
Each of the functions that a client calls is a constructor of `Call`, with the answers of
`malloc` and of a failed lookup among its arguments, and `CameraDevice.step` is one call. A run is
then a list of calls, and the modules that follow are about such runs from `opened`.
-/

namespace Freenect

/-! ### Decoding a mode

A mode is named by a number into which its resolution and format are packed. The functions below
take it apart, for any number. -/

/-- `RESERVED_TO_RESOLUTION`. A value that is no enumerator is not among the supported modes. -/
def reservedToResolution (reserved : ℕ) : Resolution :=
  match reserved >>> 8 &&& 0xff with
  | 0 => .low
  | 1 => .medium
  | 2 => .high
  | _ => .dummy

/-- `RESERVED_TO_FORMAT` as a video format. -/
def reservedToVideoFormat (reserved : ℕ) : VideoFormat :=
  match reserved &&& 0xff with
  | 0 => .rgb
  | 1 => .bayer
  | 2 => .ir8Bit
  | 3 => .ir10Bit
  | 4 => .ir10BitPacked
  | 5 => .yuvRgb
  | 6 => .yuvRaw
  | _ => .dummy

/-- `RESERVED_TO_FORMAT` as a depth format. -/
def reservedToDepthFormat (reserved : ℕ) : DepthFormat :=
  match reserved &&& 0xff with
  | 0 => .d11Bit
  | 1 => .d10Bit
  | 2 => .d11BitPacked
  | 3 => .d10BitPacked
  | 4 => .registered
  | 5 => .mm
  | _ => .dummy

/-! ### One stream

What the start and stop functions of both streams have in common, from the point on at which the
mode has been found acceptable. -/

/-- A `packet_stream` with what the library has allocated for it, and the `usr_buf` it was last
started with. -/
structure OwnedStream where
  strm : PacketStream
  heap : Heap
  startBuf : Ptr

/-- What `malloc` and a failed lookup of a mode answer in a start function. -/
structure StartAnswers (φ : Type) where
  libMalloc : Ptr
  rawMalloc : Ptr
  junk : FrameMode φ

namespace OwnedStream

variable {φ : Type}

/-- A stream of a zeroed device. -/
def zero : OwnedStream where
  strm := .zero
  heap := .empty
  startBuf := NULL

/-- `stream_init` with its calls of `malloc`. -/
def init (s : OwnedStream) (rlen plen : ℕ) (a : StartAnswers φ) : OwnedStream where
  strm := streamInit s.strm rlen plen a.libMalloc a.rawMalloc
  heap :=
    let heap := if s.strm.usrBuf = NULL then s.heap.malloc a.libMalloc plen else s.heap
    if rlen = 0 then heap else heap.malloc a.rawMalloc rlen
  startBuf := s.strm.usrBuf

/-- The common end of the start functions, from `stream_init` on. -/
def start (s : OwnedStream) (rlen plen : ℕ) (a : StartAnswers φ) : OwnedStream × ℤ :=
  let s := s.init rlen plen a
  -- `fnusb_start_iso` has returned zero
  ({ s with strm := { s.strm with running := true } }, 0)

/-- The common body of the stop functions. -/
def stop (s : OwnedStream) : OwnedStream × ℤ :=
  if ¬ s.strm.running then (s, -1)
  else
    let s := { s with strm := { s.strm with running := false } }
    -- `fnusb_stop_iso` has returned zero
    ({ s with
      strm := (streamFreebufs s.strm).1
      heap := s.heap.freeAll (streamFreebufs s.strm).2 }, 0)

/-- A stop function leaves a stopped stream, also when it refuses. -/
theorem stop_running {s : OwnedStream} : s.stop.1.strm.running = false := by
  rw [stop]
  split
  next h => exact Bool.eq_false_iff.2 h
  next => rfl

/-- `stream_setbuf`. -/
def setbuf (s : OwnedStream) (pbuf : Ptr) : OwnedStream × ℤ :=
  ({ s with strm := (streamSetbuf s.strm pbuf).1 }, (streamSetbuf s.strm pbuf).2)

end OwnedStream

/-! ### The registration tables

Three tables are allocated when a depth stream is started in a registered format, and freed when it
is stopped. -/

/-- The three tables of `freenect_registration`, and what the library has allocated for them. -/
structure OwnedTables where
  rawToMmShift : Ptr
  depthToRgbShift : Ptr
  registrationTable : Ptr
  heap : Heap

namespace OwnedTables

/-- No tables. -/
def zero : OwnedTables where
  rawToMmShift := NULL
  depthToRgbShift := NULL
  registrationTable := NULL
  heap := .empty

/-- `freenect_destroy_registration`. The test for `NULL` before each `free` is that of `free`. -/
def destroy (t : OwnedTables) : OwnedTables where
  rawToMmShift := NULL
  depthToRgbShift := NULL
  registrationTable := NULL
  heap := t.heap.freeAll [t.rawToMmShift, t.depthToRgbShift, t.registrationTable]

/-- `freenect_init_registration`. The arguments are what its three calls of `malloc` return. -/
def init (t : OwnedTables) (raw shift table : Ptr) : OwnedTables where
  rawToMmShift := raw
  depthToRgbShift := shift
  registrationTable := table
  heap := ((t.destroy.heap.malloc raw (2 * 2048)).malloc shift (4 * 10000)).malloc table
    (4 * 640 * 480 * 2)

end OwnedTables

/-! ### The device

The functions of `cameras.c` under their names. What differs between the two streams are the
formats, and that only `freenect_start_video` has a guard against the other stream. -/

/-- The part of `freenect_device` that the camera functions keep. -/
structure CameraDevice where
  video : OwnedStream
  depth : OwnedStream
  videoFormat : VideoFormat
  videoResolution : Resolution
  depthFormat : DepthFormat
  depthResolution : Resolution
  tables : OwnedTables

namespace CameraDevice

/-- A zeroed device. -/
def zero : CameraDevice where
  video := .zero
  depth := .zero
  videoFormat := .rgb
  videoResolution := .low
  depthFormat := .d11Bit
  depthResolution := .low
  tables := .zero

/-- `freenect_set_video_mode`: of the mode only `reserved` is looked at. The registration info that
is fetched for the new mode is left out. -/
def setVideoMode (s : CameraDevice) (reserved : ℕ) : CameraDevice × ℤ :=
  if s.video.strm.running then (s, -1)
  else if (supportedVideoModes.find? fun mode ↦ mode.reserved = reserved).isNone then (s, -1)
  else
    ({ s with
      videoFormat := reservedToVideoFormat reserved
      videoResolution := reservedToResolution reserved }, 0)

/-- `freenect_set_depth_mode`. -/
def setDepthMode (s : CameraDevice) (reserved : ℕ) : CameraDevice × ℤ :=
  if s.depth.strm.running then (s, -1)
  else if (supportedDepthModes.find? fun mode ↦ mode.reserved = reserved).isNone then (s, -1)
  else
    ({ s with
      depthFormat := reservedToDepthFormat reserved
      depthResolution := reservedToResolution reserved }, 0)

/-- `freenect_set_video_buffer`. -/
def setVideoBuffer (s : CameraDevice) (buf : Ptr) : CameraDevice × ℤ :=
  ({ s with video := (s.video.setbuf buf).1 }, (s.video.setbuf buf).2)

/-- `freenect_set_depth_buffer`. -/
def setDepthBuffer (s : CameraDevice) (buf : Ptr) : CameraDevice × ℤ :=
  ({ s with depth := (s.depth.setbuf buf).1 }, (s.depth.setbuf buf).2)

end CameraDevice

/-- Whether the first `switch` of `freenect_start_video` goes on. -/
def videoAccepted (fmt : VideoFormat) (res : Resolution) (depthRunning : Bool) : Bool :=
  match fmt with
  | .rgb | .bayer => res = .high || res = .medium
  | .ir8Bit | .ir10Bit | .ir10BitPacked => res = .high && !depthRunning || res = .medium
  | .yuvRgb | .yuvRaw => res = .medium
  | .dummy => false

/-- The format in which the camera sends the frames of a video format, if it is another one. -/
def rawVideoFormat : VideoFormat → Option VideoFormat
  | .rgb => some .bayer
  | .ir8Bit | .ir10Bit => some .ir10BitPacked
  | .yuvRgb => some .yuvRaw
  | .bayer | .ir10BitPacked | .yuvRaw | .dummy => none

/-- The formats of `freenect_start_depth`: the one in which the camera sends the frames, if it is
another one, and the one whose size the frames have. -/
def depthFormats : DepthFormat → Option (Option DepthFormat × DepthFormat)
  | .registered | .mm | .d11Bit => some (some .d11BitPacked, .d11Bit)
  | .d10Bit => some (some .d10BitPacked, .d10Bit)
  | .d11BitPacked => some (none, .d11BitPacked)
  | .d10BitPacked => some (none, .d10BitPacked)
  | .dummy => none

/-- The formats for which `freenect_start_depth` makes registration tables. -/
def DepthFormat.Registers (fmt : DepthFormat) : Prop := fmt = .registered ∨ fmt = .mm

instance (fmt : DepthFormat) : Decidable fmt.Registers := inferInstanceAs (Decidable (_ ∨ _))

/-- What the calls of `malloc` in `freenect_init_registration` return. -/
structure TableAnswers where
  raw : Ptr
  shift : Ptr
  table : Ptr

namespace CameraDevice

/-- `freenect_start_video`. -/
def startVideo (s : CameraDevice) (a : StartAnswers VideoFormat) : CameraDevice × ℤ :=
  if s.video.strm.running then (s, -1)
  else
    let video := { s.video with strm := setPacketFormat s.video.strm 1908 0x80 }
    if videoAccepted s.videoFormat s.videoResolution s.depth.strm.running = false then
      ({ s with video := video }, -1)
    else
      let plen := (findVideoMode a.junk s.videoResolution s.videoFormat).bytes
      let rlen :=
        match rawVideoFormat s.videoFormat with
        | some fmt => (findVideoMode a.junk s.videoResolution fmt).bytes
        | none => 0
      ({ s with video := (video.start rlen plen a).1 }, (video.start rlen plen a).2)

/-- `freenect_start_depth`. -/
def startDepth (s : CameraDevice) (a : StartAnswers DepthFormat) (t : TableAnswers) :
    CameraDevice × ℤ :=
  if s.depth.strm.running then (s, -1)
  else
    let depth := { s.depth with strm := setPacketFormat s.depth.strm 1748 0x70 }
    match depthFormats s.depthFormat with
    | none => ({ s with depth := depth }, -1)
    | some (raw, fmt) =>
      let plen := (findDepthMode a.junk s.depthResolution fmt).bytes
      let rlen :=
        match raw with
        | some fmt => (findDepthMode a.junk s.depthResolution fmt).bytes
        | none => 0
      ({ s with
        tables := if s.depthFormat.Registers then s.tables.init t.raw t.shift t.table else s.tables
        depth := (depth.start rlen plen a).1 }, (depth.start rlen plen a).2)

/-- `freenect_stop_video`. -/
def stopVideo (s : CameraDevice) : CameraDevice × ℤ :=
  ({ s with video := s.video.stop.1 }, s.video.stop.2)

/-- `freenect_stop_depth`: the tables go with the buffers. -/
def stopDepth (s : CameraDevice) : CameraDevice × ℤ :=
  ({ s with
    depth := s.depth.stop.1
    tables := if s.depth.stop.2 < 0 then s.tables else s.tables.destroy },
    s.depth.stop.2)

/-! ### Runs -/

/-- The calls a client can make on a device. -/
inductive Call
  | setVideoMode (reserved : ℕ)
  | setDepthMode (reserved : ℕ)
  | setVideoBuffer (buf : Ptr)
  | setDepthBuffer (buf : Ptr)
  | startVideo (a : StartAnswers VideoFormat)
  | startDepth (a : StartAnswers DepthFormat) (t : TableAnswers)
  | stopVideo
  | stopDepth

/-- One call. -/
def step (s : CameraDevice) : Call → CameraDevice × ℤ
  | .setVideoMode reserved => s.setVideoMode reserved
  | .setDepthMode reserved => s.setDepthMode reserved
  | .setVideoBuffer buf => s.setVideoBuffer buf
  | .setDepthBuffer buf => s.setDepthBuffer buf
  | .startVideo a => s.startVideo a
  | .startDepth a t => s.startDepth a t
  | .stopVideo => s.stopVideo
  | .stopDepth => s.stopDepth

/-- A device as `freenect_camera_init` leaves it: medium resolution, RGB and 11 bit. -/
def opened : CameraDevice :=
  ((zero.setVideoMode (makeReserved Resolution.medium.toNat VideoFormat.rgb.toNat)).1.setDepthMode
    (makeReserved Resolution.medium.toNat DepthFormat.d11Bit.toNat)).1

/-- The record, field by field. -/
theorem opened_eq :
    opened = { zero with videoResolution := .medium, depthResolution := .medium } := rfl

end CameraDevice

end Freenect
