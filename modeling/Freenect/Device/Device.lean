import Freenect.Usb.Lifecycle

/-!
# Devices

`freenect_device` with its three streams, and the context that lists the open devices. A device has
two camera streams and an audio stream of two isochronous streams. The client's thread makes one
call at a time on all devices of a context; while it waits inside a call, transfers of any stream
may complete.

`freenect_close_device` is a step `close`, which runs the teardown of the camera up to the first
place where libusb is called, then the remaining steps of the stream that is being stopped, and a
step `free` once the call has nothing left to wait for.

The two kinds of stream are put side by side and not merged: a camera stream counts its frames, an
audio stream has two isochronous streams that are stopped one after the other. A device may take a
step of any of its streams; calls of the client are the steps that begin something, and they need
the device to be idle, while events need nothing.
-/

namespace Freenect

/-! ### The audio stream

Both of its isochronous streams are started in one call, and stopped in turn, with a wait for each.
The invariant is the accounting of both, together with what the phase says of them. -/

/-- How far the client's thread has come in stopping the audio stream. -/
inductive AudioPhase
  | stopped
  | streaming
  /-- In the wait loop of `fnusb_stop_iso` for the microphones. -/
  | drainingIn
  /-- In the wait loop of `fnusb_stop_iso` for the speakers. -/
  | drainingOut
  deriving DecidableEq, Repr

/-- The part of `audio_stream` that the transfers depend on, and the two isochronous streams. -/
structure AudioStream where
  running : Bool
  inIsoc : IsocStream
  outIsoc : IsocStream
  phase : AudioPhase
  deriving DecidableEq, Repr

namespace AudioStream

/-- The audio stream of a freshly opened device. -/
def zero : AudioStream where
  running := false
  inIsoc := .zero
  outIsoc := .zero
  phase := .stopped

/-- What can happen to the audio stream. -/
inductive Action
  | start (ins outs : List StartResult)
  | eventIn (i : ℕ) (status : TransferStatus) (r : SubmitResult)
  | eventOut (i : ℕ) (status : TransferStatus) (r : SubmitResult)
  | stop
  | stopOut
  | finish
  deriving DecidableEq, Repr

/-- `iso_callback` on an audio stream; what the samples are copied to is left out. -/
def onEvent (s : IsocStream) (i : ℕ) (status : TransferStatus) (r : SubmitResult) : IsocStream :=
  (isoCallback (fun c (_ : Unit) ↦ c) s () i status [] r).1

/-- The steps of the audio stream. -/
inductive Step : AudioStream → Action → AudioStream → Prop
  /-- `freenect_start_audio`: between its two calls of `fnusb_start_iso` libusb handles no event. -/
  | start {s : AudioStream} {ins outs : List StartResult} (stopped : s.phase = .stopped)
      (idle : s.running = false) :
      Step s (.start ins outs) {
        running := true
        inIsoc := startIso s.inIsoc ins
        outIsoc := startIso s.outIsoc outs
        phase := .streaming }
  | eventIn {s : AudioStream} {i : ℕ} {status : TransferStatus} {r : SubmitResult}
      (inFlight : s.inIsoc.xfers[i]? = some .inFlight) :
      Step s (.eventIn i status r) { s with inIsoc := onEvent s.inIsoc i status r }
  | eventOut {s : AudioStream} {i : ℕ} {status : TransferStatus} {r : SubmitResult}
      (inFlight : s.outIsoc.xfers[i]? = some .inFlight) :
      Step s (.eventOut i status r) { s with outIsoc := onEvent s.outIsoc i status r }
  /-- `freenect_stop_audio` up to its first wait loop. -/
  | stop {s : AudioStream} (streaming : s.phase = .streaming) (running : s.running = true) :
      Step s .stop { s with
        running := false, inIsoc := beginStopIso s.inIsoc, phase := .drainingIn }
  /-- From the first wait loop to the second. -/
  | stopOut {s : AudioStream} (draining : s.phase = .drainingIn)
      (done : ¬ s.inIsoc.deadXfers < s.inIsoc.numXfers) :
      Step s .stopOut { s with outIsoc := beginStopIso s.outIsoc, phase := .drainingOut }
  /-- The end of `freenect_stop_audio`. -/
  | finish {s : AudioStream} (draining : s.phase = .drainingOut)
      (done : ¬ s.outIsoc.deadXfers < s.outIsoc.numXfers) :
      Step s .finish { s with phase := .stopped }

/-- What holds of the audio stream at any time. -/
structure AudioInv (s : AudioStream) : Prop where
  accountedIn : s.inIsoc.Accounted
  accountedOut : s.outIsoc.Accounted
  running_iff : s.running = true ↔ s.phase = .streaming
  noneIn : s.phase = .drainingOut ∨ s.phase = .stopped → s.inIsoc.inFlight = 0
  noneOut : s.phase = .stopped → s.outIsoc.inFlight = 0

/-- A fresh device. -/
theorem audioInv_zero : AudioInv .zero :=
  ⟨⟨rfl, rfl⟩, ⟨rfl, rfl⟩, by decide, fun _ ↦ rfl, fun _ ↦ rfl⟩

/-- A callback keeps the account. -/
theorem accounted_onEvent {s : IsocStream} {i : ℕ} {status : TransferStatus} {r : SubmitResult}
    (h : s.Accounted) (hi : s.xfers[i]? = some .inFlight) : (onEvent s i status r).Accounted :=
  IsocStream.accounted_isoCallback h hi

/-- Where nothing is in flight no callback can come. -/
theorem ne_inFlight {s : IsocStream} (h : s.inFlight = 0) (i : ℕ) :
    s.xfers[i]? ≠ some .inFlight := by
  intro hi
  have hpos : 0 < s.inFlight := List.count_pos_iff.2 (List.mem_of_getElem? hi)
  omega

variable {s t : AudioStream} {a : Action}

/-- **Every step of the audio stream keeps its invariant.** -/
theorem Step.audioInv (h : Step s a t) (hs : s.AudioInv) : t.AudioInv := by
  cases h with
  | start stopped idle =>
    exact ⟨IsocStream.accounted_startIso _ _, IsocStream.accounted_startIso _ _, by simp,
      by simp, by simp⟩
  | eventIn inFlight =>
    exact ⟨accounted_onEvent hs.accountedIn inFlight, hs.accountedOut, hs.running_iff,
      fun hp ↦ absurd inFlight (ne_inFlight (hs.noneIn hp) _), hs.noneOut⟩
  | eventOut inFlight =>
    exact ⟨hs.accountedIn, accounted_onEvent hs.accountedOut inFlight, hs.running_iff, hs.noneIn,
      fun hp ↦ absurd inFlight (ne_inFlight (hs.noneOut hp) _)⟩
  | stop streaming running =>
    exact ⟨⟨hs.accountedIn.length, hs.accountedIn.count⟩, hs.accountedOut, by simp, by simp,
      by simp⟩
  | stopOut draining done =>
    refine ⟨hs.accountedIn, ⟨hs.accountedOut.length, hs.accountedOut.count⟩, ?_,
      fun _ ↦ hs.accountedIn.inFlight_eq_zero_iff.2 done, by simp⟩
    simpa [draining] using hs.running_iff
  | finish draining done =>
    refine ⟨hs.accountedIn, hs.accountedOut, ?_, fun _ ↦ hs.noneIn (Or.inl draining),
      fun _ ↦ hs.accountedOut.inFlight_eq_zero_iff.2 done⟩
    simpa [draining] using hs.running_iff

end AudioStream

/-! ### The device

`Closing` says how far the device has come in being closed. A device that is freed keeps its
transfers, because nothing takes them back; that is what the events of such a device are. -/

/-- How far a device has come in being closed. -/
inductive Closing
  | open
  /-- Inside `freenect_close_device`. -/
  | teardown
  /-- Freed by `freenect_close_device`. -/
  | freed
  deriving DecidableEq, Repr

/-- `freenect_device`: which subdevices are open (`usb_cam.dev` and `usb_audio.dev`), and the
streams. -/
structure Device where
  hasCam : Bool
  hasAudio : Bool
  depth : CameraStream
  video : CameraStream
  audio : AudioStream
  closing : Closing
  deriving DecidableEq, Repr

namespace Device

/-- A freshly opened device. -/
def fresh (hasCam hasAudio : Bool) : Device where
  hasCam := hasCam
  hasAudio := hasAudio
  depth := .zero
  video := .zero
  audio := .zero
  closing := .open

/-- No call on this device is under way. -/
structure AtRest (d : Device) : Prop where
  depth : d.depth.phase = .stopped ∨ d.depth.phase = .streaming
  video : d.video.phase = .stopped ∨ d.video.phase = .streaming
  audio : d.audio.phase = .stopped ∨ d.audio.phase = .streaming

/-- What can happen to a device. -/
inductive Action
  | depth (a : CameraStream.Action)
  | video (a : CameraStream.Action)
  | audio (a : AudioStream.Action)
  | close
  | free
  deriving DecidableEq, Repr

/-- `freenect_camera_teardown` up to where it first calls libusb. Both stopping branches of the
source return, so that it stops at most one stream; the rest of `freenect_stop_depth` or
`freenect_stop_video` are the later steps of that stream. -/
def cameraTeardown (d : Device) : Device :=
  if d.depth.strm.running then { d with depth := d.depth.beginStop }
  else if d.video.strm.running then { d with video := d.video.beginStop }
  else d

/-- `freenect_close_device` up to where it first calls libusb. -/
def beginClose (d : Device) : Device :=
  if d.hasCam then { d.cameraTeardown with closing := .teardown }
  else { d with closing := .teardown }

end Device

/-- Whether an action is the beginning of a call the client makes. The others are events and the
rest of a call that has begun. -/
def CameraStream.Action.begins : CameraStream.Action → Bool
  | refuse _ _ | start _ | setbuf _ | stop => true
  | started | event _ _ _ _ | cancel | finish => false

@[inherit_doc CameraStream.Action.begins]
def AudioStream.Action.begins : AudioStream.Action → Bool
  | start _ _ | stop => true
  | eventIn _ _ _ | eventOut _ _ _ | stopOut | finish => false

namespace Device

/-- A call may begin: the device is open and no other call is under way. -/
def Idle (d : Device) : Prop := d.closing = .open ∧ d.AtRest

/-- The steps of a device. Nothing can be called on a subdevice that is not open: libusb would be
handed a null pointer. -/
inductive Step : Device → Action → Device → Prop
  | depth {d : Device} {a : CameraStream.Action} {s : CameraStream}
      (step : CameraStream.Step d.depth a s) (idle : a.begins → d.Idle ∧ d.hasCam) :
      Step d (.depth a) { d with depth := s }
  | video {d : Device} {a : CameraStream.Action} {s : CameraStream}
      (step : CameraStream.Step d.video a s) (idle : a.begins → d.Idle ∧ d.hasCam) :
      Step d (.video a) { d with video := s }
  | audio {d : Device} {a : AudioStream.Action} {s : AudioStream}
      (step : AudioStream.Step d.audio a s) (idle : a.begins → d.Idle ∧ d.hasAudio) :
      Step d (.audio a) { d with audio := s }
  /-- `freenect_close_device` is called. -/
  | close {d : Device} (idle : d.Idle) : Step d .close d.beginClose
  /-- The rest of `freenect_close_device`: the subdevices are closed and the device is freed. -/
  | free {d : Device} (teardown : d.closing = .teardown) (rest : d.AtRest) :
      Step d .free { d with closing := .freed }

/-- A device and all it can do. -/
def machine : Machine Device Action where
  init d := ∃ hasCam hasAudio, d = fresh hasCam hasAudio
  step := Step

/-! ### The invariant of a device

The three streams have their own invariants. Besides, a camera stream of a device without a camera
was never started, and a device that is freed was at rest. -/

/-- What holds of a device at any time. -/
structure DeviceInv (d : Device) : Prop where
  depth : d.depth.StreamInv
  video : d.video.StreamInv
  audio : d.audio.AudioInv
  noCam : d.hasCam = false → d.depth.phase = .stopped ∧ d.video.phase = .stopped
  freed : d.closing = .freed → d.AtRest

/-- A freshly opened device. -/
theorem deviceInv_fresh (hasCam hasAudio : Bool) : DeviceInv (fresh hasCam hasAudio) :=
  ⟨CameraStream.streamInv_zero, CameraStream.streamInv_zero, AudioStream.audioInv_zero,
    fun _ ↦ ⟨rfl, rfl⟩, fun h ↦ nomatch h⟩

end Device

end Freenect
