import Freenect.Sync.ChangeFormat

/-!
# The device of the C++ wrapper

`FreenectDevice` of `libfreenect.hpp` remembers the format and the resolution of both streams. To
set another one it stops the stream, sets the mode and, if the stream was running, starts it again.
It throws if the mode cannot be set, or if there is no memory for the buffer of the video stream;
what `freenect_start_video` and `freenect_start_depth` return is ignored.

As in the synchronous wrapper the two functions differ in their stream only, and what is said of
them is said once, of `setFormat`. `keepsStream_iff` is the exact condition under which a running
stream keeps running. What is remembered is always the mode of the device (`recorded_run`).

There are three cases for a mode that is set, and each is brought into one equation.

* It is remembered as the one in use. Then nothing is done (`setFormat_of_recorded`), and the stream
  is in that mode only if what is remembered is right.
* The device does not have it. Then the stream has been stopped before the exception is thrown
  (`setFormat_of_not_supported`), so a stream that was running is lost.
* The device has it. Then it is set and remembered, and `FormatSet` says under what condition the
  stream runs again. Only the memory for the buffer can fail, and the start that the device refuses
  for high-resolution infrared next to depth, whose result nobody reads.

What is remembered is right from the constructor on, whatever it finds in the two formats
(`recorded_new`), so that the first case is harmless for a device that came from there.
-/

namespace Freenect

/-- What a call throws. -/
inductive Thrown
  | runtimeError (what : String)
  | badAlloc
  deriving DecidableEq, Repr

/-- What is answered while a format is set: by the lookup of the mode, and while the stream is
started. -/
structure SetFormatAnswers (φ : Type) where
  junk : FrameMode φ
  start : StartAnswers φ

/-- The answers for either stream. `buffer` is what `new` returns, `NULL` if it throws. -/
structure WrapperAnswers where
  video : SetFormatAnswers VideoFormat
  buffer : Ptr
  depth : SetFormatAnswers DepthFormat
  tables : TableAnswers

namespace WrapperAnswers

/-- There is memory for the buffer; depth needs none. -/
def Allocates (a : WrapperAnswers) : StreamKind → Prop
  | .video => a.buffer ≠ NULL
  | .depth => True

end WrapperAnswers

/-- `FreenectDevice`, with the device it is about. -/
structure FreenectDevice where
  dev : CameraDevice
  videoFormat : VideoFormat
  depthFormat : DepthFormat
  videoResolution : Resolution
  depthResolution : Resolution
  rgbBuffer : Ptr

namespace FreenectDevice

/-- `FreenectDevice::setVideoFormat`. -/
def setVideoFormat (d : FreenectDevice) (requestedFormat : VideoFormat)
    (requestedResolution : Resolution) (a : SetFormatAnswers VideoFormat) (buffer : Ptr) :
    FreenectDevice × Option Thrown :=
  if requestedFormat ≠ d.videoFormat ∨ requestedResolution ≠ d.videoResolution then
    let stopped := d.dev.stopVideo
    let wasRunning := decide (0 ≤ stopped.2)
    let mode := findVideoMode a.junk requestedResolution requestedFormat
    if mode.isValid = false then
      ({ d with dev := stopped.1 }, some (.runtimeError "Cannot set video format: invalid mode"))
    else
      let set := stopped.1.setVideoMode mode.reserved
      if set.2 < 0 then
        ({ d with dev := set.1 }, some (.runtimeError "Cannot set video format"))
      else
        let d :=
          { d with
            dev := set.1
            videoFormat := requestedFormat
            videoResolution := requestedResolution }
        if buffer = NULL then (d, some .badAlloc)
        else
          let d := { d with rgbBuffer := buffer }
          let d := { d with dev := (d.dev.setVideoBuffer d.rgbBuffer).1 }
          if wasRunning = true then ({ d with dev := (d.dev.startVideo a.start).1 }, none)
          else (d, none)
  else (d, none)

/-- `FreenectDevice::setDepthFormat`. -/
def setDepthFormat (d : FreenectDevice) (requestedFormat : DepthFormat)
    (requestedResolution : Resolution) (a : SetFormatAnswers DepthFormat) (t : TableAnswers) :
    FreenectDevice × Option Thrown :=
  if requestedFormat ≠ d.depthFormat ∨ requestedResolution ≠ d.depthResolution then
    let stopped := d.dev.stopDepth
    let wasRunning := decide (0 ≤ stopped.2)
    let mode := findDepthMode a.junk requestedResolution requestedFormat
    if mode.isValid = false then
      ({ d with dev := stopped.1 }, some (.runtimeError "Cannot set depth format: invalid mode"))
    else
      let set := stopped.1.setDepthMode mode.reserved
      if set.2 < 0 then
        ({ d with dev := set.1 }, some (.runtimeError "Cannot set depth format"))
      else
        let dev := if wasRunning = true then (set.1.startDepth a.start t).1 else set.1
        ({ d with
          dev := dev
          depthFormat := requestedFormat
          depthResolution := requestedResolution }, none)
  else (d, none)

/-- A device that has just been opened. The two formats are not initialised. -/
def opened (videoFormat : VideoFormat) (depthFormat : DepthFormat) : FreenectDevice where
  dev := .opened
  videoFormat := videoFormat
  depthFormat := depthFormat
  videoResolution := .medium
  depthResolution := .medium
  rgbBuffer := NULL

/-- The constructor, for a device that can be opened. -/
def new (videoFormat : VideoFormat) (depthFormat : DepthFormat) (a : WrapperAnswers) :
    Option FreenectDevice :=
  match (opened videoFormat depthFormat).setVideoFormat .rgb .medium a.video a.buffer with
  | (_, some _) => none
  | (d, none) =>
    match d.setDepthFormat .d11Bit .medium a.depth a.tables with
    | (_, some _) => none
    | (d, none) => some d

/-- Setting the format that a mode asks for. -/
def setFormat (d : FreenectDevice) (a : WrapperAnswers) : Mode → FreenectDevice × Option Thrown
  | .video res fmt => d.setVideoFormat fmt res a.video a.buffer
  | .depth res fmt => d.setDepthFormat fmt res a.depth a.tables

/-- A call of libfreenect whose failure is thrown. -/
def orThrow (d : FreenectDevice) (r : CameraDevice × ℤ) (what : String) :
    FreenectDevice × Option Thrown :=
  ({ d with dev := r.1 }, if r.2 < 0 then some (.runtimeError what) else none)

/-- `FreenectDevice::startVideo`. -/
def startVideo (d : FreenectDevice) (a : StartAnswers VideoFormat) :
    FreenectDevice × Option Thrown :=
  d.orThrow (d.dev.startVideo a) "Cannot start RGB callback"

/-- `FreenectDevice::stopVideo`. -/
def stopVideo (d : FreenectDevice) : FreenectDevice × Option Thrown :=
  d.orThrow d.dev.stopVideo "Cannot stop RGB callback"

/-- `FreenectDevice::startDepth`. -/
def startDepth (d : FreenectDevice) (a : StartAnswers DepthFormat) (t : TableAnswers) :
    FreenectDevice × Option Thrown :=
  d.orThrow (d.dev.startDepth a t) "Cannot start depth callback"

/-- `FreenectDevice::stopDepth`. -/
def stopDepth (d : FreenectDevice) : FreenectDevice × Option Thrown :=
  d.orThrow d.dev.stopDepth "Cannot stop depth callback"

/-- The calls that concern the streams. -/
inductive Call
  | setFormat (m : Mode) (a : WrapperAnswers)
  | startVideo (a : StartAnswers VideoFormat)
  | stopVideo
  | startDepth (a : StartAnswers DepthFormat) (t : TableAnswers)
  | stopDepth

/-- One call. -/
def step (d : FreenectDevice) : Call → FreenectDevice × Option Thrown
  | .setFormat m a => d.setFormat a m
  | .startVideo a => d.startVideo a
  | .stopVideo => d.stopVideo
  | .startDepth a t => d.startDepth a t
  | .stopDepth => d.stopDepth

/-- The mode that is remembered of a stream. -/
def recorded (d : FreenectDevice) : StreamKind → Mode
  | .video => .video d.videoResolution d.videoFormat
  | .depth => .depth d.depthResolution d.depthFormat

/-- A stream is running. -/
def running (d : FreenectDevice) (kind : StreamKind) : Bool := (d.dev.stream kind).strm.running

/-- What is remembered is the mode of the device. -/
def Recorded (d : FreenectDevice) : Prop := ∀ kind, d.dev.mode kind = d.recorded kind

/-- **Setting a format keeps the stream**: with an exception nothing about it has changed, and
otherwise it is in the mode asked for, and running if it was before. -/
structure KeepsStream (d : FreenectDevice) (m : Mode) (o : FreenectDevice × Option Thrown) :
    Prop where
  thrown : o.2 ≠ none → o.1.running m.kind = d.running m.kind ∧
    o.1.dev.mode m.kind = d.dev.mode m.kind ∧ o.1.recorded m.kind = d.recorded m.kind
  returned : o.2 = none → o.1.dev.mode m.kind = m ∧ o.1.running m.kind = d.running m.kind

/-- What comes of setting a mode that the device has: it is set and remembered, and without an
exception the stream runs if it was running and can be started in the mode. -/
structure FormatSet (d : FreenectDevice) (a : WrapperAnswers) (m : Mode)
    (o : FreenectDevice × Option Thrown) : Prop where
  mode : o.1.dev.mode m.kind = m
  recorded : o.1.recorded m.kind = m
  apart : ∀ i, i ≠ m.kind → o.1.dev.mode i = d.dev.mode i ∧ o.1.recorded i = d.recorded i
  returns : o.2 = none ↔ a.Allocates m.kind
  running : o.2 = none → (o.1.running m.kind = true ↔
    d.running m.kind = true ∧ ¬ (m.HighResIr ∧ d.running .depth = true))

end FreenectDevice

/-! ### Single calls

Here the streams are those of `Freenect.CameraDevice`, and these lemmas are what is used of them. -/

section Calls

/-- A table of valid modes: the lookup says whether it succeeds. -/
theorem findMode_isValid {φ : Type} {modes : List (FrameMode φ)}
    (hvalid : ∀ mode ∈ modes, mode.isValid = true) (junk : FrameMode φ) (uniqueId : ℕ) :
    (findMode modes junk uniqueId).isValid =
      (modes.find? fun mode ↦ mode.reserved = uniqueId).isSome := by
  rw [findMode]
  cases hfind : modes.find? fun mode ↦ mode.reserved = uniqueId with
  | none => rfl
  | some mode => exact hvalid mode (List.mem_of_find?_eq_some hfind)

/-- A video mode is found if the device has it. -/
theorem findVideoMode_isValid {junk : FrameMode VideoFormat} {res : Resolution}
    {fmt : VideoFormat} :
    (findVideoMode junk res fmt).isValid = false ↔ ¬ VideoSupported res fmt := by
  rw [findVideoMode, findMode_isValid (by decide), VideoSupported, Bool.not_eq_true]

theorem findDepthMode_isValid {junk : FrameMode DepthFormat} {res : Resolution}
    {fmt : DepthFormat} :
    (findDepthMode junk res fmt).isValid = false ↔ ¬ DepthSupported res fmt := by
  rw [findDepthMode, findMode_isValid (by decide), DepthSupported, Bool.not_eq_true]

/-- A stop function succeeds on a running stream. -/
theorem OwnedStream.stop_succeeds_iff {s : OwnedStream} :
    0 ≤ s.stop.2 ↔ s.strm.running = true := by
  rw [stop]
  split
  next hrun => exact iff_of_false (show ¬ (0 : ℤ) ≤ -1 by decide) hrun
  next hrun => exact iff_of_true (Int.le_refl 0) (not_not.1 hrun)

/-- A stopped stream that is started under a condition. -/
theorem CameraDevice.restart (kind : StreamKind) {s t : CameraDevice} {started : Prop}
    (hrun : (s.stream kind).strm.running = false) (hmode : t.mode = s.mode)
    (hstart : (t.stream kind).strm.running = true ↔ started) (c : Prop) [Decidable c] :
    (if c then t else s).mode = s.mode ∧
      (((if c then t else s).stream kind).strm.running = true ↔ c ∧ started) := by
  split
  next hc => exact ⟨hmode, hstart.trans (and_iff_right hc).symm⟩
  next hc => exact ⟨rfl, iff_of_false (by rw [hrun]; decide) fun h ↦ hc h.1⟩

/-- It runs unless it is high-resolution infrared next to depth. -/
theorem CameraDevice.restartVideo {s : CameraDevice} (hrun : s.video.strm.running = false)
    (hsup : (s.mode .video).Supported) (c : Prop) [Decidable c] (a : StartAnswers VideoFormat) :
    (if c then (s.startVideo a).1 else s).mode = s.mode ∧
      ((if c then (s.startVideo a).1 else s).video.strm.running = true ↔
        c ∧ ¬ ((s.mode .video).HighResIr ∧ s.depth.strm.running = true)) := by
  have hacc := Mode.accepted_iff hsup s.depth.strm.running
  have hstart := (s.startVideo_running hrun a).1.trans hacc
  exact restart .video hrun (startVideo_frame s a).2 hstart c

/-- The same for depth, none of whose modes is high-resolution infrared. -/
theorem CameraDevice.restartDepth {s : CameraDevice} (hrun : s.depth.strm.running = false)
    (hsup : (s.mode .depth).Supported) (c : Prop) [Decidable c] (a : StartAnswers DepthFormat)
    (t : TableAnswers) :
    (if c then (s.startDepth a t).1 else s).mode = s.mode ∧
      ((if c then (s.startDepth a t).1 else s).depth.strm.running = true ↔
        c ∧ ¬ ((s.mode .depth).HighResIr ∧ s.depth.strm.running = true)) := by
  have hacc := Mode.accepted_iff hsup s.depth.strm.running
  have hstart := (s.startDepth_running hrun a t).1.trans hacc
  exact restart .depth hrun (startDepth_frame s a t).2 hstart c

end Calls

/-! ### Setting a format

The equations come first, for video and for depth apart since the functions are, and then what both
have in common. -/

namespace FreenectDevice

variable {d : FreenectDevice} {a : WrapperAnswers} {m : Mode}

/-- The mode that is remembered is not set again. -/
theorem setFormat_of_recorded (h : m = d.recorded m.kind) : d.setFormat a m = (d, none) := by
  cases m with
  | video res fmt =>
    obtain ⟨rfl, rfl⟩ := Mode.video.inj h
    exact if_neg fun hne ↦ hne.elim (fun h ↦ h rfl) fun h ↦ h rfl
  | depth res fmt =>
    obtain ⟨rfl, rfl⟩ := Mode.depth.inj h
    exact if_neg fun hne ↦ hne.elim (fun h ↦ h rfl) fun h ↦ h rfl

/-- A mode that is not the one remembered differs in its format or in its resolution. -/
theorem ne_of_ne_recorded_video {res : Resolution} {fmt : VideoFormat}
    (h : Mode.video res fmt ≠ d.recorded .video) : fmt ≠ d.videoFormat ∨ res ≠ d.videoResolution :=
  not_and_or.1 fun ⟨hfmt, hres⟩ ↦ h (congrArg₂ Mode.video hres hfmt)

/-- The same for depth. -/
theorem ne_of_ne_recorded_depth {res : Resolution} {fmt : DepthFormat}
    (h : Mode.depth res fmt ≠ d.recorded .depth) : fmt ≠ d.depthFormat ∨ res ≠ d.depthResolution :=
  not_and_or.1 fun ⟨hfmt, hres⟩ ↦ h (congrArg₂ Mode.depth hres hfmt)

/-- Of a mode that the device does not have the lookup fails, when the stream is stopped already. -/
theorem setFormat_of_not_supported (hne : m ≠ d.recorded m.kind) (hsup : ¬ m.Supported) :
    ∃ dev what, d.setFormat a m = ({ d with dev := dev }, some (.runtimeError what)) ∧
      (dev.stream m.kind).strm.running = false ∧ dev.mode = d.dev.mode := by
  cases m with
  | video res fmt =>
    refine ⟨d.dev.stopVideo.1, "Cannot set video format: invalid mode", ?_,
      OwnedStream.stop_running, rfl⟩
    show d.setVideoFormat fmt res a.video a.buffer = _
    rw [setVideoFormat, if_pos (ne_of_ne_recorded_video hne)]
    exact if_pos (findVideoMode_isValid.2 hsup)
  | depth res fmt =>
    refine ⟨d.dev.stopDepth.1, "Cannot set depth format: invalid mode", ?_,
      OwnedStream.stop_running, rfl⟩
    show d.setDepthFormat fmt res a.depth a.tables = _
    rw [setDepthFormat, if_pos (ne_of_ne_recorded_depth hne)]
    exact if_pos (findDepthMode_isValid.2 hsup)

/-- The device after its video mode has been set. -/
def withVideoMode (d : FreenectDevice) (fmt : VideoFormat) (res : Resolution) : FreenectDevice :=
  { d with
    dev :=
      { d.dev.stopVideo.1 with
        videoFormat := fmt
        videoResolution := res }
    videoFormat := fmt
    videoResolution := res }

/-- A mode that the device has: the function without its branches for a failure. There is memory for
the buffer, or not. -/
theorem setVideoFormat_of_supported {fmt : VideoFormat} {res : Resolution}
    (hne : Mode.video res fmt ≠ d.recorded .video) (hsup : VideoSupported res fmt)
    (a : SetFormatAnswers VideoFormat) (buffer : Ptr) :
    d.setVideoFormat fmt res a buffer =
      let d' := d.withVideoMode fmt res
      if buffer = NULL then (d', some .badAlloc)
      else
        let dev := (d'.dev.setVideoBuffer buffer).1
        ({ d' with
          dev := if 0 ≤ d.dev.stopVideo.2 then (dev.startVideo a.start).1 else dev
          rgbBuffer := buffer }, none) := by
  have hstopped : d.dev.stopVideo.1.video.strm.running = false :=
    OwnedStream.stop_running
  rw [setVideoFormat, if_pos (ne_of_ne_recorded_video hne)]
  dsimp only
  rw [if_neg fun h ↦ findVideoMode_isValid.1 h hsup,
    CameraDevice.setVideoMode_of_supported hstopped hsup]
  dsimp only
  rw [if_neg (Int.lt_irrefl 0)]
  refine if_congr Iff.rfl rfl ?_
  simp only [decide_eq_true_eq]
  split
  · rfl
  · rfl

/-- The same for depth, which needs no buffer. -/
theorem setDepthFormat_of_supported {fmt : DepthFormat} {res : Resolution}
    (hne : Mode.depth res fmt ≠ d.recorded .depth) (hsup : DepthSupported res fmt)
    (a : SetFormatAnswers DepthFormat) (t : TableAnswers) :
    d.setDepthFormat fmt res a t =
      let dev :=
        { d.dev.stopDepth.1 with
          depthFormat := fmt
          depthResolution := res }
      ({ d with
        dev := if 0 ≤ d.dev.stopDepth.2 then (dev.startDepth a.start t).1 else dev
        depthFormat := fmt
        depthResolution := res }, none) := by
  have hstopped : d.dev.stopDepth.1.depth.strm.running = false :=
    OwnedStream.stop_running
  rw [setDepthFormat, if_pos (ne_of_ne_recorded_depth hne)]
  dsimp only
  rw [if_neg fun h ↦ findDepthMode_isValid.1 h hsup,
    CameraDevice.setDepthMode_of_supported hstopped hsup]
  dsimp only
  rw [if_neg (Int.lt_irrefl 0)]
  simp only [decide_eq_true_eq]

/-- What comes of it for video. -/
theorem formatSet_video {res : Resolution} {fmt : VideoFormat}
    (hne : Mode.video res fmt ≠ d.recorded .video) (hsup : VideoSupported res fmt)
    (a : WrapperAnswers) :
    FormatSet d a (.video res fmt) (d.setVideoFormat fmt res a.video a.buffer) := by
  rw [setVideoFormat_of_supported hne hsup]
  dsimp only
  split
  -- without a buffer the exception comes before the stream is started again
  next hbuffer =>
    refine ⟨rfl, rfl, fun i hi ↦ ?_, iff_of_false nofun fun h ↦ h hbuffer, nofun⟩
    cases i with
    | video => exact absurd rfl hi
    | depth => exact ⟨rfl, rfl⟩
  next hbuffer =>
    have hrun : ((d.withVideoMode fmt res).dev.setVideoBuffer
        a.buffer).1.video.strm.running = false :=
      OwnedStream.setbuf_running.trans OwnedStream.stop_running
    obtain ⟨hmode, hrunning⟩ := CameraDevice.restartVideo hrun hsup
      (0 ≤ d.dev.stopVideo.2) a.video.start
    refine ⟨congrFun hmode .video, rfl, fun i hi ↦ ?_, iff_of_true rfl hbuffer, fun _ ↦
      hrunning.trans (and_congr_left fun _ ↦ OwnedStream.stop_succeeds_iff)⟩
    cases i with
    | video => exact absurd rfl hi
    | depth => exact ⟨congrFun hmode .depth, rfl⟩

theorem formatSet_depth {res : Resolution} {fmt : DepthFormat}
    (hne : Mode.depth res fmt ≠ d.recorded .depth) (hsup : DepthSupported res fmt)
    (a : WrapperAnswers) :
    FormatSet d a (.depth res fmt) (d.setDepthFormat fmt res a.depth a.tables) := by
  rw [setDepthFormat_of_supported hne hsup]
  obtain ⟨hmode, hrunning⟩ := CameraDevice.restartDepth
    (s :=
      { d.dev.stopDepth.1 with
        depthFormat := fmt
        depthResolution := res })
    OwnedStream.stop_running hsup (0 ≤ d.dev.stopDepth.2) a.depth.start a.tables
  refine ⟨congrFun hmode .depth, rfl, fun i hi ↦ ?_, iff_of_true rfl trivial, fun _ ↦
    hrunning.trans ?_⟩
  · cases i with
    | video => exact ⟨congrFun hmode .video, rfl⟩
    | depth => exact absurd rfl hi
  · -- the second clause is about video modes
    exact and_congr OwnedStream.stop_succeeds_iff (iff_of_true (fun h ↦ h.1) fun h ↦ h.1)

/-- **What comes of a mode that the device has**, for either stream. -/
theorem setFormat_of_supported (hne : m ≠ d.recorded m.kind) (hsup : m.Supported) :
    FormatSet d a m (d.setFormat a m) := by
  cases m with
  | video res fmt => exact formatSet_video hne hsup a
  | depth res fmt => exact formatSet_depth hne hsup a

/-- The mode that is remembered: it all depends on whether that is right. -/
theorem keepsStream_of_recorded_iff (h : m = d.recorded m.kind) :
    KeepsStream d m (d.setFormat a m) ↔ d.dev.mode m.kind = m := by
  rw [setFormat_of_recorded h]
  constructor
  · exact fun hkeeps ↦ (hkeeps.returned rfl).1
  · exact fun hmode ↦ ⟨fun hthrown ↦ absurd rfl hthrown, fun _ ↦ ⟨hmode, rfl⟩⟩

/-- The exception comes too late for a stream that is running. -/
theorem keepsStream_of_not_supported_iff (hne : m ≠ d.recorded m.kind) (hsup : ¬ m.Supported) :
    KeepsStream d m (d.setFormat a m) ↔ d.running m.kind = false := by
  obtain ⟨dev, what, hset, hstopped, hmode⟩ := setFormat_of_not_supported (a := a) hne hsup
  rw [hset]
  constructor
  · intro h
    obtain ⟨hrunning, -⟩ := h.thrown nofun
    exact hrunning.symm.trans hstopped
  · intro hrun
    exact ⟨fun _ ↦ ⟨hstopped.trans hrun.symm, congrFun hmode _, rfl⟩, nofun⟩

/-- A mode that the device has: the stream runs again if there is memory, and if the device does not
refuse the start. -/
theorem keepsStream_of_supported_iff (hne : m ≠ d.recorded m.kind) (hsup : m.Supported) :
    KeepsStream d m (d.setFormat a m) ↔
      (d.running m.kind = true → ¬ (m.HighResIr ∧ d.running .depth = true)) ∧
        a.Allocates m.kind := by
  have hset := setFormat_of_supported (a := a) hne hsup
  constructor
  · intro h
    -- the mode is remembered already, so that there can be no exception
    have hreturns : (d.setFormat a m).2 = none := not_not.1 fun hthrown ↦
      hne (hset.recorded.symm.trans (h.thrown hthrown).2.2)
    refine ⟨fun hrun ↦ ?_, hset.returns.1 hreturns⟩
    exact ((hset.running hreturns).1 ((h.returned hreturns).2.trans hrun)).2
  · rintro ⟨hrun, hallocates⟩
    have hreturns := hset.returns.2 hallocates
    refine ⟨fun hthrown ↦ absurd hreturns hthrown, fun _ ↦ ⟨hset.mode, ?_⟩⟩
    exact Bool.eq_iff_iff.2 ((hset.running hreturns).trans ⟨fun h ↦ h.1, fun h ↦ ⟨h, hrun h⟩⟩)

/-- **The exact condition** under which setting a format keeps the stream: the mode of the device is
remembered rightly, if it is the one asked for; otherwise, a running stream can be started in the
mode, and there is memory for the buffer. -/
theorem keepsStream_iff : KeepsStream d m (d.setFormat a m) ↔
    (m = d.recorded m.kind → d.dev.mode m.kind = m) ∧
    (m ≠ d.recorded m.kind →
      (d.running m.kind = true → m.Supported ∧ ¬ (m.HighResIr ∧ d.running .depth = true)) ∧
      (m.Supported → a.Allocates m.kind)) := by
  rcases eq_or_ne m (d.recorded m.kind) with heq | hne
  · rw [keepsStream_of_recorded_iff heq, forall_prop_of_true heq]
    exact (and_iff_left fun hne ↦ absurd heq hne).symm
  rw [forall_prop_of_true hne, and_iff_right fun heq ↦ absurd heq hne]
  by_cases hsup : m.Supported
  · rw [keepsStream_of_supported_iff hne hsup, forall_prop_of_true hsup, and_iff_right hsup]
  · rw [keepsStream_of_not_supported_iff hne hsup, ← Bool.not_eq_true]
    constructor
    · exact fun hrun ↦ ⟨fun h ↦ absurd h hrun, fun h ↦ absurd h hsup⟩
    · exact fun h hrun ↦ hsup (h.1 hrun).1

/-! ### What is remembered -/

/-- A mode that the device has is set and remembered, unless it is remembered wrongly already. -/
theorem setFormat_mode (hsup : m.Supported) (h : m = d.recorded m.kind → d.dev.mode m.kind = m)
    (a : WrapperAnswers) :
    (d.setFormat a m).1.dev.mode m.kind = m ∧ (d.setFormat a m).1.recorded m.kind = m ∧
      ∀ i, i ≠ m.kind → (d.setFormat a m).1.dev.mode i = d.dev.mode i ∧
        (d.setFormat a m).1.recorded i = d.recorded i := by
  rcases eq_or_ne m (d.recorded m.kind) with heq | hne
  · rw [setFormat_of_recorded heq]
    exact ⟨h heq, heq.symm, fun _ _ ↦ ⟨rfl, rfl⟩⟩
  · have hset := setFormat_of_supported (a := a) hne hsup
    exact ⟨hset.mode, hset.recorded, hset.apart⟩

/-- What is remembered stays right when a format is set. -/
theorem recorded_setFormat (h : d.Recorded) (a : WrapperAnswers) (m : Mode) :
    (d.setFormat a m).1.Recorded := by
  by_cases hsup : m.Supported
  · obtain ⟨hmode, hrecorded, hapart⟩ := setFormat_mode hsup (fun heq ↦ (h _).trans heq.symm) a
    intro i
    rcases eq_or_ne i m.kind with rfl | hi
    · exact hmode.trans hrecorded.symm
    · obtain ⟨hmode, hrecorded⟩ := hapart i hi
      exact hmode.trans ((h i).trans hrecorded.symm)
  -- a mode that the device does not have is remembered by no call
  rcases eq_or_ne m (d.recorded m.kind) with heq | hne
  · rwa [setFormat_of_recorded heq]
  · obtain ⟨dev, what, hset, -, hmode⟩ := setFormat_of_not_supported (a := a) hne hsup
    rw [hset]
    exact fun i ↦ (congrFun hmode i).trans (h i)

/-- The other calls leave the modes alone. -/
theorem recorded_orThrow (h : d.Recorded) {r : CameraDevice × ℤ} (hmode : r.1.mode = d.dev.mode)
    (what : String) : (d.orThrow r what).1.Recorded :=
  fun i ↦ (congrFun hmode i).trans (h i)

/-- **And so it does in every call.** -/
theorem recorded_step (h : d.Recorded) (call : Call) : (d.step call).1.Recorded := by
  cases call with
  | setFormat m a => exact recorded_setFormat h a m
  | startVideo a => exact recorded_orThrow h (startVideo_frame d.dev a).2 _
  | stopVideo => exact recorded_orThrow h rfl _
  | startDepth a t => exact recorded_orThrow h (startDepth_frame d.dev a t).2 _
  | stopDepth => exact recorded_orThrow h rfl _

/-- Whatever the formats are that the constructor finds, in the end they are the ones set. -/
theorem recorded_new {videoFormat : VideoFormat} {depthFormat : DepthFormat}
    (h : new videoFormat depthFormat a = some d) : d.Recorded := by
  rw [new] at h
  split at h
  · cases h
  next d₁ hvideo =>
    split at h
    · cases h
    next d₂ hdepth =>
      obtain rfl := Option.some.inj h
      obtain ⟨hmode₁, hrecorded₁, hapart₁⟩ := setFormat_mode
        (d := opened videoFormat depthFormat) (m := .video .medium .rgb) (by decide) (fun _ ↦ rfl) a
      rw [show setFormat _ a (.video .medium .rgb) = _ from hvideo] at hmode₁ hrecorded₁ hapart₁
      obtain ⟨hmode₂, hrecorded₂, hapart₂⟩ := setFormat_mode (d := d₁) (m := .depth .medium .d11Bit)
        (by decide) (fun _ ↦ (hapart₁ .depth (by decide)).1) a
      rw [show d₁.setFormat a (.depth .medium .d11Bit) = _ from hdepth] at hmode₂ hrecorded₂ hapart₂
      intro i
      cases i with
      | video =>
        obtain ⟨hmode, hrecorded⟩ := hapart₂ .video (by decide)
        exact (hmode.trans hmode₁).trans (hrecorded.trans hrecorded₁).symm
      | depth => exact hmode₂.trans hrecorded₂.symm

/-- **What is remembered is always the mode of the device.** -/
theorem recorded_run {videoFormat : VideoFormat} {depthFormat : DepthFormat}
    (h : new videoFormat depthFormat a = some d) (calls : List Call) :
    (Mealy.run step d calls).Recorded :=
  Mealy.run_invariant (I := Recorded) (fun _ call hd ↦ recorded_step hd call) (recorded_new h) calls

end FreenectDevice

end Freenect
