import Freenect.OpenNI.ColorStream
import Freenect.OpenNI.FreenectDevice

/-!
# Setting the mode of an OpenNI stream

`DepthStream::setVideoMode` and `ColorStream::setVideoMode` look the requested mode up in a map from
modes to formats of libfreenect, and set the format that they find. The keys of the map are ordered
by the number of their pixels, so that two modes with as many pixels are the same key, whatever
their formats and frame rates (`equivalent_iff`).

With the depth registered to the color picture, `DepthStream::setVideoMode` tries another format
first, and if that throws falls back on the one it found. It never has to: the format is one that
the device has (`setFormat_returns`).

For either stream a call is one of two: with another number of pixels nothing is looked at any
further (`setVideoMode_of_ne`), and with the right number the lookup succeeds whatever else is asked
for (`setVideoMode_of_pixels`), so that only the memory for a buffer can be missing. What it means
that only supported modes are accepted is the same for both, and is proved once from these two
(`onlySupported_iff`). For the mode itself there is nothing to distinguish the two; for any other
with as many pixels the answer is `ok` where it should not be.

The last results are about the format as `FreenectDevice` sets it, which is where a stream can be
lost.
-/

namespace Freenect

/-! ### The streams -/

/-- `OniStatus`, as far as `setVideoMode` returns it. -/
inductive ModeStatus
  | ok
  | notSupported
  deriving DecidableEq

/-- `OniImageRegistrationMode`. -/
inductive OniImageRegistrationMode
  | off
  | depthToColor
  deriving DecidableEq

/-- The value of an enumerator. -/
def OniImageRegistrationMode.toNat : OniImageRegistrationMode → ℕ
  | off => 0
  | depthToColor => 1

/-- `DepthStream`. -/
structure DepthStream extends VideoStream where
  imageRegistrationMode : OniImageRegistrationMode

namespace OniVideoMode

/-- The product that `operator<` compares. It wraps. -/
def pixels (mode : OniVideoMode) : Int32 := mode.resolutionX * mode.resolutionY

/-- `operator<`. -/
def Lt (left right : OniVideoMode) : Prop := left.pixels < right.pixels

instance (left right : OniVideoMode) : Decidable (left.Lt right) :=
  inferInstanceAs (Decidable (left.pixels < right.pixels))

/-- Two keys that a `std::map` does not tell apart. -/
def Equivalent (left right : OniVideoMode) : Prop := ¬ left.Lt right ∧ ¬ right.Lt left

instance (left right : OniVideoMode) : Decidable (left.Equivalent right) :=
  inferInstanceAs (Decidable (_ ∧ _))

/-- **Modes with as many pixels are one key.** -/
theorem equivalent_iff {left right : OniVideoMode} :
    left.Equivalent right ↔ left.pixels = right.pixels := by
  constructor
  · rintro ⟨hlt, hgt⟩
    exact Int32.le_antisymm (Int32.not_lt.1 hgt) (Int32.not_lt.1 hlt)
  · intro h
    rw [Equivalent, Lt, Lt, h]
    exact ⟨Int32.lt_irrefl, Int32.lt_irrefl⟩

end OniVideoMode

/-- A `std::map` from modes. -/
abbrev VideoModeMap (φ : Type) := List (OniVideoMode × φ)

/-- `std::map::find`, with the value it finds. -/
def VideoModeMap.find {φ : Type} (modes : VideoModeMap φ) (mode : OniVideoMode) : Option φ :=
  (modes.find? fun entry ↦ entry.1.Equivalent mode).map Prod.snd

namespace DepthStream

/-- `DepthStream::getSupportedVideoModes`: `ONI_PIXEL_FORMAT_DEPTH_1_MM` is 100. -/
def getSupportedVideoModes : VideoModeMap (DepthFormat × Resolution) :=
  [(⟨100, 640, 480, 30⟩, (.mm, .medium))]

/-- `DepthStream::setVideoMode`. There are answers for the attempt in either registration mode. -/
def setVideoMode (s : DepthStream) (d : FreenectDevice) (requestedMode : OniVideoMode)
    (a : OniImageRegistrationMode → WrapperAnswers) :
    DepthStream × FreenectDevice × Except Thrown ModeStatus :=
  match getSupportedVideoModes.find requestedMode with
  | none => (s, d, .ok .notSupported)
  | some (format, resolution) =>
    let format := if s.imageRegistrationMode = .depthToColor then .registered else format
    let answers := a s.imageRegistrationMode
    match d.setDepthFormat format resolution answers.depth answers.tables with
    | (d, none) => ({ s with videoMode := requestedMode }, d, .ok .ok)
    | (d, some .badAlloc) => (s, d, .error .badAlloc)
    | (d, some (.runtimeError _)) =>
      if _h : s.imageRegistrationMode = .depthToColor then
        setVideoMode { s with imageRegistrationMode := .off } d requestedMode a
      else (s, d, .ok .notSupported)
  termination_by s.imageRegistrationMode.toNat
  decreasing_by
    rw [_h]
    decide

end DepthStream

namespace ColorStream

/-- `ColorStream::getSupportedVideoModes`: `ONI_PIXEL_FORMAT_RGB888` is 200. -/
def getSupportedVideoModes : VideoModeMap (VideoFormat × Resolution) :=
  [(⟨200, 640, 480, 30⟩, (.rgb, .medium))]

/-- `ColorStream::setVideoMode`. -/
def setVideoMode (s : ColorStream) (d : FreenectDevice) (requestedMode : OniVideoMode)
    (a : WrapperAnswers) : ColorStream × FreenectDevice × Except Thrown ModeStatus :=
  match getSupportedVideoModes.find requestedMode with
  | none => (s, d, .ok .notSupported)
  | some (format, resolution) =>
    match d.setVideoFormat format resolution a.video a.buffer with
    | (d, none) => ({ s with videoMode := requestedMode }, d, .ok .ok)
    | (d, some .badAlloc) => (s, d, .error .badAlloc)
    | (d, some (.runtimeError _)) => (s, d, .ok .notSupported)

end ColorStream

/-- **Only supported modes are accepted**: the status is `ok` only if the mode is one of the keys,
and otherwise neither the mode of the stream nor that of the device has changed. -/
structure OnlySupported {φ : Type} (supported : VideoModeMap φ) (requestedMode : OniVideoMode)
    (kind : StreamKind) (before after : VideoStream × FreenectDevice)
    (status : Except Thrown ModeStatus) : Prop where
  accepted : status = .ok .ok → requestedMode ∈ supported.map Prod.fst
  rejected : requestedMode ∉ supported.map Prod.fst → after.1.videoMode = before.1.videoMode ∧
    after.2.dev.mode kind = before.2.dev.mode kind ∧
    after.2.recorded kind = before.2.recorded kind

/-- **The fallback runs**: if the depth stream is running, and registered depth cannot be set, then
after the fallback it is running still. -/
def FallbackRuns (s : DepthStream) (d : FreenectDevice) (requestedMode : OniVideoMode)
    (a : OniImageRegistrationMode → WrapperAnswers) : Prop :=
  s.imageRegistrationMode = .depthToColor → d.running .depth = true →
    (d.setDepthFormat .registered .medium (a .depthToColor).depth (a .depthToColor).tables).2 ≠
      none →
    (s.setVideoMode d requestedMode a).2.1.running .depth = true

/-! ### The calls

The supported modes of a stream are a map with one key, and a lookup in it compares two numbers of
pixels. -/

section Calls

variable {d : FreenectDevice} {requestedMode : OniVideoMode}

/-- The lookup in a map with one key. -/
theorem VideoModeMap.find_singleton {φ : Type} (mode requestedMode : OniVideoMode) (v : φ) :
    VideoModeMap.find [(mode, v)] requestedMode =
      if mode.pixels = requestedMode.pixels then some v else none := by
  rw [find, List.find?_cons, List.find?_nil]
  split
  next h => rw [if_pos (OniVideoMode.equivalent_iff.1 (of_decide_eq_true h)), Option.map_some]
  next h =>
    rw [if_neg fun heq ↦ of_decide_eq_false h (OniVideoMode.equivalent_iff.2 heq), Option.map_none]

/-- A mode that the device has is set without an exception, if there is memory. -/
theorem FreenectDevice.setFormat_returns {a : WrapperAnswers} {m : Mode} (hsup : m.Supported)
    (hallocates : a.Allocates m.kind) : (d.setFormat a m).2 = none := by
  rcases eq_or_ne m (d.recorded m.kind) with heq | hne
  · rw [setFormat_of_recorded heq]
  · exact (setFormat_of_supported hne hsup).returns.2 hallocates

/-- The depth stream accepts every mode with the right number of pixels. -/
theorem DepthStream.setVideoMode_of_pixels (s : DepthStream)
    (a : OniImageRegistrationMode → WrapperAnswers) (h : requestedMode.pixels = 307200) :
    ∃ d', s.setVideoMode d requestedMode a =
      ({ s with videoMode := requestedMode }, d', .ok .ok) := by
  have hfind : getSupportedVideoModes.find requestedMode = some (.mm, .medium) := by
    rw [getSupportedVideoModes, VideoModeMap.find_singleton, h]
    rfl
  let format : DepthFormat := if s.imageRegistrationMode = .depthToColor then .registered else .mm
  have hsup : (Mode.depth .medium format).Supported := by
    show (Mode.depth .medium (if _ then _ else _)).Supported
    split
    · decide
    · decide
  have hset : d.setDepthFormat format .medium (a s.imageRegistrationMode).depth
      (a s.imageRegistrationMode).tables = (_, none) :=
    Prod.ext rfl (FreenectDevice.setFormat_returns (a := a s.imageRegistrationMode) hsup trivial)
  rw [setVideoMode, hfind]
  dsimp only
  rw [hset]
  exact ⟨_, rfl⟩

/-- It refuses all others, and nothing is changed. -/
theorem DepthStream.setVideoMode_of_ne (s : DepthStream)
    (a : OniImageRegistrationMode → WrapperAnswers) (h : requestedMode.pixels ≠ 307200) :
    s.setVideoMode d requestedMode a = (s, d, .ok .notSupported) := by
  have hfind : getSupportedVideoModes.find requestedMode = none :=
    (VideoModeMap.find_singleton _ _ _).trans (if_neg h.symm)
  rw [setVideoMode, hfind]

/-- So does the color stream, if there is memory for the buffer; if there is not, the format has
been changed before that is found out. -/
theorem ColorStream.setVideoMode_of_pixels (s : ColorStream) (a : WrapperAnswers)
    (h : requestedMode.pixels = 307200) :
    (s.setVideoMode d requestedMode a).2.2 = .ok .ok ∨
      (s.setVideoMode d requestedMode a).2.1.recorded .video ≠ d.recorded .video := by
  have hfind : getSupportedVideoModes.find requestedMode = some (.rgb, .medium) := by
    rw [getSupportedVideoModes, VideoModeMap.find_singleton, h]
    rfl
  rw [setVideoMode, hfind]
  dsimp only
  rcases eq_or_ne (Mode.video .medium .rgb) (d.recorded .video) with heq | hne
  · rw [show d.setVideoFormat .rgb .medium a.video a.buffer = (d, none) from
      FreenectDevice.setFormat_of_recorded heq]
    exact Or.inl rfl
  · have hset : FreenectDevice.FormatSet d a (.video .medium .rgb)
        (d.setVideoFormat .rgb .medium a.video a.buffer) :=
      FreenectDevice.setFormat_of_supported hne (by decide)
    have hrecorded : (d.setVideoFormat .rgb .medium a.video a.buffer).1.recorded .video ≠
        d.recorded .video := fun heq ↦ hne (hset.recorded.symm.trans heq)
    split
    next => exact Or.inl rfl
    next d' hthrown =>
      rw [hthrown] at hrecorded
      exact Or.inr hrecorded
    next d' what hthrown =>
      rw [hthrown] at hrecorded
      exact Or.inr hrecorded

/-- It refuses all others as well. -/
theorem ColorStream.setVideoMode_of_ne (s : ColorStream) (a : WrapperAnswers)
    (h : requestedMode.pixels ≠ 307200) :
    s.setVideoMode d requestedMode a = (s, d, .ok .notSupported) := by
  have hfind : getSupportedVideoModes.find requestedMode = none :=
    (VideoModeMap.find_singleton _ _ _).trans (if_neg h.symm)
  rw [setVideoMode, hfind]

/-- What is common to the two streams: nothing happens for another number of pixels, and for the
right one there is success or another format. -/
theorem onlySupported_iff {φ : Type} {mode : OniVideoMode} {v : φ} {kind : StreamKind}
    {before after : VideoStream × FreenectDevice} {status : Except Thrown ModeStatus}
    (hne : requestedMode.pixels ≠ 307200 → after = before ∧ status = .ok .notSupported)
    (heq : requestedMode.pixels = 307200 →
      status = .ok .ok ∨ after.2.recorded kind ≠ before.2.recorded kind) :
    OnlySupported [(mode, v)] requestedMode kind before after status ↔
      requestedMode = mode ∨ requestedMode.pixels ≠ 307200 := by
  constructor
  · intro h
    refine or_iff_not_imp_right.2 fun hpixels ↦ ?_
    rcases heq (not_not.1 hpixels) with hok | hrecorded
    · exact List.mem_singleton.1 (h.accepted hok)
    · refine List.mem_singleton.1 (not_not.1 fun hmem ↦ ?_)
      exact hrecorded (h.rejected hmem).2.2
  · rintro (rfl | hpixels)
    · exact ⟨fun _ ↦ List.mem_singleton_self _, fun hmem ↦ absurd (List.mem_singleton_self _) hmem⟩
    · obtain ⟨rfl, rfl⟩ := hne hpixels
      exact ⟨nofun, fun _ ↦ ⟨rfl, rfl, rfl⟩⟩

end Calls

/-- **Only supported modes are accepted** exactly if the mode requested is the supported one, or has
another number of pixels. -/
theorem setVideoMode_onlySupported_iff (s : DepthStream) (c : ColorStream) (d : FreenectDevice)
    (requestedMode : OniVideoMode) (a : OniImageRegistrationMode → WrapperAnswers)
    (a' : WrapperAnswers) :
    (OnlySupported DepthStream.getSupportedVideoModes requestedMode .depth (s.toVideoStream, d)
        ((s.setVideoMode d requestedMode a).1.toVideoStream,
          (s.setVideoMode d requestedMode a).2.1)
        (s.setVideoMode d requestedMode a).2.2 ↔
      requestedMode = ⟨100, 640, 480, 30⟩ ∨
        requestedMode.resolutionX * requestedMode.resolutionY ≠ 307200) ∧
    (OnlySupported ColorStream.getSupportedVideoModes requestedMode .video (c.toVideoStream, d)
        ((c.setVideoMode d requestedMode a').1.toVideoStream,
          (c.setVideoMode d requestedMode a').2.1)
        (c.setVideoMode d requestedMode a').2.2 ↔
      requestedMode = ⟨200, 640, 480, 30⟩ ∨
        requestedMode.resolutionX * requestedMode.resolutionY ≠ 307200) := by
  constructor
  · refine onlySupported_iff (fun hne ↦ ?_) fun heq ↦ ?_
    · rw [s.setVideoMode_of_ne a hne]
      exact ⟨rfl, rfl⟩
    · obtain ⟨d', hset⟩ := s.setVideoMode_of_pixels (d := d) a heq
      rw [hset]
      exact Or.inl rfl
  · refine onlySupported_iff (fun hne ↦ ?_) (c.setVideoMode_of_pixels a')
    rw [c.setVideoMode_of_ne a' hne]
    exact ⟨rfl, rfl⟩

/-- Answers of a camera that does everything. -/
def willingAnswers : WrapperAnswers where
  video := ⟨videoMode .low .rgb 0 0 0 0 0 0, ⟨1, 2, videoMode .low .rgb 0 0 0 0 0 0⟩⟩
  buffer := 3
  depth := ⟨depthMode .d11Bit 0 0 0, ⟨4, 5, depthMode .d11Bit 0 0 0⟩⟩
  tables := ⟨6, 7, 8⟩

/-- Sixty frames a second are promised. -/
theorem setVideoMode_not_onlySupported :
    let s : DepthStream :=
      { VideoStream.new with
        videoMode := ⟨100, 640, 480, 30⟩
        imageRegistrationMode := .off }
    let d := FreenectDevice.opened .rgb .d11Bit
    let o := s.setVideoMode d ⟨100, 640, 480, 60⟩ fun _ ↦ willingAnswers
    ¬ OnlySupported DepthStream.getSupportedVideoModes ⟨100, 640, 480, 60⟩ .depth
      (s.toVideoStream, d) (o.1.toVideoStream, o.2.1) o.2.2 := by
  intro s d o h
  have hpixels : (⟨100, 640, 480, 60⟩ : OniVideoMode).pixels = 307200 := rfl
  obtain ⟨d', hset⟩ := s.setVideoMode_of_pixels (d := d) (fun _ ↦ willingAnswers) hpixels
  have hok : o.2.2 = .ok .ok := congrArg (fun o ↦ o.2.2) hset
  exact absurd (h.accepted hok) (by decide)

/-! ### The fallback -/

/-- The device has registered depth, so that the fallback is never taken. -/
theorem fallbackRuns (s : DepthStream) (d : FreenectDevice) (requestedMode : OniVideoMode)
    (a : OniImageRegistrationMode → WrapperAnswers) : FallbackRuns s d requestedMode a := by
  intro _ _ hthrown
  refine absurd ?_ hthrown
  exact FreenectDevice.setFormat_returns (a := a .depthToColor) (m := .depth .medium .registered)
    (by decide) trivial

/-- **A change of format keeps the stream** exactly if the mode is the one remembered, and the
device is in it; or else, if the stream is not running or can be started in that mode, which the
device has, and if there is memory for the buffer. -/
theorem setFormat_keepsStream_iff (d : FreenectDevice) (a : WrapperAnswers) (m : Mode) :
    (FreenectDevice.KeepsStream d m (d.setFormat a m) ∧
        ∀ s requestedMode a', FallbackRuns s d requestedMode a') ↔
      (m = d.recorded m.kind → d.dev.mode m.kind = m) ∧
      (m ≠ d.recorded m.kind →
        (d.running m.kind = true → m.Supported ∧ ¬ (m.HighResIr ∧ d.running .depth = true)) ∧
        (m.Supported → a.Allocates m.kind)) :=
  (and_iff_left fun s requestedMode a' ↦ fallbackRuns s d requestedMode a').trans
    FreenectDevice.keepsStream_iff

/-- A device in its first mode, whose color stream is started and then asked for a mode that there
is not. -/
theorem setFormat_not_keepsStream :
    let d := Mealy.run FreenectDevice.step (FreenectDevice.opened .rgb .d11Bit)
      [.startVideo willingAnswers.video.start]
    FreenectDevice.new .rgb .d11Bit willingAnswers = some (FreenectDevice.opened .rgb .d11Bit) ∧
      ¬ FreenectDevice.KeepsStream d (.video .high .yuvRgb)
        (d.setFormat willingAnswers (.video .high .yuvRgb)) := by
  intro d
  refine ⟨rfl, fun h ↦ ?_⟩
  have hstopped : false = true := (h.thrown nofun).1
  exact absurd hstopped Bool.false_ne_true

end Freenect
