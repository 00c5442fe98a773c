import Freenect.Device.Streaming

/-!
# High-resolution infrared and depth

The camera cannot send high-resolution infrared frames and depth frames at the same time.
`freenect_start_video` refuses to start in such a format while the depth stream runs;
`freenect_start_depth` does not look at the video stream. `exclusive_iff` says that this is the one
gap: two such streams run together exactly after a `freenect_start_depth` that got through it.

Nothing behind the guards helps. Once a start function has found its format acceptable it marks the
stream as running, also when libusb takes none of its transfers, so that only the format of the
depth stream is left to stop it. Each function is looked at once, for a state in which the two
streams exclude each other: `exclusive_startVideo` is where the guard is used, and in
`exclusive_startDepth_iff` what is missing there becomes the condition.
-/

namespace Freenect

/-- The infrared formats. -/
def VideoFormat.IsIr (fmt : VideoFormat) : Prop :=
  fmt = .ir8Bit ∨ fmt = .ir10Bit ∨ fmt = .ir10BitPacked

/-- The guard of `freenect_start_video`. -/
theorem videoAccepted_ir {fmt : VideoFormat} (h : fmt.IsIr) :
    videoAccepted fmt .high true = false := by
  rcases h with rfl | rfl | rfl <;> rfl

namespace OwnedStream

variable {φ : Type} {s : OwnedStream} {rlen plen : ℕ} {a : StartAnswers φ} {pbuf : Ptr}

/-- **A stream runs after its start**, whatever becomes of its transfers. -/
theorem start_running : (s.start rlen plen a).1.strm.running = true := rfl

/-- A new buffer neither starts nor stops a stream. -/
theorem setbuf_running : (s.setbuf pbuf).1.strm.running = s.strm.running :=
  streamSetbuf_running s.strm pbuf

end OwnedStream

namespace CameraDevice

/-- The video mode is high-resolution infrared. -/
def HighResIr (s : CameraDevice) : Prop := s.videoResolution = .high ∧ s.videoFormat.IsIr

/-- Depth and high-resolution infrared do not run together. -/
def Exclusive (s : CameraDevice) : Prop :=
  ¬ (s.depth.strm.running = true ∧ s.video.strm.running = true ∧ s.HighResIr)

/-- The call does not start depth next to high-resolution infrared: if it is a
`freenect_start_depth` made while such a video stream runs, the depth format is none. -/
def Harmless (s : CameraDevice) : Call → Prop
  | .startDepth _ _ => s.video.strm.running = true → s.HighResIr → s.depthFormat = .dummy
  | _ => True

variable {s : CameraDevice}

/-- With a stopped video stream there is nothing to exclude. -/
theorem exclusive_of_video (h : s.video.strm.running = false) : s.Exclusive := by
  rintro ⟨-, hv, -⟩
  rw [h] at hv
  cases hv

theorem exclusive_of_depth (h : s.depth.strm.running = false) : s.Exclusive := by
  rintro ⟨hd, -⟩
  rw [h] at hd
  cases hd

/-- The video mode is not changed while its stream runs. -/
theorem exclusive_setVideoMode (hs : s.Exclusive) (reserved : ℕ) :
    (s.setVideoMode reserved).1.Exclusive := by
  rw [setVideoMode]
  split
  next => exact hs
  next hrun =>
    split
    next => exact hs
    next => exact exclusive_of_video (Bool.eq_false_iff.2 hrun)

/-- The depth mode plays no part. -/
theorem exclusive_setDepthMode (hs : s.Exclusive) (reserved : ℕ) :
    (s.setDepthMode reserved).1.Exclusive := by
  rw [setDepthMode]
  split
  next => exact hs
  next hrun =>
    split
    next => exact hs
    next => exact exclusive_of_depth (Bool.eq_false_iff.2 hrun)

/-- **The video stream is guarded**: it is not started in a high-resolution infrared mode while the
depth stream runs. -/
theorem exclusive_startVideo (hs : s.Exclusive) (a : StartAnswers VideoFormat) :
    (s.startVideo a).1.Exclusive := by
  rw [startVideo]
  split
  next => exact hs
  next hrun =>
    dsimp only
    split
    next => exact exclusive_of_video (Bool.eq_false_iff.2 hrun)
    next haccepted =>
      rintro ⟨hdepth, -, hres, hir⟩
      refine haccepted ?_
      rw [show s.videoResolution = .high from hres, show s.depth.strm.running = true from hdepth]
      exact videoAccepted_ir hir

/-- **The depth stream is not.** -/
theorem exclusive_startDepth_iff (hs : s.Exclusive) (a : StartAnswers DepthFormat)
    (t : TableAnswers) : (s.startDepth a t).1.Exclusive ↔ s.Harmless (.startDepth a t) := by
  rw [startDepth]
  split
  next hrun => exact ⟨fun _ hvideo hir ↦ absurd ⟨hrun, hvideo, hir⟩ hs, fun _ ↦ hs⟩
  next hrun =>
    have hrun := Bool.eq_false_iff.2 hrun
    dsimp only
    split
    next hfmt =>
      have hdummy : s.depthFormat = .dummy := by
        cases h : s.depthFormat <;> rw [h] at hfmt <;> first | rfl | cases hfmt
      exact ⟨fun _ _ _ ↦ hdummy, fun _ ↦ exclusive_of_depth hrun⟩
    next raw fmt hfmt =>
      have hdummy : s.depthFormat ≠ .dummy := by
        intro h
        rw [h] at hfmt
        cases hfmt
      -- the depth stream runs afterwards: the video stream is never asked
      constructor
      · intro hexcl hvideo hir
        exact absurd ⟨OwnedStream.start_running, hvideo, hir⟩ hexcl
      · rintro hharmless ⟨-, hvideo, hir⟩
        exact hdummy (hharmless hvideo hir)

/-- One call keeps the exclusion exactly if it is harmless. -/
theorem exclusive_step_iff (s : CameraDevice) (call : Call) (hs : s.Exclusive) :
    (s.step call).1.Exclusive ↔ s.Harmless call := by
  cases call with
  | setVideoMode reserved =>
    exact iff_of_true (exclusive_setVideoMode hs reserved) trivial
  | setDepthMode reserved =>
    exact iff_of_true (exclusive_setDepthMode hs reserved) trivial
  | setVideoBuffer buf =>
    refine iff_of_true ?_ trivial
    rintro ⟨hdepth, hvideo, hir⟩
    exact hs ⟨hdepth, OwnedStream.setbuf_running.symm.trans hvideo, hir⟩
  | setDepthBuffer buf =>
    refine iff_of_true ?_ trivial
    rintro ⟨hdepth, hvideo, hir⟩
    exact hs ⟨OwnedStream.setbuf_running.symm.trans hdepth, hvideo, hir⟩
  | startVideo a => exact iff_of_true (exclusive_startVideo hs a) trivial
  | startDepth a t => exact exclusive_startDepth_iff hs a t
  | stopVideo =>
    exact iff_of_true (exclusive_of_video OwnedStream.stop_running) trivial
  | stopDepth =>
    exact iff_of_true (exclusive_of_depth OwnedStream.stop_running) trivial

/-- **When high-resolution infrared excludes depth**: all along a run exactly when no call of the
run starts the depth stream while the video stream runs in such a mode. -/
theorem exclusive_iff (calls : List Call) :
    (∀ k, (Mealy.run step opened (calls.take k)).Exclusive) ↔
      Mealy.Along step Harmless opened calls :=
  Mealy.always_iff_along exclusive_step_iff (exclusive_of_video rfl) calls

/-- High-resolution infrared, then depth: both streams run. -/
theorem depth_started_next_to_ir :
    ¬ (Mealy.run step opened
      [.setVideoMode (makeReserved Resolution.high.toNat VideoFormat.ir8Bit.toNat),
        .startVideo ⟨1, 2, videoMode .low .rgb 0 0 0 0 0 0⟩,
        .startDepth ⟨3, 4, depthMode .d11Bit 0 0 0⟩ ⟨5, 6, 7⟩]).Exclusive :=
  fun h ↦ h ⟨rfl, rfl, rfl, Or.inl rfl⟩

end CameraDevice

end Freenect
